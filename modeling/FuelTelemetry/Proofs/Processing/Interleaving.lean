import FuelTelemetry.Proofs.Processing.Backfill
import FuelTelemetry.Proofs.Processing.Latest

/-!
Sensors do not see each other. As long as the lookups answer by the ids alone, a reading belongs to
one sensor at most, whatever came before it, and what a run does for a sensor is what a run of the
readings of this sensor does: to its window, to its detector entry, in the results of its readings
and in the activities announced for it.
-/

namespace FuelTelemetry

variable {σ : Type}

def Collaborators.sensorOf (c : Collaborators σ) (world : σ) (r : Reading) : Option SensorKey :=
  match (c.linkedSensors r.device world).1 with
  | .ok (some linked) => (LinkedSensor.identify linked r).map (⟨r.device, ·⟩)
  | _ => none

theorem Collaborators.Steady.sensorOf_eq {c : Collaborators σ} (h : c.Steady) (world other : σ) :
    c.sensorOf world = c.sensorOf other := by
  funext r
  unfold sensorOf
  rw [h.registry r.device world other]

theorem Collaborators.sensorOf_of_assign {c : Collaborators σ} {r : Reading} {world : σ}
    {a : Assignment} (h : (c.assign r world).1 = .ok a) : c.sensorOf world r = some a.key := by
  rw [assign_fst] at h
  cases Assignment.grounded_of_ofAnswers h with
  | keep looked identified _ => simp only [sensorOf, looked, identified, Option.map_some]
  | enter looked identified _ _ => simp only [sensorOf, looked, identified, Option.map_some]

def Activity.isAt (a : Activity) (key : SensorKey) : Bool :=
  a.device = some key.device && a.sensor = some key.sensor

theorem Activity.isAt_located (a : Activity) (key other : SensorKey) :
    (a.located key).isAt other = true ↔ key = other := by
  cases key
  cases other
  simp [isAt, located]

namespace Processor

/-- Two processors with the same settings and the same track of a sensor. -/
structure Beside (key : SensorKey) (p q : Processor) : Prop where
  settings : p.settings = q.settings
  track : p.track key = q.track key

variable {key : SensorKey} {p q : Processor} {mode : Mode} {r : Reading}
  {given : Except Outcome Assignment}

theorem Beside.carryOut (h : p.Beside key q) (mode : Mode)
    (own : ∀ a, given = .ok a → a.key = key) :
    (p.carryOut mode r given).1.Beside key (q.carryOut mode r given).1 ∧
      (p.carryOut mode r given).2 = (q.carryOut mode r given).2 := by
  cases given with
  | error outcome => exact ⟨h, rfl⟩
  | ok a =>
    obtain rfl := own a rfl
    have same : a.perform p.settings mode r (p.track a.key) =
        a.perform q.settings mode r (q.track a.key) := by rw [h.settings, h.track]
    have result := congrArg Prod.snd same
    refine ⟨⟨h.settings, ?_⟩, result⟩
    simp only [Processor.carryOut, onTrack_track_self]
    exact congrArg Prod.fst same

theorem Beside.carryOut_foreign (h : p.Beside key q) (foreign : ∀ a, given = .ok a → a.key ≠ key) :
    (p.carryOut mode r given).1.Beside key q := by
  cases given with
  | error outcome => exact h
  | ok a =>
    refine ⟨h.settings, ?_⟩
    simp only [Processor.carryOut]
    rw [onTrack_track_of_ne (Ne.symm (foreign a rfl)), h.track]

variable {c : Collaborators σ}

theorem Beside.process (h : p.Beside key q) (mode : Mode) (steady : c.Steady) {world : σ}
    (own : c.sensorOf world r = some key) (here there : σ × List Activity) :
    (p.process c.journaled mode r here).1.1.Beside key (q.process c.journaled mode r there).1.1 ∧
      (p.process c.journaled mode r here).1.2 = (q.process c.journaled mode r there).1.2 ∧
      ∃ sent : List Activity, (∀ a ∈ sent, a.isAt key) ∧
        (p.process c.journaled mode r here).2.2 = here.2 ++ sent ∧
        (q.process c.journaled mode r there).2.2 = there.2 ++ sent := by
  obtain ⟨here, before⟩ := here
  obtain ⟨there, before'⟩ := there
  have toKey : ∀ a, (c.assign r here).1 = .ok a → a.key = key := by
    intro a assigned
    have at_key := Collaborators.sensorOf_of_assign assigned
    rw [steady.sensorOf_eq here world, own] at at_key
    exact (Option.some.inj at_key).symm
  simp only [process_journaled, process_fst, steady.assign_eq r there here]
  obtain ⟨beside, result⟩ := h.carryOut (r := r) mode toKey
  refine ⟨beside, result, _, fun a announced => ?_, rfl, by rw [result]⟩
  rw [Option.mem_toList] at announced
  obtain ⟨given, assigned, b, -, rfl⟩ := carryOut_located (c.assign_assigned r here) announced
  exact (b.isAt_located _ _).2 (toKey given assigned)

theorem Beside.process_foreign (h : p.Beside key q) (mode : Mode) (steady : c.Steady) {world : σ}
    (foreign : c.sensorOf world r ≠ some key) (here : σ × List Activity) :
    (p.process c.journaled mode r here).1.1.Beside key q ∧
      (p.process c.journaled mode r here).2.2.filter (·.isAt key) = here.2.filter (·.isAt key) := by
  obtain ⟨here, before⟩ := here
  have elsewhere : ∀ a, (c.assign r here).1 = .ok a → a.key ≠ key := by
    rintro a assigned rfl
    have at_key := Collaborators.sensorOf_of_assign assigned
    rw [steady.sensorOf_eq here world] at at_key
    exact foreign at_key
  simp only [process_journaled, process_fst, List.filter_append]
  refine ⟨h.carryOut_foreign elsewhere, ?_⟩
  refine (congrArg (before.filter _ ++ ·) (List.filter_eq_nil_iff.2 ?_)).trans (List.append_nil _)
  intro a announced
  rw [Option.mem_toList] at announced
  obtain ⟨given, assigned, b, -, rfl⟩ := carryOut_located (c.assign_assigned r here) announced
  rw [b.isAt_located]
  exact elsewhere given assigned

def resultsOf (c : Collaborators σ) (world : σ) (key : SensorKey) (xs : List Submission)
    (log : List Handling) : List Result :=
  ((xs.zip log).filter fun x => c.sensorOf world x.1.reading = some key).map (·.2.result)

def submissionsOf (c : Collaborators σ) (world : σ) (key : SensorKey) (xs : List Submission) :
    List Submission :=
  xs.filter fun x => c.sensorOf world x.reading = some key

theorem Beside.run (h : p.Beside key q) (steady : c.Steady) (world : σ) (xs : List Submission)
    (here there : σ × List Activity) :
    (p.run c.journaled here xs).1.1.Beside key
        (q.run c.journaled there (submissionsOf c world key xs)).1.1 ∧
      resultsOf c world key xs (p.run c.journaled here xs).1.2 =
        (q.run c.journaled there (submissionsOf c world key xs)).1.2.map (·.result) ∧
      ∃ sent : List Activity,
        (p.run c.journaled here xs).2.2.filter (·.isAt key) =
          here.2.filter (·.isAt key) ++ sent ∧
        (q.run c.journaled there (submissionsOf c world key xs)).2.2 = there.2 ++ sent := by
  -- both runs stand at the same track: a reading of the sensor moves both, any other the first
  induction xs generalizing p q here there with
  | nil => exact ⟨h, rfl, [], by simp [Processor.run], by simp [Processor.run, submissionsOf]⟩
  | cons x rest ih =>
    by_cases own : c.sensorOf world x.reading = some key
    · obtain ⟨beside, result, sent, located, sentHere, sentThere⟩ :=
        h.process x.mode steady own here there
      obtain ⟨track, results, more, restHere, restThere⟩ := ih beside
        (p.process c.journaled x.mode x.reading here).2
        (q.process c.journaled x.mode x.reading there).2
      have kept : submissionsOf c world key (x :: rest) =
          x :: submissionsOf c world key rest := List.filter_cons_of_pos (by simpa using own)
      rw [kept]
      refine ⟨track, ?_, sent ++ more, ?_, ?_⟩
      · simp only [resultsOf, Processor.run, List.zip_cons_cons, List.map_cons]
        rw [List.filter_cons_of_pos (by simpa using own), List.map_cons, result]
        exact congrArg (_ :: ·) results
      · simp only [Processor.run]
        rw [restHere, sentHere, List.filter_append, List.filter_eq_self.2 located,
          List.append_assoc]
      · simp only [Processor.run]
        rw [restThere, sentThere, List.append_assoc]
    · obtain ⟨beside, unsent⟩ := h.process_foreign x.mode steady own here
      obtain ⟨track, results, more, restHere, restThere⟩ := ih beside
        (p.process c.journaled x.mode x.reading here).2 there
      have dropped : submissionsOf c world key (x :: rest) = submissionsOf c world key rest :=
        List.filter_cons_of_neg (by simpa using own)
      rw [dropped]
      refine ⟨track, ?_, more, ?_, restThere⟩
      · simp only [resultsOf, Processor.run, List.zip_cons_cons]
        rw [List.filter_cons_of_neg (by simpa using own)]
        exact results
      · simp only [Processor.run]
        rw [restHere, unsent]

structure Shown where
  window : Window
  armed : Option Armed
  results : List Result
  announced : List Activity

def shown (c : Collaborators σ) (p : Processor) (world : σ) (key : SensorKey)
    (xs : List Submission) : Shown :=
  let done := p.run c.journaled (world, []) xs
  { window := done.1.1.windows.window key
    armed := done.1.1.detector.get? key
    results := resultsOf c world key xs done.1.2
    announced := done.2.2.filter (·.isAt key) }

def shownAlone (c : Collaborators σ) (p : Processor) (world : σ) (key : SensorKey)
    (xs : List Submission) : Shown :=
  let done := p.run c.journaled (world, []) xs
  { window := done.1.1.windows.window key
    armed := done.1.1.detector.get? key
    results := done.1.2.map (·.result)
    announced := done.2.2 }

theorem shown_eq (steady : c.Steady) (p : Processor) (world : σ) (key : SensorKey)
    (xs : List Submission) :
    p.shown c world key xs = p.shownAlone c world key (submissionsOf c world key xs) := by
  have same : p.Beside key p := ⟨rfl, rfl⟩
  obtain ⟨beside, results, sent, here, there⟩ := same.run steady world xs (world, []) (world, [])
  simp only [shown, shownAlone, Shown.mk.injEq]
  exact ⟨congrArg Track.window beside.track, congrArg Track.armed beside.track, results,
    here.trans there.symm⟩

/-- What a run shows of a sensor is all that a run of the readings of this sensor does. So it is the
same however these are interleaved with those of other sensors. -/
theorem shown_of_sensor (steady : c.Steady) (p : Processor) (world : σ) (key : SensorKey)
    (xs : List Submission) :
    p.shown c world key xs = p.shownAlone c world key (submissionsOf c world key xs) ∧
      ∀ ys, submissionsOf c world key ys = submissionsOf c world key xs →
        p.shown c world key ys = p.shown c world key xs := by
  refine ⟨shown_eq steady p world key xs, fun ys same => ?_⟩
  rw [shown_eq steady, shown_eq steady, same]

end Processor

def InMemory.twoTanks : InMemory :=
  { oneTank with
    sensors := [(1, [⟨7, LinkedSensor.analogFuel⟩]), (2, [⟨7, LinkedSensor.analogFuel⟩])]
    curves := [(⟨1, 7⟩, [⟨0, 0.0, 10.0⟩]), (⟨2, 7⟩, [⟨0, 0.0, 20.0⟩])] }

def Submission.bothTanks (secondFirst : Bool) : List Submission :=
  let first : Submission := ⟨.live, .ofTank 1 (some 100) none⟩
  let second : Submission := ⟨.live, { Reading.ofTank 1 (some 100) none with device := 2 }⟩
  if secondFirst then [second, first] else [first, second]

namespace Processor

theorem shown_of_sensor_twoTanks :
    (InMemory.collaborators.frozen .twoTanks).Steady ∧
      submissionsOf (InMemory.collaborators.frozen .twoTanks) .twoTanks ⟨1, 7⟩
          (Submission.bothTanks true) =
        submissionsOf (InMemory.collaborators.frozen .twoTanks) .twoTanks ⟨1, 7⟩
          (Submission.bothTanks false) ∧
      (new .fourAtOnce).shown (InMemory.collaborators.frozen .twoTanks) .twoTanks ⟨1, 7⟩
          (Submission.bothTanks true) =
        (new .fourAtOnce).shown (InMemory.collaborators.frozen .twoTanks) .twoTanks ⟨1, 7⟩
          (Submission.bothTanks false) := by
  have steady := InMemory.collaborators.steady_frozen .twoTanks
  have same : submissionsOf (InMemory.collaborators.frozen .twoTanks) .twoTanks ⟨1, 7⟩
      (Submission.bothTanks true) = submissionsOf (InMemory.collaborators.frozen .twoTanks)
        .twoTanks ⟨1, 7⟩ (Submission.bothTanks false) := rfl
  exact ⟨steady, same, (shown_of_sensor steady (new .fourAtOnce) .twoTanks ⟨1, 7⟩ _).2 _ same⟩

end Processor

end FuelTelemetry

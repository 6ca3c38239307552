import FuelTelemetry.Ledger.Collaborators
import FuelTelemetry.Proofs.Processing.Latest

/-!
Processing with the ledger as surroundings. It adds activities to the ledger and leaves all other
tables alone, so the assignment of a reading stays what it is. After a run in which nothing
unexpected happens each window holds the readings that are to be kept there, among those that the
run gave back. The others that were given back come to the same when they are processed again.
-/

namespace FuelTelemetry

namespace Ledger

structure Alike (l l' : Ledger) : Prop where
  sensors : l'.sensors = l.sensors
  curves : l'.curves = l.curves

structure UpToActivities (l l' : Ledger) : Prop extends Alike l l' where
  positions : l'.positions = l.positions

theorem Alike.trans {a b c : Ledger} (h : a.Alike b) (h' : b.Alike c) : a.Alike c :=
  ⟨h'.sensors.trans h.sensors, h'.curves.trans h.curves⟩

theorem UpToActivities.refl (l : Ledger) : l.UpToActivities l := ⟨⟨rfl, rfl⟩, rfl⟩

theorem UpToActivities.trans {a b c : Ledger} (h : a.UpToActivities b) (h' : b.UpToActivities c) :
    a.UpToActivities c :=
  ⟨h.toAlike.trans h'.toAlike, h'.positions.trans h.positions⟩

theorem storeActivities_ok {l l' : Ledger} {activities : List Activity}
    (h : l.storeActivities activities = .ok l') : l.UpToActivities l' := by
  obtain ⟨table, -, h⟩ := Except.bind_ok h
  obtain rfl := Except.ok.inj h
  exact ⟨⟨rfl, rfl⟩, rfl⟩

theorem publish_ok {l l' : Ledger} {a : Activity} (h : l.publish a = .ok l') :
    l.UpToActivities l' := by
  unfold publish at h
  split at h
  · rename_i stored
    obtain rfl := Except.ok.inj h
    exact storeActivities_ok stored
  · cases h

theorem announce_eq (l : Ledger) (a : Activity) :
    collaborators.announce a l = (collaborators.publish a l).2 := by
  unfold Collaborators.announce Collaborators.tell
  rcases a.record [] .atOnce with fault | _ | record <;> rfl

theorem announce_upToActivities (l : Ledger) (a : Activity) :
    l.UpToActivities (collaborators.announce a l) := by
  rw [announce_eq]
  simp only [collaborators]
  split
  · rename_i delivered
    exact publish_ok delivered
  · exact .refl l

def assignment (l : Ledger) (r : Reading) : Except Outcome Assignment :=
  (collaborators.assign r l).1

theorem assignment_assigned (l : Ledger) (r : Reading) : Assigned r (l.assignment r) :=
  collaborators.assign_assigned r l

theorem assign_eq (l : Ledger) (r : Reading) : collaborators.assign r l = (l.assignment r, l) := by
  refine Prod.ext rfl ?_
  unfold Collaborators.assign
  simp only [collaborators]
  cases l.linkedSensors r.device with
  | error fault => rfl
  | ok linked =>
    cases route : r.route linked with
    | error reason => simp only [route]
    | ok route' =>
      simp only [route]
      split
      · rfl
      · rcases l.calibration ⟨r.device, route'.sensor⟩ with fault | _ | curve <;> rfl

theorem process_eq (p : Processor) (mode : Mode) (r : Reading) (l : Ledger) :
    (p.process collaborators mode r l).1 = p.carryOut mode r (l.assignment r) :=
  Processor.process_fst collaborators p mode r l

theorem process_upToActivities (p : Processor) (mode : Mode) (r : Reading) (l : Ledger) :
    l.UpToActivities (p.process collaborators mode r l).2 := by
  rw [Processor.process_snd, assign_eq]
  split
  · exact announce_upToActivities l _
  · exact .refl l

theorem processAll_upToActivities (p : Processor) (mode : Mode) (rs : List Reading) (l : Ledger) :
    l.UpToActivities (p.processAll collaborators mode l rs).2 := by
  induction rs generalizing p l with
  | nil => exact .refl l
  | cons r rest ih => exact (process_upToActivities p mode r l).trans (ih _ _)

theorem Alike.assignment_eq {l l' : Ledger} (h : l.Alike l') : l'.assignment = l.assignment := by
  funext r
  refine collaborators.assign_of_answers ?_ fun key => ?_
  · simp only [collaborators, linkedSensors, h.sensors]
  · simp only [collaborators, calibration, h.curves]

def keeps (l : Ledger) (key : SensorKey) (r : Reading) : Bool :=
  match l.assignment r with
  | .ok ⟨own, .keep⟩ => own = key
  | _ => false

theorem keeps_of_keep {l : Ledger} {r : Reading} {own : SensorKey}
    (given : l.assignment r = .ok ⟨own, .keep⟩) (key : SensorKey) :
    l.keeps key r = decide (own = key) := by
  rw [keeps, given]

theorem Alike.keeps_eq {l l' : Ledger} (h : l.Alike l') : l'.keeps = l.keeps := by
  funext key r
  rw [keeps, keeps, h.assignment_eq]

/-- What is to be done again with readings that were given back. -/
inductive Settled : Except Outcome Assignment → Prop
  | keep (key : SensorKey) : Settled (.ok ⟨key, .keep⟩)
  | refuse {outcome : Outcome} (expected : outcome.reason ≠ some "unexpected_error") :
    Settled (.error outcome)
  | fail {key : SensorKey} {curve : Curve} {raw : RawValue} {fault : Fault}
    (unlevelled : curve.level raw.points = .error fault) (expected : fault.isCalibration = true) :
    Settled (.ok ⟨key, .enter curve raw⟩)

variable {s : Settings} {p : Processor} {mode : Mode} {l : Ledger} {r : Reading}

theorem carryOut_settled (sound : p.Sound s) (dated : r.time.isSome)
    (expected : (p.carryOut mode r (l.assignment r)).2.outcome.reason ≠ some "unexpected_error") :
    Settled (l.assignment (p.carryOut mode r (l.assignment r)).2.reading) ∧
      ∀ key, (if (l.assignment r).toOption.map (·.key) = some key then
          (p.carryOut mode r (l.assignment r)).2.taken else []) =
        [(p.carryOut mode r (l.assignment r)).2.reading].filter (l.keeps key) := by
  obtain ⟨time, ht⟩ := Option.isSome_iff_exists.1 dated
  obtain rfl := sound.settings
  cases given : l.assignment r with
  | error outcome =>
    rw [given] at expected
    change Settled (l.assignment r) ∧ _
    rw [given]
    exact ⟨.refuse expected, fun key => by simp [Processor.carryOut, Except.toOption, keeps, given]⟩
  | ok a =>
    obtain ⟨own, work⟩ := a
    have result : (p.carryOut mode r (.ok ⟨own, work⟩)).2 =
        (Assignment.perform ⟨own, work⟩ p.settings mode r (p.track own)).2 := rfl
    rw [given] at expected
    rw [result] at expected ⊢
    cases work with
    | keep =>
      have kept := Track.keep_eq (t := p.track own) (sound.windows own) ht
      simp only [Assignment.perform, kept]
      refine ⟨given ▸ .keep own, fun key => ?_⟩
      by_cases same : own = key <;>
        simp [keeps_of_keep given, Except.toOption, Result.taken, Outcome.accepted, same]
    | enter curve raw =>
      have entered := Track.enter_entered (t := p.track own) (sound.windows own) ht own mode curve
        raw
      simp only [Assignment.perform] at expected ⊢
      generalize (p.track own).enter p.settings own mode curve raw r = after at *
      rcases entered.of_expected (sound.windows own) expected with
        ⟨fault, failed, calibration, rfl⟩ | ⟨mean, armed, activity, rfl⟩
      · refine ⟨given ▸ .fail failed calibration, fun key => ?_⟩
        simp [keeps, given, Result.taken, Outcome.accepted]
      · have again : l.assignment (r.withLevel mean) = .ok ⟨own, .keep⟩ :=
          Collaborators.assign_withLevel given mean
        refine ⟨again ▸ .keep own, fun key => ?_⟩
        by_cases same : own = key <;>
          simp [keeps_of_keep again, Except.toOption, Result.taken, Outcome.accepted, same]

theorem Settled.carryOut {given : Except Outcome Assignment} (settled : Settled given)
    (sound : p.Sound s) (mode : Mode) (dated : r.time.isSome) :
    (p.carryOut mode r given).2.reading = r ∧
      (p.carryOut mode r given).2.outcome.reason ≠ some "unexpected_error" := by
  obtain ⟨time, ht⟩ := Option.isSome_iff_exists.1 dated
  obtain rfl := sound.settings
  cases settled with
  | keep key =>
    have kept := congrArg Prod.snd (Track.keep_eq (t := p.track key) (sound.windows key) ht)
    change (p.carryOut mode r (.ok ⟨key, .keep⟩)).2 = _ at kept
    rw [kept]
    exact ⟨rfl, by simp [Outcome.reason]⟩
  | refuse expected => exact ⟨rfl, expected⟩
  | @fail key curve raw fault failed calibration =>
    have unlevelled := (Track.levelled_error_iff (r := r) (sound.windows key)).2 (.inl failed)
    have refused := Track.enter_of_unlevelled (t := p.track key) unlevelled key mode
    simp only [Processor.carryOut, Processor.onTrack, Assignment.perform, refused]
    exact ⟨trivial, Outcome.expected_failed_iff.2 calibration⟩

/-- After an expected run each window holds the readings given back that are to be kept there. -/
theorem holds_processAll (sound : p.Sound s) {rs : List Reading}
    (dated : ∀ r ∈ rs, r.time.isSome)
    (expected : ∀ done ∈ (p.processAll collaborators mode l rs).1.2,
      done.outcome.reason ≠ some "unexpected_error") :
    (∀ done ∈ (p.processAll collaborators mode l rs).1.2, Settled (l.assignment done.reading)) ∧
      ∀ key before, (p.windows.window key).Holds s.capacity before →
        ((p.processAll collaborators mode l rs).1.1.windows.window key).Holds s.capacity
          (before ++ ((p.processAll collaborators mode l rs).1.2.map (·.reading)).filter
            (l.keeps key)) := by
  induction rs generalizing p l with
  | nil => simp [Processor.processAll]
  | cons r rest ih =>
    have first := dated r List.mem_cons_self
    have alike := (process_upToActivities p mode r l).toAlike
    simp only [Processor.processAll, List.forall_mem_cons, List.map_cons] at expected ⊢
    simp only [process_eq] at expected ⊢
    obtain ⟨settled, kept⟩ := carryOut_settled sound first expected.1
    have assigned := l.assignment_assigned r
    obtain ⟨others, held⟩ := ih (sound.carryOut assigned first)
      (fun x hx => dated x (List.mem_cons_of_mem r hx)) expected.2
    rw [alike.assignment_eq] at others
    rw [alike.keeps_eq] at held
    refine ⟨⟨settled, others⟩, fun key before holds => ?_⟩
    have step := sound.holds_carryOut assigned first (fun _ => expected.1) holds
    rw [kept key] at step
    rw [← List.singleton_append, List.filter_append, ← List.append_assoc]
    exact held key _ step

theorem processAll_settled (sound : p.Sound s) (mode : Mode) {rs : List Reading}
    (dated : ∀ r ∈ rs, r.time.isSome) (settled : ∀ r ∈ rs, Settled (l.assignment r)) :
    (p.processAll collaborators mode l rs).1.2.map (·.reading) = rs ∧
      ∀ done ∈ (p.processAll collaborators mode l rs).1.2,
        done.outcome.reason ≠ some "unexpected_error" := by
  induction rs generalizing p l with
  | nil => simp [Processor.processAll]
  | cons r rest ih =>
    have first := dated r List.mem_cons_self
    have alike := (process_upToActivities p mode r l).toAlike
    simp only [Processor.processAll, List.forall_mem_cons, List.map_cons]
    simp only [process_eq]
    have assigned := l.assignment_assigned r
    obtain ⟨reading, expected⟩ := (settled r List.mem_cons_self).carryOut sound mode first
    have others : ∀ x ∈ rest, Settled ((p.process collaborators mode r l).2.assignment x) :=
      fun x hx => alike.assignment_eq ▸ settled x (List.mem_cons_of_mem r hx)
    obtain ⟨readings, expectedAll⟩ := ih (sound.carryOut assigned first)
      (fun x hx => dated x (List.mem_cons_of_mem r hx)) others
    exact ⟨by rw [reading, readings], expected, expectedAll⟩

end Ledger

end FuelTelemetry

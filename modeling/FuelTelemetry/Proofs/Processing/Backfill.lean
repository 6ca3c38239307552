import FuelTelemetry.Proofs.Processing.Reachable

/-!
Backfill beside live processing. Both modes level and insert alike, and only live readings are
looked at for activities. Where the detection sample is larger than the average is to have, that
look refuses nothing: a reading whose time cannot be reckoned with does not get past its average.
So two runs over the same readings agree, as long as the lookups answer alike in both.
-/

namespace FuelTelemetry

open Time (Instant)

def Result.Agrees (a b : Result) : Prop :=
  a.reading = b.reading ∧ a.outcome.status = b.outcome.status ∧ a.outcome.reason = b.outcome.reason

namespace Track

variable {s : Settings} {t : Track} {curve : Curve} {points : Int} {r : Reading} {time : Instant}

/-- The detection sample needs no bounds that the average did not need. -/
theorem Entered.not_withdrawn (sound : t.window.Sound s.capacity)
    (larger : s.averageSize < s.sampleSize) {level : Reading} {fault : Fault}
    (ok : levelled s t.window curve points r = .ok level)
    (seeks : (t.window.receive s.capacity time level).Seeks r s.sampleSize) :
    s.reach.bounds r ≠ .error fault := by
  intro lost
  have unsought := unsought_of_levelled sound ok lost
  rcases seeks with replayed | large
  · exact unsought (.inl replayed)
  · rw [sound.size_receive] at large
    exact unsought (.inr (by omega))

theorem Entered.agrees {live quiet : Track × Result}
    (h : Entered s .live curve points t r time live)
    {other : Track} (same : t.window = other.window)
    (h' : Entered s .backfill curve points other r time quiet) (sound : t.window.Sound s.capacity)
    (larger : s.averageSize < s.sampleSize) :
    live.1.window = quiet.1.window ∧ live.2.Agrees quiet.2 ∧ quiet.1.armed = other.armed ∧
      quiet.2.outcome.activity = none := by
  cases h with
  | refused unlevelled =>
    rw [same] at unlevelled
    cases h' with
    | refused unlevelled' =>
      obtain ⟨⟩ := unlevelled.symm.trans unlevelled'
      exact ⟨same, ⟨rfl, rfl, rfl⟩, rfl, rfl⟩
    | taken level' _ _ => cases unlevelled.symm.trans level'
    | withdrawn _ live _ _ _ _ => cases live
  | taken level _ _ =>
    rw [same] at level
    cases h' with
    | refused unlevelled' => cases level.symm.trans unlevelled'
    | taken level' quiet _ =>
      have means := Except.ok.inj (level.symm.trans level')
      simp only [means, same]
      exact ⟨trivial, ⟨rfl, rfl, rfl⟩, quiet rfl⟩
    | withdrawn _ live _ _ _ _ => cases live
  | withdrawn level _ seeks lost _ _ => exact absurd lost (not_withdrawn sound larger level seeks)

end Track

theorem Assignment.perform_agrees {s : Settings} {r : Reading} {a : Assignment}
    (assigned : Assigned r (.ok a)) (dated : r.time.isSome) (t other : Track)
    (same : t.window = other.window) (sound : t.window.Sound s.capacity)
    (larger : s.averageSize < s.sampleSize) :
    (a.perform s .live r t).1.window = (a.perform s .backfill r other).1.window ∧
      (a.perform s .live r t).2.Agrees (a.perform s .backfill r other).2 ∧
      (a.perform s .backfill r other).1.armed = other.armed ∧
      (a.perform s .backfill r other).2.outcome.activity = none := by
  obtain ⟨time, ht⟩ := Option.isSome_iff_exists.1 dated
  have sound' : other.window.Sound s.capacity := same ▸ sound
  cases assigned with
  | keep _ _ =>
    simp only [perform, Track.keep_eq sound ht, Track.keep_eq sound' ht, same]
    exact ⟨trivial, ⟨rfl, rfl, rfl⟩, trivial, rfl⟩
  | @enter key curve raw _ _ =>
    have live := Track.enter_entered sound ht key .live curve raw
    have quiet := Track.enter_entered sound' ht key .backfill curve raw
    exact live.agrees same quiet sound larger

structure Collaborators.Steady {σ : Type} (c : Collaborators σ) : Prop where
  registry : ∀ device world other,
    (c.linkedSensors device world).1 = (c.linkedSensors device other).1
  calibration : ∀ key world other, (c.calibration key world).1 = (c.calibration key other).1

theorem Collaborators.Steady.assign_eq {σ : Type} {c : Collaborators σ} (h : c.Steady) (r : Reading)
    (world other : σ) : (c.assign r world).1 = (c.assign r other).1 :=
  c.assign_of_answers (h.registry r.device world other) fun key => h.calibration key _ _

def Collaborators.frozen {σ : Type} (c : Collaborators σ) (world : σ) : Collaborators σ :=
  { c with
    linkedSensors := fun device now => ((c.linkedSensors device world).1, now)
    calibration := fun key now => ((c.calibration key world).1, now) }

theorem Collaborators.steady_frozen {σ : Type} (c : Collaborators σ) (world : σ) :
    (c.frozen world).Steady :=
  ⟨fun _ _ _ => rfl, fun _ _ _ => rfl⟩

theorem Collaborators.Steady.journaled {σ : Type} {c : Collaborators σ} (h : c.Steady) :
    c.journaled.Steady where
  registry device world other := h.registry device world.1 other.1
  calibration key world other := h.calibration key world.1 other.1

namespace Processor

variable {s : Settings} {p q : Processor} {r : Reading}

structure Agrees (p q : Processor) : Prop where
  settings : p.settings = q.settings
  windows : ∀ key, p.windows.window key = q.windows.window key

theorem Agrees.onTrack (h : p.Agrees q) {key : SensorKey} {step step' : Track → Track × Result}
    (same : (step (p.track key)).1.window = (step' (q.track key)).1.window) :
    (p.onTrack key step).1.Agrees (q.onTrack key step').1 where
  settings := h.settings
  windows other := by
    by_cases own : other = key
    · subst own
      rw [onTrack_window_self, onTrack_window_self, same]
    · rw [onTrack_window_of_ne own, onTrack_window_of_ne own, h.windows other]

theorem Agrees.carryOut (h : p.Agrees q) (sound : p.Sound s) (larger : s.averageSize < s.sampleSize)
    {given : Except Outcome Assignment} (assigned : Assigned r given) (dated : r.time.isSome) :
    (p.carryOut .live r given).1.Agrees (q.carryOut .backfill r given).1 ∧
      (p.carryOut .live r given).2.Agrees (q.carryOut .backfill r given).2 ∧
      (∀ key, (q.carryOut .backfill r given).1.detector.get? key = q.detector.get? key) ∧
      (q.carryOut .backfill r given).2.outcome.activity = none := by
  cases given with
  | error outcome => cases assigned <;> exact ⟨h, ⟨rfl, rfl, rfl⟩, fun _ => rfl, rfl⟩
  | ok a =>
    obtain rfl := sound.settings
    obtain ⟨window, result, armed, silent⟩ := Assignment.perform_agrees assigned dated
      (p.track a.key) (q.track a.key) (h.windows a.key) (sound.windows a.key) larger
    simp only [Processor.carryOut, ← h.settings]
    exact ⟨h.onTrack window, result, onTrack_armed armed, silent⟩

variable {σ : Type}

theorem Agrees.process (h : p.Agrees q) (sound : p.Sound s) (larger : s.averageSize < s.sampleSize)
    {c : Collaborators σ} (steady : c.Steady) (dated : r.time.isSome) (world other : σ) :
    (p.process c .live r world).1.1.Agrees (q.process c .backfill r other).1.1 ∧
      (p.process c .live r world).1.2.Agrees (q.process c .backfill r other).1.2 ∧
      (∀ key, (q.process c .backfill r other).1.1.detector.get? key = q.detector.get? key) ∧
      (q.process c .backfill r other).1.2.outcome.activity = none := by
  simp only [process_fst, steady.assign_eq r world other]
  exact h.carryOut sound larger (c.assign_assigned r other) dated

theorem process_journal_of_silent {c : Collaborators σ} {mode : Mode} {world : σ × List Activity}
    (silent : (p.process c.journaled mode r world).1.2.outcome.activity = none) :
    (p.process c.journaled mode r world).2.2 = world.2 := by
  rw [process_journaled] at silent ⊢
  simp [silent]

theorem Agrees.processAll (h : p.Agrees q) (sound : p.Sound s)
    (larger : s.averageSize < s.sampleSize) {c : Collaborators σ} (steady : c.Steady)
    {rs : List Reading} (dated : ∀ r ∈ rs, r.time.isSome) (world other : σ × List Activity) :
    (p.processAll c.journaled .live world rs).1.1.Agrees
        (q.processAll c.journaled .backfill other rs).1.1 ∧
      List.Forall₂ Result.Agrees (p.processAll c.journaled .live world rs).1.2
        (q.processAll c.journaled .backfill other rs).1.2 ∧
      (∀ key, (q.processAll c.journaled .backfill other rs).1.1.detector.get? key =
        q.detector.get? key) ∧
      (q.processAll c.journaled .backfill other rs).2.2 = other.2 := by
  induction rs generalizing p q world other with
  | nil => exact ⟨h, .nil, fun _ => rfl, rfl⟩
  | cons r rest ih =>
    have first := dated r List.mem_cons_self
    have others : ∀ x ∈ rest, x.time.isSome := fun x hx => dated x (List.mem_cons_of_mem r hx)
    obtain ⟨agrees, result, armed, silent⟩ :=
      h.process sound larger steady.journaled first world other
    obtain ⟨agreesAll, results, armedAll, journal⟩ := ih agrees
      (sound.process c.journaled .live first world) others
      (p.process c.journaled .live r world).2 (q.process c.journaled .backfill r other).2
    exact ⟨agreesAll, .cons result results, fun key => (armedAll key).trans (armed key),
      journal.trans (process_journal_of_silent silent)⟩

/-- Backfill does to windows and readings what live processing does, and nothing else. -/
theorem processAll_backfill_agrees (reachable : Reachable s p)
    (larger : s.averageSize < s.sampleSize) {c : Collaborators σ} (steady : c.Steady) (world : σ)
    (sent : List Activity) {rs : List Reading} (dated : ∀ r ∈ rs, r.time.isSome) :
    List.Forall₂ Result.Agrees (p.processAll c.journaled .live (world, sent) rs).1.2
        (p.processAll c.journaled .backfill (world, sent) rs).1.2 ∧
      (∀ key, (p.processAll c.journaled .live (world, sent) rs).1.1.windows.window key =
        (p.processAll c.journaled .backfill (world, sent) rs).1.1.windows.window key) ∧
      (∀ key, (p.processAll c.journaled .backfill (world, sent) rs).1.1.detector.get? key =
        p.detector.get? key) ∧
      (p.processAll c.journaled .backfill (world, sent) rs).2.2 = sent := by
  have same : p.Agrees p := ⟨rfl, fun _ => rfl⟩
  obtain ⟨agrees, results, armed, journal⟩ :=
    same.processAll reachable.sound larger steady dated (world, sent) (world, sent)
  exact ⟨results, agrees.windows, armed, journal⟩

end Processor

def Settings.twoAveraged : Settings :=
  { Settings.fourAtOnce with
    averageSize := 2
    averageSize_pos := by decide }

namespace Processor

theorem processAll_backfill_agrees_oneTank :
    Settings.twoAveraged.averageSize < Settings.twoAveraged.sampleSize ∧
      (∀ r ∈ [Reading.ofTank 9 (some 0) none, .ofTank 3 none none], r.time.isSome) ∧
      List.Forall₂ Result.Agrees
        ((new .twoAveraged).processAll (InMemory.collaborators.frozen .oneTank).journaled .live
          (.oneTank, []) [.ofTank 9 (some 0) none, .ofTank 3 none none]).1.2
        ((new .twoAveraged).processAll (InMemory.collaborators.frozen .oneTank).journaled
          .backfill (.oneTank, []) [.ofTank 9 (some 0) none, .ofTank 3 none none]).1.2 := by
  have larger : Settings.twoAveraged.averageSize < Settings.twoAveraged.sampleSize := by decide
  have dated : ∀ r ∈ [Reading.ofTank 9 (some 0) none, .ofTank 3 none none], r.time.isSome := by
    decide
  exact ⟨larger, dated, (processAll_backfill_agrees .new larger
    (InMemory.collaborators.steady_frozen .oneTank) .oneTank [] dated).1⟩

end Processor

end FuelTelemetry

import FuelTelemetry.Proofs.Processing.Reachable

/-!
What a failed reading leaves behind. Whatever the failure, no detector entry changes, no activity is
handed to the sink and the reading is given back as it came. The windows stay as they were too, but
for one case: a live reading that was taken into a full window pushes the earliest one out, and
when its detection sample then reaches out of the calendar it is taken out again alone. That takes a
window no larger than the average is to have and larger than the detection sample.
-/

namespace FuelTelemetry

open Time (Instant)

namespace Track

/-- An arrival that pushes the earliest reading out of the window and then fails. -/
structure Loses (s : Settings) (mode : Mode) (curve : Curve) (points : Int) (t : Track)
    (r : Reading) (time : Instant) : Prop where
  levelled : ∃ level, curve.level points = .ok level
  live : mode = .live
  current : r.isReplayed = false
  crowded : t.window.Crowded s.capacity time
  unaveraged : s.windowCapacity ≤ s.averageSize
  sampled : s.sampleSize < s.windowCapacity
  lost : ¬ s.reach.LooksBack time

variable {s : Settings} {mode : Mode} {curve : Curve} {points : Int} {t : Track} {r : Reading}
  {time : Instant} {after : Track × Result}

theorem Loses.unsought (h : Loses s mode curve points t r time) :
    ¬ t.window.Seeks r s.averageSize := by
  have full := h.crowded.1
  have capacity := s.capacity_cast
  have small := h.unaveraged
  rintro (replayed | large)
  · rw [h.current] at replayed
    cases replayed
  · omega

theorem Loses.tail_ne (h : Loses s mode curve points t r time) :
    t.window.readings.tail ≠ t.window.readings := by
  intro same
  have full : t.window.readings.length = s.capacity := h.crowded.1
  have positive := s.capacity_pos
  have length := congrArg List.length same
  rw [List.length_tail] at length
  omega

theorem Entered.of_loses (h : Entered s mode curve points t r time after)
    (sound : t.window.Sound s.capacity) (dated : r.time = some time)
    (loses : Loses s mode curve points t r time) :
    (∃ fault, after.2.outcome = .failed fault) ∧
      after.1.window.readings = t.window.readings.tail := by
  have unreached := (Reach.bounds_error_iff dated loses.current).2 loses.lost
  cases h with
  | refused unlevelled =>
    rcases (levelled_error_iff sound).1 unlevelled with failed | ⟨-, seeks, -⟩
    · obtain ⟨level, ok⟩ := loses.levelled
      rw [ok] at failed
      cases failed
    · exact absurd seeks loses.unsought
  | taken _ _ reached =>
    obtain ⟨fault, lost⟩ := unreached
    have full := loses.crowded.1
    have capacity := s.capacity_cast
    have large := loses.sampled
    obtain ⟨bounds, found⟩ := reached loses.live (.inr (by rw [sound.size_receive]; omega))
    cases found.symm.trans lost
  | @withdrawn mean fault rest _ _ _ _ crowded _ =>
    refine ⟨⟨fault, rfl⟩, ?_⟩
    change rest.map (·.reading) = _
    rw [crowded loses.crowded, sound.readings_eq, List.map_tail]

/-- A reading that was taken out again had no need of bounds for its average. -/
theorem Entered.of_not_loses (h : Entered s mode curve points t r time after)
    (sound : t.window.Sound s.capacity) (dated : r.time = some time)
    (keeps : ¬ Loses s mode curve points t r time) {fault : Fault}
    (failed : after.2.outcome = .failed fault) :
    after.1.window.readings = t.window.readings := by
  cases h with
  | refused _ => rfl
  | taken _ _ _ => cases failed
  | @withdrawn mean cause rest level live seeks lost _ roomy =>
    have unsought := unsought_of_levelled sound level lost
    have current : r.isReplayed = false := by
      simpa using fun replayed => unsought (.inl replayed)
    have uncrowded : ¬ t.window.Crowded s.capacity time := by
      intro crowded
      have full := crowded.1
      have capacity := s.capacity_cast
      obtain ⟨calibrated, ok, -⟩ := levelled_ok level
      have small : ¬ s.averageSize < t.window.size := fun large => unsought (.inr large)
      have sampled : s.sampleSize < s.windowCapacity := by
        rcases seeks with replayed | large
        · rw [current] at replayed
          cases replayed
        · rw [sound.size_receive] at large
          omega
      exact keeps {
        levelled := ⟨calibrated, ok⟩
        live
        current
        crowded
        unaveraged := by omega
        sampled
        lost := (Reach.bounds_error_iff dated current).1 ⟨cause, lost⟩ }
    change rest.map (·.reading) = _
    rw [roomy uncrowded, sound.readings_eq]

theorem Entered.untouched (h : Entered s mode curve points t r time after) {fault : Fault}
    (failed : after.2.outcome = .failed fault) :
    after.1.armed = t.armed ∧ after.2.reading = r := by
  cases h with
  | refused _ => exact ⟨rfl, rfl⟩
  | taken _ _ _ => cases failed
  | withdrawn _ _ _ _ _ _ => exact ⟨rfl, rfl⟩

end Track

theorem Outcome.failed_of_status {outcome : Outcome} (h : outcome.status = .failed) :
    ∃ fault, outcome = .failed fault := by
  cases outcome with
  | failed fault => exact ⟨fault, rfl⟩
  | processed _ => cases h
  | stored => cases h
  | skipped _ => cases h

namespace Processor

variable {s : Settings} {p : Processor} {mode : Mode} {r : Reading}

def Loses (p : Processor) (mode : Mode) (r : Reading) (given : Except Outcome Assignment)
    (key : SensorKey) : Prop :=
  ∃ curve raw time, given = .ok ⟨key, .enter curve raw⟩ ∧ r.time = some time ∧
    (p.track key).Loses p.settings mode curve raw.points r time

theorem loses_enter_iff {key other : SensorKey} {curve : Curve} {raw : RawValue} {time : Instant}
    (dated : r.time = some time) :
    p.Loses mode r (.ok ⟨key, .enter curve raw⟩) other ↔
      key = other ∧ (p.track key).Loses p.settings mode curve raw.points r time := by
  constructor
  · rintro ⟨_, _, _, ⟨⟩, again, loses⟩
    rw [dated] at again
    cases again
    exact ⟨rfl, loses⟩
  · rintro ⟨rfl, loses⟩
    exact ⟨curve, raw, time, rfl, dated, loses⟩

/-- Processing that leaves no trace: not in a window, not in the detector, not at the sink and not
in the reading. -/
structure Traceless {σ : Type} (p : Processor) (r : Reading) (sent : List Activity)
    (after : (Processor × Result) × σ × List Activity) : Prop where
  windows : ∀ key, (after.1.1.windows.window key).readings = (p.windows.window key).readings
  detector : ∀ key, after.1.1.detector.get? key = p.detector.get? key
  journal : after.2.2 = sent
  reading : after.1.2.reading = r

/-- What fails leaves detector entries and the reading as they were, and each window either as it
was or without its earliest reading. -/
theorem Sound.carryOut_failed (h : p.Sound s) {given : Except Outcome Assignment}
    (assigned : Assigned r given) (dated : r.time.isSome) {fault : Fault}
    (failed : (p.carryOut mode r given).2.outcome = .failed fault) :
    (∀ key, (p.carryOut mode r given).1.detector.get? key = p.detector.get? key) ∧
      (p.carryOut mode r given).2.reading = r ∧
      ((∀ key, ((p.carryOut mode r given).1.windows.window key).readings =
        (p.windows.window key).readings) ↔ ∀ key, ¬ p.Loses mode r given key) ∧
      ∀ key, p.Loses mode r given key →
        ((p.carryOut mode r given).1.windows.window key).readings =
          (p.windows.window key).readings.tail := by
  obtain ⟨time, ht⟩ := Option.isSome_iff_exists.1 dated
  obtain rfl := h.settings
  cases assigned with
  | skipped _ => cases failed
  | failed cause =>
    have none_lost : ∀ key, ¬ p.Loses mode r (.error (.failed cause)) key := by
      rintro key ⟨_, _, _, ⟨⟩, _⟩
    exact ⟨fun _ => rfl, rfl, ⟨fun _ => none_lost, fun _ _ => rfl⟩,
      fun key loses => absurd loses (none_lost key)⟩
  | @keep key _ _ =>
    change ((p.track key).keep p.settings r).2.outcome = _ at failed
    rw [Track.keep_eq (h.windows key) ht] at failed
    cases failed
  | @enter key curve raw _ _ =>
    have entered := Track.enter_entered (t := p.track key) (h.windows key) ht key mode curve raw
    obtain ⟨armed, reading⟩ := entered.untouched failed
    simp only [loses_enter_iff ht]
    refine ⟨onTrack_armed armed, reading, ⟨fun same other => ?_, fun none_lost => ?_⟩, ?_⟩
    · rintro ⟨rfl, loses⟩
      have tail := (entered.of_loses (h.windows key) ht loses).2
      have kept := same key
      simp only [Processor.carryOut, onTrack_window_self] at kept
      exact loses.tail_ne (tail.symm.trans kept)
    · refine onTrack_readings (entered.of_not_loses (h.windows key) ht (fun loses => ?_) failed)
      exact none_lost key ⟨rfl, loses⟩
    · rintro other ⟨rfl, loses⟩
      simp only [Processor.carryOut, onTrack_window_self]
      exact (entered.of_loses (h.windows key) ht loses).2

variable {σ : Type}

/-- A failed reading leaves no trace unless it makes its window lose the earliest reading, and then
that is the trace. -/
theorem failed_traceless_iff (reachable : Reachable s p) (c : Collaborators σ) (mode : Mode)
    (dated : r.time.isSome) (world : σ) (sent : List Activity)
    (failed : (p.process c.journaled mode r (world, sent)).1.2.outcome.status = .failed) :
    (p.Traceless r sent (p.process c.journaled mode r (world, sent)) ↔
        ∀ key, ¬ p.Loses mode r (c.assign r world).1 key) ∧
      (∀ key, (p.process c.journaled mode r (world, sent)).1.1.detector.get? key =
        p.detector.get? key) ∧
      (p.process c.journaled mode r (world, sent)).2.2 = sent ∧
      (p.process c.journaled mode r (world, sent)).1.2.reading = r ∧
      ∀ key, p.Loses mode r (c.assign r world).1 key →
        ((p.process c.journaled mode r (world, sent)).1.1.windows.window key).readings =
          (p.windows.window key).readings.tail := by
  rw [process_journaled] at failed ⊢
  obtain ⟨fault, outcome⟩ : ∃ fault, (p.process c mode r world).1.2.outcome = .failed fault :=
    Outcome.failed_of_status failed
  have journal : sent ++ (p.process c mode r world).1.2.outcome.activity.toList = sent := by
    simp [outcome, Outcome.activity]
  rw [process_fst] at outcome
  obtain ⟨detector, reading, windows, tail⟩ :=
    reachable.sound.carryOut_failed (c.assign_assigned r world) dated outcome
  rw [← process_fst] at detector reading windows tail
  refine ⟨⟨fun traceless => windows.1 traceless.windows, fun kept => ?_⟩, detector, journal,
    reading, tail⟩
  exact ⟨windows.2 kept, detector, journal, reading⟩

def fullTank : Processor :=
  ((new .fourAtOnce).processAll InMemory.collaborators .live .oneTank
    [.ofTank 1 (some 0) (some 10.0), .ofTank 2 (some 0) (some 11.0),
      .ofTank 3 (some 0) (some 12.0), .ofTank 4 (some 0) (some 13.0)]).1.1

theorem reachable_fullTank : Reachable .fourAtOnce fullTank :=
  Reachable.new.processAll _ _ _ (by decide)

theorem failed_traceless_iff_fullTank :
    Reachable .fourAtOnce fullTank ∧ (Reading.ofTank 5 (some 0) none).time.isSome ∧
      (fullTank.process InMemory.collaborators.journaled .live (.ofTank 5 (some 0) none)
        (.oneTank, [])).1.2.outcome.status = .failed ∧
      (fullTank.Traceless (.ofTank 5 (some 0) none) [] (fullTank.process
          InMemory.collaborators.journaled .live (.ofTank 5 (some 0) none) (.oneTank, [])) ↔
        ∀ key, ¬ fullTank.Loses .live (.ofTank 5 (some 0) none)
          (InMemory.collaborators.assign (.ofTank 5 (some 0) none) .oneTank).1 key) := by
  have dated : (Reading.ofTank 5 (some 0) none).time.isSome := by decide
  have failed : (fullTank.process InMemory.collaborators.journaled .live
      (.ofTank 5 (some 0) none) (.oneTank, [])).1.2.outcome.status = .failed := by
    decide +kernel
  exact ⟨reachable_fullTank, dated, failed, (failed_traceless_iff reachable_fullTank
    InMemory.collaborators .live dated .oneTank [] failed).1⟩

/-- The fifth reading fails and is not in the window, but neither is the first. -/
theorem failed_not_traceless : ¬ ∀ (s : Settings) (p : Processor) (r : Reading),
    Reachable s p → r.time.isSome →
      (p.process InMemory.collaborators.journaled .live r (.oneTank, [])).1.2.outcome.status =
        .failed →
      p.Traceless r [] (p.process InMemory.collaborators.journaled .live r (.oneTank, [])) := by
  intro claim
  have traceless := claim .fourAtOnce fullTank (.ofTank 5 (some 0) none) reachable_fullTank
    (by decide) (by decide +kernel)
  have length := congrArg List.length (traceless.windows ⟨1, 7⟩)
  revert length
  decide +kernel

end Processor

end FuelTelemetry

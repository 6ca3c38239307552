import FuelTelemetry.Proofs.Processing.Latest
import FuelTelemetry.Proofs.Processing.Sources
import FuelTelemetry.Proofs.Window.Trailing

/-!
Reaching the detector. Once a sensor has as many readings as a detection sample needs, each further
live reading that is processed and was not replayed hands the detector a full sample, provided that
the window can hold one. Settings with a sample larger than the window are accepted, and with them
the detector is never reached.
-/

namespace FuelTelemetry

open Time (Instant)

namespace Window

variable {capacity : Nat} {w : Window} {r : Reading}

/-- A window with enough readings for a sample has a full one for any reading not replayed. -/
theorem Sound.le_length_select (h : w.Sound capacity) (current : r.isReplayed = false)
    {target : Int} (least : 0 ≤ target) (enough : target ≤ w.size) {reach : Reach}
    {sample : List Reading} (selected : w.select r target reach = .ok sample) :
    target ≤ sample.length := by
  rw [h.select_eq] at selected
  split at selected
  · cases found : reach.bounds r with
    | error fault =>
      rw [found] at selected
      cases selected
    | ok bounds =>
      rw [found] at selected
      have picked := Except.ok.inj selected
      simp only [pick, current, Bool.false_eq_true, if_false] at picked
      split at picked
      · rw [← picked]
        exact enough
      · rename_i more
        rw [← picked, length_beforeLast least (Int.not_le.1 more)]
        omega
  · rw [← Except.ok.inj selected]
    exact enough

end Window

/-- The detector was given a full sample of the window after a reading, and it left the sensor and
the result as they are. -/
structure Consulted (s : Settings) (key : SensorKey) (r : Reading) (before after : Track)
    (result : Result) (sample : List Reading) : Prop where
  selected : after.window.select result.reading s.sampleSize s.reach = .ok sample
  full : s.sampleSize ≤ sample.length
  answered : ∃ raw a, r.rawValue = .ok raw ∧
    Armed.check before.armed sample (s.thresholds raw.source) = (after.armed, .ok a) ∧
    result.outcome.activity = if a.detected then some (a.located key) else none

theorem Consulted.fits {s : Settings} {key : SensorKey} {r : Reading} {before after : Track}
    {result : Result} {sample : List Reading}
    (h : Consulted s key r before after result sample) (sound : after.window.Sound s.capacity) :
    s.sampleSize ≤ s.windowCapacity := by
  have inside : sample.length ≤ after.window.size := (sound.select_sublist h.selected).length_le
  have bounded := sound.bounded
  rw [← sound.size_eq] at bounded
  have capacity := s.capacity_cast
  have full := h.full
  omega

theorem Outcome.processed_of_status {outcome : Outcome} (h : outcome.status = .processed) :
    ∃ activity, outcome = .processed activity := by
  cases outcome with
  | processed activity => exact ⟨activity, rfl⟩
  | stored => cases h
  | skipped _ => cases h
  | failed _ => cases h

theorem Outcome.expected_of_taken {outcome : Outcome}
    (h : outcome.status ∈ [Status.processed, Status.stored]) :
    outcome.reason ≠ some "unexpected_error" := by
  cases outcome with
  | processed _ => exact nofun
  | stored => exact nofun
  | skipped _ => simp [status] at h
  | failed _ => simp [status] at h

theorem Track.enter_consulted {s : Settings} {t : Track} {r : Reading} {time : Instant}
    (sound : t.window.Sound s.capacity) (ht : r.time = some time) (current : r.isReplayed = false)
    (enough : s.sampleSize ≤ t.window.size) {key : SensorKey} {curve : Curve} {raw : RawValue}
    (value : r.rawValue = .ok raw)
    (processed : (t.enter s key .live curve raw r).2.outcome.status = .processed) :
    ∃ sample, Consulted s key r t (t.enter s key .live curve raw r).1
      (t.enter s key .live curve raw r).2 sample := by
  obtain ⟨activity, outcome⟩ := Outcome.processed_of_status processed
  obtain ⟨level, done, levelled, inserted, reading, confirmed⟩ := enter_processed outcome
  obtain ⟨-, -, mean, rfl⟩ := levelled_ok levelled
  obtain ⟨evicted, received⟩ := sound.insert_eq (r := r.withLevel mean) ht
  obtain rfl := Except.ok.inj (received.symm.trans inserted)
  have room : s.sampleSize ≤ (t.window.receive s.capacity time (r.withLevel mean)).size := by
    have bounded := sound.bounded
    rw [← sound.size_eq] at bounded
    rw [sound.size_receive]
    omega
  have least : 0 ≤ s.sampleSize := by
    have := s.leastSample_le
    unfold leastSample at this
    omega
  have full := sound.receive (r := r.withLevel mean) ht rfl
  generalize t.enter s key .live curve raw r = ended at outcome reading confirmed ⊢
  obtain ⟨after, result⟩ := ended
  cases confirmed with
  | unlooked backfill => cases backfill
  | short _ selected short =>
    have := full.le_length_select current least room selected
    omega
  | @looked sample armed a _ selected whole checked =>
    refine ⟨sample, ?_, whole, raw, a, value, checked, ?_⟩
    · rw [reading]
      exact selected
    · rw [outcome]
      rfl

namespace Processor

variable {s : Settings} {p : Processor} {r : Reading} {key : SensorKey} {σ : Type}
  {c : Collaborators σ} {world : σ}

theorem Sound.consulted (h : p.Sound s) (dated : r.time.isSome) (current : r.isReplayed = false)
    (own : (p.handling c world ⟨.live, r⟩).key = some key)
    (processed : (p.process c .live r world).1.2.outcome.status = .processed)
    (enough : s.sampleSize ≤ (p.windows.window key).size) :
    ∃ sample, Consulted s key r (p.track key) ((p.process c .live r world).1.1.track key)
      (p.process c .live r world).1.2 sample := by
  obtain ⟨time, ht⟩ := Option.isSome_iff_exists.1 dated
  obtain rfl := h.settings
  simp only [handling] at own
  rw [process_fst] at processed ⊢
  cases given : (c.assign r world).1 with
  | error outcome =>
    rw [given] at own
    cases own
  | ok a =>
    rw [given] at own processed
    obtain rfl : a.key = key := Option.some.inj own
    have grounded := given
    rw [Collaborators.assign_fst] at grounded
    simp only [Processor.carryOut, onTrack_track_self]
    cases Assignment.grounded_of_ofAnswers grounded with
    | keep _ _ _ => exact absurd processed (keep_not_processed _ _ _)
    | enter _ _ value _ =>
      exact Track.enter_consulted (h.windows _) ht current enough value processed

/-- A live reading, not replayed, that is processed after a run in which all readings of its sensor
were processed or stored, enough of them for a full sample. -/
structure Due (s : Settings) (c : Collaborators σ) (world : σ) (xs : List Submission)
    (key : SensorKey) (r : Reading) : Prop where
  dated : ∀ x ∈ xs, x.reading.time.isSome
  taken : ∀ done ∈ ((new s).run c world xs).1.2, done.key = some key →
    done.result.outcome.status ∈ [Status.processed, Status.stored]
  enough : s.sampleSize ≤ (accepted key ((new s).run c world xs).1.2).length
  last : r.time.isSome
  current : r.isReplayed = false
  own : let done := (new s).run c world xs
    (done.1.1.handling c done.2 ⟨.live, r⟩).key = some key
  processed : let done := (new s).run c world xs
    (done.1.1.process c .live r done.2).1.2.outcome.status = .processed

def Reaches (s : Settings) (c : Collaborators σ) (world : σ) (xs : List Submission)
    (key : SensorKey) (r : Reading) : Prop :=
  let done := (new s).run c world xs
  let after := done.1.1.process c .live r done.2
  ∃ sample, Consulted s key r (done.1.1.track key) (after.1.1.track key) after.1.2 sample

theorem Reaches.fits {xs : List Submission} (h : Reaches s c world xs key r)
    (dated : ∀ x ∈ xs, x.reading.time.isSome) (last : r.time.isSome) :
    s.sampleSize ≤ s.windowCapacity := by
  obtain ⟨sample, consulted⟩ := h
  have sound := (sound_new s).after_run c world dated
  exact consulted.fits ((sound.process c .live last ((new s).run c world xs).2).windows key)

/-- The detector is reached exactly where a window can hold a full sample. -/
theorem reaches_iff {xs : List Submission} (h : Due s c world xs key r) :
    Reaches s c world xs key r ↔ s.sampleSize ≤ s.windowCapacity := by
  have expected : ∀ done ∈ ((new s).run c world xs).1.2, done.key = some key →
      done.result.outcome.reason ≠ some "unexpected_error" := fun done logged own =>
    Outcome.expected_of_taken (h.taken done logged own)
  obtain ⟨sound, holds⟩ := (sound_new s).holds_run_of_key c world key h.dated expected
    (Window.holds_empty s.capacity)
  have size := holds.size_eq (sound.windows key)
  have enough := h.enough
  have capacity := s.capacity_cast
  rw [List.nil_append] at size
  refine ⟨fun reaches => reaches.fits h.dated h.last, fun fits => ?_⟩
  exact sound.consulted h.last h.current h.own h.processed (by omega)

end Processor

def Submission.fiveStored : List Submission :=
  [⟨.live, .ofTank 101 (some 0) (some 0.0)⟩, ⟨.live, .ofTank 102 (some 0) (some 0.0)⟩,
    ⟨.live, .ofTank 103 (some 0) (some 0.0)⟩, ⟨.live, .ofTank 104 (some 0) (some 1000.0)⟩,
    ⟨.live, .ofTank 105 (some 0) (some 1000.0)⟩]

def Settings.fiveOfFour : Settings :=
  { Settings.fourAtOnce with
    sampleSize := 5
    leastSample_le := by decide }

namespace Processor

theorem reaches_iff_fourAtOnce :
    Due .fourAtOnce InMemory.collaborators .oneTank Submission.fiveStored ⟨1, 7⟩
        (.ofTank 106 (some 20000) none) ∧
      Reaches .fourAtOnce InMemory.collaborators .oneTank Submission.fiveStored ⟨1, 7⟩
        (.ofTank 106 (some 20000) none) := by
  have due : Due .fourAtOnce InMemory.collaborators .oneTank Submission.fiveStored ⟨1, 7⟩
      (.ofTank 106 (some 20000) none) :=
    ⟨by decide, by decide +kernel, by decide +kernel, by decide, by decide, by decide +kernel,
      by decide +kernel⟩
  exact ⟨due, (reaches_iff due).2 (by decide)⟩

/-- Settings are accepted with which a sensor may have readings for a full sample and its window
never holds one. -/
theorem not_reaches : ¬ ∀ (s : Settings) (world : InMemory) (xs : List Submission)
    (key : SensorKey) (r : Reading), Due s InMemory.collaborators world xs key r →
      Reaches s InMemory.collaborators world xs key r := by
  intro claim
  have due : Due .fiveOfFour InMemory.collaborators .oneTank Submission.fiveStored ⟨1, 7⟩
      (.ofTank 106 (some 20000) none) :=
    ⟨by decide, by decide +kernel, by decide +kernel, by decide, by decide, by decide +kernel,
      by decide +kernel⟩
  have fits := (claim .fiveOfFour .oneTank _ _ _ due).fits due.dated due.last
  exact absurd fits (by decide)

end Processor

end FuelTelemetry

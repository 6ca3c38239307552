import FuelTelemetry.Processing.InMemory
import FuelTelemetry.Proofs.Processing.Assignment

/-!
Reachable processors: what dated readings, in any order of modes and among any surroundings, make of
a new processor. Devices may start and end warming in between. All their windows are sound.
-/

namespace FuelTelemetry

open Time (Instant)

namespace Track

variable {s : Settings} {mode : Mode} {r : Reading} {t : Track} {time : Instant}

theorem Entered.sound {curve : Curve} {points : Int} {after : Track × Result}
    (h : Entered s mode curve points t r time after) (sound : t.window.Sound s.capacity)
    (dated : r.time = some time) : after.1.window.Sound s.capacity := by
  cases h with
  | refused _ => exact sound
  | taken _ _ _ => exact sound.receive dated rfl
  | @withdrawn mean fault rest _ _ _ _ crowded roomy =>
    have sub : rest.Sublist t.window.entries := by
      by_cases full : t.window.Crowded s.capacity time
      · rw [crowded full]
        exact List.tail_sublist _
      · rw [roomy full]
    exact sound.sublist sub (Nat.le_succ _)

end Track

namespace Processor

variable {s : Settings} {p : Processor} {mode : Mode} {r : Reading}

theorem onTrack_window_self (p : Processor) (key : SensorKey) (step : Track → Track × Result) :
    (p.onTrack key step).1.windows.window key = (step (p.track key)).1.window :=
  WindowStore.window_setWindow_self _ _ _

theorem onTrack_window_of_ne {key other : SensorKey} (h : other ≠ key) (p : Processor)
    (step : Track → Track × Result) :
    (p.onTrack key step).1.windows.window other = p.windows.window other :=
  WindowStore.window_setWindow_of_ne _ h _

theorem onTrack_armed_self (p : Processor) (key : SensorKey) (step : Track → Track × Result) :
    (p.onTrack key step).1.detector.get? key = (step (p.track key)).1.armed :=
  Detector.get?_setEntry_self _ _ _

theorem onTrack_armed_of_ne {key other : SensorKey} (h : other ≠ key) (p : Processor)
    (step : Track → Track × Result) :
    (p.onTrack key step).1.detector.get? other = p.detector.get? other :=
  Detector.get?_setEntry_of_ne h _ _

theorem onTrack_track_self (p : Processor) (key : SensorKey) (step : Track → Track × Result) :
    (p.onTrack key step).1.track key = (step (p.track key)).1 :=
  track_setTrack_self p key _

theorem onTrack_track_of_ne {key other : SensorKey} (h : other ≠ key) (p : Processor)
    (step : Track → Track × Result) : (p.onTrack key step).1.track other = p.track other :=
  track_setTrack_of_ne h p _

theorem onTrack_readings {key : SensorKey} {step : Track → Track × Result}
    (same : (step (p.track key)).1.window.readings = (p.windows.window key).readings)
    (other : SensorKey) :
    ((p.onTrack key step).1.windows.window other).readings =
      (p.windows.window other).readings := by
  by_cases own : other = key
  · subst own
    rw [onTrack_window_self, same]
  · rw [onTrack_window_of_ne own]

theorem onTrack_armed {key : SensorKey} {step : Track → Track × Result}
    (same : (step (p.track key)).1.armed = p.detector.get? key) (other : SensorKey) :
    (p.onTrack key step).1.detector.get? other = p.detector.get? other := by
  by_cases own : other = key
  · subst own
    rw [onTrack_armed_self, same]
  · rw [onTrack_armed_of_ne own]

structure Sound (s : Settings) (p : Processor) : Prop where
  settings : p.settings = s
  windows : ∀ key, (p.windows.window key).Sound s.capacity

theorem sound_new (s : Settings) : (new s).Sound s :=
  ⟨rfl, fun _ => Window.sound_empty _⟩

theorem Sound.onTrack (h : p.Sound s) (key : SensorKey) (step : Track → Track × Result)
    (kept : (step (p.track key)).1.window.Sound s.capacity) : (p.onTrack key step).1.Sound s where
  settings := h.settings
  windows other := by
    by_cases same : other = key
    · subst same
      rw [onTrack_window_self]
      exact kept
    · rw [onTrack_window_of_ne same]
      exact h.windows other

theorem Sound.carryOut (h : p.Sound s) {given : Except Outcome Assignment}
    (assigned : Assigned r given) (dated : r.time.isSome) :
    (p.carryOut mode r given).1.Sound s := by
  obtain ⟨time, ht⟩ := Option.isSome_iff_exists.1 dated
  cases assigned with
  | skipped _ => exact h
  | failed _ => exact h
  | @keep key _ has =>
    refine h.onTrack key _ ?_
    change ((p.track key).keep p.settings r).1.window.Sound s.capacity
    rw [h.settings, Track.keep_eq (h.windows key) ht]
    exact (h.windows key).receive ht has
  | @enter key curve raw _ _ =>
    refine h.onTrack key _ ?_
    change ((p.track key).enter p.settings key mode curve raw r).1.window.Sound s.capacity
    rw [h.settings]
    exact (Track.enter_entered (h.windows key) ht key mode curve raw).sound (h.windows key) ht

variable {σ : Type}

theorem Sound.process (h : p.Sound s) (c : Collaborators σ) (mode : Mode) (dated : r.time.isSome)
    (world : σ) : (p.process c mode r world).1.1.Sound s := by
  rw [process_fst]
  exact h.carryOut (c.assign_assigned r world) dated

theorem processAll_invariant {c : Collaborators σ} {mode : Mode} {inv : Processor → Prop}
    (step : ∀ p r world, inv p → r.time.isSome → inv (p.process c mode r world).1.1) (h : inv p)
    {rs : List Reading} (dated : ∀ r ∈ rs, r.time.isSome) (world : σ) :
    inv (p.processAll c mode world rs).1.1 := by
  induction rs generalizing p world with
  | nil => exact h
  | cons r rest ih =>
    have first := dated r List.mem_cons_self
    have others : ∀ x ∈ rest, x.time.isSome := fun x hx => dated x (List.mem_cons_of_mem r hx)
    exact ih (step p r world h first) others (p.process c mode r world).2

theorem Sound.processAll (h : p.Sound s) (c : Collaborators σ) (mode : Mode) {rs : List Reading}
    (dated : ∀ r ∈ rs, r.time.isSome) (world : σ) : (p.processAll c mode world rs).1.1.Sound s :=
  processAll_invariant (fun _ _ world before first => before.process c mode first world) h dated
    world

inductive Reachable (s : Settings) : Processor → Prop
  | new : Reachable s (.new s)
  | process {σ : Type} {p : Processor} (c : Collaborators σ) (mode : Mode) {r : Reading} (world : σ)
    (before : Reachable s p) (dated : r.time.isSome) :
    Reachable s (p.process c mode r world).1.1
  | beginWarming {p : Processor} (device : Int) (before : Reachable s p) :
    Reachable s (p.beginWarming device)
  | finishWarming {p : Processor} (device : Int) (before : Reachable s p) :
    Reachable s (p.finishWarming device)

theorem Reachable.sound (h : Reachable s p) : p.Sound s := by
  induction h with
  | new => exact sound_new s
  | process c mode world _ dated ih => exact ih.process c mode dated world
  | beginWarming device _ ih =>
    unfold Processor.beginWarming
    split
    · exact ih
    · exact ⟨ih.settings, ih.windows⟩
  | finishWarming _ _ ih => exact ⟨ih.settings, ih.windows⟩

theorem Reachable.processAll (h : Reachable s p) (c : Collaborators σ) (mode : Mode) (world : σ)
    {rs : List Reading} (dated : ∀ r ∈ rs, r.time.isSome) :
    Reachable s (p.processAll c mode world rs).1.1 :=
  processAll_invariant (fun _ _ world before first => before.process c mode world first) h dated
    world

end Processor

def InMemory.oneTank : InMemory where
  sensors := [(1, [⟨7, LinkedSensor.analogFuel⟩])]
  curves := [(⟨1, 7⟩, [⟨0, 0.0, 10.0⟩])]
  readings := []
  outages := ⟨[], [], [], false⟩
  logged := []
  attempts := 0
  published := []

def Settings.fourAtOnce : Settings where
  windowCapacity := 4
  averageSize := 5
  sampleSize := 3
  reach := ⟨300, 1800⟩
  digitalChange := 5.0
  analogChange := 10.0
  edgeFraction := 0.5
  hours := 24
  workers := 4
  windowCapacity_pos := by decide
  averageSize_pos := by decide
  leastSample_le := by decide
  workers_pos := by decide

end FuelTelemetry

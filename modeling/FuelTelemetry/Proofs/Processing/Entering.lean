import FuelTelemetry.Proofs.Detection.Checking
import FuelTelemetry.Proofs.Window.Selection
import FuelTelemetry.Processing.Track

/-!
Entering a reading into the track of its sensor, as far as windows are concerned. On a sound window
there are three ends. The reading is refused before its insertion, by calibration or by the reach of
its average. It is taken in. Or it is withdrawn again, and that happens to live readings alone and
only where the reach of the detection sample fails: the detector itself refuses nothing.
-/

namespace FuelTelemetry

open Time (Instant)

def Settings.capacity (s : Settings) : Nat := s.windowCapacity.toNat

theorem Settings.capacity_cast (s : Settings) : (s.capacity : Int) = s.windowCapacity := by
  have := s.windowCapacity_pos
  unfold capacity
  omega

theorem Settings.capacity_pos (s : Settings) : 0 < s.capacity := by
  have := s.windowCapacity_pos
  unfold capacity
  omega

namespace Track

variable {s : Settings} {w : Window} {curve : Curve} {points : Int} {r : Reading}

theorem levelled_eq (s : Settings) (w : Window) (curve : Curve) (points : Int) (r : Reading) :
    levelled s w curve points r = do
      let calibrated ← curve.level points
      let mean ← w.smooth (r.withLevel calibrated) s.averageSize s.reach
      return r.withLevel mean := rfl

theorem levelled_ok {level : Reading} (h : levelled s w curve points r = .ok level) :
    ∃ calibrated, curve.level points = .ok calibrated ∧ ∃ mean, level = r.withLevel mean := by
  rw [levelled_eq] at h
  obtain ⟨calibrated, ok, h⟩ := Except.bind_ok h
  obtain ⟨mean, -, h⟩ := Except.bind_ok h
  exact ⟨calibrated, ok, mean, (Except.ok.inj h).symm⟩

/-- A reading cannot be levelled because of its calibration or of the reach of its average. -/
theorem levelled_error_iff (sound : w.Sound s.capacity) {fault : Fault} :
    levelled s w curve points r = .error fault ↔
      curve.level points = .error fault ∨
        (∃ level, curve.level points = .ok level) ∧
          w.Seeks r s.averageSize ∧ s.reach.bounds r = .error fault := by
  rw [levelled_eq]
  cases calibration : curve.level points with
  | error cause => simp [bind, Except.bind]
  | ok calibrated =>
    have selection : w.select (r.withLevel calibrated) s.averageSize s.reach = .error fault ↔
        w.Seeks r s.averageSize ∧ s.reach.bounds r = .error fault := sound.select_error_iff
    simp only [reduceCtorEq, false_or, Except.ok.injEq, exists_eq', true_and, ← selection]
    cases selected : w.select (r.withLevel calibrated) s.averageSize s.reach with
    | error cause => simp [bind, Except.bind, Window.smooth, selected]
    | ok sample =>
      obtain ⟨mean, average⟩ := averageLevel_ok (r := r.withLevel calibrated) rfl
        (sound.levelled_sample selected)
      simp [bind, Except.bind, pure, Except.pure, Window.smooth, selected, average]

/-- A reading whose average was taken without bounds may have none. -/
theorem unsought_of_levelled (sound : w.Sound s.capacity) {level : Reading} {fault : Fault}
    (ok : levelled s w curve points r = .ok level) (lost : s.reach.bounds r = .error fault) :
    ¬ w.Seeks r s.averageSize := by
  intro seeks
  obtain ⟨calibrated, calibration, -⟩ := levelled_ok ok
  have unlevelled := (levelled_error_iff sound).2 (.inr ⟨⟨calibrated, calibration⟩, seeks, lost⟩)
  rw [ok] at unlevelled
  cases unlevelled

inductive Entered (s : Settings) (mode : Mode) (curve : Curve) (points : Int) (t : Track)
    (r : Reading) (time : Instant) : Track × Result → Prop
  | refused {fault : Fault} (unlevelled : levelled s t.window curve points r = .error fault) :
    Entered s mode curve points t r time (t, ⟨r, .failed fault⟩)
  | taken {mean : Float} {armed : Option Armed} {activity : Option Activity}
    (levelled : levelled s t.window curve points r = .ok (r.withLevel mean))
    (quiet : mode = .backfill → armed = t.armed ∧ activity = none)
    (reached : mode = .live →
      (t.window.receive s.capacity time (r.withLevel mean)).Seeks r s.sampleSize →
        ∃ bounds, s.reach.bounds r = .ok bounds) :
    Entered s mode curve points t r time
      (⟨t.window.receive s.capacity time (r.withLevel mean), armed⟩,
        ⟨r.withLevel mean, .processed activity⟩)
  | withdrawn {mean : Float} {fault : Fault} {rest : List Entry}
    (levelled : levelled s t.window curve points r = .ok (r.withLevel mean))
    (live : mode = .live)
    (seeks : (t.window.receive s.capacity time (r.withLevel mean)).Seeks r s.sampleSize)
    (lost : s.reach.bounds r = .error fault)
    (crowded : t.window.Crowded s.capacity time → rest = t.window.entries.tail)
    (roomy : ¬ t.window.Crowded s.capacity time → rest = t.window.entries) :
    Entered s mode curve points t r time
      (⟨⟨t.window.arrivals + 1, .dated rest⟩, t.armed⟩, ⟨r, .failed fault⟩)

variable {t : Track} {time : Instant} {raw : RawValue}

theorem detect_ok (source : Source) (sound : t.window.Sound s.capacity) {sample : List Reading}
    (selected : t.window.select r s.sampleSize s.reach = .ok sample) :
    ∃ armed activity, t.detect s source r = ({ t with armed }, .ok activity) := by
  simp only [detect, selected]
  split
  · exact ⟨t.armed, .nothing, rfl⟩
  · obtain ⟨activity, ok⟩ := Armed.check_ok t.armed (sound.levelled_sample selected)
      (s.thresholds source)
    exact ⟨_, activity, by rw [← ok]⟩

def conclude (r level : Reading) : Track × Except Fault (Option Activity) → Track × Result
  | (t, .ok activity) => (t, ⟨level, .processed activity⟩)
  | (t, .error fault) => (t, ⟨r, .failed fault⟩)

theorem enter_of_unlevelled {fault : Fault}
    (unlevelled : levelled s t.window curve raw.points r = .error fault) (key : SensorKey)
    (mode : Mode) : t.enter s key mode curve raw r = (t, ⟨r, .failed fault⟩) := by
  simp only [enter, unlevelled, bind, Except.bind]

theorem enter_of_levelled {level : Reading} {done : Window.Inserted}
    (ok : levelled s t.window curve raw.points r = .ok level)
    (inserted : t.window.insert s.capacity level = .ok done) (key : SensorKey) (mode : Mode) :
    t.enter s key mode curve raw r =
      conclude r level (confirm s key mode raw.source { t with window := done.window } done.arrival
        level) := by
  rw [Settings.capacity] at inserted
  simp only [enter, ok, inserted, bind, Except.bind, pure, Except.pure]
  rfl

theorem enter_entered (sound : t.window.Sound s.capacity) (dated : r.time = some time)
    (key : SensorKey) (mode : Mode) (curve : Curve) (raw : RawValue) :
    Entered s mode curve raw.points t r time (t.enter s key mode curve raw r) := by
  cases level : levelled s t.window curve raw.points r with
  | error fault =>
    rw [enter_of_unlevelled level]
    exact .refused level
  | ok r' =>
    obtain ⟨-, -, mean, rfl⟩ := levelled_ok level
    have again : (r.withLevel mean).time = some time := dated
    obtain ⟨evicted, inserted⟩ := sound.insert_eq again
    let full : Track := { t with window := t.window.receive s.capacity time (r.withLevel mean) }
    have fullSound : full.window.Sound s.capacity := sound.receive dated rfl
    rw [enter_of_levelled level inserted]
    change Entered s mode curve raw.points t r time (conclude r (r.withLevel mean)
      (confirm s key mode raw.source full t.window.arrivals (r.withLevel mean)))
    cases mode with
    | backfill => exact .taken level (fun _ => ⟨rfl, rfl⟩) fun live => absurd live (by decide)
    | live =>
      cases selected : full.window.select (r.withLevel mean) s.sampleSize s.reach with
      | ok sample =>
        obtain ⟨armed, activity, detected⟩ := detect_ok raw.source fullSound selected
        simp only [confirm, detected]
        refine .taken level (fun quiet : Mode.live = .backfill => absurd quiet (by decide))
          fun _ seeks => ?_
        cases bounds : s.reach.bounds r with
        | ok b => exact ⟨b, rfl⟩
        | error fault =>
          have failed := fullSound.select_error_iff (r := r.withLevel mean) |>.2 ⟨seeks, bounds⟩
          rw [selected] at failed
          cases failed
      | error fault =>
        obtain ⟨seeks, lost⟩ := fullSound.select_error_iff.1 selected
        obtain ⟨rest, found, removed, crowded, roomy⟩ :=
          sound.remove_receive s.capacity_pos time (r.withLevel mean)
        have withdrawn : full.withdraw t.window.arrivals (r.withLevel mean) =
            ⟨⟨t.window.arrivals + 1, .dated rest⟩, t.armed⟩ := by
          simp only [withdraw, again, full, removed]
        simp only [confirm, detect, selected, withdrawn]
        exact .withdrawn level rfl seeks lost crowded roomy

/-- What confirming an inserted reading may come to, where nothing fails: nobody looks for an
activity, the sample is not full, or it is checked. -/
inductive Confirmed (s : Settings) (key : SensorKey) (mode : Mode) (source : Source) (t : Track)
    (r : Reading) : Track × Option Activity → Prop
  | unlooked (backfill : mode = .backfill) : Confirmed s key mode source t r (t, none)
  | short {sample : List Reading} (live : mode = .live)
    (selected : t.window.select r s.sampleSize s.reach = .ok sample)
    (short : sample.length < s.sampleSize) : Confirmed s key mode source t r (t, none)
  | looked {sample : List Reading} {armed : Option Armed} {a : Activity} (live : mode = .live)
    (selected : t.window.select r s.sampleSize s.reach = .ok sample)
    (full : s.sampleSize ≤ sample.length)
    (checked : Armed.check t.armed sample (s.thresholds source) = (armed, .ok a)) :
    Confirmed s key mode source t r
      ({ t with armed }, if a.detected then some (a.located key) else none)

theorem Confirmed.window {key : SensorKey} {mode : Mode} {source : Source}
    {after : Track × Option Activity} (h : Confirmed s key mode source t r after) :
    after.1.window = t.window := by
  cases h <;> rfl

theorem Confirmed.located {key : SensorKey} {mode : Mode} {source : Source} {after : Track}
    {a : Activity} (h : Confirmed s key mode source t r (after, some a)) :
    ∃ b : Activity, b.Ended ∧ a = b.located key := by
  generalize announced : some a = activity at h
  cases h with
  | unlooked _ => cases announced
  | short _ _ _ => cases announced
  | looked _ _ _ checked =>
    split at announced
    · rename_i detected
      exact ⟨_, Armed.check_ended (congrArg Prod.snd checked) detected, Option.some.inj announced⟩
    · cases announced

theorem confirm_confirmed {key : SensorKey} {mode : Mode} {source : Source} {arrival : Nat}
    {after : Track} {activity : Option Activity}
    (h : confirm s key mode source t arrival r = (after, .ok activity)) :
    Confirmed s key mode source t r (after, activity) := by
  cases mode with
  | backfill =>
    cases h
    exact .unlooked rfl
  | live =>
    cases selected : t.window.select r s.sampleSize s.reach with
    | error fault => simp [confirm, detect, selected] at h
    | ok sample =>
      by_cases short : sample.length < s.sampleSize
      · simp only [confirm, detect, selected, short, if_true] at h
        cases h
        exact .short rfl selected short
      · cases checked : Armed.check t.armed sample (s.thresholds source) with
        | mk armed answer =>
          simp only [confirm, detect, selected, short, if_false, checked] at h
          cases answer with
          | error fault => cases h
          | ok a =>
            cases h
            exact .looked rfl selected (Int.not_lt.1 short) checked

theorem enter_processed {key : SensorKey} {mode : Mode} {activity : Option Activity}
    (h : (t.enter s key mode curve raw r).2.outcome = .processed activity) :
    ∃ level done, levelled s t.window curve raw.points r = .ok level ∧
      t.window.insert s.capacity level = .ok done ∧
      (t.enter s key mode curve raw r).2.reading = level ∧
      Confirmed s key mode raw.source { t with window := done.window } level
        ((t.enter s key mode curve raw r).1, activity) := by
  cases ok : levelled s t.window curve raw.points r with
  | error fault =>
    rw [enter_of_unlevelled ok] at h
    cases h
  | ok level =>
    cases inserted : t.window.insert s.capacity level with
    | error fault =>
      rw [Settings.capacity] at inserted
      simp [enter, ok, inserted, bind, Except.bind] at h
    | ok done =>
      rw [enter_of_levelled ok inserted] at h ⊢
      cases confirmed : confirm s key mode raw.source { t with window := done.window } done.arrival
          level with
      | mk after answer =>
        rw [confirmed] at h
        cases answer with
        | error fault => cases h
        | ok found =>
          cases h
          exact ⟨level, done, rfl, inserted, rfl, confirm_confirmed confirmed⟩

theorem keep_eq (sound : t.window.Sound s.capacity) (dated : r.time = some time) :
    t.keep s r = (⟨t.window.receive s.capacity time r, t.armed⟩, ⟨r, .stored⟩) := by
  obtain ⟨evicted, inserted⟩ := sound.insert_eq (r := r) dated
  rw [Settings.capacity] at inserted
  simp only [keep, inserted]
  rfl

end Track

end FuelTelemetry

import FuelTelemetry.Proofs.Detection.Levelled
import FuelTelemetry.Proofs.Window.Sound

/-!
Selection from a sound window. A sample is sought within bounds of time when the reading is replayed
or the window holds more than the target, and is the whole window otherwise. The bounds come from
the reading and the reach alone, and they are the one thing that can make a selection fail.
-/

namespace FuelTelemetry

open Time (Instant)

def Reach.bounds (reach : Reach) (r : Reading) : Except Fault (Instant × Instant) :=
  if r.isReplayed then do
    let span ← spanOf reach.lookaround
    let t ← r.instant
    let after ← shifted t (-span)
    let upTo ← shifted t span
    return (after, upTo)
  else do
    let span ← spanOf reach.lookback
    let t ← r.instant
    let after ← shifted t (-span)
    return (after, t)

def Reach.LooksBack (reach : Reach) (t : Instant) : Prop :=
  (-longestSpan ≤ Int.fdiv reach.lookback 86400 ∧ Int.fdiv reach.lookback 86400 ≤ longestSpan) ∧
    (t.shift? (-(reach.lookback * Time.second))).isSome

theorem Reach.bounds_error_iff {reach : Reach} {r : Reading} {t : Instant} (ht : r.time = some t)
    (current : r.isReplayed = false) :
    (∃ fault, reach.bounds r = .error fault) ↔ ¬ reach.LooksBack t := by
  unfold bounds LooksBack spanOf Reading.instant shifted
  simp only [current, ht, Bool.false_eq_true, if_false]
  split
  · rename_i days
    cases shift : t.shift? (-(reach.lookback * Time.second)) with
    | none => simp [bind, Except.bind, shift]
    | some after => simp [bind, Except.bind, pure, Except.pure, shift, days]
  · rename_i days
    simp [bind, Except.bind, days]

theorem spanOf_error {seconds : Int} {fault : Fault} (h : spanOf seconds = .error fault) :
    fault = .spanTooLong := by
  simp only [spanOf] at h
  split at h
  · cases h
  · exact (Except.error.inj h).symm

theorem Reading.instant_error {r : Reading} {fault : Fault} (h : r.instant = .error fault) :
    fault = .undated := by
  unfold instant at h
  split at h
  · cases h
  · exact (Except.error.inj h).symm

theorem shifted_error {t : Instant} {micros : Int} {fault : Fault}
    (h : shifted t micros = .error fault) : fault = .shiftedOutOfCalendar := by
  unfold shifted at h
  split at h
  · cases h
  · exact (Except.error.inj h).symm

theorem Reach.bounds_not_calibration {reach : Reach} {r : Reading} {fault : Fault}
    (h : reach.bounds r = .error fault) : fault.isCalibration = false := by
  have causes : fault = .spanTooLong ∨ fault = .undated ∨ fault = .shiftedOutOfCalendar := by
    unfold bounds at h
    split at h <;> rcases Except.bind_error h with h | ⟨span, -, h⟩
    · exact .inl (spanOf_error h)
    · rcases Except.bind_error h with h | ⟨t, -, h⟩
      · exact .inr (.inl (Reading.instant_error h))
      rcases Except.bind_error h with h | ⟨after, -, h⟩
      · exact .inr (.inr (shifted_error h))
      rcases Except.bind_error h with h | ⟨upTo, -, h⟩
      · exact .inr (.inr (shifted_error h))
      · cases h
    · exact .inl (spanOf_error h)
    · rcases Except.bind_error h with h | ⟨t, -, h⟩
      · exact .inr (.inl (Reading.instant_error h))
      rcases Except.bind_error h with h | ⟨after, -, h⟩
      · exact .inr (.inr (shifted_error h))
      · cases h
  rcases causes with rfl | rfl | rfl <;> rfl

namespace Window

def Seeks (w : Window) (r : Reading) (target : Int) : Prop :=
  r.isReplayed = true ∨ target < w.size

instance (w : Window) (r : Reading) (target : Int) : Decidable (w.Seeks r target) :=
  inferInstanceAs (Decidable (_ ∨ _))

def pick (w : Window) (r : Reading) (target : Int) (bounds : Instant × Instant) : List Reading :=
  let found := (Entry.within bounds.1 bounds.2 w.entries).map (·.reading)
  if r.isReplayed then found
  else if found.length ≤ target then w.readings else beforeLast target found

variable {capacity : Nat} {w : Window}

theorem query_of_dated (h : w.contents = .dated w.entries) (after upTo : Instant) :
    w.query (some after) (some upTo) =
      .ok ((Entry.within after upTo w.entries).map (·.reading)) := by
  unfold query
  rw [h]

theorem Sound.query_eq (h : w.Sound capacity) (after upTo : Instant) :
    w.query (some after) (some upTo) =
      .ok ((Entry.within after upTo w.entries).map (·.reading)) :=
  query_of_dated h.contents after upTo

theorem select_of_dated (h : w.contents = .dated w.entries) (r : Reading) (target : Int)
    (reach : Reach) :
    w.select r target reach =
      if w.Seeks r target then (reach.bounds r).map (w.pick r target) else .ok w.readings := by
  unfold select Seeks Reach.bounds around trailing pick
  simp only [query_of_dated h]
  by_cases replayed : r.isReplayed = true
  · simp only [replayed, if_true, true_or]
    cases spanOf reach.lookaround with
    | error fault => rfl
    | ok span =>
      cases r.instant with
      | error fault => rfl
      | ok t =>
        simp only [bind, Except.bind]
        cases shifted t (-span) with
        | error fault => rfl
        | ok after =>
          cases shifted t span with
          | error fault => rfl
          | ok upTo => rfl
  · simp only [replayed, false_or, Bool.false_eq_true, if_false]
    by_cases small : (w.size : Int) ≤ target
    · rw [if_pos small, if_neg (by omega)]
      rfl
    · rw [if_neg small, if_pos (by omega)]
      cases spanOf reach.lookback with
      | error fault => rfl
      | ok span =>
        cases r.instant with
        | error fault => rfl
        | ok t =>
          simp only [bind, Except.bind]
          cases shifted t (-span) with
          | error fault => rfl
          | ok after =>
            simp only [pure, Except.pure, Except.map]
            split <;> rfl

theorem Sound.select_eq (h : w.Sound capacity) (r : Reading) (target : Int) (reach : Reach) :
    w.select r target reach =
      if w.Seeks r target then (reach.bounds r).map (w.pick r target) else .ok w.readings :=
  select_of_dated h.contents r target reach

theorem Sound.select_error_iff (h : w.Sound capacity) {r : Reading} {target : Int} {reach : Reach}
    {fault : Fault} :
    w.select r target reach = .error fault ↔ w.Seeks r target ∧ reach.bounds r = .error fault := by
  rw [h.select_eq]
  split
  · rename_i seeks
    cases bounds : reach.bounds r <;> simp [Except.map, seeks]
  · rename_i seeks
    simp [seeks]

theorem beforeLast_sublist {α : Type} (target : Int) (items : List α) :
    (beforeLast target items).Sublist items :=
  (List.drop_sublist _ _).trans (List.dropLast_sublist items)

theorem within_sublist (after upTo : Instant) (es : List Entry) :
    (Entry.within after upTo es).Sublist es :=
  (List.dropWhile_sublist _).trans (List.takeWhile_sublist _)

theorem Sound.select_sublist (h : w.Sound capacity) {r : Reading} {target : Int} {reach : Reach}
    {sample : List Reading} (selected : w.select r target reach = .ok sample) :
    sample.Sublist w.readings := by
  rw [h.select_eq] at selected
  split at selected
  · cases bounds : reach.bounds r with
    | error fault => simp [bounds, Except.map] at selected
    | ok b =>
      simp only [bounds, Except.map, Except.ok.injEq] at selected
      have found : ((Entry.within b.1 b.2 w.entries).map (·.reading)).Sublist w.readings := by
        rw [h.readings_eq]
        exact (within_sublist b.1 b.2 w.entries).map _
      rw [← selected, pick]
      split
      · exact found
      · split
        · exact List.Sublist.refl _
        · exact (beforeLast_sublist target _).trans found
  · rw [← Except.ok.inj selected]

theorem Sound.levelled_sample (h : w.Sound capacity) {r : Reading} {target : Int} {reach : Reach}
    {sample : List Reading} (selected : w.select r target reach = .ok sample) : Levelled sample :=
  Levelled.sublist (fun _ hr => h.levelled_reading hr) (h.select_sublist selected)

end Window

end FuelTelemetry

import FuelTelemetry.Proofs.Window.Selection
import FuelTelemetry.Proofs.Window.Tidy

/-!
Samples as slices. A sample is a contiguous part of its window: what lies around a replayed reading,
and for any other reading the whole window or, as many as the target says, the readings right before
the last one of the trailing span. That holds of every window that insertions, withdrawals and
clearings leave behind, as long as the bounds of the sample are instants of the calendar.
-/

namespace FuelTelemetry

open Time (Instant)

def Reading.liesIn (after upTo : Int) (r : Reading) : Bool :=
  r.time.any fun t => decide (after < t.micros) && decide ((t.micros : Int) ≤ upTo)

theorem Reading.isWithin_eq_liesIn (after upTo : Instant) (r : Reading) :
    r.isWithin after upTo = r.liesIn after.micros upTo.micros := by
  unfold isWithin liesIn
  cases r.time with
  | none => rfl
  | some t => simp [Instant.lt_iff, Instant.le_iff]

theorem Time.Instant.micros_of_shift? {t shifted : Instant} {micros : Int}
    (h : t.shift? micros = some shifted) : (shifted.micros : Int) = t.micros + micros := by
  unfold shift? ofMicros? at h
  split at h
  · rename_i inside
    rw [← Option.some.inj h]
    exact Int.toNat_of_nonneg inside.1
  · cases h

namespace Reach

def LooksAround (reach : Reach) (t : Instant) : Prop :=
  (-longestSpan ≤ Int.fdiv reach.lookaround 86400 ∧
      Int.fdiv reach.lookaround 86400 ≤ longestSpan) ∧
    (t.shift? (-(reach.lookaround * Time.second))).isSome ∧
      (t.shift? (reach.lookaround * Time.second)).isSome

def Reckons (reach : Reach) (r : Reading) (t : Instant) : Prop :=
  if r.isReplayed then reach.LooksAround t else reach.LooksBack t

/-- Less than the lookaround away from an instant, or later than it by just that. -/
def surrounds (reach : Reach) (t : Instant) (x : Reading) : Bool :=
  x.liesIn (t.micros - reach.lookaround * Time.second) (t.micros + reach.lookaround * Time.second)

def trails (reach : Reach) (t : Instant) (x : Reading) : Bool :=
  x.liesIn (t.micros - reach.lookback * Time.second) t.micros

variable {reach : Reach} {r : Reading} {t : Instant}

theorem LooksAround.bounds (h : reach.LooksAround t) (ht : r.time = some t)
    (replayed : r.isReplayed = true) :
    ∃ after upTo, reach.bounds r = .ok (after, upTo) ∧
      ∀ x : Reading, x.isWithin after upTo = reach.surrounds t x := by
  obtain ⟨days, before, behind⟩ := h
  obtain ⟨after, hafter⟩ := Option.isSome_iff_exists.1 before
  obtain ⟨upTo, hupTo⟩ := Option.isSome_iff_exists.1 behind
  refine ⟨after, upTo, ?_, fun x => ?_⟩
  · simp only [Reach.bounds, replayed, if_true, spanOf, days, and_self, Reading.instant, ht, shifted,
      bind, Except.bind, hafter, hupTo, pure, Except.pure]
  · rw [x.isWithin_eq_liesIn, Instant.micros_of_shift? hafter, Instant.micros_of_shift? hupTo]
    rfl

theorem LooksBack.bounds (h : reach.LooksBack t) (ht : r.time = some t)
    (current : r.isReplayed = false) :
    ∃ after, reach.bounds r = .ok (after, t) ∧
      ∀ x : Reading, x.isWithin after t = reach.trails t x := by
  obtain ⟨days, before⟩ := h
  obtain ⟨after, hafter⟩ := Option.isSome_iff_exists.1 before
  refine ⟨after, ?_, fun x => ?_⟩
  · simp only [Reach.bounds, current, Bool.false_eq_true, if_false, spanOf, days, and_self, if_true,
      Reading.instant, ht, shifted, bind, Except.bind, hafter, pure, Except.pure]
  · rw [x.isWithin_eq_liesIn, Instant.micros_of_shift? hafter]
    rfl

end Reach

theorem beforeLast_split {α : Type} {target : Int} {items : List α} (least : 0 ≤ target)
    (more : target < items.length) : ∃ front last,
      items = front ++ beforeLast target items ++ [last] ∧
        ((beforeLast target items).length : Int) = target := by
  have some_items : items ≠ [] := by
    rintro rfl
    simp only [List.length_nil] at more
    omega
  let start := items.length - (target + 1).toNat
  have cut : beforeLast target items = items.dropLast.drop start := by
    simp only [beforeLast, least, if_true, start]
  refine ⟨items.dropLast.take start, items.getLast some_items, ?_, ?_⟩
  · rw [cut, List.take_append_drop, List.dropLast_append_getLast]
  · rw [cut, List.length_drop, List.length_dropLast]
    omega

namespace Window

inductive Reachable (capacity : Nat) : Window → Prop
  | empty : Reachable capacity .empty
  | insert {w : Window} {r : Reading} {done : Inserted} (before : Reachable capacity w)
    (dated : r.time.isSome) (inserted : w.insert capacity r = .ok done) :
    Reachable capacity done.window
  | remove {w rest : Window} {arrival : Option Nat} {time : Option Instant} {found : Bool}
    (before : Reachable capacity w) (removed : w.remove arrival time = .ok (rest, found)) :
    Reachable capacity rest
  | clear {w : Window} (before : Reachable capacity w) : Reachable capacity w.clear

variable {capacity : Nat} {w : Window}

theorem Reachable.tidy (h : Reachable capacity w) : w.Tidy capacity := by
  induction h with
  | empty => exact tidy_empty capacity
  | insert _ dated inserted ih =>
    obtain ⟨t, ht⟩ := Option.isSome_iff_exists.1 dated
    rw [ih.insert_eq ht] at inserted
    rw [← Except.ok.inj inserted]
    exact ih.receive ht
  | @remove w rest arrival time found _ removed ih =>
    cases time with
    | some t =>
      rw [ih.remove_eq] at removed
      obtain ⟨rfl, -⟩ := Prod.mk.inj (Except.ok.inj removed)
      exact ih.sublist List.filter_sublist
    | none =>
      -- without a time there is only an empty window to take something out of
      unfold Window.remove at removed
      rw [ih.contents] at removed
      split at removed
      · contradiction
      · obtain ⟨rfl, -⟩ := Prod.mk.inj (Except.ok.inj removed)
        exact ih
      · cases removed
  | clear _ ih => exact ih.sublist (List.nil_sublist _)

theorem Reachable.receive {r : Reading} {t : Instant} (h : Reachable capacity w)
    (ht : r.time = some t) : Reachable capacity (w.receive capacity t r) :=
  .insert h (by simp [ht]) (h.tidy.insert_eq ht)

structure Slice (w : Window) (r : Reading) (t : Instant) (target : Int) (reach : Reach)
    (sample : List Reading) : Prop where
  contiguous : sample <:+: w.readings
  around : r.isReplayed = true → sample = w.readings.filter (reach.surrounds t)
  whole : r.isReplayed = false →
    w.size ≤ target ∨ (w.readings.filter (reach.trails t)).length ≤ target → sample = w.readings
  before : r.isReplayed = false → target < (w.readings.filter (reach.trails t)).length →
    ∃ front last back, w.readings = front ++ sample ++ last :: back ∧ sample.length = target ∧
      reach.trails t last = true ∧ ∀ x ∈ back, reach.trails t x = false
  whole_or_full : r.isReplayed = false →
    sample = w.readings ∨ (sample.length = target ∧ ∀ x ∈ sample, x.isUpTo t = true)
  short : r.isReplayed = false → sample.length < target → w.size < target

variable {r : Reading} {t : Instant} {target : Int} {reach : Reach}

theorem Tidy.within_eq (h : w.Tidy capacity) (after upTo : Instant) :
    (Entry.within after upTo w.entries).map (·.reading) =
      w.readings.filter (·.isWithin after upTo) :=
  Except.ok.inj ((query_of_dated h.contents after upTo).symm.trans (h.query_eq after upTo))

/-- What lies between two instants is a contiguous part, and what is behind it is too late. -/
theorem Tidy.split_within (h : w.Tidy capacity) (after upTo : Instant) :
    ∃ front back, w.readings = front ++ w.readings.filter (·.isWithin after upTo) ++ back ∧
      ∀ x ∈ back, x.isUpTo upTo = false := by
  let early (e : Entry) : Bool := e.time ≤ upTo
  let passed (e : Entry) : Bool := e.time ≤ after
  refine ⟨((w.entries.takeWhile early).takeWhile passed).map (·.reading),
    (w.entries.dropWhile early).map (·.reading), ?_, fun x hx => ?_⟩
  · rw [← h.within_eq, Entry.within, ← List.map_append, ← List.map_append,
      List.takeWhile_append_dropWhile, List.takeWhile_append_dropWhile, h.readings_eq]
  · obtain ⟨e, late, rfl⟩ := List.mem_map.1 hx
    rw [dropWhile_eq_filter (upTo_front h.inOrder upTo)] at late
    obtain ⟨there, late⟩ := List.mem_filter.1 late
    simpa [Reading.isUpTo, h.timed e there, early] using late

theorem isUpTo_of_trails {x : Reading} (h : reach.trails t x = true) : x.isUpTo t = true := by
  unfold Reach.trails Reading.liesIn at h
  unfold Reading.isUpTo
  cases time : x.time with
  | none => simp [time] at h
  | some other =>
    simp only [time, Option.any_some, Bool.and_eq_true, decide_eq_true_eq] at h ⊢
    exact Int.ofNat_le.1 h.2

theorem Tidy.slice_around (h : w.Tidy capacity) (ht : r.time = some t)
    (replayed : r.isReplayed = true) (around : reach.LooksAround t) :
    ∃ sample, w.select r target reach = .ok sample ∧ w.Slice r t target reach sample := by
  obtain ⟨after, upTo, bounds, within⟩ := around.bounds ht replayed
  have same : w.readings.filter (·.isWithin after upTo) = w.readings.filter (reach.surrounds t) :=
    List.filter_congr fun x _ => within x
  obtain ⟨front, back, split, -⟩ := h.split_within after upTo
  rw [same] at split
  refine ⟨w.readings.filter (reach.surrounds t), ?_, ?_⟩
  · rw [select_of_dated h.contents, if_pos (.inl replayed), bounds]
    simp only [Except.map, pick, replayed, if_true, h.within_eq, same]
  · have not_current : r.isReplayed ≠ false := by simp [replayed]
    exact {
      contiguous := ⟨front, back, split.symm⟩
      around := fun _ => rfl
      whole := fun current => absurd current not_current
      before := fun current => absurd current not_current
      whole_or_full := fun current => absurd current not_current
      short := fun current => absurd current not_current }

theorem slice_whole (current : r.isReplayed = false)
    (few : (w.readings.filter (reach.trails t)).length ≤ target) :
    w.Slice r t target reach w.readings where
  contiguous := List.infix_refl _
  around replayed := by simp [current] at replayed
  whole _ _ := rfl
  before _ many := absurd many (by omega)
  whole_or_full _ := .inl rfl
  short _ fewer := fewer

theorem Tidy.slice_before (h : w.Tidy capacity) (least : 1 ≤ target)
    (current : r.isReplayed = false) {after : Instant}
    (within : ∀ x : Reading, x.isWithin after t = reach.trails t x)
    (many : target < (w.readings.filter (reach.trails t)).length) :
    w.Slice r t target reach (beforeLast target (w.readings.filter (reach.trails t))) := by
  obtain ⟨front, back, split, late⟩ := h.split_within after t
  rw [List.filter_congr fun x _ => within x] at split
  obtain ⟨skipped, last, found, length⟩ := beforeLast_split (by omega) many
  have inside : ∀ x ∈ skipped ++ beforeLast target (w.readings.filter (reach.trails t)) ++ [last],
      reach.trails t x = true := fun x hx => by
    rw [← found] at hx
    exact List.of_mem_filter hx
  have whole : w.readings = (front ++ skipped) ++
      beforeLast target (w.readings.filter (reach.trails t)) ++ last :: back := by
    conv_lhs => rw [split, found]
    simp
  have size : (w.readings.filter (reach.trails t)).length ≤ w.size := List.length_filter_le _ _
  have later : ∀ x ∈ back, reach.trails t x = false := fun x hx => by
    have after_t := late x hx
    cases trails : reach.trails t x with
    | false => rfl
    | true => rw [isUpTo_of_trails trails] at after_t; exact after_t
  exact {
    contiguous := ⟨front ++ skipped, last :: back, whole.symm⟩
    around := fun replayed => by simp [current] at replayed
    whole := fun _ few => by omega
    before := fun _ _ => ⟨front ++ skipped, last, back, whole, length, inside last (by simp), later⟩
    whole_or_full := fun _ => .inr ⟨length, fun x hx => isUpTo_of_trails (inside x (by simp [hx]))⟩
    short := fun _ fewer => by omega }

theorem Tidy.slice_current (h : w.Tidy capacity) (ht : r.time = some t) (least : 1 ≤ target)
    (current : r.isReplayed = false) (back : reach.LooksBack t) :
    ∃ sample, w.select r target reach = .ok sample ∧ w.Slice r t target reach sample := by
  obtain ⟨after, bounds, within⟩ := back.bounds ht current
  have found : (Entry.within after t w.entries).map (·.reading) =
      w.readings.filter (reach.trails t) := by
    rw [h.within_eq, List.filter_congr fun x _ => within x]
  rw [select_of_dated h.contents, bounds]
  simp only [Except.map, pick, current, Bool.false_eq_true, if_false, found]
  by_cases few : (w.readings.filter (reach.trails t)).length ≤ target
  · refine ⟨w.readings, ?_, slice_whole current few⟩
    rw [if_pos few, ite_self]
  · have many : target < (w.readings.filter (reach.trails t)).length := by omega
    have size : (w.readings.filter (reach.trails t)).length ≤ w.size := List.length_filter_le _ _
    refine ⟨_, ?_, h.slice_before least current within many⟩
    rw [if_pos (.inr (by omega)), if_neg few]

/-- The sample of a reading whose bounds can be reckoned is that slice of the window. -/
theorem select_slice (reachable : Reachable capacity w) (ht : r.time = some t) (least : 1 ≤ target)
    (reckons : reach.Reckons r t) :
    ∃ sample, w.select r target reach = .ok sample ∧ w.Slice r t target reach sample := by
  unfold Reach.Reckons at reckons
  cases replayed : r.isReplayed with
  | true =>
    rw [if_pos replayed] at reckons
    exact reachable.tidy.slice_around ht replayed reckons
  | false =>
    rw [if_neg (by simp [replayed])] at reckons
    exact reachable.tidy.slice_current ht least replayed reckons

def ofTank (capacity : Nat) (minutes : List Nat) : Window :=
  minutes.foldl (fun w m =>
    let r := Reading.ofTank m none none
    r.time.elim w fun t => w.receive capacity t r) .empty

theorem reachable_ofTank (capacity : Nat) (minutes : List Nat) :
    Reachable capacity (ofTank capacity minutes) := by
  refine List.foldlRecOn minutes _ .empty fun w before m _ => ?_
  cases time : (Reading.ofTank m none none).time with
  | none => simpa [time] using before
  | some t => simpa [time] using before.receive time

/-- A late reading is pushed out of a full window that holds two readings at one time. -/
theorem select_slice_ofTank :
    let w := ofTank 4 [102, 104, 103, 103, 101]
    let r := Reading.ofTank 104 none none
    let t : Instant := ⟨104 * Time.minute, by decide⟩
    Reachable 4 w ∧ r.time = some t ∧ (1 : Int) ≤ 2 ∧ Reach.Reckons ⟨300, 1800⟩ r t ∧
      ∃ sample, w.select r 2 ⟨300, 1800⟩ = .ok sample ∧ w.Slice r t 2 ⟨300, 1800⟩ sample := by
  intro w r t
  have reckons : Reach.Reckons ⟨300, 1800⟩ r t := by
    unfold Reach.Reckons Reach.LooksAround Reach.LooksBack
    decide
  have reachable := reachable_ofTank 4 [102, 104, 103, 103, 101]
  exact ⟨reachable, rfl, by decide, reckons, select_slice reachable rfl (by decide) reckons⟩

end Window

end FuelTelemetry

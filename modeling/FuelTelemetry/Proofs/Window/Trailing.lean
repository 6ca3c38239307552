import FuelTelemetry.Proofs.Detection.Checking
import FuelTelemetry.Proofs.Window.Selection

/-!
Samples of a window whose readings came in the order of their times. Such a window ends a list of
all readings that it was given, and so does the trailing span of its last reading. The middle of a
sample then lies so many readings before the end of that list: half a sample and two more if the
sample was cut out of the trailing span, half the window and one more if it is the whole window.
-/

namespace FuelTelemetry

open Time (Instant)

theorem Entry.insert_of_after {e : Entry} {es : List Entry} (h : ∀ x ∈ es, x.time ≤ e.time) :
    e.insert es = es ++ [e] := by
  induction es with
  | nil => rfl
  | cons first rest ih =>
    have early : first.time ≤ e.time := h first List.mem_cons_self
    rw [insert, if_pos early, ih fun x hx => h x (List.mem_cons_of_mem first hx)]
    rfl

theorem getElem?_of_suffix {α : Type} {l whole : List α} (h : l <:+ whole) (i : Nat) :
    l[i]? = whole[whole.length - l.length + i]? := by
  obtain ⟨front, rfl⟩ := h
  have start : (front ++ l).length - l.length = front.length := by simp
  rw [start, List.getElem?_append_right (Nat.le_add_right _ _), Nat.add_sub_cancel_left]

theorem beforeLast_getElem? {α : Type} {target : Int} {items : List α} (least : 0 ≤ target)
    (more : target < items.length) {i : Nat} (inside : i < target.toNat) :
    (beforeLast target items)[i]? = items[items.length - (target.toNat + 1) + i]? := by
  have size : (target + 1).toNat = target.toNat + 1 := by omega
  simp only [beforeLast, least, if_true, size, List.getElem?_drop]
  rw [List.dropLast_eq_take, List.getElem?_take_of_lt (by omega)]

theorem length_beforeLast {α : Type} {target : Int} {items : List α} (least : 0 ≤ target)
    (more : target < items.length) : (beforeLast target items).length = target.toNat := by
  simp only [beforeLast, least, if_true, List.length_drop, List.length_dropLast]
  omega

namespace Window

variable {capacity : Nat} {w : Window} {r : Reading} {t : Instant} {given : List Reading}

theorem Sound.receive_suffix (h : w.Sound capacity) (late : ∀ e ∈ w.entries, e.time ≤ t)
    (ends : w.readings <:+ given) : (w.receive capacity t r).readings <:+ given ++ [r] := by
  have behind : (w.receive capacity t r).readings = (w.readings ++ [r]).rtake capacity := by
    rw [h.readings_eq, readings, Window.receive, Contents.readings, map_rtake,
      Entry.insert_of_after late, List.map_append]
    rfl
  have last : w.readings ++ [r] <:+ given ++ [r] := by
    obtain ⟨front, rfl⟩ := ends
    exact ⟨front, by simp⟩
  rw [behind]
  exact (List.drop_suffix _ _).trans last

def sliced (w : Window) (target lookback : Int) (r : Reading) : Bool :=
  match w.trailing lookback r with
  | .ok latest => target < latest.length
  | .error _ => false

theorem Sound.trailing_eq (h : w.Sound capacity) (current : r.isReplayed = false) (reach : Reach) :
    w.trailing reach.lookback r = (reach.bounds r).map fun bounds =>
      (Entry.within bounds.1 bounds.2 w.entries).map (·.reading) := by
  unfold trailing Reach.bounds
  simp only [h.query_eq, current, Bool.false_eq_true, if_false]
  cases spanOf reach.lookback with
  | error fault => rfl
  | ok span =>
    cases r.instant with
    | error fault => rfl
    | ok t =>
      simp only [bind, Except.bind]
      cases shifted t (-span) with
      | error fault => rfl
      | ok after => rfl

theorem bounds_upTo {reach : Reach} {bounds : Instant × Instant} (ht : r.time = some t)
    (current : r.isReplayed = false) (h : reach.bounds r = .ok bounds) : bounds.2 = t := by
  simp only [Reach.bounds, current, Bool.false_eq_true, if_false] at h
  obtain ⟨span, -, h⟩ := Except.bind_ok h
  obtain ⟨instant, dated, h⟩ := Except.bind_ok h
  obtain ⟨after, -, h⟩ := Except.bind_ok h
  rw [Reading.instant, ht] at dated
  cases dated
  cases h
  rfl

/-- Where no entry is later than the reading, its sample is the whole window or cut out of the end
of it. -/
theorem Sound.selected_current (h : w.Sound capacity) (ht : r.time = some t)
    (current : r.isReplayed = false) (late : ∀ e ∈ w.entries, e.time ≤ t) {target : Int}
    {reach : Reach} {sample : List Reading} (selected : w.select r target reach = .ok sample) :
    (w.sliced target reach.lookback r = false ∧ sample = w.readings) ∨
      (w.sliced target reach.lookback r = true ∧ ∃ latest, latest <:+ w.readings ∧
        target < latest.length ∧ sample = beforeLast target latest) := by
  have suffix (bounds : Instant × Instant) (found : reach.bounds r = .ok bounds) :
      (Entry.within bounds.1 bounds.2 w.entries).map (·.reading) <:+ w.readings := by
    have all : w.entries.takeWhile (·.time ≤ bounds.2) = w.entries := by
      rw [bounds_upTo ht current found]
      exact List.takeWhile_eq_self_iff.2 fun e he => by simpa using late e he
    rw [Entry.within, all, h.readings_eq]
    exact (List.dropWhile_suffix _).map _
  rw [h.select_eq] at selected
  unfold sliced
  rw [h.trailing_eq current]
  by_cases seeks : w.Seeks r target
  · rw [if_pos seeks] at selected
    cases found : reach.bounds r with
    | error fault =>
      rw [found] at selected
      cases selected
    | ok bounds =>
      rw [found] at selected
      have picked := Except.ok.inj selected
      simp only [pick, current, Bool.false_eq_true, if_false] at picked
      simp only [Except.map]
      split at picked
      · rename_i few
        exact .inl ⟨by simpa using few, picked.symm⟩
      · rename_i many
        exact .inr ⟨by simpa using many, _, suffix bounds found, by omega, picked.symm⟩
  · -- without bounds the window is too small to be cut
    rw [if_neg seeks] at selected
    refine .inl ⟨?_, (Except.ok.inj selected).symm⟩
    cases found : reach.bounds r with
    | error fault => rfl
    | ok bounds =>
      have few : (w.size : Int) ≤ target := by
        unfold Seeks at seeks
        omega
      have size : _ ≤ w.size := (suffix bounds found).length_le
      simp only [Except.map, decide_eq_false_iff_not]
      omega

theorem Sound.middleOf_selected (h : w.Sound capacity) (ht : r.time = some t)
    (current : r.isReplayed = false) (late : ∀ e ∈ w.entries, e.time ≤ t) {target : Int}
    (least : 0 < target) {reach : Reach} {sample : List Reading}
    (selected : w.select r target reach = .ok sample) (full : target ≤ sample.length)
    (ends : w.readings <:+ given) :
    middleOf sample = given[given.length - if w.sliced target reach.lookback r
        then target.toNat / 2 + 2 else w.size / 2 + 1]? ∧ target ≤ w.size := by
  have inside : w.size ≤ given.length := ends.length_le
  unfold middleOf
  rcases h.selected_current ht current late selected with
    ⟨whole, rfl⟩ | ⟨cut, latest, lasts, more, rfl⟩
  · have middle : given.length - w.size + midpointOf w.size = given.length - (w.size / 2 + 1) := by
      change target ≤ w.size at full
      unfold midpointOf
      omega
    rw [if_neg (by simp [whole]), getElem?_of_suffix ends]
    exact ⟨congrArg (given[·]?) middle, full⟩
  · have span : latest.length ≤ w.size := lasts.length_le
    have lasts' := lasts.trans ends
    have length := length_beforeLast (by omega) more
    have within : midpointOf target.toNat < target.toNat := by
      unfold midpointOf
      omega
    have middle : given.length - latest.length +
        (latest.length - (target.toNat + 1) + midpointOf target.toNat) =
          given.length - (target.toNat / 2 + 2) := by
      unfold midpointOf
      omega
    rw [if_pos cut, length, beforeLast_getElem? (by omega) more within, getElem?_of_suffix lasts',
      middle]
    exact ⟨rfl, by omega⟩

end Window

end FuelTelemetry

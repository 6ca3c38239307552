import FuelTelemetry.Proofs.Order.FrontPart
import FuelTelemetry.Proofs.Window.Sound
import FuelTelemetry.Window.Store

/-!
Tidy windows, which are all that insertions, withdrawals and clearings leave behind, whether or not
the readings have levels: dated entries in order of time and then of arrival, no more than the
capacity, each with the time of its reading, and numbered below the next arrival. In a tidy window a
bound in time holds of a front part, so that what is found by position is what a test of every
reading finds.
-/

namespace FuelTelemetry

open Time (Instant)

section InTime

variable {α : Type} {time : α → Instant} {xs : List α}
  (ordered : xs.Pairwise fun x y => time x ≤ time y)

include ordered

theorem upTo_front (bound : Instant) :
    xs.Pairwise fun x y => decide (time y ≤ bound) = true → decide (time x ≤ bound) = true := by
  refine ordered.imp fun {x y} le => ?_
  simp only [decide_eq_true_eq]
  exact Nat.le_trans le

theorem within_eq_filter (after upTo : Instant) :
    ((xs.takeWhile fun x => time x ≤ upTo).dropWhile fun x => time x ≤ after) =
      xs.filter fun x => decide (after < time x) && decide (time x ≤ upTo) := by
  have early := ordered.sublist (List.takeWhile_sublist fun x => decide (time x ≤ upTo))
  rw [dropWhile_eq_filter (upTo_front early after),
    takeWhile_eq_filter (upTo_front ordered upTo), List.filter_filter]
  refine List.filter_congr fun x _ => ?_
  rw [← decide_not]
  simp only [Instant.le_iff, Instant.lt_iff, Nat.not_le]

end InTime

namespace Entry

theorem perm_insert (e : Entry) (es : List Entry) : (e.insert es).Perm (e :: es) := by
  induction es with
  | nil => exact List.Perm.refl _
  | cons first rest ih =>
    simp only [insert]
    split
    · exact (ih.cons first).trans (List.Perm.swap e first rest)
    · exact List.Perm.refl _

structure Precedes (a b : Entry) : Prop where
  time_le : a.time ≤ b.time
  arrival_ne : a.arrival ≠ b.arrival
  arrival_lt : b.time ≤ a.time → a.arrival < b.arrival

theorem precedes_insert {e : Entry} {es : List Entry} (h : es.Pairwise Precedes)
    (newest : ∀ x ∈ es, x.arrival < e.arrival) : (e.insert es).Pairwise Precedes := by
  induction es with
  | nil => simp [insert]
  | cons first rest ih =>
    have above := (List.pairwise_cons.1 h).1
    simp only [insert]
    split
    · rename_i early
      refine List.pairwise_cons.2 ⟨fun x hx => ?_, ih (List.pairwise_cons.1 h).2
        fun x hx => newest x (List.mem_cons_of_mem first hx)⟩
      rcases mem_insert.1 hx with rfl | hx
      · have older := newest first List.mem_cons_self
        exact ⟨early, Nat.ne_of_lt older, fun _ => older⟩
      · exact above x hx
    · rename_i late
      refine List.pairwise_cons.2 ⟨fun x hx => ?_, h⟩
      have behind : first.time ≤ x.time := by
        rcases List.mem_cons.1 hx with rfl | hx
        · exact Nat.le_refl _
        · exact (above x hx).time_le
      have before : ¬ x.time ≤ e.time := fun le => late (Nat.le_trans behind le)
      refine ⟨?_, (Nat.ne_of_lt (newest x hx)).symm, fun le => absurd le before⟩
      simp only [Instant.le_iff] at before ⊢
      omega

end Entry

namespace Reading

def isUpTo (bound : Instant) (r : Reading) : Bool :=
  r.time.any fun t => t ≤ bound

def isWithin (after upTo : Instant) (r : Reading) : Bool :=
  r.time.any fun t => decide (after < t) && decide (t ≤ upTo)

end Reading

namespace Window

def times (w : Window) : List Instant := w.entries.map (·.time)

structure Tidy (capacity : Nat) (w : Window) : Prop where
  contents : w.contents = .dated w.entries
  ordered : w.entries.Pairwise Entry.Precedes
  timed : ∀ e ∈ w.entries, e.reading.time = some e.time
  numbered : ∀ e ∈ w.entries, e.arrival < w.arrivals
  bounded : w.entries.length ≤ capacity

variable {capacity : Nat} {w : Window} {t : Instant} {r : Reading}

theorem tidy_empty (capacity : Nat) : empty.Tidy capacity where
  contents := rfl
  ordered := List.Pairwise.nil
  timed := by simp [entries, empty]
  numbered := by simp [entries, empty]
  bounded := Nat.zero_le _

theorem Tidy.readings_eq (h : w.Tidy capacity) : w.readings = w.entries.map (·.reading) :=
  readings_of_dated h.contents

theorem Tidy.times_eq (h : w.Tidy capacity) : w.times.map some = w.readings.map (·.time) := by
  rw [times, h.readings_eq, List.map_map, List.map_map]
  exact List.map_congr_left fun e he => (h.timed e he).symm

theorem Tidy.inOrder (h : w.Tidy capacity) : Entry.InOrder w.entries :=
  h.ordered.imp fun {_ _} precedes => precedes.time_le

theorem Tidy.sublist (h : w.Tidy capacity) {rest : List Entry} (sub : rest.Sublist w.entries) :
    Tidy capacity { w with contents := .dated rest } where
  contents := rfl
  ordered := h.ordered.sublist sub
  timed e he := h.timed e (sub.subset he)
  numbered e he := h.numbered e (sub.subset he)
  bounded := Nat.le_trans sub.length_le h.bounded

theorem Tidy.insert_eq (h : w.Tidy capacity) (ht : r.time = some t) :
    w.insert capacity r = .ok ⟨w.receive capacity t r, w.arrivals,
      (w.displaced capacity t r).head?.map (·.reading)⟩ :=
  insert_eq_receive h.contents h.bounded ht

theorem entries_receive (capacity : Nat) (w : Window) (t : Instant) (r : Reading) :
    (w.receive capacity t r).entries =
      (Entry.insert ⟨w.arrivals, t, r⟩ w.entries).rtake capacity := rfl

theorem mem_receive {e : Entry} (he : e ∈ (w.receive capacity t r).entries) :
    e = ⟨w.arrivals, t, r⟩ ∨ e ∈ w.entries :=
  Entry.mem_insert.1 ((List.drop_sublist _ _).subset he)

theorem Tidy.receive (h : w.Tidy capacity) (ht : r.time = some t) :
    (w.receive capacity t r).Tidy capacity where
  contents := rfl
  ordered := (Entry.precedes_insert h.ordered h.numbered).sublist (List.drop_sublist _ _)
  timed e he := by
    rcases mem_receive he with rfl | he
    · exact ht
    · exact h.timed e he
  numbered e he := by
    rcases mem_receive he with rfl | he
    · exact Nat.lt_succ_self _
    · exact Nat.lt_succ_of_lt (h.numbered e he)
  bounded := by
    rw [entries_receive, length_rtake]
    exact Nat.min_le_left _ _

theorem perm_displaced (capacity : Nat) (w : Window) (t : Instant) (r : Reading) :
    (w.displaced capacity t r ++ (w.receive capacity t r).entries).Perm
      (⟨w.arrivals, t, r⟩ :: w.entries) := by
  rw [entries_receive, displaced, List.rdrop, List.rtake, List.take_append_drop]
  exact Entry.perm_insert _ _

theorem Tidy.perm_receive (h : w.Tidy capacity) (ht : r.time = some t) :
    (((w.displaced capacity t r).head?.map (·.reading)).toList ++
      (w.receive capacity t r).readings).Perm (w.readings ++ [r]) := by
  have one : (w.displaced capacity t r).length ≤ 1 := by
    have bounded := h.bounded
    rw [displaced, List.rdrop, List.length_take, Entry.length_insert]
    omega
  have whole : ((w.displaced capacity t r).head?.map (·.reading)).toList =
      (w.displaced capacity t r).map (·.reading) := by
    generalize w.displaced capacity t r = out at one
    cases out with
    | nil => rfl
    | cons e rest =>
      have alone : rest = [] := by simpa using one
      rw [alone]
      rfl
  rw [whole, (h.receive ht).readings_eq, h.readings_eq, ← List.map_append]
  exact ((perm_displaced capacity w t r).map Entry.reading).trans
    (List.perm_append_singleton r _).symm

def without (w : Window) (arrival : Option Nat) : Window :=
  { w with contents := .dated (w.entries.filter fun e => some e.arrival ≠ arrival) }

theorem Tidy.remove_eq (h : w.Tidy capacity) (arrival : Option Nat) (t : Instant) :
    w.remove arrival (some t) =
      .ok (w.without arrival, decide (∃ e ∈ w.entries, some e.arrival = arrival)) := by
  unfold remove
  rw [h.contents]
  simp only [List.length_filter_lt_length_iff_exists, decide_eq_true_eq, ne_eq, Decidable.not_not]
  rfl

theorem Tidy.without_eq_self (h : w.Tidy capacity) {arrival : Option Nat}
    (absent : ¬ ∃ e ∈ w.entries, some e.arrival = arrival) : w.without arrival = w := by
  have all : w.entries.filter (fun e => some e.arrival ≠ arrival) = w.entries :=
    List.filter_eq_self.2 fun e he => by simpa using fun same => absent ⟨e, he, same⟩
  rw [Window.without, all, ← h.contents]

theorem Tidy.filter_arrival (h : w.Tidy capacity) {front back : List Entry} {e : Entry}
    (split : w.entries = front ++ e :: back) :
    w.entries.filter (fun x => some x.arrival ≠ some e.arrival) = front ++ back := by
  have ordered := h.ordered
  rw [split] at ordered ⊢
  obtain ⟨-, behind, before⟩ := List.pairwise_append.1 ordered
  have others : ∀ x ∈ front ++ back, x.arrival ≠ e.arrival := by
    intro x hx
    rcases List.mem_append.1 hx with hx | hx
    · exact (before x hx e List.mem_cons_self).arrival_ne
    · exact ((List.pairwise_cons.1 behind).1 x hx).arrival_ne.symm
  rw [List.filter_append, List.filter_cons_of_neg (by simp), ← List.filter_append,
    List.filter_eq_self.2 fun x hx => by simpa using others x hx]

theorem Tidy.query_eq (h : w.Tidy capacity) (after upTo : Instant) :
    w.query (some after) (some upTo) = .ok (w.readings.filter (·.isWithin after upTo)) := by
  have found : (Entry.within after upTo w.entries).map (·.reading) =
      w.readings.filter (·.isWithin after upTo) := by
    rw [Entry.within, within_eq_filter h.inOrder, h.readings_eq, List.filter_map]
    refine congrArg _ (List.filter_congr fun e he => ?_)
    simp [Reading.isWithin, h.timed e he]
  unfold query
  rw [h.contents, ← found]

theorem Tidy.upTo_eq (h : w.Tidy capacity) (bound : Instant) :
    w.upTo (some bound) = .ok (w.readings.filter (·.isUpTo bound)) := by
  have found : (w.entries.takeWhile (·.time ≤ bound)).map (·.reading) =
      w.readings.filter (·.isUpTo bound) := by
    rw [takeWhile_eq_filter (upTo_front h.inOrder bound), h.readings_eq, List.filter_map]
    refine congrArg _ (List.filter_congr fun e he => ?_)
    simp [Reading.isUpTo, h.timed e he]
  unfold upTo
  rw [h.contents, ← found]

end Window

namespace WindowStore

theorem upsert_eq {s : WindowStore} {key : SensorKey} (h : (s.window key).Tidy s.capacity)
    {t : Instant} {r : Reading} (ht : r.time = some t) :
    s.upsert key r = .ok (s.setWindow key ((s.window key).receive s.capacity t r),
      ⟨key, (s.window key).arrivals, some t⟩,
      ((s.window key).displaced s.capacity t r).head?.map (·.reading)) := by
  rw [upsert, h.insert_eq ht, ht]
  rfl

theorem last_eq {s : WindowStore} {key : SensorKey} (h : (s.window key).Tidy s.capacity)
    (count : Int) (bound : Option Instant) :
    (s.last key count (bound.map .ofInstant)).2 = .ok (if count ≤ 0 then [] else
      ((s.window key).readings.filter fun r => bound.all (r.isUpTo ·)).rtake count.toNat) := by
  unfold last
  split
  · rfl
  · cases bound with
    | none =>
      simp only [Option.map_none, Option.all_none, List.filter_true]
      rfl
    | some bound =>
      simp only [Option.map_some, Option.all_some]
      change ((s.window key).upTo (some bound)).map _ = _
      rw [h.upTo_eq]
      rfl

theorem clear_capacity (s : WindowStore) (key : SensorKey) :
    (s.clear key).capacity = s.capacity := by
  unfold clear
  split <;> rfl

theorem window_clear_self (s : WindowStore) (key : SensorKey) :
    (s.clear key).window key = (s.window key).clear := by
  unfold clear
  split
  · rename_i w known
    rw [window_setWindow_self, window, known, Option.getD_some]
  · rename_i unknown
    rw [window, unknown]
    rfl

theorem window_clear_of_ne (s : WindowStore) {key other : SensorKey} (ne : other ≠ key) :
    (s.clear key).window other = s.window other := by
  unfold clear
  split
  · exact window_setWindow_of_ne s ne _
  · rfl

end WindowStore

end FuelTelemetry

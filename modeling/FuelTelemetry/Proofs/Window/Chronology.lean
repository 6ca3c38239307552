import FuelTelemetry.Window.Basic
import Mathlib.Data.List.DropRight
import Mathlib.Data.List.Sort

/-!
Stable order in time. Inserting an entry behind those at its time and before is one step of the
stable sort of all entries in order of arrival, and dropping the earliest entry after each step
leaves what dropping all but the last ones leaves in the end. A stable sort commutes with leaving
items out.
-/

namespace FuelTelemetry

namespace StableSort

variable {α : Type} {le : α → α → Bool}

theorem orderedInsert_append (a : α) {front back : List α} (after : ∀ b ∈ front, le a b = false)
    (before : ∀ b ∈ back, le a b = true) :
    (front ++ back).orderedInsert (fun x y => le x y = true) a = front ++ a :: back := by
  induction front with
  | nil =>
    cases back with
    | nil => rfl
    | cons b back => simp [before b List.mem_cons_self]
  | cons b front ih =>
    have hb := after b List.mem_cons_self
    simp [hb, ih fun x hx => after x (List.mem_cons_of_mem b hx)]

def tied (le : α → α → Bool) (a b : α) : Bool := le a b && le b a

theorem tied_self (refl : ∀ a, le a a = true) (a : α) : tied le a a = true := by
  simp [tied, refl]

theorem filter_tied_cons (refl : ∀ a, le a a = true) (a : α) (l : List α) :
    (a :: l).filter (tied le a) = a :: l.filter (tied le a) :=
  List.filter_cons_of_pos (tied_self refl a)

theorem before_of_filter_tied_eq (refl : ∀ a, le a a = true) {a b : α} {l m : List α}
    (sorted : (a :: l).Pairwise fun x y => le x y = true)
    (same : (a :: l).filter (tied le b) = (b :: m).filter (tied le b)) : le a b = true := by
  have among : b ∈ (a :: l).filter (tied le b) := by
    rw [same, filter_tied_cons refl]
    exact List.mem_cons_self
  rcases List.mem_cons.1 (List.mem_of_mem_filter among) with rfl | later
  · exact refl _
  · exact (List.pairwise_cons.1 sorted).1 b later

/-- Two sorted lists are one if they agree on every class of tied items. -/
theorem eq_of_sorted (refl : ∀ a, le a a = true) {l m : List α}
    (sorted : l.Pairwise fun a b => le a b = true) (sorted' : m.Pairwise fun a b => le a b = true)
    (same : ∀ a, a ∈ l ∨ a ∈ m → l.filter (tied le a) = m.filter (tied le a)) : l = m := by
  induction l generalizing m with
  | nil =>
    cases m with
    | nil => rfl
    | cons b m =>
      have among := same b (.inr List.mem_cons_self)
      rw [filter_tied_cons refl] at among
      cases among
  | cons a l ih =>
    cases m with
    | nil =>
      have among := same a (.inl List.mem_cons_self)
      rw [filter_tied_cons refl] at among
      cases among
    | cons b m =>
      have same_a := same a (.inl List.mem_cons_self)
      have same_b := same b (.inr List.mem_cons_self)
      -- either comes before the other, so both head the same class
      have both : tied le a b = true := by
        rw [tied, before_of_filter_tied_eq refl sorted same_b,
          before_of_filter_tied_eq refl sorted' same_a.symm]
        rfl
      obtain rfl : a = b := by
        rw [filter_tied_cons refl, List.filter_cons_of_pos both] at same_a
        exact (List.cons.inj same_a).1
      refine congrArg (a :: ·) (ih (List.pairwise_cons.1 sorted).2
        (List.pairwise_cons.1 sorted').2 fun x listed => ?_)
      have rests := same x (listed.imp (List.mem_cons_of_mem a) (List.mem_cons_of_mem a))
      rw [List.filter_cons, List.filter_cons] at rests
      split at rests
      · exact (List.cons.inj rests).2
      · exact rests

variable (trans : ∀ a b c, le a b = true → le b c = true → le a c = true)
  (total : ∀ a b, (le a b || le b a) = true)

include trans total

theorem mergeSort_split (a : α) (l : List α) : ∃ front back,
    (a :: l).mergeSort le = front ++ a :: back ∧ l.mergeSort le = front ++ back ∧
      (∀ b ∈ front, le a b = false) ∧ ∀ b ∈ back, le a b = true := by
  obtain ⟨front, back, whole, rest, after⟩ := List.mergeSort_cons trans total a l
  have sorted := List.pairwise_mergeSort trans total (a :: l)
  rw [whole] at sorted
  have before := (List.pairwise_cons.1 (List.pairwise_append.1 sorted).2.1).1
  exact ⟨front, back, whole, rest, fun b hb => by simpa using after b hb, before⟩

theorem mergeSort_cons (a : α) (l : List α) :
    (a :: l).mergeSort le = (l.mergeSort le).orderedInsert (fun x y => le x y = true) a := by
  obtain ⟨front, back, whole, rest, after, before⟩ := mergeSort_split trans total a l
  rw [whole, rest, orderedInsert_append a after before]

theorem filter_mergeSort (p : α → Bool) (l : List α) :
    (l.mergeSort le).filter p = (l.filter p).mergeSort le := by
  induction l with
  | nil => simp
  | cons a l ih =>
    obtain ⟨front, back, whole, rest, after, before⟩ := mergeSort_split trans total a l
    rw [rest, List.filter_append] at ih
    rw [whole]
    by_cases ha : p a
    · rw [List.filter_append, List.filter_cons_of_pos ha, List.filter_cons_of_pos ha,
        mergeSort_cons trans total, ← ih]
      refine (orderedInsert_append a (fun b hb => ?_) fun b hb => ?_).symm
      · exact after b (List.mem_of_mem_filter hb)
      · exact before b (List.mem_of_mem_filter hb)
    · rw [List.filter_append, List.filter_cons_of_neg ha, List.filter_cons_of_neg ha, ih]

theorem pairwise_mergeSort {first : α → α → Prop} {l : List α} (h : l.Pairwise first) :
    (l.mergeSort le).Pairwise fun a b => le a b = true ∧ (le b a = true → first a b) := by
  rw [List.pairwise_iff_forall_sublist]
  intro a b sub
  have sorted := List.pairwise_iff_forall_sublist.1 (List.pairwise_mergeSort trans total l) sub
  refine ⟨sorted, fun back => ?_⟩
  -- the sort leaves the items alone that are tied with the first
  let tied (x : α) : Bool := le a x && le x a
  have self : le a a = true := by simpa using total a a
  have kept : (l.filter tied).Pairwise fun x y => le x y = true := by
    refine List.pairwise_iff_forall_sublist.2 fun {x y} pair => ?_
    have both : tied x = true ∧ tied y = true :=
      ⟨List.of_mem_filter (pair.subset (by simp)), List.of_mem_filter (pair.subset (by simp))⟩
    simp only [tied, Bool.and_eq_true] at both
    exact trans x a y both.1.2 both.2.1
  have among : [a, b].filter tied = [a, b] := by simp [tied, self, sorted, back]
  have found := sub.filter tied
  rw [among, filter_mergeSort trans total, List.mergeSort_of_pairwise kept] at found
  exact List.pairwise_iff_forall_sublist.1 h (found.trans List.filter_sublist)

end StableSort

theorem rtake_cons {α : Type} {n : Nat} {l : List α} (a : α) (h : n ≤ l.length) :
    (a :: l).rtake n = l.rtake n := by
  have : l.length + 1 - n = (l.length - n) + 1 := by omega
  simp [List.rtake, this]

theorem rtake_of_length_le {α : Type} {n : Nat} {l : List α} (h : l.length ≤ n) :
    l.rtake n = l := by
  have : l.length - n = 0 := by omega
  simp [List.rtake, this]

theorem length_rtake {α : Type} (n : Nat) (l : List α) :
    (l.rtake n).length = min n l.length := by
  simp only [List.rtake, List.length_drop]
  omega

theorem map_rtake {α β : Type} (f : α → β) (n : Nat) (l : List α) :
    (l.rtake n).map f = (l.map f).rtake n := by
  simp [List.rtake]

namespace Entry

def notAfter (a b : Entry) : Bool := a.time ≤ b.time

theorem notAfter_trans (a b c : Entry) (hab : a.notAfter b = true) (hbc : b.notAfter c = true) :
    a.notAfter c = true := by
  simp only [notAfter, decide_eq_true_eq, Time.Instant.le_iff] at *
  omega

theorem notAfter_total (a b : Entry) : (a.notAfter b || b.notAfter a) = true := by
  simp only [notAfter, Bool.or_eq_true, decide_eq_true_eq, Time.Instant.le_iff]
  omega

def InOrder (es : List Entry) : Prop := es.Pairwise fun a b => a.time ≤ b.time

theorem inOrder_mergeSort (es : List Entry) : InOrder (es.mergeSort notAfter) := by
  refine (List.pairwise_mergeSort notAfter_trans notAfter_total es).imp fun {a b} h => ?_
  simpa [notAfter] using h

theorem mem_insert {e x : Entry} {es : List Entry} : x ∈ e.insert es ↔ x = e ∨ x ∈ es := by
  induction es with
  | nil => simp [insert]
  | cons first rest ih =>
    simp only [insert]
    split <;> simp [ih, or_left_comm]

theorem inOrder_insert (e : Entry) {es : List Entry} (h : InOrder es) :
    InOrder (e.insert es) := by
  induction es with
  | nil => simp [insert, InOrder]
  | cons first rest ih =>
    have above : ∀ x ∈ rest, first.time ≤ x.time := (List.pairwise_cons.1 h).1
    simp only [insert]
    split
    · rename_i early
      refine List.pairwise_cons.2 ⟨fun x hx => ?_, ih (List.pairwise_cons.1 h).2⟩
      rcases mem_insert.1 hx with rfl | hx
      · exact early
      · exact above x hx
    · rename_i late
      have before : e.time ≤ first.time := by
        simp only [Time.Instant.le_iff] at late ⊢
        omega
      refine List.pairwise_cons.2 ⟨fun x hx => ?_, h⟩
      rcases List.mem_cons.1 hx with rfl | hx
      · exact before
      · exact Nat.le_trans before (above x hx)

theorem insert_of_before {e : Entry} {es : List Entry} (h : ∀ x ∈ es, ¬ x.time ≤ e.time) :
    e.insert es = e :: es := by
  cases es with
  | nil => rfl
  | cons first rest => simp [insert, h first List.mem_cons_self]

/-- Going behind the earlier entries and going before the later ones commute. -/
theorem insert_orderedInsert (e a : Entry) (es : List Entry) :
    e.insert (es.orderedInsert (fun x y => notAfter x y = true) a) =
      (e.insert es).orderedInsert (fun x y => notAfter x y = true) a := by
  have rel (x y : Entry) : notAfter x y = true ↔ x.time ≤ y.time := by simp [notAfter]
  induction es with
  | nil =>
    by_cases h : a.time ≤ e.time <;> simp [insert, rel, h]
  | cons first rest ih =>
    simp only [rel] at ih ⊢
    by_cases hf : first.time ≤ e.time <;> by_cases ha : a.time ≤ first.time
    · have he : a.time ≤ e.time := Nat.le_trans ha hf
      simp [insert, hf, ha, he]
    · simpa [insert, hf, ha] using ih
    · by_cases he : a.time ≤ e.time <;> simp [insert, hf, ha, he]
    · have he : ¬ a.time ≤ e.time := by
        simp only [Time.Instant.le_iff] at hf ha ⊢
        omega
      simp [insert, hf, ha, he]

theorem mergeSort_concat (es : List Entry) (e : Entry) :
    (es ++ [e]).mergeSort notAfter = e.insert (es.mergeSort notAfter) := by
  induction es with
  | nil => simp [insert]
  | cons a es ih =>
    rw [List.cons_append, StableSort.mergeSort_cons notAfter_trans notAfter_total, ih,
      StableSort.mergeSort_cons notAfter_trans notAfter_total, insert_orderedInsert]

/-- Whether the earlier entries were dropped before an insertion does not show behind it. -/
theorem rtake_insert_rtake (capacity : Nat) (e : Entry) {es : List Entry} (h : InOrder es) :
    (e.insert (es.rtake capacity)).rtake capacity = (e.insert es).rtake capacity := by
  induction es with
  | nil => simp
  | cons first rest ih =>
    have above : ∀ x ∈ rest, first.time ≤ x.time := (List.pairwise_cons.1 h).1
    by_cases room : rest.length < capacity
    · rw [rtake_of_length_le (l := first :: rest) (by simp only [List.length_cons]; omega)]
    · have full : capacity ≤ rest.length := by omega
      rw [rtake_cons first full, ih (List.pairwise_cons.1 h).2]
      simp only [insert]
      split
      · rw [rtake_cons first (by rw [length_insert]; omega)]
      · rename_i late
        have behind : ∀ x ∈ rest, ¬ x.time ≤ e.time := by
          intro x hx hle
          exact late (Nat.le_trans (above x hx) hle)
        rw [insert_of_before behind, rtake_cons e full,
          rtake_cons e (Nat.le_succ_of_le full), rtake_cons first full]

end Entry

namespace Reading

def notAfter (a b : Reading) : Bool :=
  (a.time.map (·.micros)).getD 0 ≤ (b.time.map (·.micros)).getD 0

theorem notAfter_trans (a b c : Reading) (hab : a.notAfter b = true) (hbc : b.notAfter c = true) :
    a.notAfter c = true := by
  simp only [notAfter, decide_eq_true_eq] at *
  omega

theorem notAfter_total (a b : Reading) : (a.notAfter b || b.notAfter a) = true := by
  simp only [notAfter, Bool.or_eq_true, decide_eq_true_eq]
  omega

end Reading

end FuelTelemetry

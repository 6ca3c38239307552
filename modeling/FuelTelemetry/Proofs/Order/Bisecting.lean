import FuelTelemetry.Bisect
import FuelTelemetry.Proofs.Order.FrontPart

/-!
A binary search settles on the end of the front part, where what belongs in front is one and each
comparison gives an answer. What is cut and edited there is cut and edited where the front part ends.
-/

namespace FuelTelemetry

variable {α : Type} {m : Type → Type} [Monad m] {p : α → Bool} {l : List α}

theorem getElem_iff_lt_takeWhile (front : l.Pairwise fun x y => p y = true → p x = true) {i : Nat}
    (inside : i < l.length) : p l[i] = true ↔ i < (l.takeWhile p).length := by
  induction l generalizing i with
  | nil => cases inside
  | cons a l ih =>
    obtain ⟨above, rest⟩ := List.pairwise_cons.1 front
    by_cases ha : p a = true
    · rw [List.takeWhile_cons_of_pos ha]
      cases i with
      | zero => simp [ha]
      | succ i => simpa using ih rest (by simpa using inside)
    · rw [List.takeWhile_cons_of_neg ha]
      refine iff_of_false (fun holds => ha ?_) (Nat.not_lt_zero i)
      cases i with
      | zero => exact holds
      | succ i => exact above _ (List.getElem_mem (by simpa using inside)) holds

theorem bisectBetween_eq [LawfulMonad m] {inFront : α → m Bool}
    (answers : ∀ a ∈ l, inFront a = pure (p a))
    (front : l.Pairwise fun x y => p y = true → p x = true) (low high : Nat)
    (inside : high ≤ l.length) (least : low ≤ (l.takeWhile p).length)
    (most : (l.takeWhile p).length ≤ high) :
    bisectBetween inFront l low high inside = pure (l.takeWhile p).length := by
  rw [bisectBetween]
  split
  · rename_i some_left
    have middle : (low + high) / 2 < l.length := by omega
    have reached := getElem_iff_lt_takeWhile front middle
    rw [answers _ (List.getElem_mem middle), pure_bind]
    split
    · rename_i before
      exact bisectBetween_eq answers front _ _ _ (reached.1 before) most
    · rename_i behind
      exact bisectBetween_eq answers front _ _ _ least (Nat.le_of_not_lt fun lt =>
        behind (reached.2 lt))
  · rename_i none_left
    rw [Nat.le_antisymm least (by omega)]
termination_by high - low

theorem bisect_nil (inFront : α → m Bool) : bisect inFront [] = pure 0 := by
  rw [bisect, bisectBetween]
  exact dif_neg (Nat.lt_irrefl 0)

theorem bisect_error {ε : Type} {inFront : α → Except ε Bool} {fault : ε}
    (fails : ∀ a ∈ l, inFront a = .error fault) (some_item : l ≠ []) :
    bisect inFront l = .error fault := by
  have pos : 0 < l.length := List.length_pos_iff.2 some_item
  rw [bisect, bisectBetween, dif_pos pos, fails _ (List.getElem_mem (by omega))]
  rfl

theorem bisect_eq [LawfulMonad m] {inFront : α → m Bool}
    (answers : ∀ a ∈ l, inFront a = pure (p a))
    (front : l.Pairwise fun x y => p y = true → p x = true) :
    bisect inFront l = pure (l.takeWhile p).length :=
  bisectBetween_eq answers front _ _ _ (Nat.zero_le _) (List.takeWhile_sublist p).length_le

theorem take_length_takeWhile (p : α → Bool) (l : List α) :
    l.take (l.takeWhile p).length = l.takeWhile p :=
  (List.prefix_iff_eq_take.1 (List.takeWhile_prefix p)).symm

theorem drop_length_takeWhile (p q : α → Bool) (l : List α) :
    (l.takeWhile q).drop (l.takeWhile p).length = (l.takeWhile q).dropWhile p := by
  induction l with
  | nil => rfl
  | cons a l ih =>
    by_cases hq : q a = true
    · rw [List.takeWhile_cons_of_pos hq]
      by_cases hp : p a = true
      · rw [List.takeWhile_cons_of_pos hp, List.dropWhile_cons_of_pos hp, ← ih]
        rfl
      · rw [List.takeWhile_cons_of_neg hp, List.dropWhile_cons_of_neg hp]
        rfl
    · rw [List.takeWhile_cons_of_neg hq, List.drop_nil]
      rfl

end FuelTelemetry

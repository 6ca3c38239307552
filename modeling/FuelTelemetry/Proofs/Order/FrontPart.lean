/-!
Front parts of ordered lists. Where a property, once lost along a list, does not come back, the
members that have it are a front part: what is found by going on from the start is what a test of
every member finds.
-/

namespace FuelTelemetry

variable {α : Type} {p : α → Bool} {l : List α}

theorem takeWhile_eq_filter (front : l.Pairwise fun x y => p y = true → p x = true) :
    l.takeWhile p = l.filter p := by
  induction l with
  | nil => rfl
  | cons a l ih =>
    have rest := (List.pairwise_cons.1 front).2
    by_cases ha : p a = true
    · rw [List.takeWhile_cons_of_pos ha, List.filter_cons_of_pos ha, ih rest]
    · have behind : ∀ b ∈ l, ¬ p b = true := fun b hb holds =>
        ha ((List.pairwise_cons.1 front).1 b hb holds)
      rw [List.takeWhile_cons_of_neg ha, List.filter_cons_of_neg ha,
        List.filter_eq_nil_iff.2 behind]

theorem dropWhile_eq_filter (front : l.Pairwise fun x y => p y = true → p x = true) :
    l.dropWhile p = l.filter fun a => !p a := by
  induction l with
  | nil => rfl
  | cons a l ih =>
    have rest := (List.pairwise_cons.1 front).2
    by_cases ha : p a = true
    · rw [List.dropWhile_cons_of_pos ha, List.filter_cons_of_neg (by simp [ha]), ih rest]
    · have behind : ∀ b ∈ l, (!p b) = true := fun b hb => by
        simpa using fun holds => ha ((List.pairwise_cons.1 front).1 b hb holds)
      rw [List.dropWhile_cons_of_neg ha, List.filter_cons_of_pos (by simpa using ha),
        List.filter_eq_self.2 behind]

end FuelTelemetry

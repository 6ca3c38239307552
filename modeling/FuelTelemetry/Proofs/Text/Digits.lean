import FuelTelemetry.Text.Digit
import Mathlib.Algebra.Ring.Nat

/-!
Digits as they are written. The digits of a number are those of the number without its last digit and
then the last digit. A number padded to a width is written in the same way, and takes the whole width
if it has no more decimal digits than that.
-/

namespace FuelTelemetry.Text

/-- Induction over the digits of a number, the last digit behind the others. -/
theorem toDigits_induction {base : Nat} (large : 1 < base) {motive : Nat → List Char → Prop}
    (one : ∀ d < base, motive d [d.digitChar])
    (more : ∀ n d, d < base → motive n (Nat.toDigits base n) →
      motive (base * n + d) (Nat.toDigits base n ++ [d.digitChar])) (n : Nat) :
    motive n (Nat.toDigits base n) := by
  induction n using Nat.strongRecOn with
  | ind n ih =>
    rcases Nat.lt_or_ge n base with small | several
    · rw [Nat.toDigits_of_lt_base small]
      exact one n small
    · have front := ih (n / base) (Nat.div_lt_self (by omega) large)
      have all := more (n / base) (n % base) (Nat.mod_lt n (by omega)) front
      rwa [Nat.div_add_mod, ← Nat.toDigits_of_base_le large several] at all

def WritesDecimal (c : Char) : Prop := ∃ d < 10, c = d.digitChar

@[elab_as_elim] theorem WritesDecimal.elim {motive : Char → Prop} {c : Char} (h : WritesDecimal c)
    (all : ∀ d < 10, motive d.digitChar) : motive c := by
  obtain ⟨d, small, rfl⟩ := h
  exact all d small

theorem asciiDigit?_digitChar {d : Nat} (small : d < 10) : asciiDigit? d.digitChar = some d := by
  revert d
  decide

theorem writesDecimal_of_mem_decimal {c : Char} {n : Nat} (h : c ∈ decimal n) :
    WritesDecimal c := by
  have all : ∀ c ∈ decimal n, WritesDecimal c := by
    refine toDigits_induction (motive := fun _ digits => ∀ c ∈ digits, WritesDecimal c)
      (by decide) (fun d small => ?_) (fun _ d small front => ?_) n
    · exact List.forall_mem_singleton.2 ⟨d, small, rfl⟩
    · exact List.forall_mem_append.2 ⟨front, List.forall_mem_singleton.2 ⟨d, small, rfl⟩⟩
  exact all c h

theorem writesDecimal_of_mem_padded {c : Char} {width n : Nat} (h : c ∈ padded width n) :
    WritesDecimal c := by
  rcases List.mem_append.1 h with zero | digit
  · exact ⟨0, by decide, (List.mem_replicate.1 zero).2⟩
  · exact writesDecimal_of_mem_decimal digit

theorem decimal_ne_nil (n : Nat) : decimal n ≠ [] := Nat.toDigits_ne_nil

theorem padded_ne_nil (width n : Nat) : padded width n ≠ [] :=
  List.append_ne_nil_of_right_ne_nil _ (decimal_ne_nil n)

theorem padded_one {n : Nat} (small : n < 10) : padded 1 n = [n.digitChar] := by
  simp [padded, decimal, Nat.toDigits_of_lt_base small]

theorem padded_succ (width n : Nat) :
    padded (width + 2) n = padded (width + 1) (n / 10) ++ [(n % 10).digitChar] := by
  unfold padded decimal
  rcases Nat.lt_or_ge n 10 with small | large
  · rw [Nat.toDigits_of_lt_base small, Nat.div_eq_of_lt small, Nat.mod_eq_of_lt small,
      Nat.toDigits_of_lt_base (show 0 < 10 by decide)]
    simp [List.replicate_succ']
  · rw [Nat.toDigits_of_base_le (by decide) large, List.length_append, List.length_singleton,
      ← List.append_assoc, Nat.succ_sub_succ]

theorem length_padded {width n : Nat} (fits : n < 10 ^ (width + 1)) :
    (padded (width + 1) n).length = width + 1 := by
  induction width generalizing n with
  | zero => rw [padded_one (by simpa using fits), List.length_singleton]
  | succ width ih =>
    have tens : n / 10 < 10 ^ (width + 1) := by
      rw [Nat.pow_succ] at fits
      omega
    rw [padded_succ, List.length_append, List.length_singleton, ih tens]

theorem length_decimal_le (width : Nat) {n : Nat} (fits : n < 10 ^ (width + 1)) :
    (decimal n).length ≤ width + 1 := by
  rw [← length_padded fits, padded, List.length_append]
  exact Nat.le_add_left _ _

theorem lt_pow_length_decimal (n : Nat) : n < 10 ^ (decimal n).length := by
  refine toDigits_induction (motive := fun n digits => n < 10 ^ digits.length) (by decide)
    (fun d small => by simpa using small) (fun n d small front => ?_) n
  rw [List.length_append, List.length_singleton, Nat.pow_succ]
  omega

theorem length_decimal_le_iff {limit n : Nat} (positive : 0 < limit) :
    (decimal n).length ≤ limit ↔ n < 10 ^ limit := by
  obtain ⟨width, rfl⟩ := Nat.exists_eq_add_one.2 positive
  constructor
  · intro few
    exact Nat.lt_of_lt_of_le (lt_pow_length_decimal n) (Nat.pow_le_pow_right (by decide) few)
  · exact length_decimal_le width

def Overlong (n : Int) : Prop := 10 ^ digitLimit ≤ n.natAbs

instance (n : Int) : Decidable (Overlong n) := inferInstanceAs (Decidable (_ ≤ _))

theorem not_overlong_of_lt (digits : Nat) {n : Int} (few : digits ≤ digitLimit)
    (small : n.natAbs < 10 ^ digits) : ¬ Overlong n := by
  have bound : 10 ^ digits ≤ 10 ^ digitLimit := Nat.pow_le_pow_right (by decide) few
  exact Nat.not_le.2 (Nat.lt_of_lt_of_le small bound)

theorem Overlong.natAbs_ne_zero {n : Int} (long : Overlong n) : n.natAbs ≠ 0 := by
  have some_digits : 0 < 10 ^ digitLimit := Nat.pow_pos (by decide)
  unfold Overlong at long
  omega

theorem Overlong.le_log2 {n : Int} (long : Overlong n) {bits : Nat} (few : bits ≤ digitLimit) :
    bits ≤ n.natAbs.log2 := by
  refine (Nat.le_log2 long.natAbs_ne_zero).2 ?_
  calc 2 ^ bits ≤ 10 ^ bits := Nat.pow_le_pow_left (by decide) bits
    _ ≤ 10 ^ digitLimit := Nat.pow_le_pow_right (by decide) few
    _ ≤ n.natAbs := long

theorem integer?_eq_none_iff (n : Int) : integer? n = none ↔ Overlong n := by
  have digits : digitLimit < (decimal n.natAbs).length ↔ Overlong n := by
    rw [Overlong, ← not_iff_not, Nat.not_lt, Nat.not_le]
    exact length_decimal_le_iff (by decide)
  unfold integer?
  split <;> simp_all

end FuelTelemetry.Text

import FuelTelemetry.Proofs.Number.Overflow
import Mathlib.Algebra.Order.Field.Power
import Mathlib.Data.Nat.Cast.Order.Field
import Mathlib.Tactic.Linarith
import Mathlib.Tactic.Ring

/-!
How near a rounded ratio is. The exponent of a ratio below a power of two is so much below that power
that the mantissa has 53 bits; rounding to a whole mantissa is off by half a unit at most, and so the
double is off by half a unit of its last place. A carry into the next power of two changes the
mantissa and the exponent, but not the value.
-/

namespace FuelTelemetry.Number

variable {num den : Nat} {e : Int}

def FiniteDouble.magnitude (d : FiniteDouble) : ℚ := d.mantissa * 2 ^ d.exponent

theorem abs_roundHalfEven_sub_le (num : Nat) (pos : 0 < den) :
    |(roundHalfEven num den : ℚ) - num / den| ≤ 1 / 2 := by
  have split : den * (num / den) + num % den = num := Nat.div_add_mod num den
  have rest : num % den < den := Nat.mod_lt num pos
  have near : 2 * num ≤ den * (2 * roundHalfEven num den + 1) ∧
      den * (2 * roundHalfEven num den) ≤ 2 * num + den := by
    unfold roundHalfEven
    generalize num / den = quotient at *
    generalize num % den = remainder at *
    have parity : quotient % 2 = 0 ∨ quotient % 2 = 1 := by omega
    dsimp only
    split_ifs
    · constructor <;> nlinarith
    · constructor <;> nlinarith
    · rcases parity with even | odd
      · rw [even]
        constructor <;> nlinarith
      · rw [odd]
        constructor <;> nlinarith
  have pos' : (0 : ℚ) < den := by exact_mod_cast pos
  have low : (2 * num : ℚ) ≤ den * (2 * roundHalfEven num den + 1) := by exact_mod_cast near.1
  have high : (den * (2 * roundHalfEven num den) : ℚ) ≤ 2 * num + den := by exact_mod_cast near.2
  rw [abs_le, le_sub_iff_add_le, sub_le_iff_le_add]
  constructor
  · rw [neg_add_le_iff_le_add, div_le_iff₀ pos']
    linarith
  · rw [← sub_le_iff_le_add', le_div_iff₀ pos']
    linarith

theorem scaled_pos (pos : 0 < den) (num : Nat) (e : Int) : 0 < (scaled num den e).2 := by
  unfold scaled
  split_ifs
  · rw [Nat.shiftLeft_eq]
    positivity
  · exact pos

theorem scaled_ratio (num den : Nat) (e : Int) :
    ((scaled num den e).1 : ℚ) / (scaled num den e).2 = num / den / 2 ^ e := by
  unfold scaled
  split_ifs with large
  · obtain ⟨k, rfl⟩ := Int.eq_ofNat_of_zero_le large
    rw [Nat.shiftLeft_eq]
    push_cast
    rw [Int.toNat_natCast, zpow_natCast, div_div]
  · obtain ⟨k, rfl⟩ : ∃ k : Nat, e = -k := ⟨(-e).toNat, by omega⟩
    rw [Nat.shiftLeft_eq, Int.neg_neg, Int.toNat_natCast, zpow_neg, zpow_natCast, div_inv_eq_mul]
    push_cast
    ring

theorem log2_le_add {bits : Nat} (small : num < den * 2 ^ bits) :
    num.log2 ≤ den.log2 + bits := by
  rcases Nat.eq_zero_or_pos num with rfl | some_bit
  · simp
  · have high : num < 2 ^ (den.log2 + bits + 1) := calc
      num < den * 2 ^ bits := small
      _ ≤ 2 ^ (den.log2 + 1) * 2 ^ bits := Nat.mul_le_mul_right _ Nat.lt_log2_self.le
      _ = 2 ^ (den.log2 + bits + 1) := by rw [← Nat.pow_add, Nat.add_right_comm]
    exact Nat.lt_succ_iff.1 ((Nat.log2_lt some_bit.ne').2 high)

theorem exponentOf_le {bits : Nat} (pos : 0 < den) (small : num < den * 2 ^ bits) :
    exponentOf num den ≤ (bits : Int) - 53 := by
  have apart := log2_le_add small
  have pos' : (0 : ℚ) < den := by exact_mod_cast pos
  have ratio : (num : ℚ) / den < 2 ^ (bits : Int) := by
    rw [div_lt_iff₀' pos', zpow_natCast]
    exact_mod_cast small
  unfold exponentOf
  generalize guessed : (num.log2 : Int) - den.log2 - 52 = guess
  have full : hiddenBit ≤ (scaled num den guess).1 / (scaled num den guess).2 →
      guess ≤ (bits : Int) - 53 := by
    intro full
    have below : (2 : ℚ) ^ (52 + guess) < 2 ^ (bits : Int) := calc
      (2 : ℚ) ^ (52 + guess) = (hiddenBit : ℚ) * 2 ^ guess := by
        rw [zpow_add₀ (by norm_num), hiddenBit]
        norm_num
      _ ≤ ((scaled num den guess).1 / (scaled num den guess).2 : ℚ) * 2 ^ guess := by
        gcongr
        exact (Nat.cast_le.2 full).trans Nat.cast_div_le
      _ = num / den := by
        rw [scaled_ratio, div_mul_cancel₀ _ (by positivity)]
      _ < 2 ^ (bits : Int) := ratio
    have := (zpow_lt_zpow_iff_right₀ (by norm_num : (1 : ℚ) < 2)).1 below
    omega
  dsimp only
  rw [leastExponent]
  split_ifs with short
  · omega
  · have := full (Nat.not_lt.1 short)
    omega

/-- A ratio below `2 ^ bits` is rounded by half a unit of the last place at most. -/
theorem nearest?_close {bits : Nat} (pos : 0 < den) (small : num < den * 2 ^ bits)
    (range : bits ≤ 1023) :
    ∃ m e, nearest? num den = some (m, e) ∧
      |(m : ℚ) * 2 ^ e - num / den| ≤ 2 ^ ((bits : Int) - 54) := by
  have place := exponentOf_le pos small
  have close : |(mantissaOf num den : ℚ) * 2 ^ exponentOf num den - num / den| ≤
      2 ^ ((bits : Int) - 54) := by
    have unit : (0 : ℚ) < 2 ^ exponentOf num den := by positivity
    have half := abs_roundHalfEven_sub_le (scaled num den (exponentOf num den)).1
      (scaled_pos pos num (exponentOf num den))
    rw [scaled_ratio] at half
    calc |(mantissaOf num den : ℚ) * 2 ^ exponentOf num den - num / den|
        = |(mantissaOf num den : ℚ) - num / den / 2 ^ exponentOf num den| *
            2 ^ exponentOf num den := by
          rw [← abs_of_pos unit, ← abs_mul, abs_of_pos unit, sub_mul, div_mul_cancel₀ _ unit.ne']
      _ ≤ 1 / 2 * 2 ^ exponentOf num den := mul_le_mul_of_nonneg_right half unit.le
      _ = 2 ^ (exponentOf num den - 1) := by
          rw [zpow_sub_one₀ (by norm_num), mul_comm, one_div]
      _ ≤ 2 ^ ((bits : Int) - 54) := zpow_le_zpow_right₀ (by norm_num) (by omega)
  let carried := if mantissaOf num den == 2 * hiddenBit then (hiddenBit, exponentOf num den + 1)
    else (mantissaOf num den, exponentOf num den)
  have unfolded : nearest? num den = if carried.1 == 0 then some (0, leastExponent)
    else if carried.2 ≤ greatestExponent then some (carried.1, carried.2) else none := rfl
  have same : (carried.1 : ℚ) * 2 ^ carried.2 = mantissaOf num den * 2 ^ exponentOf num den := by
    dsimp only [carried]
    split_ifs with carry
    · rw [beq_iff_eq] at carry
      rw [carry, zpow_add_one₀ (by norm_num)]
      push_cast
      ring
    · rfl
  have top : carried.2 ≤ greatestExponent := by
    rw [greatestExponent]
    dsimp only [carried]
    split_ifs <;> dsimp only <;> omega
  rw [← same] at close
  rw [unfolded]
  split_ifs with zero
  · rw [beq_iff_eq] at zero
    refine ⟨0, leastExponent, rfl, ?_⟩
    rw [zero, Nat.cast_zero, zero_mul] at close
    rwa [Nat.cast_zero, zero_mul]
  · exact ⟨carried.1, carried.2, rfl, close⟩

theorem nearestFinite?_close (negative : Bool) {bits : Nat} (pos : 0 < den)
    (small : num < den * 2 ^ bits) (range : bits ≤ 1023) :
    ∃ d, nearestFinite? negative num den = some d ∧ d.negative = negative ∧
      |d.magnitude - num / den| ≤ 2 ^ ((bits : Int) - 54) := by
  obtain ⟨m, e, found, close⟩ := nearest?_close pos small range
  exact ⟨⟨negative, m, e⟩, by rw [nearestFinite?, found]; rfl, rfl, close⟩

theorem FiniteDouble.ratio_pos (d : FiniteDouble) : 0 < d.ratio.2 := by
  unfold ratio
  split_ifs
  · exact Nat.one_pos
  · rw [Nat.shiftLeft_eq]
    positivity

theorem FiniteDouble.ratio_eq (d : FiniteDouble) : (d.ratio.1 : ℚ) / d.ratio.2 = d.magnitude := by
  unfold ratio magnitude
  split_ifs with whole
  · obtain ⟨k, exponent⟩ := Int.eq_ofNat_of_zero_le whole
    rw [exponent, Nat.shiftLeft_eq, Int.toNat_natCast, zpow_natCast]
    push_cast
    ring
  · obtain ⟨k, exponent⟩ : ∃ k : Nat, d.exponent = -k := ⟨(-d.exponent).toNat, by omega⟩
    rw [exponent, Nat.shiftLeft_eq, Int.neg_neg, Int.toNat_natCast, zpow_neg, zpow_natCast]
    push_cast
    rw [one_mul, div_eq_mul_inv]

theorem FiniteDouble.truncate_eq (d : FiniteDouble) :
    d.truncate = if d.negative then -((d.ratio.1 / d.ratio.2 : Nat) : Int)
      else (d.ratio.1 / d.ratio.2 : Nat) := by
  unfold truncate ratio
  dsimp only
  split_ifs <;> simp [Nat.shiftRight_eq_div_pow, Nat.shiftLeft_eq]

end FuelTelemetry.Number

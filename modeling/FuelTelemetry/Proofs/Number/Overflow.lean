import FuelTelemetry.Number.Binary64
import Mathlib.Tactic.NormNum

/-!
Integers too large for a double. The exponent that rounding chooses for an integer is that of its
highest bit, and the rounded mantissa may carry into the next power of two. Together these refuse
the integers from the midpoint above the largest double on, and no others.
-/

namespace FuelTelemetry.Number

/-- The midpoint between the largest double and the power of two above it, `2 ^ 1024 - 2 ^ 970`. -/
def overflow : Nat := (2 ^ 54 - 1) * 2 ^ 970

theorem overflow_pos : 0 < overflow := by
  have pos (bits : Nat) : 0 < (2 ^ 54 - 1) * 2 ^ bits :=
    Nat.mul_pos (by decide) (Nat.two_pow_pos bits)
  exact pos 970

theorem div_le_roundHalfEven (num den : Nat) : num / den ≤ roundHalfEven num den := by
  unfold roundHalfEven
  dsimp only
  split_ifs <;> omega

theorem roundHalfEven_le (num den : Nat) : roundHalfEven num den ≤ num / den + 1 := by
  unfold roundHalfEven
  dsimp only
  split_ifs <;> omega

theorem lt_of_log2_lt {n low bits : Nat} (pos : n ≠ 0) (h : n.log2 < low + bits) :
    n < 2 ^ low * 2 ^ bits := by
  rw [← Nat.pow_add]
  exact (Nat.log2_lt pos).1 h

theorem le_of_le_log2 {n low bits : Nat} (pos : n ≠ 0) (h : low + bits ≤ n.log2) :
    2 ^ low * 2 ^ bits ≤ n := by
  rw [← Nat.pow_add]
  exact (Nat.le_log2 pos).1 h

/-- Below a power of two rounding reaches it exactly from the last midpoint on. -/
theorem roundHalfEven_eq_iff {half bound n : Nat} (pos : 0 < half) (odd : bound % 2 = 1)
    (below : n < (bound + 1) * (2 * half)) :
    roundHalfEven n (2 * half) = bound + 1 ↔ bound * (2 * half) + half ≤ n := by
  have split : 2 * half * (n / (2 * half)) + n % (2 * half) = n := Nat.div_add_mod _ _
  have rest : n % (2 * half) < 2 * half := Nat.mod_lt _ (by omega)
  have quotient : n / (2 * half) < bound + 1 := (Nat.div_lt_iff_lt_mul (by omega)).2 below
  rcases Nat.lt_or_ge (n / (2 * half)) bound with less | last
  · -- even a carry stays below the bound, and so does the integer itself
    have step : (n / (2 * half) + 1) * (2 * half) ≤ bound * (2 * half) :=
      Nat.mul_le_mul_right _ less
    have under := roundHalfEven_le n (2 * half)
    constructor
    · omega
    · intro reached
      rw [Nat.add_mul, Nat.mul_comm] at step
      omega
  · have quotient : n / (2 * half) = bound := by omega
    rw [quotient, Nat.mul_comm] at split
    unfold roundHalfEven
    simp only [quotient, odd]
    split_ifs <;> omega

theorem exponentOf_one {n : Nat} (pos : n ≠ 0) : exponentOf n 1 = (n.log2 : Int) - 52 := by
  have low : 2 ^ n.log2 ≤ n := Nat.log2_self_le pos
  have highest : hiddenBit ≤
      (scaled n 1 ((n.log2 : Int) - 52)).1 / (scaled n 1 ((n.log2 : Int) - 52)).2 := by
    unfold scaled
    split_ifs with large
    · have exponent : ((n.log2 : Int) - 52).toNat = n.log2 - 52 := by omega
      rw [exponent, Nat.shiftLeft_eq, one_mul, Nat.le_div_iff_mul_le (by positivity),
        show hiddenBit = 2 ^ 52 from rfl, ← Nat.pow_add, Nat.add_sub_cancel' (by omega)]
      exact low
    · have exponent : (-((n.log2 : Int) - 52)).toNat = 52 - n.log2 := by omega
      rw [exponent, Nat.shiftLeft_eq, Nat.div_one]
      calc hiddenBit = 2 ^ n.log2 * 2 ^ (52 - n.log2) := by
            rw [← Nat.pow_add, Nat.add_sub_cancel' (by omega), hiddenBit]
        _ ≤ n * 2 ^ (52 - n.log2) := Nat.mul_le_mul_right _ low
  unfold exponentOf
  simp only [show (Nat.log2 1 : Int) = 0 from rfl, sub_zero]
  rw [if_neg (by omega)]
  unfold leastExponent
  omega

theorem scaled_one {n : Nat} {exponent : Int} (large : 0 ≤ exponent) :
    scaled n 1 exponent = (n, 2 ^ exponent.toNat) := by
  rw [scaled, if_pos large, Nat.shiftLeft_eq, one_mul]

/-- The mantissa before the carry. -/
def mantissaOf (num den : Nat) : Nat :=
  let (n, d) := scaled num den (exponentOf num den)
  roundHalfEven n d

theorem nearest?_eq_none_iff (num den : Nat) :
    nearest? num den = none ↔ mantissaOf num den ≠ 0 ∧
      greatestExponent < exponentOf num den + if mantissaOf num den = 2 * hiddenBit then 1 else 0 := by
  let carried := if mantissaOf num den == 2 * hiddenBit then (hiddenBit, exponentOf num den + 1)
    else (mantissaOf num den, exponentOf num den)
  change (if carried.1 == 0 then some (0, leastExponent)
    else if carried.2 ≤ greatestExponent then some (carried.1, carried.2) else none) = none ↔ _
  by_cases carry : mantissaOf num den = 2 * hiddenBit
  · simp [carried, carry, show hiddenBit ≠ 0 by decide]
  · by_cases zero : mantissaOf num den = 0
    · simp [carried, zero, show hiddenBit ≠ 0 by decide]
    · simp [carried, carry, zero]

theorem mantissaOf_one_ne_zero {n : Nat} (pos : n ≠ 0) (large : 52 ≤ n.log2) :
    mantissaOf n 1 ≠ 0 := by
  have low : 2 ^ n.log2 ≤ n := Nat.log2_self_le pos
  have whole := div_le_roundHalfEven n (2 ^ (n.log2 - 52))
  have exponent : ((n.log2 : Int) - 52).toNat = n.log2 - 52 := by omega
  have some_bits : 0 < n / 2 ^ (n.log2 - 52) :=
    Nat.div_pos ((Nat.pow_le_pow_right (by decide) (by omega)).trans low) (by positivity)
  simp only [mantissaOf, exponentOf_one pos, scaled_one (show 0 ≤ (n.log2 : Int) - 52 by omega),
    exponent]
  omega

theorem mantissaOf_one_carries {n bits : Nat} (highest : n.log2 = 53 + bits) :
    mantissaOf n 1 = 2 * hiddenBit ↔ (2 ^ 54 - 1) * 2 ^ bits ≤ n := by
  have pos : n ≠ 0 := by
    rintro rfl
    rw [Nat.log2_zero] at highest
    omega
  have place : 2 ^ ((n.log2 : Int) - 52).toNat = 2 * 2 ^ bits := by
    rw [← Nat.pow_succ']
    congr 1
    omega
  have under : n < (2 ^ 53 - 1 + 1) * (2 * 2 ^ bits) := by
    have high := lt_of_log2_lt pos (show n.log2 < 54 + bits by omega)
    omega
  have rounded := roundHalfEven_eq_iff (Nat.two_pow_pos bits) (by decide) under
  simp only [mantissaOf, exponentOf_one pos, scaled_one (show 0 ≤ (n.log2 : Int) - 52 by omega),
    place]
  refine rounded.trans ?_
  omega

theorem nearest?_one_eq_none_iff (n : Nat) : nearest? n 1 = none ↔ overflow ≤ n := by
  rcases Nat.eq_zero_or_pos n with rfl | pos
  · exact iff_of_false (by decide) (Nat.not_le_of_lt (Nat.mul_pos (by decide) (by positivity)))
  have nonzero : n ≠ 0 := by omega
  rw [nearest?_eq_none_iff, exponentOf_one nonzero, greatestExponent]
  rcases Nat.lt_trichotomy n.log2 (53 + 970) with small | edge | large
  · have under := lt_of_log2_lt nonzero small
    refine iff_of_false (fun refused => ?_) ?_
    · have := refused.2
      split_ifs at this <;> omega
    · unfold overflow
      omega
  · unfold overflow
    rw [← mantissaOf_one_carries edge, edge]
    have mantissa := mantissaOf_one_ne_zero nonzero (by omega)
    constructor
    · rintro ⟨-, beyond⟩
      split_ifs at beyond with carry
      · exact carry
      · omega
    · intro carry
      exact ⟨mantissa, by rw [if_pos carry]; decide⟩
  · have beyond := le_of_le_log2 nonzero (show 54 + 970 ≤ n.log2 by omega)
    refine iff_of_true ⟨mantissaOf_one_ne_zero nonzero (by omega), ?_⟩ ?_
    · split_ifs <;> omega
    · unfold overflow
      omega

theorem nearest?_eq_none_of_large {num den : Nat} (positive : den ≠ 0) (pos : num ≠ 0)
    (large : den.log2 + 1026 ≤ num.log2) : nearest? num den = none := by
  have beyond : greatestExponent < exponentOf num den := by
    unfold exponentOf greatestExponent
    dsimp only
    split_ifs <;> omega
  have under : exponentOf num den ≤ (num.log2 : Int) - den.log2 - 52 := by
    unfold exponentOf leastExponent
    dsimp only
    split_ifs <;> omega
  have mantissa : mantissaOf num den ≠ 0 := by
    obtain ⟨exponent, place⟩ := Int.eq_ofNat_of_zero_le
      (show 0 ≤ exponentOf num den by unfold greatestExponent at beyond; omega)
    have shifted : scaled num den (exponentOf num den) = (num, den * 2 ^ exponent) := by
      rw [place, scaled, if_pos (by omega), Nat.shiftLeft_eq, Int.toNat_natCast]
    have below : den * 2 ^ exponent ≤ num := calc
      den * 2 ^ exponent ≤ 2 ^ (den.log2 + 1) * 2 ^ exponent :=
        Nat.mul_le_mul_right _ ((Nat.log2_lt positive).1 (Nat.lt_succ_self _)).le
      _ = 2 ^ (den.log2 + 1 + exponent) := (Nat.pow_add _ _ _).symm
      _ ≤ 2 ^ num.log2 := Nat.pow_le_pow_right (by decide) (by omega)
      _ ≤ num := Nat.log2_self_le pos
    have whole := div_le_roundHalfEven num (den * 2 ^ exponent)
    have some_bits : 0 < num / (den * 2 ^ exponent) := Nat.div_pos below (by positivity)
    simp only [mantissaOf, shifted]
    omega
  refine (nearest?_eq_none_iff num den).2 ⟨mantissa, ?_⟩
  split_ifs <;> omega

theorem ofInt?_eq_none_iff (n : Int) : ofInt? n = none ↔ overflow ≤ n.natAbs := by
  unfold ofInt? nearestFinite?
  rw [Option.map_eq_none_iff, Option.map_eq_none_iff, nearest?_one_eq_none_iff]

end FuelTelemetry.Number

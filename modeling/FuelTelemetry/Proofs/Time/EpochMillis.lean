import FuelTelemetry.Proofs.Number.Nearest
import FuelTelemetry.Proofs.Time.Calendar
import FuelTelemetry.Time.Epoch

/-!
Milliseconds since 1970 are exact for 272 years either way. There the seconds of a double are off by
`2 ^ -21` at most, which is less than half a microsecond; scaling the fraction of a second adds
`2 ^ -34` microseconds, and rounding adds one half. The sum of the three is less than one, and the
microseconds read and the microseconds meant are both whole, so that they are equal.
-/

namespace FuelTelemetry.Time

open FuelTelemetry.Number

variable {seconds : FiniteDouble} {target : Nat}

def wholeOf (seconds : FiniteDouble) : Nat := seconds.ratio.1 / seconds.ratio.2

def fractionOf (seconds : FiniteDouble) : ℚ :=
  (seconds.ratio.1 % seconds.ratio.2 : Nat) / seconds.ratio.2

def microsOf (seconds : FiniteDouble) : Nat :=
  let scaledDown := (nearestFinite? false (seconds.ratio.1 % seconds.ratio.2 * second)
    seconds.ratio.2).getD ⟨false, 0, leastExponent⟩
  roundHalfEven scaledDown.ratio.1 scaledDown.ratio.2

theorem splitSeconds_eq (seconds : FiniteDouble) :
    splitSeconds seconds =
      if seconds.negative && microsOf seconds ≠ 0 then
        (-(wholeOf seconds : Int) - 1, second - microsOf seconds)
      else if microsOf seconds == second then
        ((if seconds.negative then -(wholeOf seconds : Int) else wholeOf seconds) + 1, 0)
      else (if seconds.negative then -(wholeOf seconds : Int) else wholeOf seconds,
        microsOf seconds) := by
  have whole : seconds.truncate =
      if seconds.negative then -(wholeOf seconds : Int) else wholeOf seconds :=
    seconds.truncate_eq
  change (if seconds.negative && microsOf seconds ≠ 0 then
      (seconds.truncate - 1, second - microsOf seconds)
    else if microsOf seconds == second then (seconds.truncate + 1, 0)
    else (seconds.truncate, microsOf seconds)) = _
  rw [whole]
  cases seconds.negative <;> rfl

theorem wholeOf_add_fractionOf (seconds : FiniteDouble) :
    wholeOf seconds + fractionOf seconds = seconds.magnitude := by
  have pos : (0 : ℚ) < seconds.ratio.2 := by exact_mod_cast seconds.ratio_pos
  have split : (seconds.ratio.2 * wholeOf seconds +
      (seconds.ratio.1 % seconds.ratio.2 : Nat) : ℚ) = seconds.ratio.1 := by
    exact_mod_cast Nat.div_add_mod seconds.ratio.1 seconds.ratio.2
  rw [← seconds.ratio_eq, ← split, fractionOf, add_div, mul_div_cancel_left₀ _ pos.ne']

theorem fractionOf_lt_one (seconds : FiniteDouble) : fractionOf seconds < 1 := by
  have pos : (0 : ℚ) < seconds.ratio.2 := by exact_mod_cast seconds.ratio_pos
  rw [fractionOf, div_lt_one pos]
  exact_mod_cast Nat.mod_lt _ seconds.ratio_pos

theorem microsOf_close (seconds : FiniteDouble) :
    |microsOf seconds - fractionOf seconds * 1000000| ≤ 1 / 2 + 2 ^ (-34 : Int) := by
  have pos := seconds.ratio_pos
  have small : seconds.ratio.1 % seconds.ratio.2 * second < seconds.ratio.2 * 2 ^ 20 :=
    Nat.mul_lt_mul_of_lt_of_lt (Nat.mod_lt _ pos) (by decide)
  obtain ⟨scaledDown, found, -, scaling⟩ := nearestFinite?_close false pos small (by decide)
  have rounding := abs_roundHalfEven_sub_le scaledDown.ratio.1 scaledDown.ratio_pos
  have micros : microsOf seconds = roundHalfEven scaledDown.ratio.1 scaledDown.ratio.2 := by
    unfold microsOf
    rw [found]
    rfl
  have fraction : ((seconds.ratio.1 % seconds.ratio.2 * second : Nat) : ℚ) / seconds.ratio.2 =
      fractionOf seconds * 1000000 := by
    rw [fractionOf, second]
    push_cast
    ring
  rw [scaledDown.ratio_eq] at rounding
  rw [fraction] at scaling
  rw [micros]
  calc |(roundHalfEven scaledDown.ratio.1 scaledDown.ratio.2 : ℚ) - fractionOf seconds * 1000000|
      ≤ |(roundHalfEven scaledDown.ratio.1 scaledDown.ratio.2 : ℚ) - scaledDown.magnitude| +
          |scaledDown.magnitude - fractionOf seconds * 1000000| := abs_sub_le _ _ _
    _ ≤ 1 / 2 + 2 ^ (-34 : Int) := add_le_add rounding scaling

theorem microsOf_le (seconds : FiniteDouble) : microsOf seconds ≤ second := by
  have close := (abs_le.1 (microsOf_close seconds)).2
  have less := fractionOf_lt_one seconds
  have below : (microsOf seconds : ℚ) < (second + 1 : Nat) := by
    norm_num at close
    rw [second]
    push_cast
    linarith
  exact Nat.lt_succ_iff.1 (by exact_mod_cast below)

/-- Seconds within `2 ^ -21` of a whole number of microseconds have just these microseconds. -/
theorem micros_of_close (close : |seconds.magnitude - target / 1000000| ≤ 2 ^ (-21 : Int)) :
    wholeOf seconds * second + microsOf seconds = target := by
  have fraction := abs_le.1 (microsOf_close seconds)
  rw [← wholeOf_add_fractionOf, abs_le] at close
  have above : (wholeOf seconds * second + microsOf seconds : ℚ) < target + 1 := by
    rw [second]
    norm_num at close fraction ⊢
    linarith
  have below : (target : ℚ) < wholeOf seconds * second + microsOf seconds + 1 := by
    rw [second]
    norm_num at close fraction ⊢
    linarith
  have above : wholeOf seconds * second + microsOf seconds < target + 1 := by exact_mod_cast above
  have below : target < wholeOf seconds * second + microsOf seconds + 1 := by exact_mod_cast below
  omega

theorem splitSeconds_of_close
    (close : |seconds.magnitude - target / 1000000| ≤ 2 ^ (-21 : Int)) :
    (splitSeconds seconds).1 * second + (splitSeconds seconds).2 =
        (if seconds.negative then -(target : Int) else target) ∧
      (splitSeconds seconds).2 < second := by
  have exact := micros_of_close close
  have bound := microsOf_le seconds
  rw [splitSeconds_eq]
  rw [show second = 1000000 from rfl] at exact bound ⊢
  cases seconds.negative
  · rcases Nat.lt_or_ge (microsOf seconds) 1000000 with less | full
    · simp only [Bool.false_and, Bool.false_eq_true, if_false, beq_iff_eq, less.ne]
      omega
    · simp only [Bool.false_and, Bool.false_eq_true, if_false, beq_iff_eq,
        show microsOf seconds = 1000000 by omega, if_true]
      omega
  -- microseconds of a negative fraction are taken from one second more
  · rcases Nat.eq_zero_or_pos (microsOf seconds) with whole | fraction
    · simp [whole]
      omega
    · simp [fraction.ne']
      omega

/-- Seconds far within the years of the clock are read as their microseconds since 1970. -/
theorem ofEpochSeconds_of_close {t : Instant}
    (close : |seconds.magnitude - target / 1000000| ≤ 2 ^ (-21 : Int))
    (range : target < 2 ^ 33 * second)
    (meant : (t.micros : Int) =
      epochDay * day + if seconds.negative then -(target : Int) else target) :
    ofEpochSeconds seconds = .ok t := by
  obtain ⟨total, rest⟩ := splitSeconds_of_close close
  have early : yearStart (1900 - yearLimit) < -2 ^ 34 := by decide
  have late : 2 ^ 34 < yearStart (1900 + yearLimit) := by decide
  have clock : 2 ^ 34 < clockLimit := by decide
  unfold ofEpochSeconds
  generalize splitSeconds seconds = split at total rest ⊢
  obtain ⟨whole, micros⟩ := split
  dsimp only at total rest ⊢
  rw [show second = 1000000 from rfl] at total rest range
  have span : -2 ^ 34 < whole ∧ whole < 2 ^ 34 := by
    cases seconds.negative <;> simp at total <;> omega
  have sum : (whole + epochDay * 86400) * second + micros = (t.micros : Int) := by
    rw [meant, ← total, show day = 86400 * second from rfl, show second = 1000000 from rfl]
    push_cast
    ring
  have counted : ¬ (whole < -clockLimit ∨ clockLimit < whole) := by omega
  have in_years :
      ¬ (whole < yearStart (1900 - yearLimit) ∨ yearStart (1900 + yearLimit) ≤ whole) := by
    omega
  have found := Instant.ofMicros?_eq_some_iff.2 sum.symm
  simp only [if_neg counted, if_neg in_years, found]
  rfl

def Instant.epoch : Instant := ⟨epochDay * day, by decide⟩

theorem exists_epoch_shift {millis : Int} (range : millis.natAbs < 2 ^ 33 * 1000) :
    ∃ t, Instant.epoch.shift? (1000 * millis) = some t := by
  have first : (2 ^ 33 * 1000000 : Int) ≤ Instant.epoch.micros := by decide
  have last : (Instant.epoch.micros : Int) + 2 ^ 33 * 1000000 ≤ calendarSpan := by decide
  rw [Instant.shift?, Instant.ofMicros?, dif_pos (by omega)]
  exact ⟨_, rfl⟩

theorem ofEpochMillis_of_shift {millis : Int} {t : Instant} (range : millis.natAbs < 2 ^ 33 * 1000)
    (meant : Instant.epoch.shift? (1000 * millis) = some t) : ofEpochMillis millis = .ok t := by
  have small : millis.natAbs < 1000 * 2 ^ 33 := by omega
  obtain ⟨seconds, found, sign, close⟩ :=
    nearestFinite?_close (millis < 0) (by decide : 0 < 1000) small (by decide)
  have target : ((millis.natAbs : ℚ) / (1000 : Nat)) = (1000 * millis.natAbs : Nat) / 1000000 := by
    push_cast
    ring
  rw [target] at close
  unfold ofEpochMillis
  rw [found]
  refine ofEpochSeconds_of_close close (by rw [second]; omega) ?_
  rw [Instant.ofMicros?_eq_some_iff.1 meant, sign,
    show (Instant.epoch.micros : Int) = epochDay * day from Nat.cast_mul _ _]
  simp only [decide_eq_true_eq]
  split_ifs <;> omega

end FuelTelemetry.Time

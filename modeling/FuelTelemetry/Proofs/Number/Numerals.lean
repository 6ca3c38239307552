import FuelTelemetry.Number.Numeral
import FuelTelemetry.Proofs.Text.Digits
import FuelTelemetry.Proofs.Text.Words

/-!
Integers read from their decimal digits. ASCII digits stand for themselves in every step before the
value is taken: they are no margin, no sign and no underscore. The value then comes back by the last
digit and the digits before it, as it was written.
-/

namespace FuelTelemetry.Number

open FuelTelemetry.Text

variable {c : Char} {digits : List Char}

theorem asciiNumeral?_of_writesDecimal (h : WritesDecimal c) : asciiNumeral? c = some c :=
  h.elim (by decide)

theorem not_isMargin_of_writesDecimal (h : WritesDecimal c) : isMargin c = false :=
  h.elim (by decide)

theorem numeral?_of_writesDecimal (h : ∀ c ∈ digits, WritesDecimal c) :
    numeral? digits = some digits := by
  have ascii : digits.mapM asciiNumeral? = some digits := by
    induction digits with
    | nil => rfl
    | cons c digits ih =>
      rw [List.mapM_cons, asciiNumeral?_of_writesDecimal (h c List.mem_cons_self),
        ih fun d hd => h d (List.mem_cons_of_mem c hd)]
      rfl
  rw [numeral?, ascii, Option.map_some,
    trimBy_of_solid fun c hc => not_isMargin_of_writesDecimal (h c hc)]

theorem joinDigits?_of_writesDecimal (h : ∀ c ∈ digits, WritesDecimal c) (afterDigit : Bool) :
    joinDigits? afterDigit digits = some digits := by
  induction digits generalizing afterDigit with
  | nil => rfl
  | cons c digits ih =>
    have digit : c ≠ '_' := (h c List.mem_cons_self).elim (by decide)
    rw [joinDigits?.eq_4 _ _ _ digit, ih fun d hd => h d (List.mem_cons_of_mem c hd)]
    rfl

theorem signOf_of_writesDecimal (h : ∀ c ∈ digits, WritesDecimal c) :
    signOf digits = (false, digits) := by
  cases digits with
  | nil => rfl
  | cons c digits =>
    have digit : c ≠ '-' ∧ c ≠ '+' := (h c List.mem_cons_self).elim (by decide)
    exact signOf.eq_3 _ (fun rest same => digit.1 (List.cons.inj same).1)
      (fun rest same => digit.2 (List.cons.inj same).1)

theorem natural?_decimal (n : Nat) : natural? (decimal n) = some n := by
  have read : (decimal n).foldlM (fun n c => (asciiDigit? c).map (10 * n + ·)) 0 = some n := by
    refine toDigits_induction (motive := fun n digits =>
      digits.foldlM (fun n c => (asciiDigit? c).map (10 * n + ·)) 0 = some n)
      (by decide) (fun d small => ?_) (fun n d small front => ?_) n
    · rw [List.foldlM_cons, asciiDigit?_digitChar small]
      simp
    · rw [List.foldlM_append, front, Option.bind_eq_bind, Option.bind_some, List.foldlM_cons,
        asciiDigit?_digitChar small]
      rfl
  rw [natural?, if_neg (by simpa using decimal_ne_nil n), read]

theorem int?_decimal {n : Nat} (few : (decimal n).length ≤ Text.digitLimit) :
    int? (decimal n) = some (n : Int) := by
  have writes : ∀ c ∈ decimal n, WritesDecimal c := fun c hc => writesDecimal_of_mem_decimal hc
  unfold int?
  rw [numeral?_of_writesDecimal writes]
  simp only [Option.bind_eq_bind, Option.bind_some, signOf_of_writesDecimal writes,
    joinDigits?_of_writesDecimal writes, natural?_decimal]
  rw [if_neg (by omega)]
  rfl

end FuelTelemetry.Number

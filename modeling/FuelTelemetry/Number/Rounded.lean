import FuelTelemetry.Number.Shortest

/-!
Doubles rounded to a number of places behind the point or of significant digits, a half to the even
digit. `general` chooses between the two by the power of ten of the first digit.
-/

namespace FuelTelemetry.Number

structure Placed where
  whole : List Char
  fraction : List Char

def FiniteDouble.placed (d : FiniteDouble) (places : Nat) : Placed :=
  let (num, den) := d.ratio
  let digits := Text.padded (places + 1) (roundHalfEven (num * Nat.pow 10 places) den)
  let (fraction, whole) := digits.reverse.splitAt places
  ⟨whole.reverse, fraction.reverse⟩

def FiniteDouble.significant (d : FiniteDouble) (count : Nat) : Decimal :=
  if d.mantissa == 0 then ⟨List.replicate count '0', 0⟩
  else
    let (num, den) := d.ratio
    let exponent := decade num den
    let (up, down) := powerOfTen ((count : Int) - 1 - exponent)
    let rounded := roundHalfEven (num * up) (den * down)
    let digits := Text.decimal rounded
    if digits.length ≤ count then ⟨digits, exponent⟩
    else ⟨digits.take count, exponent + 1⟩

/-- A point is written before a fraction, and alone only if it is asked for. -/
def pointed (alone : Bool) (fraction : List Char) : List Char :=
  if fraction.isEmpty && !alone then [] else '.' :: fraction

def positional (d : FiniteDouble) (places : Nat) (point : Bool) : List Char :=
  let p := d.placed places
  p.whole ++ pointed point p.fraction

def exponentText (exponent : Int) : List Char :=
  'e' :: (if exponent < 0 then '-' else '+') :: Text.padded 2 exponent.natAbs

def exponential (d : FiniteDouble) (places : Nat) (point : Bool) : List Char :=
  let s := d.significant (places + 1)
  s.digits.take 1 ++ pointed point (s.digits.drop 1) ++ exponentText s.exponent

/-- So many significant digits: positional from `1e-4` up to the power of ten that has more digits
than that, else with an exponent. Zeros at the end are kept if a point is asked for. -/
def general (d : FiniteDouble) (count : Nat) (point : Bool) : List Char :=
  let count := max count 1
  let s := d.significant count
  let kept (fraction : List Char) : List Char :=
    if point then fraction else (fraction.reverse.dropWhile (· == '0')).reverse
  if -4 ≤ s.exponent ∧ s.exponent < count then
    if s.exponent < 0 then
      let zeros := List.replicate (-s.exponent - 1).toNat '0'
      '0' :: pointed point (kept (zeros ++ s.digits))
    else
      let whole := s.exponent.toNat + 1
      s.digits.take whole ++ pointed point (kept (s.digits.drop whole))
  else
    s.digits.take 1 ++ pointed point (kept (s.digits.drop 1)) ++ exponentText s.exponent

end FuelTelemetry.Number

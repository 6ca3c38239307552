/-!
Doubles as exact values. A finite double is an integer times a power of two; `nearest` rounds any
ratio of naturals to one, ties to the even mantissa, and refuses what lies beyond the largest.
Conversion from integers, from decimal text and from milliseconds to seconds all go through it, so
there is one rounding rule. Sums, products and quotients of doubles are those of `Float`.
-/

namespace FuelTelemetry.Number

structure FiniteDouble where
  negative : Bool
  mantissa : Nat
  exponent : Int
deriving DecidableEq, Repr

inductive Binary64 where
  | finite (value : FiniteDouble)
  | infinite (negative : Bool)
  | notANumber
deriving DecidableEq, Repr

/-- The least exponent; doubles below `2 ^ 52` times its power are subnormal. -/
def leastExponent : Int := -1074

def greatestExponent : Int := 971

/-- The bit above the fraction of a double, `2 ^ 52`. -/
def hiddenBit : Nat := 0x10000000000000

def signBit : Nat := 0x8000000000000000

def Binary64.ofFloat (x : Float) : Binary64 :=
  let bits := x.toBits.toNat
  let negative := bits / signBit == 1
  let biased : Nat := bits / hiddenBit % 2048
  let fraction : Nat := bits % hiddenBit
  if biased == 2047 then
    if fraction == 0 then .infinite negative else .notANumber
  else if biased == 0 then .finite ⟨negative, fraction, leastExponent⟩
  else .finite ⟨negative, fraction + hiddenBit, (biased : Int) - 1075⟩

/-- Expects a mantissa below `2 ^ 53` that is subnormal only at the least exponent. -/
def FiniteDouble.toFloat (d : FiniteDouble) : Float :=
  let sign := if d.negative then signBit else 0
  let magnitude :=
    if d.mantissa < hiddenBit then d.mantissa
    else (d.exponent + 1075).toNat * hiddenBit + (d.mantissa - hiddenBit)
  Float.ofBits (UInt64.ofNat (sign + magnitude))

def FiniteDouble.truncate (d : FiniteDouble) : Int :=
  let whole :=
    if 0 ≤ d.exponent then d.mantissa <<< d.exponent.toNat
    else d.mantissa >>> (-d.exponent).toNat
  if d.negative then -(whole : Int) else whole

def roundHalfEven (num den : Nat) : Nat :=
  let quotient := num / den
  let twice := 2 * (num % den)
  if twice < den then quotient
  else if den < twice then quotient + 1
  else quotient + quotient % 2

def scaled (num den : Nat) (exponent : Int) : Nat × Nat :=
  if 0 ≤ exponent then (num, den <<< exponent.toNat) else (num <<< (-exponent).toNat, den)

def exponentOf (num den : Nat) : Int :=
  let guess : Int := (num.log2 : Int) - den.log2 - 52
  let (n, d) := scaled num den guess
  max (if n / d < hiddenBit then guess - 1 else guess) leastExponent

def nearest? (num den : Nat) : Option (Nat × Int) :=
  let exponent := exponentOf num den
  let (n, d) := scaled num den exponent
  let mantissa := roundHalfEven n d
  let (mantissa, exponent) :=
    if mantissa == 2 * hiddenBit then (hiddenBit, exponent + 1) else (mantissa, exponent)
  if mantissa == 0 then some (0, leastExponent)
  else if exponent ≤ greatestExponent then some (mantissa, exponent)
  else none

def nearestFinite? (negative : Bool) (num den : Nat) : Option FiniteDouble :=
  (nearest? num den).map fun (mantissa, exponent) => ⟨negative, mantissa, exponent⟩

def ofInt? (n : Int) : Option Float :=
  (nearestFinite? (n < 0) n.natAbs 1).map FiniteDouble.toFloat

def ofCount (n : Nat) : Float := (ofInt? n).getD 0.0

def infinity : Float := 1.0 / 0.0

def nan : Float := 0.0 / 0.0

def FiniteDouble.ratio (d : FiniteDouble) : Nat × Nat :=
  if 0 ≤ d.exponent then (d.mantissa <<< d.exponent.toNat, 1)
  else (d.mantissa, 1 <<< (-d.exponent).toNat)

/-- Exact order of an integer and a double; no order with a number that is not one. -/
def intLess (n : Int) (x : Float) : Bool :=
  match Binary64.ofFloat x with
  | .finite d =>
    let (num, den) := d.ratio
    n * den < (if d.negative then -(num : Int) else num)
  | .infinite negative => !negative
  | .notANumber => false

def lessInt (x : Float) (n : Int) : Bool :=
  match Binary64.ofFloat x with
  | .finite d =>
    let (num, den) := d.ratio
    (if d.negative then -(num : Int) else num) < n * den
  | .infinite negative => negative
  | .notANumber => false

end FuelTelemetry.Number

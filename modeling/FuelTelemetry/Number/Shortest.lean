import FuelTelemetry.Number.Binary64
import FuelTelemetry.Text.Digit

/-!
The shortest decimal that reads back as a given double. A decimal reads back if it lies between the
midpoints to the neighbouring doubles, the midpoints included when the mantissa is even. For one
digit, two digits and so on the two decimals around the value are tried; the first length with a
hit wins, and of two hits the nearer.
-/

namespace FuelTelemetry.Number

def powerOfTen (k : Int) : Nat × Nat :=
  if 0 ≤ k then (Nat.pow 10 k.toNat, 1) else (1, Nat.pow 10 (-k).toNat)

/-- The `k` with `10 ^ k ≤ num / den < 10 ^ (k + 1)`; the guess from the binary length is off by
one at most. -/
def decade (num den : Nat) : Int :=
  let bits : Int := (num.log2 : Int) - den.log2
  let guess := Int.fdiv (bits * 30103) 100000
  let below (k : Int) : Bool := let (n, d) := powerOfTen k; num * d < n * den
  if below guess then guess - 1 else if below (guess + 1) then guess else guess + 1

/-- A positive double between its neighbours, in quarters of its last binary place. -/
structure Neighbourhood where
  low : Nat
  value : Nat
  high : Nat
  /-- The quarter place as a ratio. -/
  unit : Nat × Nat
  closed : Bool

/-- Below a power of two the doubles lie twice as dense. -/
def neighbourhood (mantissa : Nat) (exponent : Int) : Neighbourhood where
  low := 4 * mantissa -
    (if mantissa == hiddenBit && leastExponent < exponent then 1 else 2)
  value := 4 * mantissa
  high := 4 * mantissa + 2
  unit := scaled 1 1 (2 - exponent)
  closed := mantissa % 2 == 0

def onGrid? (v : Neighbourhood) (k : Int) : Option Nat :=
  let (tenNum, tenDen) := powerOfTen k
  let cell := tenNum * v.unit.2
  let unit := v.unit.1 * tenDen
  let value := v.value * unit
  let below := value / cell
  let inside (c : Nat) : Bool :=
    if v.closed then v.low * unit ≤ c * cell && c * cell ≤ v.high * unit
    else v.low * unit < c * cell && c * cell < v.high * unit
  let lower := inside below
  let upper := inside (below + 1)
  if lower && upper then
    let down := value - below * cell
    let up := (below + 1) * cell - value
    some (if down < up || (down == up && below % 2 == 0) then below else below + 1)
  else if lower then some below
  else if upper then some (below + 1)
  else none

/-- Tries the grid `10 ^ k` and finer ones; the last grid is finer than the doubles. -/
def firstOnGrid (v : Neighbourhood) : Nat → Int → Nat × Int
  | 0, k => ((onGrid? v k).getD 0, k)
  | n + 1, k =>
    match onGrid? v k with
    | some c => (c, k)
    | none => firstOnGrid v n (k - 1)

structure Decimal where
  digits : List Char
  exponent : Int

def shortest (mantissa : Nat) (exponent : Int) : Decimal :=
  let v := neighbourhood mantissa exponent
  let (num, den) := scaled mantissa 1 (-exponent)
  let (c, k) := firstOnGrid v 17 (decade num den)
  let digits := Text.decimal c
  let kept := (digits.reverse.dropWhile (· == '0')).reverse
  ⟨kept, k + digits.length - 1⟩

/-- Positional from `1e-4` up to below `1e16`, always with a point; else one digit before the
point and a signed exponent of at least two digits. -/
def Decimal.layout (d : Decimal) : List Char :=
  if -4 ≤ d.exponent ∧ d.exponent < 16 then
    if d.exponent < 0 then
      '0' :: '.' :: List.replicate (-d.exponent - 1).toNat '0' ++ d.digits
    else
      let whole := d.exponent.toNat + 1
      let padding := List.replicate (whole - d.digits.length) '0'
      let fraction := d.digits.drop whole
      d.digits.take whole ++ padding ++ '.' :: (if fraction.isEmpty then ['0'] else fraction)
  else
    let fraction := d.digits.drop 1
    let sign := if d.exponent < 0 then '-' else '+'
    d.digits.take 1 ++ (if fraction.isEmpty then [] else '.' :: fraction) ++
      'e' :: sign :: Text.padded 2 d.exponent.natAbs

structure SpecialTexts where
  nan : String
  infinity : String
  negativeInfinity : String

def text (special : SpecialTexts) (x : Float) : List Char :=
  match Binary64.ofFloat x with
  | .notANumber => special.nan.toList
  | .infinite negative =>
    (if negative then special.negativeInfinity else special.infinity).toList
  | .finite ⟨negative, mantissa, exponent⟩ =>
    let body :=
      if mantissa == 0 then ['0', '.', '0'] else (shortest mantissa exponent).layout
    if negative then '-' :: body else body

end FuelTelemetry.Number

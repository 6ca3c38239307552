import FuelTelemetry.Number.Binary64
import FuelTelemetry.Text.Blank
import FuelTelemetry.Text.Digit

/-!
Numbers written as text: integers and decimals in the digits of any script, with single underscores
between digits and blanks around. The information separators U+001C to U+001F, blank elsewhere, do
not count as blanks around a number.
-/

namespace FuelTelemetry.Number

/-- A character of a numeral in ASCII: digits of all scripts become ASCII digits, blanks above
ASCII become spaces, and other characters above ASCII stand in no numeral. -/
def asciiNumeral? (c : Char) : Option Char :=
  if c.toNat < 0x7F then some c
  else if Text.isBlank c then some ' '
  else (Text.decimalValue? c).map Text.digitChar

def isMargin (c : Char) : Bool :=
  c == ' ' || (0x09 ≤ c.toNat && c.toNat ≤ 0x0D)

def numeral? (text : List Char) : Option (List Char) :=
  (text.mapM asciiNumeral?).map (Text.trimBy isMargin)

def joinDigits? (afterDigit : Bool) : List Char → Option (List Char)
  | [] => some []
  | '_' :: rest =>
    match rest with
    | d :: _ => if afterDigit && d.isDigit then joinDigits? false rest else none
    | [] => none
  | c :: rest => (joinDigits? c.isDigit rest).map (c :: ·)

def natural? (digits : List Char) : Option Nat :=
  if digits.isEmpty then none
  else digits.foldlM (fun n c => (Text.asciiDigit? c).map (10 * n + ·)) 0

def signOf : List Char → Bool × List Char
  | '-' :: rest => (true, rest)
  | '+' :: rest => (false, rest)
  | rest => (false, rest)

def int? (text : List Char) : Option Int := do
  let (negative, body) := signOf (← numeral? text)
  let digits ← joinDigits? false body
  if Text.digitLimit < digits.length then none
  let n ← natural? digits
  return if negative then -(n : Int) else n

/-- The double nearest to `mantissa * 10 ^ exponent`, infinity beyond the largest double. The
magnitude decides first, so that no power out of range is computed. -/
def ofDecimal (negative : Bool) (mantissa : Nat) (exponent : Int) : Float :=
  let magnitude : Int := (Text.decimal mantissa).length + exponent
  let beyond := if negative then -infinity else infinity
  let zeroed := (FiniteDouble.mk negative 0 leastExponent).toFloat
  if mantissa == 0 || magnitude < -330 then zeroed
  else if 330 < magnitude then beyond
  else
    let (num, den) :=
      if 0 ≤ exponent then (mantissa * Nat.pow 10 exponent.toNat, 1)
      else (mantissa, Nat.pow 10 (-exponent).toNat)
    match nearestFinite? negative num den with
    | some d => d.toFloat
    | none => beyond

def exponent? (text : List Char) : Option Int := do
  let (negative, digits) := signOf text
  let n ← natural? digits
  return if negative then -(n : Int) else n

def decimal? (negative : Bool) (text : List Char) : Option Float := do
  let whole := text.takeWhile Char.isDigit
  let rest := text.dropWhile Char.isDigit
  let (fraction, rest) := match rest with
    | '.' :: more => (more.takeWhile Char.isDigit, more.dropWhile Char.isDigit)
    | _ => ([], rest)
  let mantissa ← natural? (whole ++ fraction)
  let exponent ← match rest with
    | [] => some 0
    | c :: more => if c == 'e' || c == 'E' then exponent? more else none
  return ofDecimal negative mantissa (exponent - fraction.length)

def float? (text : List Char) : Option Float := do
  let (negative, body) := signOf (← numeral? text)
  let word := String.ofList (body.map Char.toLower)
  if word == "inf" || word == "infinity" then
    return if negative then -infinity else infinity
  else if word == "nan" then return nan
  else decimal? negative (← joinDigits? false body)

end FuelTelemetry.Number

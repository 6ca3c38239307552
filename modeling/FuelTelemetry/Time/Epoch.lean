import FuelTelemetry.Number.Binary64
import FuelTelemetry.Time.Instant

/-!
Instants from milliseconds since 1970. The milliseconds become seconds by one rounded division; of
the seconds' double the fraction is scaled to microseconds, again rounded to a double, and then
rounded to a whole number, a half to the even one. Each way to leave the calendar has its own cause.
-/

namespace FuelTelemetry.Time

open FuelTelemetry.Number

inductive EpochFault where
  /-- More than `2 ^ 63` seconds, or more milliseconds than a double holds. -/
  | beyondClock
  /-- Not a number. -/
  | undefined
  /-- A year of more than 32 bits. -/
  | beyondYears
  /-- A year before 1 or after 9999. -/
  | outOfCalendar
deriving DecidableEq, Repr

def epochDay : Nat := 719162

/-- Seconds from 1970 to the start of a year, which may lie outside the calendar. -/
def yearStart (year : Int) : Int :=
  let y := year - 1
  (365 * y + Int.fdiv y 4 - Int.fdiv y 100 + Int.fdiv y 400 - epochDay) * 86400

/-- Seconds that the clock counts either way, `2 ^ 63`. -/
def clockLimit : Int := 0x8000000000000000

/-- Years that the clock counts from 1900 either way, `2 ^ 31`. -/
def yearLimit : Int := 0x80000000

def splitSeconds (seconds : FiniteDouble) : Int × Nat :=
  let whole := seconds.truncate
  let (num, den) := seconds.ratio
  let scaledDown := (nearestFinite? false (num % den * second) den).getD ⟨false, 0, leastExponent⟩
  let (n, d) := scaledDown.ratio
  let micros := roundHalfEven n d
  if seconds.negative && micros ≠ 0 then (whole - 1, second - micros)
  else if micros == second then (whole + 1, 0)
  else (whole, micros)

def ofEpochSeconds (seconds : FiniteDouble) : Except EpochFault Instant := do
  let (whole, micros) := splitSeconds seconds
  if whole < -clockLimit ∨ clockLimit < whole then throw .beyondClock
  if whole < yearStart (1900 - yearLimit) ∨ yearStart (1900 + yearLimit) ≤ whole then
    throw .beyondYears
  match Instant.ofMicros? ((whole + epochDay * 86400) * second + micros) with
  | some t => return t
  | none => throw .outOfCalendar

def ofEpochMillis (millis : Int) : Except EpochFault Instant :=
  match nearestFinite? (millis < 0) millis.natAbs 1000 with
  | some seconds => ofEpochSeconds seconds
  | none => throw .beyondClock

def ofEpochFloat (millis : Float) : Except EpochFault Instant :=
  match Binary64.ofFloat (millis / 1000.0) with
  | .finite seconds => ofEpochSeconds seconds
  | .infinite _ => throw .beyondClock
  | .notANumber => throw .undefined

end FuelTelemetry.Time

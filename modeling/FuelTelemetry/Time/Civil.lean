import FuelTelemetry.Text.Digit

/-!
The proleptic Gregorian calendar. Days are counted from 0 at 1 January of the year 1, a Monday;
years run from 1 to 9999. Weeks follow the ISO rule: they begin on Monday and week 1 holds the
year's first Thursday.
-/

namespace FuelTelemetry.Time

structure CivilDate where
  year : Nat
  month : Nat
  day : Nat
deriving DecidableEq, Repr

def isLeap (year : Nat) : Bool :=
  year % 4 == 0 && (year % 100 != 0 || year % 400 == 0)

def monthLengths (leap : Bool) : List Nat :=
  [31, if leap then 29 else 28, 31, 30, 31, 30, 31, 31, 30, 31, 30, 31]

def daysBeforeYear (year : Nat) : Nat :=
  365 * (year - 1) + (year - 1) / 4 - (year - 1) / 100 + (year - 1) / 400

def lastYear : Nat := 9999

def calendarDays : Nat := 3652059

namespace CivilDate

def Valid (date : CivilDate) : Prop :=
  1 ≤ date.year ∧ date.year ≤ lastYear ∧ 1 ≤ date.month ∧ date.month ≤ 12 ∧ 1 ≤ date.day ∧
    date.day ≤ (monthLengths (isLeap date.year)).getD (date.month - 1) 0

instance (date : CivilDate) : Decidable date.Valid := by
  unfold Valid; infer_instance

def dayNumber (date : CivilDate) : Nat :=
  ((monthLengths (isLeap date.year)).take (date.month - 1)).foldl (· + ·)
    (daysBeforeYear date.year) + (date.day - 1)

end CivilDate

/-- Month and day of a day of the year, counted from 0, from the lengths of the months left. -/
def monthAndDay (month : Nat) : List Nat → Nat → Nat × Nat
  | [], rest => (month, rest + 1)
  | length :: lengths, rest =>
    if rest < length then (month, rest + 1) else monthAndDay (month + 1) lengths (rest - length)

/-- The year of a day number, and the day within it from 0. Four centuries have 146097 days, a
century 36524, four years 1461 and a year 365; the last of its group is one day longer. -/
def yearAndDay (n : Nat) : Nat × Nat :=
  let eras := n / 146097
  let inEra := n % 146097
  let centuries := min (inEra / 36524) 3
  let inCentury := inEra - 36524 * centuries
  let groups := inCentury / 1461
  let inGroup := inCentury % 1461
  let years := min (inGroup / 365) 3
  (400 * eras + 100 * centuries + 4 * groups + years + 1, inGroup - 365 * years)

def CivilDate.ofDayNumber (n : Nat) : CivilDate :=
  let (year, rest) := yearAndDay n
  let (month, day) := monthAndDay 1 (monthLengths (isLeap year)) rest
  ⟨year, month, day⟩

def weekday (n : Nat) : Nat := n % 7

/-- Weeks of an ISO year: 53 if it begins on Thursday, or on Wednesday in a leap year. -/
def weeksOf (year : Nat) : Nat :=
  let first := weekday (daysBeforeYear year)
  if first == 3 || (first == 2 && isLeap year) then 53 else 52

def ofWeekDate? (year week day : Nat) : Option CivilDate :=
  let newYear : Int := daysBeforeYear year
  let first := weekday (daysBeforeYear year)
  let monday := newYear - first + (if first > 3 then 7 else 0)
  let n := monday + 7 * ((week : Int) - 1) + ((day : Int) - 1)
  if 1 ≤ year ∧ year ≤ lastYear ∧ 1 ≤ week ∧ week ≤ weeksOf year ∧ 1 ≤ day ∧ day ≤ 7 ∧
      0 ≤ n ∧ n < calendarDays then
    some (CivilDate.ofDayNumber n.toNat)
  else none

end FuelTelemetry.Time

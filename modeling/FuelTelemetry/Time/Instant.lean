import FuelTelemetry.Time.Civil

/-!
Instants: microseconds of civil time from the start of the year 1 to the end of the year 9999,
without an offset. Device times are instants in UTC. An instant out of the calendar does not exist,
so that shifting is partial.
-/

namespace FuelTelemetry.Time

def second : Nat := 1000000
def minute : Nat := 60 * second
def hour : Nat := 60 * minute
def day : Nat := 24 * hour

def calendarSpan : Nat := calendarDays * day

structure Instant where
  micros : Nat
  inCalendar : micros < calendarSpan
deriving DecidableEq

namespace Instant

instance : LT Instant := ⟨fun a b => a.micros < b.micros⟩
instance : LE Instant := ⟨fun a b => a.micros ≤ b.micros⟩
instance (a b : Instant) : Decidable (a < b) := inferInstanceAs (Decidable (a.micros < b.micros))
instance (a b : Instant) : Decidable (a ≤ b) := inferInstanceAs (Decidable (a.micros ≤ b.micros))

theorem le_iff {a b : Instant} : a ≤ b ↔ a.micros ≤ b.micros := Iff.rfl

theorem lt_iff {a b : Instant} : a < b ↔ a.micros < b.micros := Iff.rfl

def ofMicros? (micros : Int) : Option Instant :=
  if h : 0 ≤ micros ∧ micros < calendarSpan then
    some ⟨micros.toNat, by omega⟩
  else none

def shift? (t : Instant) (micros : Int) : Option Instant :=
  ofMicros? (t.micros + micros)

theorem shift?_zero (t : Instant) : t.shift? 0 = some t := by
  have h := t.inCalendar
  simp [shift?, ofMicros?, h]

def ofCivil? (date : CivilDate) (timeOfDay : Nat) : Option Instant :=
  if date.Valid ∧ timeOfDay < day then ofMicros? (date.dayNumber * day + timeOfDay) else none

def date (t : Instant) : CivilDate :=
  CivilDate.ofDayNumber (t.micros / day)

def timeOfDay (t : Instant) : Nat :=
  t.micros % day

end Instant

def fractionText (micros : Nat) : List Char :=
  if micros == 0 then [] else '.' :: Text.padded 6 micros

def clockText (micros : Nat) : List Char :=
  Text.padded 2 (micros / hour) ++ ':' :: Text.padded 2 (micros / minute % 60) ++
    ':' :: Text.padded 2 (micros / second % 60) ++ fractionText (micros % second)

def dateText (date : CivilDate) : List Char :=
  Text.padded 4 date.year ++ '-' :: Text.padded 2 date.month ++ '-' :: Text.padded 2 date.day

def Instant.iso (t : Instant) : List Char :=
  dateText t.date ++ 'T' :: clockText t.timeOfDay

def Instant.text (t : Instant) : String :=
  String.ofList t.iso

end FuelTelemetry.Time

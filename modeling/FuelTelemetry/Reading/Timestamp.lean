import FuelTelemetry.Fault
import FuelTelemetry.Number.Numeral
import FuelTelemetry.Text.Blank
import FuelTelemetry.Time.Epoch
import FuelTelemetry.Time.Iso

/-!
Device timestamps: milliseconds since 1970 as a number or as digits, or an ISO stamp, all brought to
UTC. Blanks around a text do not count, and a trailing `Z` is UTC.
-/

namespace FuelTelemetry.Timestamp

open Time (Instant Stamp)

def ofEpoch : Except Time.EpochFault Instant → Except Fault Instant
  | .ok t => .ok t
  | .error .beyondClock => .error .timestampBeyondClock
  | .error .beyondYears => .error .timestampBeyondYears
  | .error .undefined => .error .malformedTimestamp
  | .error .outOfCalendar => .error .timestampOutOfCalendar

def ofStamp (s : Stamp) : Except Fault Instant :=
  match s.utc? with
  | some t => .ok t
  | none => .error .shiftedOutOfCalendar

def spellZulu (text : List Char) : List Char :=
  if text.getLast? == some 'Z' then text.dropLast ++ "+00:00".toList else text

def ofText (text : List Char) : Except Fault Instant :=
  let trimmed := Text.trim text
  if !trimmed.isEmpty && trimmed.all Text.isDigit then
    match Number.int? trimmed with
    | some millis => ofEpoch (Time.ofEpochMillis millis)
    | none => .error .malformedTimestamp
  else
    match Stamp.ofIso? (spellZulu trimmed) with
    | some stamp => ofStamp stamp
    | none => .error .malformedTimestamp

def ofJson : Json → Except Fault Instant
  | .int millis => ofEpoch (Time.ofEpochMillis millis)
  | .float millis => ofEpoch (Time.ofEpochFloat millis)
  | .text text => ofText text.toList
  | value =>
    match value.shown? with
    | some shown => .error (.unsupportedTimestamp (String.ofList shown))
    | none => .error .tooManyDigits

end FuelTelemetry.Timestamp

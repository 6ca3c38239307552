import FuelTelemetry.Reading.Basic
import FuelTelemetry.Reading.Timestamp

/-!
Readings from uploaded JSON objects. Most fields have two names, of which the first present one
counts even if it is null. Null and the empty text are absent values. Fields are checked in a fixed
order and the first offending one is reported, with the text of its value.
-/

namespace FuelTelemetry.Reading

def reject {α : Type} (value : Json) (fault : String → Fault) : Except Fault α := do
  throw (fault (← value.display))

def wholeOf (field : String) (x : Float) : Except Fault Int :=
  match Number.Binary64.ofFloat x with
  | .finite d => .ok d.truncate
  | .infinite _ => .error .infiniteInteger
  | .notANumber => reject (.float x) (.notInteger field)

def intField (field : String) : Json → Except Fault (Option Int)
  | .null => .ok none
  | .int n => .ok (some n)
  | .float x => some <$> wholeOf field x
  | .text s =>
    if s == "" then .ok none
    else match Number.int? s.toList with
      | some n => .ok (some n)
      | none => .error (.notInteger field s)
  | value => reject value (.notInteger field)

def requiredInt (field : String) (value : Json) : Except Fault Int := do
  match ← intField field value with
  | some n => return n
  | none => throw (.missingField field)

def floatField (field : String) : Json → Except Fault (Option Float)
  | .null => .ok none
  | .float x => .ok (some x)
  | .int n =>
    match Number.ofInt? n with
    | some x => .ok (some x)
    | none => .error .tooLargeForDouble
  | .text s =>
    if s == "" then .ok none
    else match Number.float? s.toList with
      | some x => .ok (some x)
      | none => .error (.notNumber field s)
  | value => reject value (.notNumber field)

/-- A year that the clock cannot count is the one fault of a timestamp that is not reported as
such. -/
def timeField (value : Json) : Except Fault Time.Instant :=
  match value with
  | .null | .text "" => .error .missingTime
  | _ =>
    match Timestamp.ofJson value with
    | .ok t => .ok t
    | .error .timestampBeyondYears => .error .timestampBeyondYears
    | .error _ => reject value .rejectedTime

def payloadField : Json → Except Fault (Option String)
  | .null => .ok none
  | .text s => .ok (some s)
  | value => reject value .payloadNotText

def ofFields (fields : List (String × Json)) : Except Fault Reading := do
  let field (name : String) : Json := (Table.get? name fields).getD .null
  let device ← requiredInt "device_id" (field "device_id")
  let time ← timeField (Json.fieldOr "device_time" "time" fields)
  let payload ← payloadField (Json.fieldOr "sensor_data" "sensorData" fields)
  let latitude ← floatField "latitude" (field "latitude")
  let longitude ← floatField "longitude" (field "longitude")
  let sensor ← intField "sensor_id" (Json.fieldOr "sensor_id" "sensorId" fields)
  let analog ← intField "analog_value" (Json.fieldOr "analog_value" "adc1" fields)
  let event ← intField "event_code" (Json.fieldOr "event_code" "event" fields)
  let level ← floatField "fuel_level" (field "fuel_level")
  let id ← intField "id" (field "id")
  return {
    device, time := some time, latitude, longitude, sensor, payload, analog,
    event := event.getD 0, level, id }

def ofJson : Json → Except Fault Reading
  | .object fields => ofFields fields
  | _ => .error .notAnObject

end FuelTelemetry.Reading

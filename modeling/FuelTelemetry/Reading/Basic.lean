import FuelTelemetry.Fault
import FuelTelemetry.Time.Stamp

/-!
Readings, the telemetry samples of a device. A reading names its sensor and carries a text payload
or names none and carries an analog counter; its fuel level is filled in by calibration, or was
stored with it. Device times are in UTC. Only a reading built by hand may lack one.
-/

namespace FuelTelemetry

open Time (Instant Stamp)

structure Reading where
  device : Int
  time : Option Instant
  latitude : Option Float
  longitude : Option Float
  sensor : Option Int
  payload : Option String
  analog : Option Int
  event : Int
  level : Option Float
  id : Option Int

namespace Reading

/-- Event codes from here on mark readings replayed from the memory of the device. -/
def replayedFrom : Int := 100

def isReplayed (r : Reading) : Bool :=
  replayedFrom ≤ r.event

def hasLevel (r : Reading) : Bool := r.level.isSome

def hasPayload (r : Reading) : Bool := r.payload.isSome

def hasAnalog (r : Reading) : Bool := r.analog.isSome

def withLevel (r : Reading) (level : Float) : Reading :=
  { r with level := some level }

def ofStamp (stamp : Option Stamp) (r : Reading) : Except Fault Reading :=
  match stamp with
  | none => .ok { r with time := none }
  | some stamp =>
    match stamp.utc? with
    | some t => .ok { r with time := some t }
    | none => .error .shiftedOutOfCalendar

def fields (r : Reading) : List (String × Json) :=
  [("id", .ofOption .int r.id),
   ("device_id", .int r.device),
   ("device_time", .ofOption (fun t => .text t.text) r.time),
   ("latitude", .ofOption .float r.latitude),
   ("longitude", .ofOption .float r.longitude),
   ("sensor_id", .ofOption .int r.sensor),
   ("sensor_data", .ofOption .text r.payload),
   ("analog_value", .ofOption .int r.analog),
   ("event_code", .int r.event),
   ("fuel_level", .ofOption .float r.level)]

def toJson (r : Reading) : Json := .object r.fields

end Reading

end FuelTelemetry

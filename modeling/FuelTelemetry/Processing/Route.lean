import FuelTelemetry.Processing.Outcome
import FuelTelemetry.Sensor

/-!
Where a reading belongs and which raw value it carries. The sensor follows from the sensor id and
the analog counter alone; the raw value is the decoded payload if there is one and else the counter.
-/

namespace FuelTelemetry

inductive Source where
  | digital
  | analog
deriving DecidableEq, Repr

structure RawValue where
  points : Int
  source : Source
deriving DecidableEq, Repr

/-- The raw value of a reading; a payload that cannot be decoded hides the counter. -/
def Reading.rawValue (r : Reading) : Except SkipReason RawValue :=
  if r.hasPayload then
    match r.digitalPoints with
    | some points => .ok ⟨points, .digital⟩
    | none => .error .invalidPayload
  else
    match r.analog with
    | some counter => .ok ⟨counter, .analog⟩
    | none => .error .noSensorValue

structure Route where
  sensor : Int
  raw : RawValue
deriving DecidableEq, Repr

def Reading.route (r : Reading) (linked : Option (List LinkedSensor)) : Except SkipReason Route :=
  match linked with
  | none | some [] => .error .noLinkedSensors
  | some sensors =>
    match LinkedSensor.identify sensors r with
    | none => .error .unknownSensor
    | some sensor => do return ⟨sensor, ← r.rawValue⟩

end FuelTelemetry

import FuelTelemetry.Payload
import FuelTelemetry.Reading.Basic

/-!
Which linked sensor a reading came from. A reading that names its sensor belongs to that sensor if it
is linked; one that names none but carries an analog counter belongs to the first analog fuel sensor.
-/

namespace FuelTelemetry

structure LinkedSensor where
  id : Int
  type : String
deriving DecidableEq, Repr

namespace LinkedSensor

def analogFuel : String := "FUEL_ANALOG"

def identify (linked : List LinkedSensor) (r : Reading) : Option Int :=
  match r.sensor with
  | some sensor => (linked.find? (·.id = sensor)).map (·.id)
  | none =>
    if r.hasAnalog then (linked.find? (·.type = analogFuel)).map (·.id) else none

end LinkedSensor

def Reading.digitalPoints (r : Reading) : Option Nat :=
  r.payload.bind fun payload => Payload.decode payload.toList

end FuelTelemetry

import FuelTelemetry.Processing.Collaborators

/-!
Collaborators that live in memory. Curves are built from their rows at each lookup, so that rows
which make no curve fail there. Chosen lookups and the sink can be made unavailable. Records and
activities are kept in order.
-/

namespace FuelTelemetry

open Time (Stamp)

structure Outages where
  registry : List Int
  calibration : List Int
  history : List Int
  sink : Bool

structure InMemory where
  sensors : Table Int (List LinkedSensor)
  curves : Table SensorKey (List Breakpoint)
  readings : List Reading
  outages : Outages
  logged : List LogRecord
  /-- Calls of the sink, the failed ones too. -/
  attempts : Nat
  published : List Activity

namespace InMemory

/-- Whether a reading lies between two stamps, both included. It has to have a time, and device
times compare with no stamp that has an offset. -/
def between (start stop : Stamp) (r : Reading) : Except Fault Bool :=
  match r.time, start.plain?, stop.plain? with
  | none, _, _ => .error .undated
  | some t, some start, some stop => .ok (start ≤ t ∧ t ≤ stop)
  | some _, _, _ => .error .mixedOffsets

def inRange (start stop : Stamp) : List Reading → Except Fault (List Reading)
  | [] => .ok []
  | r :: rest => do
    if ← between start stop r then return r :: (← inRange start stop rest)
    else inRange start stop rest

def linkedSensors (m : InMemory) (device : Int) : Except Fault (Option (List LinkedSensor)) :=
  if m.outages.registry.contains device then .error (.unavailable "registry unavailable")
  else .ok (m.sensors.get? device)

def curve (m : InMemory) (key : SensorKey) : Except Fault (Option Curve) :=
  if m.outages.calibration.contains key.device then .error (.unavailable "calibration unavailable")
  else match m.curves.get? key with
    | none => .ok none
    | some rows => some <$> Curve.ofRows rows

def history (m : InMemory) (device : Int) (start stop : Stamp) : Except Fault (List Reading) :=
  if m.outages.history.contains device then
    .error (.unavailable s!"history unavailable for device {device}")
  else inRange start stop (m.readings.filter (·.device = device))

def publish (a : Activity) : Call InMemory Unit := fun m =>
  let m := { m with attempts := m.attempts + 1 }
  if m.outages.sink then (.error (.unavailable "sink unavailable"), m)
  else (.ok (), { m with published := m.published ++ [a] })

def collaborators : Collaborators InMemory where
  linkedSensors device m := (m.linkedSensors device, m)
  deviceIds m := (.ok (m.sensors.keys.mergeSort fun a b => a ≤ b), m)
  calibration key m := (m.curve key, m)
  history device start stop m := (m.history device start stop, m)
  log record m := (.ok (), { m with logged := m.logged ++ [record] })
  publish := publish

end InMemory

end FuelTelemetry

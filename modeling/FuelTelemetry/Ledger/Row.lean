import FuelTelemetry.Calibration
import FuelTelemetry.Detection.Activity
import FuelTelemetry.Sensor
import FuelTelemetry.Window.Store

/-!
Rows of the ledger's tables. Integers are stored in 64 bits and times without their offset; a double
that is not a number is stored as no value. Each kind of row has a test that its integers fit, which
all rows of a statement pass before any is stored, and a form in which it is stored. A column that
has to have a value refuses a row without one.
-/

namespace FuelTelemetry.Ledger

open Time (Instant Stamp)

inductive TableName where
  | sensors
  | curves
  | positions
  | activities
deriving DecidableEq, Repr

namespace TableName

def word : TableName → String
  | sensors => "peripheral_sensors"
  | curves => "fuel_calibration_points"
  | positions => "positions"
  | activities => "fuel_activities"

def ofWord? (word : String) : Option TableName :=
  [sensors, curves, positions, activities].find? (·.word = word)

end TableName

def fits (n : Int) : Except Fault Unit :=
  if Int64.minValue.toInt ≤ n ∧ n ≤ Int64.maxValue.toInt then .ok () else .error .tooLargeForStore

def allFit (values : List (Option Int)) : Except Fault Unit :=
  values.forM fun value => (value.map fits).getD (.ok ())

/-- A double as it is stored; a stored zero has no sign. -/
def storedFloat (x : Option Float) : Option Float :=
  (x.filter fun x => x == x).map fun x => if x == 0.0 then 0.0 else x

def required {α : Type} (table : TableName) : Option α → Except Fault α
  | some value => .ok value
  | none => .error (.missingColumn table.word)

structure SensorRow where
  device : Int
  sensor : LinkedSensor
deriving DecidableEq, Repr

namespace SensorRow

def fits (row : SensorRow) : Except Fault Unit :=
  allFit [some row.device, some row.sensor.id]

def place (row : SensorRow) (rows : List SensorRow) : Except Fault SensorRow :=
  if rows.any fun r => r.device = row.device ∧ r.sensor.id = row.sensor.id then
    .error (.duplicateRow TableName.sensors.word)
  else .ok row

end SensorRow

structure CurveRow where
  key : SensorKey
  breakpoint : Breakpoint

namespace CurveRow

def fits (row : CurveRow) : Except Fault Unit :=
  allFit [some row.key.device, some row.key.sensor, some row.breakpoint.points]

/-- Level and slope may be unknown numbers, which the table refuses, and a curve has one breakpoint
to each points value. -/
def place (row : CurveRow) (rows : List CurveRow) : Except Fault CurveRow := do
  let level ← required .curves (storedFloat (some row.breakpoint.level))
  let slope ← required .curves (storedFloat (some row.breakpoint.slope))
  if rows.any fun r => r.key = row.key ∧ r.breakpoint.points = row.breakpoint.points then
    throw (.duplicateRow TableName.curves.word)
  return { row with breakpoint := ⟨row.breakpoint.points, level, slope⟩ }

end CurveRow

structure Position where
  device : Int
  time : Instant
  latitude : Option Float
  longitude : Option Float
  sensor : Option Int
  payload : Option String
  analog : Option Int
  event : Int
  level : Option Float

namespace Position

def fits (r : Reading) : Except Fault Unit :=
  allFit [some r.device, r.sensor, r.analog, some r.event]

def ofReading (r : Reading) : Except Fault Position := do
  let time ← required .positions r.time
  return {
    device := r.device
    time
    latitude := storedFloat r.latitude
    longitude := storedFloat r.longitude
    sensor := r.sensor
    payload := r.payload
    analog := r.analog
    event := r.event
    level := storedFloat r.level }

def toReading (id : Nat) (p : Position) : Reading where
  device := p.device
  time := some p.time
  latitude := p.latitude
  longitude := p.longitude
  sensor := p.sensor
  payload := p.payload
  analog := p.analog
  event := p.event
  level := p.level
  id := some id

end Position

structure ActivityRow where
  device : Int
  sensor : Int
  kind : ActivityKind
  volume : Float
  startTime : Instant
  endTime : Instant
  startLatitude : Option Float
  startLongitude : Option Float
  endLatitude : Option Float
  endLongitude : Option Float

namespace ActivityRow

def fits (a : Activity) : Except Fault Unit :=
  allFit [a.device, a.sensor]

def ofActivity (a : Activity) : Except Fault ActivityRow := do
  return {
    device := ← required .activities a.device
    sensor := ← required .activities a.sensor
    kind := a.kind
    volume := ← required .activities (storedFloat (some a.volume))
    startTime := (← required .activities a.startTime).wall
    endTime := (← required .activities a.endTime).wall
    startLatitude := storedFloat a.startLatitude
    startLongitude := storedFloat a.startLongitude
    endLatitude := storedFloat a.endLatitude
    endLongitude := storedFloat a.endLongitude }

def fields (id : Nat) (row : ActivityRow) : List (String × Json) :=
  [("id", .int id),
   ("device_id", .int row.device),
   ("sensor_id", .int row.sensor),
   ("activity_type", .text row.kind.word),
   ("change_volume", .float row.volume),
   ("start_time", .text row.startTime.text),
   ("end_time", .text row.endTime.text),
   ("start_latitude", .ofOption .float row.startLatitude),
   ("start_longitude", .ofOption .float row.startLongitude),
   ("end_latitude", .ofOption .float row.endLatitude),
   ("end_longitude", .ofOption .float row.endLongitude)]

end ActivityRow

end FuelTelemetry.Ledger

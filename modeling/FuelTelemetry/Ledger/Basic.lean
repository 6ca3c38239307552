import FuelTelemetry.Ledger.Row

/-!
The ledger: four tables of rows in the order of their insertion, numbered from 1. Rows are never
taken out, but a whole table may be missing, and then every statement on it fails. A statement names
its table before its values are looked at. Inserting several rows inserts all or none, and their
integers are looked at before anything else.
-/

namespace FuelTelemetry

open Time (Instant Stamp)
open Ledger (TableName SensorRow CurveRow Position ActivityRow)

/-- A table that is missing is `none`. -/
structure Ledger where
  sensors : Option (List SensorRow)
  curves : Option (List CurveRow)
  positions : Option (List Position)
  activities : Option (List ActivityRow)

namespace Ledger

def empty : Ledger := ⟨some [], some [], some [], some []⟩

def drop (l : Ledger) : TableName → Ledger
  | .sensors => { l with sensors := none }
  | .curves => { l with curves := none }
  | .positions => { l with positions := none }
  | .activities => { l with activities := none }

def rowsOf {α : Type} (name : TableName) : Option (List α) → Except Fault (List α)
  | some rows => .ok rows
  | none => .error (.missingTable name.word)

def numbered {α : Type} (rows : List α) : List (Nat × α) :=
  rows.zipIdx.map fun (row, place) => (place + 1, row)

def linkedSensors (l : Ledger) (device : Int) : Except Fault (Option (List LinkedSensor)) := do
  let rows ← rowsOf .sensors l.sensors
  fits device
  let linked := (rows.filter (·.device = device)).map (·.sensor)
  return if linked.isEmpty then none else some (linked.mergeSort fun a b => a.id ≤ b.id)

def deviceIds (l : Ledger) : Except Fault (List Int) := do
  let rows ← rowsOf .sensors l.sensors
  return (rows.map (·.device)).eraseDups.mergeSort fun a b => a ≤ b

def calibration (l : Ledger) (key : SensorKey) : Except Fault (Option Curve) := do
  let rows ← rowsOf .curves l.curves
  allFit [some key.device, some key.sensor]
  match (rows.filter (·.key = key)).map (·.breakpoint) with
  | [] => return none
  | breakpoints => return some (← Curve.ofRows breakpoints)

def history (l : Ledger) (device : Int) (start stop : Instant) : Except Fault (List Reading) := do
  let rows ← rowsOf .positions l.positions
  fits device
  let inside := (numbered rows).filter fun (_, p) =>
    p.device = device ∧ start ≤ p.time ∧ p.time ≤ stop
  return (inside.mergeSort fun a b => a.2.time ≤ b.2.time).map fun (id, p) => p.toReading id

/-- Puts items behind the rows of a table, each in the form that it has behind the rows before it;
no item, no statement. -/
def insert {α β : Type} (name : TableName) (fits : β → Except Fault Unit)
    (row : β → List α → Except Fault α) (table : Option (List α)) (items : List β) :
    Except Fault (Option (List α)) :=
  if items.isEmpty then .ok table
  else do
    let rows ← rowsOf name table
    items.forM fits
    return some (← items.foldlM (fun rows item => return rows ++ [← row item rows]) rows)

def storeReadings (l : Ledger) (rs : List Reading) : Except Fault Ledger := do
  let positions ←
    insert .positions Position.fits (fun r _ => Position.ofReading r) l.positions rs
  return { l with positions }

def storeActivities (l : Ledger) (activities : List Activity) : Except Fault Ledger := do
  let activities ←
    insert .activities ActivityRow.fits (fun a _ => ActivityRow.ofActivity a) l.activities
      activities
  return { l with activities }

def linkSensors (l : Ledger) (rows : List SensorRow) : Except Fault Ledger := do
  let sensors ← insert .sensors SensorRow.fits SensorRow.place l.sensors rows
  return { l with sensors }

def addBreakpoints (l : Ledger) (rows : List CurveRow) : Except Fault Ledger := do
  let curves ← insert .curves CurveRow.fits CurveRow.place l.curves rows
  return { l with curves }

def refuses : Fault → Bool
  | .missingTable _ | .duplicateRow _ | .missingColumn _ => true
  | _ => false

def publish (l : Ledger) (a : Activity) : Except Fault Ledger :=
  match l.storeActivities [a] with
  | .ok l => .ok l
  | .error fault =>
    .error (if refuses fault then .undelivered a.device a.kind.word fault.text else fault)

/-- Activities, of one device or of all: those that started last come first, of equal ones those
stored last, and no more than the limit. -/
def listActivities (l : Ledger) (device : Option Int) (limit : Nat) :
    Except Fault (List (Nat × ActivityRow)) := do
  let rows ← rowsOf .activities l.activities
  allFit [device, some limit]
  let wanted := (numbered rows).filter fun (_, row) => device.all (· = row.device)
  return (wanted.reverse.mergeSort fun a b => b.2.startTime ≤ a.2.startTime).take limit

structure Seed where
  sensors : List SensorRow
  curves : List CurveRow
  readings : List Reading
  activities : List Activity

def addSeed (l : Ledger) (seed : Seed) : Except Fault Ledger := do
  let l ← l.addBreakpoints seed.curves
  let l ← l.storeActivities seed.activities
  let l ← l.linkSensors seed.sensors
  l.storeReadings seed.readings

end Ledger

end FuelTelemetry

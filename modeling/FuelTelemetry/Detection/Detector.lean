import FuelTelemetry.Detection.Activity
import FuelTelemetry.Detection.HalfMeans
import FuelTelemetry.Window.Sample
import FuelTelemetry.Window.Store

/-!
The detector of fills and drains. A sample whose half means lie further apart than the change
threshold arms an idle sensor at its midpoint. Once a later sample's half means lie closer than the
threshold, the change between the two midpoints is confirmed if the first and the last level of the
samples moved the same way by more than a fraction of it; a confirmed change is reported and leaves
the sensor idle, any other leaves it armed.
-/

namespace FuelTelemetry

open Time (Instant Stamp)

/-- Where a change began: at the midpoint of a sample, whose first level is the edge. -/
structure Opening where
  level : Float
  time : Option Instant
  reading : Reading
  edge : Float

/-- Where a change was last thought to end: at a midpoint, with the sample's last level. -/
structure Closing where
  level : Float
  time : Option Instant
  reading : Reading
  edge : Option Float

structure Armed where
  opening : Opening
  closing : Option Closing

def leastSample : Nat := 3

structure Thresholds where
  /-- Least gap between the half means. -/
  change : Float
  /-- The fraction of a change that the edges have to exceed. -/
  edge : Float

structure Profile where
  means : HalfMeans
  midpoint : Reading
  midLevel : Float
  first : Float
  last : Option Float

namespace Profile

def gap (p : Profile) : Float := (p.means.left - p.means.right).abs

def ofSample (sample : List Reading) : Except Fault Profile := do
  let levels ← (sample.take (coveredBy sample.length)).mapM Reading.measured
  let means ← halfMeans levels
  match sample[means.midpoint]?, levels[means.midpoint]?, levels.head?, sample.getLast? with
  | some midpoint, some midLevel, some first, some last =>
    return { means, midpoint, midLevel, first, last := last.level }
  | _, _, _, _ => throw .emptySample

def opening (p : Profile) : Opening :=
  ⟨p.midLevel, p.midpoint.time, p.midpoint, p.first⟩

def closing (p : Profile) : Closing :=
  ⟨p.midLevel, p.midpoint.time, p.midpoint, p.last⟩

end Profile

/-- The kind of a change whose edges moved by so much, `none` if they do not bear it out. -/
def confirmedKind (volume edgeChange required : Float) : ActivityKind :=
  if volume < 0.0 && edgeChange < required then .drain
  else if volume > 0.0 && edgeChange > required then .fill
  else .none

def Activity.between (kind : ActivityKind) (volume : Float) (o : Opening) (c : Closing) : Activity :=
  { Activity.nothing with
    kind, volume
    startTime := o.time.map Stamp.ofInstant
    endTime := c.time.map Stamp.ofInstant
    start := some o.reading
    stop := some c.reading }

namespace Armed

/-- Closes the change at the sample. A sample whose last reading has no level keeps the closing and
is refused. -/
def close (a : Armed) (p : Profile) (edge : Float) : Option Armed × Except Fault Activity :=
  let c := p.closing
  let still := some { a with closing := some c }
  match c.edge with
  | none => (still, .error .missingLevel)
  | some last =>
    let volume := c.level - a.opening.level
    match confirmedKind volume (last - a.opening.edge) (volume * edge) with
    | .none => (still, .ok .nothing)
    | kind => (none, .ok (.between kind volume a.opening c))

def arm (armed : Option Armed) (p : Profile) (change : Float) : Option Armed :=
  match armed with
  | some a => some a
  | none => if p.gap > change then some ⟨p.opening, none⟩ else none

def advance (armed : Option Armed) (p : Profile) (t : Thresholds) :
    Option Armed × Except Fault Activity :=
  match arm armed p t.change with
  | some a => if p.gap < t.change then a.close p t.edge else (some a, .ok .nothing)
  | none => (none, .ok .nothing)

def check (armed : Option Armed) (sample : List Reading) (t : Thresholds) :
    Option Armed × Except Fault Activity :=
  if sample.length < leastSample then (armed, .ok .nothing)
  else match Profile.ofSample sample with
    | .ok p => advance armed p t
    | .error fault => (armed, .error fault)

end Armed

abbrev Detector := Table SensorKey Armed

namespace Detector

def setEntry (d : Detector) (key : SensorKey) : Option Armed → Detector
  | some a => d.put key a
  | none => d.erase key

def isArmed (d : Detector) (key : SensorKey) : Bool := (d.get? key).isSome

theorem get?_setEntry_self (d : Detector) (key : SensorKey) (armed : Option Armed) :
    (d.setEntry key armed).get? key = armed := by
  cases armed with
  | none => exact Table.get?_erase_self key d
  | some a => exact Table.get?_put_self key a d

theorem get?_setEntry_of_ne {key other : SensorKey} (h : other ≠ key) (d : Detector)
    (armed : Option Armed) : (d.setEntry key armed).get? other = d.get? other := by
  cases armed with
  | none => exact Table.get?_erase_of_ne h d
  | some a => exact Table.get?_put_of_ne h a d

def check (d : Detector) (key : SensorKey) (sample : List Reading) (t : Thresholds) :
    Detector × Except Fault Activity :=
  let (armed, result) := Armed.check (d.get? key) sample t
  (d.setEntry key armed, result)

def reset (d : Detector) (key : SensorKey) : Detector := d.erase key

end Detector

end FuelTelemetry

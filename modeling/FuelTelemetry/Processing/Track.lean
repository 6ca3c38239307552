import FuelTelemetry.Calibration
import FuelTelemetry.Processing.Route
import FuelTelemetry.Settings

/-!
The track of one sensor: its window and its detector entry. Entering a reading calibrates it,
smooths it over the window, inserts it and, if it is live and the window holds a full sample, runs
the detector. A reading that fails after its insertion is taken out again.
-/

namespace FuelTelemetry

structure Track where
  window : Window
  armed : Option Armed

def Settings.thresholds (s : Settings) : Source → Thresholds
  | .digital => ⟨s.digitalChange, s.edgeFraction⟩
  | .analog => ⟨s.analogChange, s.edgeFraction⟩

def Activity.located (a : Activity) (key : SensorKey) : Activity :=
  { a with device := some key.device, sensor := some key.sensor }

namespace Track

def empty : Track := ⟨.empty, none⟩

def levelled (s : Settings) (w : Window) (curve : Curve) (points : Int) (r : Reading) :
    Except Fault Reading := do
  let calibrated := r.withLevel (← curve.level points)
  return r.withLevel (← w.smooth calibrated s.averageSize s.reach)

def detect (s : Settings) (source : Source) (t : Track) (r : Reading) :
    Track × Except Fault Activity :=
  match t.window.select r s.sampleSize s.reach with
  | .error fault => (t, .error fault)
  | .ok sample =>
    if sample.length < s.sampleSize then (t, .ok .nothing)
    else
      let (armed, result) := Armed.check t.armed sample (s.thresholds source)
      ({ t with armed }, result)

def withdraw (t : Track) (arrival : Nat) (r : Reading) : Track :=
  match t.window.remove (some arrival) r.time with
  | .ok (window, _) => { t with window }
  | .error _ => t

def confirm (s : Settings) (key : SensorKey) (mode : Mode) (source : Source) (t : Track)
    (arrival : Nat) (r : Reading) : Track × Except Fault (Option Activity) :=
  match mode with
  | .backfill => (t, .ok none)
  | .live =>
    match t.detect s source r with
    | (t, .ok activity) =>
      (t, .ok (if activity.detected then some (activity.located key) else none))
    | (t, .error fault) => (t.withdraw arrival r, .error fault)

/-- Enters a reading that has no level yet; one that fails is given back as it came. -/
def enter (s : Settings) (key : SensorKey) (mode : Mode) (curve : Curve) (raw : RawValue)
    (t : Track) (r : Reading) : Track × Result :=
  let inserted : Except Fault (Reading × Window.Inserted) := do
    let r ← levelled s t.window curve raw.points r
    return (r, ← t.window.insert s.windowCapacity.toNat r)
  match inserted with
  | .error fault => (t, ⟨r, .failed fault⟩)
  | .ok (level, done) =>
    match confirm s key mode raw.source { t with window := done.window } done.arrival level with
    | (t, .ok activity) => (t, ⟨level, .processed activity⟩)
    | (t, .error fault) => (t, ⟨r, .failed fault⟩)

def keep (s : Settings) (t : Track) (r : Reading) : Track × Result :=
  match t.window.insert s.windowCapacity.toNat r with
  | .ok done => ({ t with window := done.window }, ⟨r, .stored⟩)
  | .error fault => (t, ⟨r, .failed fault⟩)

end Track

end FuelTelemetry

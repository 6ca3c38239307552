import FuelTelemetry.Processing.Collaborators
import FuelTelemetry.Processing.Track

/-!
The processor: the tracks of all sensors, and the devices that are warming up. A reading touches the
track of its own sensor and no other. A reading for which no failing call and no skip comes first
opens the track even if it then fails.
-/

namespace FuelTelemetry

structure Processor where
  settings : Settings
  windows : WindowStore
  detector : Detector
  warming : List Int

namespace Processor

def new (settings : Settings) : Processor := ⟨settings, settings.store, [], []⟩

def track (p : Processor) (key : SensorKey) : Track :=
  ⟨p.windows.window key, p.detector.get? key⟩

def setTrack (p : Processor) (key : SensorKey) (t : Track) : Processor :=
  { p with
    windows := p.windows.setWindow key t.window
    detector := p.detector.setEntry key t.armed }

theorem track_setTrack_self (p : Processor) (key : SensorKey) (t : Track) :
    (p.setTrack key t).track key = t := by
  simp [track, setTrack, WindowStore.window_setWindow_self, Detector.get?_setEntry_self]

theorem track_setTrack_of_ne {key other : SensorKey} (h : other ≠ key) (p : Processor)
    (t : Track) : (p.setTrack key t).track other = p.track other := by
  simp [track, setTrack, WindowStore.window_setWindow_of_ne _ h, Detector.get?_setEntry_of_ne h]

def onTrack (p : Processor) (key : SensorKey) (step : Track → Track × Result) :
    Processor × Result :=
  let (t, result) := step (p.track key)
  (p.setTrack key t, result)

def isWarming (p : Processor) (device : Int) : Bool := p.warming.contains device

def beginWarming (p : Processor) (device : Int) : Processor :=
  if p.isWarming device then p else { p with warming := device :: p.warming }

def finishWarming (p : Processor) (device : Int) : Processor :=
  { p with warming := p.warming.filter (· ≠ device) }

variable {σ : Type}

def calibrated (c : Collaborators σ) (p : Processor) (mode : Mode) (route : Route) (r : Reading)
    (world : σ) : (Processor × Result) × σ :=
  let key : SensorKey := ⟨r.device, route.sensor⟩
  match c.calibration key world with
  | (.error fault, world) => ((p, ⟨r, .failed fault⟩), world)
  | (.ok none, world) => ((p, ⟨r, .skipped .noCalibration⟩), world)
  | (.ok (some curve), world) =>
    (p.onTrack key fun t => t.enter p.settings key mode curve route.raw r, world)

/-- Processes a reading up to but not including the announcement of its activity. -/
def settle (c : Collaborators σ) (p : Processor) (mode : Mode) (r : Reading) (world : σ) :
    (Processor × Result) × σ :=
  match c.linkedSensors r.device world with
  | (.error fault, world) => ((p, ⟨r, .failed fault⟩), world)
  | (.ok linked, world) =>
    match r.route linked with
    | .error reason => ((p, ⟨r, .skipped reason⟩), world)
    | .ok route =>
      if r.hasLevel then
        (p.onTrack ⟨r.device, route.sensor⟩ fun t => t.keep p.settings r, world)
      else p.calibrated c mode route r world

def process (c : Collaborators σ) (p : Processor) (mode : Mode) (r : Reading) (world : σ) :
    (Processor × Result) × σ :=
  let ((p, result), world) := p.settle c mode r world
  match result.outcome.activity with
  | some activity => ((p, result), c.announce activity world)
  | none => ((p, result), world)

/-- Processes a reading, with all that its announcement may fail at. -/
def attempt (c : Collaborators σ) (p : Processor) (mode : Mode) (r : Reading) (world : σ) :
    (Processor × Except Fault Result) × σ :=
  let ((p, result), world) := p.settle c mode r world
  match result.outcome.activity with
  | some activity =>
    let (announced, world) := c.proclaim activity world
    ((p, (fun _ => result) <$> announced), world)
  | none => ((p, .ok result), world)

def processAll (c : Collaborators σ) (p : Processor) (mode : Mode) (world : σ) :
    List Reading → (Processor × List Result) × σ
  | [] => ((p, []), world)
  | r :: rest =>
    let ((p, result), world) := p.process c mode r world
    let ((p, results), world) := p.processAll c mode world rest
    ((p, result :: results), world)

end Processor

end FuelTelemetry

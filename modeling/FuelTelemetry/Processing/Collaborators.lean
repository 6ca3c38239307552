import FuelTelemetry.Calibration
import FuelTelemetry.Event.Emission
import FuelTelemetry.Sensor
import FuelTelemetry.Window.Store

/-!
What the processor relies on: a registry of sensors, calibration curves, stored history, a log and a
sink for activities. Each may fail at any call, and what a call did before it failed stays done.
-/

namespace FuelTelemetry

open Time (Stamp)

/-- A call on surroundings of some state: its answer or fault, and the state afterwards. -/
abbrev Call (σ α : Type) := σ → Except Fault α × σ

structure Collaborators (σ : Type) where
  /-- The sensors linked to a device, `none` if it has none. -/
  linkedSensors : Int → Call σ (Option (List LinkedSensor))
  deviceIds : Call σ (List Int)
  /-- The curve of a sensor, `none` if it is not calibrated. -/
  calibration : SensorKey → Call σ (Option Curve)
  /-- The readings of a device from the first stamp to the second, both included. -/
  history : Int → Stamp → Stamp → Call σ (List Reading)
  log : LogRecord → Call σ Unit
  publish : Activity → Call σ Unit

/-- An event logged as soon as it is started; its draw keeps no sampled event. -/
def Event.Moment.atOnce : Event.Moment := ⟨0.0, 1.0⟩

def Activity.ends (a : Activity) : Except Fault (Reading × Reading) :=
  match a.start, a.stop with
  | some start, some stop => .ok (start, stop)
  | _, _ => .error (.foreign "AttributeError" "'NoneType' object has no attribute 'latitude'")

def Activity.loss (a : Activity) (cause : Fault) : Except Fault String := do
  let told ← cause.told
  let message := s!"Failed to publish fuel activity: {told}"
  (Fault.raised (.publishing message a.device (some a.kind.word))).told

namespace Collaborators

variable {σ : Type}

def tell (c : Collaborators σ) (a : Activity) : Call σ Unit := fun world =>
  match a.record [] .atOnce with
  | .ok (some record) => c.log record world
  | .ok none => (.ok (), world)
  | .error fault => (.error fault, world)

/-- Logs an activity and publishes it. Neither failure is passed on, nor does one stop the other. -/
def announce (c : Collaborators σ) (a : Activity) (world : σ) : σ :=
  (c.publish a (c.tell a world).2).2

def handOver (c : Collaborators σ) (a : Activity) : Call σ Unit := fun world =>
  match c.publish a world with
  | (.ok (), world) => (.ok (), world)
  | (.error cause, world) => ((fun _ => ()) <$> a.loss cause, world)

/-- Announces an activity, with the texts that go into the plain log: of both ends first, then of
what the log and the sink failed at. Where one of these texts cannot be made, what would come next
is left undone. -/
def proclaim (c : Collaborators σ) (a : Activity) : Call σ Unit := fun world =>
  match a.ends with
  | .error fault => (.error fault, world)
  | .ok _ =>
    match c.tell a world with
    | (.ok (), world) => c.handOver a world
    | (.error cause, world) =>
      match cause.told with
      | .ok _ => c.handOver a world
      | .error fault => (.error fault, world)

end Collaborators

end FuelTelemetry

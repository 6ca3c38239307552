import FuelTelemetry.Detection.Activity

/-!
Outcomes of processing a reading. A processed reading was levelled and put into its window and may
carry an activity; a stored one came with its level; a skipped one is none of the processor's
business, for a reason; a failed one met a fault.
-/

namespace FuelTelemetry

inductive SkipReason where
  | noLinkedSensors
  | unknownSensor
  | invalidPayload
  | noSensorValue
  | noCalibration
deriving DecidableEq, Repr

def SkipReason.word : SkipReason → String
  | noLinkedSensors => "no_linked_sensors"
  | unknownSensor => "unknown_sensor"
  | invalidPayload => "invalid_sensor_data"
  | noSensorValue => "no_sensor_value"
  | noCalibration => "no_calibration"

inductive Status where
  | processed
  | stored
  | skipped
  | failed
deriving DecidableEq, Repr

namespace Status

def all : List Status := [processed, stored, skipped, failed]

def word : Status → String
  | processed => "processed"
  | stored => "stored"
  | skipped => "skipped"
  | failed => "failed"

end Status

inductive Outcome where
  | processed (activity : Option Activity)
  | stored
  | skipped (reason : SkipReason)
  | failed (fault : Fault)

namespace Outcome

def status : Outcome → Status
  | processed _ => .processed
  | stored => .stored
  | skipped _ => .skipped
  | failed _ => .failed

/-- Why a reading was not taken in; a fault of calibration is told from all others. -/
def reason : Outcome → Option String
  | skipped reason => some reason.word
  | failed fault =>
    some (if fault.isCalibration then "calibration_failed" else "unexpected_error")
  | _ => none

def activity : Outcome → Option Activity
  | processed activity => activity
  | _ => none

def fault : Outcome → Option Fault
  | failed fault => some fault
  | _ => none

end Outcome

structure Result where
  reading : Reading
  outcome : Outcome

/-- Live readings are looked at for activities, readings replayed from history are not. -/
inductive Mode where
  | live
  | backfill
deriving DecidableEq, Repr

def Mode.word : Mode → String
  | live => "live"
  | backfill => "backfill"

def Mode.ofWord (word : String) : Except Fault Mode :=
  match [live, backfill].find? (·.word = word) with
  | some mode => .ok mode
  | none => .error (.unknownWord word)

end FuelTelemetry

import FuelTelemetry.Ledger.Basic
import FuelTelemetry.Processing.Collaborators

/-!
The ledger as the processor's registry, curve store, history and sink. Bounds of the history are
taken without their offset, as times are stored. Log records leave the ledger alone.
-/

namespace FuelTelemetry.Ledger

def collaborators : Collaborators Ledger where
  linkedSensors device l := (l.linkedSensors device, l)
  deviceIds l := (l.deviceIds, l)
  calibration key l := (l.calibration key, l)
  history device start stop l := (l.history device start.wall stop.wall, l)
  log _ l := (.ok (), l)
  publish a l :=
    match l.publish a with
    | .ok l => (.ok (), l)
    | .error fault => (.error fault, l)

end FuelTelemetry.Ledger

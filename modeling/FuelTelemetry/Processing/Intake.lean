import FuelTelemetry.Processing.WarmStart

/-!
The intake of readings: live readings of a warming device are held, in order of arrival, until the
device has warmed up, and are processed then. Readings replayed from history are never held.
-/

namespace FuelTelemetry

structure Intake where
  processor : Processor
  held : List Reading

namespace Intake

def new (settings : Settings) : Intake := ⟨.new settings, []⟩

variable {σ : Type}

def submit (c : Collaborators σ) (i : Intake) (mode : Mode) (r : Reading) (world : σ) :
    (Intake × Option Result) × σ :=
  if mode = .live ∧ i.processor.isWarming r.device then
    (({ i with held := i.held ++ [r] }, none), world)
  else
    let ((processor, result), world) := i.processor.process c mode r world
    (({ i with processor }, some result), world)

def release (c : Collaborators σ) (i : Intake) (world : σ) : (Intake × List Result) × σ :=
  let (waiting, free) := i.held.partition fun r => i.processor.isWarming r.device
  let ((processor, results), world) := i.processor.processAll c .live world free
  ((⟨processor, waiting⟩, results), world)

end Intake

end FuelTelemetry

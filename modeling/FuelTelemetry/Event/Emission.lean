import FuelTelemetry.Detection.Activity
import FuelTelemetry.Event.LogCall

/-!
When an event becomes a call of the log. Failures, slow operations and detected activities are always
kept, all else is sampled by a random draw between 0 and 1. A call holds the whole context, the name
of the event and its level. A tracked operation is logged exactly once, at whatever its body did.
-/

namespace FuelTelemetry

namespace Event

def critical : List String := ["fuel_fill_detected", "fuel_drain_detected", "warm_start_failed"]

def defaultRate : Float := 0.05

def defaultSlow : Json := .int 1000

def isCritical (metrics : List (String × Json)) : Bool :=
  critical.any fun name => ((Table.get? name metrics).getD .null).truthy

def shouldEmit (e : Event) (rate : Float) (slow : Json) (draw : Float) : Except Fault Bool := do
  if !(e.get "success" (.bool true)).truthy then return true
  if ← (e.get "duration_ms" (.int 0)).exceeds slow then return true
  match e.get businessMetrics (.object []) with
  | .object metrics => return isCritical metrics || draw < rate
  | other => throw (.noLookup other.typeName)

def logCall {V : Type} (e : Event V) (level : String) : LogCall V :=
  ⟨level, e.operation ++ "_complete", e.context⟩

structure Moment where
  /-- Milliseconds since the event was started. -/
  elapsed : Float
  draw : Float

def emit (e : Event) (level : String) (force : Bool) (moment : Moment) :
    Event × Except Fault (Option LogCall) :=
  let timed := e.setDuration moment.elapsed
  let kept : Except Fault Bool :=
    if force then .ok true else timed.shouldEmit defaultRate defaultSlow moment.draw
  (timed, (fun kept => if kept then some (timed.logCall level) else none) <$> kept)

end Event

section

variable {V α : Type} [EventValue V]

structure Tracked (V α : Type) where
  call : Option (LogCall V)
  logged : Option LogRecord
  outcome : Except Fault α

/-- A log that refuses the call takes the place of any other outcome. -/
def Tracked.after (call : LogCall V) (outcome : Except Fault α) :
    Except Fault (Option LogRecord) → Tracked V α
  | .ok logged => ⟨some call, logged, outcome⟩
  | .error refusal => ⟨some call, none, .error refusal⟩

def Event.opened (operation : String) (context : List (String × V)) : Event V :=
  (Event.start operation none none).addContext context

def Event.conclude (e : Event V) (steps : List (EventStep V)) (ending : Except Fault α) :
    Event V × Except Fault α :=
  let (e, taken) := e.run steps
  match taken, ending with
  | .ok (), .ok value => (e.markSuccess, .ok value)
  | .ok (), .error fault | .error fault, _ =>
    ((e.recordError fault fault.text []).markFailure (EventValue.ofJson (.text fault.text)),
      .error fault)

def track (log : Log V) (operation : String) (context : List (String × V))
    (steps : List (EventStep V)) (ending : Except Fault α) (moment : Event.Moment) :
    Tracked V α :=
  match Event.refuse ["operation", "self"] context with
  | .error fault => ⟨none, none, .error fault⟩
  | .ok () =>
    let (e, outcome) := (Event.opened operation context).conclude steps ending
    let success := EventValue.truthy (e.get "success" (EventValue.ofJson (.bool true)))
    let call := (e.setDuration moment.elapsed).logCall (if success then "info" else "error")
    .after call outcome (log call)

end

def Activity.record (a : Activity) (extra : List (String × Json)) (moment : Event.Moment) :
    Except Fault (Option LogRecord) := do
  Event.refuse ["self", "activity"] extra
  let trace ← (Json.ofOption Json.int a.device).display
  let e : Event := (Event.start "fuel_activity" none (some trace)).addContext
    (("activity", a.toJson) :: extra)
  let metric := if a.kind = .fill then "fuel_fill_detected" else "fuel_drain_detected"
  let (e, done) := e.setMetric Event.businessMetrics metric (.bool true)
  done
  LogCall.record? ((e.markSuccess.setDuration moment.elapsed).logCall "info")

end FuelTelemetry

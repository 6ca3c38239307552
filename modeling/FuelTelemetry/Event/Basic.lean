import FuelTelemetry.Json.Arithmetic

/-!
Wide events: one record per operation instead of many log lines. Steps gather context, metrics,
errors and timings, and a later value of a name replaces an earlier one. Metrics stand in groups,
which come into being with their first metric; a caller may also have put something else under the
name of a group, and then the step is refused. The values may be of any type that can do what an
event asks of them; the receiver's own events hold JSON.

The time at which an event was started and the number that it gives itself where it belongs to no
request are left out, and so is the rounding of timings to hundredths.
-/

namespace FuelTelemetry

class EventValue (V : Type) where
  ofJson : Json → V
  object : List (String × V) → V
  /-- Puts an entry into a value that has entries. -/
  put : V → String → V → Except Fault V
  /-- The entry of a value under a name, or a default. -/
  look : V → String → V → Except Fault V
  add : V → V → Except Fault V
  truthy : V → Bool
  truthy_bool : ∀ b, truthy (ofJson (.bool b)) = b

instance : EventValue Json where
  ofJson := id
  object := .object
  put
    | .object fields, name, value => .ok (.object (Table.put name value fields))
    | other, _, _ => .error (.noEntries other.typeName)
  look
    | .object fields, name, default => .ok ((Table.get? name fields).getD default)
    | other, _, _ => .error (.noLookup other.typeName)
  add := Json.add
  truthy := Json.truthy
  truthy_bool _ := rfl

/-- The operation names the record; the context has it too, where a caller may replace it. -/
structure Event (V : Type := Json) where
  operation : String
  context : Table String V

inductive EventStep (V : Type := Json) where
  | context (entries : List (String × V))
  | business (key : String) (value : V)
  | technical (key : String) (value : V)
  | increment (key : String) (amount : V)
  | error (cause : Fault) (details : List (String × V))
  | success
  | failure (reason : V)
  /-- A timed block that took so many milliseconds. -/
  | timed (name : String) (millis : Float)

namespace Event

open EventValue (ofJson)

variable {V : Type} [EventValue V]

def nonemptyEntry (name : String) (text : Option String) : List (String × V) :=
  ((text.filter (· ≠ "")).map fun t => (name, ofJson (.text t))).toList

def start (operation : String) (request trace : Option String) : Event V where
  operation := operation
  context := ("operation", ofJson (.text operation)) ::
    (nonemptyEntry "request_id" request ++ nonemptyEntry "trace_id" trace)

def set (e : Event V) (name : String) (value : V) : Event V :=
  { e with context := e.context.put name value }

def get (e : Event V) (name : String) (default : V) : V :=
  (e.context.get? name).getD default

/-- The first of some names that is among the entries is taken: a step has parameters of that name. -/
def refuse (taken : List String) (entries : List (String × V)) : Except Fault Unit :=
  match taken.find? fun name => Table.contains name entries with
  | some name => .error (.clashingName name)
  | none => .ok ()

def addContext (e : Event V) (entries : List (String × V)) : Event V :=
  { e with context := e.context.merge entries }

def businessMetrics : String := "business_metrics"

def technicalMetrics : String := "technical_metrics"

def timings : String := "performance_breakdown"

def group (e : Event V) (name : String) : V :=
  e.get name (ofJson (.object []))

/-- Changes a group. It is opened even where the change is refused. -/
def onGroup (e : Event V) (name : String) (change : V → Except Fault V) :
    Event V × Except Fault Unit :=
  match change (e.group name) with
  | .ok metrics => (e.set name metrics, .ok ())
  | .error fault => (e.set name (e.group name), .error fault)

def setMetric (e : Event V) (group key : String) (value : V) : Event V × Except Fault Unit :=
  e.onGroup group fun metrics => EventValue.put metrics key value

def addToMetric (e : Event V) (group key : String) (amount : V) : Event V × Except Fault Unit :=
  e.onGroup group fun metrics => do
    let before ← EventValue.look metrics key (ofJson (.int 0))
    EventValue.put metrics key (← EventValue.add before amount)

def recordError (e : Event V) (cause : Fault) (text : String) (details : List (String × V)) :
    Event V :=
  (e.set "error" (EventValue.object
    [("type", ofJson (.text cause.name)), ("message", ofJson (.text text)),
     ("details", EventValue.object details)])).set "success" (ofJson (.bool false))

def addError (e : Event V) (cause : Fault) (details : List (String × V)) :
    Event V × Except Fault Unit :=
  match cause.text? with
  | some text => (e.recordError cause text details, .ok ())
  | none => (e, .error .tooManyDigits)

def markSuccess (e : Event V) : Event V := e.set "success" (ofJson (.bool true))

def markFailure (e : Event V) (reason : V) : Event V :=
  (e.set "success" (ofJson (.bool false))).set "failure_reason" reason

def setDuration (e : Event V) (millis : Float) : Event V :=
  e.set "duration_ms" (ofJson (.float millis))

def apply (e : Event V) : EventStep V → Event V × Except Fault Unit
  | .context entries =>
    match refuse ["self"] entries with
    | .ok () => (e.addContext entries, .ok ())
    | .error fault => (e, .error fault)
  | .business key value => e.setMetric businessMetrics key value
  | .technical key value => e.setMetric technicalMetrics key value
  | .increment key amount => e.addToMetric businessMetrics key amount
  | .error cause details =>
    match refuse ["self", "error"] details with
    | .ok () => e.addError cause details
    | .error fault => (e, .error fault)
  | .success => (e.markSuccess, .ok ())
  | .failure reason => (e.markFailure reason, .ok ())
  | .timed name millis => e.addToMetric timings (name ++ "_ms") (ofJson (.float millis))

def run (e : Event V) : List (EventStep V) → Event V × Except Fault Unit
  | [] => (e, .ok ())
  | step :: rest =>
    match e.apply step with
    | (e, .ok ()) => e.run rest
    | (e, .error fault) => (e, .error fault)

end Event

end FuelTelemetry

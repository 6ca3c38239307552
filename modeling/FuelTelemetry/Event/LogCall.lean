import FuelTelemetry.Event.Basic
import FuelTelemetry.Event.Template

/-!
Calls of the log and what a log makes of them. What is said of events holds for any log; the one here
is the receiver's own. A level is asked for by its name, and the log has more names than levels: some
leave no record, others take none. The log keeps a few names of a record to itself. `positional_args`
fills the placeholders of the event's text, `_record` has to be empty, and `stack_info` and `exc_info`
are switches that never show.
-/

namespace FuelTelemetry

abbrev LogRecord := Table String Json

structure LogCall (V : Type := Json) where
  level : String
  event : String
  fields : Table String V

/-- A log: the record that a call leaves, if it leaves one and is not refused. -/
abbrev Log (V : Type := Json) := LogCall V → Except Fault (Option LogRecord)

inductive Level where
  | written (word : String)
  /-- Below every level that is written. -/
  | silent
  /-- Written later, by a task that nobody starts. -/
  | deferred
  /-- Passes a call on to the level that its event names, of which there is none. -/
  | relay
  /-- Takes no call with names and values. -/
  | uncallable

namespace Level

def writtenWords : Table String String :=
  [("debug", "debug"), ("info", "info"), ("msg", "info"), ("warning", "warning"),
   ("warn", "warning"), ("error", "error"), ("exception", "error"), ("critical", "critical"),
   ("fatal", "critical")]

def ofName (name : String) : Level :=
  match writtenWords.get? name with
  | some word => written word
  | none =>
    if name == "notset" then silent
    else if name == "anotset" || writtenWords.any fun entry => "a" ++ entry.1 == name then deferred
    else written "info"

def parameters : Level → List String
  | written _ | silent => ["event", "self", "method_name"]
  | deferred => ["event", "self"]
  | relay => ["self", "method_name"]
  | uncallable => []

end Level

namespace LogCall

def field (c : LogCall) (name : String) : Json := (c.fields.get? name).getD .null

def argumentName : String := "positional_args"

/-- The text of the event with an argument filled in. One that is empty counts for nothing, a list
of one object for that object. Numbers cannot be told from empty lists, and an object of one field is
taken for a list, which lacks its first item. -/
def phrase (event : String) (argument : Json) : Except Fault String :=
  if !argument.truthy then .ok event
  else match argument with
    | .text _ | .list _ | .object _ =>
      match argument with
      | .list [.object (field :: rest)] => Template.fill event (.object (field :: rest))
      | .object [_] => .error (.missingKey "0")
      | _ => Template.fill event argument
    | _ => .error .incompatible

def written (c : LogCall) (word : String) : Except Fault LogRecord := do
  match c.field "_record" with
  | .null => pure ()
  | other => throw (.noLookup other.typeName)
  let argument := c.field argumentName
  let text ← phrase c.event argument
  let record := (c.fields.put "event" (.text text)).put "level" (.text word)
  let record := match argument with
    | .null => record
    | _ => record.erase argumentName
  return (record.erase "stack_info").erase "exc_info"

def recordAt (level : Level) (c : LogCall) : Except Fault (Option LogRecord) := do
  Event.refuse level.parameters c.fields
  match level with
  | .written word => some <$> c.written word
  | .silent | .deferred => return none
  | .relay => throw (.missingKey c.event)
  | .uncallable => throw .incompatible

def record? : Log := fun c => c.recordAt (.ofName c.level)

end LogCall

end FuelTelemetry

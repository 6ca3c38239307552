import FuelTelemetry.Json.Reader
import FuelTelemetry.Service.Target
import FuelTelemetry.Text.Blank

/-!
Requests, and the reading of their bodies. A body counts as JSON only if its content type says so, and
may be in any encoding of Unicode.
-/

namespace FuelTelemetry.Service

structure Request where
  method : String
  target : Target
  contentType : Option String
  body : String

/-- A request with a target and a content type that can be sent: no header goes over its line. -/
def Request.new (method target : String) (contentType : Option String) (body : String) :
    Except Fault Request := do
  let target ← Target.read target
  if contentType.any fun text => text.toList.any fun c => c == '\n' || c == '\r' then
    throw .malformedRequest
  return ⟨method, target, contentType, body⟩

/-- Whether a content type is `application/json` or `application/…+json`, parameters aside. -/
def isJsonType (contentType : String) : Bool :=
  let kind := String.ofList
    ((Text.trim (contentType.toList.takeWhile (· ≠ ';'))).map Char.toLower)
  kind == "application/json" || (kind.startsWith "application/" && kind.endsWith "+json")

inductive Body where
  /-- No JSON, or null. -/
  | absent
  /-- Lists and objects nested deeper than they are read. -/
  | tooDeep
  | value (json : Json)

def bodyLimits : Json.Limits where
  digits := some Text.digitLimit
  depth := some 975

def Body.ofJson : Except Json.Refusal Json → Body
  | .ok .null | .error .malformed => .absent
  | .error .tooDeep => .tooDeep
  | .ok json => .value json

def Request.json (r : Request) : Body :=
  if r.contentType.any isJsonType then
    match Text.decode? r.body.toUTF8.toList with
    | some chars => .ofJson (Json.read bodyLimits chars)
    | none => .absent
  else .absent

end FuelTelemetry.Service

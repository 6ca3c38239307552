import FuelTelemetry.Fault

/-!
Codes of the errors that answers and logs report. An incident is one such error: a code, a message,
the failure behind it if there is one, and context.
-/

namespace FuelTelemetry

inductive Category where
  | validation
  | database
  | parsing
  | processing
  | system
deriving DecidableEq, Repr

def Category.word : Category → String
  | validation => "validation"
  | database => "database"
  | parsing => "parsing"
  | processing => "processing"
  | system => "system"

inductive Severity where
  | warning
  | error
deriving DecidableEq, Repr

def Severity.word : Severity → String
  | warning => "warning"
  | error => "error"

structure CodeInfo where
  category : Category
  description : String
  severity : Severity
  alert : Bool

inductive ErrorCode where
  | missingField
  | invalidType
  | rollback
  | malformedJson
  | invalidReading
  | calibrationFailed
  | processingFailed
  | warmStartFailed
  | publishFailed
deriving DecidableEq, Repr

namespace ErrorCode

def all : List ErrorCode :=
  [missingField, invalidType, rollback, malformedJson, invalidReading, calibrationFailed,
   processingFailed, warmStartFailed, publishFailed]

def code : ErrorCode → String
  | missingField => "E002"
  | invalidType => "E003"
  | rollback => "E203"
  | malformedJson => "E303"
  | invalidReading => "E305"
  | calibrationFailed => "E410"
  | processingFailed => "E411"
  | warmStartFailed => "E412"
  | publishFailed => "E413"

def ofCode? (code : String) : Option ErrorCode :=
  all.find? (·.code = code)

def ofCaller (category : Category) (description : String) : CodeInfo :=
  ⟨category, description, .warning, false⟩

def ofService (category : Category) (description : String) : CodeInfo :=
  ⟨category, description, .error, true⟩

def info : ErrorCode → CodeInfo
  | missingField => ofCaller .validation "Required field missing in request"
  | invalidType => ofCaller .validation "Field has wrong data type"
  | rollback => ofService .database "Database transaction rolled back"
  | malformedJson => ofCaller .parsing "Request body is not valid JSON"
  | invalidReading => ofCaller .parsing "Reading could not be built from payload"
  | calibrationFailed => ofCaller .processing "Raw sensor value could not be calibrated"
  | processingFailed => ofService .processing "Unexpected fault while processing a reading"
  | warmStartFailed => ofService .processing "Loading historical readings failed for a device"
  | publishFailed => ofService .processing "Fuel activity could not be delivered"

def unknown : CodeInfo := ofService .system "Unknown error"

def infoOf (code : String) : CodeInfo :=
  match ofCode? code with
  | some c => c.info
  | none => unknown

end ErrorCode

structure Incident where
  code : ErrorCode
  message : String
  cause : Option Fault
  context : List (String × Json)

namespace Incident

/-- Context must not use the names that an incident has already. -/
def new (code : ErrorCode) (message : String) (cause : Option Fault)
    (context : List (String × Json)) : Except Fault Incident :=
  match ["self", "code", "message", "exception"].find? fun name => Table.contains name context with
  | some name => .error (.clashingName name)
  | none => .ok ⟨code, message, cause, context⟩

def fields (i : Incident) : List (String × Json) :=
  let info := i.code.info
  [("code", .text i.code.code),
   ("category", .text info.category.word),
   ("message", .text i.message),
   ("severity", .text info.severity.word),
   ("alert", .bool info.alert)] ++
  (match i.cause with
   | some fault =>
     [("exception_type", .text fault.name), ("exception_message", .text fault.text)]
   | none => []) ++
  (if i.context.isEmpty then [] else [("context", .object i.context)])

def text (i : Incident) : String := s!"[{i.code.code}] {i.message}"

end Incident

end FuelTelemetry

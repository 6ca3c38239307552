import FuelTelemetry.Configuration
import FuelTelemetry.Ledger.Collaborators
import FuelTelemetry.Processing.WarmStart
import FuelTelemetry.Reading.Decode
import FuelTelemetry.Service.Answer
import FuelTelemetry.Service.Request

/-!
Uploads: one reading or a list of them. The first item that is no reading rejects the whole upload
before anything is processed. The readings are then processed in order and all stored, whatever came
of each, and stored together or not at all.
-/

namespace FuelTelemetry

structure Service where
  processor : Processor
  ledger : Ledger
  paging : Paging

namespace Service

def new (config : Configuration) (paging : Paging) : Except Fault Service := do
  return ⟨.new (← config.settings), .empty, paging⟩

def warmStart (s : Service) (now : Time.Stamp) : Service :=
  let loader := Loader.new s.processor.settings none none
  let ((processor, _), ledger) :=
    WarmStart.schedule Ledger.collaborators loader s.processor now s.ledger
  { s with processor, ledger }

def itemsOf : Json → List Json
  | .list items => items
  | value => [value]

/-- Under which code a rejected reading is reported: one without a field is no reading at all, one
without a value lacks the field. -/
def rejectionCode (field value : Option String) : ErrorCode :=
  if (field.filter (· ≠ "")).isNone then .invalidReading
  else if value.isNone then .missingField
  else .invalidType

/-- The answer to an upload with an item that is no reading. Only the receiver's own errors are
reported. -/
def rejection (fault : Fault) : Answer :=
  match fault.report? with
  | some (.rejectedReading message field value) =>
    .incident 400 {
      code := rejectionCode field value
      message
      cause := none
      context := (ErrorReport.rejectedReading message field value).details }
  | _ => .unexpected

def storeFailure (fault : Fault) : Answer :=
  if Ledger.refuses fault then
    .incident 500 {
      code := .rollback
      message := "Failed to store fuel readings"
      cause := some fault
      context := [] }
  else .unexpected

def resultJson (r : Result) : Json :=
  .object (r.reading.fields ++
    [("status", .text r.outcome.status.word), ("reason", .ofOption .text r.outcome.reason)])

def uploadJson (results : List Result) : Json :=
  .object
    [("readings", .list (results.map resultJson)),
     ("activities", .list ((results.filterMap (·.outcome.activity)).map Activity.toJson))]

/-- Processes readings and stores them with the levels that they have afterwards. -/
def accept (s : Service) (readings : List Reading) : Service × Answer :=
  let ((processor, results), ledger) :=
    s.processor.processAll Ledger.collaborators .live s.ledger readings
  let s := { s with processor, ledger }
  match s.ledger.storeReadings (results.map (·.reading)) with
  | .ok ledger => ({ s with ledger }, .ok (uploadJson results))
  | .error fault => (s, storeFailure fault)

def upload (s : Service) (body : Body) : Service × Answer :=
  match body with
  | .absent => (s, .incident 400 ⟨.malformedJson, "Request body must be JSON", none, []⟩)
  | .tooDeep => (s, .unexpected)
  | .value value =>
    match (itemsOf value).mapM Reading.ofJson with
    | .error fault => (s, rejection fault)
    | .ok readings => s.accept readings

end Service

end FuelTelemetry

import FuelTelemetry.Proofs.Reading.Offending
import FuelTelemetry.Proofs.Service.Batch

/-!
Rejected uploads. One item that is no reading rejects an upload as a whole: nothing is processed or
stored, and the answer blames the first such item.
-/

namespace FuelTelemetry

namespace Service

def Answer.error? (answer : Answer) (name : String) : Option Json := do
  (← (← answer.body).field? "error").field? name

structure Answer.Reports (answer : Answer) (error : ErrorCode) (code : String)
    (context : List (String × Json)) : Prop where
  incident : ∃ message, answer = .incident 400 ⟨error, message, none, context⟩
  status : answer.status = 400
  code : answer.error? "code" = some (.text code)
  context : answer.error? "context" = if context.isEmpty then none else some (.object context)

/-- An answer that blames an item: for being no object, for lacking a field that must be there, or for
a value that a field cannot have. Blamed is the first field that offends. -/
inductive Blames (answer : Answer) : Json → Prop where
  | noObject {item : Json} (other : ∀ fields, item ≠ .object fields)
      (reports : answer.Reports .invalidReading "E305" []) : Blames answer item
  | missing {fields : List (String × Json)} {f : UploadField} (first : f.FirstOffending fields)
      (required : f.kind.Required) (blank : (f.given fields).Blank)
      (reports : answer.Reports .missingField "E002" [("field", .text f.name)]) : Blames answer (.object fields)
  | unfit {fields : List (String × Json)} {f : UploadField} {value : String}
      (first : f.FirstOffending fields) (present : ¬ (f.given fields).Blank)
      (shown : (f.given fields).display = .ok value)
      (reports : answer.Reports .invalidType "E003" [("field", .text f.name), ("value", .text value)]) :
      Blames answer (.object fields)

theorem Blames.status {answer : Answer} {item : Json} (h : Blames answer item) :
    answer.status = 400 := by
  cases h with
  | noObject _ reports => exact reports.status
  | missing _ _ _ reports => exact reports.status
  | unfit _ _ _ reports => exact reports.status

end Service

namespace Service

end Service

end FuelTelemetry

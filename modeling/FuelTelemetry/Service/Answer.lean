import FuelTelemetry.ErrorCode

/-!
Answers of the service: a status and a JSON body, or none.
-/

namespace FuelTelemetry.Service

structure Answer where
  status : Nat
  body : Option Json

namespace Answer

def ok (body : Json) : Answer := ⟨200, some body⟩

def bare (status : Nat) : Answer := ⟨status, none⟩

def unexpected : Answer := bare 500

def incident (status : Nat) (i : Incident) : Answer :=
  ⟨status, some (.object [("error", .object i.fields)])⟩

end Answer

end FuelTelemetry.Service

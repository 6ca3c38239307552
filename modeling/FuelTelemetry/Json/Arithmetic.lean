import FuelTelemetry.Fault
import FuelTelemetry.Number.Binary64

/-!
Sums and comparison of JSON values. Truth values count as 0 and 1; an integer beside a double is
rounded to one for a sum and compared exactly. Texts and lists add up end to end and compare by the
first place where they differ. All else cannot be combined or put in order, but it may be equal.
-/

namespace FuelTelemetry.Json

inductive Amount where
  | whole (n : Int)
  | real (x : Float)

def amount? : Json → Option Amount
  | bool value => some (.whole (if value then 1 else 0))
  | int n => some (.whole n)
  | float x => some (.real x)
  | _ => none

namespace Amount

def toJson : Amount → Json
  | whole n => int n
  | real x => float x

def real? : Amount → Except Fault Float
  | real x => .ok x
  | whole n =>
    match Number.ofInt? n with
    | some x => .ok x
    | none => .error .tooLargeForDouble

def add : Amount → Amount → Except Fault Amount
  | whole a, whole b => .ok (whole (a + b))
  | a, b => return real ((← a.real?) + (← b.real?))

def equal : Amount → Amount → Bool
  | whole a, whole b => a == b
  | whole a, real b => b == b && !Number.intLess a b && !Number.lessInt b a
  | real a, whole b => a == a && !Number.intLess b a && !Number.lessInt a b
  | real a, real b => a == b

def exceeds : Amount → Amount → Bool
  | whole a, whole b => b < a
  | whole a, real b => Number.lessInt b a
  | real a, whole b => Number.intLess b a
  | real a, real b => b < a

end Amount

def add (a b : Json) : Except Fault Json :=
  match a, b with
  | text a, text b => .ok (text (a ++ b))
  | list a, list b => .ok (list (a ++ b))
  | a, b =>
    match a.amount?, b.amount? with
    | some a, some b => Amount.toJson <$> a.add b
    | _, _ => .error .incompatible

mutual

/-- Objects are equal whatever the order of their fields. -/
def equal : Json → Json → Bool
  | null, null => true
  | text a, text b => a == b
  | list a, list b => equalItems a b
  | object a, object b => a.length == b.length && equalFields a b
  | a, b =>
    match a.amount?, b.amount? with
    | some a, some b => a.equal b
    | _, _ => false

def equalItems : List Json → List Json → Bool
  | [], [] => true
  | a :: as, b :: bs => equal a b && equalItems as bs
  | _, _ => false

def equalFields : List (String × Json) → List (String × Json) → Bool
  | [], _ => true
  | (name, a) :: rest, other =>
    (match Table.get? name other with
    | some b => equal a b
    | none => false) && equalFields rest other

end

mutual

def exceeds : Json → Json → Except Fault Bool
  | text a, text b => .ok (b < a)
  | list a, list b => exceedsItems a b
  | a, b =>
    match a.amount?, b.amount? with
    | some a, some b => .ok (a.exceeds b)
    | _, _ => .error .incompatible

def exceedsItems : List Json → List Json → Except Fault Bool
  | [], _ => .ok false
  | _ :: _, [] => .ok true
  | a :: as, b :: bs => if equal a b then exceedsItems as bs else exceeds a b

end

def typeName : Json → String
  | null => "NoneType"
  | bool _ => "bool"
  | int _ => "int"
  | float _ => "float"
  | text _ => "str"
  | list _ => "list"
  | object _ => "dict"

end FuelTelemetry.Json

import FuelTelemetry.Table

/-!
JSON values as uploads and event contexts hold them. Integers have any size and stay apart from
doubles, for their texts differ. The fields of an object keep their order and are distinct.
-/

namespace FuelTelemetry

inductive Json where
  | null
  | bool (value : Bool)
  | int (value : Int)
  | float (value : Float)
  | text (value : String)
  | list (items : List Json)
  | object (fields : List (String × Json))
deriving Inhabited

namespace Json

def field? (name : String) : Json → Option Json
  | object fields => Table.get? name fields
  | _ => none

def fieldOr (name other : String) (fields : List (String × Json)) : Json :=
  match Table.get? name fields with
  | some value => value
  | none => (Table.get? other fields).getD null

def ofOption {α : Type} (f : α → Json) : Option α → Json
  | some a => f a
  | none => null

def truthy : Json → Bool
  | null => false
  | bool value => value
  | int value => value ≠ 0
  | float value => !(value == 0.0)
  | text value => value ≠ ""
  | list items => !items.isEmpty
  | object fields => !fields.isEmpty

end Json

end FuelTelemetry

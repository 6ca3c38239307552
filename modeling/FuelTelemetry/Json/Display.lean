import FuelTelemetry.Json.Basic
import FuelTelemetry.Number.Shortest
import FuelTelemetry.Text.Quoted

/-!
A JSON value in an error text. A text value stands for itself at the top and is quoted inside
lists and objects. A value that is or holds an integer of too many digits has no text.
-/

namespace FuelTelemetry.Json

def floatTexts : Number.SpecialTexts := ⟨"nan", "inf", "-inf"⟩

def commaSeparated : List (List Char) → List Char
  | [] => []
  | [item] => item
  | item :: rest => item ++ ',' :: ' ' :: commaSeparated rest

mutual

def shown? : Json → Option (List Char)
  | null => some "None".toList
  | bool true => some "True".toList
  | bool false => some "False".toList
  | int value => Text.integer? value
  | float value => some (Number.text floatTexts value)
  | text value => some (Text.quoted value.toList)
  | list items => (shownItems? items).map fun texts => '[' :: commaSeparated texts ++ [']']
  | object fields => (shownFields? fields).map fun texts => '{' :: commaSeparated texts ++ ['}']

def shownItems? : List Json → Option (List (List Char))
  | [] => some []
  | item :: rest => do return (← shown? item) :: (← shownItems? rest)

def shownFields? : List (String × Json) → Option (List (List Char))
  | [] => some []
  | (name, value) :: rest => do
    return (Text.quoted name.toList ++ ':' :: ' ' :: (← shown? value)) :: (← shownFields? rest)

end

def display? : Json → Option String
  | text value => some value
  | value => (shown? value).map String.ofList

end FuelTelemetry.Json

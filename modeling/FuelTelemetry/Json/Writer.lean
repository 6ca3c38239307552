import FuelTelemetry.Json.Basic
import FuelTelemetry.Number.Shortest

/-!
JSON text of a value. Doubles are written with the fewest digits that read back, always with a
point or an exponent; the three special ones by the words that the reader knows.
-/

namespace FuelTelemetry.Json

def specialWords : Number.SpecialTexts := ⟨"NaN", "Infinity", "-Infinity"⟩

/-- Characters that end a line for some readers. -/
def breaksLine (c : Char) : Bool :=
  c.toNat == 0x85 || c.toNat == 0x2028 || c.toNat == 0x2029

def codeEscape (c : Char) : String :=
  let digit (place : Nat) : Char := Nat.digitChar ((c.toNat >>> (4 * place)) % 16)
  String.ofList ['\\', 'u', digit 3, digit 2, digit 1, digit 0]

def writtenChar (c : Char) : String :=
  if c == '"' then "\\\""
  else if c == '\\' then "\\\\"
  else if c.toNat < 0x20 || breaksLine c then codeEscape c
  else c.toString

def writtenText (text : String) : String :=
  text.toList.foldl (fun written c => written ++ writtenChar c) "\"" ++ "\""

mutual

def writeTo (written : String) : Json → String
  | null => written ++ "null"
  | bool true => written ++ "true"
  | bool false => written ++ "false"
  | int value => written ++ String.ofList (Text.signed value)
  | float value => written ++ String.ofList (Number.text specialWords value)
  | text value => written ++ writtenText value
  | list items => writeItems (written ++ "[") "" items ++ "]"
  | object fields => writeFields (written ++ "\x7b") "" fields ++ "\x7d"

def writeItems (written separator : String) : List Json → String
  | [] => written
  | item :: rest => writeItems (writeTo (written ++ separator) item) "," rest

def writeFields (written separator : String) : List (String × Json) → String
  | [] => written
  | (name, value) :: rest =>
    writeFields (writeTo (written ++ separator ++ writtenText name ++ ":") value) "," rest

end

def write (value : Json) : String :=
  writeTo "" value

end FuelTelemetry.Json

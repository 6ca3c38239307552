import FuelTelemetry.Text.Blank
import FuelTelemetry.Text.Digit

/-!
The text payload of a digital fuel sensor: three tokens `F=<hex> T=<any> N=<hex>[.<any>]` with
blanks between and around them. The frequency is at most `FFF`, a higher one marks a faulty sensor;
the temperature has to be there and is not read; the fuel points end at the first point.
-/

namespace FuelTelemetry.Payload

def hexFrom? (n : Nat) : List Char → Option Nat
  | [] => some n
  | c :: rest => do hexFrom? (16 * n + (← Text.hexValue? c)) rest

def hex? (digits : List Char) : Option Nat :=
  if digits.isEmpty then none else hexFrom? 0 digits

def tagged? (tag : Char) : List Char → Option (List Char)
  | c :: '=' :: rest => if c = tag then some rest else none
  | _ => none

def greatestFrequency : Nat := 0xFFF

def points? (token : List Char) : Option Nat := do
  hex? ((← tagged? 'N' token).takeWhile (· ≠ '.'))

def decode (payload : List Char) : Option Nat :=
  match Text.words payload with
  | [frequency, _, fuel] =>
    match tagged? 'F' frequency >>= hex? with
    | some f => if f ≤ greatestFrequency then points? fuel else none
    | none => none
  | _ => none

end FuelTelemetry.Payload

import FuelTelemetry.Fault
import FuelTelemetry.Number.Binary64

/-!
The means of the two halves of a sample. With the midpoint at half the last index, both halves are
one longer than the midpoint's index and share the midpoint; the last level of an even sample
belongs to neither.
-/

namespace FuelTelemetry

structure HalfMeans where
  midpoint : Nat
  left : Float
  right : Float

def midpointOf (size : Nat) : Nat := (size - 1) / 2

def coveredBy (size : Nat) : Nat := 2 * midpointOf size + 1

def sumOf (levels : List Float) : Float :=
  levels.foldl (· + ·) 0.0

def halfMeans (levels : List Float) : Except Fault HalfMeans :=
  if levels.isEmpty then .error .emptySample
  else
    let midpoint := midpointOf levels.length
    let span := midpoint + 1
    let mean (half : List Float) : Float := sumOf half / Number.ofCount span
    .ok ⟨midpoint, mean (levels.take span), mean ((levels.drop midpoint).take span)⟩

end FuelTelemetry

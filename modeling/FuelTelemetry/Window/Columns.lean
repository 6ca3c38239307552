import FuelTelemetry.Bisect
import FuelTelemetry.Window.Store

/-!
A window as it is kept: the times of its readings in one list and the readings themselves in another,
side by side. Places are found in the times by binary search, and both lists are edited at the places
found. A reading is taken out by identity, sought among those at its time.
-/

namespace FuelTelemetry

open Time (Instant)

structure Columns (α : Type) where
  times : List (Option Instant)
  items : List α

namespace Columns

variable {α : Type}

def empty : Columns α := ⟨[], []⟩

/-- How a time compares with another one. A time that is missing compares with none. -/
def compared (rel : Instant → Instant → Bool) : Option Instant → Option Instant → Except Fault Bool
  | some a, some b => .ok (rel a b)
  | _, _ => .error .undated

def leftOf (c : Columns α) (t : Option Instant) : Except Fault Nat :=
  bisect (compared (fun a b => decide (a < b)) · t) c.times

def rightOf (c : Columns α) (t : Option Instant) : Except Fault Nat :=
  bisect (compared (fun a b => decide (a ≤ b)) · t) c.times

def upsert (capacity : Nat) (c : Columns α) (t : Option Instant) (x : α) :
    Except Fault (Columns α × Option α) := do
  let place ← c.rightOf t
  let times := c.times.insertIdx place t
  let items := c.items.insertIdx place x
  if capacity < items.length then return (⟨times.tail, items.tail⟩, items.head?)
  else return (⟨times, items⟩, none)

/-- Takes out the first item of an identity among those at a time; the answer is whether there was
one. -/
def remove (c : Columns α) (t : Option Instant) (same : α → Bool) :
    Except Fault (Columns α × Bool) := do
  let first ← c.leftOf t
  let last ← c.rightOf t
  match (List.range' first (last - first)).find? fun place => c.items[place]?.any same with
  | some place => return (⟨c.times.eraseIdx place, c.items.eraseIdx place⟩, true)
  | none => return (c, false)

def query (c : Columns α) (after upTo : Option Instant) : Except Fault (List α) := do
  let first ← c.rightOf after
  let last ← c.rightOf upTo
  return (c.items.take last).drop first

def stop (c : Columns α) : Option (Option Instant) → Except Fault Nat
  | none => .ok c.items.length
  | some bound => c.rightOf bound

def last (c : Columns α) (count : Int) (bound : Option (Option Instant)) : Except Fault (List α) :=
  if count ≤ 0 then .ok []
  else (fun stop => (c.items.take stop).drop (stop - count.toNat)) <$> c.stop bound

end Columns

end FuelTelemetry

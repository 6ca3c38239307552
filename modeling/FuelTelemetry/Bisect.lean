/-!
Binary search in a list. Of the places left, the middle one is looked at: past an item that belongs
in front the search goes on behind it, and otherwise before it. A comparison may fail, and then the
search does.
-/

namespace FuelTelemetry

variable {α : Type} {m : Type → Type} [Monad m]

def bisectBetween (inFront : α → m Bool) (items : List α) (low high : Nat)
    (inside : high ≤ items.length) : m Nat :=
  if some_left : low < high then do
    if ← inFront items[(low + high) / 2] then
      bisectBetween inFront items ((low + high) / 2 + 1) high inside
    else bisectBetween inFront items low ((low + high) / 2) (by omega)
  else pure low
termination_by high - low

def bisect (inFront : α → m Bool) (items : List α) : m Nat :=
  bisectBetween inFront items 0 items.length (Nat.le_refl _)

end FuelTelemetry

import FuelTelemetry.Table
import FuelTelemetry.Time.Stamp
import FuelTelemetry.Window.Basic

/-!
The windows of all device sensors, with one capacity for all. Most operations open the window of a
sensor that is not yet known; asking for a size, clearing, and asking for the last zero readings do
not. An operation on one sensor leaves the windows of the others alone.
-/

namespace FuelTelemetry

open Time (Instant Stamp)

structure SensorKey where
  device : Int
  sensor : Int
deriving DecidableEq, Repr

/-- Instants in UTC compare with device times, stamps with an offset do not. -/
def Time.Stamp.plain? (s : Stamp) : Option Instant :=
  match s.offset with
  | none => some s.wall
  | some _ => none

structure WindowStore where
  capacity : Nat
  capacity_pos : 0 < capacity
  windows : Table SensorKey Window

structure Ticket where
  key : SensorKey
  arrival : Nat
  time : Option Instant

namespace WindowStore

def new (capacity : Int) : Except Fault WindowStore :=
  if h : 1 ≤ capacity then .ok ⟨capacity.toNat, by omega, []⟩ else .error .windowCapacity

def window (s : WindowStore) (key : SensorKey) : Window :=
  (s.windows.get? key).getD .empty

def setWindow (s : WindowStore) (key : SensorKey) (w : Window) : WindowStore :=
  { s with windows := s.windows.put key w }

theorem window_setWindow_self (s : WindowStore) (key : SensorKey) (w : Window) :
    (s.setWindow key w).window key = w := by
  simp [window, setWindow, Table.get?_put_self]

theorem window_setWindow_of_ne (s : WindowStore) {key other : SensorKey} (h : other ≠ key)
    (w : Window) : (s.setWindow key w).window other = s.window other := by
  simp [window, setWindow, Table.get?_put_of_ne h]

def openWindow (s : WindowStore) (key : SensorKey) : WindowStore :=
  s.setWindow key (s.window key)

theorem window_openWindow (s : WindowStore) (key other : SensorKey) :
    (s.openWindow key).window other = s.window other := by
  by_cases h : other = key
  · subst h; exact window_setWindow_self ..
  · exact window_setWindow_of_ne s h _

def upsert (s : WindowStore) (key : SensorKey) (r : Reading) :
    Except Fault (WindowStore × Ticket × Option Reading) := do
  let done ← (s.window key).insert s.capacity r
  return (s.setWindow key done.window, ⟨key, done.arrival, r.time⟩, done.evicted)

def remove (s : WindowStore) (key : SensorKey) (ticket : Ticket) :
    Except Fault (WindowStore × Bool) := do
  let arrival := if ticket.key = key then some ticket.arrival else none
  let (rest, found) ← (s.window key).remove arrival ticket.time
  return (s.setWindow key rest, found)

def query (s : WindowStore) (key : SensorKey) (after upTo : Option Stamp) :
    WindowStore × Except Fault (List Reading) :=
  (s.openWindow key,
    (s.window key).query (after.bind Stamp.plain?) (upTo.bind Stamp.plain?))

def last (s : WindowStore) (key : SensorKey) (count : Int) (bound : Option Stamp) :
    WindowStore × Except Fault (List Reading) :=
  if count ≤ 0 then (s, .ok [])
  else
    let rs : Except Fault (List Reading) := match bound with
      | none => .ok (s.window key).readings
      | some bound => (s.window key).upTo bound.plain?
    (s.openWindow key, rs.map (Window.lastOf count.toNat))

def snapshot (s : WindowStore) (key : SensorKey) : WindowStore × List Reading :=
  (s.openWindow key, (s.window key).readings)

def size (s : WindowStore) (key : SensorKey) : Nat :=
  (s.window key).size

def clear (s : WindowStore) (key : SensorKey) : WindowStore :=
  match s.windows.get? key with
  | some w => s.setWindow key w.clear
  | none => s

def keys (s : WindowStore) : List SensorKey := s.windows.keys

end WindowStore

end FuelTelemetry

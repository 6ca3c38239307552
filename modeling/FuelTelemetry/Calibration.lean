import FuelTelemetry.Bisect
import FuelTelemetry.Fault
import FuelTelemetry.Number.Binary64
import FuelTelemetry.Table

/-!
Calibration curves: from the raw points of a fuel sensor to a fuel level. A curve is piecewise
linear; each breakpoint holds the level at its points and the points per unit of fuel from there to
the next one. Below the first breakpoint there is no level. Rows may come in any order, and of rows
at the same points the last one counts.
-/

namespace FuelTelemetry

structure Line where
  level : Float
  slope : Float

structure Breakpoint where
  points : Int
  level : Float
  slope : Float

def Breakpoint.line (b : Breakpoint) : Line := ⟨b.level, b.slope⟩

def Line.startingAt (points : Int) (line : Line) : Breakpoint := ⟨points, line.level, line.slope⟩

def inOrder : List Int → List Int
  | [] => []
  | points :: rest => insert points (inOrder rest)
where
  insert (points : Int) : List Int → List Int
    | [] => [points]
    | first :: rest => if points ≤ first then points :: first :: rest else first :: insert points rest

theorem inOrder_ne_nil {keys : List Int} (present : keys ≠ []) : inOrder keys ≠ [] := by
  cases keys with
  | nil => exact absurd rfl present
  | cons points rest =>
    unfold inOrder
    cases inOrder rest with
    | nil => exact List.cons_ne_nil _ _
    | cons first behind =>
      unfold inOrder.insert
      split <;> exact List.cons_ne_nil _ _

structure Curve where
  lines : Table Int Line
  keys : List Int
  nonempty : lines ≠ []
  sorted : keys = inOrder lines.keys

namespace Curve

def linesOf (rows : List Breakpoint) : Table Int Line :=
  Table.merge [] (rows.map fun row => (row.points, row.line))

def ofRows (rows : List Breakpoint) : Except Fault Curve :=
  if h : linesOf rows = [] then .error .noBreakpoints
  else .ok ⟨linesOf rows, inOrder (linesOf rows).keys, h, rfl⟩

def size (c : Curve) : Nat := c.keys.length

theorem keys_ne_nil (c : Curve) : c.keys ≠ [] := by
  rw [c.sorted]
  exact inOrder_ne_nil (mt List.map_eq_nil_iff.1 c.nonempty)

def lowest (c : Curve) : Int := c.keys.head c.keys_ne_nil

def breakpointAt (c : Curve) (points : Int) : Except Fault Breakpoint :=
  match c.lines.get? points with
  | some line => .ok (line.startingAt points)
  | none => .error (.missingKey (toString points))

def breakpoints (c : Curve) : Except Fault (List Breakpoint) := c.keys.mapM c.breakpointAt

def floor (c : Curve) (raw : Int) : Except Fault Breakpoint :=
  match Id.run (bisect (fun key => pure (decide (key ≤ raw))) c.keys) with
  | 0 => .error (.naming raw (.belowCurve raw c.lowest))
  | place + 1 => match c.keys[place]? with
    | some key => c.breakpointAt key
    | none => .error (.foreign "IndexError" "list index out of range")

end Curve

def Breakpoint.levelAt (b : Breakpoint) (raw : Int) : Except Fault Float :=
  if raw = b.points then .ok b.level
  else if b.slope == 0.0 then .error (.naming b.points (.zeroSlope b.points))
  else match Number.ofInt? (raw - b.points) with
    | some distance => .ok (distance / b.slope + b.level)
    | none => .error .tooLargeForDouble

def Curve.level (c : Curve) (raw : Int) : Except Fault Float := do
  (← c.floor raw).levelAt raw

end FuelTelemetry

import FuelTelemetry.Number.Binary64
import FuelTelemetry.Window.Basic

/-!
Samples of a window: the readings to consider beside a given one. A replayed reading looks around
itself in time. A live one takes the readings right before the latest of its trailing span, or the
whole window as long as that span holds no more than the sample is to have. The moving average of a
sample replaces the level of the reading.
-/

namespace FuelTelemetry

open Time (Instant)

structure Reach where
  lookaround : Int
  lookback : Int

/-- Longest span in days, either way. -/
def longestSpan : Int := 999999999

def spanOf (seconds : Int) : Except Fault Int :=
  let days := Int.fdiv seconds 86400
  if -longestSpan ≤ days ∧ days ≤ longestSpan then .ok (seconds * Time.second)
  else .error .spanTooLong

def Reading.instant (r : Reading) : Except Fault Instant :=
  match r.time with
  | some t => .ok t
  | none => .error .undated

def shifted (t : Instant) (micros : Int) : Except Fault Instant :=
  match t.shift? micros with
  | some t => .ok t
  | none => .error .shiftedOutOfCalendar

/-- So many items as the target says, up to but not including the last one. A target below one
counts from the front: minus one drops no item there. -/
def beforeLast {α : Type} (target : Int) (items : List α) : List α :=
  let start := if 0 ≤ target then items.length - (target + 1).toNat else (-(target + 1)).toNat
  items.dropLast.drop start

namespace Window

def around (w : Window) (seconds : Int) (r : Reading) : Except Fault (List Reading) := do
  let span ← spanOf seconds
  let t ← r.instant
  let after ← shifted t (-span)
  let upTo ← shifted t span
  w.query (some after) (some upTo)

def trailing (w : Window) (seconds : Int) (r : Reading) : Except Fault (List Reading) := do
  let span ← spanOf seconds
  let t ← r.instant
  let after ← shifted t (-span)
  w.query (some after) (some t)

def select (w : Window) (r : Reading) (target : Int) (reach : Reach) :
    Except Fault (List Reading) := do
  if r.isReplayed then w.around reach.lookaround r
  else if w.size ≤ target then return w.readings
  else
    let latest ← w.trailing reach.lookback r
    if latest.length ≤ target then return w.readings else return beforeLast target latest

end Window

def Reading.measured (r : Reading) : Except Fault Float :=
  match r.level with
  | some level => .ok level
  | none => .error .missingLevel

def averageLevel (r : Reading) (others : List Reading) : Except Fault Float := do
  let first ← r.measured
  let total ← others.foldlM (fun sum other => return sum + (← other.measured)) first
  return total / (Number.ofCount others.length + 1.0)

def Window.smooth (w : Window) (r : Reading) (target : Int) (reach : Reach) :
    Except Fault Float := do
  averageLevel r (← w.select r target reach)

end FuelTelemetry

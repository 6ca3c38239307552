import FuelTelemetry.Reading.Basic

/-!
The window of one device sensor: its latest readings in the order of their device times, equal
times in order of arrival. A reading inserted into a full window pushes out the earliest one, which
may be itself. Every entry has the number of its arrival, so that one of two equal readings can be
taken out again. A reading without a device time compares with none and so can only stand alone.
-/

namespace FuelTelemetry

open Time (Instant)

structure Entry where
  arrival : Nat
  time : Instant
  reading : Reading

inductive Contents where
  | dated (entries : List Entry)
  | undated (arrival : Nat) (reading : Reading)

structure Window where
  /-- The number of the next arrival. -/
  arrivals : Nat
  contents : Contents

def Entry.insert (e : Entry) : List Entry → List Entry
  | [] => [e]
  | first :: rest => if first.time ≤ e.time then first :: e.insert rest else e :: first :: rest

theorem Entry.length_insert (e : Entry) (es : List Entry) :
    (e.insert es).length = es.length + 1 := by
  induction es with
  | nil => rfl
  | cons first rest ih => simp only [insert]; split <;> simp [ih]

def Entry.within (after upTo : Instant) (es : List Entry) : List Entry :=
  (es.takeWhile (·.time ≤ upTo)).dropWhile (·.time ≤ after)

namespace Contents

def readings : Contents → List Reading
  | dated entries => entries.map (·.reading)
  | undated _ reading => [reading]

end Contents

namespace Window

def empty : Window := ⟨0, .dated []⟩

def readings (w : Window) : List Reading := w.contents.readings

def size (w : Window) : Nat := w.readings.length

structure Inserted where
  window : Window
  arrival : Nat
  evicted : Option Reading

def trim (capacity : Nat) (entries : List Entry) : List Entry × Option Reading :=
  match entries with
  | first :: rest =>
    if capacity < entries.length then (rest, some first.reading) else (entries, none)
  | [] => ([], none)

def insert (capacity : Nat) (w : Window) (r : Reading) : Except Fault Inserted :=
  match w.contents, r.time with
  | .dated entries, some time =>
    let (kept, evicted) := trim capacity (Entry.insert ⟨w.arrivals, time, r⟩ entries)
    .ok ⟨⟨w.arrivals + 1, .dated kept⟩, w.arrivals, evicted⟩
  | .dated [], none => .ok ⟨⟨w.arrivals + 1, .undated w.arrivals r⟩, w.arrivals, none⟩
  | _, _ => .error .undated

def remove (w : Window) (arrival : Option Nat) (time : Option Instant) :
    Except Fault (Window × Bool) :=
  match w.contents, time with
  | .dated entries, some _ =>
    let kept := entries.filter fun e => some e.arrival ≠ arrival
    .ok ({ w with contents := .dated kept }, kept.length < entries.length)
  | .dated [], none => .ok (w, false)
  | _, _ => .error .undated

def clear (w : Window) : Window :=
  { w with contents := .dated [] }

/-- The readings after the first bound and up to the second. In a window that holds something, a
bound that is no instant in UTC compares with nothing. -/
def query (w : Window) (after upTo : Option Instant) : Except Fault (List Reading) :=
  match w.contents, after, upTo with
  | .dated entries, some after, some upTo =>
    .ok ((Entry.within after upTo entries).map (·.reading))
  | .dated [], _, _ => .ok []
  | _, _, _ => .error .undated

def upTo (w : Window) (bound : Option Instant) : Except Fault (List Reading) :=
  match w.contents, bound with
  | .dated entries, some bound => .ok ((entries.takeWhile (·.time ≤ bound)).map (·.reading))
  | .dated [], none => .ok []
  | _, _ => .error .undated

def lastOf (count : Nat) (rs : List Reading) : List Reading :=
  rs.drop (rs.length - count)

end Window

end FuelTelemetry

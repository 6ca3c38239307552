import FuelTelemetry.Ledger.Basic
import FuelTelemetry.Proofs.Window.Chronology

/-!
Stored readings and how they are read back. A stored reading loses the numbers that are none and the
sign of zeros, and gets the number of its row. The history of a device is made of its stored
readings in time order, equal times in the order in which they were stored.
-/

namespace FuelTelemetry

open Time (Instant)
open Ledger (Position)

def Reading.stored (r : Reading) (id : Nat) : Reading :=
  { r with
    latitude := Ledger.storedFloat r.latitude
    longitude := Ledger.storedFloat r.longitude
    level := Ledger.storedFloat r.level
    id := some id }

structure Reading.Numeric (r : Reading) : Prop where
  latitude : ∀ x ∈ r.latitude, (x == x) = true
  longitude : ∀ x ∈ r.longitude, (x == x) = true
  level : ∀ x ∈ r.level, (x == x) = true

namespace Ledger

theorem storedFloat_isSome {x : Option Float} (number : ∀ y ∈ x, (y == y) = true) :
    (storedFloat x).isSome = x.isSome := by
  cases x with
  | none => rfl
  | some y => simp [storedFloat, Option.filter, number y rfl]

theorem beq_storedFloat {x : Option Float} (number : ∀ y ∈ x, (y == y) = true) :
    (x == storedFloat x) = true := by
  cases x with
  | none => rfl
  | some y =>
    simp only [storedFloat, Option.filter, number y rfl, if_true, Option.map_some,
      Option.some_beq_some]
    split
    · assumption
    · exact number y rfl

theorem Position.ofReading_ok {r : Reading} {p : Position} (h : Position.ofReading r = .ok p) :
    r.time = some p.time ∧ ∀ id, p.toReading id = r.stored id := by
  unfold Position.ofReading required at h
  cases time : r.time with
  | none => simp [time, bind, Except.bind] at h
  | some t =>
    simp only [time, bind, Except.bind, pure, Except.pure, Except.ok.injEq] at h
    subst h
    exact ⟨rfl, fun id => by simp [Position.toReading, Reading.stored, time]⟩

/-- A row holds what a reading does; zeros of either sign are one number. -/
structure Position.Carries (p : Position) (r : Reading) : Prop where
  device : p.device = r.device
  time : some p.time = r.time
  latitude : (r.latitude == p.latitude) = true
  longitude : (r.longitude == p.longitude) = true
  sensor : p.sensor = r.sensor
  payload : p.payload = r.payload
  analog : p.analog = r.analog
  event : p.event = r.event
  level : (r.level == p.level) = true

theorem Position.carries_of_ofReading {r : Reading} {p : Position} (numeric : r.Numeric)
    (h : Position.ofReading r = .ok p) : p.Carries r := by
  obtain ⟨time, restored⟩ := Position.ofReading_ok h
  have same := restored 0
  have latitude : p.latitude = storedFloat r.latitude := congrArg Reading.latitude same
  have longitude : p.longitude = storedFloat r.longitude := congrArg Reading.longitude same
  have level : p.level = storedFloat r.level := congrArg Reading.level same
  exact {
    device := congrArg Reading.device same
    time := time.symm
    latitude := latitude ▸ beq_storedFloat numeric.latitude
    longitude := longitude ▸ beq_storedFloat numeric.longitude
    sensor := congrArg Reading.sensor same
    payload := congrArg Reading.payload same
    analog := congrArg Reading.analog same
    event := congrArg Reading.event same
    level := level ▸ beq_storedFloat numeric.level }

def Records (rs : List Reading) (rows : List Position) : Prop :=
  List.Forall₂ (fun r p => Position.ofReading r = .ok p) rs rows

theorem Records.append {rs others : List Reading} {rows more : List Position}
    (h : Records rs rows) (h' : Records others more) : Records (rs ++ others) (rows ++ more) :=
  List.rel_append h h'

theorem records_of_foldlM {rs : List Reading} {rows all : List Position}
    (h : rs.foldlM (fun rows r => return rows ++ [← Position.ofReading r]) rows =
      (.ok all : Except Fault (List Position))) :
    ∃ more, all = rows ++ more ∧ Records rs more := by
  induction rs generalizing rows with
  | nil =>
    obtain rfl := Except.ok.inj h
    exact ⟨[], (List.append_nil _).symm, .nil⟩
  | cons r rs ih =>
    rw [List.foldlM_cons] at h
    obtain ⟨placed, first, h⟩ := Except.bind_ok h
    obtain ⟨p, ofReading, first⟩ := Except.bind_ok first
    obtain rfl := Except.ok.inj first
    obtain ⟨more, rfl, records⟩ := ih h
    exact ⟨p :: more, by simp, .cons ofReading records⟩

variable {l l' : Ledger} {rs all : List Reading} {rows : List Position}

theorem storeReadings_ok (h : l.storeReadings rs = .ok l') (positions : l.positions = some rows) :
    ∃ more, l' = { l with positions := some (rows ++ more) } ∧ Records rs more := by
  obtain ⟨table, inserted, h⟩ := Except.bind_ok h
  obtain rfl := Except.ok.inj h
  unfold insert at inserted
  split at inserted
  · rename_i empty
    obtain rfl := List.isEmpty_iff.1 empty
    obtain rfl := Except.ok.inj inserted
    exact ⟨[], by rw [positions, List.append_nil], .nil⟩
  · obtain ⟨found, rowsOf, inserted⟩ := Except.bind_ok inserted
    rw [positions] at rowsOf
    obtain rfl := Except.ok.inj rowsOf
    obtain ⟨-, -, inserted⟩ := Except.bind_ok inserted
    obtain ⟨full, placed, inserted⟩ := Except.bind_ok inserted
    obtain rfl := Except.ok.inj inserted
    obtain ⟨more, rfl, records⟩ := records_of_foldlM placed
    exact ⟨more, rfl, records⟩

def recalled (rows : List Position) : List Reading :=
  (numbered rows).map fun row => row.2.toReading row.1

theorem mem_recalled {rows : List Position} {r : Reading} (h : r ∈ recalled rows) :
    ∃ p ∈ rows, ∃ id, r = p.toReading id := by
  obtain ⟨row, numbered, rfl⟩ := List.mem_map.1 h
  obtain ⟨x, placed, rfl⟩ := List.mem_map.1 numbered
  exact ⟨x.1, List.fst_mem_of_mem_zipIdx placed, _, rfl⟩

theorem recalled_dated {rows : List Position} {r : Reading} (h : r ∈ recalled rows) :
    r.time.isSome := by
  obtain ⟨p, -, id, rfl⟩ := mem_recalled h
  rfl

theorem Records.recalled_eq (h : Records all rows) :
    recalled rows = all.zipIdx.map fun x => x.1.stored (x.2 + 1) := by
  have shifted : ∀ n, ((rows.zipIdx n).map fun x => x.1.toReading (x.2 + 1)) =
      (all.zipIdx n).map fun x => x.1.stored (x.2 + 1) := by
    induction h with
    | nil => intro n; rfl
    | cons first _ ih =>
      intro n
      rw [List.zipIdx_cons, List.zipIdx_cons, List.map_cons, List.map_cons, ih (n + 1),
        (Position.ofReading_ok first).2]
  rw [recalled, numbered, List.map_map]
  exact shifted 0

def inside (device : Int) (start stop : Instant) (r : Reading) : Bool :=
  r.device = device ∧ r.time.any fun t => start ≤ t ∧ t ≤ stop

theorem history_eq (positions : l.positions = some rows) {device : Int}
    (fit : fits device = .ok ()) (start stop : Instant) :
    l.history device start stop =
      .ok (((recalled rows).filter (inside device start stop)).mergeSort Reading.notAfter) := by
  have order : ∀ a b : Nat × Position,
      decide (a.2.time ≤ b.2.time) = (a.2.toReading a.1).notAfter (b.2.toReading b.1) :=
    fun a b => rfl
  have range : ∀ row : Nat × Position, decide (row.2.device = device ∧ start ≤ row.2.time ∧
      row.2.time ≤ stop) = inside device start stop (row.2.toReading row.1) := by
    intro row
    simp [inside, Position.toReading]
  simp only [history, rowsOf, positions, fit, bind, Except.bind, pure, Except.pure]
  rw [recalled, List.filter_map, ← List.map_mergeSort fun a _ b _ => order a b]
  simp only [range, Function.comp_def]

end Ledger

end FuelTelemetry

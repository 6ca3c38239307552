import FuelTelemetry.Proofs.Window.Sound

/-!
The latest of all readings. Whatever a window dropped on the way, after insertions alone it holds
the last readings of the stable sort by time of all that it was given.
-/

namespace FuelTelemetry

open Time (Instant)

/-- The readings that are latest in time, in time order; of equal times the last ones are later. -/
def latest (capacity : Nat) (rs : List Reading) : List Reading :=
  (rs.mergeSort Reading.notAfter).rtake capacity

theorem latest_map {α : Type} (capacity : Nat) (f : α → Reading) (items : List α) :
    latest capacity (items.map f) =
      ((items.mergeSort fun x y => (f x).notAfter (f y)).rtake capacity).map f := by
  have sorted : (items.map f).mergeSort Reading.notAfter =
      (items.mergeSort fun x y => (f x).notAfter (f y)).map f := by
    refine (List.map_mergeSort ?_).symm
    intro x _ y _
    rfl
  rw [latest, sorted, map_rtake]

namespace Window

variable {capacity : Nat} {w : Window} {given : List Reading}

/-- A window with the latest of the readings it was given, whatever was dropped on the way. -/
def Holds (capacity : Nat) (w : Window) (given : List Reading) : Prop :=
  ∃ all : List Entry, all.map (·.reading) = given ∧ (∀ e ∈ all, e.reading.time = some e.time) ∧
    w.entries = (all.mergeSort Entry.notAfter).rtake capacity

theorem holds_empty (capacity : Nat) : empty.Holds capacity [] :=
  ⟨[], rfl, by simp, by simp [entries, empty]⟩

theorem Holds.receive (h : w.Holds capacity given) {t : Instant} {r : Reading}
    (ht : r.time = some t) : (w.receive capacity t r).Holds capacity (given ++ [r]) := by
  obtain ⟨all, read, timed, entries⟩ := h
  refine ⟨all ++ [⟨w.arrivals, t, r⟩], by simp [read], fun e he => ?_, ?_⟩
  · rcases List.mem_append.1 he with he | he
    · exact timed e he
    · rw [List.mem_singleton.1 he]
      exact ht
  · change (Entry.insert _ w.entries).rtake capacity = _
    rw [entries, Entry.mergeSort_concat,
      Entry.rtake_insert_rtake capacity _ (Entry.inOrder_mergeSort all)]

theorem Holds.readings_of_dated (h : w.Holds capacity given)
    (dated : w.contents = .dated w.entries) : w.readings = latest capacity given := by
  obtain ⟨all, rfl, timed, entries⟩ := h
  have same : ∀ a ∈ all, ∀ b ∈ all, a.notAfter b = a.reading.notAfter b.reading := by
    intro a ha b hb
    simp only [Entry.notAfter, Reading.notAfter, timed a ha, timed b hb, Option.map_some,
      Option.getD_some, Instant.le_iff]
  rw [Window.readings_of_dated dated, entries, map_rtake, List.map_mergeSort same, latest]

theorem Holds.readings_eq (h : w.Holds capacity given) (sound : w.Sound capacity) :
    w.readings = latest capacity given :=
  h.readings_of_dated sound.contents

theorem Holds.size_eq (h : w.Holds capacity given) (sound : w.Sound capacity) :
    w.size = min capacity given.length := by
  rw [size, h.readings_eq sound, latest, length_rtake, List.length_mergeSort]

theorem Sound.holds_readings (h : w.Sound capacity) : w.Holds capacity w.readings := by
  have sorted : w.entries.Pairwise fun a b => a.notAfter b = true :=
    h.ordered.imp fun {a b} le => by simpa [Entry.notAfter] using le
  refine ⟨w.entries, h.readings_eq.symm, h.timed, ?_⟩
  rw [List.mergeSort_of_pairwise sorted, rtake_of_length_le h.bounded]

theorem Sound.readings_receive (h : w.Sound capacity) {t : Instant} {r : Reading}
    (ht : r.time = some t) :
    (w.receive capacity t r).readings = latest capacity (w.readings ++ [r]) :=
  (h.holds_readings.receive ht).readings_of_dated rfl

end Window

end FuelTelemetry

import FuelTelemetry.Proofs.Window.Chronology

/-!
Sound windows, which are all that processing leaves behind: dated entries in order, no more than the
capacity, each with its level and the time of its reading, and numbered below the next arrival.
Insertion keeps a window sound. Taking the latest arrival out again brings back the entries before
it, except for the one that it may have pushed out.
-/

namespace FuelTelemetry.Window

open Time (Instant)

def entries (w : Window) : List Entry :=
  match w.contents with
  | .dated entries => entries
  | .undated .. => []

structure Sound (capacity : Nat) (w : Window) : Prop where
  contents : w.contents = .dated w.entries
  ordered : Entry.InOrder w.entries
  timed : ∀ e ∈ w.entries, e.reading.time = some e.time
  levelled : ∀ e ∈ w.entries, e.reading.level.isSome
  numbered : ∀ e ∈ w.entries, e.arrival < w.arrivals
  bounded : w.entries.length ≤ capacity

variable {capacity : Nat} {w : Window}

theorem sound_empty (capacity : Nat) : empty.Sound capacity where
  contents := rfl
  ordered := List.Pairwise.nil
  timed := by simp [entries, empty]
  levelled := by simp [entries, empty]
  numbered := by simp [entries, empty]
  bounded := Nat.zero_le _

theorem readings_of_dated (h : w.contents = .dated w.entries) :
    w.readings = w.entries.map (·.reading) := by
  rw [readings, h, Contents.readings]

theorem Sound.readings_eq (h : w.Sound capacity) : w.readings = w.entries.map (·.reading) :=
  readings_of_dated h.contents

theorem Sound.size_eq (h : w.Sound capacity) : w.size = w.entries.length := by
  rw [size, h.readings_eq, List.length_map]

theorem Sound.levelled_reading (h : w.Sound capacity) {r : Reading} (hr : r ∈ w.readings) :
    r.level.isSome := by
  rw [h.readings_eq] at hr
  obtain ⟨e, he, rfl⟩ := List.mem_map.1 hr
  exact h.levelled e he

theorem Sound.sublist (h : w.Sound capacity) {rest : List Entry} (sub : rest.Sublist w.entries)
    {arrivals : Nat} (le : w.arrivals ≤ arrivals) :
    Sound capacity ⟨arrivals, .dated rest⟩ where
  contents := rfl
  ordered := h.ordered.sublist sub
  timed e he := h.timed e (sub.subset he)
  levelled e he := h.levelled e (sub.subset he)
  numbered e he := Nat.lt_of_lt_of_le (h.numbered e (sub.subset he)) le
  bounded := Nat.le_trans sub.length_le h.bounded

def receive (capacity : Nat) (w : Window) (t : Instant) (r : Reading) : Window :=
  ⟨w.arrivals + 1, .dated ((Entry.insert ⟨w.arrivals, t, r⟩ w.entries).rtake capacity)⟩

theorem trim_eq {es : List Entry} (h : es.length ≤ capacity + 1) :
    trim capacity es = (es.rtake capacity, (es.rdrop capacity).head?.map (·.reading)) := by
  cases es with
  | nil => simp [trim]
  | cons first rest =>
    simp only [List.length_cons] at h
    simp only [trim, List.length_cons]
    split
    · have one : rest.length + 1 - capacity = 1 := by omega
      rw [rtake_cons first (by omega), rtake_of_length_le (by omega)]
      simp [List.rdrop, one]
    · have none_over : rest.length + 1 - capacity = 0 := by omega
      rw [rtake_of_length_le (by simp only [List.length_cons]; omega)]
      simp [List.rdrop, none_over]

def displaced (capacity : Nat) (w : Window) (t : Instant) (r : Reading) : List Entry :=
  (Entry.insert ⟨w.arrivals, t, r⟩ w.entries).rdrop capacity

theorem insert_eq_receive (dated : w.contents = .dated w.entries)
    (bounded : w.entries.length ≤ capacity) {t : Instant} {r : Reading} (ht : r.time = some t) :
    w.insert capacity r = .ok ⟨w.receive capacity t r, w.arrivals,
      (w.displaced capacity t r).head?.map (·.reading)⟩ := by
  have almost : (Entry.insert ⟨w.arrivals, t, r⟩ w.entries).length ≤ capacity + 1 := by
    rw [Entry.length_insert]
    exact Nat.succ_le_succ bounded
  rw [insert, dated, ht, receive, displaced]
  simp only [trim_eq almost]

theorem Sound.insert_eq (h : w.Sound capacity) {t : Instant} {r : Reading} (ht : r.time = some t) :
    ∃ evicted, w.insert capacity r = .ok ⟨w.receive capacity t r, w.arrivals, evicted⟩ :=
  ⟨_, insert_eq_receive h.contents h.bounded ht⟩

theorem Sound.receive (h : w.Sound capacity) {t : Instant} {r : Reading} (ht : r.time = some t)
    (hl : r.level.isSome) : (w.receive capacity t r).Sound capacity := by
  have member : ∀ e ∈ (Entry.insert ⟨w.arrivals, t, r⟩ w.entries).rtake capacity,
      e = ⟨w.arrivals, t, r⟩ ∨ e ∈ w.entries :=
    fun e he => Entry.mem_insert.1 ((List.drop_sublist _ _).subset he)
  exact {
    contents := rfl
    ordered := (Entry.inOrder_insert _ h.ordered).sublist (List.drop_sublist _ _)
    timed := fun e he => by
      rcases member e he with rfl | he
      · exact ht
      · exact h.timed e he
    levelled := fun e he => by
      rcases member e he with rfl | he
      · exact hl
      · exact h.levelled e he
    numbered := fun e he => by
      rcases member e he with rfl | he
      · exact Nat.lt_succ_self _
      · exact Nat.lt_succ_of_lt (h.numbered e he)
    bounded := by
      change ((Entry.insert _ _).rtake capacity).length ≤ capacity
      rw [length_rtake]
      exact Nat.min_le_left _ _ }

theorem Sound.size_receive (h : w.Sound capacity) (t : Instant) (r : Reading) :
    (w.receive capacity t r).size = min capacity (w.size + 1) := by
  rw [h.size_eq, size, readings, Window.receive, Contents.readings, List.length_map, length_rtake,
    Entry.length_insert]

/-- An arrival at the time pushes out an earlier entry, since the window is full and its first entry
is not the later one. -/
def Crowded (capacity : Nat) (w : Window) (t : Instant) : Prop :=
  w.size = capacity ∧ ∃ first ∈ w.entries.head?, first.time ≤ t

theorem filter_insert {arrivals : Nat} {es : List Entry} (h : ∀ e ∈ es, e.arrival < arrivals)
    (t : Instant) (r : Reading) :
    (Entry.insert ⟨arrivals, t, r⟩ es).filter (fun e => some e.arrival ≠ some arrivals) = es := by
  induction es with
  | nil => simp [Entry.insert]
  | cons first rest ih =>
    have hf : first.arrival ≠ arrivals := Nat.ne_of_lt (h first List.mem_cons_self)
    have hr : ∀ e ∈ rest, e.arrival < arrivals := fun e he => h e (List.mem_cons_of_mem _ he)
    simp only [Entry.insert]
    split
    · simpa [hf] using ih hr
    · have others : ∀ e ∈ rest, e.arrival ≠ arrivals := fun e he => Nat.ne_of_lt (hr e he)
      simpa [hf, List.filter_eq_self] using others

theorem Sound.remove_receive (h : w.Sound capacity) (pos : 0 < capacity) (t : Instant)
    (r : Reading) : ∃ rest found,
      (w.receive capacity t r).remove (some w.arrivals) (some t) =
        .ok (⟨w.arrivals + 1, .dated rest⟩, found) ∧
      (w.Crowded capacity t → rest = w.entries.tail) ∧
      (¬ w.Crowded capacity t → rest = w.entries) := by
  refine ⟨_, _, rfl, ?_⟩
  have size := h.size_eq
  have others := h.numbered
  by_cases room : w.entries.length < capacity
  · have roomy : ¬ w.Crowded capacity t := fun crowded => by
      have := crowded.1
      omega
    refine ⟨fun crowded => absurd crowded roomy, fun _ => ?_⟩
    rw [rtake_of_length_le (by rw [Entry.length_insert]; omega)]
    exact filter_insert others t r
  · have full : w.entries.length = capacity := Nat.le_antisymm h.bounded (by omega)
    unfold Crowded
    cases hw : w.entries with
    | nil => simp [hw] at full; omega
    | cons first rest =>
      rw [hw] at full others size
      simp only [List.length_cons] at full size
      simp only [size, full, true_and, List.head?_cons, Option.mem_some_iff, exists_eq_left',
        List.tail_cons, Entry.insert]
      by_cases late : first.time ≤ t
      · refine ⟨fun _ => ?_, fun early => absurd late early⟩
        rw [if_pos late, rtake_cons first (by rw [Entry.length_insert]; omega),
          rtake_of_length_le (by rw [Entry.length_insert]; omega)]
        exact filter_insert (fun e he => others e (List.mem_cons_of_mem _ he)) t r
      · refine ⟨fun now => absurd now late, fun _ => ?_⟩
        rw [if_neg late, rtake_cons _ (by simp only [List.length_cons]; omega),
          rtake_of_length_le (by simp only [List.length_cons]; omega)]
        refine List.filter_eq_self.2 fun e he => ?_
        simpa using Nat.ne_of_lt (others e he)

end FuelTelemetry.Window

namespace FuelTelemetry

def Reading.ofTank (minutes : Nat) (analog : Option Int) (level : Option Float) : Reading where
  device := 1
  time := Time.Instant.ofMicros? (minutes * Time.minute)
  latitude := none
  longitude := none
  sensor := some 7
  payload := none
  analog
  event := 0
  level
  id := none

end FuelTelemetry

import FuelTelemetry.Proofs.Ledger.Listing

/-!
Readings stored and read back. Readings that have a time, integers of 64 bits and numbers that are
numbers are stored one behind the other, in however many statements. Of those of a device between two
times the history gives each one once, by its time and then by its place in the store, and as it was
but for its id.
-/

namespace FuelTelemetry

open Time (Instant Stamp)
open Ledger (InRange Position)

/-- A reading that is stored as it is. -/
structure Reading.Storable (r : Reading) : Prop where
  dated : r.time.isSome
  device : InRange r.device
  sensor : ∀ n ∈ r.sensor, InRange n
  analog : ∀ n ∈ r.analog, InRange n
  event : InRange r.event
  numeric : r.Numeric

/-- A reading that has an id and all else that another reading has; zeros of either sign are one
number. -/
structure Reading.Recalls (back r : Reading) (id : Nat) : Prop where
  id : back.id = some (id : Int)
  device : back.device = r.device
  time : back.time = r.time
  latitude : (r.latitude == back.latitude) = true
  longitude : (r.longitude == back.longitude) = true
  sensor : back.sensor = r.sensor
  payload : back.payload = r.payload
  analog : back.analog = r.analog
  event : back.event = r.event
  level : (r.level == back.level) = true

theorem Reading.Storable.fits {r : Reading} (h : r.Storable) : Position.fits r = .ok () := by
  refine Ledger.allFit_iff.2 ?_
  simp only [List.forall_mem_cons, Option.mem_some_iff, forall_eq', List.not_mem_nil,
    false_implies, implies_true, and_true]
  exact ⟨h.device, h.sensor, h.analog, h.event⟩

theorem Reading.Storable.ofReading {r : Reading} (h : r.Storable) :
    ∃ p, Position.ofReading r = .ok p := by
  obtain ⟨t, time⟩ := Option.isSome_iff_exists.1 h.dated
  unfold Position.ofReading
  rw [time]
  exact ⟨_, rfl⟩

theorem Reading.Storable.recalls {r : Reading} (h : r.Storable) (id : Nat) :
    (r.stored id).Recalls r id where
  id := rfl
  device := rfl
  time := rfl
  latitude := Ledger.beq_storedFloat h.numeric.latitude
  longitude := Ledger.beq_storedFloat h.numeric.longitude
  sensor := rfl
  payload := rfl
  analog := rfl
  event := rfl
  level := Ledger.beq_storedFloat h.numeric.level

namespace Ledger

variable {l : Ledger} {rows : List Position} {rs earlier : List Reading}

theorem storeReadings_storable (positions : l.positions = some rows)
    (storable : ∀ r ∈ rs, r.Storable) : ∃ l', l.storeReadings rs = .ok l' := by
  induction rs generalizing l rows with
  | nil => exact ⟨_, rfl⟩
  | cons r rs ih =>
    rw [List.forall_mem_cons] at storable
    obtain ⟨p, placed⟩ := storable.1.ofReading
    have first : l.storeReadings [r] = .ok (l.withPositions (some (rows ++ [p]))) := by
      simp [storeReadings, positions, insert_some, storable.1.fits, placed, bind, Except.bind, pure,
        Except.pure, withPositions]
    obtain ⟨l', others⟩ := ih (l := l.withPositions (some (rows ++ [p]))) rfl storable.2
    exact ⟨l', storeReadings_cons_ok_iff.2 ⟨_, first, others⟩⟩

theorem storeAll_storable {batches : List (List Reading)} (positions : l.positions = some rows)
    (records : Records earlier rows) (storable : ∀ r ∈ batches.flatten, r.Storable) :
    ∃ l' rows', batches.foldlM storeReadings l = .ok l' ∧ l'.positions = some rows' ∧
      Records (earlier ++ batches.flatten) rows' := by
  induction batches generalizing l rows earlier with
  | nil => exact ⟨l, rows, rfl, positions, by simpa using records⟩
  | cons rs batches ih =>
    rw [List.flatten_cons, List.forall_mem_append] at storable
    obtain ⟨middle, stored⟩ := storeReadings_storable positions storable.1
    obtain ⟨more, ledger, added⟩ := storeReadings_ok stored positions
    have behind : middle.positions = some (rows ++ more) := by rw [ledger]
    obtain ⟨l', rows', others, positions', all⟩ := ih behind (records.append added) storable.2
    rw [List.append_assoc, ← List.flatten_cons] at all
    refine ⟨l', rows', ?_, positions', all⟩
    rw [List.foldlM_cons, stored]
    exact others

def Earlier (x y : Nat × Reading) : Prop :=
  ∃ s t, x.2.time = some s ∧ y.2.time = some t ∧ (s < t ∨ s = t ∧ x.1 < y.1)

def between (device : Int) (start stop : Instant) (items : List (Nat × Reading)) :
    List (Nat × Reading) :=
  (items.filter fun x => inside device start stop x.2).mergeSort fun x y => x.2.notAfter y.2

theorem between_perm (device : Int) (start stop : Instant) (items : List (Nat × Reading)) :
    (between device start stop items).Perm
      (items.filter fun x => inside device start stop x.2) :=
  List.mergeSort_perm _ _

theorem between_pairwise {device : Int} {start stop : Instant} {items : List (Nat × Reading)}
    (dated : ∀ x ∈ items, x.2.time.isSome) (rising : items.Pairwise fun x y => x.1 < y.1) :
    (between device start stop items).Pairwise Earlier := by
  let notAfter (x y : Nat × Reading) : Bool := x.2.notAfter y.2
  have trans : ∀ x y z, notAfter x y = true → notAfter y z = true → notAfter x z = true :=
    fun x y z => Reading.notAfter_trans x.2 y.2 z.2
  have total : ∀ x y, (notAfter x y || notAfter y x) = true :=
    fun x y => Reading.notAfter_total x.2 y.2
  have stable := StableSort.pairwise_mergeSort trans total
    (rising.filter fun x => inside device start stop x.2)
  refine stable.imp_of_mem fun {x y} hx hy => ?_
  rintro ⟨after, tied⟩
  have listed {z : Nat × Reading} (hz : z ∈ between device start stop items) : z ∈ items :=
    (List.mem_filter.1 ((between_perm device start stop items).mem_iff.1 hz)).1
  obtain ⟨s, hs⟩ := Option.isSome_iff_exists.1 (dated x (listed hx))
  obtain ⟨t, ht⟩ := Option.isSome_iff_exists.1 (dated y (listed hy))
  simp only [notAfter, Reading.notAfter, hs, ht, Option.map_some, Option.getD_some,
    decide_eq_true_eq] at after tied
  refine ⟨s, t, hs, ht, ?_⟩
  rcases Nat.lt_or_eq_of_le after with later | same
  · exact .inl later
  · refine .inr ⟨?_, tied (Nat.le_of_eq same.symm)⟩
    cases s
    cases t
    simp_all

theorem history_between {all : List Reading} (positions : l.positions = some rows)
    (records : Records all rows) {device : Int} (known : InRange device) (start stop : Instant) :
    l.history device start stop =
      .ok ((between device start stop (numbered all)).map fun x => x.2.stored x.1) := by
  -- neither the filter nor the order looks at what storing changes
  have order : ∀ x y : Nat × Reading,
      x.2.notAfter y.2 = (x.2.stored x.1).notAfter (y.2.stored y.1) := fun _ _ => rfl
  have recalled : recalled rows = (numbered all).map fun x => x.2.stored x.1 := by
    rw [records.recalled_eq, numbered, List.map_map]
    rfl
  rw [history_eq positions (fits_iff.2 known), recalled, List.filter_map, between,
    ← List.map_mergeSort fun x _ y _ => order x y]
  rfl

/-- Of the readings that were stored the history gives those of a device between two times, each once,
by its time and then by its place in the store, and as it was but for its id. -/
theorem history_of_stored {batches : List (List Reading)}
    (storable : ∀ r ∈ batches.flatten, r.Storable) (fresh : l.positions = some []) {device : Int}
    (known : InRange device) (start stop : Stamp) :
    ∃ l' back listed, batches.foldlM storeReadings l = .ok l' ∧
      collaborators.history device start stop l' = (.ok back, l') ∧
      List.Forall₂ (fun r x => r.Recalls x.2 x.1) back listed ∧
      listed.Perm ((numbered batches.flatten).filter fun x =>
        inside device start.wall stop.wall x.2) ∧
      listed.Pairwise Earlier := by
  obtain ⟨l', rows, stored, positions, records⟩ := storeAll_storable fresh .nil storable
  have among : ∀ x ∈ numbered batches.flatten, x.2.Storable := by
    intro x hx
    obtain ⟨y, hy, rfl⟩ := List.mem_map.1 hx
    exact storable y.1 (List.fst_mem_of_mem_zipIdx hy)
  refine ⟨l', _, between device start.wall stop.wall (numbered batches.flatten), stored,
    Prod.ext (history_between positions records known start.wall stop.wall) rfl, ?_,
    between_perm _ _ _ _,
    between_pairwise (fun x hx => (among x hx).dated) (pairwise_numbered _)⟩
  refine List.forall₂_map_left_iff.2 (List.forall₂_same.2 fun x hx => ?_)
  have numbered_x := (List.mem_filter.1 ((between_perm _ _ _ _).mem_iff.1 hx)).1
  exact (among x numbered_x).recalls x.1

def twoStatements : List (List Reading) :=
  [[.ofTank 2 (some 0) (some (-0.0)), .ofTank 1 none none],
    [.ofTank 2 (some 7) (some 20.0), { Reading.ofTank 2 none none with device := 2 },
      .ofTank 3 none (some 1.5)]]

def firstMinute : Stamp := ⟨⟨Time.minute, by decide⟩, none⟩

def secondMinute : Stamp := ⟨⟨2 * Time.minute, by decide⟩, none⟩

theorem history_of_stored_twoStatements :
    (∀ r ∈ twoStatements.flatten, r.Storable) ∧ empty.positions = some [] ∧ InRange 1 ∧
      ((numbered twoStatements.flatten).filter fun x =>
        inside 1 firstMinute.wall secondMinute.wall x.2).map Prod.fst = [1, 2, 3] ∧
      ∃ l' back listed, twoStatements.foldlM storeReadings empty = .ok l' ∧
        collaborators.history 1 firstMinute secondMinute l' = (.ok back, l') ∧
        List.Forall₂ (fun r x => r.Recalls x.2 x.1) back listed ∧
        listed.Perm ((numbered twoStatements.flatten).filter fun x =>
          inside 1 firstMinute.wall secondMinute.wall x.2) ∧
        listed.Pairwise Earlier := by
  have parts : ∀ r ∈ twoStatements.flatten, r.time.isSome ∧ InRange r.device ∧
      (∀ n ∈ r.sensor, InRange n) ∧ (∀ n ∈ r.analog, InRange n) ∧ InRange r.event ∧
      (∀ x ∈ r.latitude, (x == x) = true) ∧ (∀ x ∈ r.longitude, (x == x) = true) ∧
      ∀ x ∈ r.level, (x == x) = true := by
    decide +kernel
  have storable : ∀ r ∈ twoStatements.flatten, r.Storable := by
    intro r hr
    obtain ⟨dated, device, sensor, analog, event, latitude, longitude, level⟩ := parts r hr
    exact ⟨dated, device, sensor, analog, event, ⟨latitude, longitude, level⟩⟩
  have known : InRange 1 := by decide
  exact ⟨storable, rfl, known, by decide +kernel,
    history_of_stored storable rfl known firstMinute secondMinute⟩

end Ledger

end FuelTelemetry

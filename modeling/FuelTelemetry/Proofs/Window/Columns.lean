import FuelTelemetry.Proofs.Order.Bisecting
import FuelTelemetry.Proofs.Window.Objects
import FuelTelemetry.Window.Columns
import Mathlib.Data.List.InsertIdx

/-!
Windows and their columns. Where the times are in order, searches in the columns find the ends of
front parts, and what is edited there is what a walk along the readings edits.
-/

namespace FuelTelemetry

open Time (Instant Stamp)

theorem decide_length_eraseP_lt {α : Type} (p : α → Bool) (l : List α) :
    decide ((l.eraseP p).length < l.length) = l.any p := by
  rw [List.length_eraseP]
  cases found : l.any p with
  | false => simp
  | true =>
    obtain ⟨a, listed, -⟩ := List.any_eq_true.1 found
    have := List.length_pos_of_mem listed
    simp only [if_true, decide_eq_true_eq]
    omega

namespace Columns

variable {α : Type}

section Along

variable {β : Type} (time : β → Instant) (item : β → α)

def along (xs : List β) : Columns α := ⟨xs.map fun x => some (time x), xs.map item⟩

def cut (capacity : Nat) (xs : List β) : List β × Option β :=
  if capacity < xs.length then (xs.tail, xs.head?) else (xs, none)

theorem cut_fst {capacity : Nat} {xs : List β} (fits : xs.length ≤ capacity + 1) :
    (cut capacity xs).1 = xs.rtake capacity := by
  unfold cut
  split
  · rw [List.rtake, show xs.length - capacity = 1 by omega, List.drop_one]
  · rename_i fits
    exact (rtake_of_length_le (Nat.le_of_not_lt fits)).symm

variable {time} {item} {xs : List β} {t : Instant}

theorem bisect_times {rel : Instant → Instant → Bool}
    (front : xs.Pairwise fun x y => rel (time y) t = true → rel (time x) t = true) :
    bisect (compared rel · (some t)) (along time item xs).times =
      .ok (xs.takeWhile fun x => rel (time x) t).length := by
  let p : Option Instant → Bool := fun a => a.any (rel · t)
  have answers : ∀ a ∈ (along time item xs).times, compared rel a (some t) = pure (p a) := by
    intro a ha
    obtain ⟨x, -, rfl⟩ := List.mem_map.1 ha
    rfl
  rw [bisect_eq answers (List.pairwise_map.2 front), along, List.takeWhile_map, List.length_map]
  rfl

variable (ordered : xs.Pairwise fun x y => time x ≤ time y)

include ordered

theorem before_front (t : Instant) :
    xs.Pairwise fun x y => decide (time y < t) = true → decide (time x < t) = true := by
  refine ordered.imp fun {x y} le => ?_
  simp only [decide_eq_true_eq, Instant.le_iff, Instant.lt_iff] at le ⊢
  omega

theorem rightOf_along :
    (along time item xs).rightOf (some t) = .ok (xs.takeWhile fun x => time x ≤ t).length :=
  bisect_times (upTo_front ordered t)

theorem leftOf_along :
    (along time item xs).leftOf (some t) = .ok (xs.takeWhile fun x => time x < t).length :=
  bisect_times (before_front ordered t)

theorem upsert_along (capacity : Nat) (x : β) :
    let done := cut capacity (xs.insertIdx (xs.takeWhile fun y => time y ≤ time x).length x)
    (along time item xs).upsert capacity (some (time x)) (item x) =
      .ok (along time item done.1, done.2.map item) := by
  let ys := xs.insertIdx (xs.takeWhile fun y => time y ≤ time x).length x
  have times : (along time item xs).times.insertIdx
      (xs.takeWhile fun y => time y ≤ time x).length (some (time x)) =
        (along time item ys).times := (List.map_insertIdx (fun y => some (time y)) ..).symm
  have items : (along time item xs).items.insertIdx
      (xs.takeWhile fun y => time y ≤ time x).length (item x) = (along time item ys).items :=
    (List.map_insertIdx item ..).symm
  have length : (along time item ys).items.length = ys.length := List.length_map ..
  unfold upsert cut
  rw [rightOf_along ordered]
  simp only [bind, Except.bind, pure, Except.pure, times, items, length]
  split
  · simp [along, List.map_tail, ys]
  · rfl

/-- Sought among those at its time alone, an item is found at its first place. -/
theorem find?_range' {same : α → Bool} (timed : ∀ x ∈ xs, same (item x) = true → time x = t) :
    let first := (xs.takeWhile fun x => time x < t).length
    let last := (xs.takeWhile fun x => time x ≤ t).length
    ((List.range' first (last - first)).find? fun i => (xs.map item)[i]?.any same) =
      xs.findIdx? fun x => same (item x) := by
  intro first last
  cases found : xs.findIdx? fun x => same (item x) with
  | none =>
    rw [List.findIdx?_eq_none_iff] at found
    rw [List.find?_range'_eq_none]
    intro i _ _
    rw [List.getElem?_map, Option.any_map]
    cases there : xs[i]? with
    | none => rfl
    | some x => simpa using found x (List.mem_of_getElem? there)
  | some i =>
    -- what is the item has its time, so its first place lies between the two ends
    obtain ⟨inside, is, before⟩ := List.findIdx?_eq_some_iff_getElem.1 found
    have at_time : time xs[i] = t := timed _ (List.getElem_mem inside) is
    have reached : i < last :=
      (getElem_iff_lt_takeWhile (upTo_front ordered t) inside).1 (by simp [at_time, Instant.le_iff])
    have passed : first ≤ i := Nat.le_of_not_lt fun lt => by
      have early := (getElem_iff_lt_takeWhile (before_front ordered t) inside).2 lt
      simp [at_time, Instant.lt_iff] at early
    rw [List.find?_range'_eq_some]
    refine ⟨by simpa [inside] using is, List.mem_range'_1.2 (by omega), fun j _ earlier => ?_⟩
    simpa [earlier.trans inside] using before j earlier

theorem remove_along {same : α → Bool} (timed : ∀ x ∈ xs, same (item x) = true → time x = t) :
    (along time item xs).remove (some t) same =
      .ok (along time item (xs.eraseP fun x => same (item x)), xs.any fun x => same (item x)) := by
  have sought := find?_range' ordered timed
  unfold remove
  rw [leftOf_along ordered, rightOf_along ordered]
  simp only [bind, Except.bind, pure, Except.pure, along] at sought ⊢
  rw [sought, List.eraseP_eq_eraseIdx, ← List.findIdx?_isSome]
  cases xs.findIdx? fun x => same (item x) with
  | none => rfl
  | some i => simp [List.eraseIdx_map]

theorem query_along (after upTo : Instant) :
    (along time item xs).query (some after) (some upTo) =
      .ok (((xs.takeWhile fun x => time x ≤ upTo).dropWhile fun x => time x ≤ after).map item) := by
  unfold query
  rw [rightOf_along ordered, rightOf_along ordered]
  simp only [bind, Except.bind, pure, Except.pure, along]
  rw [← List.map_take, ← List.map_drop, take_length_takeWhile, drop_length_takeWhile]

theorem last_along (count : Int) (bound : Instant) :
    (along time item xs).last count (some (some bound)) =
      .ok (if count ≤ 0 then [] else
        ((xs.takeWhile fun x => time x ≤ bound).rtake count.toNat).map item) := by
  unfold last
  split
  · rfl
  · rw [stop, rightOf_along ordered]
    simp only [Functor.map, Except.map, along]
    rw [← List.map_take, ← List.map_drop, take_length_takeWhile]
    rfl

end Along

/-- A time that is missing, or that is sought among missing ones, compares with none. -/
theorem bisect_undated {rel : Instant → Instant → Bool} {times : List (Option Instant)}
    {t : Option Instant} (undated : t = none ∨ ∀ a ∈ times, a = none) (some_time : times ≠ []) :
    bisect (compared rel · t) times = .error .undated := by
  refine bisect_error (fun a ha => ?_) some_time
  rcases undated with rfl | none
  · cases a <;> rfl
  · rw [none a ha]
    rfl

theorem rightOf_undated {c : Columns α} {t : Option Instant}
    (undated : t = none ∨ ∀ a ∈ c.times, a = none) (some_time : c.times ≠ []) :
    c.rightOf t = .error .undated :=
  bisect_undated undated some_time

theorem leftOf_undated {c : Columns α} {t : Option Instant}
    (undated : t = none ∨ ∀ a ∈ c.times, a = none) (some_time : c.times ≠ []) :
    c.leftOf t = .error .undated :=
  bisect_undated undated some_time

theorem upsert_undated {c : Columns α} {t : Option Instant}
    (undated : t = none ∨ ∀ a ∈ c.times, a = none) (some_time : c.times ≠ []) (capacity : Nat)
    (x : α) : c.upsert capacity t x = .error .undated := by
  rw [upsert, rightOf_undated undated some_time]
  rfl

theorem remove_undated {c : Columns α} {t : Option Instant}
    (undated : t = none ∨ ∀ a ∈ c.times, a = none) (some_time : c.times ≠ [])
    (same : α → Bool) : c.remove t same = .error .undated := by
  rw [remove, leftOf_undated undated some_time]
  rfl

theorem leftOf_empty (t : Option Instant) : (empty : Columns α).leftOf t = .ok 0 :=
  bisect_nil _

theorem rightOf_empty (t : Option Instant) : (empty : Columns α).rightOf t = .ok 0 :=
  bisect_nil _

end Columns

namespace Entry

theorem insert_eq_insertIdx (e : Entry) (es : List Entry) :
    e.insert es = es.insertIdx (es.takeWhile fun x => x.time ≤ e.time).length e := by
  induction es with
  | nil => rfl
  | cons first rest ih =>
    by_cases early : first.time ≤ e.time
    · rw [insert, if_pos early, List.takeWhile_cons_of_pos (by simpa using early), ih]
      rfl
    · rw [insert, if_neg early, List.takeWhile_cons_of_neg (by simpa using early)]
      rfl

theorem filter_eq_eraseP {es : List Entry} (distinct : es.Pairwise fun a b => a.arrival ≠ b.arrival)
    (arrival : Option Nat) :
    es.filter (fun e => some e.arrival ≠ arrival) = es.eraseP fun e => some e.arrival == arrival := by
  induction es with
  | nil => rfl
  | cons e rest ih =>
    obtain ⟨others, distinct⟩ := List.pairwise_cons.1 distinct
    by_cases own : some e.arrival = arrival
    · rw [List.filter_cons_of_neg (by simpa using own), List.eraseP_cons_of_pos (by simpa using own)]
      refine List.filter_eq_self.2 fun x hx => ?_
      rw [← own]
      simpa using (others x hx).symm
    · rw [List.filter_cons_of_pos (by simpa using own), List.eraseP_cons_of_neg (by simpa using own),
        ih distinct]

end Entry

namespace Window

variable {w : Window} {capacity : Nat}

/-- The columns of a window, where a reading is told from others by the number of its arrival. -/
def columns (w : Window) : Columns (Nat × Reading) :=
  match w.contents with
  | .dated entries => .along (·.time) (fun e => (e.arrival, e.reading)) entries
  | .undated arrival reading => ⟨[none], [(arrival, reading)]⟩

theorem columns_dated (arrivals : Nat) (entries : List Entry) :
    columns ⟨arrivals, .dated entries⟩ =
      .along (·.time) (fun e => (e.arrival, e.reading)) entries := rfl

theorem trim_eq_cut (capacity : Nat) (es : List Entry) :
    trim capacity es =
      ((Columns.cut capacity es).1, (Columns.cut capacity es).2.map (·.reading)) := by
  unfold trim Columns.cut
  cases es with
  | nil => rfl
  | cons first rest =>
    by_cases full : capacity < (first :: rest).length
    · simp only [if_pos full]
      rfl
    · simp only [if_neg full]
      rfl

theorem insert_columns (ordered : Entry.InOrder w.entries) (pos : 0 < capacity) (r : Reading) :
    (fun done => (done.window.columns, done.evicted)) <$> w.insert capacity r =
      (fun done => (done.1, done.2.map (·.2))) <$>
        w.columns.upsert capacity r.time (w.arrivals, r) := by
  rcases w with ⟨arrivals, entries | ⟨number, single⟩⟩
  · cases ht : r.time with
    | some t =>
      have placed : (columns ⟨arrivals, .dated entries⟩).upsert capacity (some t) (arrivals, r) = _ :=
        Columns.upsert_along ordered capacity ⟨arrivals, t, r⟩
      rw [placed, insert]
      simp only [ht, trim_eq_cut, Entry.insert_eq_insertIdx, Functor.map, Except.map, Option.map_map]
      rfl
    | none =>
      cases entries with
      | nil =>
        -- nothing is compared in an empty window, so that even this reading goes in
        have placed : (Columns.empty : Columns (Nat × Reading)).upsert capacity none (arrivals, r) =
            .ok (⟨[none], [(arrivals, r)]⟩, none) := by
          rw [Columns.upsert, Columns.rightOf_empty]
          exact if_neg (Nat.not_lt.2 pos)
        change _ = _ <$> (Columns.empty : Columns (Nat × Reading)).upsert capacity none (arrivals, r)
        rw [placed, insert]
        simp only [ht]
        rfl
      | cons first rest =>
        rw [Columns.upsert_undated (.inl rfl) (List.cons_ne_nil _ _)]
        simp only [insert, ht]
        rfl
  · rw [Columns.upsert_undated (.inr (by simp [columns])) (List.cons_ne_nil _ _)]
    simp only [insert]
    rfl

theorem remove_columns (ordered : Entry.InOrder w.entries)
    (distinct : w.entries.Pairwise fun a b => a.arrival ≠ b.arrival) {arrival : Option Nat}
    {time : Option Instant}
    (timed : ∀ e ∈ w.entries, some e.arrival = arrival → some e.time = time) :
    (fun done => (done.1.columns, done.2)) <$> w.remove arrival time =
      w.columns.remove time fun x => some x.1 == arrival := by
  rcases w with ⟨arrivals, entries | ⟨number, single⟩⟩
  · change entries.Pairwise _ at distinct
    cases time with
    | some t =>
      have sought : (columns ⟨arrivals, .dated entries⟩).remove (some t)
          (fun x => some x.1 == arrival) = _ :=
        Columns.remove_along ordered fun e he own =>
          Option.some.inj (timed e he (by simpa using own))
      have kept : entries.filter (fun e => some e.arrival ≠ arrival) = _ :=
        Entry.filter_eq_eraseP distinct arrival
      rw [sought]
      simp only [Window.remove, kept, decide_length_eraseP_lt]
      rfl
    | none =>
      cases entries with
      | nil =>
        have sought : (Columns.empty : Columns (Nat × Reading)).remove none
            (fun x => some x.1 == arrival) = .ok (.empty, false) := by
          rw [Columns.remove, Columns.leftOf_empty, Columns.rightOf_empty]
          rfl
        exact sought.symm
      | cons first rest =>
        rw [Columns.remove_undated (.inl rfl) (List.cons_ne_nil _ _)]
        rfl
  · rw [Columns.remove_undated (.inr (by simp [columns])) (List.cons_ne_nil _ _)]
    rfl

theorem query_columns (ordered : Entry.InOrder w.entries) (after upTo : Option Instant) :
    w.query after upTo = List.map (·.2) <$> w.columns.query after upTo := by
  rcases w with ⟨arrivals, entries | ⟨number, single⟩⟩
  · cases entries with
    | nil =>
      change _ = _ <$> (Columns.empty : Columns (Nat × Reading)).query after upTo
      rw [Columns.query, Columns.rightOf_empty, Columns.rightOf_empty]
      cases after <;> cases upTo <;> rfl
    | cons first rest =>
      cases after with
      | none =>
        rw [Columns.query, Columns.rightOf_undated (.inl rfl) (List.cons_ne_nil _ _)]
        cases upTo <;> rfl
      | some after =>
        cases upTo with
        | none =>
          have reached : (columns ⟨arrivals, .dated (first :: rest)⟩).rightOf (some after) = _ :=
            Columns.rightOf_along ordered
          rw [Columns.query, reached, Columns.rightOf_undated (.inl rfl) (List.cons_ne_nil _ _)]
          rfl
        | some upTo =>
          have sought : (columns ⟨arrivals, .dated (first :: rest)⟩).query (some after) (some upTo) =
            _ := Columns.query_along ordered after upTo
          rw [sought]
          simp only [Functor.map, Except.map, List.map_map]
          rfl
  · rw [Columns.query, Columns.rightOf_undated (.inr (by simp [columns])) (List.cons_ne_nil _ _)]
    cases after <;> cases upTo <;> rfl

theorem readings_columns (w : Window) : w.readings = w.columns.items.map (·.2) := by
  rcases w with ⟨arrivals, entries | ⟨number, single⟩⟩
  · rw [columns_dated, Columns.along, List.map_map]
    rfl
  · rfl

theorem lastOf_take {items : List (Nat × Reading)} {stop : Nat} (inside : stop ≤ items.length)
    (count : Nat) :
    lastOf count ((items.take stop).map (·.2)) =
      ((items.take stop).drop (stop - count)).map (·.2) := by
  rw [lastOf, List.length_map, List.length_take_of_le inside, List.map_drop]

theorem upTo_columns (ordered : Entry.InOrder w.entries) (count : Nat) (bound : Option Instant) :
    lastOf count <$> w.upTo bound =
      (fun stop => ((w.columns.items.take stop).drop (stop - count)).map (·.2)) <$>
        w.columns.rightOf bound := by
  rcases w with ⟨arrivals, entries | ⟨number, single⟩⟩
  · cases bound with
    | some bound =>
      have reached : (columns ⟨arrivals, .dated entries⟩).rightOf (some bound) = _ :=
        Columns.rightOf_along ordered
      let stop := (entries.takeWhile fun e => e.time ≤ bound).length
      have inside : stop ≤ (columns ⟨arrivals, .dated entries⟩).items.length := by
        rw [show (columns ⟨arrivals, .dated entries⟩).items.length = entries.length from
          List.length_map ..]
        exact (List.takeWhile_sublist _).length_le
      have front : ((columns ⟨arrivals, .dated entries⟩).items.take stop).map (·.2) =
          (entries.takeWhile fun e => e.time ≤ bound).map (·.reading) := by
        rw [columns_dated, Columns.along, ← List.map_take, take_length_takeWhile, List.map_map]
        rfl
      have below : upTo ⟨arrivals, .dated entries⟩ (some bound) =
          .ok ((entries.takeWhile fun e => e.time ≤ bound).map (·.reading)) := rfl
      rw [reached, below, ← front]
      exact congrArg Except.ok (lastOf_take inside count)
    | none =>
      cases entries with
      | nil =>
        have reached : (columns ⟨arrivals, .dated []⟩).rightOf none = .ok 0 :=
          Columns.rightOf_empty none
        have below : upTo ⟨arrivals, .dated []⟩ none = .ok [] := rfl
        rw [reached, below]
        simp [lastOf]
      | cons first rest =>
        rw [Columns.rightOf_undated (.inl rfl) (List.cons_ne_nil _ _)]
        rfl
  · rw [Columns.rightOf_undated (.inr (by simp [columns])) (List.cons_ne_nil _ _)]
    rfl

end Window

theorem WindowStore.last_columns {s : WindowStore} {key : SensorKey}
    (ordered : Entry.InOrder (s.window key).entries) (count : Int) (bound : Option Stamp) :
    (s.last key count bound).2 =
      List.map (·.2) <$> (s.window key).columns.last count (bound.map Stamp.plain?) := by
  unfold last Columns.last
  split
  · rfl
  · cases bound with
    | none =>
      have whole := Window.lastOf_take (Nat.le_refl (s.window key).columns.items.length) count.toNat
      rw [List.take_length, ← Window.readings_columns] at whole
      simp only [Functor.map, Except.map, Option.map, Columns.stop, List.take_length, whole]
    | some bound =>
      have front := Window.upTo_columns ordered count.toNat bound.plain?
      change Window.lastOf count.toNat <$> (s.window key).upTo bound.plain? = _
      rw [Option.map, Columns.stop, front, Functor.map_map]

namespace ObjectStore

variable {α : Type} (reading : α → Reading)

def onColumns [DecidableEq α] (capacity : Nat) (held : SensorKey → Columns α) :
    Edit α → Except Fault (SensorKey → Columns α)
  | .upsert key x => (fun done => Function.update held key done.1) <$>
      (held key).upsert capacity (reading x).time x
  | .remove key x => (fun done => Function.update held key done.1) <$>
      (held key).remove (reading x).time (· == x)
  | .clear key => .ok (Function.update held key .empty)

structure Agrees [DecidableEq α] (s : ObjectStore α) (key : SensorKey) (c : Columns α) : Prop where
  readings : (s.store.window key).readings = c.items.map reading
  times : (s.store.window key).times.map some = c.times
  query : ∀ after upTo : Instant,
    (s.store.query key (some (.ofInstant after)) (some (.ofInstant upTo))).2 =
      List.map reading <$> c.query (some after) (some upTo)
  last : ∀ (count : Int) (bound : Option Instant),
    (s.store.last key count (bound.map .ofInstant)).2 =
      List.map reading <$> c.last count (bound.map some)
  remove : ∀ x, ∃ after rest found, s.remove key x = .ok (after, found) ∧
    c.remove (reading x).time (· == x) = .ok (rest, found) ∧
    (after.store.window key).readings = rest.items.map reading

variable {reading} (dated : ∀ x, (reading x).time.isSome) {s : ObjectStore α}
  {held : SensorKey → List α}

def instantOf (x : α) : Instant := (reading x).time.get (dated x)

theorem time_eq (x : α) : (reading x).time = some (instantOf dated x) := (Option.some_get _).symm

def columnsOf (xs : List α) : Columns α := .along (instantOf dated) id xs

theorem place_eq_insertIdx (x : α) (xs : List α) :
    place reading x xs =
      xs.insertIdx (xs.takeWhile fun y => instantOf dated y ≤ instantOf dated x).length x := by
  induction xs with
  | nil => rfl
  | cons y rest ih =>
    have order : (reading y).notAfter (reading x) = true ↔
        decide (instantOf dated y ≤ instantOf dated x) = true := by
      rw [Reading.notAfter, time_eq dated, time_eq dated]
      simp [Instant.le_iff]
    rw [place, List.takeWhile_cons]
    simp only [order]
    split
    · rw [ih]
      rfl
    · rfl

variable [DecidableEq α]

theorem remove_columnsOf {xs : List α}
    (ordered : xs.Pairwise fun x y => instantOf dated x ≤ instantOf dated y) (x : α) :
    (columnsOf dated xs).remove (reading x).time (· == x) =
      .ok (columnsOf dated (xs.erase x), decide (x ∈ xs)) := by
  have sought : (columnsOf dated xs).remove (some (instantOf dated x)) (· == x) = _ :=
    Columns.remove_along ordered fun y _ same => congrArg (instantOf dated) (eq_of_beq same : y = x)
  have there : (xs.any fun y => y == x) = decide (x ∈ xs) := by
    rw [List.any_beq', List.contains_eq_mem]
  rw [time_eq dated, sought, List.erase_eq_eraseP', ← there]
  rfl

omit [DecidableEq α] in
theorem last_columnsOf {xs : List α}
    (ordered : xs.Pairwise fun x y => instantOf dated x ≤ instantOf dated y) (count : Int)
    (bound : Option Instant) :
    List.map reading <$> (columnsOf dated xs).last count (bound.map some) =
      .ok (if count ≤ 0 then [] else
        ((xs.map reading).filter fun r => bound.all (r.isUpTo ·)).rtake count.toNat) := by
  cases bound with
  | none =>
    have items : (columnsOf dated xs).items = xs := List.map_id xs
    rw [Option.map_none, Columns.last, Columns.stop, items]
    split
    · rfl
    · refine congrArg Except.ok ?_
      simp [List.rtake, List.map_drop]
  | some bound =>
    have sought : (columnsOf dated xs).last count (some (some bound)) = _ :=
      Columns.last_along ordered count bound
    rw [Option.map_some, sought, takeWhile_eq_filter (upTo_front ordered bound)]
    split
    · rfl
    · refine congrArg Except.ok ?_
      rw [List.map_id, map_rtake, List.filter_map]
      refine congrArg (List.rtake · _) (congrArg _ (List.filter_congr fun x _ => ?_))
      simp [Reading.isUpTo, time_eq dated x]

theorem Holds.times_eq (h : s.Holds reading held) (key : SensorKey) :
    (s.store.window key).times = (held key).map (instantOf dated) := by
  have shown := (h.shows key).times
  refine (Option.some_injective Instant).list_map ?_
  rw [shown, List.map_map]
  exact List.map_congr_left fun x _ => time_eq dated x

theorem Holds.ordered (h : s.Holds reading held) (key : SensorKey) :
    (held key).Pairwise fun x y => instantOf dated x ≤ instantOf dated y := by
  have shown := (h.shows key).ordered
  rw [h.times_eq dated] at shown
  exact List.pairwise_map.1 shown

include dated in
theorem Holds.length_le (h : s.Holds reading held) (key : SensorKey) :
    (held key).length ≤ s.store.capacity := by
  have shown := (h.shows key).bounded
  rwa [h.times_eq dated, List.length_map] at shown

theorem Holds.onColumns (h : s.Holds reading held) (edit : Edit α) :
    onColumns reading s.store.capacity (fun key => columnsOf dated (held key)) edit =
      .ok fun key => columnsOf dated (edit.apply reading s.store.capacity held key) := by
  have exchanged (key : SensorKey) (xs : List α) :
      Function.update (fun key => columnsOf dated (held key)) key (columnsOf dated xs) =
        fun other => columnsOf dated (Function.update held key xs other) := by
    funext other
    by_cases same : other = key
    · subst same
      simp
    · simp [same]
  cases edit with
  | upsert key x =>
    have placed : (columnsOf dated (held key)).upsert s.store.capacity (some (instantOf dated x)) x =
        _ := Columns.upsert_along (h.ordered dated key) s.store.capacity x
    have fits : (place reading x (held key)).length ≤ s.store.capacity + 1 := by
      rw [place_eq_insertIdx dated, List.length_insertIdx]
      have := h.length_le dated key
      split <;> omega
    have kept := exchanged key ((place reading x (held key)).rtake s.store.capacity)
    rw [ObjectStore.onColumns, time_eq dated, placed, ← place_eq_insertIdx dated,
      Columns.cut_fst fits]
    exact congrArg Except.ok kept
  | remove key x =>
    rw [ObjectStore.onColumns, remove_columnsOf dated (h.ordered dated key)]
    exact congrArg Except.ok (exchanged key _)
  | clear key => exact congrArg Except.ok (exchanged key [])

theorem Holds.onColumnsAll (h : s.Holds reading held) (edits : List (Edit α)) :
    edits.foldlM (ObjectStore.onColumns reading s.store.capacity)
        (fun key => columnsOf dated (held key)) =
      .ok fun key => columnsOf dated
        (edits.foldl (Edit.apply reading s.store.capacity) held key) := by
  induction edits generalizing s held with
  | nil => rfl
  | cons edit edits ih =>
    obtain ⟨next, -, same, holds⟩ := h.perform dated edit
    rw [List.foldlM_cons, h.onColumns dated]
    have rest := ih holds
    rw [same] at rest
    exact rest

theorem Holds.agrees (h : s.Holds reading held) (key : SensorKey) :
    s.Agrees reading key (columnsOf dated (held key)) := by
  have shown := h.shows key
  have ordered := h.ordered dated key
  refine {
    readings := by rw [shown.readings, columnsOf, Columns.along, List.map_id]
    times := by
      rw [h.times_eq dated, List.map_map]
      rfl
    query := fun after upTo => ?_
    last := fun count bound => ?_
    remove := fun x => ?_ }
  · have sought : (columnsOf dated (held key)).query (some after) (some upTo) = _ :=
      Columns.query_along ordered after upTo
    rw [shown.query, sought, within_eq_filter ordered, List.map_id, List.filter_map]
    refine congrArg Except.ok (congrArg _ (List.filter_congr fun x _ => ?_))
    simp [Reading.isWithin, time_eq dated x]
  · rw [shown.last, last_columnsOf dated ordered]
  · obtain ⟨after, removed, readings, -⟩ := shown.remove x
    refine ⟨after, _, _, removed, remove_columnsOf dated ordered x, ?_⟩
    rw [readings, columnsOf, Columns.along, List.map_id]

/-- After any edits of a new store, its windows and the columns of as many objects show the same. -/
theorem onColumns_new {size : Int} (pos : 1 ≤ size) (dated : ∀ x, (reading x).time.isSome)
    (edits : List (Edit α)) :
    ∃ empty s columns, WindowStore.new size = .ok empty ∧
      edits.foldlM (perform reading) ⟨empty, []⟩ = .ok s ∧
      edits.foldlM (ObjectStore.onColumns reading size.toNat) (fun _ => .empty) = .ok columns ∧
      ∀ key, s.Agrees reading key (columns key) := by
  have capacity_pos : 0 < size.toNat := by omega
  let empty : WindowStore := ⟨size.toNat, capacity_pos, []⟩
  have start : Holds reading ⟨empty, []⟩ fun _ => [] := holds_new capacity_pos
  obtain ⟨s, performed, -, holds⟩ := start.performAll dated edits
  exact ⟨empty, s, _, dif_pos pos, performed, start.onColumnsAll dated edits, holds.agrees dated⟩

end ObjectStore

end FuelTelemetry

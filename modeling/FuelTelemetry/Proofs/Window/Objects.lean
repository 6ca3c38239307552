import FuelTelemetry.Proofs.Window.Tidy
import Mathlib.Data.List.Forall2
import Mathlib.Data.List.Pairwise
import Mathlib.Logic.Function.Basic

/-!
Reading objects. One object may be inserted more than once and under several sensors, and it is
found again by identity, not by what it says. A store of objects keeps the tickets of its
insertions; an object is taken out by its tickets, tried in the order in which they were given. What
the store shows is told by a plain list of objects to each sensor.
-/

namespace FuelTelemetry

open Time (Instant Stamp)

inductive Edit (α : Type) where
  | upsert (key : SensorKey) (object : α)
  | remove (key : SensorKey) (object : α)
  | clear (key : SensorKey)

structure ObjectStore (α : Type) where
  store : WindowStore
  tickets : List (α × Ticket)

namespace WindowStore

def removeFirst (s : WindowStore) (key : SensorKey) :
    List Ticket → Except Fault (WindowStore × Bool)
  | [] => .ok (s.openWindow key, false)
  | ticket :: rest => do
    let (after, found) ← s.remove key ticket
    if found then return (after, true) else after.removeFirst key rest

end WindowStore

namespace ObjectStore

variable {α : Type} (reading : α → Reading)

def upsert (s : ObjectStore α) (key : SensorKey) (x : α) : Except Fault (ObjectStore α) := do
  let (store, ticket, _) ← s.store.upsert key (reading x)
  return ⟨store, s.tickets ++ [(x, ticket)]⟩

variable [DecidableEq α]

def ticketsOf (s : ObjectStore α) (x : α) : List Ticket :=
  (s.tickets.filter (·.1 = x)).map (·.2)

def remove (s : ObjectStore α) (key : SensorKey) (x : α) :
    Except Fault (ObjectStore α × Bool) := do
  let (store, found) ← s.store.removeFirst key (s.ticketsOf x)
  return (⟨store, s.tickets⟩, found)

def perform (s : ObjectStore α) : Edit α → Except Fault (ObjectStore α)
  | .upsert key x => s.upsert reading key x
  | .remove key x => (·.1) <$> s.remove key x
  | .clear key => .ok ⟨s.store.clear key, s.tickets⟩

end ObjectStore

namespace WindowStore

variable {s : WindowStore} {key : SensorKey}

def Finds (s : WindowStore) (key : SensorKey) (ticket : Ticket) : Prop :=
  ticket.key = key ∧ ∃ e ∈ (s.window key).entries, e.arrival = ticket.arrival

theorem remove_found (tidy : (s.window key).Tidy s.capacity) {ticket : Ticket}
    (dated : ticket.time.isSome) (found : s.Finds key ticket) :
    s.remove key ticket =
      .ok (s.setWindow key ((s.window key).without (some ticket.arrival)), true) := by
  obtain ⟨t, ht⟩ := Option.isSome_iff_exists.1 dated
  obtain ⟨own, e, he, same⟩ := found
  have there : ∃ x ∈ (s.window key).entries, some x.arrival = some ticket.arrival :=
    ⟨e, he, congrArg some same⟩
  rw [remove, ht, if_pos own]
  simp only [tidy.remove_eq, there, decide_true]
  rfl

theorem remove_missed (tidy : (s.window key).Tidy s.capacity) {ticket : Ticket}
    (dated : ticket.time.isSome) (missed : ¬ s.Finds key ticket) :
    s.remove key ticket = .ok (s.openWindow key, false) := by
  obtain ⟨t, ht⟩ := Option.isSome_iff_exists.1 dated
  have absent : ¬ ∃ x ∈ (s.window key).entries,
      some x.arrival = if ticket.key = key then some ticket.arrival else none := by
    rintro ⟨x, hx, same⟩
    split at same
    · rename_i own
      exact missed ⟨own, x, hx, Option.some.inj same⟩
    · cases same
  rw [remove, ht]
  simp only [tidy.remove_eq, absent, decide_false, tidy.without_eq_self absent]
  rfl

theorem removeFirst_missed (tidy : (s.window key).Tidy s.capacity) {front : List Ticket}
    (dated : ∀ ticket ∈ front, ticket.time.isSome)
    (missed : ∀ ticket ∈ front, ¬ s.Finds key ticket) :
    ∃ after : WindowStore, after.capacity = s.capacity ∧
      (∀ other, after.window other = s.window other) ∧
      ∀ back, s.removeFirst key (front ++ back) = after.removeFirst key back := by
  induction front generalizing s with
  | nil => exact ⟨s, rfl, fun _ => rfl, fun _ => rfl⟩
  | cons ticket front ih =>
    have same := window_openWindow s key
    obtain ⟨after, capacity, windows, rest⟩ := ih (s := s.openWindow key)
      (by rw [same]; exact tidy)
      (fun x hx => dated x (List.mem_cons_of_mem ticket hx)) fun x hx => by
        rw [Finds, same]
        exact missed x (List.mem_cons_of_mem ticket hx)
    refine ⟨after, capacity, fun other => (windows other).trans (same other), fun back => ?_⟩
    rw [List.cons_append, removeFirst, remove_missed tidy (dated ticket List.mem_cons_self)
      (missed ticket List.mem_cons_self), ← rest]
    rfl

end WindowStore

section Lists

variable {α : Type} (reading : α → Reading)

def place (x : α) : List α → List α
  | [] => [x]
  | y :: rest => if (reading y).notAfter (reading x) then y :: place x rest else x :: y :: rest

def Edit.apply [DecidableEq α] (capacity : Nat) (held : SensorKey → List α) :
    Edit α → SensorKey → List α
  | .upsert key x => Function.update held key ((place reading x (held key)).rtake capacity)
  | .remove key x => Function.update held key ((held key).erase x)
  | .clear key => Function.update held key []

def heldAfter [DecidableEq α] (capacity : Nat) (edits : List (Edit α)) : SensorKey → List α :=
  edits.foldl (Edit.apply reading capacity) fun _ => []

def Named (tickets : List (α × Ticket)) (key : SensorKey) (e : Entry) (x : α) : Prop :=
  (x, ⟨key, e.arrival, some e.time⟩) ∈ tickets ∧ e.reading = reading x

structure Numbered (tickets : List (α × Ticket)) (next : SensorKey → Nat) : Prop where
  below : ∀ a ∈ tickets, a.2.arrival < next a.2.key
  ascending : tickets.Pairwise fun a b => a.2.key = b.2.key → a.2.arrival < b.2.arrival
  dated : ∀ a ∈ tickets, a.2.time.isSome

variable {tickets : List (α × Ticket)} {next : SensorKey → Nat}

theorem Numbered.unique (h : Numbered tickets next) {a b : α × Ticket} (ha : a ∈ tickets)
    (hb : b ∈ tickets) (own : a.2.key = b.2.key) (same : a.2.arrival = b.2.arrival) : a = b := by
  let Apart (a b : α × Ticket) : Prop := a.2.key = b.2.key → a.2.arrival ≠ b.2.arrival
  have apart : tickets.Pairwise Apart := h.ascending.imp fun lt own => Nat.ne_of_lt (lt own)
  have : Std.Symm Apart := ⟨fun a b ne own => (ne own.symm).symm⟩
  by_contra ne
  exact apart.forall ha hb ne own same

theorem Numbered.push (h : Numbered tickets next) {later : SensorKey → Nat} {key : SensorKey}
    (le : ∀ other, next other ≤ later other) (lt : next key < later key) (x : α) (t : Instant) :
    Numbered (tickets ++ [(x, ⟨key, next key, some t⟩)]) later where
  below a ha := by
    rcases List.mem_append.1 ha with old | new
    · exact Nat.lt_of_lt_of_le (h.below a old) (le _)
    · rw [List.mem_singleton.1 new]
      exact lt
  ascending := by
    refine List.pairwise_append.2
      ⟨h.ascending, List.pairwise_singleton .., fun a ha b hb same => ?_⟩
    have older := h.below a ha
    rw [List.mem_singleton.1 hb] at same ⊢
    rw [same] at older
    exact older
  dated a ha := by
    rcases List.mem_append.1 ha with old | new
    · exact h.dated a old
    · rw [List.mem_singleton.1 new]
      rfl

end Lists

namespace ObjectStore

variable {α : Type}

/-- The objects of each window, in order, and tickets that find them. -/
structure Holds (reading : α → Reading) (s : ObjectStore α) (held : SensorKey → List α) :
    Prop where
  windows : ∀ key, (s.store.window key).Tidy s.store.capacity
  named : ∀ key, List.Forall₂ (Named reading s.tickets key) (s.store.window key).entries (held key)
  numbered : Numbered s.tickets fun key => (s.store.window key).arrivals

variable {reading : α → Reading} {s : ObjectStore α} {held : SensorKey → List α} {key : SensorKey}
  {x : α}

theorem holds_new {capacity : Nat} (pos : 0 < capacity) :
    Holds reading ⟨⟨capacity, pos, []⟩, []⟩ fun _ => [] where
  windows _ := Window.tidy_empty capacity
  named _ := .nil
  numbered := ⟨by simp, List.Pairwise.nil, by simp⟩

theorem Holds.exchange (h : s.Holds reading held) {after : ObjectStore α} {xs : List α}
    (capacity : after.store.capacity = s.store.capacity)
    (others : ∀ other, other ≠ key → after.store.window other = s.store.window other)
    (tidy : (after.store.window key).Tidy s.store.capacity) (grown : s.tickets ⊆ after.tickets)
    (named : List.Forall₂ (Named reading after.tickets key) (after.store.window key).entries xs)
    (numbered : Numbered after.tickets fun other => (after.store.window other).arrivals) :
    after.Holds reading (Function.update held key xs) where
  windows other := by
    rw [capacity]
    by_cases same : other = key
    · rw [same]
      exact tidy
    · rw [others other same]
      exact h.windows other
  named other := by
    by_cases same : other = key
    · rw [same, Function.update_self]
      exact named
    · rw [others other same, Function.update_of_ne same]
      exact (h.named other).imp fun e y link => ⟨grown link.1, link.2⟩
  numbered := numbered

theorem Holds.shrink (h : s.Holds reading held) {store : WindowStore} {rest : List Entry}
    {xs : List α} (capacity : store.capacity = s.store.capacity)
    (others : ∀ other, other ≠ key → store.window other = s.store.window other)
    (own : store.window key = { s.store.window key with contents := .dated rest })
    (sub : rest.Sublist (s.store.window key).entries)
    (named : List.Forall₂ (Named reading s.tickets key) rest xs) :
    Holds reading ⟨store, s.tickets⟩ (Function.update held key xs) := by
  have arrivals : (fun other => (store.window other).arrivals) =
      fun other => (s.store.window other).arrivals := by
    funext other
    by_cases same : other = key
    · rw [same, own]
    · rw [others other same]
  refine h.exchange capacity others ?_ (List.Subset.refl _) ?_ (arrivals ▸ h.numbered)
  · simp only [own]
    exact (h.windows key).sublist sub
  · simp only [own]
    exact named

theorem place_named {tickets : List (α × Ticket)} {e : Entry} {es : List Entry} {xs : List α}
    (named : List.Forall₂ (Named reading tickets key) es xs)
    (timed : ∀ y ∈ es, y.reading.time = some y.time) (new : Named reading tickets key e x)
    (ht : e.reading.time = some e.time) :
    List.Forall₂ (Named reading tickets key) (e.insert es) (place reading x xs) := by
  induction named with
  | nil => exact .cons new .nil
  | @cons first y rest ys link others ih =>
    have order : (reading y).notAfter (reading x) = true ↔ first.time ≤ e.time := by
      rw [← link.2, ← new.2]
      simp [Reading.notAfter, ht, timed first List.mem_cons_self, Instant.le_iff]
    simp only [Entry.insert, place, order]
    split
    · exact .cons link (ih fun z hz => timed z (List.mem_cons_of_mem first hz))
    · exact .cons new (.cons link others)

theorem Holds.upsert (h : s.Holds reading held) (key : SensorKey)
    (dated : (reading x).time.isSome) :
    ∃ after, s.upsert reading key x = .ok after ∧ after.store.capacity = s.store.capacity ∧
      after.Holds reading
        (Function.update held key ((place reading x (held key)).rtake s.store.capacity)) := by
  obtain ⟨t, ht⟩ := Option.isSome_iff_exists.1 dated
  have tidy := h.windows key
  let ticket : Ticket := ⟨key, (s.store.window key).arrivals, some t⟩
  let store := s.store.setWindow key ((s.store.window key).receive s.store.capacity t (reading x))
  have own : store.window key = (s.store.window key).receive s.store.capacity t (reading x) :=
    WindowStore.window_setWindow_self ..
  have others : ∀ other, other ≠ key → store.window other = s.store.window other :=
    fun other ne => WindowStore.window_setWindow_of_ne _ ne _
  have new : Named reading (s.tickets ++ [(x, ticket)]) key
      ⟨(s.store.window key).arrivals, t, reading x⟩ x :=
    ⟨List.mem_append_right _ (List.mem_singleton.2 rfl), rfl⟩
  have placed := place_named
    ((h.named key).imp fun e y link => ⟨List.mem_append_left _ link.1, link.2⟩) tidy.timed new ht
  refine ⟨⟨store, s.tickets ++ [(x, ticket)]⟩, ?_, rfl,
    h.exchange rfl others ?_ (List.subset_append_left _ _) ?_ ?_⟩
  · rw [ObjectStore.upsert, WindowStore.upsert_eq tidy ht]
    rfl
  · simp only [own]
    exact tidy.receive ht
  · simp only [own]
    rw [Window.entries_receive, List.rtake, List.rtake, placed.length_eq]
    exact List.forall₂_drop _ placed
  · refine h.numbered.push (fun other => ?_) ?_ x t
    · by_cases same : other = key
      · rw [same, own]
        exact Nat.le_succ _
      · rw [others other same]
    · rw [own]
      exact Nat.lt_succ_self _

theorem mem_ticketsOf [DecidableEq α] {ticket : Ticket} :
    ticket ∈ s.ticketsOf x ↔ (x, ticket) ∈ s.tickets := by
  simp [ticketsOf]

theorem Holds.named_of_finds (h : s.Holds reading held) {ticket : Ticket}
    (issued : (x, ticket) ∈ s.tickets) {e : Entry} {y : α} (link : Named reading s.tickets key e y)
    (own : ticket.key = key) (same : e.arrival = ticket.arrival) : y = x := by
  have one := h.numbered.unique issued link.1 own same.symm
  exact (congrArg Prod.fst one).symm

theorem exists_of_forall₂ {R : Entry → α → Prop} {es : List Entry} {xs : List α}
    (h : List.Forall₂ R es xs) {e : Entry} (he : e ∈ es) : ∃ x ∈ xs, R e x := by
  induction h with
  | nil => cases he
  | @cons first y rest ys link others ih =>
    rcases List.mem_cons.1 he with rfl | he
    · exact ⟨y, List.mem_cons_self, link⟩
    · obtain ⟨x, hx, linked⟩ := ih he
      exact ⟨x, List.mem_cons_of_mem y hx, linked⟩

theorem Holds.ticketsOf_dated [DecidableEq α] (h : s.Holds reading held) {ticket : Ticket}
    (issued : ticket ∈ s.ticketsOf x) : ticket.time.isSome :=
  h.numbered.dated _ (mem_ticketsOf.1 issued)

theorem Holds.ticketsOf_ascending [DecidableEq α] (h : s.Holds reading held) :
    (s.ticketsOf x).Pairwise fun a b => a.key = b.key → a.arrival < b.arrival :=
  List.pairwise_map.2 (h.numbered.ascending.sublist List.filter_sublist)

structure FirstEntry (reading : α → Reading) (s : ObjectStore α) (key : SensorKey) (x : α)
    (xs ys : List α) (e : Entry) (front back : List Entry) : Prop where
  split : (s.store.window key).entries = front ++ e :: back
  before : List.Forall₂ (Named reading s.tickets key) front xs
  first : x ∉ xs
  link : Named reading s.tickets key e x
  behind : List.Forall₂ (Named reading s.tickets key) back ys

theorem Holds.exists_firstEntry [DecidableEq α] (h : s.Holds reading held) (there : x ∈ held key) :
    ∃ xs ys e front back, (held key).erase x = xs ++ ys ∧
      FirstEntry reading s key x xs ys e front back := by
  obtain ⟨xs, ys, first, split, erased⟩ := List.exists_erase_eq there
  have named := h.named key
  rw [split] at named
  obtain ⟨e, back, link, behind, rest⟩ :=
    List.forall₂_cons_right_iff.1 (List.forall₂_drop_append _ _ _ named)
  have whole := List.take_append_drop xs.length (s.store.window key).entries
  rw [rest] at whole
  exact ⟨xs, ys, e, _, back, erased, whole.symm, List.forall₂_take_append _ _ _ named, first, link,
    behind⟩

variable {xs ys : List α} {e : Entry} {front back : List Entry}

/-- No ticket of the object that came before that of its first entry finds one. -/
theorem FirstEntry.missed (f : FirstEntry reading s key x xs ys e front back)
    (h : s.Holds reading held) {ticket : Ticket} (issued : (x, ticket) ∈ s.tickets)
    (earlier : ticket.key = key → ticket.arrival < e.arrival) : ¬ s.store.Finds key ticket := by
  rintro ⟨own, found, there, same⟩
  have lt := earlier own
  have ordered := (h.windows key).ordered
  have timed := (h.windows key).timed
  rw [f.split] at there ordered timed
  rcases List.mem_append.1 there with before | rest
  · obtain ⟨y, hy, linked⟩ := exists_of_forall₂ f.before before
    exact f.first (h.named_of_finds issued linked own same ▸ hy)
  rcases List.mem_cons.1 rest with rfl | behind
  · omega
  · -- a later entry of the object has the time of the first, and so it arrived later
    obtain ⟨y, -, linked⟩ := exists_of_forall₂ f.behind behind
    rw [h.named_of_finds issued linked own same] at linked
    have precedes := (List.pairwise_cons.1 (List.pairwise_append.1 ordered).2.1).1 found behind
    have times : some found.time = some e.time := by
      rw [← timed found there, ← timed e (by simp), linked.2, f.link.2]
    have later := precedes.arrival_lt (Nat.le_of_eq (congrArg _ (Option.some.inj times)))
    omega

theorem Holds.remove_held [DecidableEq α] (h : s.Holds reading held) (there : x ∈ held key) :
    ∃ after, s.remove key x = .ok (after, true) ∧ after.store.capacity = s.store.capacity ∧
      (∀ other, other ≠ key → after.store.window other = s.store.window other) ∧
      after.Holds reading (Function.update held key ((held key).erase x)) := by
  obtain ⟨xs, ys, e, front, back, erased, f⟩ := h.exists_firstEntry there
  obtain ⟨early, late, tickets⟩ := List.append_of_mem (mem_ticketsOf.2 f.link.1)
  have issued : ∀ ticket ∈ early, ticket ∈ s.ticketsOf x := fun ticket hticket => by
    rw [tickets]
    exact List.mem_append_left _ hticket
  have ascending := h.ticketsOf_ascending (x := x)
  rw [tickets] at ascending
  have missed : ∀ ticket ∈ early, ¬ s.store.Finds key ticket := fun ticket hticket =>
    f.missed h (mem_ticketsOf.1 (issued ticket hticket))
      ((List.pairwise_append.1 ascending).2.2 ticket hticket _ List.mem_cons_self)
  have tidy := h.windows key
  obtain ⟨store, capacity, windows, result⟩ := WindowStore.removeFirst_missed tidy
    (fun ticket hticket => h.ticketsOf_dated (issued ticket hticket)) missed
  have found : store.Finds key ⟨key, e.arrival, some e.time⟩ :=
    ⟨rfl, e, by rw [windows, f.split]; simp, rfl⟩
  have removed := WindowStore.remove_found (by rw [windows, capacity]; exact tidy) rfl found
  let after := store.setWindow key ((store.window key).without (some e.arrival))
  have same : after.capacity = s.store.capacity := capacity
  have others : ∀ other, other ≠ key → after.window other = s.store.window other :=
    fun other ne => (WindowStore.window_setWindow_of_ne _ ne _).trans (windows other)
  refine ⟨⟨after, s.tickets⟩, ?_, same, others, ?_⟩
  · rw [ObjectStore.remove, tickets, result, WindowStore.removeFirst, removed]
    rfl
  · have rest : (front ++ back).Sublist (s.store.window key).entries := by
      rw [f.split]
      exact (List.Sublist.refl front).append (List.sublist_cons_self e back)
    rw [erased]
    refine h.shrink same others ?_ rest (List.rel_append f.before f.behind)
    rw [WindowStore.window_setWindow_self, windows, Window.without, tidy.filter_arrival f.split]

theorem Holds.remove_absent [DecidableEq α] (h : s.Holds reading held) (absent : x ∉ held key) :
    ∃ after, s.remove key x = .ok (after, false) ∧ after.store.capacity = s.store.capacity ∧
      (∀ other, after.store.window other = s.store.window other) ∧ after.Holds reading held := by
  have missed : ∀ ticket ∈ s.ticketsOf x, ¬ s.store.Finds key ticket := by
    rintro ticket issued ⟨own, e, he, same⟩
    obtain ⟨y, hy, link⟩ := exists_of_forall₂ (h.named key) he
    exact absent (h.named_of_finds (mem_ticketsOf.1 issued) link own same ▸ hy)
  obtain ⟨store, capacity, windows, result⟩ :=
    WindowStore.removeFirst_missed (h.windows key) (fun _ => h.ticketsOf_dated) missed
  let after := store.openWindow key
  have same : after.capacity = s.store.capacity := capacity
  have opened (other : SensorKey) : after.window other = s.store.window other :=
    (WindowStore.window_openWindow store key other).trans (windows other)
  refine ⟨⟨after, s.tickets⟩, ?_, same, opened, ?_⟩
  · rw [ObjectStore.remove, ← List.append_nil (s.ticketsOf x), result]
    rfl
  · have own : after.window key =
        { s.store.window key with contents := .dated (s.store.window key).entries } := by
      rw [opened, ← (h.windows key).contents]
    have kept := h.shrink same (fun other _ => opened other) own (List.Sublist.refl _) (h.named key)
    rwa [Function.update_eq_self] at kept

theorem Holds.remove [DecidableEq α] (h : s.Holds reading held) (key : SensorKey) (x : α) :
    ∃ after, s.remove key x = .ok (after, decide (x ∈ held key)) ∧
      after.store.capacity = s.store.capacity ∧
      (∀ other, other ≠ key → after.store.window other = s.store.window other) ∧
      after.Holds reading (Function.update held key ((held key).erase x)) := by
  by_cases there : x ∈ held key
  · rw [decide_eq_true there]
    exact h.remove_held there
  · rw [decide_eq_false there, List.erase_of_not_mem there, Function.update_eq_self]
    obtain ⟨after, removed, capacity, windows, holds⟩ := h.remove_absent there
    exact ⟨after, removed, capacity, fun other _ => windows other, holds⟩

theorem Holds.clear (h : s.Holds reading held) (key : SensorKey) :
    Holds reading ⟨s.store.clear key, s.tickets⟩ (Function.update held key []) := by
  refine h.shrink (WindowStore.clear_capacity ..) (fun other ne => ?_) ?_ (List.nil_sublist _) .nil
  · exact WindowStore.window_clear_of_ne _ ne
  · exact WindowStore.window_clear_self ..

theorem Holds.readings_eq (h : s.Holds reading held) (key : SensorKey) :
    (s.store.window key).readings = (held key).map reading := by
  rw [(h.windows key).readings_eq, ← List.forall₂_eq_eq_eq, List.forall₂_map_left_iff,
    List.forall₂_map_right_iff]
  exact (h.named key).imp fun e x link => link.2

variable [DecidableEq α]

theorem Holds.perform (h : s.Holds reading held) (dated : ∀ x, (reading x).time.isSome)
    (edit : Edit α) :
    ∃ after, s.perform reading edit = .ok after ∧ after.store.capacity = s.store.capacity ∧
      after.Holds reading (edit.apply reading s.store.capacity held) := by
  cases edit with
  | upsert key x => exact h.upsert key (dated x)
  | remove key x =>
    obtain ⟨after, removed, capacity, -, holds⟩ := h.remove key x
    refine ⟨after, ?_, capacity, holds⟩
    rw [ObjectStore.perform, removed]
    rfl
  | clear key => exact ⟨_, rfl, WindowStore.clear_capacity .., h.clear key⟩

theorem Holds.performAll (h : s.Holds reading held) (dated : ∀ x, (reading x).time.isSome)
    (edits : List (Edit α)) :
    ∃ after, edits.foldlM (ObjectStore.perform reading) s = .ok after ∧
      after.store.capacity = s.store.capacity ∧
      after.Holds reading (edits.foldl (Edit.apply reading s.store.capacity) held) := by
  induction edits generalizing s held with
  | nil => exact ⟨s, rfl, rfl, h⟩
  | cons edit edits ih =>
    obtain ⟨next, performed, same, holds⟩ := h.perform dated edit
    obtain ⟨after, rest, capacity, held⟩ := ih holds
    rw [same] at capacity held
    refine ⟨after, ?_, capacity, held⟩
    rw [List.foldlM_cons, performed]
    exact rest

structure Shows (reading : α → Reading) (capacity : Nat) (s : ObjectStore α) (key : SensorKey)
    (held : List α) : Prop where
  readings : (s.store.window key).readings = held.map reading
  times : (s.store.window key).times.map some = held.map fun x => (reading x).time
  ordered : (s.store.window key).times.Pairwise (· ≤ ·)
  bounded : (s.store.window key).times.length ≤ capacity
  query : ∀ after upTo : Instant,
    (s.store.query key (some (.ofInstant after)) (some (.ofInstant upTo))).2 =
      .ok ((held.map reading).filter (·.isWithin after upTo))
  last : ∀ (count : Int) (bound : Option Instant),
    (s.store.last key count (bound.map .ofInstant)).2 =
      .ok (if count ≤ 0 then [] else
        ((held.map reading).filter fun r => bound.all (r.isUpTo ·)).rtake count.toNat)
  remove : ∀ x, ∃ after, s.remove key x = .ok (after, decide (x ∈ held)) ∧
    (after.store.window key).readings = (held.erase x).map reading ∧
    ∀ other, other ≠ key → after.store.window other = s.store.window other

theorem Holds.shows (h : s.Holds reading held) (key : SensorKey) :
    s.Shows reading s.store.capacity key (held key) := by
  have tidy := h.windows key
  have readings := h.readings_eq key
  exact {
    readings
    times := by
      rw [tidy.times_eq, readings, List.map_map]
      rfl
    ordered := List.pairwise_map.2 tidy.inOrder
    bounded := by
      rw [Window.times, List.length_map]
      exact tidy.bounded
    query := fun after upTo => by
      rw [← readings]
      exact tidy.query_eq after upTo
    last := fun count bound => by
      rw [← readings]
      exact WindowStore.last_eq tidy count bound
    remove := fun x => by
      obtain ⟨after, removed, -, others, holds⟩ := h.remove key x
      refine ⟨after, removed, ?_, others⟩
      rw [holds.readings_eq key, Function.update_self] }

/-- After any edits of a new store, each window shows just the objects that it holds by then. -/
theorem performAll_new {size : Int} (pos : 1 ≤ size) (dated : ∀ x, (reading x).time.isSome)
    (edits : List (Edit α)) :
    ∃ empty s, WindowStore.new size = .ok empty ∧
      edits.foldlM (perform reading) ⟨empty, []⟩ = .ok s ∧
      ∀ key, s.Shows reading size.toNat key (heldAfter reading size.toNat edits key) := by
  have capacity_pos : 0 < size.toNat := by omega
  let empty : WindowStore := ⟨size.toNat, capacity_pos, []⟩
  have start : Holds reading ⟨empty, []⟩ fun _ => [] := holds_new capacity_pos
  obtain ⟨s, performed, capacity, holds⟩ := start.performAll dated edits
  refine ⟨empty, s, dif_pos pos, performed, fun key => ?_⟩
  have shown := holds.shows key
  rw [capacity] at shown
  exact shown

end ObjectStore

def Reading.ofObject (x : Fin 3) : Reading :=
  .ofTank (if x = 2 then 3 else 5) none none

namespace ObjectStore

/-- The late object is pushed out when one of the two others comes again. -/
theorem performAll_new_twins :
    ∃ empty s, WindowStore.new 3 = .ok empty ∧
      [Edit.upsert ⟨1, 7⟩ 0, .upsert ⟨1, 7⟩ 1, .upsert ⟨1, 7⟩ 2, .upsert ⟨1, 7⟩ 0,
        .clear ⟨1, 8⟩, .remove ⟨1, 7⟩ 0].foldlM (perform Reading.ofObject) ⟨empty, []⟩ = .ok s ∧
      s.Shows Reading.ofObject 3 ⟨1, 7⟩ [1, 0] := by
  have dated : ∀ x, (Reading.ofObject x).time.isSome := by decide
  obtain ⟨empty, s, started, performed, shows⟩ :=
    performAll_new (by decide : (1 : Int) ≤ 3) dated
      [.upsert ⟨1, 7⟩ 0, .upsert ⟨1, 7⟩ 1, .upsert ⟨1, 7⟩ 2, .upsert ⟨1, 7⟩ 0, .clear ⟨1, 8⟩,
        .remove ⟨1, 7⟩ 0]
  exact ⟨empty, s, started, performed, shows ⟨1, 7⟩⟩

end ObjectStore

end FuelTelemetry

import FuelTelemetry.Proofs.Ledger.Replay

/-!
Inserting beside processing. Items that are inserted together may as well be inserted one after the
other. Neither the lookups for a reading nor the sink of activities look at the stored readings, so
that processing comes to the same whatever is stored there.
-/

namespace FuelTelemetry.Ledger

section

variable {α β : Type} {name : TableName} {fits : β → Except Fault Unit}
  {row : β → List α → Except Fault α}

theorem insert_some (rows : List α) (items : List β) :
    insert name fits row (some rows) items = do
      items.forM fits
      return some (← items.foldlM (fun rows item => return rows ++ [← row item rows]) rows) := by
  cases items <;> rfl

theorem insert_cons_ok {table after : Option (List α)} {item : β} {items : List β} :
    insert name fits row table (item :: items) = .ok after ↔
      ∃ between, insert name fits row table [item] = .ok between ∧
        insert name fits row between items = .ok after := by
  cases table with
  | none => simp [insert, rowsOf, bind, Except.bind]
  | some rows =>
    simp only [insert_some, List.forM_eq_forM, List.forM_cons, List.foldlM_cons, List.forM_nil,
      List.foldlM_nil]
    cases fits item with
    | error fault => simp [bind, Except.bind]
    | ok =>
      cases row item rows with
      | error fault =>
        cases forM items fits <;> simp [bind, Except.bind, pure, Except.pure]
      | ok a => simp [insert_some, bind, Except.bind, pure, Except.pure]

end

def withPositions (l : Ledger) (rows : Option (List Position)) : Ledger :=
  { l with positions := rows }

variable {l l' : Ledger} {r : Reading} {rs : List Reading} {rows : Option (List Position)}

theorem storeReadings_ok_iff :
    l.storeReadings rs = .ok l' ↔ ∃ rows,
      insert .positions Position.fits (fun r _ => Position.ofReading r) l.positions rs = .ok rows ∧
        l' = l.withPositions rows := by
  unfold storeReadings
  cases insert .positions Position.fits (fun r _ => Position.ofReading r) l.positions rs with
  | error fault => simp [bind, Except.bind]
  | ok rows => simp [bind, Except.bind, pure, Except.pure, withPositions, eq_comm]

theorem storeReadings_cons_ok_iff :
    l.storeReadings (r :: rs) = .ok l' ↔ ∃ rows, l.storeReadings [r] = .ok (l.withPositions rows) ∧
      (l.withPositions rows).storeReadings rs = .ok l' := by
  constructor
  · intro stored
    obtain ⟨rows, inserted, rfl⟩ := storeReadings_ok_iff.1 stored
    obtain ⟨between, first, others⟩ := insert_cons_ok.1 inserted
    exact ⟨between, storeReadings_ok_iff.2 ⟨between, first, rfl⟩,
      storeReadings_ok_iff.2 ⟨rows, others, rfl⟩⟩
  · rintro ⟨between, stored, others⟩
    obtain ⟨rows, first, same⟩ := storeReadings_ok_iff.1 stored
    obtain rfl : between = rows := congrArg Ledger.positions same
    obtain ⟨rows, inserted, rfl⟩ := storeReadings_ok_iff.1 others
    exact storeReadings_ok_iff.2 ⟨rows, insert_cons_ok.2 ⟨between, first, inserted⟩, rfl⟩

theorem storeReadings_of_positions (same : l'.positions = l.positions)
    (stored : l.storeReadings rs = .ok (l.withPositions rows)) :
    l'.storeReadings rs = .ok (l'.withPositions rows) := by
  obtain ⟨found, inserted, eq⟩ := storeReadings_ok_iff.1 stored
  obtain rfl : rows = found := congrArg Ledger.positions eq
  rw [← same] at inserted
  exact storeReadings_ok_iff.2 ⟨rows, inserted, rfl⟩

theorem announce_withPositions (l : Ledger) (a : Activity) (rows : Option (List Position)) :
    collaborators.announce a (l.withPositions rows) =
      (collaborators.announce a l).withPositions rows := by
  rw [announce_eq, announce_eq]
  simp only [collaborators, publish, storeActivities, withPositions]
  cases insert .activities ActivityRow.fits (fun a _ => ActivityRow.ofActivity a) l.activities [a] <;>
    rfl

variable (p : Processor) (mode : Mode)

theorem process_withPositions (r : Reading) (l : Ledger) (rows : Option (List Position)) :
    p.process collaborators mode r (l.withPositions rows) =
      ((p.process collaborators mode r l).1,
        (p.process collaborators mode r l).2.withPositions rows) := by
  have alike : l.Alike (l.withPositions rows) := ⟨rfl, rfl⟩
  have same : (p.process collaborators mode r (l.withPositions rows)).1 =
      (p.process collaborators mode r l).1 := by
    rw [process_eq, process_eq, alike.assignment_eq]
  refine Prod.ext same ?_
  rw [Processor.process_snd, same, Processor.process_snd, assign_eq, assign_eq]
  cases (p.process collaborators mode r l).1.2.outcome.activity with
  | none => rfl
  | some a => exact announce_withPositions l a rows

theorem processAll_withPositions (rs : List Reading) (l : Ledger)
    (rows : Option (List Position)) :
    p.processAll collaborators mode (l.withPositions rows) rs =
      ((p.processAll collaborators mode l rs).1,
        (p.processAll collaborators mode l rs).2.withPositions rows) := by
  induction rs generalizing p l with
  | nil => rfl
  | cons r rest ih => simp only [Processor.processAll, process_withPositions, ih]

end FuelTelemetry.Ledger

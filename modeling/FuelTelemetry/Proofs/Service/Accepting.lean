import FuelTelemetry.Proofs.Ledger.Inserting
import FuelTelemetry.Proofs.Service.Uploads

/-!
Accepted uploads. An upload is answered with 200 where its readings are processed and all stored.
Readings that are accepted together are accepted one after the other as well, with the same results.
-/

namespace FuelTelemetry.Service

def Answer.listed (name : String) (a : Answer) : List Json :=
  match a.body.bind (Json.field? name) with
  | some (.list items) => items
  | _ => []

def answersTo (runs : List (List Result)) : List Answer :=
  runs.map fun results => .ok (uploadJson results)

theorem flatMap_listed_readings (runs : List (List Result)) :
    (answersTo runs).flatMap (Answer.listed "readings") = runs.flatten.map resultJson := by
  induction runs with
  | nil => rfl
  | cons results runs ih =>
    rw [List.flatten_cons, List.map_append, ← ih]
    rfl

theorem flatMap_listed_activities (runs : List (List Result)) :
    (answersTo runs).flatMap (Answer.listed "activities") =
      (runs.flatten.filterMap (·.outcome.activity)).map Activity.toJson := by
  induction runs with
  | nil => rfl
  | cons results runs ih =>
    rw [List.flatten_cons, List.filterMap_append, List.map_append, ← ih]
    rfl

variable {s after : Service} {r : Reading} {rs : List Reading} {results : List Result}

theorem accepted_nil_iff : Accepted s [] after results ↔ after = s ∧ results = [] := by
  constructor
  · rintro ⟨processed, stored, paging⟩
    obtain ⟨processor, rfl⟩ := Prod.mk.inj processed
    have ledger : s.ledger = after.ledger := Except.ok.inj stored
    refine ⟨?_, rfl⟩
    cases s
    cases after
    simp_all
  · rintro ⟨rfl, rfl⟩
    exact ⟨rfl, rfl, rfl⟩

theorem accepted_cons_iff :
    Accepted s (r :: rs) after results ↔ ∃ between result others,
      Accepted s [r] between [result] ∧ Accepted between rs after others ∧
        results = result :: others := by
  obtain ⟨⟨⟨p, result⟩, l⟩, first⟩ :
      ∃ done, s.processor.process Ledger.collaborators .live r s.ledger = done := ⟨_, rfl⟩
  obtain ⟨⟨⟨p', others⟩, l'⟩, rest⟩ :
      ∃ done, p.processAll Ledger.collaborators .live l rs = done := ⟨_, rfl⟩
  have one : s.processor.processAll Ledger.collaborators .live s.ledger [r] =
      ((p, [result]), l) := by
    simp only [Processor.processAll, first]
  have all : s.processor.processAll Ledger.collaborators .live s.ledger (r :: rs) =
      ((p', result :: others), l') := by
    simp only [Processor.processAll, first, rest]
  -- storing the first reading before the others are processed changes the positions alone
  have beside (rows : Option (List Ledger.Position)) :
      p.processAll Ledger.collaborators .live (l.withPositions rows) rs =
        ((p', others), l'.withPositions rows) := by
    rw [Ledger.processAll_withPositions, rest]
  have same : l'.positions = l.positions := by
    have kept := (Ledger.processAll_upToActivities p .live rs l).positions
    rwa [rest] at kept
  constructor
  · rintro ⟨processed, stored, paging⟩
    rw [all] at processed stored
    obtain ⟨rfl, rfl⟩ := Prod.mk.inj processed
    obtain ⟨rows, head, tail⟩ := Ledger.storeReadings_cons_ok_iff.1 stored
    have head := Ledger.storeReadings_of_positions same.symm head
    exact ⟨⟨p, l.withPositions rows, s.paging⟩, result, others, ⟨by rw [one], by rwa [one], rfl⟩,
      ⟨by rw [beside], by rwa [beside], paging⟩, rfl⟩
  · rintro ⟨⟨p₁, l₁, paging₁⟩, result', others', ⟨processed, stored, paging⟩,
      ⟨processed', stored', paging'⟩, rfl⟩
    rw [one] at processed stored
    obtain ⟨rfl, heads⟩ := Prod.mk.inj processed
    obtain rfl := List.head_eq_of_cons_eq heads
    obtain ⟨rows, -, rfl⟩ := Ledger.storeReadings_ok_iff.1 stored
    rw [beside] at processed' stored'
    obtain ⟨rfl, rfl⟩ := Prod.mk.inj processed'
    refine ⟨by rw [all], ?_, paging'.trans paging⟩
    rw [all]
    exact Ledger.storeReadings_cons_ok_iff.2
      ⟨rows, Ledger.storeReadings_of_positions same stored, stored'⟩

end FuelTelemetry.Service

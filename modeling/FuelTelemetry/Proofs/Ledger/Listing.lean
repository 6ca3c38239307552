import FuelTelemetry.Proofs.Ledger.Activities
import Mathlib.Algebra.Group.Int.Defs

/-!
The listing of activities. Of the rows that are asked for the ledger lists those that start last
first, and those that were stored last first where they start together.
-/

namespace FuelTelemetry.Ledger

open Time (Instant)

def InRange (n : Int) : Prop := -2 ^ 63 ≤ n ∧ n < 2 ^ 63

instance (n : Int) : Decidable (InRange n) := inferInstanceAs (Decidable (_ ∧ _))

theorem fits_iff {n : Int} : fits n = .ok () ↔ InRange n := by
  have least : Int64.minValue.toInt = -2 ^ 63 := by decide
  have greatest : Int64.maxValue.toInt = 2 ^ 63 - 1 := by decide
  unfold fits InRange
  rw [least, greatest]
  split <;> simp <;> omega

theorem allFit_iff {values : List (Option Int)} :
    allFit values = .ok () ↔ ∀ value ∈ values, ∀ n ∈ value, InRange n := by
  induction values with
  | nil => simp [allFit, pure, Except.pure]
  | cons value rest ih =>
    have first : (value.map fits).getD (.ok ()) = .ok () ↔ ∀ n ∈ value, InRange n := by
      cases value with
      | none => simp
      | some n => simp [fits_iff]
    rw [List.forall_mem_cons, ← first, ← ih]
    simp only [allFit, List.forM_eq_forM, List.forM_cons]
    cases (value.map fits).getD (.ok ()) with
    | error fault => simp [bind, Except.bind]
    | ok => simp [bind, Except.bind]

section

variable {α β : Type} (start : α → Instant)

def newestFirst (items : List (Nat × α)) : List (Nat × α) :=
  items.reverse.mergeSort fun x y => start y.2 ≤ start x.2

def Newer (x y : Nat × α) : Prop :=
  start y.2 < start x.2 ∨ (start x.2 = start y.2 ∧ y.1 < x.1)

variable {start}

theorem newestFirst_perm (items : List (Nat × α)) : (newestFirst start items).Perm items :=
  (List.mergeSort_perm _ _).trans (List.reverse_perm items)

theorem numbered_map (f : α → β) (items : List α) :
    numbered (items.map f) = (numbered items).map (Prod.map id f) := by
  simp [numbered, List.zipIdx_map, Function.comp_def]

theorem pairwise_numbered (items : List α) : (numbered items).Pairwise fun x y => x.1 < y.1 := by
  have places : (items.zipIdx.map Prod.snd).Pairwise (· < ·) := by
    rw [List.zipIdx_map_snd]
    exact List.pairwise_lt_range'
  exact List.pairwise_map.2 ((List.pairwise_map.1 places).imp Nat.succ_lt_succ)

theorem newestFirst_pairwise {items : List (Nat × α)} (h : items.Pairwise fun x y => x.1 < y.1) :
    (newestFirst start items).Pairwise (Newer start) := by
  let notBefore (x y : Nat × α) : Bool := start y.2 ≤ start x.2
  have trans : ∀ x y z, notBefore x y = true → notBefore y z = true → notBefore x z = true :=
    fun x y z => by simpa [notBefore, Instant.le_iff] using fun a b => Nat.le_trans b a
  have total : ∀ x y, (notBefore x y || notBefore y x) = true :=
    fun x y => by simpa [notBefore, Instant.le_iff] using Nat.le_total _ _
  have stable := StableSort.pairwise_mergeSort trans total (List.pairwise_reverse.2 h)
  refine stable.imp fun {x y} => ?_
  rintro ⟨after, tied⟩
  simp only [notBefore, decide_eq_true_eq, Instant.le_iff] at after tied
  rcases Nat.lt_or_eq_of_le after with later | same
  · exact .inl later
  · refine .inr ⟨?_, tied (Nat.le_of_eq same.symm)⟩
    cases hx : start x.2
    cases hy : start y.2
    simp_all

theorem newestFirst_map {start : β → Instant} (f : α → β) (items : List (Nat × α)) :
    newestFirst start (items.map (Prod.map id f)) =
      (newestFirst (start ∘ f) items).map (Prod.map id f) := by
  unfold newestFirst
  rw [← List.map_reverse, List.map_mergeSort]
  intro x _ y _
  rfl

end

variable {l : Ledger} {rows : List ActivityRow} {device : Option Int} {limit : Nat}

def ActivityRow.of (device : Option Int) (row : ActivityRow) : Bool :=
  device.all (· = row.device)

theorem listActivities_eq (activities : l.activities = some rows)
    (fit : allFit [device, some (limit : Int)] = .ok ()) :
    l.listActivities device limit =
      .ok ((newestFirst ActivityRow.startTime
        ((numbered rows).filter fun x => x.2.of device)).take limit) := by
  simp only [listActivities, activities, rowsOf, fit]
  rfl

theorem listActivities_error (activities : l.activities = some rows) {fault : Fault}
    (unfit : allFit [device, some (limit : Int)] = .error fault) :
    l.listActivities device limit = .error fault := by
  simp only [listActivities, activities, rowsOf, unfit]
  rfl

end FuelTelemetry.Ledger

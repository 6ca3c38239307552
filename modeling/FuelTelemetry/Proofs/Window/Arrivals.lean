import FuelTelemetry.Proofs.Window.Latest
import FuelTelemetry.Proofs.Window.Tidy
import Mathlib.Data.List.ReduceOption

/-!
Arrivals under one sensor. Insertions alone leave the latest of all readings in the window, and what
they hand back is the rest of them. Of readings with pairwise different times the order of arrival
does not show.
-/

namespace FuelTelemetry

open Time (Instant)

theorem latest_perm (capacity : Nat) {rs others : List Reading}
    (dated : ∀ r ∈ rs, r.time.isSome) (distinct : (rs.map (·.time)).Nodup)
    (perm : others.Perm rs) : latest capacity others = latest capacity rs := by
  have one : ∀ a b : Reading, a ∈ rs → b ∈ rs → a.notAfter b = true → b.notAfter a = true →
      a = b := by
    intro a b ha hb ab ba
    obtain ⟨t, hat⟩ := Option.isSome_iff_exists.1 (dated a ha)
    obtain ⟨u, hbu⟩ := Option.isSome_iff_exists.1 (dated b hb)
    simp only [Reading.notAfter, hat, hbu, Option.map_some, Option.getD_some,
      decide_eq_true_eq] at ab ba
    have same : t = u := by
      cases t
      cases u
      simpa using Nat.le_antisymm ab ba
    exact List.inj_on_of_nodup_map distinct ha hb (by rw [hat, hbu, same])
  have sorted (l : List Reading) : (l.mergeSort Reading.notAfter).Pairwise (Reading.notAfter · ·) :=
    List.pairwise_mergeSort Reading.notAfter_trans Reading.notAfter_total l
  have order : others.mergeSort Reading.notAfter = rs.mergeSort Reading.notAfter := by
    refine List.Perm.eq_of_pairwise (fun a b ha hb => ?_) (sorted others) (sorted rs)
      ((List.mergeSort_perm _ _).trans (perm.trans (List.mergeSort_perm _ _).symm))
    exact one a b (perm.subset (List.mem_mergeSort.1 ha)) (List.mem_mergeSort.1 hb)
  rw [latest, order, latest]

namespace WindowStore

def upsertAll (s : WindowStore) (key : SensorKey) :
    List Reading → Except Fault (WindowStore × List (Option Reading))
  | [] => .ok (s, [])
  | r :: rest => do
    let (s, _, evicted) ← s.upsert key r
    let (s, others) ← s.upsertAll key rest
    return (s, evicted :: others)

variable {s : WindowStore} {key : SensorKey} {rs given : List Reading}

theorem upsertAll_eq (tidy : (s.window key).Tidy s.capacity)
    (holds : (s.window key).Holds s.capacity given) (dated : ∀ r ∈ rs, r.time.isSome) :
    ∃ after evicted, s.upsertAll key rs = .ok (after, evicted) ∧
      (after.window key).readings = latest s.capacity (given ++ rs) ∧
      (evicted.reduceOption ++ (after.window key).readings).Perm
        ((s.window key).readings ++ rs) := by
  induction rs generalizing s given with
  | nil =>
    refine ⟨s, [], rfl, ?_, by simp⟩
    rw [List.append_nil, holds.readings_of_dated tidy.contents]
  | cons r rest ih =>
    obtain ⟨t, ht⟩ := Option.isSome_iff_exists.1 (dated r List.mem_cons_self)
    have step := tidy.perm_receive ht
    let next := s.setWindow key ((s.window key).receive s.capacity t r)
    have own : next.window key = (s.window key).receive s.capacity t r :=
      window_setWindow_self s key _
    have nextTidy : (next.window key).Tidy next.capacity := own ▸ tidy.receive ht
    have nextHolds : (next.window key).Holds next.capacity (given ++ [r]) :=
      own ▸ holds.receive ht
    obtain ⟨after, evicted, inserted, readings, perm⟩ :=
      ih nextTidy nextHolds fun x hx => dated x (List.mem_cons_of_mem r hx)
    refine ⟨after, ((s.window key).displaced s.capacity t r).head?.map (·.reading) :: evicted,
      ?_, by rw [readings, ← List.append_cons]; rfl, ?_⟩
    · rw [upsertAll, upsert_eq tidy ht]
      change (next.upsertAll key rest >>= fun done => .ok (done.1, _ :: done.2)) = _
      rw [inserted]
      rfl
    · rw [own] at perm
      generalize ((s.window key).displaced s.capacity t r).head?.map (·.reading) = first at step ⊢
      have split : (first :: evicted).reduceOption = first.toList ++ evicted.reduceOption := by
        cases first <;> rfl
      rw [split, List.append_assoc, List.append_cons]
      refine (perm.append_left _).trans ?_
      rw [← List.append_assoc]
      exact step.append_right rest

/-- Of the readings inserted into a new window the latest are in it, in order of time and then of
arrival, and the others were handed back. -/
theorem upsertAll_new {size : Int} (pos : 1 ≤ size) (key : SensorKey)
    (dated : ∀ r ∈ rs, r.time.isSome) :
    ∃ empty after evicted, new size = .ok empty ∧
      empty.upsertAll key rs = .ok (after, evicted) ∧
      (after.window key).readings = latest size.toNat rs ∧
      (evicted.reduceOption ++ (after.window key).readings).Perm rs ∧
      ((rs.map (·.time)).Nodup → ∀ others : List Reading, others.Perm rs →
        ∃ after' evicted', empty.upsertAll key others = .ok (after', evicted') ∧
          (after'.window key).readings = (after.window key).readings) := by
  have capacity_pos : 0 < size.toNat := by omega
  let empty : WindowStore := ⟨size.toNat, capacity_pos, []⟩
  have tidy : (empty.window key).Tidy size.toNat := Window.tidy_empty size.toNat
  have holds : (empty.window key).Holds size.toNat [] := Window.holds_empty size.toNat
  obtain ⟨after, evicted, inserted, readings, perm⟩ := upsertAll_eq tidy holds dated
  refine ⟨empty, after, evicted, dif_pos pos, inserted, readings, perm,
    fun distinct others same => ?_⟩
  obtain ⟨after', evicted', inserted', readings', -⟩ :=
    upsertAll_eq tidy holds fun r hr => dated r (same.subset hr)
  refine ⟨after', evicted', inserted', ?_⟩
  rw [readings', readings, List.nil_append, List.nil_append, latest_perm _ dated distinct same]

theorem upsertAll_new_lateReading :
    ∃ empty after evicted, new 2 = .ok empty ∧
      empty.upsertAll ⟨1, 7⟩ [.ofTank 3 none none, .ofTank 1 none none, .ofTank 2 none none] =
        .ok (after, evicted) ∧
      (after.window ⟨1, 7⟩).readings = [.ofTank 2 none none, .ofTank 3 none none] ∧
      ∃ after' evicted',
        empty.upsertAll ⟨1, 7⟩ [.ofTank 1 none none, .ofTank 2 none none, .ofTank 3 none none] =
          .ok (after', evicted') ∧
        (after'.window ⟨1, 7⟩).readings = (after.window ⟨1, 7⟩).readings := by
  have dated : ∀ r ∈ [Reading.ofTank 3 none none, .ofTank 1 none none, .ofTank 2 none none],
      r.time.isSome := by decide
  have distinct : ([Reading.ofTank 3 none none, .ofTank 1 none none, .ofTank 2 none none].map
      (·.time)).Nodup := by decide
  have turned : [Reading.ofTank 1 none none, .ofTank 2 none none, .ofTank 3 none none].Perm
      [.ofTank 3 none none, .ofTank 1 none none, .ofTank 2 none none] :=
    @List.perm_append_comm _ [_, _] [_]
  obtain ⟨empty, after, evicted, started, inserted, readings, -, order⟩ :=
    upsertAll_new (by decide : (1 : Int) ≤ 2) ⟨1, 7⟩ dated
  refine ⟨empty, after, evicted, started, inserted, ?_, order distinct _ turned⟩
  rw [readings, ← latest_perm _ dated distinct turned, latest,
    List.mergeSort_of_pairwise (by decide)]
  rfl

end WindowStore

end FuelTelemetry

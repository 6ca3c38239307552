import FuelTelemetry.Proofs.Service.Uploads
import FuelTelemetry.Proofs.WarmStart.Loading

/-!
Warm start rebuilds windows. A load replays the stored readings of a device in time order. Those
with a level that were kept once are kept again, and all others fail or are skipped again, so that
the windows of the device come out as they were before: the same times and levels, in one order.
-/

namespace FuelTelemetry

open Time (Instant Stamp)
open Ledger (Position Records Settled)

namespace Ledger

theorem assignment_stored {l : Ledger} {r : Reading} (number : ∀ y ∈ r.level, (y == y) = true)
    (id : Nat) : l.assignment (r.stored id) = l.assignment r := by
  have level : (r.stored id).hasLevel = r.hasLevel := storedFloat_isSome number
  have route : ∀ linked, (r.stored id).route linked = r.route linked := fun _ => rfl
  have device : (r.stored id).device = r.device := rfl
  rw [assignment, assignment, collaborators.assign_congr device route level]

theorem linked_of_keeps {l : Ledger} {key : SensorKey} {r : Reading} (h : l.keeps key r = true) :
    r.device = key.device ∧
      ∃ first rest, l.linkedSensors key.device = .ok (some (first :: rest)) := by
  have assigned := l.assignment_assigned r
  have device : r.device = key.device := by
    unfold keeps at h
    split at h
    · rename_i own given
      rw [given] at assigned
      cases assigned with
      | keep same _ => rw [← same, of_decide_eq_true h]
    · cases h
  refine ⟨device, ?_⟩
  rw [← device]
  revert h
  unfold keeps assignment Collaborators.assign
  simp only [collaborators]
  rcases l.linkedSensors r.device with fault | _ | _ | ⟨first, rest⟩
  · exact fun kept => absurd kept Bool.false_ne_true
  · exact fun kept => absurd kept Bool.false_ne_true
  · exact fun kept => absurd kept Bool.false_ne_true
  · exact fun _ => ⟨first, rest, rfl⟩

theorem fits_of_linked {l : Ledger} {device : Int} {linked : Option (List LinkedSensor)}
    (h : l.linkedSensors device = .ok linked) : fits device = .ok () := by
  obtain ⟨rows, -, h⟩ := Except.bind_ok h
  obtain ⟨⟨⟩, fit, -⟩ := Except.bind_ok h
  exact fit

end Ledger

namespace WarmStart

theorem replay_ledger {l : Ledger} {rows : List Position} (positions : l.positions = some rows)
    {device : Int} (fit : Ledger.fits device = .ok ()) (p : Processor) (start stop : Stamp) :
    (replay Ledger.collaborators p device start stop l).1.1 =
      (p.processAll Ledger.collaborators .backfill l
        (((Ledger.recalled rows).filter
          (Ledger.inside device start.wall stop.wall)).mergeSort Reading.notAfter)).1.1 := by
  have fetched : (Ledger.collaborators.history device start stop l).1 = .ok _ :=
    Ledger.history_eq positions fit start.wall stop.wall
  have sorted := List.pairwise_mergeSort Reading.notAfter_trans Reading.notAfter_total
    ((Ledger.recalled rows).filter (Ledger.inside device start.wall stop.wall))
  refine (replay_fetched fetched fun r hr => ?_).1.trans ?_
  · exact Ledger.recalled_dated (List.mem_of_mem_filter (List.mem_mergeSort.1 hr))
  · rw [List.mergeSort_of_pairwise sorted]
    rfl

end WarmStart

/-- A load of this span reaches all rows of a device. -/
def Loader.Covers (loader : Loader) (l : Ledger) (device : Int) (now : Stamp) : Prop :=
  ∃ start, WarmStart.hoursBefore loader.hours now = .ok start ∧
    ∀ rows ∈ l.positions, ∀ p ∈ rows, p.device = device → start.wall ≤ p.time ∧ p.time ≤ now.wall

theorem latest_mergeSort (capacity : Nat) (rs : List Reading) :
    latest capacity (rs.mergeSort Reading.notAfter) = latest capacity rs := by
  have sorted := List.pairwise_mergeSort Reading.notAfter_trans Reading.notAfter_total rs
  rw [latest, List.mergeSort_of_pairwise sorted, latest]

namespace WarmStart

variable {s : Settings} {l : Ledger} {rows : List Position} {loader : Loader} {device : Int}
  {now : Stamp}

theorem loadGated_linked {first : LinkedSensor} {rest : List LinkedSensor}
    (linked : l.linkedSensors device = .ok (some (first :: rest))) {start : Stamp}
    (hours : hoursBefore loader.hours now = .ok start) (p : Processor) :
    (loadGated Ledger.collaborators loader p device now l).1.1 =
      (replay Ledger.collaborators p device start now l).1.1 := by
  obtain ⟨record, tracked⟩ := trackedReplay_eq Ledger.collaborators p device start now l
  unfold loadGated
  simp only [Ledger.collaborators, linked, hours]
  exact congrArg (fun done => done.1.1) tracked

theorem loadGated_unlinked
    (unlinked : ¬ ∃ first rest, l.linkedSensors device = .ok (some (first :: rest)))
    (p : Processor) : (loadGated Ledger.collaborators loader p device now l).1.1 = p := by
  unfold loadGated
  simp only [Ledger.collaborators]
  rcases answer : l.linkedSensors device with fault | _ | _ | ⟨first, rest⟩
  · rfl
  · rfl
  · rfl
  · exact absurd ⟨first, rest, answer⟩ unlinked

/-- Readings outside the span are not missed, since none of them is to be kept. -/
theorem filter_inside {start : Stamp} {key : SensorKey}
    (reaches : ∀ p ∈ rows, p.device = key.device → start.wall ≤ p.time ∧ p.time ≤ now.wall) :
    ((Ledger.recalled rows).filter
      (Ledger.inside key.device start.wall now.wall)).filter (l.keeps key) =
      (Ledger.recalled rows).filter (l.keeps key) := by
  rw [List.filter_filter]
  refine List.filter_congr fun r hr => ?_
  cases kept : l.keeps key r with
  | false => rfl
  | true =>
    have device := (Ledger.linked_of_keeps kept).1
    obtain ⟨p, row, id, rfl⟩ := Ledger.mem_recalled hr
    have reached := reaches p row device
    simp only [Ledger.inside, Position.toReading] at device ⊢
    simp [device, reached]

theorem replay_readings {p : Processor} (sound : p.Sound s) (fresh : p.windows = s.store)
    (positions : l.positions = some rows)
    (settled : ∀ r ∈ Ledger.recalled rows, Settled (l.assignment r)) {start : Stamp}
    {key : SensorKey} (fit : Ledger.fits key.device = .ok ())
    (reaches : ∀ p ∈ rows, p.device = key.device → start.wall ≤ p.time ∧ p.time ≤ now.wall) :
    ((replay Ledger.collaborators p key.device start now l).1.1.windows.window key).readings =
      latest s.capacity ((Ledger.recalled rows).filter (l.keeps key)) := by
  have recalled : ∀ r ∈ ((Ledger.recalled rows).filter
      (Ledger.inside key.device start.wall now.wall)).mergeSort Reading.notAfter,
      r ∈ Ledger.recalled rows :=
    fun r hr => List.mem_of_mem_filter (List.mem_mergeSort.1 hr)
  rw [replay_ledger positions fit]
  generalize replayed : ((Ledger.recalled rows).filter
    (Ledger.inside key.device start.wall now.wall)).mergeSort Reading.notAfter = history at *
  have dated : ∀ r ∈ history, r.time.isSome := fun r hr => Ledger.recalled_dated (recalled r hr)
  obtain ⟨readings, expected⟩ := Ledger.processAll_settled sound .backfill dated
    fun r hr => settled r (recalled r hr)
  have empty : (p.windows.window key).Holds s.capacity [] := by
    rw [fresh]
    exact Window.holds_empty s.capacity
  have held := (Ledger.holds_processAll sound dated expected).2 key [] empty
  have after := sound.processAll Ledger.collaborators .backfill dated l
  rw [held.readings_eq (after.windows key), readings, List.nil_append, ← replayed,
    StableSort.filter_mergeSort Reading.notAfter_trans Reading.notAfter_total, latest_mergeSort,
    filter_inside reaches]

theorem loadDevice_readings (positions : l.positions = some rows)
    (settled : ∀ r ∈ Ledger.recalled rows, Settled (l.assignment r)) {key : SensorKey}
    (covers : loader.Covers l key.device now) :
    ((loadDevice Ledger.collaborators loader (.new s) key.device now l).1.1.windows.window
      key).readings = latest s.capacity ((Ledger.recalled rows).filter (l.keeps key)) := by
  change ((loadGated Ledger.collaborators loader ((Processor.new s).beginWarming key.device)
    key.device now l).1.1.windows.window key).readings = _
  have sound : ((Processor.new s).beginWarming key.device).Sound s :=
    (Processor.Reachable.new.beginWarming key.device).sound
  obtain ⟨start, hours, reaches⟩ := covers
  by_cases has : ∃ first rest, l.linkedSensors key.device = .ok (some (first :: rest))
  · obtain ⟨first, rest, linked⟩ := has
    rw [loadGated_linked linked hours]
    exact replay_readings sound rfl positions settled (Ledger.fits_of_linked linked)
      (reaches rows positions)
  · have none_kept : (Ledger.recalled rows).filter (l.keeps key) = [] :=
      List.filter_eq_nil_iff.2 fun r _ kept => has (Ledger.linked_of_keeps kept).2
    rw [loadGated_unlinked has, none_kept]
    simp [latest]
    rfl

end WarmStart

def Reading.SameFuel (a b : Reading) : Prop :=
  a.time = b.time ∧ (a.level == b.level) = true

theorem latest_recalled {l : Ledger} {rs : List Reading} {rows : List Position}
    (records : Records rs rows) (numbers : ∀ r ∈ rs, ∀ y ∈ r.level, (y == y) = true)
    (capacity : Nat) (key : SensorKey) :
    List.Forall₂ Reading.SameFuel (latest capacity (rs.filter (l.keeps key)))
      (latest capacity ((Ledger.recalled rows).filter (l.keeps key))) := by
  let kept := rs.zipIdx.filter fun x => l.keeps key x.1
  let restored (x : Reading × Nat) : Reading := x.1.stored (x.2 + 1)
  have member : ∀ x ∈ rs.zipIdx, x.1 ∈ rs := fun _ hx => List.fst_mem_of_mem_zipIdx hx
  have before : rs.filter (l.keeps key) = kept.map Prod.fst := by
    rw [← List.zipIdx_map_fst 0 rs, List.filter_map]
    rfl
  have after : (Ledger.recalled rows).filter (l.keeps key) = kept.map restored := by
    rw [records.recalled_eq, List.filter_map]
    refine congrArg (List.map restored) (List.filter_congr fun x hx => ?_)
    rw [Function.comp_apply, Ledger.keeps, Ledger.keeps,
      Ledger.assignment_stored (numbers x.1 (member x hx))]
  have order : (fun x y => (restored x).notAfter (restored y)) =
      fun x y : Reading × Nat => x.1.notAfter y.1 := rfl
  rw [before, after, latest_map, latest_map, order, List.forall₂_map_left_iff,
    List.forall₂_map_right_iff, List.forall₂_same]
  intro x hx
  have sorted := (List.drop_sublist _ _).subset hx
  have stored := member x (List.mem_of_mem_filter (List.mem_mergeSort.1 sorted))
  exact ⟨rfl, Ledger.beq_storedFloat (numbers x.1 stored)⟩

namespace Service

variable {settings : Settings} {l : Ledger}

theorem Holding.settled_recalled {s : Service} {rs : List Reading} (h : Holding settings l s rs)
    (numbers : ∀ r ∈ rs, ∀ y ∈ r.level, (y == y) = true) {rows : List Position}
    (records : Records rs rows) :
    ∀ r ∈ Ledger.recalled rows, Settled (s.ledger.assignment r) := by
  intro r hr
  rw [records.recalled_eq] at hr
  obtain ⟨x, placed, rfl⟩ := List.mem_map.1 hr
  have stored : x.1 ∈ rs := List.fst_mem_of_mem_zipIdx placed
  rw [h.alike.assignment_eq, Ledger.assignment_stored (numbers x.1 stored)]
  exact h.settled x.1 stored

/-- After uploads that were all answered with 200, a load of a device makes of a new processor what
the uploads made of it, window by window. -/
theorem loadDevice_rebuilds (empty : l.positions = some []) (paging : Paging)
    {bodies : List Body}
    (answered : ∀ answer ∈ ((started settings l paging).uploadAll bodies).2.1,
      answer.status = 200)
    (expected : ∀ done ∈ ((started settings l paging).uploadAll bodies).2.2,
      done.outcome.reason ≠ some "unexpected_error")
    (numbers : ∀ done ∈ ((started settings l paging).uploadAll bodies).2.2,
      ∀ y ∈ done.reading.level, (y == y) = true)
    {loader : Loader} {device : Int} {now : Stamp}
    (covers : loader.Covers ((started settings l paging).uploadAll bodies).1.ledger device now)
    {key : SensorKey} (own : key.device = device) :
    List.Forall₂ Reading.SameFuel
      (((started settings l paging).uploadAll bodies).1.processor.windows.window key).readings
      ((WarmStart.loadDevice Ledger.collaborators loader (.new settings) device now
        ((started settings l paging).uploadAll bodies).1.ledger).1.1.windows.window
          key).readings := by
  subst own
  have holding := (holding_started empty paging).uploadAll answered expected
  rw [List.nil_append] at holding
  have levels : ∀ r ∈ ((started settings l paging).uploadAll bodies).2.2.map (·.reading),
      ∀ y ∈ r.level, (y == y) = true := by
    intro r hr
    obtain ⟨done, given, rfl⟩ := List.mem_map.1 hr
    exact numbers done given
  obtain ⟨rows, positions, records⟩ := holding.records
  rw [(holding.holds key).readings_eq (holding.sound.windows key),
    WarmStart.loadDevice_readings positions (holding.settled_recalled levels records) covers,
    holding.alike.keeps_eq]
  exact latest_recalled records levels settings.capacity key

end Service

def Ledger.oneTank : Ledger where
  sensors := some [⟨1, ⟨7, LinkedSensor.analogFuel⟩⟩]
  curves := some [⟨⟨1, 7⟩, ⟨0, 0.0, 10.0⟩⟩]
  positions := some []
  activities := some []

namespace Service

def Body.twoReadings : List Body :=
  [.value (.object [("device_id", .int 1), ("time", .int 99), ("adc1", .int 0)]),
    .value (.object [("device_id", .int 1), ("time", .int 60), ("adc1", .int (-1))])]

def twoStored : Service × List Answer × List Result :=
  (started .fourAtOnce .oneTank ⟨10, 100⟩).uploadAll Body.twoReadings

def noon : Stamp := ⟨⟨62135640000000000, by decide⟩, none⟩

def noonBefore : Stamp := ⟨⟨62135553600000000, by decide⟩, none⟩

theorem loadDevice_rebuilds_twoReadings :
    (∀ answer ∈ twoStored.2.1, answer.status = 200) ∧
      (∀ done ∈ twoStored.2.2, done.outcome.reason ≠ some "unexpected_error") ∧
      (∀ done ∈ twoStored.2.2, ∀ y ∈ done.reading.level, (y == y) = true) ∧
      Loader.Covers ⟨24, 4⟩ twoStored.1.ledger 1 noon ∧
      List.Forall₂ Reading.SameFuel
        (twoStored.1.processor.windows.window ⟨1, 7⟩).readings
        ((WarmStart.loadDevice Ledger.collaborators ⟨24, 4⟩ (.new .fourAtOnce) 1 noon
          twoStored.1.ledger).1.1.windows.window ⟨1, 7⟩).readings := by
  have stored : (∀ answer ∈ twoStored.2.1, answer.status = 200) ∧
      (∀ done ∈ twoStored.2.2, done.outcome.reason ≠ some "unexpected_error") ∧
      (∀ done ∈ twoStored.2.2, ∀ y ∈ done.reading.level, (y == y) = true) ∧
      ∀ rows ∈ twoStored.1.ledger.positions, ∀ p ∈ rows, p.device = 1 →
        noonBefore.wall ≤ p.time ∧ p.time ≤ noon.wall := by
    decide +kernel
  obtain ⟨answered, expected, numbers, reached⟩ := stored
  have covers : Loader.Covers ⟨24, 4⟩ twoStored.1.ledger 1 noon := ⟨noonBefore, rfl, reached⟩
  exact ⟨answered, expected, numbers, covers,
    loadDevice_rebuilds rfl ⟨10, 100⟩ answered expected numbers covers rfl⟩

end Service

end FuelTelemetry

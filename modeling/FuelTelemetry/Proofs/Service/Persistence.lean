import FuelTelemetry.Proofs.Service.Batch

/-!
What an accepted upload stores. Whatever processing makes of its readings, each of them is stored,
in their order, and is stored with the level that the answer shows.
-/

namespace FuelTelemetry

open Ledger (Position Records)

theorem rel_getElem? {α β : Type} {R : α → β → Prop} {xs : List α} {ys : List β}
    (h : List.Forall₂ R xs ys) {i : Nat} {x : α} {y : β} (hx : xs[i]? = some x)
    (hy : ys[i]? = some y) : R x y := by
  obtain ⟨left, rfl⟩ := List.getElem?_eq_some_iff.1 hx
  obtain ⟨right, rfl⟩ := List.getElem?_eq_some_iff.1 hy
  exact h.get left right

namespace Processor

variable {σ : Type}

theorem processAll_gives (c : Collaborators σ) (p : Processor) (mode : Mode) (rs : List Reading)
    (world : σ) : List.Forall₂ Result.Gives rs (p.processAll c mode world rs).1.2 := by
  induction rs generalizing p world with
  | nil => exact .nil
  | cons r rest ih =>
    have first := carryOut_gives (c.assign_assigned r world) p mode
    rw [← process_fst] at first
    exact .cons first (ih _ _)

end Processor

namespace Service

structure Shows (r : Reading) (outcome : Outcome) (shown : Json) : Prop where
  device : shown.field? "device_id" = some (.int r.device)
  time : shown.field? "device_time" = some (.ofOption (fun t => .text t.text) r.time)
  latitude : shown.field? "latitude" = some (.ofOption .float r.latitude)
  longitude : shown.field? "longitude" = some (.ofOption .float r.longitude)
  sensor : shown.field? "sensor_id" = some (.ofOption .int r.sensor)
  payload : shown.field? "sensor_data" = some (.ofOption .text r.payload)
  analog : shown.field? "analog_value" = some (.ofOption .int r.analog)
  event : shown.field? "event_code" = some (.int r.event)
  level : shown.field? "fuel_level" = some (.ofOption .float r.level)
  status : shown.field? "status" = some (.text outcome.status.word)
  reason : shown.field? "reason" = some (.ofOption .text outcome.reason)

theorem field?_resultJson {result : Result} {name : String} {value : Json}
    (listed : (name, value) ∈ result.reading.fields ++
      [("status", .text result.outcome.status.word),
       ("reason", .ofOption .text result.outcome.reason)]) :
    (resultJson result).field? name = some value :=
  Table.get?_of_mem (by simp [Table.keys, Reading.fields]) listed

theorem resultJson_shows (result : Result) :
    Shows result.reading result.outcome (resultJson result) := by
  constructor <;> exact field?_resultJson (by simp [Reading.fields])

/-- An item is a reading, and is stored and shown with one level: its own unless it was processed. -/
inductive Persisted (item : Json) (row : Position) (shown : Json) : Prop where
  | intro {r : Reading} {level : Option Float} {outcome : Outcome}
      (read : Reading.ofJson item = .ok r)
      (kept : outcome.status ≠ .processed → level = r.level)
      (shows : Shows { r with level } outcome shown)
      (carries : row.Carries { r with level })

theorem persisted_of_gives {item : Json} {r : Reading} {result : Result} {row : Position}
    (read : Reading.ofJson item = .ok r) (gives : Result.Gives r result)
    (numeric : result.reading.Numeric) (stored : Position.ofReading result.reading = .ok row) :
    Persisted item row (resultJson result) := by
  have carries := Position.carries_of_ofReading numeric stored
  cases gives with
  | processed level activity =>
    have shows := resultJson_shows ⟨r.withLevel level, .processed activity⟩
    exact .intro read (fun other => absurd rfl other) shows carries
  | unchanged outcome other =>
    have shows := resultJson_shows ⟨r, outcome⟩
    exact .intro read (fun _ => rfl) shows carries

def positionRows (s : Service) : List Position := s.ledger.positions.getD []

variable {s after : Service} {rs : List Reading} {results : List Result}

/-- A ledger without positions can store no reading at all. -/
theorem Accepted.positionRows (h : Accepted s rs after results) :
    ∃ more, after.positionRows = s.positionRows ++ more ∧
      Records (results.map (·.reading)) more := by
  have kept := (Ledger.processAll_upToActivities s.processor .live rs s.ledger).positions
  have stored := h.stored
  unfold Service.positionRows
  cases positions : s.ledger.positions with
  | some rows =>
    obtain ⟨more, ledger, records⟩ := Ledger.storeReadings_ok stored (kept.trans positions)
    exact ⟨more, by rw [ledger]; rfl, records⟩
  | none =>
    obtain ⟨rows, inserted, ledger⟩ := Ledger.storeReadings_ok_iff.1 stored
    rw [kept, positions] at inserted
    cases given : results.map (·.reading) with
    | nil =>
      rw [given] at inserted
      obtain rfl := Except.ok.inj inserted
      exact ⟨[], by rw [ledger]; rfl, .nil⟩
    | cons r rest =>
      rw [given] at inserted
      cases inserted

/-- A stored upload adds one row to each item, in their order, and every item is stored and shown with
one level, whatever came of it. -/
theorem upload_persists (s : Service) {body : Body} (answered : (s.upload body).2.status = 200)
    (numeric : ∀ result ∈ s.processed body, result.reading.Numeric) :
    ∃ (value : Json) (more : List Position), body = .value value ∧
      (s.upload body).1.positionRows = s.positionRows ++ more ∧
      more.length = (itemsOf value).length ∧
      ((s.upload body).2.listed "readings").length = (itemsOf value).length ∧
      ∀ (i : Nat) item row shown, (itemsOf value)[i]? = some item → more[i]? = some row →
        ((s.upload body).2.listed "readings")[i]? = some shown → Persisted item row shown := by
  obtain ⟨value, rs, after, results, rfl, read, accepted, processed, uploaded⟩ :=
    upload_accepted answered
  obtain ⟨more, rows, records⟩ := accepted.positionRows
  rw [processed] at numeric
  rw [uploaded]
  -- items, readings, results and rows go along with each other, place by place
  have readings := Reading.forall₂_ofJson read
  have gives : List.Forall₂ Result.Gives rs results := by
    have all := Processor.processAll_gives Ledger.collaborators s.processor .live rs s.ledger
    rwa [accepted.processed] at all
  have recorded := List.forall₂_map_left_iff.1 records
  have shows : (Answer.ok (uploadJson results)).listed "readings" = results.map resultJson := rfl
  refine ⟨value, more, rfl, rows, ?_, ?_, ?_⟩
  · rw [← recorded.length_eq, ← gives.length_eq, readings.length_eq]
  · rw [shows, List.length_map, ← gives.length_eq, readings.length_eq]
  · intro i item row shown hitem hrow hshown
    rw [shows, List.getElem?_map] at hshown
    obtain ⟨result, hresult, rfl⟩ := Option.map_eq_some_iff.1 hshown
    obtain ⟨r, hr⟩ : ∃ r, rs[i]? = some r := by
      have within := (List.getElem?_eq_some_iff.1 hitem).1
      rw [readings.length_eq] at within
      exact ⟨_, List.getElem?_eq_getElem within⟩
    exact persisted_of_gives (rel_getElem? readings hitem hr) (rel_getElem? gives hr hresult)
      (numeric result (List.mem_of_getElem? hresult)) (rel_getElem? recorded hresult hrow)

end Service

def Json.mixed : Json :=
  .list [.ofTank 101 0 (some 20.0), .ofTank 102 200 none, .ofTank 103 (-1) none,
    .object [("device_id", .int 2), ("time", .int 0)]]

namespace Service

theorem upload_persists_mixed :
    (oneTank.upload (.value .mixed)).2.status = 200 ∧
      (∀ result ∈ oneTank.processed (.value .mixed), result.reading.Numeric) ∧
      (oneTank.processed (.value .mixed)).map (·.outcome.status) =
        [.stored, .processed, .failed, .skipped] ∧
      ∃ more : List Position,
        (oneTank.upload (.value .mixed)).1.positionRows = oneTank.positionRows ++ more ∧
        more.length = 4 ∧
        ∀ (i : Nat) item row shown, (itemsOf .mixed)[i]? = some item → more[i]? = some row →
          ((oneTank.upload (.value .mixed)).2.listed "readings")[i]? = some shown →
          Persisted item row shown := by
  have answered : (oneTank.upload (.value .mixed)).2.status = 200 := by decide +kernel
  have numbers : ∀ result ∈ oneTank.processed (.value .mixed),
      (∀ x ∈ result.reading.latitude, (x == x) = true) ∧
        (∀ x ∈ result.reading.longitude, (x == x) = true) ∧
        ∀ x ∈ result.reading.level, (x == x) = true := by
    decide +kernel
  have numeric : ∀ result ∈ oneTank.processed (.value .mixed), result.reading.Numeric :=
    fun result given => ⟨(numbers result given).1, (numbers result given).2.1,
      (numbers result given).2.2⟩
  obtain ⟨value, more, same, rows, length, -, persisted⟩ :=
    upload_persists oneTank answered numeric
  cases same
  exact ⟨answered, numeric, by decide +kernel, more, rows, length, persisted⟩

end Service

end FuelTelemetry

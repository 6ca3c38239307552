import FuelTelemetry.Proofs.Ledger.History
import FuelTelemetry.Proofs.Ledger.Inserting
import FuelTelemetry.Proofs.Processing.Confirming

/-!
Published activities. Processing with the ledger hands on complete activities of sensors that the
ledger can name, and so stores each of them, in their order, behind the rows that are there.
-/

namespace FuelTelemetry.Ledger

open Time (Instant Stamp)

structure Published (a : Activity) (row : ActivityRow) : Prop where
  device : a.device = some row.device
  sensor : a.sensor = some row.sensor
  kind : a.kind = row.kind
  volume : (a.volume == row.volume) = true
  startTime : a.startTime = some (Stamp.ofInstant row.startTime)
  endTime : a.endTime = some (Stamp.ofInstant row.endTime)
  startLatitude : row.startLatitude = storedFloat a.startLatitude
  startLongitude : row.startLongitude = storedFloat a.startLongitude
  endLatitude : row.endLatitude = storedFloat a.endLatitude
  endLongitude : row.endLongitude = storedFloat a.endLongitude

variable {l : Ledger} {rows : List ActivityRow} {a : Activity} {key : SensorKey}

theorem ofActivity_complete (h : a.Complete key) :
    ∃ row, ActivityRow.ofActivity a = .ok row ∧ Published a row := by
  obtain ⟨start, startTime⟩ := h.startTime
  obtain ⟨stop, endTime⟩ := h.endTime
  have number : ∀ y ∈ some a.volume, (y == y) = true := by simpa using h.volume
  obtain ⟨volume, stored⟩ : ∃ volume, storedFloat (some a.volume) = some volume := by
    simpa [Option.isSome_iff_exists] using storedFloat_isSome number
  have same := beq_storedFloat number
  rw [stored, Option.some_beq_some] at same
  have placed : ActivityRow.ofActivity a = .ok {
      device := key.device
      sensor := key.sensor
      kind := a.kind
      volume
      startTime := start
      endTime := stop
      startLatitude := storedFloat a.startLatitude
      startLongitude := storedFloat a.startLongitude
      endLatitude := storedFloat a.endLatitude
      endLongitude := storedFloat a.endLongitude } := by
    simp only [ActivityRow.ofActivity, h.device, h.sensor, startTime, endTime, stored]
    rfl
  exact ⟨_, placed, h.device, h.sensor, rfl, same, startTime, endTime, rfl, rfl, rfl, rfl⟩

theorem storeActivities_complete (activities : l.activities = some rows) (h : a.Complete key)
    (fit : allFit [some key.device, some key.sensor] = .ok ()) :
    ∃ row, Published a row ∧
      l.storeActivities [a] = .ok { l with activities := some (rows ++ [row]) } := by
  obtain ⟨row, placed, published⟩ := ofActivity_complete h
  have fits : ActivityRow.fits a = .ok () := by
    rw [ActivityRow.fits, h.device, h.sensor, fit]
  refine ⟨row, published, ?_⟩
  unfold storeActivities
  rw [activities, insert_some]
  simp only [List.forM_eq_forM, List.forM_cons, List.foldlM_cons, List.forM_nil, List.foldlM_nil,
    fits, placed]
  rfl

theorem announce_complete (activities : l.activities = some rows) (h : a.Complete key)
    (fit : allFit [some key.device, some key.sensor] = .ok ()) :
    ∃ row, Published a row ∧
      (collaborators.announce a l).activities = some (rows ++ [row]) := by
  obtain ⟨row, published, stored⟩ := storeActivities_complete activities h fit
  refine ⟨row, published, ?_⟩
  rw [announce_eq]
  simp only [collaborators, publish, stored]

/-- A sensor whose curve was looked up has numbers that the ledger can hold. -/
theorem fits_of_calibration {curve : Curve} (h : l.calibration key = .ok (some curve)) :
    allFit [some key.device, some key.sensor] = .ok () := by
  obtain ⟨rows, -, h⟩ := Except.bind_ok h
  obtain ⟨⟨⟩, fit, -⟩ := Except.bind_ok h
  exact fit

variable {s : Settings} {p : Processor} {mode : Mode} {r : Reading} {rs : List Reading}

theorem fits_of_confirmed {own : Assignment} (given : l.assignment r = .ok own)
    (confirmed : (p.carryOut mode r (.ok own)).2.outcome.activity = some a) :
    allFit [some own.key.device, some own.key.sensor] = .ok () := by
  rw [assignment, Collaborators.assign_fst] at given
  cases Assignment.grounded_of_ofAnswers given with
  | keep _ _ _ =>
    simp only [Processor.carryOut, Processor.onTrack, Assignment.perform, Track.keep] at confirmed
    split at confirmed <;> cases confirmed
  | enter _ _ _ curved => exact fits_of_calibration curved

theorem process_activities (mode : Mode) (ready : p.Ready s) (dated : r.time.isSome)
    (activities : l.activities = some rows) :
    ∃ more, (p.process collaborators mode r l).2.activities = some (rows ++ more) ∧
      List.Forall₂ Published (p.process collaborators mode r l).1.2.outcome.activity.toList
        more := by
  rw [Processor.process_snd, assign_eq, process_eq]
  cases confirmed : (p.carryOut mode r (l.assignment r)).2.outcome.activity with
  | none => exact ⟨[], by rw [activities, List.append_nil], .nil⟩
  | some a =>
    obtain ⟨own, given, complete⟩ := ready.complete (l.assignment_assigned r) dated confirmed
    rw [given] at confirmed
    obtain ⟨row, published, announced⟩ :=
      announce_complete activities complete (fits_of_confirmed given confirmed)
    exact ⟨[row], announced, .cons published .nil⟩

theorem processAll_activities (mode : Mode) (ready : p.Ready s) (dated : ∀ r ∈ rs, r.time.isSome)
    (activities : l.activities = some rows) :
    ∃ more, (p.processAll collaborators mode l rs).2.activities = some (rows ++ more) ∧
      List.Forall₂ Published ((p.processAll collaborators mode l rs).1.2.filterMap
        (·.outcome.activity)) more := by
  induction rs generalizing p l rows with
  | nil => exact ⟨[], by rw [List.append_nil]; exact activities, .nil⟩
  | cons r rest ih =>
    have first := dated r List.mem_cons_self
    obtain ⟨more, stored, published⟩ := process_activities mode ready first activities
    obtain ⟨others, storedAll, publishedAll⟩ := ih (ready.process collaborators mode first l)
      (fun x hx => dated x (List.mem_cons_of_mem r hx)) stored
    refine ⟨more ++ others, by rw [← List.append_assoc]; exact storedAll, ?_⟩
    have both := List.rel_append published publishedAll
    simp only [Processor.processAll]
    cases confirmed : (p.process collaborators mode r l).1.2.outcome.activity with
    | none => simpa [confirmed] using both
    | some a => simpa [confirmed] using both

end FuelTelemetry.Ledger

import FuelTelemetry.Proofs.Processing.Reachable

/-!
Which sensor a value is filed under. The sensor of a reading follows from its sensor id, and only
without one from its having an analog counter; the value that is calibrated is that of the payload,
and only without one the counter. So the two choices are at odds for a reading with a payload and no
sensor id, and for a counter under the id of a sensor that is no analog fuel sensor.
-/

namespace FuelTelemetry

variable {σ : Type} {r : Reading} {sensors : List LinkedSensor} {sensor : Int}

/-- Digital values belong to the sensor that their reading names, analog ones to an analog fuel
sensor. -/
def Source.FitsSensor (sensors : List LinkedSensor) (r : Reading) (sensor : Int) : Source → Prop
  | digital => r.sensor = some sensor
  | analog => ⟨sensor, LinkedSensor.analogFuel⟩ ∈ sensors

/-- A payload without a sensor id, or a counter under the id of another kind of sensor. -/
def Reading.AtOdds (sensors : List LinkedSensor) (r : Reading) : Prop :=
  if r.hasPayload then r.sensor = none
  else ∃ id, r.sensor = some id ∧ ⟨id, LinkedSensor.analogFuel⟩ ∉ sensors

theorem LinkedSensor.identify_named {id : Int} (named : r.sensor = some id)
    (h : identify sensors r = some sensor) : sensor = id := by
  simp only [identify, named, Option.map_eq_some_iff] at h
  obtain ⟨found, search, rfl⟩ := h
  simpa using List.find?_some search

theorem LinkedSensor.identify_unnamed (unnamed : r.sensor = none)
    (h : identify sensors r = some sensor) : ⟨sensor, analogFuel⟩ ∈ sensors := by
  simp only [identify, unnamed] at h
  split at h
  · obtain ⟨found, search, rfl⟩ := Option.map_eq_some_iff.1 h
    have type : found.type = analogFuel := by simpa using List.find?_some search
    rw [← type]
    exact List.mem_of_find?_eq_some search
  · cases h

theorem Reading.rawValue_source {raw : RawValue} (h : r.rawValue = .ok raw) :
    raw.source = if r.hasPayload then .digital else .analog := by
  unfold rawValue at h
  split at h
  · rename_i has
    split at h
    · cases h
      simp only [has, if_true]
    · cases h
  · rename_i lacks
    split at h
    · cases h
      simp only [lacks]
      rfl
    · cases h

theorem Source.fitsSensor_iff {raw : RawValue}
    (identified : LinkedSensor.identify sensors r = some sensor) (value : r.rawValue = .ok raw) :
    raw.source.FitsSensor sensors r sensor ↔ ¬ r.AtOdds sensors := by
  rw [Reading.rawValue_source value, Reading.AtOdds]
  cases named : r.sensor with
  | none =>
    have linked := LinkedSensor.identify_unnamed named identified
    split
    · simp [FitsSensor, named]
    · simp [FitsSensor, linked]
  | some id =>
    obtain rfl := LinkedSensor.identify_named named identified
    split
    · simp [FitsSensor, named]
    · simp [FitsSensor]

namespace Processor

structure Filed (c : Collaborators σ) (p : Processor) (r : Reading) (world : σ) (after : Processor)
    (level : Reading) (sensors : List LinkedSensor) (sensor : Int) (raw : RawValue) : Prop where
  linked : (c.linkedSensors r.device world).1 = .ok (some sensors)
  value : r.rawValue = .ok raw
  levelled : ∃ curve,
    (c.calibration ⟨r.device, sensor⟩ (c.linkedSensors r.device world).2).1 = .ok (some curve) ∧
    Track.levelled p.settings (p.windows.window ⟨r.device, sensor⟩) curve raw.points r = .ok level
  stored : ∃ done,
    (p.windows.window ⟨r.device, sensor⟩).insert p.settings.capacity level = .ok done ∧
    after.windows.window ⟨r.device, sensor⟩ = done.window
  others : ∀ key, key ≠ ⟨r.device, sensor⟩ → after.windows.window key = p.windows.window key

variable {p : Processor} {c : Collaborators σ} {mode : Mode} {world : σ}

theorem keep_not_processed (s : Settings) (t : Track) (r : Reading) :
    (t.keep s r).2.outcome.status ≠ .processed := by
  unfold Track.keep
  split <;> exact nofun

theorem process_filed (processed : (p.process c mode r world).1.2.outcome.status = .processed) :
    ∃ sensors sensor raw, LinkedSensor.identify sensors r = some sensor ∧
      p.Filed c r world (p.process c mode r world).1.1 (p.process c mode r world).1.2.reading
        sensors sensor raw := by
  rw [process_fst] at processed ⊢
  cases given : (c.assign r world).1 with
  | error outcome =>
    rw [given] at processed
    have assigned := c.assign_assigned r world
    rw [given] at assigned
    cases assigned <;> cases processed
  | ok a =>
    rw [given] at processed
    have grounded := given
    rw [Collaborators.assign_fst] at grounded
    cases Assignment.grounded_of_ofAnswers grounded with
    | keep _ _ _ => exact absurd processed (keep_not_processed _ _ _)
    | @enter sensors sensor curve raw looked identified value curved =>
      let key : SensorKey := ⟨r.device, sensor⟩
      let entered := (p.track key).enter p.settings key mode curve raw r
      obtain ⟨activity, outcome⟩ : ∃ activity, entered.2.outcome = .processed activity := by
        change entered.2.outcome.status = .processed at processed
        cases outcome : entered.2.outcome with
        | processed activity => exact ⟨activity, rfl⟩
        | _ =>
          rw [outcome] at processed
          cases processed
      obtain ⟨level, done, levelled, inserted, reading, confirmed⟩ := Track.enter_processed outcome
      refine ⟨sensors, sensor, raw, identified, looked, value, ⟨curve, curved, ?_⟩,
        ⟨done, ?_, ?_⟩, fun other ne => onTrack_window_of_ne ne p _⟩
      · exact levelled.trans (congrArg Except.ok reading.symm)
      · rw [← inserted]
        exact congrArg _ reading
      · exact (onTrack_window_self p key _).trans confirmed.window

/-- A processed reading is filed under the sensor that its value belongs to exactly if its fields
are not at odds. -/
theorem processed_fits_iff
    (processed : (p.process c mode r world).1.2.outcome.status = .processed) :
    ∃ sensors sensor raw,
      p.Filed c r world (p.process c mode r world).1.1 (p.process c mode r world).1.2.reading
        sensors sensor raw ∧
      (raw.source.FitsSensor sensors r sensor ↔ ¬ r.AtOdds sensors) := by
  obtain ⟨sensors, sensor, raw, identified, filed⟩ := process_filed processed
  exact ⟨sensors, sensor, raw, filed, Source.fitsSensor_iff identified filed.value⟩

end Processor

def InMemory.mixedTanks : InMemory :=
  { oneTank with
    sensors := [(1, [⟨1, "FUEL_DIGITAL"⟩, ⟨2, LinkedSensor.analogFuel⟩])]
    curves := [(⟨1, 1⟩, [⟨0, 0.0, 1.0⟩]), (⟨1, 2⟩, [⟨0, 0.0, 10.0⟩])] }

def Reading.unnamedPayload : Reading :=
  { Reading.ofTank 1 (some 30) none with
    sensor := none
    payload := some "F=100 T=20 N=64" }

namespace Processor

theorem processed_fits_iff_unnamedPayload :
    ((new .fourAtOnce).process InMemory.collaborators .live .unnamedPayload
        .mixedTanks).1.2.outcome.status = .processed ∧
      ∃ sensors sensor raw,
        (new .fourAtOnce).Filed InMemory.collaborators .unnamedPayload .mixedTanks
          ((new .fourAtOnce).process InMemory.collaborators .live .unnamedPayload .mixedTanks).1.1
          ((new .fourAtOnce).process InMemory.collaborators .live .unnamedPayload
            .mixedTanks).1.2.reading sensors sensor raw ∧
        (raw.source.FitsSensor sensors .unnamedPayload sensor ↔
          ¬ Reading.unnamedPayload.AtOdds sensors) := by
  have processed : ((new .fourAtOnce).process InMemory.collaborators .live .unnamedPayload
      .mixedTanks).1.2.outcome.status = .processed := by decide +kernel
  exact ⟨processed, processed_fits_iff processed⟩

theorem processed_not_fits :
    ¬ ∀ (s : Settings) (r : Reading) (world : InMemory) (sensors : List LinkedSensor) (sensor : Int)
      (raw : RawValue),
      ((new s).process InMemory.collaborators .live r world).1.2.outcome.status = .processed →
      (new s).Filed InMemory.collaborators r world
        ((new s).process InMemory.collaborators .live r world).1.1
        ((new s).process InMemory.collaborators .live r world).1.2.reading sensors sensor raw →
      raw.source.FitsSensor sensors r sensor := by
  intro claim
  have processed : ((new .fourAtOnce).process InMemory.collaborators .live .unnamedPayload
      .mixedTanks).1.2.outcome.status = .processed := by decide +kernel
  obtain ⟨sensors, sensor, raw, -, filed⟩ := process_filed processed
  have decoded : Reading.unnamedPayload.rawValue = .ok ⟨100, .digital⟩ := by decide +kernel
  obtain rfl : ⟨100, .digital⟩ = raw := Except.ok.inj (decoded.symm.trans filed.value)
  have named := claim .fourAtOnce .unnamedPayload .mixedTanks sensors sensor _ processed filed
  cases named

end Processor

end FuelTelemetry

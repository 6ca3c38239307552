import FuelTelemetry.Proofs.Reading.Timestamps
import FuelTelemetry.Reading.Decode

/-!
Readings written and read back. A written reading has every field under its first name, so that no
other name counts; an absent value is written as null and a present one in the kind that its field
is read from, the device time as its ISO text. Reading each field gives back its value.
-/

namespace FuelTelemetry.Reading

variable (r : Reading) {name : String} {value : Json}

theorem get?_fields (listed : (name, value) ∈ r.fields) :
    Table.get? name r.fields = some value := by
  have names : Table.keys r.fields = ["id", "device_id", "device_time", "latitude", "longitude",
    "sensor_id", "sensor_data", "analog_value", "event_code", "fuel_level"] := rfl
  exact Table.get?_of_mem (by rw [names]; decide) listed

theorem fieldOr_fields (other : String) (listed : (name, value) ∈ r.fields) :
    Json.fieldOr name other r.fields = value := by
  rw [Json.fieldOr, r.get?_fields listed]

theorem intField_ofOption (field : String) (n : Option Int) :
    intField field (.ofOption .int n) = .ok n := by
  cases n <;> rfl

theorem floatField_ofOption (field : String) (x : Option Float) :
    floatField field (.ofOption .float x) = .ok x := by
  cases x <;> rfl

theorem payloadField_ofOption (s : Option String) :
    payloadField (.ofOption .text s) = .ok s := by
  cases s <;> rfl

theorem timeField_text (t : Time.Instant) : timeField (.text t.text) = .ok t := by
  have chars : t.text.toList = (Time.Stamp.ofInstant t).iso := by
    rw [← Time.Stamp.text_ofInstant, Time.Stamp.text, String.toList_ofList]
  have present : t.text ≠ "" := by
    intro empty
    have hyphen := (Time.Stamp.ofInstant t).hyphen_mem_iso
    rw [← chars, empty] at hyphen
    cases hyphen
  have read : Timestamp.ofJson (.text t.text) = .ok t := by
    rw [Timestamp.ofJson, Time.Instant.text, String.toList_ofList]
    simpa using Timestamp.ofText_instant t Text.allBlank_nil Text.allBlank_nil
  unfold timeField
  split
  · rename_i null
    cases null
  · rename_i empty
    exact absurd (Json.text.inj empty) present
  · rw [read]

/-- A reading with a device time is read back as it was written. -/
theorem ofJson_toJson {r : Reading} {t : Time.Instant} (timed : r.time = some t) :
    ofJson r.toJson = .ok r := by
  have time : Json.fieldOr "device_time" "time" r.fields = .text t.text :=
    r.fieldOr_fields _ (by simp [fields, timed, Json.ofOption])
  have payload : Json.fieldOr "sensor_data" "sensorData" r.fields = .ofOption .text r.payload :=
    r.fieldOr_fields _ (by simp [fields])
  have sensor : Json.fieldOr "sensor_id" "sensorId" r.fields = .ofOption .int r.sensor :=
    r.fieldOr_fields _ (by simp [fields])
  have analog : Json.fieldOr "analog_value" "adc1" r.fields = .ofOption .int r.analog :=
    r.fieldOr_fields _ (by simp [fields])
  have event : Json.fieldOr "event_code" "event" r.fields = .ofOption .int (some r.event) :=
    r.fieldOr_fields _ (by simp [fields, Json.ofOption])
  have device : Table.get? "device_id" r.fields = some (.int r.device) :=
    r.get?_fields (by simp [fields])
  have latitude : Table.get? "latitude" r.fields = some (.ofOption .float r.latitude) :=
    r.get?_fields (by simp [fields])
  have longitude : Table.get? "longitude" r.fields = some (.ofOption .float r.longitude) :=
    r.get?_fields (by simp [fields])
  have level : Table.get? "fuel_level" r.fields = some (.ofOption .float r.level) :=
    r.get?_fields (by simp [fields])
  have id : Table.get? "id" r.fields = some (.ofOption .int r.id) :=
    r.get?_fields (by simp [fields])
  have first : requiredInt "device_id" (.int r.device) = .ok r.device := rfl
  rw [toJson, ofJson, ofFields]
  simp only [device, time, payload, latitude, longitude, sensor, analog, event, level, id,
    Option.getD_some, first, timeField_text, payloadField_ofOption, intField_ofOption,
    floatField_ofOption]
  change Except.ok { r with time := some t } = _
  rw [← timed]

/-- The first microsecond of the calendar, an empty payload and values that are no numbers. -/
theorem ofJson_toJson_early :
    ∃ r : Reading, r.time = some ⟨1, by decide⟩ ∧ r.payload = some "" ∧ r.event = 0 ∧
      r.analog = some (10 ^ 40) ∧ ofJson r.toJson = .ok r :=
  ⟨{ device := -1
     time := some ⟨1, by decide⟩
     latitude := some Number.nan
     longitude := some (-Number.infinity)
     sensor := none
     payload := some ""
     analog := some (10 ^ 40)
     event := 0
     level := some Number.infinity
     id := none }, rfl, rfl, rfl, rfl, ofJson_toJson rfl⟩

theorem ofJson_toJson_of_untimed {r : Reading} (untimed : r.time = none) :
    ofJson r.toJson = .error .missingTime := by
  have device : Table.get? "device_id" r.fields = some (.int r.device) :=
    r.get?_fields (by simp [fields])
  have time : Json.fieldOr "device_time" "time" r.fields = .null :=
    r.fieldOr_fields _ (by simp [fields, untimed, Json.ofOption])
  rw [toJson, ofJson, ofFields]
  simp only [device, time, Option.getD_some]
  rfl

end FuelTelemetry.Reading

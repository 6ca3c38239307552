import FuelTelemetry.Proofs.Json.Unwritable
import FuelTelemetry.Reading.Decode

/-!
Offending fields of an upload. Every field has values that it can be read from, and some fields must
be there. Reading checks the fields in one order and ends at the first that offends.
-/

namespace FuelTelemetry

inductive FieldKind where
  | whole (required : Bool)
  | number
  | time
  | payload
deriving DecidableEq

structure UploadField where
  name : String
  other : Option String
  kind : FieldKind
deriving DecidableEq

inductive Json.Blank : Json → Prop where
  | null : Blank .null
  | empty : Blank (.text "")

namespace FieldKind

def Required : FieldKind → Prop
  | whole required => required = true
  | number | payload => False
  | time => True

inductive Reads : FieldKind → Json → Prop where
  | int (required : Bool) (n : Int) : Reads (whole required) (.int n)
  | truncated {required : Bool} {x : Float} {d : Number.FiniteDouble}
      (finite : Number.Binary64.ofFloat x = .finite d) : Reads (whole required) (.float x)
  | digits {required : Bool} {s : String} {n : Int} (spelled : Number.int? s.toList = some n) :
      Reads (whole required) (.text s)
  | double (x : Float) : Reads number (.float x)
  | rounded {n : Int} {x : Float} (near : Number.ofInt? n = some x) : Reads number (.int n)
  | decimal {s : String} {x : Float} (spelled : Number.float? s.toList = some x) :
      Reads number (.text s)
  | stamp {value : Json} {t : Time.Instant} (read : Timestamp.ofJson value = .ok t) :
      Reads time value
  | text (s : String) : Reads payload (.text s)

/-- A value offends if it is absent where it must not be, or present and unreadable. -/
def Offends (kind : FieldKind) (value : Json) : Prop :=
  (kind.Required ∧ value.Blank) ∨ (¬ value.Blank ∧ ¬ kind.Reads value)

def check (name : String) (kind : FieldKind) (value : Json) : Except Fault Unit :=
  match kind with
  | whole true => (fun _ => ()) <$> Reading.requiredInt name value
  | whole false => (fun _ => ()) <$> Reading.intField name value
  | number => (fun _ => ()) <$> Reading.floatField name value
  | time => (fun _ => ()) <$> Reading.timeField value
  | payload => (fun _ => ()) <$> Reading.payloadField value

end FieldKind

namespace UploadField

def given (f : UploadField) (fields : List (String × Json)) : Json :=
  match f.other with
  | some other => Json.fieldOr f.name other fields
  | none => (Table.get? f.name fields).getD .null

def checkingOrder : List UploadField :=
  [⟨"device_id", none, .whole true⟩,
   ⟨"device_time", some "time", .time⟩,
   ⟨"sensor_data", some "sensorData", .payload⟩,
   ⟨"latitude", none, .number⟩,
   ⟨"longitude", none, .number⟩,
   ⟨"sensor_id", some "sensorId", .whole false⟩,
   ⟨"analog_value", some "adc1", .whole false⟩,
   ⟨"event_code", some "event", .whole false⟩,
   ⟨"fuel_level", none, .number⟩,
   ⟨"id", none, .whole false⟩]

def Offends (f : UploadField) (fields : List (String × Json)) : Prop :=
  f.kind.Offends (f.given fields)

def check (f : UploadField) (fields : List (String × Json)) : Except Fault Unit :=
  f.kind.check f.name (f.given fields)

end UploadField

def Fault.Shows (fault : Fault) (name : String) (value : Json) : Prop :=
  ∃ message written, value.display = .ok written ∧
    fault.report? = some (.rejectedReading message (some name) (some written))

namespace Reading

variable {α : Type} {value : Json} {found : String → Fault} {fault : Fault}

theorem reject_error (h : (reject value found : Except Fault α) = .error fault) :
    (∃ written, value.display = .ok written ∧ fault = found written) ∨
      (fault = .tooManyDigits ∧ value.Unwritable) := by
  unfold reject at h
  rcases value.display_cases with ⟨written, shown, -⟩ | ⟨untold, unwritable⟩
  · rw [shown] at h
    exact .inl ⟨written, shown, (Except.error.inj h).symm⟩
  · rw [untold] at h
    exact .inr ⟨(Except.error.inj h).symm, unwritable⟩

theorem reject_of_unwritable (h : value.Unwritable) (found : String → Fault) :
    (reject value found : Except Fault α) = .error .tooManyDigits := by
  rcases value.display_cases with ⟨written, -, writable⟩ | ⟨untold, -⟩
  · exact absurd h writable
  · rw [reject, untold]
    rfl

theorem exists_reject {name : String} (value : Json) (found : String → Fault)
    (report : ∀ written, ∃ message,
      (found written).report? = some (.rejectedReading message (some name) (some written))) :
    ∃ fault, (reject value found : Except Fault α) = .error fault ∧
      (fault.name = "SensorDataParseError" → fault.Shows name value) := by
  rcases value.display_cases with ⟨written, shown, -⟩ | ⟨untold, -⟩
  · obtain ⟨message, report⟩ := report written
    exact ⟨found written, by rw [reject, shown]; rfl, fun _ => ⟨message, written, shown, report⟩⟩
  · exact ⟨.tooManyDigits, by rw [reject, untold]; rfl, fun named => absurd named (by decide)⟩

end Reading

namespace FieldKind

/-- What a check of a value makes of it. A fault of an offending value reports its field, and its text
unless it is absent, or is none of a rejected reading. -/
inductive Checked (name : String) (kind : FieldKind) (value : Json) : Except Fault Unit → Prop where
  | absent (blank : value.Blank) (optional : ¬ kind.Required) : Checked name kind value (.ok ())
  | read (present : ¬ value.Blank) (reads : kind.Reads value) : Checked name kind value (.ok ())
  | missing {fault : Fault} {message : String} (required : kind.Required) (blank : value.Blank)
      (report : fault.report? = some (.rejectedReading message (some name) none)) :
      Checked name kind value (.error fault)
  | unreadable {fault : Fault} (present : ¬ value.Blank) (unread : ¬ kind.Reads value)
      (report : fault.name = "SensorDataParseError" → fault.Shows name value) :
      Checked name kind value (.error fault)

variable {name : String} {kind : FieldKind} {value : Json} {fault : Fault}

theorem blank_text_iff {s : String} : (Json.text s).Blank ↔ s = "" := by
  constructor
  · rintro ⟨⟩
    rfl
  · rintro rfl
    exact .empty

theorem checked_whole_read {required : Bool} {n : Int}
    (read : Reading.intField name value = .ok (some n)) (present : ¬ value.Blank)
    (reads : (whole required).Reads value) :
    Checked name (whole required) value (check name (whole required) value) := by
  have passed : check name (whole required) value = .ok () := by
    cases required <;> simp only [check, Reading.requiredInt, read] <;> rfl
  rw [passed]
  exact .read present reads

theorem checked_whole_blank {required : Bool} (read : Reading.intField name value = .ok none)
    (blank : value.Blank) :
    Checked name (whole required) value (check name (whole required) value) := by
  cases required with
  | false =>
    have passed : check name (whole false) value = .ok () := by
      simp only [check, read]
      rfl
    rw [passed]
    exact .absent blank nofun
  | true =>
    have refused : check name (whole true) value = .error (.missingField name) := by
      simp only [check, Reading.requiredInt, read]
      rfl
    rw [refused]
    exact .missing rfl blank rfl

theorem checked_whole_unread {required : Bool}
    (read : Reading.intField name value = .error fault) (present : ¬ value.Blank)
    (unread : ¬ (whole required).Reads value)
    (report : fault.name = "SensorDataParseError" → fault.Shows name value) :
    Checked name (whole required) value (check name (whole required) value) := by
  have refused : check name (whole required) value = .error fault := by
    cases required <;> simp only [check, Reading.requiredInt, read] <;> rfl
  rw [refused]
  exact .unreadable present unread report

theorem checked_whole_reject {required : Bool}
    (read : Reading.intField name value = Reading.reject value (.notInteger name))
    (present : ¬ value.Blank) (unread : ¬ (whole required).Reads value) :
    Checked name (whole required) value (check name (whole required) value) := by
  obtain ⟨fault, refused, report⟩ :=
    Reading.exists_reject (α := Option Int) value (.notInteger name) fun written => ⟨_, rfl⟩
  exact checked_whole_unread (read.trans refused) present unread report

theorem checked_whole (name : String) (required : Bool) (value : Json) :
    Checked name (whole required) value (check name (whole required) value) := by
  cases value with
  | null => exact checked_whole_blank rfl .null
  | int n => exact checked_whole_read rfl nofun (.int required n)
  | float x =>
    cases unpacked : Number.Binary64.ofFloat x with
    | finite d =>
      exact checked_whole_read (by simp only [Reading.intField, Reading.wholeOf, unpacked]; rfl)
        nofun (.truncated unpacked)
    | infinite negative =>
      have read : Reading.intField name (.float x) = .error .infiniteInteger := by
        simp only [Reading.intField, Reading.wholeOf, unpacked]
        rfl
      refine checked_whole_unread read nofun ?_ fun named => absurd named (by decide)
      rintro ⟨⟩
      simp_all
    | notANumber =>
      have read : Reading.intField name (.float x) =
          Reading.reject (.float x) (.notInteger name) := by
        simp only [Reading.intField, Reading.wholeOf, unpacked]
        rfl
      refine checked_whole_reject read nofun ?_
      rintro ⟨⟩
      simp_all
  | text s =>
    by_cases empty : s = ""
    · subst empty
      exact checked_whole_blank rfl .empty
    · have present : ¬ (Json.text s).Blank := fun blank => empty (blank_text_iff.1 blank)
      cases spelled : Number.int? s.toList with
      | some n =>
        exact checked_whole_read (n := n) (by simp [Reading.intField, empty, spelled]) present
          (.digits spelled)
      | none =>
        have read : Reading.intField name (.text s) = .error (.notInteger name s) := by
          simp [Reading.intField, empty, spelled]
        refine checked_whole_unread read present ?_ fun _ => ⟨_, s, rfl, rfl⟩
        rintro ⟨⟩
        simp_all
  | bool _ | list _ | object _ => exact checked_whole_reject rfl nofun nofun

theorem checked_reject {found : String → Fault} {α : Type} (present : ¬ value.Blank)
    (unread : ¬ kind.Reads value)
    (report : ∀ written, ∃ message,
      (found written).report? = some (.rejectedReading message (some name) (some written))) :
    Checked name kind value ((fun _ => ()) <$> (Reading.reject value found : Except Fault α)) := by
  obtain ⟨fault, refused, report⟩ := Reading.exists_reject (α := α) value found report
  rw [refused]
  exact .unreadable present unread report

theorem checked_number (name : String) (value : Json) :
    Checked name number value (check name number value) := by
  unfold check Reading.floatField
  cases value with
  | null => exact .absent .null nofun
  | float x => exact .read nofun (.double x)
  | int n =>
    cases near : Number.ofInt? n with
    | some x =>
      simp only [near]
      exact .read nofun (.rounded near)
    | none =>
      simp only [near]
      refine .unreadable nofun ?_ fun named => absurd named (by decide)
      rintro ⟨⟩
      simp_all
  | text s =>
    by_cases empty : s = ""
    · subst empty
      exact .absent .empty nofun
    · have present : ¬ (Json.text s).Blank := fun blank => empty (blank_text_iff.1 blank)
      cases spelled : Number.float? s.toList with
      | some x =>
        simp only [beq_iff_eq, empty, if_false, spelled]
        exact .read present (.decimal spelled)
      | none =>
        simp only [beq_iff_eq, empty, if_false, spelled]
        refine .unreadable present ?_ fun _ => ⟨_, s, rfl, rfl⟩
        rintro ⟨⟩
        simp_all
  | bool _ | list _ | object _ => exact checked_reject nofun nofun fun written => ⟨_, rfl⟩

theorem checked_time (value : Json) :
    Checked "device_time" time value (check "device_time" time value) := by
  change Checked "device_time" time value ((fun _ => ()) <$> Reading.timeField value)
  unfold Reading.timeField
  split
  · exact .missing (show time.Required from trivial) .null rfl
  · exact .missing (show time.Required from trivial) .empty rfl
  · rename_i notNull notEmpty
    have present : ¬ value.Blank := by
      rintro ⟨⟩
      · exact notNull rfl
      · exact notEmpty rfl
    split
    · rename_i t read
      exact .read present (.stamp read)
    · refine .unreadable present ?_ fun named => absurd named (by decide)
      rintro ⟨⟩
      simp_all
    · refine checked_reject present ?_ fun written => ⟨_, rfl⟩
      rintro ⟨⟩
      simp_all

theorem checked_payload (value : Json) :
    Checked "sensor_data" payload value (check "sensor_data" payload value) := by
  unfold check
  cases value with
  | null => exact .absent .null nofun
  | text s =>
    by_cases empty : s = ""
    · subst empty
      exact .absent .empty nofun
    · exact .read (fun blank => empty (blank_text_iff.1 blank)) (.text s)
  | bool _ | int _ | float _ | list _ | object _ =>
    exact checked_reject nofun nofun fun written => ⟨_, rfl⟩

end FieldKind

namespace UploadField

variable {fields : List (String × Json)} {f : UploadField} {fault : Fault}

def FirstOffending (f : UploadField) (fields : List (String × Json)) : Prop :=
  ∃ before after, checkingOrder = before ++ f :: after ∧
    (∀ g ∈ before, ¬ g.Offends fields) ∧ f.Offends fields

theorem FirstOffending.listed (h : f.FirstOffending fields) : f ∈ checkingOrder := by
  obtain ⟨before, after, order, -, -⟩ := h
  simp [order]

theorem checked (listed : f ∈ checkingOrder) (fields : List (String × Json)) :
    f.kind.Checked f.name (f.given fields) (f.check fields) := by
  simp only [checkingOrder, List.mem_cons, List.not_mem_nil, or_false] at listed
  rcases listed with rfl | rfl | rfl | rfl | rfl | rfl | rfl | rfl | rfl | rfl
  · exact FieldKind.checked_whole _ _ _
  · exact FieldKind.checked_time _
  · exact FieldKind.checked_payload _
  · exact FieldKind.checked_number _ _
  · exact FieldKind.checked_number _ _
  · exact FieldKind.checked_whole _ _ _
  · exact FieldKind.checked_whole _ _ _
  · exact FieldKind.checked_whole _ _ _
  · exact FieldKind.checked_number _ _
  · exact FieldKind.checked_whole _ _ _

end UploadField

namespace UploadField

variable {fields : List (String × Json)} {f : UploadField}

end UploadField

namespace Reading

end Reading

end FuelTelemetry

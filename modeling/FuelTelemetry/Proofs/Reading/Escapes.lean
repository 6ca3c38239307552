import FuelTelemetry.Proofs.Number.Overflow
import FuelTelemetry.Proofs.Reading.Offending

/-!
Escapes from the reading of an upload. A field that offends is refused with a rejected reading,
unless the conversion of its value fails in a way that the check of the field does not expect: an
infinite number where an integer is due, an integer too large for a double where a number is due, and
a time in a year that the clock cannot count. A refusal may also fail by itself, where the value has
no text that it could show. No other value of any type escapes.
-/

namespace FuelTelemetry

open Number (Binary64 FiniteDouble)

namespace Time

def BeyondYears (seconds : FiniteDouble) : Prop :=
  let whole := (splitSeconds seconds).1
  (-clockLimit ≤ whole ∧ whole ≤ clockLimit) ∧
    (whole < yearStart (1900 - yearLimit) ∨ yearStart (1900 + yearLimit) ≤ whole)

theorem ofEpochSeconds_beyondYears_iff (seconds : FiniteDouble) :
    ofEpochSeconds seconds = .error .beyondYears ↔ BeyondYears seconds := by
  unfold ofEpochSeconds BeyondYears
  generalize splitSeconds seconds = parts
  by_cases off : parts.1 < -clockLimit ∨ clockLimit < parts.1
  · refine iff_of_false ?_ (by omega)
    simp only [off, if_true]
    rintro ⟨⟩
  · have on : -clockLimit ≤ parts.1 ∧ parts.1 ≤ clockLimit := by omega
    by_cases beyond : parts.1 < yearStart (1900 - yearLimit) ∨ yearStart (1900 + yearLimit) ≤ parts.1
    · refine iff_of_true ?_ ⟨on, beyond⟩
      simp only [off, beyond, if_true, if_false]
      rfl
    · refine iff_of_false ?_ fun h => beyond h.2
      simp only [off, beyond, if_false]
      cases Instant.ofMicros? ((parts.1 + epochDay * 86400) * second + parts.2) <;> rintro ⟨⟩

end Time

namespace Timestamp

open Time (BeyondYears EpochFault)

inductive Counts : Json → FiniteDouble → Prop where
  | whole {millis : Int} {seconds : FiniteDouble}
      (rounded : Number.nearestFinite? (millis < 0) millis.natAbs 1000 = some seconds) :
      Counts (.int millis) seconds
  | double {millis : Float} {seconds : FiniteDouble}
      (finite : Binary64.ofFloat (millis / 1000.0) = .finite seconds) :
      Counts (.float millis) seconds
  | digits {text : String} {millis : Int} {seconds : FiniteDouble}
      (digits : Text.trim text.toList ≠ [] ∧ (Text.trim text.toList).all Text.isDigit = true)
      (spelled : Number.int? (Text.trim text.toList) = some millis)
      (rounded : Number.nearestFinite? (millis < 0) millis.natAbs 1000 = some seconds) :
      Counts (.text text) seconds

theorem ofEpoch_beyondYears_iff (read : Except EpochFault Time.Instant) :
    ofEpoch read = .error .timestampBeyondYears ↔ read = .error .beyondYears := by
  rcases read with (_ | _ | _ | _) | t <;> simp [ofEpoch]

theorem ofMillis_beyondYears_iff (millis : Int) :
    ofEpoch (Time.ofEpochMillis millis) = .error .timestampBeyondYears ↔
      ∃ seconds, Number.nearestFinite? (millis < 0) millis.natAbs 1000 = some seconds ∧
        BeyondYears seconds := by
  rw [ofEpoch_beyondYears_iff]
  unfold Time.ofEpochMillis
  cases Number.nearestFinite? (millis < 0) millis.natAbs 1000 with
  | none => exact iff_of_false nofun (by simp)
  | some seconds => simp [Time.ofEpochSeconds_beyondYears_iff]

theorem ofDouble_beyondYears_iff (millis : Float) :
    ofEpoch (Time.ofEpochFloat millis) = .error .timestampBeyondYears ↔
      ∃ seconds, Binary64.ofFloat (millis / 1000.0) = .finite seconds ∧ BeyondYears seconds := by
  rw [ofEpoch_beyondYears_iff]
  unfold Time.ofEpochFloat
  cases Binary64.ofFloat (millis / 1000.0) with
  | finite seconds => simp [Time.ofEpochSeconds_beyondYears_iff]
  | infinite negative => exact iff_of_false nofun (by simp)
  | notANumber => exact iff_of_false nofun (by simp)

theorem ofText_beyondYears_iff (text : List Char) :
    ofText text = .error .timestampBeyondYears ↔
      (Text.trim text ≠ [] ∧ (Text.trim text).all Text.isDigit = true) ∧
        ∃ millis seconds, Number.int? (Text.trim text) = some millis ∧
          Number.nearestFinite? (millis < 0) millis.natAbs 1000 = some seconds ∧
            BeyondYears seconds := by
  unfold ofText
  dsimp only
  by_cases digits : Text.trim text ≠ [] ∧ (Text.trim text).all Text.isDigit = true
  · rw [if_pos (by simpa using digits)]
    cases Number.int? (Text.trim text) with
    | none => exact iff_of_false nofun (by simp)
    | some millis => simp [ofMillis_beyondYears_iff, digits]
  · rw [if_neg (by simpa using digits)]
    refine iff_of_false ?_ fun h => digits h.1
    split
    · unfold ofStamp
      split <;> nofun
    · nofun

theorem ofJson_of_overlong {n : Int} (long : Text.Overlong n) :
    ofJson (.int n) = .error .timestampBeyondClock := by
  have bits : Nat.log2 1000 + 1026 ≤ n.natAbs.log2 := long.le_log2 (by decide)
  have refused : Number.nearestFinite? (n < 0) n.natAbs 1000 = none :=
    Option.map_eq_none_iff.2
      (Number.nearest?_eq_none_of_large (by decide) long.natAbs_ne_zero bits)
  have unread : Time.ofEpochMillis n = .error .beyondClock := by
    unfold Time.ofEpochMillis
    rw [refused]
    rfl
  simp only [ofJson, unread, ofEpoch]

theorem ofJson_beyondYears_iff (value : Json) :
    ofJson value = .error .timestampBeyondYears ↔
      ∃ seconds, Counts value seconds ∧ BeyondYears seconds := by
  cases value with
  | int millis =>
    refine (ofMillis_beyondYears_iff millis).trans (exists_congr fun seconds => ?_)
    exact and_congr_left fun _ => ⟨.whole, fun | .whole rounded => rounded⟩
  | float millis =>
    refine (ofDouble_beyondYears_iff millis).trans (exists_congr fun seconds => ?_)
    exact and_congr_left fun _ => ⟨.double, fun | .double finite => finite⟩
  | text text =>
    refine (ofText_beyondYears_iff text.toList).trans ⟨?_, ?_⟩
    · rintro ⟨digits, millis, seconds, spelled, rounded, beyond⟩
      exact ⟨seconds, .digits digits spelled rounded, beyond⟩
    · rintro ⟨seconds, counts, beyond⟩
      cases counts with
      | digits digits spelled rounded => exact ⟨digits, _, seconds, spelled, rounded, beyond⟩
  | null | bool _ | list _ | object _ =>
    refine iff_of_false (fun h => ?_) nofun
    simp only [ofJson] at h
    split at h <;> cases h

end Timestamp

namespace FieldKind

/-- The values of a field whose conversion fails in a way that its check does not expect. -/
inductive Escapes : FieldKind → Json → Fault → Prop where
  | infinite (required : Bool) {x : Float} {negative : Bool}
      (infinite : Binary64.ofFloat x = .infinite negative) :
      Escapes (whole required) (.float x) .infiniteInteger
  | tooLarge {n : Int} (large : Number.overflow ≤ n.natAbs) :
      Escapes number (.int n) .tooLargeForDouble
  | beyondYears {value : Json} {seconds : FiniteDouble} (counts : Timestamp.Counts value seconds)
      (beyond : Time.BeyondYears seconds) : Escapes time value .timestampBeyondYears
  | unwritable {kind : FieldKind} {value : Json}
      (nested : (∃ items, value = .list items) ∨ ∃ fields, value = .object fields)
      (holds : value.Unwritable) : Escapes kind value .tooManyDigits
  | overlong {kind : FieldKind} {n : Int} (refusing : kind = time ∨ kind = payload)
      (long : Text.Overlong n) : Escapes kind (.int n) .tooManyDigits

variable {name : String} {kind : FieldKind} {value : Json} {fault : Fault}

theorem reject_escapes {α : Type} {found : String → Fault}
    (h : (Reading.reject value found : Except Fault α) = .error fault)
    (named : ∀ written, (found written).name = "SensorDataParseError")
    (whole : ∀ n, value = .int n → kind = time ∨ kind = payload) :
    fault.name = "SensorDataParseError" ∨ kind.Escapes value fault := by
  rcases Reading.reject_error h with ⟨written, -, rfl⟩ | ⟨rfl, unwritable⟩
  · exact .inl (named written)
  · right
    cases unwritable with
    | int long => exact .overlong (whole _ rfl) long
    | item listed inner => exact .unwritable (.inl ⟨_, rfl⟩) (.item listed inner)
    | field listed inner => exact .unwritable (.inr ⟨_, rfl⟩) (.field listed inner)

theorem intField_error {required : Bool} (h : Reading.intField name value = .error fault) :
    fault.name = "SensorDataParseError" ∨ (FieldKind.whole required).Escapes value fault := by
  cases value with
  | null => cases h
  | int n => cases h
  | float x =>
    unfold Reading.intField Reading.wholeOf at h
    cases unpacked : Binary64.ofFloat x with
    | finite d =>
      simp only [unpacked] at h
      cases h
    | infinite negative =>
      simp only [unpacked] at h
      cases h
      exact .inr (.infinite required unpacked)
    | notANumber =>
      simp only [unpacked] at h
      cases h
      exact .inl rfl
  | text s =>
    unfold Reading.intField at h
    simp only at h
    split at h
    · cases h
    · split at h <;> cases h
      exact .inl rfl
  | bool _ | list _ | object _ => exact reject_escapes h (fun _ => rfl) nofun

/-- A field that must be there is checked like one that need not be, and then for being there. -/
theorem check_whole (name : String) (required : Bool) (value : Json) :
    check name (whole required) value =
      (Reading.intField name value).bind fun
        | some _ => .ok ()
        | none => if required then .error (.missingField name) else .ok () := by
  cases required <;> unfold check
  · cases Reading.intField name value with
    | error fault => rfl
    | ok n => cases n <;> rfl
  · unfold Reading.requiredInt
    cases Reading.intField name value with
    | error fault => rfl
    | ok n => cases n <;> rfl

theorem check_whole_error {required : Bool}
    (h : check name (whole required) value = .error fault) :
    fault.name = "SensorDataParseError" ∨ (whole required).Escapes value fault := by
  rw [check_whole] at h
  rcases Except.bind_error h with unread | ⟨n, -, absent⟩
  · exact intField_error unread
  · cases n with
    | some n => cases absent
    | none =>
      cases required <;> cases absent
      exact .inl rfl

theorem check_number_error (h : check name number value = .error fault) :
    fault.name = "SensorDataParseError" ∨ number.Escapes value fault := by
  unfold check Reading.floatField at h
  cases value with
  | null => cases h
  | float x => cases h
  | int n =>
    cases near : Number.ofInt? n with
    | some x =>
      simp only [near] at h
      cases h
    | none =>
      simp only [near] at h
      cases h
      exact .inr (.tooLarge ((Number.ofInt?_eq_none_iff n).1 near))
  | text s =>
    simp only at h
    split at h
    · cases h
    · split at h <;> cases h
      exact .inl rfl
  | bool _ | list _ | object _ =>
    exact reject_escapes (Except.map_error_iff.1 h) (fun _ => rfl) nofun

theorem check_time_error (h : check name time value = .error fault) :
    fault.name = "SensorDataParseError" ∨ time.Escapes value fault := by
  unfold check Reading.timeField at h
  simp only at h
  split at h
  · cases h
    exact .inl rfl
  · cases h
    exact .inl rfl
  · split at h
    · cases h
    · rename_i read
      cases h
      obtain ⟨seconds, counts, beyond⟩ := (Timestamp.ofJson_beyondYears_iff value).1 read
      exact .inr (.beyondYears counts beyond)
    · exact reject_escapes (Except.map_error_iff.1 h) (fun _ => rfl) fun _ _ => .inl rfl

theorem check_payload_error (h : check name payload value = .error fault) :
    fault.name = "SensorDataParseError" ∨ payload.Escapes value fault := by
  unfold check at h
  cases value with
  | null | text _ => cases h
  | bool _ | int _ | float _ | list _ | object _ =>
    exact reject_escapes (Except.map_error_iff.1 h) (fun _ => rfl) fun _ _ => .inr rfl

theorem check_error (h : check name kind value = .error fault) :
    fault.name = "SensorDataParseError" ∨ kind.Escapes value fault := by
  cases kind with
  | whole required => exact check_whole_error h
  | number => exact check_number_error h
  | time => exact check_time_error h
  | payload => exact check_payload_error h

theorem check_of_nested (nested : (∃ items, value = .list items) ∨ ∃ fields, value = .object fields)
    (holds : value.Unwritable) : check name kind value = .error .tooManyDigits := by
  have refused {α : Type} (found : String → Fault) :
      (Reading.reject value found : Except Fault α) = .error .tooManyDigits :=
    Reading.reject_of_unwritable holds found
  cases kind with
  | whole required =>
    have unread : Reading.intField name value = .error .tooManyDigits := by
      obtain ⟨items, rfl⟩ | ⟨fields, rfl⟩ := nested <;> exact refused _
    rw [check_whole, unread]
    rfl
  | number =>
    refine Except.map_error_iff.2 ?_
    obtain ⟨items, rfl⟩ | ⟨fields, rfl⟩ := nested <;> exact refused _
  | time =>
    have undated : Timestamp.ofJson value = .error .tooManyDigits := by
      have unshown := (Json.shown?_eq_none_iff value).2 holds
      obtain ⟨items, rfl⟩ | ⟨fields, rfl⟩ := nested <;> simp only [Timestamp.ofJson, unshown]
    refine Except.map_error_iff.2 ?_
    unfold Reading.timeField
    obtain ⟨items, rfl⟩ | ⟨fields, rfl⟩ := nested <;> simp only [undated] <;> exact refused _
  | payload =>
    refine Except.map_error_iff.2 ?_
    obtain ⟨items, rfl⟩ | ⟨fields, rfl⟩ := nested <;> exact refused _

theorem Escapes.check (h : kind.Escapes value fault) : check name kind value = .error fault := by
  cases h with
  | @infinite required x negative infinite =>
    have unread : Reading.intField name (.float x) = .error .infiniteInteger := by
      simp only [Reading.intField, Reading.wholeOf, infinite]
      rfl
    rw [check_whole, unread]
    rfl
  | @tooLarge n large =>
    have unread : Reading.floatField name (.int n) = .error .tooLargeForDouble := by
      unfold Reading.floatField
      simp only [(Number.ofInt?_eq_none_iff n).2 large]
    unfold FieldKind.check
    simp only [unread]
    rfl
  | @beyondYears value seconds counts beyond =>
    have read := (Timestamp.ofJson_beyondYears_iff value).2 ⟨seconds, counts, beyond⟩
    unfold FieldKind.check Reading.timeField
    simp only
    split
    · cases counts
    · cases counts with
      | digits digits _ _ => exact absurd (by decide) digits.1
    · rw [read]
      rfl
  | unwritable nested holds => exact check_of_nested nested holds
  | @overlong kind n refusing long =>
    obtain rfl | rfl := refusing
    · have unread : Reading.timeField (.int n) = .error .tooManyDigits := by
        simp only [Reading.timeField, Timestamp.ofJson_of_overlong long]
        exact Reading.reject_of_unwritable (.int long) _
      exact Except.map_error_iff.2 unread
    · exact Except.map_error_iff.2 (Reading.reject_of_unwritable (.int long) _)

end FieldKind

def Json.Escapes (value : Json) (fault : Fault) : Prop :=
  ∃ (fields : List (String × Json)) (f : UploadField), value = .object fields ∧
    f.FirstOffending fields ∧ f.kind.Escapes (f.given fields) fault

namespace Reading

end Reading

end FuelTelemetry

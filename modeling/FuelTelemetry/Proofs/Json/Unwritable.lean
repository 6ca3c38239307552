import FuelTelemetry.Fault
import FuelTelemetry.Proofs.Text.Digits

/-!
Values without a text. An integer of too many digits has none, nor has a list or an object that
holds such an integer at any depth; all other values have one.
-/

namespace FuelTelemetry

namespace Json

inductive Unwritable : Json → Prop where
  | int {n : Int} (long : Text.Overlong n) : Unwritable (.int n)
  | item {items : List Json} {value : Json} (listed : value ∈ items) (h : Unwritable value) :
      Unwritable (.list items)
  | field {fields : List (String × Json)} {name : String} {value : Json}
      (listed : (name, value) ∈ fields) (h : Unwritable value) : Unwritable (.object fields)

theorem unwritable_int_iff {n : Int} : (int n).Unwritable ↔ Text.Overlong n :=
  ⟨fun | .int long => long, .int⟩

theorem unwritable_list_iff {items : List Json} :
    (list items).Unwritable ↔ ∃ value ∈ items, value.Unwritable :=
  ⟨fun | .item listed h => ⟨_, listed, h⟩, fun ⟨_, listed, h⟩ => .item listed h⟩

theorem unwritable_object_iff {fields : List (String × Json)} :
    (object fields).Unwritable ↔ ∃ field ∈ fields, field.2.Unwritable :=
  ⟨fun | .field listed h => ⟨_, listed, h⟩, fun ⟨_, listed, h⟩ => .field listed h⟩

mutual

theorem shown?_eq_none_iff : ∀ value : Json, value.shown? = none ↔ value.Unwritable
  | null | bool true | bool false | float _ | text _ => iff_of_false nofun nofun
  | int n => (Text.integer?_eq_none_iff n).trans unwritable_int_iff.symm
  | list items => by
    rw [shown?, Option.map_eq_none_iff, shownItems?_eq_none_iff, unwritable_list_iff]
  | object fields => by
    rw [shown?, Option.map_eq_none_iff, shownFields?_eq_none_iff, unwritable_object_iff]

theorem shownItems?_eq_none_iff :
    ∀ items : List Json, shownItems? items = none ↔ ∃ value ∈ items, value.Unwritable
  | [] => iff_of_false nofun nofun
  | item :: rest => by
    simp only [List.mem_cons, exists_eq_or_imp]
    rw [← shown?_eq_none_iff item, ← shownItems?_eq_none_iff rest, shownItems?]
    cases item.shown? <;> cases shownItems? rest <;> simp

theorem shownFields?_eq_none_iff : ∀ fields : List (String × Json),
    shownFields? fields = none ↔ ∃ field ∈ fields, field.2.Unwritable
  | [] => iff_of_false nofun nofun
  | (name, value) :: rest => by
    simp only [List.mem_cons, exists_eq_or_imp]
    rw [← shown?_eq_none_iff value, ← shownFields?_eq_none_iff rest, shownFields?]
    cases value.shown? <;> cases shownFields? rest <;> simp

end

theorem display?_eq_none_iff (value : Json) : value.display? = none ↔ value.Unwritable := by
  rw [← shown?_eq_none_iff]
  cases value with
  | null | float _ | text _ => exact iff_of_false nofun nofun
  | bool _ | int _ | list _ | object _ => exact Option.map_eq_none_iff

/-- A value is shown by a text, or has none for the one reason there is. -/
theorem display_cases (value : Json) :
    (∃ written, value.display = .ok written ∧ ¬ value.Unwritable) ∨
      (value.display = .error .tooManyDigits ∧ value.Unwritable) := by
  rw [← display?_eq_none_iff, display]
  cases value.display? <;> simp

end Json

theorem ErrorReport.text?_isSome {e : ErrorReport}
    (writable : ∀ field ∈ e.details, ¬ field.2.Unwritable) : e.text?.isSome := by
  unfold text?
  split
  · rfl
  · rw [Option.isSome_map, ← Option.ne_none_iff_isSome, Ne, Json.display?_eq_none_iff,
      Json.unwritable_object_iff]
    rintro ⟨field, listed, h⟩
    exact writable field listed h

namespace Fault

theorem naming_of_overlong {n : Int} (long : Text.Overlong n) (f : Fault) :
    naming n f = .tooManyDigits := by
  rw [naming, (Text.integer?_eq_none_iff n).2 long]
  rfl

theorem naming_of_short {n : Int} (short : ¬ Text.Overlong n) (f : Fault) : naming n f = f := by
  rw [← Text.integer?_eq_none_iff, ← ne_eq, Option.ne_none_iff_isSome] at short
  exact if_pos short

end Fault

end FuelTelemetry

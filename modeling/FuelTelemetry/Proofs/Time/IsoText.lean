import FuelTelemetry.Proofs.Text.Digits
import FuelTelemetry.Text.Blank
import FuelTelemetry.Time.Stamp

/-!
The characters of a stamp: digits and the marks between them. What holds of these holds all through
the stamp, so that none of its characters is blank or the `Z` of UTC. The hyphens of the date tell
a stamp from a number.
-/

namespace FuelTelemetry.Time

open FuelTelemetry.Text

variable {p : Char → Prop}

theorem forall_mem_padded (digits : ∀ d < 10, p d.digitChar) (width n : Nat) :
    ∀ c ∈ padded width n, p c :=
  fun _ hc => (writesDecimal_of_mem_padded hc).elim digits

theorem forall_mem_fractionText (digits : ∀ d < 10, p d.digitChar) (point : p '.') (micros : Nat) :
    ∀ c ∈ fractionText micros, p c := by
  unfold fractionText
  split
  · exact List.forall_mem_nil _
  · exact List.forall_mem_cons.2 ⟨point, forall_mem_padded digits 6 micros⟩

theorem forall_mem_clockText (digits : ∀ d < 10, p d.digitChar) (colon : p ':') (point : p '.')
    (micros : Nat) : ∀ c ∈ clockText micros, p c := by
  have field := forall_mem_padded digits 2
  unfold clockText
  simp only [List.forall_mem_append, List.forall_mem_cons, colon, true_and]
  exact ⟨⟨⟨field _, field _⟩, field _⟩, forall_mem_fractionText digits point _⟩

theorem forall_mem_dateText (digits : ∀ d < 10, p d.digitChar) (hyphen : p '-') (date : CivilDate) :
    ∀ c ∈ dateText date, p c := by
  have field := forall_mem_padded digits
  unfold dateText
  simp only [List.forall_mem_append, List.forall_mem_cons, hyphen, true_and]
  exact ⟨⟨field 4 _, field 2 _⟩, field 2 _⟩

theorem forall_mem_offsetText (digits : ∀ d < 10, p d.digitChar) (signs : p '+' ∧ p '-')
    (colon : p ':') (point : p '.') (offset : Int) : ∀ c ∈ offsetText offset, p c := by
  have field := forall_mem_padded digits 2
  have sign : p (if offset < 0 then '-' else '+') := by
    split
    · exact signs.2
    · exact signs.1
  have tail : ∀ c ∈ (if offset.natAbs % minute == 0 then []
      else ':' :: padded 2 (offset.natAbs / second % 60) ++ fractionText (offset.natAbs % second)),
      p c := by
    split
    · exact List.forall_mem_nil _
    · simp only [List.forall_mem_append, List.forall_mem_cons, colon, true_and]
      exact ⟨field _, forall_mem_fractionText digits point _⟩
  unfold offsetText
  simp only [List.forall_mem_append, List.forall_mem_cons, sign, colon, true_and]
  exact ⟨⟨field _, field _⟩, tail⟩

namespace Stamp

theorem forall_mem_iso (digits : ∀ d < 10, p d.digitChar)
    (marks : p '-' ∧ p 'T' ∧ p ':' ∧ p '.' ∧ p '+') (s : Stamp) : ∀ c ∈ s.iso, p c := by
  obtain ⟨hyphen, letter, colon, point, plus⟩ := marks
  unfold iso Instant.iso
  simp only [List.forall_mem_append, List.forall_mem_cons, letter, true_and]
  refine ⟨⟨forall_mem_dateText digits hyphen _, forall_mem_clockText digits colon point _⟩, ?_⟩
  cases s.offset with
  | none => exact List.forall_mem_nil _
  | some offset => exact forall_mem_offsetText digits ⟨plus, hyphen⟩ colon point offset

theorem not_isBlank_of_mem_iso (s : Stamp) : ∀ c ∈ s.iso, isBlank c = false :=
  s.forall_mem_iso (by decide) (by decide)

theorem zulu_not_mem_iso (s : Stamp) : 'Z' ∉ s.iso := fun h =>
  s.forall_mem_iso (p := (· ≠ 'Z')) (by decide) (by decide) 'Z' h rfl

theorem hyphen_mem_iso (s : Stamp) : '-' ∈ s.iso := by
  simp [iso, Instant.iso, dateText]

end Stamp

end FuelTelemetry.Time

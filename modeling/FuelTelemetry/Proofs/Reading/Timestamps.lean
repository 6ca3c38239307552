import FuelTelemetry.Proofs.Number.Numerals
import FuelTelemetry.Proofs.Time.EpochMillis
import FuelTelemetry.Proofs.Time.IsoReading
import FuelTelemetry.Reading.Timestamp

/-!
One instant under all its spellings. Milliseconds are exact near 1970, and an ISO text is read back as
it was written, so that the numbers, the texts in UTC and the texts with an offset meet in the instant
that they stand for. Only an offset of less than a second is lost: it is read as none, and the text
stands for the civil time that it shows.
-/

namespace FuelTelemetry.Timestamp

open Text Time

variable {before after : List Char}

theorem spellZulu_of_not_mem {text : List Char} (h : 'Z' ∉ text) : spellZulu text = text := by
  rw [spellZulu, if_neg]
  rw [beq_iff_eq]
  exact fun last => h (List.mem_of_getLast? last)

theorem spellZulu_append (text : List Char) :
    spellZulu (text ++ ['Z']) = text ++ "+00:00".toList := by
  simp [spellZulu]

theorem ofText_decimal {n : Nat} (few : (decimal n).length ≤ Text.digitLimit)
    (front : AllBlank before) (back : AllBlank after) :
    ofText (before ++ (decimal n ++ after)) = ofEpoch (ofEpochMillis n) := by
  have digits : ∀ c ∈ decimal n, isDigit c = true := fun c hc =>
    (writesDecimal_of_mem_decimal hc).elim (by decide)
  have solid : ∀ c ∈ decimal n, isBlank c = false := fun c hc =>
    (writesDecimal_of_mem_decimal hc).elim (by decide)
  have number : (!(decimal n).isEmpty && (decimal n).all isDigit) = true := by
    rw [Bool.and_eq_true, List.all_eq_true]
    exact ⟨by simpa using decimal_ne_nil n, digits⟩
  rw [ofText, trim_append front back solid]
  rw [if_pos number, Number.int?_decimal few]

theorem ofText_of_hyphen {text : List Char} {s : Stamp} (solid : ∀ c ∈ text, isBlank c = false)
    (hyphen : '-' ∈ text) (read : Stamp.ofIso? (spellZulu text) = some s)
    (front : AllBlank before) (back : AllBlank after) :
    ofText (before ++ (text ++ after)) = ofStamp s := by
  have not_number : ¬ (!text.isEmpty && text.all isDigit) = true := by
    rw [Bool.and_eq_true, List.all_eq_true]
    rintro ⟨-, digits⟩
    exact absurd (digits '-' hyphen) (by decide)
  rw [ofText, trim_append front back solid]
  rw [if_neg not_number, read]

theorem ofText_iso {s : Stamp} (short : ∀ offset ∈ s.offset, offset.natAbs < day)
    (front : AllBlank before) (back : AllBlank after) :
    ofText (before ++ (s.iso ++ after)) = ofStamp ⟨s.wall, s.offset.map Iso.counted⟩ := by
  refine ofText_of_hyphen s.not_isBlank_of_mem_iso s.hyphen_mem_iso ?_ front back
  rw [spellZulu_of_not_mem s.zulu_not_mem_iso]
  exact Stamp.ofIso?_iso short

theorem ofStamp_of_utc? {s : Stamp} {t : Instant} (h : s.utc? = some t) : ofStamp s = .ok t := by
  rw [ofStamp, h]

theorem ofText_instant (t : Instant) (front : AllBlank before) (back : AllBlank after) :
    ofText (before ++ (t.iso ++ after)) = .ok t := by
  have read := ofText_iso (s := Stamp.ofInstant t) nofun front back
  rw [Stamp.iso, Stamp.ofInstant, Option.map_none, Option.getD_none, List.append_nil] at read
  rw [read]
  exact ofStamp_of_utc? rfl

theorem ofText_shifted {t wall : Instant} {offset : Int} (shifted : t.shift? offset = some wall)
    (short : offset.natAbs < day) (counts : Iso.counted offset = offset)
    (front : AllBlank before) (back : AllBlank after) :
    ofText (before ++ (wall.iso ++ offsetText offset ++ after)) = .ok t := by
  have read := ofText_iso (s := ⟨wall, some offset⟩) (by simpa using short) front back
  rw [Stamp.iso, Option.map_some, Option.map_some, Option.getD_some, counts] at read
  rw [read]
  exact ofStamp_of_utc? (Instant.shift?_neg shifted)

theorem ofText_zulu (t : Instant) (front : AllBlank before) (back : AllBlank after) :
    ofText (before ++ (t.iso ++ ['Z'] ++ after)) = .ok t := by
  have plain : t.iso = (Stamp.ofInstant t).iso := (List.append_nil _).symm
  have solid : ∀ c ∈ t.iso ++ ['Z'], isBlank c = false := by
    rw [List.forall_mem_append, plain]
    exact ⟨Stamp.not_isBlank_of_mem_iso _, List.forall_mem_singleton.2 (by decide)⟩
  have hyphen : '-' ∈ t.iso ++ ['Z'] := by
    rw [plain]
    exact List.mem_append_left _ (Stamp.hyphen_mem_iso _)
  have spelled : spellZulu (t.iso ++ ['Z']) = (Stamp.mk t (some 0)).iso := by
    rw [spellZulu_append, Stamp.iso, Option.map_some, Option.getD_some,
      show offsetText 0 = "+00:00".toList by decide]
  have read := Stamp.ofIso?_iso (s := ⟨t, some 0⟩) fun offset h => by
    obtain rfl := Option.mem_some_iff.1 h
    decide
  rw [← spelled, Option.map_some, show Iso.counted 0 = 0 by decide] at read
  rw [ofText_of_hyphen solid hyphen read front back]
  exact ofStamp_of_utc? (Instant.shift?_neg t.shift?_zero)

/-- The spellings of an instant so many milliseconds after 1970, without blanks around them: digits,
the ISO text, the ISO text with a `Z`, and the ISO text at an offset with the offset. An offset that
is not zero is at least a second. -/
inductive Spells (millis : Int) (t : Instant) : List Char → Prop
  | digits {n : Nat} (same : millis = n) : Spells millis t (decimal n)
  | plain : Spells millis t t.iso
  | zulu : Spells millis t (t.iso ++ ['Z'])
  | shifted {offset : Int} {wall : Instant} (at_offset : t.shift? offset = some wall)
    (short : offset.natAbs < day) (counts : offset = 0 ∨ second ≤ offset.natAbs) :
    Spells millis t (wall.iso ++ offsetText offset)

/-- All spellings of an instant less than `2 ^ 33` seconds from 1970 are read as that instant. -/
theorem ofJson_spellings {millis : Int} (range : millis.natAbs < 2 ^ 33 * 1000) :
    ∃ t, Instant.epoch.shift? (1000 * millis) = some t ∧ ofJson (.int millis) = .ok t ∧
      ∀ before text after, AllBlank before → Spells millis t text → AllBlank after →
        ofJson (.text (String.ofList (before ++ (text ++ after)))) = .ok t := by
  obtain ⟨t, meant⟩ := exists_epoch_shift range
  have exact := ofEpochMillis_of_shift range meant
  refine ⟨t, meant, by rw [ofJson, exact, ofEpoch], ?_⟩
  intro before text after front spells back
  rw [ofJson, String.toList_ofList]
  cases spells with
  | @digits n same =>
    have few : (decimal n).length ≤ Text.digitLimit :=
      (length_decimal_le 12 (by omega)).trans (by decide)
    rw [ofText_decimal few front back, ← same, exact, ofEpoch]
  | plain => exact ofText_instant t front back
  | zulu => exact ofText_zulu t front back
  | shifted at_offset short counts =>
    refine ofText_shifted at_offset short ?_ front back
    rw [Iso.counted]
    split <;> omega

/-- A millisecond before 1970, as a number and on a clock five and a half hours to the east. -/
theorem ofJson_spellings_before_epoch :
    ∃ t, Instant.epoch.shift? (1000 * -1) = some t ∧ ofJson (.int (-1)) = .ok t ∧
      ofJson (.text "\t1970-01-01T05:29:59.999000+05:30 ") = .ok t := by
  have range : (-1 : Int).natAbs < 2 ^ 33 * 1000 := by decide
  obtain ⟨t, meant, number, texts⟩ := ofJson_spellings range
  refine ⟨t, meant, number, ?_⟩
  obtain rfl : t = ⟨epochDay * day - 1000, by decide⟩ :=
    Option.some_inj.1 (meant.symm.trans (by decide +kernel))
  have spells := @Spells.shifted (-1) ⟨epochDay * day - 1000, by decide⟩ 19800000000
    ⟨epochDay * day - 1000 + 19800000000, by decide⟩ (by decide +kernel) (by decide)
    (.inr (by decide))
  have read := texts ['\t'] _ [' '] (by decide) spells (by decide)
  rwa [show String.ofList (['\t'] ++ (_ ++ [' '])) = "\t1970-01-01T05:29:59.999000+05:30 " by
    decide +kernel] at read

/-- A clock half a second to the east of 1970 is read as if it stood in UTC. -/
theorem ofJson_half_second_offset :
    ∃ wall, Instant.epoch.shift? 500000 = some wall ∧ (500000 : Int).natAbs < day ∧
      wall.iso ++ offsetText 500000 = "1970-01-01T00:00:00.500000+00:00:00.500000".toList ∧
      ofJson (.text "1970-01-01T00:00:00.500000+00:00:00.500000") = .ok wall ∧
      wall ≠ Instant.epoch := by
  have spelled : (⟨epochDay * day + 500000, by decide⟩ : Instant).iso ++ offsetText 500000 =
      "1970-01-01T00:00:00.500000+00:00:00.500000".toList := by decide +kernel
  refine ⟨⟨epochDay * day + 500000, by decide⟩, by decide +kernel, by decide, spelled, ?_,
    by decide⟩
  have read := ofText_iso (s := ⟨⟨epochDay * day + 500000, by decide⟩, some 500000⟩)
    (by decide) allBlank_nil allBlank_nil
  rw [Stamp.iso, Option.map_some, Option.map_some, Option.getD_some, spelled, List.nil_append,
    List.append_nil, show Iso.counted 500000 = 0 by decide] at read
  rw [ofJson, read]
  exact ofStamp_of_utc? (Instant.shift?_neg (Instant.shift?_zero _))

end FuelTelemetry.Timestamp

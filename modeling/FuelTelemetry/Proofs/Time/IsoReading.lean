import FuelTelemetry.Proofs.Text.Digits
import FuelTelemetry.Proofs.Time.Calendar
import FuelTelemetry.Proofs.Time.IsoText
import FuelTelemetry.Time.Iso
import Mathlib.Data.List.TakeWhile

/-!
Reading back what is written of a stamp. The parts of a date and of a clock are digits of a fixed
width, so that each is read up to the mark behind it and no further; the clock has no mark of an
offset, so that the offset begins at the first one. A stamp read back is the one written, but for an
offset of less than a second, which counts as none.
-/

namespace FuelTelemetry.Time

open FuelTelemetry.Text (padded WritesDecimal)

namespace Iso

variable {n : Nat} {text rest : List Char}

theorem fixed?_add {a b value m : Nat} (front : fixed? a value text = some (m, rest)) :
    fixed? (a + b) value text = fixed? b m rest := by
  induction a generalizing value text with
  | zero =>
    cases front
    rw [Nat.zero_add]
  | succ a ih =>
    cases text with
    | nil => cases front
    | cons c text =>
      rw [Nat.succ_add, fixed?]
      rw [fixed?] at front
      cases digit : Text.asciiDigit? c with
      | none =>
        rw [digit] at front
        cases front
      | some d =>
        rw [digit] at front
        exact ih front

theorem digits?_padded (width : Nat) (fits : n < 10 ^ (width + 1)) (rest : List Char) :
    digits? (width + 1) (padded (width + 1) n ++ rest) = some (n, rest) := by
  unfold digits?
  induction width generalizing n rest with
  | zero =>
    have small : n < 10 := by simpa using fits
    rw [Text.padded_one small, List.singleton_append, fixed?, Text.asciiDigit?_digitChar small]
    simp [fixed?]
  | succ width ih =>
    have tens : n / 10 < 10 ^ (width + 1) := by
      rw [Nat.pow_succ] at fits
      omega
    have last : n % 10 < 10 := Nat.mod_lt n (by decide)
    rw [Text.padded_succ, List.append_assoc, List.singleton_append,
      fixed?_add (ih tens ((n % 10).digitChar :: rest)), fixed?, Text.asciiDigit?_digitChar last]
    simp only [Option.bind_eq_bind, Option.bind_some, fixed?, Nat.div_add_mod]

theorem clockFrom?_last (parts : Nat) (colons : Option Bool) (reversed : List Nat)
    (fits : n < 100) :
    clockFrom? (parts + 1) colons reversed (padded 2 n) =
      some (ofParts (n :: reversed) 0, true) := by
  have read := digits?_padded 1 fits []
  rw [List.append_nil] at read
  rw [clockFrom?, read]
  rfl

theorem clockFrom?_colon (parts : Nat) {colons : Option Bool} (reversed : List Nat)
    {more : List Char} (fits : n < 100) (colon : colons.getD true = true) (present : more ≠ []) :
    clockFrom? (parts + 1) colons reversed (padded 2 n ++ ':' :: more) =
      clockFrom? parts (some true) (n :: reversed) more := by
  obtain ⟨c, more, rfl⟩ := List.exists_cons_of_ne_nil present
  rw [clockFrom?, digits?_padded 1 fits]
  simp [colon]

theorem clockFrom?_point (parts : Nat) (reversed : List Nat) {more : List Char} (fits : n < 100)
    (present : more ≠ []) :
    clockFrom? (parts + 1) (some true) reversed (padded 2 n ++ '.' :: more) =
      clockFrom? 0 (some true) (n :: reversed) more := by
  obtain ⟨c, more, rfl⟩ := List.exists_cons_of_ne_nil present
  conv => lhs; rw [clockFrom?, digits?_padded 1 fits]
  simp

theorem fraction?_padded {micros : Nat} (fits : micros < second) :
    fraction? (padded 6 micros) = some (micros, true) := by
  have length : (padded 6 micros).length = 6 := Text.length_padded fits
  have read := digits?_padded 5 fits []
  rw [List.append_nil] at read
  have whole : (padded 6 micros).take 6 = padded 6 micros :=
    List.take_of_length_le (Nat.le_of_eq length)
  have nothing : (padded 6 micros).drop 6 = [] := List.drop_of_length_le (Nat.le_of_eq length)
  rw [fraction?, whole, length, read, nothing]
  simp [atEnd]

theorem clockFrom?_seconds {hours minutes seconds micros : Nat} (fits : seconds < 100)
    (fraction : micros < second) :
    clockFrom? 1 (some true) [minutes, hours] (padded 2 seconds ++ fractionText micros) =
      some (⟨hours, minutes, seconds, micros⟩, true) := by
  unfold fractionText
  by_cases whole : micros = 0
  · subst whole
    rw [if_pos (by decide), List.append_nil, clockFrom?_last 0 _ _ fits]
    rfl
  · rw [if_neg (by simpa using whole), clockFrom?_point 0 _ fits (Text.padded_ne_nil 6 micros),
      clockFrom?, fraction?_padded fraction]
    rfl

def clockOf (micros : Nat) : Clock :=
  ⟨micros / hour, micros / minute % 60, micros / second % 60, micros % second⟩

theorem total_clockOf (micros : Nat) : (clockOf micros).total = micros := by
  unfold Clock.total clockOf hour minute second
  dsimp only
  omega

theorem timeOfDay?_clockOf {micros : Nat} (inside : micros < day) :
    (clockOf micros).timeOfDay? = some micros := by
  have hours : micros / hour < 24 := by
    unfold day hour minute second at *
    omega
  unfold Clock.timeOfDay?
  rw [if_pos ⟨hours, Nat.mod_lt _ (by decide), Nat.mod_lt _ (by decide)⟩, total_clockOf]

theorem hours_lt {micros : Nat} (inside : micros < day) : micros / hour < 100 := by
  unfold day hour minute second at *
  omega

theorem clock?_clockText {micros : Nat} (inside : micros < day) :
    clock? (clockText micros) = some (clockOf micros, true) := by
  have minutes : micros / minute % 60 < 100 := by omega
  have seconds : micros / second % 60 < 100 := by omega
  have fraction : micros % second < second := Nat.mod_lt _ (by decide)
  unfold clock? clockText
  simp only [List.append_assoc, List.cons_append]
  rw [clockFrom?_colon 2 _ (hours_lt inside) rfl (by simp),
    clockFrom?_colon 1 _ minutes rfl (by simp [Text.padded_ne_nil]),
    clockFrom?_seconds seconds fraction]
  rfl

/-- The clock of an offset, which shows its seconds only where it has them. -/
theorem clock?_offset {micros : Nat} (inside : micros < day) :
    clock? (padded 2 (micros / hour) ++ ':' :: (padded 2 (micros / minute % 60) ++
      if micros % minute = 0 then []
      else ':' :: (padded 2 (micros / second % 60) ++ fractionText (micros % second)))) =
    some (clockOf micros, true) := by
  by_cases whole : micros % minute = 0
  · have minutes : micros / minute % 60 < 100 := by omega
    have rest : micros / second % 60 = 0 ∧ micros % second = 0 := by
      unfold minute second at *
      omega
    rw [if_pos whole, List.append_nil, clock?,
      clockFrom?_colon 2 _ (hours_lt inside) rfl (Text.padded_ne_nil 2 _),
      clockFrom?_last 1 _ _ minutes, clockOf, rest.1, rest.2]
    rfl
  · rw [if_neg whole, ← clock?_clockText inside, clockText]
    simp only [List.append_assoc, List.cons_append]

/-- An offset as it is read: none below a second. -/
def counted (offset : Int) : Int := if offset.natAbs < second then 0 else offset

theorem offsetText_eq (offset : Int) :
    offsetText offset = (if offset < 0 then '-' else '+') ::
      (padded 2 (offset.natAbs / hour) ++ ':' :: (padded 2 (offset.natAbs / minute % 60) ++
        if offset.natAbs % minute = 0 then []
        else ':' :: (padded 2 (offset.natAbs / second % 60) ++
          fractionText (offset.natAbs % second)))) := by
  unfold offsetText
  simp only [beq_iff_eq, List.cons_append, List.append_assoc]

theorem offset?_cons {mark : Char} (sign : mark ≠ 'Z') {text : List Char} {clock : Clock}
    (read : clock? text = some (clock, true)) :
    offset? (mark :: text) =
      if clock.total < second then some 0
      else if clock.total < day then
        some (if mark == '-' then -(clock.total : Int) else clock.total)
      else none := by
  rw [offset?.eq_def]
  split
  · rename_i zulu
    exact absurd (List.cons.inj zulu).1 sign
  · rename_i other
    obtain ⟨rfl, rfl⟩ := List.cons.inj other
    rw [read, Option.bind_eq_bind, Option.bind_some]
    dsimp only
    rw [if_neg (by decide)]
    rfl
  · rename_i nothing
    cases nothing

theorem offset?_offsetText {offset : Int} (inside : offset.natAbs < day) :
    offset? (offsetText offset) = some (counted offset) := by
  have sign : (if offset < 0 then '-' else '+') ≠ 'Z' := by split <;> decide
  rw [offsetText_eq, offset?_cons sign (clock?_offset inside), total_clockOf, if_pos inside, counted]
  by_cases short : offset.natAbs < second
  · rw [if_pos short, if_pos short]
  · rw [if_neg short, if_neg short]
    by_cases west : offset < 0
    · rw [if_pos west, if_pos (by decide), Int.ofNat_natAbs_of_nonpos (by omega), Int.neg_neg]
    · rw [if_neg west, if_neg (by decide), Int.natAbs_of_nonneg (by omega)]

theorem not_isZoneMark_clockText (micros : Nat) : ∀ c ∈ clockText micros, isZoneMark c = false :=
  forall_mem_clockText (by decide) (by decide) (by decide) micros

theorem time?_clockText {micros : Nat} (inside : micros < day) :
    time? (clockText micros) = some (micros, none) := by
  have clock : ∀ c ∈ clockText micros, (!isZoneMark c) = true := fun c hc => by
    rw [not_isZoneMark_clockText micros c hc]
    rfl
  have before : (clockText micros).takeWhile (!isZoneMark ·) = clockText micros :=
    List.takeWhile_eq_self_iff.2 clock
  have behind : (clockText micros).dropWhile (!isZoneMark ·) = [] :=
    List.dropWhile_eq_nil_iff.2 clock
  rw [time?, before, behind, clock?_clockText inside]
  simp only [Option.bind_eq_bind, Option.bind_some, timeOfDay?_clockOf inside]
  rfl

theorem time?_offsetText {micros : Nat} (inside : micros < day) {offset : Int}
    (short : offset.natAbs < day) :
    time? (clockText micros ++ offsetText offset) = some (micros, some (counted offset)) := by
  have clock : ∀ c ∈ clockText micros, (!isZoneMark c) = true := fun c hc => by
    rw [not_isZoneMark_clockText micros c hc]
    rfl
  have read := offset?_offsetText short
  obtain ⟨sign, digits, text, mark⟩ : ∃ sign digits, offsetText offset = sign :: digits ∧
      (!isZoneMark sign) = false := by
    refine ⟨_, _, offsetText_eq offset, ?_⟩
    split <;> decide
  rw [text] at read ⊢
  have before :
      (clockText micros ++ sign :: digits).takeWhile (!isZoneMark ·) = clockText micros := by
    rw [List.takeWhile_append_of_pos clock, List.takeWhile_cons_of_neg (by simp [mark]),
      List.append_nil]
  have behind :
      (clockText micros ++ sign :: digits).dropWhile (!isZoneMark ·) = sign :: digits := by
    rw [List.dropWhile_append_of_pos clock, List.dropWhile_cons_of_neg (by simp [mark])]
  rw [time?, before, behind, clock?_clockText inside]
  simp only [Option.bind_eq_bind, Option.bind_some, timeOfDay?_clockOf inside, read]
  rfl

/-- The month behind a hyphen begins with a digit, which is not the `W` of a week. -/
theorem date?_dateText {date : CivilDate} (valid : date.Valid) (rest : List Char) :
    date? (dateText date ++ rest) = some (date, rest) := by
  obtain ⟨-, last, -, december, -, end_of_month⟩ := valid
  have year : date.year < 10000 := by
    unfold lastYear at last
    omega
  have month : date.month < 100 := by omega
  have day : date.day < 100 := by
    have := monthLengths_le (isLeap date.year) (date.month - 1)
    omega
  have not_week (weeks : List Char) (more : List Char) : padded 2 date.month ++ more ≠ 'W' :: weeks := by
    obtain ⟨c, digits, text⟩ := List.exists_cons_of_ne_nil (Text.padded_ne_nil 2 date.month)
    have first : c ∈ padded 2 date.month := text ▸ List.mem_cons_self
    have digit : WritesDecimal c := Text.writesDecimal_of_mem_padded first
    rw [text]
    rintro ⟨⟩
    obtain ⟨d, small, is_W⟩ := digit
    revert d
    decide
  unfold dateText date?
  simp only [List.append_assoc, List.cons_append]
  rw [digits?_padded 3 year]
  simp only [Option.bind_eq_bind, Option.bind_some]
  split
  · rename_i extended
    exact absurd (List.cons.inj extended).2 (not_week _ _)
  · rename_i basic
    cases (List.cons.inj basic).1
  · rename_i plain
    obtain rfl := (List.cons.inj plain).2
    rw [digits?_padded 1 month]
    simp only [Option.bind_some]
    rw [digits?_padded 1 day]
    rfl
  · rename_i no_hyphen
    exact absurd rfl (no_hyphen _)

end Iso

namespace Stamp

/-- A stamp is read back as it was written, but without an offset below a second. -/
theorem ofIso?_iso {s : Stamp} (short : ∀ offset ∈ s.offset, offset.natAbs < day) :
    ofIso? s.iso = some ⟨s.wall, s.offset.map Iso.counted⟩ := by
  obtain ⟨wall, offset⟩ := s
  have time : Iso.time? (clockText wall.timeOfDay ++ (offset.map offsetText).getD []) =
      some (wall.timeOfDay, offset.map Iso.counted) := by
    cases offset with
    | none =>
      rw [Option.map_none, Option.getD_none, List.append_nil, Iso.time?_clockText wall.timeOfDay_lt]
      rfl
    | some offset => exact Iso.time?_offsetText wall.timeOfDay_lt (short offset rfl)
  unfold ofIso? iso Instant.iso
  simp only [List.append_assoc, List.cons_append]
  rw [Iso.date?_dateText wall.date_spec.1]
  simp only [Option.bind_eq_bind, Option.bind_some]
  rw [time]
  simp only [Option.bind_some, Instant.ofCivil?_date]
  rfl

end Stamp

end FuelTelemetry.Time

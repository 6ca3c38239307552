import FuelTelemetry.Time.Instant
import Mathlib.Algebra.Ring.Nat

/-!
The calendar counts every day once. Counted from the start, a day lies in one year and, within the
year, in one month: the date read off a day's number is valid, and its number is that of the day.
Four centuries, a century and four years have their lengths, of which only the last member differs;
so the year before a day is put together from how often each goes into the day's number. An instant
is the one on its date at its time of day.
-/

namespace FuelTelemetry.Time

/-- So many eras of four centuries, and centuries, groups of four years and years within them. -/
theorem daysBeforeYear_of_parts {eras centuries groups years : Nat} (hc : centuries ≤ 3)
    (hg : groups ≤ 24) (hy : years ≤ 3) :
    daysBeforeYear (400 * eras + 100 * centuries + 4 * groups + years + 1) =
      146097 * eras + 36524 * centuries + 1461 * groups + 365 * years := by
  unfold daysBeforeYear
  omega

/-- The last year of its group of four is a leap year, if it does not end a century that does not end
an era. -/
theorem isLeap_of_parts (eras : Nat) {centuries groups years : Nat} (hc : centuries ≤ 3)
    (hg : groups ≤ 24) (hy : years ≤ 3) :
    isLeap (400 * eras + 100 * centuries + 4 * groups + years + 1) = true ↔
      years = 3 ∧ (groups = 24 → centuries = 3) := by
  simp only [isLeap, Bool.and_eq_true, Bool.or_eq_true, beq_iff_eq, bne_iff_ne]
  omega

def yearLength (year : Nat) : Nat := if isLeap year then 366 else 365

theorem yearAndDay_spec {n : Nat} (inside : n < calendarDays) :
    1 ≤ (yearAndDay n).1 ∧ (yearAndDay n).1 ≤ lastYear ∧
      daysBeforeYear (yearAndDay n).1 + (yearAndDay n).2 = n ∧
      (yearAndDay n).2 < yearLength (yearAndDay n).1 := by
  unfold yearAndDay
  dsimp only
  have hc : min (n % 146097 / 36524) 3 ≤ 3 := Nat.min_le_right _ _
  have in_century : 36524 * min (n % 146097 / 36524) 3 ≤ n % 146097 ∧
      n % 146097 - 36524 * min (n % 146097 / 36524) 3 ≤ 36524 ∧
      (min (n % 146097 / 36524) 3 < 3 →
        n % 146097 - 36524 * min (n % 146097 / 36524) 3 < 36524) := by omega
  have era := Nat.div_add_mod n 146097
  generalize n / 146097 = eras at *
  generalize n % 146097 = in_era at *
  generalize min (in_era / 36524) 3 = centuries at *
  generalize split_century : in_era - 36524 * centuries = rest at *
  have hg : rest / 1461 ≤ 24 := by omega
  have group := Nat.div_add_mod rest 1461
  have in_group : rest % 1461 < 1461 := Nat.mod_lt _ (by decide)
  generalize rest / 1461 = groups at *
  generalize rest % 1461 = last at *
  have hy : min (last / 365) 3 ≤ 3 := Nat.min_le_right _ _
  have in_year : 365 * min (last / 365) 3 ≤ last ∧ last - 365 * min (last / 365) 3 ≤ 365 ∧
      (min (last / 365) 3 < 3 → last - 365 * min (last / 365) 3 < 365) := by omega
  generalize min (last / 365) 3 = years at *
  have leap := isLeap_of_parts eras hc hg hy
  rw [daysBeforeYear_of_parts hc hg hy]
  unfold calendarDays at inside
  unfold lastYear yearLength
  refine ⟨by omega, by omega, by omega, ?_⟩
  split
  · omega
  · rename_i common
    rw [leap] at common
    omega

theorem monthAndDay_spec (month : Nat) {lengths : List Nat} {rest : Nat}
    (inside : rest < lengths.sum) :
    ∃ i, (monthAndDay month lengths rest).1 = month + i ∧ i < lengths.length ∧
      1 ≤ (monthAndDay month lengths rest).2 ∧
      (monthAndDay month lengths rest).2 ≤ lengths.getD i 0 ∧
      (lengths.take i).sum + ((monthAndDay month lengths rest).2 - 1) = rest := by
  induction lengths generalizing month rest with
  | nil => cases inside
  | cons length lengths ih =>
    rw [monthAndDay]
    by_cases here : rest < length
    · rw [if_pos here]
      exact ⟨0, rfl, by simp, by simp, by simpa using Nat.succ_le_of_lt here, by simp⟩
    · rw [if_neg here]
      rw [List.sum_cons] at inside
      have later : rest - length < lengths.sum := by omega
      obtain ⟨i, at_month, listed, least, most, split⟩ := ih (month + 1) later
      refine ⟨i + 1, by omega, by simpa using listed, least, by simpa using most, ?_⟩
      rw [List.take_succ_cons, List.sum_cons]
      omega

theorem sum_monthLengths (year : Nat) : (monthLengths (isLeap year)).sum = yearLength year := by
  unfold yearLength
  cases isLeap year <;> rfl

theorem length_monthLengths (leap : Bool) : (monthLengths leap).length = 12 := rfl

theorem monthLengths_le (leap : Bool) (i : Nat) : (monthLengths leap).getD i 0 ≤ 31 := by
  have all : ∀ length ∈ monthLengths leap, length ≤ 31 := by cases leap <;> decide
  rw [List.getD_eq_getElem?_getD]
  cases listed : (monthLengths leap)[i]? with
  | none => exact Nat.zero_le 31
  | some length => exact all length (List.mem_of_getElem? listed)

namespace CivilDate

theorem dayNumber_eq (date : CivilDate) :
    date.dayNumber = daysBeforeYear date.year +
      ((monthLengths (isLeap date.year)).take (date.month - 1)).sum + (date.day - 1) := by
  have counted (lengths : List Nat) (before : Nat) :
      lengths.foldl (· + ·) before = before + lengths.sum := by
    induction lengths generalizing before with
    | nil => rfl
    | cons length lengths ih => rw [List.foldl_cons, ih, List.sum_cons, Nat.add_assoc]
  rw [dayNumber, counted]

theorem ofDayNumber_spec {n : Nat} (inside : n < calendarDays) :
    (ofDayNumber n).Valid ∧ (ofDayNumber n).dayNumber = n := by
  obtain ⟨first, last, split, in_year⟩ := yearAndDay_spec inside
  cases in_calendar : yearAndDay n with
  | mk year rest =>
    simp only [in_calendar] at first last split in_year
    rw [← sum_monthLengths] at in_year
    obtain ⟨i, at_month, listed, least, most, split_year⟩ := monthAndDay_spec 1 in_year
    rw [length_monthLengths] at listed
    cases in_months : monthAndDay 1 (monthLengths (isLeap year)) rest with
    | mk month day =>
      simp only [in_months] at at_month least most split_year
      obtain rfl : month = 1 + i := at_month
      have date : ofDayNumber n = ⟨year, 1 + i, day⟩ := by
        simp only [ofDayNumber, in_calendar, in_months]
      rw [date, dayNumber_eq]
      simp only [Valid, Nat.add_sub_cancel_left]
      exact ⟨⟨first, last, by omega, by omega, least, most⟩, by omega⟩

end CivilDate

namespace Instant

theorem ofMicros?_eq_some_iff {micros : Int} {t : Instant} :
    ofMicros? micros = some t ↔ (t.micros : Int) = micros := by
  obtain ⟨m, inside⟩ := t
  unfold ofMicros?
  split
  · rw [Option.some_inj, Instant.mk.injEq]
    change micros.toNat = m ↔ (m : Int) = micros
    omega
  · rename_i outside
    refine iff_of_false (Option.some_ne_none _).symm ?_
    rintro rfl
    exact outside ⟨Int.natCast_nonneg m, by exact_mod_cast inside⟩

theorem shift?_neg {t shifted : Instant} {micros : Int} (h : t.shift? micros = some shifted) :
    shifted.shift? (-micros) = some t := by
  rw [shift?, ofMicros?_eq_some_iff] at *
  omega

theorem date_spec (t : Instant) : t.date.Valid ∧ t.date.dayNumber = t.micros / day :=
  CivilDate.ofDayNumber_spec ((Nat.div_lt_iff_lt_mul (by decide)).2 t.inCalendar)

theorem timeOfDay_lt (t : Instant) : t.timeOfDay < day := Nat.mod_lt _ (by decide)

theorem ofCivil?_date (t : Instant) : ofCivil? t.date t.timeOfDay = some t := by
  obtain ⟨valid, number⟩ := t.date_spec
  rw [ofCivil?, if_pos ⟨valid, t.timeOfDay_lt⟩, ofMicros?_eq_some_iff, number, timeOfDay]
  exact_mod_cast (Nat.div_add_mod' t.micros day).symm

end Instant

end FuelTelemetry.Time

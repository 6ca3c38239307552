import FuelTelemetry.Payload
import FuelTelemetry.Proofs.Text.Digits
import FuelTelemetry.Proofs.Text.Words
import Mathlib.Data.List.Forall2
import Mathlib.Data.Nat.Digits.Defs
import Mathlib.Tactic.IntervalCases

/-!
The grammar of a payload. A payload of `n` fuel points consists of three words with blanks between
them and perhaps around them: `F=` and hexadecimal digits worth `FFF` at most, any word, and `N=` and
hexadecimal digits worth `n`, behind which a point may stand with anything. `Payload.decode` reads
exactly these, and reads every natural number back from its digits of either case.
-/

namespace FuelTelemetry

namespace Text

def WritesHex (c : Char) (d : Nat) : Prop :=
  d < 16 ∧ (c = d.digitChar ∨ c = d.digitChar.toUpper)

instance (c : Char) (d : Nat) : Decidable (WritesHex c d) :=
  inferInstanceAs (Decidable (_ ∧ _))

def Hexadecimal (digits : List Char) (n : Nat) : Prop :=
  digits ≠ [] ∧ ∃ values, List.Forall₂ WritesHex digits values ∧ n = Nat.ofDigits 16 values.reverse

variable {c : Char} {d n : Nat} {digits : List Char}

theorem writesHex_of_range {low high : Char} (offset : Nat) (from_low : low ≤ c)
    (to_high : c ≤ high) (table : ∀ n ≤ high.toNat, low.toNat ≤ n →
      WritesHex (Char.ofNat n) (n - low.toNat + offset)) :
    WritesHex c (c.toNat - low.toNat + offset) := by
  have writes := table c.toNat to_high from_low
  rwa [Char.ofNat_toNat] at writes

theorem hexValue?_eq_some_iff : hexValue? c = some d ↔ WritesHex c d := by
  constructor
  · intro valued
    unfold hexValue? at valued
    split_ifs at valued with decimal lower upper
    · cases valued
      exact writesHex_of_range 0 decimal.1 decimal.2 (by decide)
    · cases valued
      exact writesHex_of_range 10 lower.1 lower.2 (by decide)
    · cases valued
      exact writesHex_of_range 10 upper.1 upper.2 (by decide)
  · rintro ⟨small, rfl | rfl⟩ <;> interval_cases d <;> decide

theorem WritesHex.solid (h : WritesHex c d) : isBlank c = false ∧ c ≠ '.' := by
  obtain ⟨small, rfl | rfl⟩ := h <;> interval_cases d <;> decide

theorem WritesHex.toUpper (h : WritesHex c d) : WritesHex c.toUpper d := by
  obtain ⟨small, rfl | rfl⟩ := h <;> interval_cases d <;> decide

theorem Hexadecimal.solid (h : Hexadecimal digits n) :
    ∀ c ∈ digits, isBlank c = false ∧ c ≠ '.' := by
  obtain ⟨-, values, written, -⟩ := h
  intro c hc
  induction written with
  | nil => cases hc
  | cons writes _ ih =>
    rcases List.mem_cons.1 hc with rfl | hc
    · exact writes.solid
    · exact ih hc

theorem Hexadecimal.map_toUpper (h : Hexadecimal digits n) :
    Hexadecimal (digits.map Char.toUpper) n := by
  obtain ⟨present, values, written, rfl⟩ := h
  refine ⟨by simpa using present, values, ?_, rfl⟩
  exact List.forall₂_map_left_iff.2 (written.imp fun _ _ => WritesHex.toUpper)

theorem Hexadecimal.concat (h : Hexadecimal digits n) (writes : WritesHex c d) :
    Hexadecimal (digits ++ [c]) (16 * n + d) := by
  obtain ⟨-, values, written, rfl⟩ := h
  refine ⟨by simp, values ++ [d], List.rel_append written (.cons writes .nil), ?_⟩
  rw [List.reverse_append, List.reverse_singleton, Nat.ofDigits_append, Nat.ofDigits_singleton,
    List.length_singleton, pow_one, Nat.add_comm]

theorem writesHex_digitChar (small : d < 16) : WritesHex d.digitChar d := ⟨small, .inl rfl⟩

theorem hexadecimal_toDigits (n : Nat) : Hexadecimal (Nat.toDigits 16 n) n := by
  refine toDigits_induction (motive := fun n digits => Hexadecimal digits n)
    (by decide) (fun d small => ?_) (fun n d small front => ?_) n
  · exact ⟨by simp, [d], .cons (writesHex_digitChar small) .nil, by simp⟩
  · exact front.concat (writesHex_digitChar small)

end Text

namespace Payload

open Text (AllBlank IsWord Breaks Hexadecimal WritesHex)

def IsFrequency (word : List Char) : Prop :=
  ∃ digits f, word = 'F' :: '=' :: digits ∧ Hexadecimal digits f ∧ f ≤ 0xFFF

def IsPoints (word : List Char) (n : Nat) : Prop :=
  ∃ digits fraction, word = 'N' :: '=' :: (digits ++ fraction) ∧ Hexadecimal digits n ∧
    (fraction = [] ∨ ∃ anything, fraction = '.' :: anything)

inductive Spells (n : Nat) : List Char → Prop where
  | words {before gap gap' after frequency temperature fuel : List Char}
      (blank_before : AllBlank before) (blank_after : AllBlank after)
      (blank_gap : AllBlank gap) (apart : gap ≠ [])
      (blank_gap' : AllBlank gap') (apart' : gap' ≠ [])
      (frequency_word : IsWord frequency) (temperature_word : IsWord temperature)
      (fuel_word : IsWord fuel) (is_frequency : IsFrequency frequency) (is_points : IsPoints fuel n) :
      Spells n (before ++ frequency ++ gap ++ temperature ++ gap' ++ fuel ++ after)

variable {n : Nat} {payload : List Char}

theorem hexFrom?_eq_some_iff {m : Nat} {digits : List Char} :
    hexFrom? m digits = some n ↔ ∃ values, List.Forall₂ WritesHex digits values ∧
      n = Nat.ofDigits 16 values.reverse + 16 ^ values.length * m := by
  induction digits generalizing m with
  | nil => simp [hexFrom?, List.forall₂_nil_left_iff, eq_comm]
  | cons c digits ih =>
    have worth (d : Nat) (values : List Nat) :
        Nat.ofDigits 16 values.reverse + 16 ^ values.length * (16 * m + d) =
          Nat.ofDigits 16 (d :: values).reverse + 16 ^ (d :: values).length * m := by
      rw [List.reverse_cons, Nat.ofDigits_append, Nat.ofDigits_singleton, List.length_reverse,
        List.length_cons, Nat.pow_succ]
      ring
    rw [hexFrom?, Option.bind_eq_bind, Option.bind_eq_some_iff]
    simp only [Text.hexValue?_eq_some_iff, ih]
    constructor
    · rintro ⟨d, writes, values, written, rfl⟩
      exact ⟨d :: values, .cons writes written, worth d values⟩
    · rintro ⟨_, written, rfl⟩
      cases written with
      | cons writes written => exact ⟨_, writes, _, written, (worth _ _).symm⟩

theorem hex?_eq_some_iff {digits : List Char} : hex? digits = some n ↔ Hexadecimal digits n := by
  unfold hex? Hexadecimal
  cases digits with
  | nil => simp
  | cons c digits => simp [hexFrom?_eq_some_iff]

theorem tagged?_eq_some_iff {tag : Char} {word body : List Char} :
    tagged? tag word = some body ↔ word = tag :: '=' :: body := by
  unfold tagged?
  split
  · split_ifs with same <;> simp [same]
  · rename_i shapeless
    refine iff_of_false nofun ?_
    rintro rfl
    exact shapeless tag body rfl

theorem frequency_eq_some_iff {word : List Char} {f : Nat} :
    (tagged? 'F' word >>= hex?) = some f ↔ ∃ digits, word = 'F' :: '=' :: digits ∧
      Hexadecimal digits f := by
  rw [Option.bind_eq_bind, Option.bind_eq_some_iff]
  simp only [tagged?_eq_some_iff, hex?_eq_some_iff]

/-- The digits of the fuel points hold no point, so that they end at the first. -/
theorem points?_eq_some_iff {word : List Char} : points? word = some n ↔ IsPoints word n := by
  unfold points? IsPoints
  rw [Option.bind_eq_bind, Option.bind_eq_some_iff]
  simp only [tagged?_eq_some_iff, hex?_eq_some_iff]
  constructor
  · rintro ⟨body, rfl, spelled⟩
    refine ⟨_, body.dropWhile (· ≠ '.'), ?_, spelled, ?_⟩
    · rw [List.takeWhile_append_dropWhile]
    · cases ending : body.dropWhile (· ≠ '.') with
      | nil => exact .inl rfl
      | cons c anything =>
        have point := List.head?_dropWhile_not (fun c => decide (c ≠ '.')) body
        rw [ending] at point
        simp only [List.head?_cons, decide_not, Bool.not_eq_false', decide_eq_true_eq] at point
        exact .inr ⟨anything, by rw [point]⟩
  · rintro ⟨digits, fraction, rfl, spelled, ending⟩
    refine ⟨_, rfl, ?_⟩
    have inside : ∀ c ∈ digits, decide (c ≠ '.') = true := fun c hc => by
      simpa using (spelled.solid c hc).2
    rw [List.takeWhile_append_of_pos inside]
    rcases ending with rfl | ⟨anything, rfl⟩ <;> simpa using spelled

/-- A frequency that marks a fault is read and then refused. -/
theorem frequency_passes_iff {word : List Char} :
    (∃ f, (tagged? 'F' word >>= hex?) = some f ∧ f ≤ greatestFrequency) ↔ IsFrequency word := by
  simp only [frequency_eq_some_iff, IsFrequency]
  constructor
  · rintro ⟨f, ⟨digits, tagged, worth⟩, low⟩
    exact ⟨digits, f, tagged, worth, low⟩
  · rintro ⟨digits, f, tagged, worth, low⟩
    exact ⟨f, ⟨digits, tagged, worth⟩, low⟩

theorem decode_of_words {frequency temperature fuel : List Char}
    (three : Text.words payload = [frequency, temperature, fuel]) :
    decode payload = some n ↔ IsFrequency frequency ∧ IsPoints fuel n := by
  rw [← frequency_passes_iff, ← points?_eq_some_iff]
  unfold decode
  simp only [three]
  cases tagged? 'F' frequency >>= hex? with
  | none => simp
  | some f => simp

theorem decode_eq_some_iff :
    decode payload = some n ↔ ∃ frequency temperature fuel,
      Text.words payload = [frequency, temperature, fuel] ∧ IsFrequency frequency ∧
        IsPoints fuel n := by
  constructor
  · intro read
    have three : ∃ frequency temperature fuel,
        Text.words payload = [frequency, temperature, fuel] := by
      unfold decode at read
      split at read
      · exact ⟨_, _, _, by assumption⟩
      · cases read
    obtain ⟨frequency, temperature, fuel, three⟩ := three
    exact ⟨frequency, temperature, fuel, three, (decode_of_words three).1 read⟩
  · rintro ⟨frequency, temperature, fuel, three, fits⟩
    exact (decode_of_words three).2 fits

theorem spells_iff :
    Spells n payload ↔ ∃ frequency temperature fuel,
      Text.words payload = [frequency, temperature, fuel] ∧ IsFrequency frequency ∧
        IsPoints fuel n := by
  simp only [Text.words_eq_three_iff]
  constructor
  · rintro ⟨before, after, gap, apart, gap', apart', word, word', word'', is_frequency, is_points⟩
    exact ⟨_, _, _, ⟨_, _, _, _, rfl, before, after, ⟨gap, apart⟩, ⟨gap', apart'⟩,
      word, word', word''⟩, is_frequency, is_points⟩
  · rintro ⟨_, _, _, ⟨_, _, _, _, rfl, before, after, ⟨gap, apart⟩, ⟨gap', apart'⟩,
      word, word', word''⟩, is_frequency, is_points⟩
    exact ⟨before, after, gap, apart, gap', apart', word, word', word'', is_frequency, is_points⟩

theorem spells_of_hexadecimal {digits : List Char} (h : Hexadecimal digits n) :
    Spells n ("F=100 T=20 N=".toList ++ digits) := by
  have solid : ∀ c ∈ 'N' :: '=' :: digits, Text.isBlank c = false := by
    intro c hc
    rcases List.mem_cons.1 hc with rfl | hc
    · decide
    · rcases List.mem_cons.1 hc with rfl | hc
      · decide
      · exact (h.solid c hc).1
  have space : AllBlank [' '] := by decide
  have split : "F=100 T=20 N=".toList ++ digits =
      [] ++ "F=100".toList ++ [' '] ++ "T=20".toList ++ [' '] ++ ('N' :: '=' :: digits) ++ [] := by
    simp
  rw [split]
  exact .words Text.allBlank_nil Text.allBlank_nil space (by simp) space (by simp) (by decide)
    (by decide) ⟨by simp, solid⟩ ⟨_, 0x100, rfl, Text.hexadecimal_toDigits 0x100, by decide⟩
    ⟨digits, [], by simp, h, .inl rfl⟩

/-- Reading gives so many fuel points exactly for the payloads that spell them, nothing for any
other text, and each number from its digits of either case. -/
theorem decode_iff_spells :
    (∀ payload n, decode payload = some n ↔ Spells n payload) ∧
    (∀ payload, decode payload = none ↔ ∀ n, ¬ Spells n payload) ∧
    ∀ n, decode ("F=100 T=20 N=".toList ++ Nat.toDigits 16 n) = some n ∧
      decode ("F=100 T=20 N=".toList ++ (Nat.toDigits 16 n).map Char.toUpper) = some n := by
  have reads (payload : List Char) (n : Nat) : decode payload = some n ↔ Spells n payload :=
    decode_eq_some_iff.trans spells_iff.symm
  refine ⟨reads, fun payload => ?_, fun n => ⟨?_, ?_⟩⟩
  · simp only [← reads, Option.eq_none_iff_forall_ne_some]
  · exact (reads _ _).2 (spells_of_hexadecimal (Text.hexadecimal_toDigits n))
  · exact (reads _ _).2 (spells_of_hexadecimal (Text.hexadecimal_toDigits n).map_toUpper)

end Payload

end FuelTelemetry

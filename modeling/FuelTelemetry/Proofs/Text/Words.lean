import FuelTelemetry.Text.Blank
import Mathlib.Data.List.TakeWhile

/-!
Words and margins of a text. The words of a text are read from the front: blanks before a word do not
count, and a word ends at a blank or with the text. A text therefore has no words exactly if it is
blank, and its first word is the one run between the blanks in front and the next blank. Trimming
takes the blanks around a text away again.
-/

namespace FuelTelemetry.Text

def AllBlank (gap : List Char) : Prop := ∀ c ∈ gap, isBlank c = true

def IsWord (word : List Char) : Prop := word ≠ [] ∧ ∀ c ∈ word, isBlank c = false

instance (gap : List Char) : Decidable (AllBlank gap) :=
  List.decidableBAll (fun c => isBlank c = true) gap

instance (word : List Char) : Decidable (IsWord word) :=
  @instDecidableAnd _ _ _ (List.decidableBAll (fun c => isBlank c = false) word)

def Breaks (rest : List Char) : Prop := ∀ c ∈ rest.head?, isBlank c = true

variable {gap word rest text : List Char} {more : List (List Char)}

theorem allBlank_nil : AllBlank [] := nofun

theorem AllBlank.breaks (h : AllBlank gap) : Breaks gap := fun c hc =>
  h c (List.mem_of_mem_head? hc)

theorem AllBlank.breaks_append (h : AllBlank gap) (present : gap ≠ []) : Breaks (gap ++ text) := by
  obtain ⟨c, gap, rfl⟩ := List.exists_cons_of_ne_nil present
  rintro _ ⟨⟩
  exact h c List.mem_cons_self

theorem IsWord.not_breaks (h : IsWord word) : ¬ Breaks (word ++ rest) := by
  obtain ⟨present, solid⟩ := h
  obtain ⟨c, tail, rfl⟩ := List.exists_cons_of_ne_nil present
  intro breaks
  have blank := breaks c rfl
  rw [solid c List.mem_cons_self] at blank
  cases blank

theorem words_append_of_blank (h : AllBlank gap) : words (gap ++ text) = words text := by
  induction gap with
  | nil => rfl
  | cons c gap ih =>
    rw [List.cons_append, words.eq_def]
    simp only [h c List.mem_cons_self, if_true]
    exact ih fun d hd => h d (List.mem_cons_of_mem c hd)

theorem AllBlank.words_eq (h : AllBlank gap) : words gap = [] := by
  rw [← List.append_nil gap, words_append_of_blank h]
  rfl

/-- A run of characters that are not blank is the first word if the text behind it breaks it off. -/
theorem words_append_of_word (h : IsWord word) (breaks : Breaks rest) :
    words (word ++ rest) = word :: words rest := by
  obtain ⟨present, solid⟩ := h
  induction word with
  | nil => exact absurd rfl present
  | cons c word ih =>
    have start : isBlank c = false := solid c List.mem_cons_self
    rw [List.cons_append, words.eq_def]
    simp only [start, Bool.false_eq_true, if_false]
    cases word with
    | nil =>
      cases rest with
      | nil => rfl
      | cons d rest => simp [breaks d rfl]
    | cons d word =>
      have inner : isBlank d = false := solid d (by simp)
      have further := ih (List.cons_ne_nil d word) fun x hx => solid x (List.mem_cons_of_mem c hx)
      rw [List.cons_append] at further
      simp [further, inner]

theorem exists_first_word (text : List Char) :
    AllBlank text ∨ ∃ gap word rest, text = gap ++ (word ++ rest) ∧ AllBlank gap ∧ IsWord word ∧
      Breaks rest := by
  let solid := text.dropWhile isBlank
  have split : text = text.takeWhile isBlank ++ solid := List.takeWhile_append_dropWhile.symm
  have before : AllBlank (text.takeWhile isBlank) := fun c hc => List.mem_takeWhile_imp hc
  cases start : solid with
  | nil =>
    rw [start, List.append_nil] at split
    exact .inl (split ▸ before)
  | cons c tail =>
    have inner : isBlank c = false := by
      have first := List.head_dropWhile_not isBlank (l := text)
        (by simp [solid] at start; simp [start])
      simpa [solid, start] using first
    refine .inr ⟨_, solid.takeWhile (!isBlank ·), solid.dropWhile (!isBlank ·), ?_, before,
      ⟨?_, ?_⟩, ?_⟩
    · rwa [List.takeWhile_append_dropWhile]
    · simp [start, inner]
    · intro d hd
      simpa using List.mem_takeWhile_imp hd
    · intro d hd
      have ending := List.head?_dropWhile_not (!isBlank ·) solid
      rw [Option.mem_def.1 hd] at ending
      simpa using ending

theorem words_eq_nil_iff : words text = [] ↔ AllBlank text := by
  refine ⟨fun none => ?_, AllBlank.words_eq⟩
  rcases exists_first_word text with blank | ⟨gap, word, rest, rfl, blank, isWord, breaks⟩
  · exact blank
  · rw [words_append_of_blank blank, words_append_of_word isWord breaks] at none
    cases none

theorem words_eq_cons_iff :
    words text = word :: more ↔ ∃ gap rest, text = gap ++ (word ++ rest) ∧ AllBlank gap ∧
      IsWord word ∧ Breaks rest ∧ words rest = more := by
  constructor
  · intro first
    rcases exists_first_word text with blank | ⟨gap, word', rest, rfl, blank, isWord, breaks⟩
    · rw [blank.words_eq] at first
      cases first
    · rw [words_append_of_blank blank, words_append_of_word isWord breaks] at first
      cases first
      exact ⟨gap, rest, rfl, blank, isWord, breaks, rfl⟩
  · rintro ⟨gap, rest, rfl, blank, isWord, breaks, rfl⟩
    rw [words_append_of_blank blank, words_append_of_word isWord breaks]

theorem words_eq_three_iff {a b c : List Char} :
    words text = [a, b, c] ↔ ∃ before gap gap' after,
      text = before ++ a ++ gap ++ b ++ gap' ++ c ++ after ∧ AllBlank before ∧ AllBlank after ∧
        (AllBlank gap ∧ gap ≠ []) ∧ (AllBlank gap' ∧ gap' ≠ []) ∧ IsWord a ∧ IsWord b ∧ IsWord c := by
  constructor
  · intro three
    obtain ⟨before, rest, rfl, blank, word, breaks, two⟩ := words_eq_cons_iff.1 three
    obtain ⟨gap, rest, rfl, blank_gap, word_b, breaks_b, one⟩ := words_eq_cons_iff.1 two
    obtain ⟨gap', after, rfl, blank_gap', word_c, -, none⟩ := words_eq_cons_iff.1 one
    refine ⟨before, gap, gap', after, by simp, blank, words_eq_nil_iff.1 none,
      ⟨blank_gap, ?_⟩, ⟨blank_gap', ?_⟩, word, word_b, word_c⟩
    · rintro rfl
      exact word_b.not_breaks breaks
    · rintro rfl
      exact word_c.not_breaks breaks_b
  · rintro ⟨before, gap, gap', after, rfl, blank, blank_after, ⟨blank_gap, apart⟩,
      ⟨blank_gap', apart'⟩, word, word_b, word_c⟩
    simp only [List.append_assoc]
    rw [words_append_of_blank blank,
      words_append_of_word word (blank_gap.breaks_append apart),
      words_append_of_blank blank_gap,
      words_append_of_word word_b (blank_gap'.breaks_append apart'),
      words_append_of_blank blank_gap', words_append_of_word word_c blank_after.breaks,
      blank_after.words_eq]

section Trimming

variable {p : Char → Bool} {before after : List Char}

theorem dropWhile_append_of_stop (front : ∀ c ∈ before, p c = true)
    (stop : ∀ c ∈ text.head?, p c = false) : (before ++ text).dropWhile p = text := by
  rw [List.dropWhile_append_of_pos front]
  cases text with
  | nil => rfl
  | cons c text => exact List.dropWhile_cons_of_neg (by rw [stop c rfl]; exact Bool.false_ne_true)

theorem trimBy_append (front : ∀ c ∈ before, p c = true) (back : ∀ c ∈ after, p c = true)
    (solid : ∀ c ∈ text, p c = false) : trimBy p (before ++ (text ++ after)) = text := by
  unfold trimBy
  cases text with
  | nil =>
    rw [List.nil_append, List.dropWhile_eq_nil_iff.2 (List.forall_mem_append.2 ⟨front, back⟩)]
    rfl
  | cons c text =>
    have first : ∀ d ∈ (c :: text ++ after).head?, p d = false := by
      rintro _ ⟨⟩
      exact solid c List.mem_cons_self
    have last : ∀ d ∈ (c :: text).reverse.head?, p d = false := fun d hd =>
      solid d (List.mem_reverse.1 (List.mem_of_mem_head? hd))
    have back : ∀ d ∈ after.reverse, p d = true := fun d hd => back d (List.mem_reverse.1 hd)
    rw [dropWhile_append_of_stop front first, List.reverse_append,
      dropWhile_append_of_stop back last, List.reverse_reverse]

theorem trim_append (front : AllBlank before) (back : AllBlank after)
    (solid : ∀ c ∈ text, isBlank c = false) : trim (before ++ (text ++ after)) = text :=
  trimBy_append front back solid

theorem trimBy_of_solid (solid : ∀ c ∈ text, p c = false) : trimBy p text = text := by
  simpa using trimBy_append (List.forall_mem_nil _) (List.forall_mem_nil _) solid

end Trimming

end FuelTelemetry.Text

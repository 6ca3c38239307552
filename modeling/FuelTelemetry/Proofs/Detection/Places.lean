import FuelTelemetry.Proofs.Detection.Checking
import Mathlib.Data.List.Range

/-!
The places that the two halves of a sample read. Either half goes up from its first place one by one:
the left one from the front, the right one from the midpoint. There is a level at each place, both
halves are of one length and have the midpoint alone in common, and only the last place of an even
sample belongs to neither. So the detector finds whatever it reads of a sample; it can be refused
nothing but a level that a reading lacks.
-/

namespace FuelTelemetry

def leftPlaces (size : Nat) : List Nat := List.range' 0 (midpointOf size + 1)

def rightPlaces (size : Nat) : List Nat := List.range' (midpointOf size) (midpointOf size + 1)

def IsEvenEnd (size place : Nat) : Prop := size % 2 = 0 ∧ place + 1 = size

theorem mem_leftPlaces_iff {size place : Nat} :
    place ∈ leftPlaces size ↔ place ≤ midpointOf size := by
  rw [leftPlaces, List.mem_range'_1]
  omega

theorem mem_rightPlaces_iff {size place : Nat} :
    place ∈ rightPlaces size ↔ midpointOf size ≤ place ∧ place ≤ 2 * midpointOf size := by
  rw [rightPlaces, List.mem_range'_1]
  omega

structure Halves (size : Nat) : Prop where
  left : (leftPlaces size).length = midpointOf size + 1
  right : (rightPlaces size).length = midpointOf size + 1
  /-- A sum is divided by the length of its half. -/
  divisors : (leftPlaces size).length ≠ 0 ∧ (rightPlaces size).length ≠ 0
  shared : ∀ place, place ∈ leftPlaces size ∧ place ∈ rightPlaces size ↔ place = midpointOf size
  covered : ∀ place, place ∈ leftPlaces size ∨ place ∈ rightPlaces size ↔
    place < size ∧ ¬ IsEvenEnd size place

theorem halves {size : Nat} (pos : 0 < size) : Halves size where
  left := List.length_range'
  right := List.length_range'
  divisors := by simp [leftPlaces, rightPlaces]
  shared place := by
    rw [mem_leftPlaces_iff, mem_rightPlaces_iff]
    omega
  covered place := by
    rw [mem_leftPlaces_iff, mem_rightPlaces_iff]
    unfold IsEvenEnd midpointOf
    omega

/-- Adds the levels at some places to a sum, one after the other; `none` if there is no level at a
place. -/
def addAt (levels : List Float) (sum : Float) (places : List Nat) : Option Float :=
  places.foldlM (fun sum place => (levels[place]?).map (sum + ·)) sum

theorem addAt_range' (levels : List Float) (sum : Float) {first count : Nat}
    (within : first + count ≤ levels.length) :
    addAt levels sum (List.range' first count) =
      some (((levels.drop first).take count).foldl (· + ·) sum) := by
  induction count generalizing first sum with
  | zero => simp [addAt]
  | succ count ih =>
    have here : first < levels.length := by omega
    have rest : addAt levels (sum + levels[first]) (List.range' (first + 1) count) =
        some (((levels.drop (first + 1)).take count).foldl (· + ·) (sum + levels[first])) :=
      ih (sum + levels[first]) (by omega)
    rw [List.range'_succ, List.drop_eq_getElem_cons here, List.take_succ_cons, List.foldl_cons,
      ← rest]
    simp [addAt, List.getElem?_eq_getElem here]

theorem addAt_leftPlaces {levels : List Float} (nonempty : levels ≠ []) :
    addAt levels 0.0 (leftPlaces levels.length) =
      some (sumOf (levels.take (midpointOf levels.length + 1))) := by
  have pos : 0 < levels.length := List.length_pos_iff.2 nonempty
  exact addAt_range' levels 0.0 (by unfold midpointOf; omega)

theorem addAt_rightPlaces {levels : List Float} (nonempty : levels ≠ []) :
    addAt levels 0.0 (rightPlaces levels.length) =
      some (sumOf ((levels.drop (midpointOf levels.length)).take
        (midpointOf levels.length + 1))) := by
  have pos : 0 < levels.length := List.length_pos_iff.2 nonempty
  exact addAt_range' levels 0.0 (by unfold midpointOf; omega)

structure HalfMeans.Reads (means : HalfMeans) (levels : List Float) : Prop where
  midpoint : means.midpoint = (levels.length - 1) / 2
  left : ∃ sum, addAt levels 0.0 (leftPlaces levels.length) = some sum ∧
    means.left = sum / Number.ofCount (leftPlaces levels.length).length
  right : ∃ sum, addAt levels 0.0 (rightPlaces levels.length) = some sum ∧
    means.right = sum / Number.ofCount (rightPlaces levels.length).length

theorem halfMeans_reads {levels : List Float} (nonempty : levels ≠ []) :
    ∃ means, halfMeans levels = .ok means ∧ means.Reads levels := by
  unfold halfMeans
  rw [if_neg (by simpa using nonempty)]
  have spans := halves (List.length_pos_iff.2 nonempty)
  refine ⟨_, rfl, rfl, ⟨_, addAt_leftPlaces nonempty, ?_⟩, ⟨_, addAt_rightPlaces nonempty, ?_⟩⟩
  · rw [spans.left]
  · rw [spans.right]

theorem Reading.measured_error {r : Reading} {fault : Fault} (h : r.measured = .error fault) :
    fault = .missingLevel := by
  unfold Reading.measured at h
  split at h
  · cases h
  · exact (Except.error.inj h).symm

theorem mapM_measured_error {rs : List Reading} {fault : Fault}
    (h : rs.mapM Reading.measured = .error fault) : fault = .missingLevel := by
  induction rs with
  | nil => cases h
  | cons r rs ih =>
    rw [List.mapM_cons] at h
    rcases Except.bind_error h with first | ⟨level, -, h⟩
    · exact Reading.measured_error first
    · rcases Except.bind_error h with rest | ⟨levels, -, h⟩
      · exact ih rest
      · cases h

theorem length_of_mapM_measured {rs : List Reading} {levels : List Float}
    (h : rs.mapM Reading.measured = .ok levels) : levels.length = rs.length := by
  induction rs generalizing levels with
  | nil =>
    obtain rfl := Except.ok.inj h
    rfl
  | cons r rs ih =>
    rw [List.mapM_cons] at h
    obtain ⟨level, -, h⟩ := Except.bind_ok h
    obtain ⟨others, rest, h⟩ := Except.bind_ok h
    obtain rfl := Except.ok.inj h
    rw [List.length_cons, ih rest, List.length_cons]

/-- Whatever the profile of a sample looks up is there, unless a level is missing. -/
theorem Profile.ofSample_error {sample : List Reading} {fault : Fault} (nonempty : sample ≠ [])
    (h : Profile.ofSample sample = .error fault) : fault = .missingLevel := by
  have pos : 0 < sample.length := List.length_pos_iff.2 nonempty
  rcases Except.bind_error h with refused | ⟨levels, measured, h⟩
  · exact mapM_measured_error refused
  have count : levels.length = coveredBy sample.length := by
    rw [length_of_mapM_measured measured, List.length_take, Nat.min_eq_left (coveredBy_le pos)]
  have covered : levels ≠ [] := by
    rw [← List.length_pos_iff, count]
    unfold coveredBy
    omega
  obtain ⟨means, found, midpoint⟩ := halfMeans_midpoint covered
  rw [count, midpointOf_coveredBy] at midpoint
  -- the midpoint lies among the levels, and so among the readings
  have reached : means.midpoint < levels.length := by
    rw [count, midpoint]
    unfold coveredBy
    omega
  have inside : means.midpoint < sample.length :=
    Nat.lt_of_lt_of_le reached (count ▸ coveredBy_le pos)
  simp [found, bind, Except.bind, pure, Except.pure, List.getElem?_eq_getElem reached,
    List.getElem?_eq_getElem inside, List.head?_eq_some_head covered,
    List.getLast?_eq_some_getLast nonempty] at h

theorem Armed.close_error {a : Armed} {p : Profile} {edge : Float} {fault : Fault}
    (h : (a.close p edge).2 = .error fault) : fault = .missingLevel := by
  cases last : p.last with
  | none =>
    simp only [close, Profile.closing, last] at h
    exact (Except.error.inj h).symm
  | some level =>
    simp only [close, Profile.closing, last] at h
    split at h <;> cases h

theorem Armed.advance_error {armed : Option Armed} {p : Profile} {t : Thresholds} {fault : Fault}
    (h : (advance armed p t).2 = .error fault) : fault = .missingLevel := by
  unfold advance at h
  split at h
  · split at h
    · exact close_error h
    · cases h
  · cases h

theorem Armed.check_error {armed : Option Armed} {sample : List Reading} {t : Thresholds}
    {fault : Fault} (h : (check armed sample t).2 = .error fault) :
    fault = .missingLevel ∧ ¬ Levelled sample := by
  refine ⟨?_, fun levelled => ?_⟩
  · unfold check at h
    split at h
    · cases h
    · rename_i large
      have nonempty : sample ≠ [] := by
        rintro rfl
        exact large (by decide)
      split at h
      · exact advance_error h
      · rename_i refused
        obtain rfl := Except.error.inj h
        exact Profile.ofSample_error nonempty refused
  · obtain ⟨activity, ok⟩ := check_ok armed levelled t
    rw [ok] at h
    cases h

/-- Half means are read at places that all have a level, over halves of one length that share the
midpoint and leave out the last level of an even sample alone. So a check fails for nothing but a
missing level. -/
theorem halfMeans_in_places {levels : List Float} (nonempty : levels ≠ []) :
    (∃ means, halfMeans levels = .ok means ∧ means.Reads levels) ∧ Halves levels.length ∧
      ∀ (d : Detector) key sample t fault, (d.check key sample t).2 = .error fault →
        fault = .missingLevel ∧ ¬ Levelled sample :=
  ⟨halfMeans_reads nonempty, halves (List.length_pos_iff.2 nonempty),
    fun _ _ _ _ _ failed => Armed.check_error failed⟩

theorem halfMeans_in_places_evenSample :
    [20.0, 30.0, 40.0, 90.0] ≠ ([] : List Float) ∧
      (∃ means, halfMeans [20.0, 30.0, 40.0, 90.0] = .ok means ∧
        means.Reads [20.0, 30.0, 40.0, 90.0]) ∧
      Halves 4 ∧ IsEvenEnd 4 3 ∧ (halfMeans [20.0, 30.0, 40.0, 90.0]).toOption.any
        fun means => means.midpoint == 1 && means.left == 25.0 && means.right == 35.0 := by
  have nonempty : [20.0, 30.0, 40.0, 90.0] ≠ ([] : List Float) := List.cons_ne_nil _ _
  obtain ⟨means, spans, -⟩ := halfMeans_in_places nonempty
  exact ⟨nonempty, means, spans, ⟨rfl, rfl⟩, by decide +kernel⟩

end FuelTelemetry

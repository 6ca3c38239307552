import FuelTelemetry.Detection.Detector

/-!
Samples with levels. Where every reading has its level, averages can be taken, and a sample of at
least one reading has a profile, which shows its half means, its middle and its ends.
-/

namespace FuelTelemetry

def Levelled (rs : List Reading) : Prop := ∀ r ∈ rs, r.level.isSome

theorem Levelled.sublist {rs others : List Reading} (h : Levelled rs)
    (sub : others.Sublist rs) : Levelled others :=
  fun r hr => h r (sub.subset hr)

theorem Reading.measured_ok {r : Reading} (h : r.level.isSome) :
    ∃ level, r.level = some level ∧ r.measured = .ok level := by
  obtain ⟨level, hl⟩ := Option.isSome_iff_exists.1 h
  exact ⟨level, hl, by rw [measured, hl]⟩

theorem sumLevels_ok {rs : List Reading} (h : Levelled rs) (sum : Float) :
    ∃ total, rs.foldlM (fun sum other => return sum + (← Reading.measured other)) sum =
      (Except.ok total : Except Fault Float) := by
  induction rs generalizing sum with
  | nil => exact ⟨sum, rfl⟩
  | cons r rs ih =>
    obtain ⟨level, -, hm⟩ := Reading.measured_ok (h r List.mem_cons_self)
    obtain ⟨total, ht⟩ := ih (fun x hx => h x (List.mem_cons_of_mem r hx)) (sum + level)
    refine ⟨total, ?_⟩
    rw [List.foldlM_cons, hm]
    exact ht

theorem averageLevel_ok {r : Reading} {others : List Reading} (hr : r.level.isSome)
    (h : Levelled others) : ∃ mean, averageLevel r others = .ok mean := by
  obtain ⟨level, -, hm⟩ := Reading.measured_ok hr
  refine Except.bind_total ⟨level, hm⟩ fun first => ?_
  exact Except.bind_total (sumLevels_ok h first) fun total => ⟨_, rfl⟩

def levelsOf (rs : List Reading) : List Float := rs.filterMap (·.level)

theorem Levelled.levelsOf_eq {rs : List Reading} (h : Levelled rs) :
    levelsOf rs = rs.map fun r => r.level.getD 0.0 := by
  induction rs with
  | nil => rfl
  | cons r rs ih =>
    obtain ⟨level, hl⟩ := Option.isSome_iff_exists.1 (h r List.mem_cons_self)
    have rest := ih fun x hx => h x (List.mem_cons_of_mem r hx)
    rw [levelsOf] at rest ⊢
    rw [List.filterMap_cons_some hl, rest]
    simp [hl]

theorem mapM_measured {rs : List Reading} (h : Levelled rs) :
    rs.mapM Reading.measured = .ok (levelsOf rs) := by
  induction rs with
  | nil => rfl
  | cons r rs ih =>
    obtain ⟨level, hl, hm⟩ := Reading.measured_ok (h r List.mem_cons_self)
    have rest := ih fun x hx => h x (List.mem_cons_of_mem r hx)
    rw [List.mapM_cons, hm, rest, levelsOf, levelsOf, List.filterMap_cons_some hl]
    rfl

theorem halfMeans_midpoint {levels : List Float} (h : levels ≠ []) :
    ∃ means, halfMeans levels = .ok means ∧ means.midpoint = midpointOf levels.length := by
  unfold halfMeans
  rw [if_neg (by simpa using h)]
  exact ⟨_, rfl, rfl⟩

theorem coveredBy_le {size : Nat} (h : 0 < size) : coveredBy size ≤ size := by
  unfold coveredBy midpointOf
  omega

theorem midpointOf_coveredBy (size : Nat) : midpointOf (coveredBy size) = midpointOf size := by
  unfold coveredBy midpointOf
  omega

theorem halfMeans_take_coveredBy (levels : List Float) :
    halfMeans (levels.take (coveredBy levels.length)) = halfMeans levels := by
  cases levels with
  | nil => rfl
  | cons level rest =>
    have covered : coveredBy (level :: rest).length ≤ (level :: rest).length :=
      coveredBy_le (Nat.succ_pos _)
    have length : ((level :: rest).take (coveredBy (level :: rest).length)).length =
        coveredBy (level :: rest).length := by
      rw [List.length_take, Nat.min_eq_left covered]
    have left : midpointOf (level :: rest).length + 1 ≤ coveredBy (level :: rest).length := by
      unfold coveredBy
      omega
    have right : midpointOf (level :: rest).length + 1 ≤
        coveredBy (level :: rest).length - midpointOf (level :: rest).length := by
      unfold coveredBy
      omega
    have filled : ((level :: rest).take (coveredBy (level :: rest).length)).isEmpty = false := by
      simp [coveredBy]
    simp only [halfMeans, filled, length, midpointOf_coveredBy, List.take_take, List.drop_take,
      Nat.min_eq_left left, Nat.min_eq_left right, List.isEmpty_cons]

structure Profile.Shows (p : Profile) (sample : List Reading) : Prop where
  means : halfMeans (levelsOf sample) = .ok p.means
  midpoint : sample[midpointOf sample.length]? = some p.midpoint
  midLevel : p.midpoint.level = some p.midLevel
  first : sample.head?.bind (·.level) = some p.first
  last : p.last.isSome

theorem Profile.ofSample_shows {sample : List Reading} (h : Levelled sample)
    (nonempty : sample ≠ []) : ∃ p, Profile.ofSample sample = .ok p ∧ p.Shows sample := by
  have size : 0 < sample.length := List.length_pos_iff.2 nonempty
  have count : (levelsOf sample).length = sample.length := by rw [h.levelsOf_eq, List.length_map]
  have covered : levelsOf (sample.take (coveredBy sample.length)) =
      (levelsOf sample).take (coveredBy sample.length) := by
    rw [(h.sublist (List.take_sublist _ sample)).levelsOf_eq, h.levelsOf_eq, List.map_take]
  have levelled := mapM_measured (h.sublist (List.take_sublist (coveredBy sample.length) sample))
  rw [covered] at levelled
  have halves := halfMeans_take_coveredBy (levelsOf sample)
  have some_level : levelsOf sample ≠ [] := by
    rw [h.levelsOf_eq]
    simpa using nonempty
  obtain ⟨means, found, midpoint⟩ := halfMeans_midpoint some_level
  rw [count] at halves midpoint
  have inside : midpointOf sample.length < sample.length := by
    unfold midpointOf
    omega
  have reached : midpointOf sample.length < coveredBy sample.length := by
    unfold coveredBy
    omega
  obtain ⟨mid, midAt⟩ : ∃ mid, sample[midpointOf sample.length]? = some mid :=
    ⟨_, List.getElem?_eq_getElem inside⟩
  obtain ⟨midLevel, midLevelled⟩ := Option.isSome_iff_exists.1 (h mid (List.mem_of_getElem? midAt))
  obtain ⟨first, firstLevelled⟩ := Option.isSome_iff_exists.1 (h _ (List.head_mem nonempty))
  have midLevelAt : ((levelsOf sample).take (coveredBy sample.length))[midpointOf
      sample.length]? = some midLevel := by
    rw [List.getElem?_take_of_lt reached, h.levelsOf_eq, List.getElem?_map, midAt,
      Option.map_some, midLevelled, Option.getD_some]
  have firstLevelAt : ((levelsOf sample).take (coveredBy sample.length)).head? = some first := by
    rw [List.head?_take, if_neg (by omega), h.levelsOf_eq, List.head?_map,
      List.head?_eq_some_head nonempty, Option.map_some, firstLevelled, Option.getD_some]
  refine ⟨⟨means, mid, midLevel, first, (sample.getLast nonempty).level⟩, ?_, found, midAt,
    midLevelled, ?_, h _ (List.getLast_mem nonempty)⟩
  · simp only [ofSample, levelled, halves, found, bind, Except.bind, midpoint, midAt, midLevelAt,
      firstLevelAt, List.getLast?_eq_some_getLast nonempty, pure, Except.pure]
  · simp [List.head?_eq_some_head nonempty, firstLevelled]

end FuelTelemetry

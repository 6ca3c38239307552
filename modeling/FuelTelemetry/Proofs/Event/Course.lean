import FuelTelemetry.Proofs.Event.Names
import Mathlib.Data.List.DropRight

/-!
What an event tells of the steps that it has taken: the last word on its success, the last duration and
the metrics. A metric is what it was last set to and all that was added since. A step that is refused
changes none of this, so an event goes on with its next step.
-/

namespace FuelTelemetry

namespace EventStep

def verdict? : EventStep → Option Bool
  | error _ _ | failure _ => some false
  | success => some true
  | _ => none

def durations : EventStep → List Json
  | context entries => (entries.filter fun entry => entry.1 = "duration_ms").map Prod.snd
  | _ => []

def sets? (key : String) : EventStep → Option Json
  | business name value => if name = key then some value else none
  | _ => none

def adds? (key : String) : EventStep → Option Json
  | increment name amount => if name = key then some amount else none
  | _ => none

theorem sets?_business (key : String) (value : Json) :
    (business key value).sets? key = some value := if_pos rfl

theorem sets?_business_of_ne {name key : String} (different : name ≠ key) (value : Json) :
    (business name value).sets? key = none := if_neg different

theorem adds?_increment (key : String) (amount : Json) :
    (increment key amount).adds? key = some amount := if_pos rfl

theorem adds?_increment_of_ne {name key : String} (different : name ≠ key) (amount : Json) :
    (increment name amount).adds? key = none := if_neg different

/-- Context that does not mark its event, has no metrics and records durations as numbers. -/
def Fits : EventStep → Prop
  | context entries => "success" ∉ entries.map Prod.fst ∧
      Event.businessMetrics ∉ entries.map Prod.fst ∧
      ∀ entry ∈ entries, entry.1 = "duration_ms" → entry.2.amount?.isSome
  | _ => True

instance : DecidablePred Fits
  | context entries => inferInstanceAs (Decidable (_ ∧ _ ∧ ∀ entry ∈ entries, _))
  | business _ _ | technical _ _ | increment _ _ | error _ _ | success | failure _ | timed _ _ =>
    .isTrue trivial

end EventStep

namespace Event

variable {key : String} {steps : List EventStep} {step : EventStep}

def verdict? (steps : List EventStep) : Option Bool :=
  (steps.filterMap (·.verdict?)).getLast?

def recorded? (steps : List EventStep) : Option Json :=
  (steps.flatMap (·.durations)).getLast?

def lastSet (key : String) (steps : List EventStep) : Json :=
  (steps.filterMap (·.sets? key)).getLast?.getD (.int 0)

def addedSince (key : String) (steps : List EventStep) : List Json :=
  (steps.rtakeWhile fun step => (step.sets? key).isNone).filterMap (·.adds? key)

def total (key : String) (steps : List EventStep) : Except Fault Json :=
  (addedSince key steps).foldlM Json.add (lastSet key steps)

structure Course where
  event : Event
  taken : List EventStep

namespace Course

/-- Takes a step or passes it over if it is refused. -/
def take (c : Course) (step : EventStep) : Course :=
  match c.event.apply step with
  | (e, .ok ()) => ⟨e, c.taken ++ [step]⟩
  | (e, .error _) => ⟨e, c.taken⟩

end Course

def course (e : Event) (steps : List EventStep) : Course :=
  steps.foldl Course.take ⟨e, []⟩

theorem course_concat (e : Event) (steps : List EventStep) (step : EventStep) :
    e.course (steps ++ [step]) = (e.course steps).take step := by
  simp [course]

theorem foldl_take_of_run {e e' : Event} (before : List EventStep)
    (ran : e.run steps = (e', .ok ())) :
    steps.foldl Course.take ⟨e, before⟩ = ⟨e', before ++ steps⟩ := by
  induction steps generalizing e before with
  | nil =>
    cases ran
    rw [List.append_nil, List.foldl_nil]
  | cons step rest ih =>
    unfold run at ran
    split at ran
    next middle applied =>
      have taken : Course.take ⟨e, before⟩ step = ⟨middle, before ++ [step]⟩ := by
        simp only [Course.take, applied]
      rw [List.foldl_cons, taken, ih (before ++ [step]) ran, List.append_assoc,
        List.singleton_append]
    next => cases ran

theorem course_of_run {e e' : Event} (ran : e.run steps = (e', .ok ())) :
    e.course steps = ⟨e', steps⟩ :=
  foldl_take_of_run [] ran

/-! What one more step adds to each part of the history. -/

theorem verdict?_concat :
    verdict? (steps ++ [step]) = step.verdict?.or (verdict? steps) := by
  unfold verdict?
  cases said : step.verdict? <;> simp [said]

theorem recorded?_concat :
    recorded? (steps ++ [step]) = step.durations.getLast?.or (recorded? steps) := by
  simp [recorded?]

theorem total_concat_of_set {value : Json} (set : step.sets? key = some value) :
    total key (steps ++ [step]) = .ok value := by
  have nothing : addedSince key (steps ++ [step]) = [] := by
    rw [addedSince, List.rtakeWhile_concat_neg _ _ _ (by simp [set])]
    rfl
  have last : lastSet key (steps ++ [step]) = value := by simp [lastSet, set]
  rw [total, nothing, last]
  rfl

theorem lastSet_concat (unset : step.sets? key = none) :
    lastSet key (steps ++ [step]) = lastSet key steps := by
  simp [lastSet, unset]

theorem addedSince_concat (unset : step.sets? key = none) :
    addedSince key (steps ++ [step]) = addedSince key steps ++ (step.adds? key).toList := by
  rw [addedSince, List.rtakeWhile_concat_pos _ _ _ (by simp [unset]), List.filterMap_append,
    ← addedSince]
  cases added : step.adds? key <;> simp [added]

theorem total_concat_of_added {value amount : Json} (unset : step.sets? key = none)
    (added : step.adds? key = some amount) (before : total key steps = .ok value) :
    total key (steps ++ [step]) = value.add amount := by
  rw [total] at before
  rw [total, addedSince_concat unset, lastSet_concat unset, added, Option.toList_some,
    List.foldlM_append, before]
  exact bind_pure (value.add amount)

theorem total_concat_of_other (unset : step.sets? key = none) (unadded : step.adds? key = none) :
    total key (steps ++ [step]) = total key steps := by
  rw [total, addedSince_concat unset, lastSet_concat unset, unadded, Option.toList_none,
    List.append_nil, ← total]

/-! What one step leaves of an event, taken or refused. -/

section

variable {e e' : Event} {fault : Fault}

theorem onGroup_ok {group : String} {change : Json → Except Fault Json}
    (applied : e.onGroup group change = (e', .ok ())) :
    ∃ metrics, change (e.get group (.object [])) = .ok metrics ∧ e' = e.set group metrics := by
  unfold onGroup at applied
  split at applied
  next metrics changed =>
    cases applied
    exact ⟨metrics, changed, rfl⟩
  next => cases applied

theorem onGroup_error {group : String} {change : Json → Except Fault Json}
    (applied : e.onGroup group change = (e', .error fault)) :
    e' = e.set group (e.group group) := by
  unfold onGroup at applied
  split at applied <;> cases applied
  rfl

theorem setMetric_ok {group : String} {value : Json}
    (applied : e.setMetric group key value = (e', .ok ())) :
    ∃ metrics, e.get group (.object []) = .object metrics ∧
      e' = e.set group (.object (Table.put key value metrics)) := by
  obtain ⟨metrics, changed, rfl⟩ := onGroup_ok applied
  cases found : e.get group (.object []) with
  | object before =>
    rw [found] at changed
    cases changed
    exact ⟨before, rfl, rfl⟩
  | _ =>
    rw [found] at changed
    cases changed

theorem addToMetric_ok {group : String} {amount : Json}
    (applied : e.addToMetric group key amount = (e', .ok ())) :
    ∃ metrics sum, e.get group (.object []) = .object metrics ∧
      ((Table.get? key metrics).getD (.int 0)).add amount = .ok sum ∧
      e' = e.set group (.object (Table.put key sum metrics)) := by
  obtain ⟨metrics, changed, rfl⟩ := onGroup_ok applied
  cases found : e.get group (.object []) with
  | object before =>
    rw [found] at changed
    obtain ⟨found, looked, changed⟩ := Except.bind_ok changed
    cases looked
    obtain ⟨sum, summed, put⟩ := Except.bind_ok changed
    cases put
    exact ⟨before, sum, rfl, summed, rfl⟩
  | _ =>
    rw [found] at changed
    cases changed

/-- A step that is refused opens a group at most. -/
theorem apply_error (applied : e.apply step = (e', .error fault)) :
    e' = e ∨ ∃ group ∈ [businessMetrics, technicalMetrics, timings],
      e' = e.set group (e.group group) := by
  cases step with
  | context entries =>
    simp only [apply] at applied
    split at applied <;> cases applied
    exact .inl rfl
  | business _ _ | technical _ _ | increment _ _ | timed _ _ =>
    simp only [apply, setMetric, addToMetric] at applied
    refine .inr ⟨_, ?_, onGroup_error applied⟩
    decide
  | error cause details =>
    simp only [apply, addError] at applied
    split at applied
    · split at applied <;> cases applied
      exact .inl rfl
    · cases applied
      exact .inl rfl
  | success => cases applied
  | failure reason => cases applied

theorem get_set_self (group : String) (value default : Json) :
    (e.set group value).get group default = value := by
  rw [get, get?_set_self, Option.getD_some]

theorem get_set_group (group name : String) :
    (e.set group (e.group group)).get name (.object []) = e.get name (.object []) := by
  by_cases same : name = group
  · subst same
    exact get_set_self ..
  · rw [get, get?_set_of_ne _ same, ← get]

theorem get?_success_apply (fits : step.Fits) (applied : e.apply step = (e', .ok ())) :
    e'.context.get? "success" =
      (step.verdict?.map Json.bool).or (e.context.get? "success") := by
  cases step with
  | context entries => exact get?_of_apply e applied fits.1
  | error cause details =>
    simp only [apply, addError] at applied
    split at applied
    · split at applied <;> cases applied
      exact get?_set_self ..
    · cases applied
  | success =>
    cases applied
    exact get?_set_self ..
  | failure reason =>
    cases applied
    exact (get?_set_of_ne _ (by decide) _).trans (get?_set_self ..)
  | _ =>
    exact get?_of_apply e applied
      (by simp [EventStep.names, businessMetrics, technicalMetrics, timings])

theorem get?_duration_apply (applied : e.apply step = (e', .ok ())) :
    e'.context.get? "duration_ms" =
      step.durations.getLast?.or (e.context.get? "duration_ms") := by
  cases step with
  | context entries =>
    simp only [apply] at applied
    split at applied <;> cases applied
    exact Table.get?_merge ..
  | _ =>
    exact get?_of_apply e applied
      (by simp [EventStep.names, businessMetrics, technicalMetrics, timings])

def Counts (e : Event) (steps : List EventStep) : Prop :=
  ∃ metrics, e.get businessMetrics (.object []) = .object metrics ∧
    ∀ key, total key steps = .ok ((Table.get? key metrics).getD (.int 0))

theorem Counts.business {name : String} {value : Json} (counts : e.Counts steps)
    (applied : e.apply (.business name value) = (e', .ok ())) :
    e'.Counts (steps ++ [.business name value]) := by
  obtain ⟨metrics, found, counted⟩ := counts
  obtain ⟨before, found', rfl⟩ := setMetric_ok applied
  obtain rfl : before = metrics := by simpa [found] using found'.symm
  refine ⟨_, get_set_self .., fun key => ?_⟩
  by_cases same : name = key
  · subst same
    rw [total_concat_of_set (EventStep.sets?_business name value), Table.get?_put_self,
      Option.getD_some]
  · rw [total_concat_of_other (EventStep.sets?_business_of_ne same value) rfl, counted,
      Table.get?_put_of_ne (Ne.symm same)]

theorem Counts.increment {name : String} {amount : Json} (counts : e.Counts steps)
    (applied : e.apply (.increment name amount) = (e', .ok ())) :
    e'.Counts (steps ++ [.increment name amount]) := by
  obtain ⟨metrics, found, counted⟩ := counts
  obtain ⟨before, sum, found', summed, rfl⟩ := addToMetric_ok applied
  obtain rfl : before = metrics := by simpa [found] using found'.symm
  refine ⟨_, get_set_self .., fun key => ?_⟩
  by_cases same : name = key
  · subst same
    rw [total_concat_of_added rfl (EventStep.adds?_increment name amount) (counted name), summed,
      Table.get?_put_self, Option.getD_some]
  · rw [total_concat_of_other rfl (EventStep.adds?_increment_of_ne same amount), counted,
      Table.get?_put_of_ne (Ne.symm same)]

theorem Counts.other (counts : e.Counts steps) (applied : e.apply step = (e', .ok ()))
    (absent : businessMetrics ∉ step.names)
    (idle : ∀ key, step.sets? key = none ∧ step.adds? key = none) :
    e'.Counts (steps ++ [step]) := by
  obtain ⟨metrics, found, counted⟩ := counts
  refine ⟨metrics, ?_, fun key => ?_⟩
  · rw [get, get?_of_apply e applied absent, ← get, found]
  · rw [total_concat_of_other (idle key).1 (idle key).2, counted]

theorem Counts.apply (counts : e.Counts steps) (fits : step.Fits)
    (applied : e.apply step = (e', .ok ())) : e'.Counts (steps ++ [step]) := by
  cases step with
  | business name value => exact counts.business applied
  | increment name amount => exact counts.increment applied
  | context entries => exact counts.other applied fits.2.1 fun key => ⟨rfl, rfl⟩
  | _ =>
    exact counts.other applied
      (by simp [EventStep.names, businessMetrics, technicalMetrics, timings])
      fun key => ⟨rfl, rfl⟩

theorem Counts.openGroup (counts : e.Counts steps) (group : String) :
    (e.set group (e.group group)).Counts steps := by
  simpa only [Counts, get_set_group] using counts

end

namespace Course

/-- An event that says what its steps did. -/
structure Tells (c : Course) : Prop where
  marked : c.event.context.get? "success" = (verdict? c.taken).map .bool
  timed : c.event.context.get? "duration_ms" = recorded? c.taken
  counted : c.event.Counts c.taken
  fitting : ∀ step ∈ c.taken, step.Fits

variable {c : Course} {e' : Event} {fault : Fault}

theorem Tells.refused (told : c.Tells) (applied : c.event.apply step = (e', .error fault)) :
    Tells ⟨e', c.taken⟩ := by
  obtain rfl | ⟨group, among, rfl⟩ := apply_error applied
  · exact told
  · have others : ∀ group ∈ [businessMetrics, technicalMetrics, timings],
        "success" ≠ group ∧ "duration_ms" ≠ group := by decide
    obtain ⟨unmarked, untimed⟩ := others group among
    exact ⟨(get?_set_of_ne _ unmarked _).trans told.marked,
      (get?_set_of_ne _ untimed _).trans told.timed, told.counted.openGroup group, told.fitting⟩

theorem Tells.take (told : c.Tells) (fits : step.Fits) : (c.take step).Tells := by
  unfold Course.take
  split
  next e' applied =>
    refine ⟨?_, ?_, told.counted.apply fits applied, ?_⟩
    · rw [get?_success_apply fits applied, told.marked, verdict?_concat, Option.map_or]
    · rw [get?_duration_apply applied, told.timed, recorded?_concat]
    · exact List.forall_mem_append.2 ⟨told.fitting, by simpa using fits⟩
  next e' fault applied => exact told.refused applied

end Course

theorem course_tells (operation : String) (request trace : Option String)
    (fits : ∀ step ∈ steps, step.Fits) :
    ((start operation request trace).course steps).Tells := by
  induction steps using List.reverseRecOn with
  | nil =>
    refine ⟨get?_start (by decide), get?_start (by decide), ⟨[], ?_, fun key => rfl⟩, ?_⟩
    · rw [course, List.foldl_nil, get, get?_start (by decide)]
      rfl
    · exact fun step listed => absurd listed List.not_mem_nil
  | append_singleton steps step ih =>
    rw [course_concat]
    exact (ih fun other listed => fits other (List.mem_append_left _ listed)).take
      (fits step (by simp))

end Event

end FuelTelemetry

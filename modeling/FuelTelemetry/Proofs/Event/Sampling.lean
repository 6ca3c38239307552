import FuelTelemetry.Proofs.Event.Course

/-!
Which events are kept, read off the steps that they have taken. Without a random draw an event is
kept if the last step that marks it says failure, if its duration is too long, or if one of the
critical metrics is true. A duration that nobody has recorded counts as 0.
-/

namespace FuelTelemetry

theorem Json.exceeds_ok {a b : Json} (number : a.amount?.isSome) (number' : b.amount?.isSome) :
    ∃ answer, a.exceeds b = .ok answer := by
  obtain ⟨x, left⟩ := Option.isSome_iff_exists.1 number
  obtain ⟨y, right⟩ := Option.isSome_iff_exists.1 number'
  exact ⟨x.exceeds y, by cases a <;> cases b <;> simp_all [Json.exceeds, Json.amount?]⟩

theorem Json.truthy_getD (value : Option Json) :
    (value.getD .null).truthy = (value.getD (.int 0)).truthy := by
  cases value <;> rfl

namespace Event

variable {steps : List EventStep}

def Failed (steps : List EventStep) : Prop :=
  verdict? steps = some false

def Detects (steps : List EventStep) : Prop :=
  ∃ key ∈ critical, ∃ value, total key steps = .ok value ∧ value.truthy = true

theorem recorded?_number (fits : ∀ step ∈ steps, step.Fits) :
    ((recorded? steps).getD (.int 0)).amount?.isSome := by
  cases last : recorded? steps with
  | none => rfl
  | some value =>
    obtain ⟨step, listed, among⟩ := List.mem_flatMap.1 (List.mem_of_getLast? last)
    cases step with
    | context entries =>
      obtain ⟨entry, found, rfl⟩ := List.mem_map.1 among
      obtain ⟨found, named⟩ := List.mem_filter.1 found
      exact (fits _ listed).2.2 entry found (by simpa using named)
    | _ => cases among

theorem isCritical_iff {metrics : List (String × Json)}
    (counted : ∀ key, total key steps = .ok ((Table.get? key metrics).getD (.int 0))) :
    isCritical metrics = true ↔ Detects steps := by
  simp [isCritical, Detects, List.any_eq_true, counted, Json.truthy_getD]

namespace Course

variable {c : Course}

theorem Tells.shouldEmit_iff (told : c.Tells) {slow : Json} (number : slow.amount?.isSome)
    (rate draw : Float) :
    ∃ kept, c.event.shouldEmit rate slow draw = .ok kept ∧
      (kept = true ↔ Failed c.taken ∨
        ((recorded? c.taken).getD (.int 0)).exceeds slow = .ok true ∨ Detects c.taken ∨
        draw < rate) := by
  obtain ⟨metrics, found, counted⟩ := told.counted
  obtain ⟨long, compared⟩ := Json.exceeds_ok (recorded?_number told.fitting) number
  have marked : (c.event.get "success" (.bool true)).truthy =
      (verdict? c.taken).getD true := by
    rw [get, told.marked]
    cases verdict? c.taken <;> rfl
  have duration : c.event.get "duration_ms" (.int 0) = (recorded? c.taken).getD (.int 0) := by
    rw [get, told.timed]
  rw [shouldEmit, marked, duration, compared, found]
  by_cases failed : Failed c.taken
  · refine ⟨true, ?_, by simp [failed]⟩
    rw [show verdict? c.taken = some false from failed]
    rfl
  · have passed : (verdict? c.taken).getD true = true := by
      cases said : verdict? c.taken with
      | none => rfl
      | some success => cases success with
        | true => rfl
        | false => exact absurd said failed
    rw [passed]
    cases long with
    | true => exact ⟨true, rfl, by simp⟩
    | false =>
      refine ⟨isCritical metrics || draw < rate, rfl, ?_⟩
      simp [failed, isCritical_iff counted]

theorem Tells.emit (told : c.Tells) (kept : Failed c.taken ∨ Detects c.taken) (level : String)
    (moment : Moment) :
    (c.event.emit level false moment).2 = .ok (some ⟨level, c.event.operation ++ "_complete",
      c.event.context.put "duration_ms" (.float moment.elapsed)⟩) := by
  -- the emission records the duration as a step with this context would
  let step : EventStep := .context [("duration_ms", .float moment.elapsed)]
  have fits : step.Fits := by simp [step, EventStep.Fits, businessMetrics, Json.amount?]
  have timed : (c.take step).Tells := told.take fits
  obtain ⟨answer, sampled, why⟩ := timed.shouldEmit_iff (by rfl : defaultSlow.amount?.isSome)
    defaultRate moment.draw
  have yes : answer = true := by
    refine why.2 (kept.imp (fun failed => ?_) fun detected => .inr (.inl ?_))
    · exact verdict?_concat.trans failed
    · obtain ⟨key, listed, value, counted, truthy⟩ := detected
      exact ⟨key, listed, value, (total_concat_of_other rfl rfl).trans counted, truthy⟩
  have same : (c.take step).event = c.event.setDuration moment.elapsed := rfl
  rw [same] at sampled
  simp only [Event.emit, Bool.false_eq_true, if_false, sampled, yes]
  rfl

end Course

/-- Whether an event is kept without a draw, and what an emission logs of it if it failed or detected
something. Steps that are refused are passed over. -/
theorem sampled_by_history (operation : String) (request trace : Option String)
    (fits : ∀ step ∈ steps, step.Fits) {slow : Json} (number : slow.amount?.isSome) :
    let c := (start operation request trace).course steps
    (∀ draw : Float, ¬ draw < 0.0 → ∃ kept, c.event.shouldEmit 0.0 slow draw = .ok kept ∧
      (kept = true ↔ Failed c.taken ∨
        ((recorded? c.taken).getD (.int 0)).exceeds slow = .ok true ∨ Detects c.taken)) ∧
    (Failed c.taken ∨ Detects c.taken → ∀ (level : String) (moment : Moment),
      (c.event.emit level false moment).2 = .ok (some ⟨level, c.event.operation ++ "_complete",
        c.event.context.put "duration_ms" (.float moment.elapsed)⟩)) := by
  intro c
  have told : c.Tells := course_tells operation request trace fits
  refine ⟨fun draw undrawn => ?_, told.emit⟩
  obtain ⟨kept, decided, why⟩ := told.shouldEmit_iff number 0.0 draw
  refine ⟨kept, decided, why.trans ?_⟩
  simp only [undrawn, or_false]

theorem sampled_by_history_detected :
    let steps : List EventStep :=
      [.context [("device_id", .int 7), ("duration_ms", .int 20)], .failure (.text "late"),
        .increment "fuel_fill_detected" (.int 2), .success,
        .increment "fuel_fill_detected" (.int (-1))]
    let e := ((start "sync" none none).course steps).event
    (∀ step ∈ steps, step.Fits) ∧ e.shouldEmit 0.0 (.int 1000) 0.5 = .ok true ∧
      (e.emit "info" false ⟨30.0, 0.5⟩).2 = .ok (some ⟨"info", "sync_complete",
        [("operation", .text "sync"), ("device_id", .int 7), ("duration_ms", .float 30.0),
          ("success", .bool true), ("failure_reason", .text "late"),
          ("business_metrics", .object [("fuel_fill_detected", .int 1)])]⟩) := by
  intro steps e
  have fits : ∀ step ∈ steps, step.Fits := by decide
  have number : (Json.int 1000).amount?.isSome := rfl
  have sampled := sampled_by_history "sync" none none fits number
  have detected : Detects ((start "sync" none none).course steps).taken :=
    ⟨"fuel_fill_detected", by decide, .int 1, rfl, rfl⟩
  obtain ⟨kept, decided, why⟩ := sampled.1 0.5 (by decide)
  rw [why.2 (.inr (.inr detected))] at decided
  exact ⟨fits, decided, sampled.2 (.inr detected) _ _⟩

/-- An event without a duration is too long for a threshold below 0. -/
theorem unrecorded_too_long :
    ¬ ∀ (operation : String) (request trace : Option String) (steps : List EventStep) (slow : Json),
      (∀ step ∈ steps, step.Fits) → slow.amount?.isSome →
      let c := (start operation request trace).course steps
      ∀ draw : Float, ¬ draw < 0.0 → ∃ kept, c.event.shouldEmit 0.0 slow draw = .ok kept ∧
        (kept = true ↔ Failed c.taken ∨
          (∃ duration, recorded? c.taken = some duration ∧ duration.exceeds slow = .ok true) ∨
          Detects c.taken) := by
  intro sampled
  obtain ⟨kept, decided, why⟩ :=
    sampled "sync" none none [] (.int (-1)) (by decide) rfl 0.5 (by decide)
  have long : (start "sync" none none).shouldEmit 0.0 (.int (-1)) 0.5 = .ok true := rfl
  cases long.symm.trans decided
  rcases why.1 rfl with failed | ⟨duration, recorded, _⟩ | ⟨key, _, value, counted, truthy⟩
  · cases failed
  · cases recorded
  · cases counted
    cases truthy

end Event

end FuelTelemetry

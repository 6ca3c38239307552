import FuelTelemetry.Proofs.Event.Tracked

/-!
What is logged of a tracked operation. However its body dealt with its event, one call goes out, drawn
or not: at `info` with success if the body came to its end, and at `error` with the fault if it failed.
All else that the context and the body put into the event goes along. The outcome is that of the body,
unless the log refuses the call. This holds of any log and of values of any type.
-/

namespace FuelTelemetry

open EventValue (ofJson)

variable {V α : Type} [EventValue V]

def Event.parameterNames : List String := ["event", "self", "operation", "method_name"]

/-- A call for an operation whose body left an event and ended in some way. -/
inductive LogCall.Closes (c : LogCall V) (e : Event V) : Except Fault α → Prop
  | returned (value : α) (level : c.level = "info")
    (success : c.fields.get? "success" = some (ofJson (.bool true)))
    (kept : ∀ name ∉ ["success", "duration_ms"], c.fields.get? name = e.context.get? name) :
    c.Closes e (.ok value)
  | raised {fault : Fault} {text : String} (told : fault.text? = some text)
    (level : c.level = "error") (success : c.fields.get? "success" = some (ofJson (.bool false)))
    (error : c.fields.get? "error" = some (EventValue.object [("type", ofJson (.text fault.name)),
      ("message", ofJson (.text text)), ("details", EventValue.object [])]))
    (reason : c.fields.get? "failure_reason" = some (ofJson (.text text)))
    (kept : ∀ name ∉ ["error", "success", "failure_reason", "duration_ms"],
      c.fields.get? name = e.context.get? name) :
    c.Closes e (.error fault)

theorem Fault.text_of_told {fault : Fault} {text : String} (told : fault.text? = some text) :
    fault.text = text := by
  rw [Fault.text, told, Option.getD_some]

namespace Event

variable (e : Event V)

theorem level_closingCall {success : Bool}
    (marked : e.context.get? "success" = some (ofJson (.bool success))) (elapsed : Float) :
    (e.closingCall elapsed).level = if success then "info" else "error" := by
  unfold closingCall logCall succeeded get
  rw [marked, Option.getD_some, EventValue.truthy_bool]

theorem markSuccess_closes (value : α) (elapsed : Float) :
    (e.markSuccess.closingCall elapsed).Closes e (.ok value) := by
  have marked : e.markSuccess.context.get? "success" = some (ofJson (.bool true)) :=
    get?_set_self e _ _
  refine .returned value (level_closingCall _ marked elapsed) ?_ fun name other => ?_
  · exact (get?_closingCall _ _ (by decide)).trans marked
  · simp only [List.mem_cons, List.not_mem_nil, or_false, not_or] at other
    exact (get?_closingCall _ _ other.2).trans (get?_set_of_ne e other.1 _)

theorem markFault_closes {fault : Fault} {text : String} (told : fault.text? = some text)
    (elapsed : Float) :
    (((e.recordError fault text []).markFailure (ofJson (.text text))).closingCall elapsed).Closes e
      (.error fault : Except Fault α) := by
  let failed := (e.recordError fault text []).markFailure (ofJson (.text text))
  have marked : failed.context.get? "success" = some (ofJson (.bool false)) :=
    (get?_set_of_ne _ (by decide) _).trans (get?_set_self _ _ _)
  have error : failed.context.get? "error" = some (EventValue.object
      [("type", ofJson (.text fault.name)), ("message", ofJson (.text text)),
        ("details", EventValue.object [])]) :=
    (get?_markFailure _ (by decide)).trans
      ((get?_set_of_ne _ (by decide) _).trans (get?_set_self _ _ _))
  have reason : failed.context.get? "failure_reason" = some (ofJson (.text text)) :=
    get?_set_self _ _ _
  refine .raised told (level_closingCall failed marked elapsed) ?_ ?_ ?_ fun name other => ?_
  · exact (get?_closingCall _ _ (by decide)).trans marked
  · exact (get?_closingCall _ _ (by decide)).trans error
  · exact (get?_closingCall _ _ (by decide)).trans reason
  · simp only [List.mem_cons, List.not_mem_nil, or_false, not_or] at other
    rw [get?_closingCall _ _ other.2.2.2, get?_markFailure _ (by simp [other]),
      get?_recordError _ (by simp [other])]

theorem closedBy_closes {ended : Except Fault α}
    (told : ∀ fault, ended = .error fault → fault.text?.isSome) (elapsed : Float) :
    ((e.closedBy ended).closingCall elapsed).Closes e ended := by
  cases ended with
  | ok value => exact markSuccess_closes e value elapsed
  | error fault =>
    obtain ⟨text, shown⟩ := Option.isSome_iff_exists.1 (told fault rfl)
    rw [closedBy, Fault.text_of_told shown]
    exact markFault_closes e shown elapsed

end Event

variable {operation : String} {context : List (String × V)} {steps : List (EventStep V)}

/-- A tracked operation whose context and steps bring no parameter's name is logged by one call, which
says how the body ended and has all else that was put into its event. The outcome is that of the body
if the log takes the call, and else the refusal. -/
theorem track_logs_once (log : Log V)
    (free : ∀ name ∈ Event.parameterNames,
      name ∉ context.map Prod.fst ∧ ∀ step ∈ steps, name ∉ step.names)
    {ending : Except Fault α} (told : ∀ fault,
      (((Event.opened operation context).run steps).2 >>= fun _ => ending) = .error fault →
        fault.text?.isSome) (moment : Event.Moment) :
    let left := (Event.opened operation context).run steps
    let ended := left.2 >>= fun _ => ending
    let tracked := track log operation context steps ending moment
    ∃ call, tracked.call = some call ∧ call.Closes left.1 ended ∧
      (∀ record, log call = .ok record → tracked.outcome = ended) ∧
      ∀ refusal, log call = .error refusal → tracked.outcome = .error refusal := by
  intro left ended tracked
  have taken : Event.refuse ["operation", "self"] context = .ok () :=
    Event.refuse_of_lacks fun name listed =>
      Table.get?_of_not_mem (free name (by revert name; decide)).1
  let call := (left.1.closedBy ended).closingCall moment.elapsed
  have made : tracked = .after call ended (log call) := track_of_taken taken log moment
  rw [made]
  refine ⟨call, Tracked.call_after _, Event.closedBy_closes _ told _, ?_, ?_⟩
  · intro record logged
    rw [logged]
    rfl
  · intro refusal refused
    rw [refused]
    rfl

theorem track_logs_once_failed :
    let context : List (String × Json) := [("device_id", .int 7), ("success", .bool true)]
    let steps : List EventStep := [.business "readings_replayed" (.int 3), .success]
    let ending : Except Fault Unit := .error (.foreign "ValueError" "bad")
    let tracked := track LogCall.record? "sync" context steps ending ⟨0.0, 0.0⟩
    (∀ name ∈ Event.parameterNames,
      name ∉ context.map Prod.fst ∧ ∀ step ∈ steps, name ∉ step.names) ∧
    tracked.outcome = ending ∧ ∃ call, tracked.call = some call ∧
      call.Closes ((Event.opened "sync" context).run steps).1 ending := by
  intro context steps ending tracked
  have free : ∀ name ∈ Event.parameterNames,
      name ∉ context.map Prod.fst ∧ ∀ step ∈ steps, name ∉ step.names := by decide
  have told : ∀ fault, (((Event.opened "sync" context).run steps).2 >>= fun _ => ending) =
      .error fault → fault.text?.isSome := by
    intro fault raised
    obtain rfl : Fault.foreign "ValueError" "bad" = fault := Except.error.inj raised
    rfl
  obtain ⟨call, logged, closes, reraised, -⟩ :=
    track_logs_once LogCall.record? free told ⟨0.0, 0.0⟩
  have made : tracked.call =
      some ((((Event.opened "sync" context).run steps).1.closedBy ending).closingCall 0.0) := rfl
  obtain rfl := Option.some.inj (made.symm.trans logged)
  exact ⟨free, reraised _ rfl, _, logged, closes⟩

/-- A failed operation that filled the text of its event with a number. -/
theorem track_not_reraised :
    ¬ ∀ (operation : String) (context : List (String × Json)) (steps : List EventStep)
      (ending : Except Fault Unit) (moment : Event.Moment),
      (∀ name ∈ Event.parameterNames,
        name ∉ context.map Prod.fst ∧ ∀ step ∈ steps, name ∉ step.names) →
      (track LogCall.record? operation context steps ending moment).outcome =
        (((Event.opened operation context).run steps).2 >>= fun _ => ending) := by
  intro reraised
  have same := reraised "sync" [("positional_args", .int 7)] []
    (.error (.foreign "ValueError" "bad")) ⟨0.0, 0.0⟩ (by decide)
  have refused : (track LogCall.record? "sync" [("positional_args", .int 7)] []
      (.error (.foreign "ValueError" "bad") : Except Fault Unit) ⟨0.0, 0.0⟩).outcome =
      .error .incompatible := rfl
  rw [refused] at same
  cases same

end FuelTelemetry

import FuelTelemetry.Proofs.Event.Names

/-!
Tracked operations. Whatever the body of an operation did, its event is closed by how the body ended
and goes out in one call of the log, which has all that was put into the event. The receiver's log
refuses a call only for names that it keeps to itself, and no step puts such a name into an event by
itself: as long as neither the context nor the steps bring one, the outcome is that of the body.
-/

namespace FuelTelemetry

namespace LogCall

/-- The names that a written call cannot have, and the one that fills its text. -/
def reserved : List String := ["event", "self", "method_name", "_record", argumentName]

theorem phrase_of_not_truthy {argument : Json} (empty : argument.truthy = false) (event : String) :
    phrase event argument = .ok event := by
  simp [phrase, empty]

/-- A call with no name of a parameter leaves a record, if `_record` and the argument say nothing. -/
theorem record?_written {c : LogCall} {word : String} (level : Level.ofName c.level = .written word)
    (free : ∀ name ∈ ["event", "self", "method_name"], c.fields.get? name = none)
    (empty : c.field "_record" = .null) (plain : (c.field argumentName).truthy = false) :
    ∃ record, c.record? = .ok (some record) := by
  have accepted : Event.refuse (Level.written word).parameters c.fields = .ok () :=
    Event.refuse_of_lacks free
  unfold record? recordAt written
  simp only [level, accepted, empty, phrase_of_not_truthy plain]
  exact ⟨_, rfl⟩

end LogCall

theorem Tracked.call_after {V α : Type} {call : LogCall V} {outcome : Except Fault α}
    (answer : Except Fault (Option LogRecord)) : (after call outcome answer).call = some call := by
  cases answer <;> rfl

namespace Event

variable {V α : Type} [EventValue V] {name : String} (e : Event V)

def closedBy : Except Fault α → Event V
  | .ok _ => e.markSuccess
  | .error fault =>
    (e.recordError fault fault.text []).markFailure (EventValue.ofJson (.text fault.text))

def succeeded : Bool := EventValue.truthy (e.get "success" (EventValue.ofJson (.bool true)))

def closingCall (elapsed : Float) : LogCall V :=
  (e.setDuration elapsed).logCall (if e.succeeded then "info" else "error")

theorem get?_closedBy (ended : Except Fault α)
    (other : name ∉ ["error", "success", "failure_reason"]) :
    (e.closedBy ended).context.get? name = e.context.get? name := by
  simp only [List.mem_cons, List.not_mem_nil, or_false, not_or] at other
  cases ended with
  | ok value => exact get?_set_of_ne e other.2.1 _
  | error fault =>
    exact (get?_markFailure _ (by simp [other])).trans (get?_recordError e (by simp [other]))

theorem exists_written (elapsed : Float) :
    ∃ word, Level.ofName (e.closingCall elapsed).level = .written word := by
  unfold closingCall logCall
  cases e.succeeded
  · exact ⟨"error", rfl⟩
  · exact ⟨"info", rfl⟩

theorem get?_closingCall (elapsed : Float) (other : name ≠ "duration_ms") :
    (e.closingCall elapsed).fields.get? name = e.context.get? name :=
  get?_set_of_ne e other _

theorem conclude_eq (steps : List (EventStep V)) (ending : Except Fault α) :
    e.conclude steps ending =
      ((e.run steps).1.closedBy ((e.run steps).2 >>= fun _ => ending),
        (e.run steps).2 >>= fun _ => ending) := by
  unfold conclude
  rcases e.run steps with ⟨after, fault | ⟨⟩⟩
  · cases ending <;> rfl
  · cases ending <;> rfl

def ownNames : List String :=
  ["operation", "request_id", "trace_id", "error", "success", "failure_reason", "duration_ms"]

theorem reserved_not_own : ∀ name ∈ LogCall.reserved, name ∉ ownNames := by decide

end Event

section

variable {V α : Type} [EventValue V] {operation : String} {context : List (String × V)}
  {steps : List (EventStep V)} {ending : Except Fault α}

theorem track_of_taken (taken : Event.refuse ["operation", "self"] context = .ok ())
    (log : Log V) (moment : Event.Moment) :
    track log operation context steps ending moment =
      let left := (Event.opened operation context).run steps
      let ended := left.2 >>= fun _ => ending
      let call := (left.1.closedBy ended).closingCall moment.elapsed
      .after call ended (log call) := by
  simp only [track, taken, Event.conclude_eq]
  rfl

theorem get?_trackedCall {name : String} (other : name ∉ Event.ownNames)
    (absent : name ∉ context.map Prod.fst) (unstepped : ∀ step ∈ steps, name ∉ step.names)
    (ended : Except Fault α) (elapsed : Float) :
    ((((Event.opened operation context).run steps).1.closedBy ended).closingCall
      elapsed).fields.get? name = none := by
  simp only [Event.ownNames, List.mem_cons, List.not_mem_nil, or_false, not_or] at other
  rw [Event.get?_closingCall _ _ (by simp [other]), Event.get?_closedBy _ _ (by simp [other]),
    Event.get?_run _ unstepped, Event.opened, Event.get?_addContext _ absent,
    Event.get?_start (by simp [other])]

end

section

variable {α : Type} {operation : String} {context : List (String × Json)}
  {steps : List EventStep} {ending : Except Fault α}

theorem track_eq (taken : Event.refuse ["operation", "self"] context = .ok ())
    (free : ∀ name ∈ LogCall.reserved,
      name ∉ context.map Prod.fst ∧ ∀ step ∈ steps, name ∉ step.names)
    (ran : ((Event.opened operation context).run steps).2 = .ok ())
    (moment : Event.Moment) :
    ∃ record,
      (track LogCall.record? operation context steps ending moment).logged = some record ∧
      (track LogCall.record? operation context steps ending moment).outcome = ending := by
  rw [track_of_taken taken]
  simp only [ran]
  generalize onCall : Event.closingCall (V := Json) _ moment.elapsed = call
  have lacks : ∀ name ∈ LogCall.reserved, call.fields.get? name = none := by
    intro name listed
    rw [← onCall]
    exact get?_trackedCall (Event.reserved_not_own name listed) (free name listed).1
      (free name listed).2 _ _
  have empty : call.field "_record" = .null := by
    rw [LogCall.field, lacks "_record" (by decide), Option.getD_none]
  have plain : (call.field LogCall.argumentName).truthy = false := by
    rw [LogCall.field, lacks LogCall.argumentName (by decide), Option.getD_none]
    rfl
  have parameters : ∀ name ∈ ["event", "self", "method_name"], call.fields.get? name = none :=
    fun name listed => lacks name (by revert name; decide)
  have written : ∃ word, Level.ofName call.level = .written word := by
    rw [← onCall]
    exact Event.exists_written _ _
  obtain ⟨word, level⟩ := written
  obtain ⟨record, logged⟩ := LogCall.record?_written level parameters empty plain
  rw [logged]
  exact ⟨record, rfl, rfl⟩

end

end FuelTelemetry

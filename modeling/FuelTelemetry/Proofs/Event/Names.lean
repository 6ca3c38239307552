import FuelTelemetry.Event.Emission
import Mathlib.Data.List.Induction

/-!
The names of an event. Every step has names that it puts something under, whether it is taken or
refused, and so have the end of an operation and the steps that tracking takes by itself. What an
event has under any other name stays what it is.
-/

namespace FuelTelemetry

theorem Table.get?_of_not_mem {κ α : Type} [DecidableEq κ] {key : κ} {table : Table κ α}
    (absent : key ∉ table.keys) : table.get? key = none := by
  induction table with
  | nil => rfl
  | cons entry rest ih =>
    rw [keys, List.map_cons, List.mem_cons, not_or] at absent
    rw [get?, if_neg (Ne.symm absent.1)]
    exact ih absent.2

theorem Table.get?_merge {κ α : Type} [DecidableEq κ] (key : κ) (table : Table κ α)
    (entries : List (κ × α)) :
    (table.merge entries).get? key =
      ((entries.filter fun entry => entry.1 = key).map Prod.snd).getLast?.or (table.get? key) := by
  induction entries using List.reverseRecOn with
  | nil => rfl
  | append_singleton entries entry ih =>
    rw [merge_concat]
    by_cases same : entry.1 = key
    · subst same
      simp [get?_put_self]
    · rw [get?_put_of_ne (Ne.symm same), ih]
      simp [same]

theorem Table.get?_merge_of_not_mem {κ α : Type} [DecidableEq κ] {key : κ}
    {entries : List (κ × α)} (other : key ∉ entries.map Prod.fst) (table : Table κ α) :
    (table.merge entries).get? key = table.get? key := by
  have none : entries.filter (fun entry => entry.1 = key) = [] := by
    rw [List.filter_eq_nil_iff]
    intro entry listed same
    exact other (List.mem_map.2 ⟨entry, listed, by simpa using same⟩)
  rw [get?_merge, none]
  rfl

def EventStep.names {V : Type} : EventStep V → List String
  | context entries => entries.map Prod.fst
  | business _ _ | increment _ _ => [Event.businessMetrics]
  | technical _ _ => [Event.technicalMetrics]
  | error _ _ => ["error", "success"]
  | success => ["success"]
  | failure _ => ["success", "failure_reason"]
  | timed _ _ => [Event.timings]

namespace Event

variable {V : Type}

theorem refuse_of_lacks {taken : List String} {entries : List (String × V)}
    (lacks : ∀ name ∈ taken, Table.get? name entries = none) : refuse taken entries = .ok () := by
  unfold refuse
  rw [List.find?_eq_none.2 fun name listed => by simp [Table.contains, lacks name listed]]

variable {name : String} (e : Event V)

theorem get?_set_self (name : String) (value : V) :
    (e.set name value).context.get? name = some value :=
  Table.get?_put_self name value e.context

theorem get?_set_of_ne {other : String} (different : name ≠ other) (value : V) :
    (e.set other value).context.get? name = e.context.get? name :=
  Table.get?_put_of_ne different value e.context

theorem get?_addContext {entries : List (String × V)} (absent : name ∉ entries.map Prod.fst) :
    (e.addContext entries).context.get? name = e.context.get? name :=
  Table.get?_merge_of_not_mem absent e.context

variable [EventValue V]

theorem get?_recordError {cause : Fault} {text : String} {details : List (String × V)}
    (absent : name ∉ ["error", "success"]) :
    (e.recordError cause text details).context.get? name = e.context.get? name := by
  simp only [List.mem_cons, List.not_mem_nil, or_false, not_or] at absent
  exact (get?_set_of_ne _ absent.2 _).trans (get?_set_of_ne e absent.1 _)

theorem get?_addError {cause : Fault} {details : List (String × V)}
    (absent : name ∉ ["error", "success"]) :
    (e.addError cause details).1.context.get? name = e.context.get? name := by
  unfold addError
  cases cause.text? with
  | some text => exact get?_recordError e absent
  | none => rfl

theorem get?_markFailure {reason : V} (absent : name ∉ ["success", "failure_reason"]) :
    (e.markFailure reason).context.get? name = e.context.get? name := by
  simp only [List.mem_cons, List.not_mem_nil, or_false, not_or] at absent
  exact (get?_set_of_ne _ absent.2 _).trans (get?_set_of_ne e absent.1 _)

theorem get?_onGroup {group : String} (different : name ≠ group) (change : V → Except Fault V) :
    (e.onGroup group change).1.context.get? name = e.context.get? name := by
  unfold onGroup
  split <;> exact get?_set_of_ne e different _

theorem get?_apply {step : EventStep V} (absent : name ∉ step.names) :
    (e.apply step).1.context.get? name = e.context.get? name := by
  cases step with
  | context entries =>
    unfold apply
    simp only
    split
    · exact get?_addContext e absent
    · rfl
  | business _ _ | technical _ _ | increment _ _ | timed _ _ =>
    exact get?_onGroup e (List.ne_of_not_mem_cons absent) _
  | error cause details =>
    unfold apply
    simp only
    split
    · exact get?_addError e absent
    · rfl
  | success => exact get?_set_of_ne e (List.ne_of_not_mem_cons absent) _
  | failure reason => exact get?_markFailure e absent

theorem get?_of_apply {step : EventStep V} {e' : Event V} {outcome : Except Fault Unit}
    (applied : e.apply step = (e', outcome)) (absent : name ∉ step.names) :
    e'.context.get? name = e.context.get? name := by
  rw [← get?_apply e absent, applied]

theorem get?_run {steps : List (EventStep V)} (absent : ∀ step ∈ steps, name ∉ step.names) :
    (e.run steps).1.context.get? name = e.context.get? name := by
  induction steps generalizing e with
  | nil => rfl
  | cons step rest ih =>
    rw [List.forall_mem_cons] at absent
    unfold run
    split
    next e' applied => exact (ih e' absent.2).trans (get?_of_apply e applied absent.1)
    next e' fault applied => exact get?_of_apply e applied absent.1

theorem get?_start {operation : String} {request trace : Option String}
    (other : name ∉ ["operation", "request_id", "trace_id"]) :
    (start operation request trace : Event V).context.get? name = none := by
  simp only [List.mem_cons, List.not_mem_nil, or_false, not_or] at other
  have given (label : String) (text : Option String) (rest : Table String V)
      (different : name ≠ label) :
      Table.get? name (nonemptyEntry label text ++ rest) = rest.get? name := by
    unfold nonemptyEntry
    cases text.filter (· ≠ "") with
    | none => rfl
    | some text => exact if_neg (Ne.symm different)
  have last := given "trace_id" trace [] other.2.2
  rw [List.append_nil] at last
  unfold start
  rw [Table.get?, if_neg (Ne.symm other.1), given "request_id" request _ other.2.1, last]
  rfl

end Event

end FuelTelemetry

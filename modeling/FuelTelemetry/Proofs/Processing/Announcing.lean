import FuelTelemetry.Proofs.Json.Unwritable
import FuelTelemetry.Proofs.Processing.Assignment

/-!
Announcements do not fail. An activity that the detector confirmed has the readings at both of its
ends, so there is nothing that the announcement names and does not find. As long as the log and the
sink fail with errors that have texts, and the device has a number that can be written, processing
comes to its result, whether or not they fail.
-/

namespace FuelTelemetry

variable {σ : Type}

theorem Fault.told_ok {f : Fault} (has : f.text?.isSome) : ∃ text, f.told = .ok text := by
  obtain ⟨text, written⟩ := Option.isSome_iff_exists.1 has
  exact ⟨text, by rw [told, written]⟩

namespace Activity

variable {a : Activity}

theorem Ended.ends_ok (h : a.Ended) : ∃ both, a.ends = .ok both := by
  obtain ⟨start, started⟩ := Option.isSome_iff_exists.1 h.start
  obtain ⟨stop, stopped⟩ := Option.isSome_iff_exists.1 h.stop
  exact ⟨(start, stop), by rw [ends, started, stopped]⟩

def Nameable (a : Activity) : Prop := ∀ device, a.device = some device → ¬ Text.Overlong device

theorem loss_ok {cause : Fault} (has : cause.text?.isSome) (nameable : a.Nameable) :
    ∃ text, a.loss cause = .ok text := by
  obtain ⟨told, written⟩ := Fault.told_ok has
  have report : (Fault.raised (.publishing s!"Failed to publish fuel activity: {told}" a.device
      (some a.kind.word))).text?.isSome := by
    refine ErrorReport.text?_isSome fun field listed => ?_
    rcases List.mem_append.1 listed with device | kind
    · obtain ⟨n, known, rfl⟩ : ∃ n, a.device = some n ∧ ("device_id", Json.int n) = field := by
        simpa [ErrorReport.intDetail] using device
      exact fun h => nameable n known (Json.unwritable_int_iff.1 h)
    · obtain ⟨-, rfl⟩ : _ ∧ ("activity_type", Json.text a.kind.word) = field := by
        simpa [ErrorReport.nonemptyDetail, ErrorReport.textDetail, Option.filter] using kind
      exact nofun
  obtain ⟨text, reported⟩ := Fault.told_ok report
  refine ⟨text, ?_⟩
  rw [loss, written]
  exact reported

theorem display_device (nameable : a.Nameable) :
    ∃ trace, (Json.ofOption Json.int a.device).display = .ok trace := by
  rcases Json.display_cases (Json.ofOption Json.int a.device) with ⟨trace, written, -⟩ | ⟨-, h⟩
  · exact ⟨trace, written⟩
  · cases known : a.device with
    | none =>
      rw [known] at h
      cases h
    | some device =>
      rw [known] at h
      exact absurd (Json.unwritable_int_iff.1 h) (nameable device known)

theorem record?_event (a : Activity) (trace metric : String) :
    let begun : Event := (Event.start "fuel_activity" none (some trace)).addContext
      [("activity", a.toJson)]
    let marked := begun.setMetric Event.businessMetrics metric (.bool true)
    marked.2 = .ok () ∧
      ∃ record, ((marked.1.markSuccess.setDuration 0.0).logCall "info").record? =
        .ok (some record) := by
  by_cases empty : trace = ""
  · subst empty
    exact ⟨rfl, _, rfl⟩
  · have named : Event.nonemptyEntry "trace_id" (some trace) = [("trace_id", Json.text trace)] := by
      rw [Event.nonemptyEntry, Option.filter, if_pos (by simpa using empty)]
      rfl
    unfold Event.start
    rw [named]
    exact ⟨rfl, _, rfl⟩

theorem record_ok (nameable : a.Nameable) :
    ∃ record, a.record [] .atOnce = .ok (some record) := by
  obtain ⟨trace, written⟩ := display_device nameable
  let metric := if a.kind = .fill then "fuel_fill_detected" else "fuel_drain_detected"
  obtain ⟨marked, record, made⟩ := record?_event a trace metric
  refine ⟨record, ?_⟩
  unfold Activity.record
  rw [written]
  exact (congrArg (· >>= fun _ => _) marked).trans made

end Activity

/-- Collaborators that fail with errors that have texts. -/
structure Collaborators.Excusable (c : Collaborators σ) : Prop where
  log : ∀ record world fault, (c.log record world).1 = .error fault → fault.text?.isSome
  publish : ∀ a world fault, (c.publish a world).1 = .error fault → fault.text?.isSome

namespace Collaborators

variable {c : Collaborators σ} {a : Activity}

theorem Excusable.handOver_eq (h : c.Excusable) (nameable : a.Nameable) (world : σ) :
    c.handOver a world = (.ok (), (c.publish a world).2) := by
  unfold handOver
  rcases handed : c.publish a world with ⟨cause | taken, after⟩
  · obtain ⟨text, reported⟩ :=
      Activity.loss_ok (h.publish a world cause (by rw [handed])) nameable
    simp only [reported]
    rfl
  · rfl

theorem Excusable.proclaim_eq (h : c.Excusable) (ended : a.Ended) (nameable : a.Nameable)
    (world : σ) : c.proclaim a world = (.ok (), c.announce a world) := by
  obtain ⟨both, found⟩ := ended.ends_ok
  obtain ⟨record, made⟩ := Activity.record_ok nameable
  unfold proclaim announce
  rw [found]
  simp only [tell, made]
  rcases logged : c.log record world with ⟨cause | taken, after⟩
  · obtain ⟨text, told⟩ := Fault.told_ok (h.log record world cause (by rw [logged]))
    simp only [told]
    exact h.handOver_eq nameable after
  · exact h.handOver_eq nameable after

end Collaborators

namespace Processor

/-- Processing a reading comes to its result, with all that its announcement may fail at. -/
theorem attempt_eq {c : Collaborators σ} (h : c.Excusable) {r : Reading}
    (nameable : ¬ Text.Overlong r.device) (p : Processor) (mode : Mode) (world : σ) :
    p.attempt c mode r world = (((p.process c mode r world).1.1,
      .ok (p.process c mode r world).1.2), (p.process c mode r world).2) := by
  unfold attempt process
  rw [settle_eq]
  simp only
  cases confirmed : (p.carryOut mode r (c.assign r world).1).2.outcome.activity with
  | none => rfl
  | some a =>
    obtain ⟨own, assigned, b, ended, rfl⟩ := carryOut_located (c.assign_assigned r world) confirmed
    have known : (b.located own.key).Nameable := by
      rintro device ⟨⟩
      have given := c.assign_assigned r world
      rw [assigned] at given
      cases given with
      | keep own_device _ | enter _ _ own_device _ => exact own_device ▸ nameable
    simp only [h.proclaim_eq (a := b.located own.key) ⟨ended.start, ended.stop⟩ known]
    rfl

end Processor

end FuelTelemetry

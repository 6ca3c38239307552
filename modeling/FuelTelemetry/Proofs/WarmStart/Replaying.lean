import FuelTelemetry.Processing.WarmStart
import FuelTelemetry.Proofs.Event.Tracked
import FuelTelemetry.Proofs.Processing.Interleaving
import Mathlib.Algebra.GroupWithZero.Nat

/-!
The replay of a device. Backfill leaves detector entries and activities alone, whatever it meets, and
what it does to the windows follows from the windows and the ids alone. So a load does to the windows
of a processor what backfill of the history in time order does, and counts each reading once. Its
record is never refused, so that only the log itself can take the place of its result.
-/

namespace FuelTelemetry

open Time (Stamp)

variable {σ : Type}

namespace Track

variable (s : Settings) (t : Track) (r : Reading)

theorem keep_quiet : (t.keep s r).1.armed = t.armed ∧ (t.keep s r).2.outcome.activity = none := by
  unfold keep
  split <;> exact ⟨rfl, rfl⟩

theorem enter_quiet (key : SensorKey) (curve : Curve) (raw : RawValue) :
    (t.enter s key .backfill curve raw r).1.armed = t.armed ∧
      (t.enter s key .backfill curve raw r).2.outcome.activity = none := by
  unfold enter
  simp only
  split <;> exact ⟨rfl, rfl⟩

end Track

theorem Assignment.perform_quiet (a : Assignment) (s : Settings) (r : Reading) (t : Track) :
    (a.perform s .backfill r t).1.armed = t.armed ∧
      (a.perform s .backfill r t).2.outcome.activity = none := by
  rcases a with ⟨key, _ | ⟨curve, raw⟩⟩
  · exact t.keep_quiet s r
  · exact t.enter_quiet s r key curve raw

theorem Assigned.device {r : Reading} {given : Except Outcome Assignment} {a : Assignment}
    (h : Assigned r given) (ready : given = .ok a) : a.key.device = r.device := by
  subst ready
  cases h <;> assumption

namespace Processor

variable {p q : Processor} {r : Reading} {mode : Mode} {c : Collaborators σ}

theorem carryOut_quiet {given : Except Outcome Assignment} (assigned : Assigned r given)
    (p : Processor) :
    (p.carryOut .backfill r given).2.outcome.activity = none ∧
      ∀ key, (p.carryOut .backfill r given).1.detector.get? key = p.detector.get? key := by
  cases given with
  | error outcome => cases assigned <;> exact ⟨rfl, fun _ => rfl⟩
  | ok a =>
    obtain ⟨armed, silent⟩ := a.perform_quiet p.settings r (p.track a.key)
    exact ⟨silent, onTrack_armed armed⟩

theorem process_quiet (c : Collaborators σ) (p : Processor) (r : Reading) (world : σ) :
    (p.process c .backfill r world).1.2.outcome.activity = none ∧
      ∀ key, (p.process c .backfill r world).1.1.detector.get? key = p.detector.get? key := by
  rw [process_fst]
  exact carryOut_quiet (c.assign_assigned r world) p

theorem processAll_armed (c : Collaborators σ) (p : Processor) (world : σ) (rs : List Reading)
    (key : SensorKey) :
    (p.processAll c .backfill world rs).1.1.detector.get? key = p.detector.get? key := by
  induction rs generalizing p world with
  | nil => rfl
  | cons r rest ih => exact (ih _ _).trans ((process_quiet c p r world).2 key)

theorem processAll_journaled (c : Collaborators σ) (p : Processor) (world : σ)
    (sent : List Activity) (rs : List Reading) :
    p.processAll c.journaled .backfill (world, sent) rs =
      ((p.processAll c .backfill world rs).1, (p.processAll c .backfill world rs).2, sent) := by
  induction rs generalizing p world with
  | nil => rfl
  | cons r rest ih =>
    have first : p.process c.journaled .backfill r (world, sent) =
        ((p.process c .backfill r world).1, (p.process c .backfill r world).2, sent) := by
      rw [process_journaled, (process_quiet c p r world).1]
      simp
    simp only [Processor.processAll, first, ih]

theorem length_processAll (c : Collaborators σ) (p : Processor) (mode : Mode) (world : σ)
    (rs : List Reading) : (p.processAll c mode world rs).1.2.length = rs.length := by
  induction rs generalizing p world with
  | nil => rfl
  | cons r rest ih => exact congrArg Nat.succ (ih _ _)

structure AgreeOn (here : SensorKey → Prop) (p q : Processor) : Prop where
  settings : p.settings = q.settings
  track : ∀ key, here key → p.track key = q.track key

variable {here : SensorKey → Prop}

theorem AgreeOn.beside (h : AgreeOn here p q) {key : SensorKey} (mine : here key) :
    p.Beside key q :=
  ⟨h.settings, h.track key mine⟩

theorem AgreeOn.symm (h : AgreeOn here p q) : AgreeOn here q p :=
  ⟨h.settings.symm, fun key mine => (h.track key mine).symm⟩

theorem AgreeOn.trans {o : Processor} (h : AgreeOn here p q) (h' : AgreeOn here q o) :
    AgreeOn here p o :=
  ⟨h.settings.trans h'.settings, fun key mine => (h.track key mine).trans (h'.track key mine)⟩

theorem AgreeOn.carryOut (h : AgreeOn here p q) {given : Except Outcome Assignment}
    (own : ∀ a, given = .ok a → here a.key) (mode : Mode) :
    AgreeOn here (p.carryOut mode r given).1 (q.carryOut mode r given).1 ∧
      (p.carryOut mode r given).2 = (q.carryOut mode r given).2 := by
  cases given with
  | error outcome => exact ⟨h, rfl⟩
  | ok a =>
    have mine := own a rfl
    have itself : ∀ b, Except.ok (ε := Outcome) a = .ok b → b.key = a.key := by
      rintro _ ⟨⟩
      rfl
    obtain ⟨beside, result⟩ := (h.beside mine).carryOut (r := r) mode itself
    refine ⟨⟨beside.settings, fun key listed => ?_⟩, result⟩
    by_cases same : key = a.key
    · rw [same]
      exact beside.track
    · simp only [Processor.carryOut, onTrack_track_of_ne same]
      exact h.track key listed

theorem AgreeOn.process (h : AgreeOn here p q) (steady : c.Steady)
    (own : ∀ key : SensorKey, key.device = r.device → here key) (mode : Mode) (world other : σ) :
    AgreeOn here (p.process c mode r world).1.1 (q.process c mode r other).1.1 ∧
      (p.process c mode r world).1.2 = (q.process c mode r other).1.2 := by
  simp only [process_fst, steady.assign_eq r world other]
  exact h.carryOut (fun a given => own a.key ((c.assign_assigned r other).device given)) mode

theorem AgreeOn.processAll (h : AgreeOn here p q) (steady : c.Steady) (rs : List Reading)
    (own : ∀ r ∈ rs, ∀ key : SensorKey, key.device = r.device → here key) (mode : Mode)
    (world other : σ) :
    AgreeOn here (p.processAll c mode world rs).1.1 (q.processAll c mode other rs).1.1 ∧
      (p.processAll c mode world rs).1.2 = (q.processAll c mode other rs).1.2 := by
  induction rs generalizing p q world other with
  | nil => exact ⟨h, rfl⟩
  | cons r rest ih =>
    rw [List.forall_mem_cons] at own
    obtain ⟨after, result⟩ := h.process steady own.1 mode world other
    obtain ⟨afterAll, results⟩ := ih after own.2 _ _
    exact ⟨afterAll, congrArg₂ List.cons result results⟩

end Processor

theorem Counts.sum_ofResults (results : List Result) :
    ((Counts.ofResults results).map Prod.snd).sum = results.length := by
  induction results with
  | nil => rfl
  | cons result rest ih =>
    have step (status : Status) :
        ((result :: rest).filter (·.outcome.status = status)).length =
          (if result.outcome.status = status then 1 else 0) +
            (rest.filter (·.outcome.status = status)).length := by
      rw [List.filter_cons]
      split
      · simp_all
        omega
      · simp_all
    simp only [Counts.ofResults, Status.all, List.map_cons, List.map_nil, List.sum_cons,
      List.sum_nil] at ih ⊢
    rw [step, step, step, step, List.length_cons]
    cases result.outcome.status <;> simp <;> omega

/-- A result, unless the log failed and its fault came out instead. -/
def Collaborators.Reports {α : Type} (c : Collaborators σ) (ending result : Except Fault α) : Prop :=
  result = ending ∨
    ∃ record world fault, (c.log record world).1 = .error fault ∧ result = .error fault

namespace WarmStart

variable {c : Collaborators σ} {loader : Loader} {p : Processor} {device : Int}
  {start stop now : Stamp} {world : σ} {rs : List Reading}

theorem inTimeOrder_of_dated (dated : ∀ r ∈ rs, r.time.isSome) :
    inTimeOrder rs = .ok (rs.mergeSort Reading.notAfter) := by
  have none_undated : (rs.any fun r => r.time.isNone) = false := by
    simpa using fun r hr => Option.isSome_iff_ne_none.1 (dated r hr)
  unfold inTimeOrder
  by_cases few : rs.length ≤ 1
  · have sorted : rs.Pairwise fun a b => a.notAfter b = true := by
      rcases rs with _ | ⟨r, _ | ⟨other, rest⟩⟩
      · exact .nil
      · exact List.pairwise_singleton _ r
      · simp at few
    rw [if_pos few, List.mergeSort_of_pairwise sorted]
  · rw [if_neg few, none_undated]
    rfl

inductive Steps : List EventStep → Prop
  | lost : Steps [.timed "load_history" 0.0, .business "warm_start_failed" (.bool true)]
  | undated : Steps [.timed "load_history" 0.0, .timed "replay" 0.0]
  | replayed (readings counts : Json) :
    Steps [.timed "load_history" 0.0, .timed "replay" 0.0,
      .business "readings_replayed" readings, .business "status_counts" counts]

theorem replay_steps (c : Collaborators σ) (p : Processor) (device : Int) (start stop : Stamp)
    (world : σ) : Steps (replay c p device start stop world).1.2.steps := by
  unfold replay
  simp only
  split
  · exact .lost
  · split
    · exact .undated
    · exact .replayed _ _

theorem Steps.names {steps : List EventStep} (h : Steps steps) :
    ∀ step ∈ steps, step.names = [Event.timings] ∨ step.names = [Event.businessMetrics] := by
  cases h <;> simp [EventStep.names]

theorem Steps.track {steps : List EventStep} (h : Steps steps) (ending : Except Fault Counts)
    (device : Int) (start stop : Stamp) :
    let tracked := track LogCall.record? "fuel_warm_start" [("device_id", .int device),
      ("window_start", .text start.text), ("window_end", .text stop.text)] steps ending .atOnce
    ∃ record, tracked.logged = some record ∧ tracked.outcome = ending := by
  have free : ∀ name ∈ LogCall.reserved, name ∉ ["device_id", "window_start", "window_end"] ∧
      name ∉ [Event.timings] ∧ name ∉ [Event.businessMetrics] := by decide
  intro tracked
  refine track_eq ?_ ?_ ?_ _
  · rfl
  · intro name reserved
    obtain ⟨context, timings, metrics⟩ := free name reserved
    refine ⟨context, fun step taken => ?_⟩
    rcases h.names step taken with names | names <;> rw [names] <;> assumption
  · cases h <;> rfl

theorem trackedReplay_eq (c : Collaborators σ) (p : Processor) (device : Int) (start stop : Stamp)
    (world : σ) :
    let done := replay c p device start stop world
    ∃ record, trackedReplay c p device start stop world =
      ((done.1.1, (c.log record done.2).1.bind fun _ => done.1.2.ending),
        (c.log record done.2).2) := by
  intro done
  obtain ⟨record, logged, outcome⟩ :=
    (replay_steps c p device start stop world).track done.1.2.ending device start stop
  refine ⟨record, ?_⟩
  unfold trackedReplay
  simp only
  rw [logged, outcome]
  simp only
  split <;> rename_i answer <;> rw [answer] <;> rfl

end WarmStart

end FuelTelemetry

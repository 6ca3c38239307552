import FuelTelemetry.Processing.Intake
import FuelTelemetry.Proofs.Processing.Forward

/-!
Results. Whatever a collaborator fails at, a reading that is not held comes to a result, and the
result tells what was done: a skipped reading changed nothing, a stored or processed one went into
the window of one sensor of its device, and an activity is that of a live processed reading and of
this sensor. The sink is handed each activity of a result once, in the order of the results.
-/

namespace FuelTelemetry

open Time (Instant)

namespace Processor

variable {s : Settings} {p : Processor} {mode : Mode} {r : Reading}

structure Inserted (s : Settings) (p after : Processor) (key : SensorKey) (r : Reading) :
    Prop where
  readings : (after.windows.window key).readings =
    latest s.capacity ((p.windows.window key).readings ++ [r])
  others : ∀ other, other ≠ key → after.track other = p.track other

inductive Done (s : Settings) (p : Processor) (mode : Mode) (r : Reading) :
    Processor × Result → Prop
  | skipped (reason : SkipReason) : Done s p mode r (p, ⟨r, .skipped reason⟩)
  | failed (after : Processor) (fault : Fault) : Done s p mode r (after, ⟨r, .failed fault⟩)
  | stored {after : Processor} {sensor : Int} (levelled : r.level.isSome)
    (inserted : Inserted s p after ⟨r.device, sensor⟩ r) : Done s p mode r (after, ⟨r, .stored⟩)
  | processed {after : Processor} {sensor : Int} {level : Float} {activity : Option Activity}
    (inserted : Inserted s p after ⟨r.device, sensor⟩ (r.withLevel level))
    (live : activity.isSome → mode = .live)
    (located : ∀ a, activity = some a → ∃ b : Activity, a = b.located ⟨r.device, sensor⟩) :
    Done s p mode r (after, ⟨r.withLevel level, .processed activity⟩)

theorem Sound.inserted (h : p.Sound s) {key : SensorKey} {r : Reading} {time : Instant}
    (ht : r.time = some time) (armed : Option Armed) :
    Inserted s p (p.setTrack key ⟨(p.windows.window key).receive s.capacity time r, armed⟩) key
      r where
  readings := by
    rw [setTrack, WindowStore.window_setWindow_self]
    exact (h.windows key).readings_receive ht
  others other ne := track_setTrack_of_ne ne p _

theorem Sound.carryOut_done (h : p.Sound s) {given : Except Outcome Assignment}
    (assigned : Assigned r given) (dated : r.time.isSome) :
    Done s p mode r (p.carryOut mode r given) := by
  obtain ⟨time, ht⟩ := Option.isSome_iff_exists.1 dated
  obtain rfl := h.settings
  cases assigned with
  | skipped reason => exact .skipped reason
  | failed fault => exact .failed p fault
  | @keep key own has =>
    obtain ⟨device, sensor⟩ := key
    obtain rfl : device = r.device := own
    have kept := Track.keep_eq (t := p.track ⟨r.device, sensor⟩) (h.windows _) ht
    simp only [Processor.carryOut, Processor.onTrack, Assignment.perform, kept]
    exact .stored has (h.inserted ht _)
  | @enter key curve raw own _ =>
    obtain ⟨device, sensor⟩ := key
    obtain rfl : device = r.device := own
    have entered := Track.enter_entered (t := p.track ⟨r.device, sensor⟩) (h.windows _) ht
      ⟨r.device, sensor⟩ mode curve raw
    have located (a : Activity)
        (found : (Assignment.perform ⟨⟨r.device, sensor⟩, .enter curve raw⟩ p.settings mode r
          (p.track ⟨r.device, sensor⟩)).2.outcome.activity = some a) :
        ∃ b : Activity, a = b.located ⟨r.device, sensor⟩ := by
      obtain ⟨b, -, located⟩ := Assignment.perform_located found
      exact ⟨b, located⟩
    simp only [Processor.carryOut, Processor.onTrack, Assignment.perform] at located ⊢
    generalize (p.track ⟨r.device, sensor⟩).enter p.settings ⟨r.device, sensor⟩ mode curve raw r =
      after at entered located ⊢
    cases entered with
    | refused _ => exact .failed _ _
    | withdrawn _ _ _ _ _ _ => exact .failed _ _
    | @taken mean armed activity _ quiet _ =>
      refine .processed (h.inserted (r := r.withLevel mean) ht armed) (fun some => ?_) located
      cases mode with
      | live => rfl
      | backfill =>
        rw [(quiet rfl).2] at some
        cases some

structure Told (s : Settings) (p : Processor) (mode : Mode) (r : Reading) (sent : List Activity)
    (after : Processor) (result : Result) (sentAfter : List Activity) : Prop where
  reading : ∃ level, result.reading = { r with level }
  skipped : result.outcome.status = .skipped →
    after = p ∧ result.reading = r ∧ sentAfter = sent
  stored : result.outcome.status = .stored →
    result.reading = r ∧ r.level.isSome ∧ result.outcome.activity = none ∧
      ∃ sensor, Inserted s p after ⟨r.device, sensor⟩ r
  activity : ∀ a, result.outcome.activity = some a →
    result.outcome.status = .processed ∧ mode = .live ∧
      ∃ sensor, Inserted s p after ⟨r.device, sensor⟩ result.reading ∧
        a.device = some r.device ∧ a.sensor = some sensor
  sent : sentAfter = sent ++ result.outcome.activity.toList

theorem Done.told {after : Processor × Result} (h : Done s p mode r after) (sent : List Activity) :
    Told s p mode r sent after.1 after.2 (sent ++ after.2.outcome.activity.toList) := by
  cases h with
  | skipped reason =>
    exact {
      reading := ⟨r.level, rfl⟩
      skipped := fun _ => ⟨rfl, rfl, List.append_nil sent⟩
      stored := fun status => by cases status
      activity := fun a found => by cases found
      sent := rfl }
  | failed after fault =>
    exact {
      reading := ⟨r.level, rfl⟩
      skipped := fun status => by cases status
      stored := fun status => by cases status
      activity := fun a found => by cases found
      sent := rfl }
  | @stored after sensor levelled inserted =>
    exact {
      reading := ⟨r.level, rfl⟩
      skipped := fun status => by cases status
      stored := fun _ => ⟨rfl, levelled, rfl, sensor, inserted⟩
      activity := fun a found => by cases found
      sent := rfl }
  | @processed after sensor level activity inserted live located =>
    exact {
      reading := ⟨some level, rfl⟩
      skipped := fun status => by cases status
      stored := fun status => by cases status
      activity := fun a (found : activity = some a) => by
        obtain ⟨b, rfl⟩ := located a found
        exact ⟨rfl, live (by rw [found]; rfl), sensor, inserted, rfl, rfl⟩
      sent := rfl }

variable {σ : Type}

theorem run_journaled (c : Collaborators σ) (p : Processor) (world : σ) (sent : List Activity)
    (xs : List Submission) :
    p.run c.journaled (world, sent) xs = ((p.run c world xs).1, (p.run c world xs).2,
      sent ++ (p.run c world xs).1.2.filterMap (·.result.outcome.activity)) := by
  induction xs generalizing p world sent with
  | nil => simp [run]
  | cons x xs ih =>
    simp only [run, process_journaled, ih, Collaborators.assign_journaled]
    cases found : (p.process c x.mode x.reading world).1.2.outcome.activity with
    | none => simp [found]
    | some a => simp [found]

/-- A reading that is not held comes to a result that tells what was done. In any run the sink is
handed the activities of the results, each once and in their order. -/
theorem submit_told (reachable : Reachable s p) (c : Collaborators σ) (held : List Reading)
    (mode : Mode) (dated : r.time.isSome) (free : mode = .live → p.isWarming r.device = false)
    (world : σ) (sent : List Activity) :
    (∃ after result worldAfter sentAfter,
      Intake.submit c.journaled ⟨p, held⟩ mode r (world, sent) =
        ((⟨after, held⟩, some result), worldAfter, sentAfter) ∧
      Told s p mode r sent after result sentAfter) ∧
    ∀ xs : List Submission, (p.run c.journaled (world, sent) xs).2.2 =
      sent ++ (p.run c.journaled (world, sent) xs).1.2.filterMap (·.result.outcome.activity) := by
  refine ⟨?_, fun xs => by rw [run_journaled]⟩
  have done : Done s p mode r (p.process c mode r world).1 := by
    rw [process_fst]
    exact reachable.sound.carryOut_done (c.assign_assigned r world) dated
  have unheld : ¬ (mode = .live ∧ p.isWarming r.device = true) := by
    rintro ⟨live, warming⟩
    rw [free live] at warming
    cases warming
  refine ⟨_, _, (p.process c mode r world).2, _, ?_, done.told sent⟩
  rw [Intake.submit, if_neg unheld, process_journaled]

end Processor

def InMemory.brokenSink : InMemory :=
  { oneTank with outages := ⟨[], [], [], true⟩ }

namespace Processor

theorem submit_told_brokenSink :
    Reachable .eightAtOnce (new .eightAtOnce) ∧
      (Reading.ofTank 101 (some 0) (some 20.0)).time.isSome ∧
      (new .eightAtOnce).isWarming 1 = false ∧
      (∃ after result worldAfter sentAfter,
        Intake.submit InMemory.collaborators.journaled ⟨new .eightAtOnce, []⟩ .live
            (.ofTank 101 (some 0) (some 20.0)) (.brokenSink, []) =
          ((⟨after, []⟩, some result), worldAfter, sentAfter) ∧
        Told .eightAtOnce (new .eightAtOnce) .live (.ofTank 101 (some 0) (some 20.0)) [] after
          result sentAfter) ∧
      ((new .eightAtOnce).run InMemory.collaborators.journaled (.brokenSink, [])
        Submission.lateRise).2.2.length = 1 := by
  have dated : (Reading.ofTank 101 (some 0) (some 20.0)).time.isSome := by decide
  obtain ⟨result, journal⟩ := submit_told (.new : Reachable .eightAtOnce _) InMemory.collaborators
    [] .live dated (fun _ => rfl) .brokenSink []
  have one : (((new .eightAtOnce).run InMemory.collaborators.journaled (.brokenSink, [])
      Submission.lateRise).1.2.filterMap (·.result.outcome.activity)).length = 1 := by
    decide +kernel
  refine ⟨.new, dated, rfl, result, ?_⟩
  rw [journal, List.nil_append, one]

end Processor

end FuelTelemetry

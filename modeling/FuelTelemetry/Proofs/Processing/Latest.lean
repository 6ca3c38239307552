import FuelTelemetry.Proofs.Processing.Reachable
import FuelTelemetry.Proofs.Window.Latest

/-!
What windows hold after a run. A run is a log of all readings with the sensors that they were
assigned to and their results. As long as nothing unexpected happens, the window of a sensor holds
the latest of the readings that were accepted for it, in time order and equal times in the order of
the run, with the levels that they were given back with.
-/

namespace FuelTelemetry

open Time (Instant)

def Outcome.accepted : Outcome → Bool
  | .processed _ | .stored => true
  | .skipped _ | .failed _ => false

theorem Outcome.expected_failed_iff {fault : Fault} :
    (failed fault).reason ≠ some "unexpected_error" ↔ fault.isCalibration = true := by
  cases calibration : fault.isCalibration <;> simp [reason, calibration]

def Result.taken (result : Result) : List Reading :=
  if result.outcome.accepted then [result.reading] else []

structure Handling where
  key : Option SensorKey
  result : Result

def Handling.taken (h : Handling) (key : SensorKey) : List Reading :=
  if h.key = some key then h.result.taken else []

def accepted (key : SensorKey) (log : List Handling) : List Reading :=
  log.flatMap (·.taken key)

theorem Handling.of_mem_taken {h : Handling} {key : SensorKey} {r : Reading}
    (hr : r ∈ h.taken key) :
    h.key = some key ∧ h.result.outcome.accepted ∧ h.result.reading = r := by
  unfold taken Result.taken at hr
  split at hr
  · rename_i own
    split at hr
    · rename_i yes
      exact ⟨own, yes, (List.mem_singleton.1 hr).symm⟩
    · cases hr
  · cases hr

theorem Outcome.status_of_accepted {outcome : Outcome} (h : outcome.accepted) :
    outcome.status ∈ [Status.processed, Status.stored] := by
  cases outcome with
  | processed _ => exact List.mem_cons_self
  | stored => exact List.mem_cons_of_mem _ List.mem_cons_self
  | skipped _ => cases h
  | failed _ => cases h

structure Submission where
  mode : Mode
  reading : Reading

variable {s : Settings} {mode : Mode} {r : Reading}

theorem Track.Entered.of_expected {curve : Curve} {points : Int} {t : Track} {time : Instant}
    {after : Track × Result} (h : Entered s mode curve points t r time after)
    (sound : t.window.Sound s.capacity)
    (expected : after.2.outcome.reason ≠ some "unexpected_error") :
    (∃ fault, curve.level points = .error fault ∧ fault.isCalibration = true ∧
      after = (t, ⟨r, .failed fault⟩)) ∨
    ∃ mean armed activity, after = (⟨t.window.receive s.capacity time (r.withLevel mean), armed⟩,
      ⟨r.withLevel mean, .processed activity⟩) := by
  cases h with
  | @refused fault unlevelled =>
    have calibration := Outcome.expected_failed_iff.1 expected
    rcases (levelled_error_iff sound).1 unlevelled with failed | ⟨-, -, lost⟩
    · exact .inl ⟨fault, failed, calibration, rfl⟩
    · rw [Reach.bounds_not_calibration lost] at calibration
      cases calibration
  | @taken mean armed activity _ _ _ => exact .inr ⟨mean, armed, activity, rfl⟩
  | withdrawn _ _ _ lost _ _ =>
    have calibration := Outcome.expected_failed_iff.1 expected
    rw [Reach.bounds_not_calibration lost] at calibration
    cases calibration

theorem Assignment.holds_perform {a : Assignment} (assigned : Assigned r (.ok a))
    (dated : r.time.isSome) {t : Track} (sound : t.window.Sound s.capacity)
    (expected : (a.perform s mode r t).2.outcome.reason ≠ some "unexpected_error")
    {before : List Reading} (holds : t.window.Holds s.capacity before) :
    (a.perform s mode r t).1.window.Holds s.capacity
      (before ++ (a.perform s mode r t).2.taken) := by
  obtain ⟨time, ht⟩ := Option.isSome_iff_exists.1 dated
  cases assigned with
  | keep _ _ =>
    simp only [perform, Track.keep_eq sound ht]
    exact holds.receive ht
  | @enter key curve raw _ _ =>
    have entered := Track.enter_entered sound ht key mode curve raw
    simp only [perform] at expected ⊢
    generalize t.enter s key mode curve raw r = after at *
    rcases entered.of_expected sound expected with ⟨_, _, _, rfl⟩ | ⟨mean, armed, activity, rfl⟩
    · simpa [Result.taken, Outcome.accepted] using holds
    · exact holds.receive ht

namespace Processor

variable {p : Processor} {key : SensorKey} {before : List Reading}

/-- Carrying out an assignment adds its reading to the window of its sensor if it accepts it, and
nothing else to any window. -/
theorem Sound.holds_carryOut (h : p.Sound s) {given : Except Outcome Assignment}
    (assigned : Assigned r given) (dated : r.time.isSome)
    (expected : given.toOption.map (·.key) = some key →
      (p.carryOut mode r given).2.outcome.reason ≠ some "unexpected_error")
    (holds : (p.windows.window key).Holds s.capacity before) :
    ((p.carryOut mode r given).1.windows.window key).Holds s.capacity
      (before ++ if given.toOption.map (·.key) = some key then (p.carryOut mode r given).2.taken
        else []) := by
  cases given with
  | error outcome => simpa [Processor.carryOut, Except.toOption] using holds
  | ok a =>
    simp only [Except.toOption, Option.map_some, Option.some.injEq]
    split
    · rename_i own
      subst own
      replace expected := expected rfl
      simp only [Processor.carryOut, onTrack_window_self]
      simp only [Processor.carryOut, Processor.onTrack, h.settings] at expected ⊢
      exact Assignment.holds_perform assigned dated (t := p.track a.key) (h.windows a.key) expected
        holds
    · rename_i other
      simp only [Processor.carryOut, List.append_nil]
      rw [onTrack_window_of_ne (Ne.symm other)]
      exact holds

variable {σ : Type}

def run (c : Collaborators σ) (p : Processor) (world : σ) :
    List Submission → (Processor × List Handling) × σ
  | [] => ((p, []), world)
  | x :: rest =>
    let key := (c.assign x.reading world).1.toOption.map (·.key)
    let ((p, result), world) := p.process c x.mode x.reading world
    let ((p, log), world) := p.run c world rest
    ((p, ⟨key, result⟩ :: log), world)

theorem run_append (c : Collaborators σ) (p : Processor) (world : σ) (xs ys : List Submission) :
    p.run c world (xs ++ ys) =
      let done := p.run c world xs
      let rest := done.1.1.run c done.2 ys
      ((rest.1.1, done.1.2 ++ rest.1.2), rest.2) := by
  induction xs generalizing p world with
  | nil => rfl
  | cons x xs ih => simp only [List.cons_append, run, ih]

theorem length_run (c : Collaborators σ) (p : Processor) (world : σ) (xs : List Submission) :
    (p.run c world xs).1.2.length = xs.length := by
  induction xs generalizing p world with
  | nil => rfl
  | cons x xs ih => simp only [run, List.length_cons, ih]

def handling (c : Collaborators σ) (p : Processor) (world : σ) (x : Submission) : Handling :=
  ⟨(c.assign x.reading world).1.toOption.map (·.key), (p.process c x.mode x.reading world).1.2⟩

theorem run_take_succ (c : Collaborators σ) (p : Processor) (world : σ) {xs : List Submission}
    {n : Nat} {x : Submission} (h : xs[n]? = some x) :
    let done := p.run c world (xs.take n)
    (p.run c world (xs.take (n + 1))).1 =
      ((done.1.1.process c x.mode x.reading done.2).1.1,
        done.1.2 ++ [done.1.1.handling c done.2 x]) := by
  rw [List.take_add_one, h, Option.toList_some, run_append]
  rfl

theorem run_getElem? (c : Collaborators σ) (p : Processor) (world : σ) {xs : List Submission}
    {n : Nat} {x : Submission} (h : xs[n]? = some x) :
    let done := p.run c world (xs.take n)
    (p.run c world xs).1.2[n]? = some (done.1.1.handling c done.2 x) := by
  have inside : n < xs.length := (List.getElem?_eq_some_iff.1 h).1
  have size := length_run c p world (xs.take n)
  have whole : xs = xs.take n ++ x :: xs.drop (n + 1) := by
    rw [← (List.getElem?_eq_some_iff.1 h).2, ← List.drop_eq_getElem_cons inside,
      List.take_append_drop]
  rw [List.length_take, Nat.min_eq_left (Nat.le_of_lt inside)] at size
  have logs := congrArg (·.1.2) (run_append c p world (xs.take n) (x :: xs.drop (n + 1)))
  rw [← whole] at logs
  simp only [run] at logs ⊢
  rw [logs, List.getElem?_append_right (Nat.le_of_eq size), size, Nat.sub_self]
  rfl

theorem Sound.after_run (h : p.Sound s) (c : Collaborators σ) (world : σ) {xs : List Submission}
    (dated : ∀ x ∈ xs, x.reading.time.isSome) : (p.run c world xs).1.1.Sound s := by
  induction xs generalizing p world with
  | nil => exact h
  | cons x xs ih =>
    have first := dated x List.mem_cons_self
    have others : ∀ y ∈ xs, y.reading.time.isSome := fun y hy => dated y (List.mem_cons_of_mem x hy)
    exact ih (h.process c x.mode first world) _ others

theorem lt_of_logged {c : Collaborators σ} {world : σ} {xs : List Submission} {n : Nat}
    {done : Handling} (logged : (p.run c world xs).1.2[n]? = some done) : n < xs.length := by
  rw [← length_run c p world xs]
  exact (List.getElem?_eq_some_iff.1 logged).1

theorem exists_logged (c : Collaborators σ) (p : Processor) (world : σ) {xs : List Submission}
    {n : Nat} (h : n < xs.length) : ∃ done, (p.run c world xs).1.2[n]? = some done :=
  ⟨_, List.getElem?_eq_getElem (by rw [length_run]; exact h)⟩

theorem log_take (c : Collaborators σ) (p : Processor) (world : σ) (xs : List Submission)
    (n : Nat) : (p.run c world (xs.take n)).1.2 = (p.run c world xs).1.2.take n := by
  have whole := congrArg (·.1.2) (run_append c p world (xs.take n) (xs.drop n))
  rw [List.take_append_drop] at whole
  have front : (p.run c world (xs.take n)).1.2 <+: (p.run c world xs).1.2 := ⟨_, whole.symm⟩
  rw [List.prefix_iff_eq_take.1 front, List.take_eq_take_iff, length_run, length_run,
    List.length_take]
  omega

theorem Sound.holds_run_of_key (h : p.Sound s) (c : Collaborators σ) (world : σ) (key : SensorKey)
    {submissions : List Submission} (dated : ∀ x ∈ submissions, x.reading.time.isSome)
    (expected : ∀ done ∈ (p.run c world submissions).1.2, done.key = some key →
      done.result.outcome.reason ≠ some "unexpected_error")
    (holds : (p.windows.window key).Holds s.capacity before) :
    (p.run c world submissions).1.1.Sound s ∧
      ((p.run c world submissions).1.1.windows.window key).Holds s.capacity
        (before ++ accepted key (p.run c world submissions).1.2) := by
  induction submissions generalizing p world before with
  | nil => exact ⟨h, by simpa [run, accepted] using holds⟩
  | cons x rest ih =>
    have first := dated x List.mem_cons_self
    have others : ∀ y ∈ rest, y.reading.time.isSome :=
      fun y hy => dated y (List.mem_cons_of_mem x hy)
    simp only [run, List.mem_cons, forall_eq_or_imp] at expected ⊢
    rw [accepted, List.flatMap_cons, ← List.append_assoc]
    refine ih (h.process c x.mode first world) _ others expected.2 ?_
    have step := expected.1
    simp only [process_fst] at step ⊢
    exact h.holds_carryOut (c.assign_assigned x.reading world) first step holds

theorem Sound.holds_run (h : p.Sound s) (c : Collaborators σ) (world : σ) (key : SensorKey)
    {submissions : List Submission} (dated : ∀ x ∈ submissions, x.reading.time.isSome)
    (expected : ∀ done ∈ (p.run c world submissions).1.2,
      done.result.outcome.reason ≠ some "unexpected_error")
    (holds : (p.windows.window key).Holds s.capacity before) :
    (p.run c world submissions).1.1.Sound s ∧
      ((p.run c world submissions).1.1.windows.window key).Holds s.capacity
        (before ++ accepted key (p.run c world submissions).1.2) :=
  h.holds_run_of_key c world key dated (fun done logged _ => expected done logged) holds

/-- After a run in which nothing unexpected happens, the window of each sensor holds exactly the
latest of the readings that were processed or stored for it. -/
theorem readings_run_new (s : Settings) (c : Collaborators σ) (world : σ)
    (submissions : List Submission) (dated : ∀ x ∈ submissions, x.reading.time.isSome)
    (expected : ∀ done ∈ ((new s).run c world submissions).1.2,
      done.result.outcome.reason ≠ some "unexpected_error") (key : SensorKey) :
    (((new s).run c world submissions).1.1.windows.window key).readings =
        latest s.capacity (accepted key ((new s).run c world submissions).1.2) ∧
      ∀ r ∈ (((new s).run c world submissions).1.1.windows.window key).readings,
        ∃ done ∈ ((new s).run c world submissions).1.2, done.key = some key ∧
          done.result.outcome.status ∈ [Status.processed, Status.stored] ∧
          done.result.reading = r := by
  obtain ⟨sound, holds⟩ := (sound_new s).holds_run c world key dated expected
    (Window.holds_empty s.capacity)
  have readings := holds.readings_eq (sound.windows key)
  rw [List.nil_append] at readings
  refine ⟨readings, fun r hr => ?_⟩
  rw [readings] at hr
  have given := List.mem_mergeSort.1 ((List.drop_sublist _ _).subset hr)
  obtain ⟨done, logged, taken⟩ := List.mem_flatMap.1 given
  obtain ⟨own, yes, same⟩ := done.of_mem_taken taken
  exact ⟨done, logged, own, Outcome.status_of_accepted yes, same⟩

end Processor

def Submission.mixed : List Submission :=
  [⟨.backfill, .ofTank 3 (some 0) none⟩, ⟨.live, .ofTank 1 (some 0) (some 8.0)⟩,
    ⟨.live, .ofTank 2 (some (-1)) none⟩, ⟨.backfill, .ofTank 2 none none⟩]

namespace Processor

theorem readings_run_new_mixed :
    (∀ x ∈ Submission.mixed, x.reading.time.isSome) ∧
      (∀ done ∈ ((new .fourAtOnce).run InMemory.collaborators .oneTank Submission.mixed).1.2,
        done.result.outcome.reason ≠ some "unexpected_error") ∧
      (((new .fourAtOnce).run InMemory.collaborators .oneTank
        Submission.mixed).1.1.windows.window ⟨1, 7⟩).readings =
        latest Settings.fourAtOnce.capacity (accepted ⟨1, 7⟩
          ((new .fourAtOnce).run InMemory.collaborators .oneTank Submission.mixed).1.2) := by
  have dated : ∀ x ∈ Submission.mixed, x.reading.time.isSome := by decide
  have expected :
      ∀ done ∈ ((new .fourAtOnce).run InMemory.collaborators .oneTank Submission.mixed).1.2,
        done.result.outcome.reason ≠ some "unexpected_error" := by decide +kernel
  have held := readings_run_new .fourAtOnce InMemory.collaborators .oneTank Submission.mixed dated
    expected ⟨1, 7⟩
  exact ⟨dated, expected, held.1⟩

end Processor

end FuelTelemetry

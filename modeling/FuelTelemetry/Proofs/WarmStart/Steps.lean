import FuelTelemetry.Proofs.WarmStart.Loading
import FuelTelemetry.Proofs.WarmStart.Tasks

/-!
The load of a device in steps. Each call of a collaborator is one step, and so is what is done to the
track of a sensor, to the gate of a device and to the log. Alone the steps are the load as a whole.
They touch the gate of their own device only, and the tracks of their own device only as far as the
readings belong to it; and they see no more than these tracks.
-/

namespace FuelTelemetry

open Time (Stamp)

structure Collaborators.Reliable {σ : Type} (c : Collaborators σ) : Prop extends c.Steady where
  history : ∀ device start stop world other,
    (c.history device start stop world).1 = (c.history device start stop other).1
  log : ∀ record world, (c.log record world).1 = .ok ()

namespace WarmStart

variable {σ α β : Type}

abbrev LoadTask (σ α : Type) := Task (Processor × σ) α

def ask (call : Call σ β) (next : Except Fault β → LoadTask σ α) : LoadTask σ α :=
  .call (fun s => ((call s.2).1, s.1, (call s.2).2)) next

def change (f : Processor → Processor) (next : LoadTask σ α) : LoadTask σ α :=
  .call (fun s => ((), f s.1, s.2)) fun _ => next

/-- Both lookups for a reading, as far as they are needed. -/
def assigning (c : Collaborators σ) (r : Reading)
    (next : Except Outcome Assignment → LoadTask σ α) : LoadTask σ α :=
  ask (c.linkedSensors r.device) fun
    | .error fault => next (.error (.failed fault))
    | .ok linked =>
      match r.route linked with
      | .error reason => next (.error (.skipped reason))
      | .ok route =>
        let key : SensorKey := ⟨r.device, route.sensor⟩
        if r.hasLevel then next (.ok ⟨key, .keep⟩)
        else ask (c.calibration key) fun
          | .error fault => next (.error (.failed fault))
          | .ok none => next (.error (.skipped .noCalibration))
          | .ok (some curve) => next (.ok ⟨key, .enter curve route.raw⟩)

/-- What is done to the track of a sensor, in one step since only its own device has this track. -/
def carrying (r : Reading) (given : Except Outcome Assignment) (next : Result → LoadTask σ α) :
    LoadTask σ α :=
  .call (fun s => ((s.1.carryOut .backfill r given).2, (s.1.carryOut .backfill r given).1, s.2)) next

def replaying (c : Collaborators σ) (next : List Result → LoadTask σ α) :
    List Reading → LoadTask σ α
  | [] => next []
  | r :: rest => assigning c r fun given => carrying r given fun result =>
    replaying c (fun results => next (result :: results)) rest

def recording (c : Collaborators σ) (device : Int) (start stop : Stamp)
    (next : Except Fault Counts → LoadTask σ α) (done : Replay) : LoadTask σ α :=
  let tracked := track LogCall.record? "fuel_warm_start"
    [("device_id", .int device), ("window_start", .text start.text),
     ("window_end", .text stop.text)] done.steps done.ending .atOnce
  match tracked.logged with
  | none => next tracked.outcome
  | some record => ask (c.log record) fun
    | .ok () => next tracked.outcome
    | .error fault => next (.error fault)

def fetching (c : Collaborators σ) (device : Int) (start stop : Stamp)
    (next : Except Fault Counts → LoadTask σ α) : LoadTask σ α :=
  let finish := recording c device start stop next
  let loaded := EventStep.timed "load_history" 0.0
  let replayed := EventStep.timed "replay" 0.0
  ask (c.history device start stop) fun
    | .error fault => finish ⟨[loaded, .business "warm_start_failed" (.bool true)],
      .error (.historyLost device fault.text)⟩
    | .ok readings =>
      match inTimeOrder readings with
      | .error fault => finish ⟨[loaded, replayed], .error fault⟩
      | .ok ordered => replaying c (fun results =>
        let counts := Counts.ofResults results
        finish ⟨[loaded, replayed, .business "readings_replayed" (.int readings.length),
          .business "status_counts" counts.toJson], .ok counts⟩) ordered

def loading (c : Collaborators σ) (loader : Loader) (device : Int) (now : Stamp) :
    LoadTask σ (Except Fault Counts) :=
  let finish (result : Except Fault Counts) : LoadTask σ (Except Fault Counts) :=
    change (·.finishWarming device) (.ended result)
  change (·.beginWarming device) <| ask (c.linkedSensors device) fun
    | .error fault => finish (.error fault)
    | .ok none | .ok (some []) => finish (.ok [])
    | .ok (some _) =>
      match hoursBefore loader.hours now with
      | .error fault => finish (.error fault)
      | .ok start => fetching c device start now finish

variable (c : Collaborators σ) (p : Processor) (world : σ)

theorem ask_alone (call : Call σ β) (next : Except Fault β → LoadTask σ α) :
    (ask call next).alone (p, world) = (next (call world).1).alone (p, (call world).2) := rfl

theorem change_alone (f : Processor → Processor) (next : LoadTask σ α) :
    (change f next).alone (p, world) = next.alone (f p, world) := rfl

theorem assigning_alone (r : Reading) (next : Except Outcome Assignment → LoadTask σ α) :
    (assigning c r next).alone (p, world) =
      (next (c.assign r world).1).alone (p, (c.assign r world).2) := by
  unfold assigning Collaborators.assign
  rw [ask_alone]
  rcases c.linkedSensors r.device world with ⟨fault | linked, looked⟩
  · rfl
  · cases route : r.route linked with
    | error reason => simp only [route]
    | ok route' =>
      simp only [route]
      split
      · rfl
      · rw [ask_alone]
        rcases c.calibration ⟨r.device, route'.sensor⟩ looked with ⟨fault | _ | curve, after⟩ <;> rfl

theorem replaying_alone (rs : List Reading) (next : List Result → LoadTask σ α) :
    (replaying c next rs).alone (p, world) =
      (next (p.processAll c .backfill world rs).1.2).alone
        ((p.processAll c .backfill world rs).1.1, (p.processAll c .backfill world rs).2) := by
  induction rs generalizing p world next with
  | nil => rfl
  | cons r rest ih =>
    have quiet := (Processor.process_quiet c p r world).1
    have world_eq := Processor.process_snd c p .backfill r world
    rw [quiet] at world_eq
    have first : (carrying r (c.assign r world).1 fun result =>
        replaying c (fun results => next (result :: results)) rest).alone
          (p, (c.assign r world).2) =
        (replaying c (fun results => next ((p.process c .backfill r world).1.2 :: results))
          rest).alone ((p.process c .backfill r world).1.1, (p.process c .backfill r world).2) := by
      rw [world_eq, Processor.process_fst]
      rfl
    rw [replaying, assigning_alone, first, ih]
    rfl

variable {c p world} in
theorem recording_alone {device : Int} {start stop : Stamp} {q : Processor} {done : Replay}
    {later : σ} (replayed : replay c p device start stop world = ((q, done), later))
    (next : Except Fault Counts → LoadTask σ α) :
    (recording c device start stop next done).alone (q, later) =
      (next (trackedReplay c p device start stop world).1.2).alone
        ((trackedReplay c p device start stop world).1.1,
          (trackedReplay c p device start stop world).2) := by
  unfold recording trackedReplay
  rw [replayed]
  simp only
  generalize track LogCall.record? "fuel_warm_start" _ _ _ _ = tracked
  cases tracked.logged with
  | none => rfl
  | some record =>
    simp only [ask_alone]
    rcases c.log record later with ⟨fault | ⟨⟩, after⟩ <;> rfl

theorem fetching_alone (device : Int) (start stop : Stamp)
    (next : Except Fault Counts → LoadTask σ α) :
    (fetching c device start stop next).alone (p, world) =
      (next (trackedReplay c p device start stop world).1.2).alone
        ((trackedReplay c p device start stop world).1.1,
          (trackedReplay c p device start stop world).2) := by
  unfold fetching
  simp only [ask_alone]
  rcases fetched : c.history device start stop world with ⟨fault | readings, after⟩
  · refine recording_alone ?_ next
    simp only [replay, fetched]
  · cases ordered : inTimeOrder readings with
    | error fault =>
      simp only [ordered]
      refine recording_alone ?_ next
      simp only [replay, fetched, ordered]
    | ok rs =>
      simp only [ordered, replaying_alone]
      refine recording_alone ?_ next
      simp only [replay, fetched, ordered]

theorem loading_alone (loader : Loader) (device : Int) (now : Stamp) :
    (loading c loader device now).alone (p, world) =
      ((loadDevice c loader p device now world).1.2, (loadDevice c loader p device now world).1.1,
        (loadDevice c loader p device now world).2) := by
  unfold loading loadDevice loadGated
  simp only [change_alone, ask_alone]
  rcases c.linkedSensors device world with ⟨fault | _ | _ | ⟨first, rest⟩, looked⟩
  · rfl
  · rfl
  · rfl
  · cases hoursBefore loader.hours now with
    | error fault => rfl
    | ok start => exact fetching_alone c _ _ _ _ _ _

variable {c} {loader : Loader} {device : Int} {start stop now : Stamp} {mine : Reading → Prop}
  {holds : LoadTask σ (Except Fault Counts) → Prop}

theorem inTimeOrder_perm {readings rs : List Reading} (ordered : inTimeOrder readings = .ok rs) :
    rs.Perm readings := by
  unfold inTimeOrder at ordered
  split at ordered
  · rw [← Except.ok.inj ordered]
  · split at ordered
    · cases ordered
    · rw [← Except.ok.inj ordered]
      exact List.mergeSort_perm ..

/-- What passes on from later steps to every step that a load takes, as long as it processes none but
its own readings. -/
structure Inherited (c : Collaborators σ) (device : Int) (mine : Reading → Prop)
    (holds : LoadTask σ (Except Fault Counts) → Prop) : Prop where
  ended : ∀ result, holds (.ended result)
  opening : ∀ next, holds next → holds (change (·.beginWarming device) next)
  closing : ∀ next, holds next → holds (change (·.finishWarming device) next)
  linked : ∀ other next, (∀ w, holds (next (c.linkedSensors other w).1)) →
    holds (ask (c.linkedSensors other) next)
  calibration : ∀ key next, (∀ w, holds (next (c.calibration key w).1)) →
    holds (ask (c.calibration key) next)
  history : ∀ start stop next, (∀ w, holds (next (c.history device start stop w).1)) →
    holds (ask (c.history device start stop) next)
  log : ∀ record next, (∀ w, holds (next (c.log record w).1)) → holds (ask (c.log record) next)
  carrying : ∀ r given next, mine r → Assigned r given → (∀ result, holds (next result)) →
    holds (carrying r given next)

namespace Inherited

theorem assigning (h : Inherited c device mine holds) (r : Reading)
    {next : Except Outcome Assignment → LoadTask σ (Except Fault Counts)}
    (later : ∀ given, Assigned r given → holds (next given)) : holds (assigning c r next) := by
  refine h.linked r.device _ fun w => ?_
  rcases (c.linkedSensors r.device w).1 with fault | linked
  · exact later _ (.failed fault)
  · cases route : r.route linked with
    | error reason =>
      simp only [route]
      exact later _ (.skipped reason)
    | ok route' =>
      simp only [route]
      split
      · rename_i has
        exact later _ (.keep rfl has)
      · rename_i lacks
        have unlevelled : r.level = none := by simpa [Reading.hasLevel] using lacks
        refine h.calibration _ _ fun w => ?_
        rcases (c.calibration ⟨r.device, route'.sensor⟩ w).1 with fault | _ | curve
        · exact later _ (.failed fault)
        · exact later _ (.skipped .noCalibration)
        · exact later _ (.enter curve route'.raw rfl unlevelled)

theorem replaying (h : Inherited c device mine holds) {rs : List Reading}
    (own : ∀ r ∈ rs, mine r) {next : List Result → LoadTask σ (Except Fault Counts)}
    (later : ∀ results, holds (next results)) : holds (replaying c next rs) := by
  induction rs generalizing next with
  | nil => exact later []
  | cons r rest ih =>
    rw [List.forall_mem_cons] at own
    exact h.assigning r fun given assigned => h.carrying r given _ own.1 assigned fun result =>
      ih own.2 fun results => later (result :: results)

theorem recording (h : Inherited c device mine holds)
    {next : Except Fault Counts → LoadTask σ (Except Fault Counts)}
    (later : ∀ result, holds (next result)) (done : Replay) :
    holds (recording c device start stop next done) := by
  unfold WarmStart.recording
  simp only
  split
  · exact later _
  · refine h.log _ _ fun w => ?_
    split <;> exact later _

theorem fetching (h : Inherited c device mine holds)
    (own : ∀ w rs, (c.history device start stop w).1 = .ok rs → ∀ r ∈ rs, mine r)
    {next : Except Fault Counts → LoadTask σ (Except Fault Counts)}
    (later : ∀ result, holds (next result)) : holds (fetching c device start stop next) := by
  refine h.history start stop _ fun w => ?_
  cases fetched : (c.history device start stop w).1 with
  | error fault => exact h.recording later _
  | ok readings =>
    simp only
    cases ordered : inTimeOrder readings with
    | error fault => exact h.recording later _
    | ok rs =>
      refine h.replaying (fun r listed => own w readings fetched r ?_) fun results =>
        h.recording later _
      exact (inTimeOrder_perm ordered).mem_iff.1 listed

theorem loading (h : Inherited c device mine holds)
    (own : ∀ start w rs, (c.history device start now w).1 = .ok rs → ∀ r ∈ rs, mine r) :
    holds (loading c loader device now) := by
  have finish : ∀ result : Except Fault Counts,
      holds (change (·.finishWarming device) (.ended result)) :=
    fun result => h.closing _ (h.ended result)
  refine h.opening _ (h.linked device _ fun w => ?_)
  rcases (c.linkedSensors device w).1 with fault | _ | _ | ⟨first, rest⟩
  · exact finish _
  · exact finish _
  · exact finish _
  · simp only
    cases hoursBefore loader.hours now with
    | error fault => exact finish _
    | ok start => exact h.fetching (own start) finish

end Inherited

theorem inherited_always (guarantee : Processor → Processor → Prop) (refl : ∀ p, guarantee p p)
    (opening : ∀ p, guarantee p (p.beginWarming device))
    (closing : ∀ p, guarantee p (p.finishWarming device))
    (carrying : ∀ p r given, mine r → Assigned r given →
      guarantee p (p.carryOut .backfill r given).1) :
    Inherited c device mine fun task => task.Always fun s t => guarantee s.1 t.1 where
  ended _ := trivial
  opening _ later := Task.always_call (fun s => opening s.1) fun _ => later
  closing _ later := Task.always_call (fun s => closing s.1) fun _ => later
  linked _ _ later := Task.always_call (fun s => refl s.1) fun s => later s.2
  calibration _ _ later := Task.always_call (fun s => refl s.1) fun s => later s.2
  history _ _ _ later := Task.always_call (fun s => refl s.1) fun s => later s.2
  log _ _ later := Task.always_call (fun s => refl s.1) fun s => later s.2
  carrying r given _ own assigned later :=
    Task.always_call (fun s => carrying s.1 r given own assigned) fun _ => later _

def Alike (device : Int) (s t : Processor × σ) : Prop :=
  Processor.AgreeOn (fun key => key.device = device) s.1 t.1

/-- A load with readings of its own device sees nothing but the tracks of this device. -/
theorem inherited_blind (reliable : c.Reliable) :
    Inherited c device (fun r => r.device = device) fun task => task.Blind (Alike device) where
  ended _ := trivial
  opening _ later := by
    refine Task.blind_call (fun s t same => ⟨rfl, ?_⟩) fun _ => later
    have left := agreeOn_beginWarming (fun key => key.device = device) s.1 device
    have right := agreeOn_beginWarming (fun key => key.device = device) t.1 device
    exact left.trans (same.trans right.symm)
  closing _ later :=
    Task.blind_call (fun _ _ same => ⟨rfl, ⟨same.settings, same.track⟩⟩) fun _ => later
  linked other _ later :=
    Task.blind_call (fun s t same => ⟨reliable.registry other s.2 t.2, same⟩) fun s => later s.2
  calibration key _ later :=
    Task.blind_call (fun s t same => ⟨reliable.calibration key s.2 t.2, same⟩) fun s => later s.2
  history start stop _ later :=
    Task.blind_call (fun s t same => ⟨reliable.history device start stop s.2 t.2, same⟩)
      fun s => later s.2
  log record _ later :=
    Task.blind_call (fun s t same =>
      ⟨(reliable.log record s.2).trans (reliable.log record t.2).symm, same⟩) fun s => later s.2
  carrying r given _ own assigned later := by
    refine Task.blind_call (fun s t same => ?_) fun _ => later _
    obtain ⟨after, result⟩ := Processor.AgreeOn.carryOut (r := r) same
      (fun a ready => (assigned.device ready).trans own) .backfill
    exact ⟨result, after⟩

end WarmStart

end FuelTelemetry

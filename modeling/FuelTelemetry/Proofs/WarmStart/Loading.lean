import FuelTelemetry.Proofs.WarmStart.Replaying

/-!
Loads of one device. A load whose history was fetched leaves the windows that backfill of the
readings in time order leaves, and its counts. Only the order among readings of one time matters,
since the sort is stable. A load whose history cannot be fetched leaves all windows as they are.
-/

namespace FuelTelemetry

open Time (Stamp)

namespace Reading

/-- Readings in another order, in which those of one time keep theirs. -/
def Reorders (others rs : List Reading) : Prop :=
  ∀ t, others.filter (·.time = t) = rs.filter (·.time = t)

theorem tied_iff {a b : Reading} (ha : a.time.isSome) (hb : b.time.isSome) :
    StableSort.tied notAfter a b = true ↔ b.time = a.time := by
  obtain ⟨t, ht⟩ := Option.isSome_iff_exists.1 ha
  obtain ⟨u, hu⟩ := Option.isSome_iff_exists.1 hb
  simp only [StableSort.tied, notAfter, ht, hu, Option.map_some, Option.getD_some, Bool.and_eq_true,
    decide_eq_true_eq, Option.some.injEq]
  rw [← Nat.le_antisymm_iff, eq_comm]
  exact ⟨fun same => by cases t; cases u; simp_all, fun same => by rw [same]⟩

theorem Reorders.mem_iff {others rs : List Reading} (h : Reorders others rs) (r : Reading) :
    r ∈ others ↔ r ∈ rs := by
  have both (l : List Reading) : r ∈ l ↔ r ∈ l.filter (·.time = r.time) := by simp
  rw [both others, h, ← both rs]

theorem Reorders.mergeSort_eq {others rs : List Reading} (h : Reorders others rs)
    (dated : ∀ r ∈ rs, r.time.isSome) : others.mergeSort notAfter = rs.mergeSort notAfter := by
  have refl (r : Reading) : r.notAfter r = true := by simp [notAfter]
  have sorted (l : List Reading) := List.pairwise_mergeSort notAfter_trans notAfter_total l
  refine StableSort.eq_of_sorted refl (sorted others) (sorted rs) fun a listed => ?_
  have member : a ∈ rs := by
    rcases listed with listed | listed
    · exact (h.mem_iff a).1 (List.mem_mergeSort.1 listed)
    · exact List.mem_mergeSort.1 listed
  have timed : ∀ l : List Reading, (∀ r ∈ l, r ∈ rs) →
      l.filter (StableSort.tied notAfter a) = l.filter (·.time = a.time) :=
    fun l known => List.filter_congr fun x hx => by
      rw [Bool.eq_iff_iff, tied_iff (dated a member) (dated x (known x hx)), decide_eq_true_eq]
  rw [StableSort.filter_mergeSort notAfter_trans notAfter_total,
    StableSort.filter_mergeSort notAfter_trans notAfter_total,
    timed others fun r hr => (h.mem_iff r).1 hr, timed rs fun _ hr => hr, h]

end Reading

def Collaborators.Fetches {σ : Type} (c : Collaborators σ) (loader : Loader) (device : Int)
    (now : Stamp) (world : σ) (answer : Except Fault (List Reading)) : Prop :=
  ∃ first rest start, (c.linkedSensors device world).1 = .ok (some (first :: rest)) ∧
    WarmStart.hoursBefore loader.hours now = .ok start ∧
      (c.history device start now (c.linkedSensors device world).2).1 = answer

theorem Collaborators.Fetches.unique {σ : Type} {c : Collaborators σ} {loader : Loader} {device : Int}
    {now : Stamp} {world : σ} {answer other : Except Fault (List Reading)}
    (h : c.Fetches loader device now world answer) (h' : c.Fetches loader device now world other) :
    answer = other := by
  obtain ⟨_, _, start, -, hours, answered⟩ := h
  obtain ⟨_, _, start', -, hours', answered'⟩ := h'
  obtain rfl : start = start' := Except.ok.inj (hours.symm.trans hours')
  exact answered.symm.trans answered'

namespace WarmStart

variable {σ : Type} {c : Collaborators σ} {loader : Loader} {p : Processor} {device : Int}
  {start stop now : Stamp} {world : σ} {rs : List Reading} {fault : Fault}
  {answer : Except Fault (List Reading)}

theorem replay_lost (lost : (c.history device start stop world).1 = .error fault) :
    (replay c p device start stop world).1.1 = p ∧
      (replay c p device start stop world).1.2.ending =
        .error (.historyLost device fault.text) := by
  unfold replay
  simp only
  split <;> simp_all

theorem replay_fetched (fetched : (c.history device start stop world).1 = .ok rs)
    (dated : ∀ r ∈ rs, r.time.isSome) :
    let replayed := p.processAll c .backfill (c.history device start stop world).2
      (rs.mergeSort Reading.notAfter)
    (replay c p device start stop world).1.1 = replayed.1.1 ∧
      (replay c p device start stop world).1.2.ending = .ok (Counts.ofResults replayed.1.2) := by
  intro replayed
  unfold replay
  simp only
  split <;> rename_i found
  · rw [found] at fetched
    cases fetched
  · rw [found] at fetched
    cases fetched
    simp only [inTimeOrder_of_dated dated, replayed, found, and_self]

theorem loadDevice_of_fetches (fetches : c.Fetches loader device now world answer)
    (p : Processor) :
    ∃ start looked, (c.history device start now looked).1 = answer ∧
      let done := replay c (p.beginWarming device) device start now looked
      (loadDevice c loader p device now world).1.1 = done.1.1.finishWarming device ∧
        c.Reports done.1.2.ending (loadDevice c loader p device now world).1.2 := by
  obtain ⟨first, rest, start, linked, hours, answered⟩ := fetches
  refine ⟨start, (c.linkedSensors device world).2, answered, ?_⟩
  intro done
  obtain ⟨record, tracked⟩ := trackedReplay_eq c (p.beginWarming device) device start now
    (c.linkedSensors device world).2
  have gated : loadGated c loader (p.beginWarming device) device now world =
      trackedReplay c (p.beginWarming device) device start now (c.linkedSensors device world).2 := by
    unfold loadGated
    split <;> simp_all
  have loaded : (loadDevice c loader p device now world).1 =
      (done.1.1.finishWarming device, (c.log record done.2).1.bind fun _ => done.1.2.ending) := by
    unfold loadDevice
    rw [gated, tracked]
  rw [loaded]
  refine ⟨rfl, ?_⟩
  cases logged : (c.log record done.2).1 with
  | ok => exact .inl rfl
  | error fault => exact .inr ⟨record, done.2, fault, logged, rfl⟩

theorem agreeOn_beginWarming (here : SensorKey → Prop) (p : Processor) (device : Int) :
    Processor.AgreeOn here (p.beginWarming device) p := by
  unfold Processor.beginWarming
  split <;> exact ⟨rfl, fun _ _ => rfl⟩

/-- What a load does with the readings of its history: windows and counts are those of backfill in
time order, each reading is counted once, and no detector entry changes. -/
structure Replays (c : Collaborators σ) (p : Processor) (world : σ) (rs : List Reading)
    (done : Processor × Except Fault Counts) : Prop where
  windows : ∀ key, done.1.windows.window key =
    (p.processAll c .backfill world (rs.mergeSort Reading.notAfter)).1.1.windows.window key
  returns : c.Reports (.ok (Counts.ofResults
    (p.processAll c .backfill world (rs.mergeSort Reading.notAfter)).1.2)) done.2
  counted : ∀ counts, done.2 = .ok counts → (counts.map Prod.snd).sum = rs.length
  armed : ∀ key, done.1.detector.get? key = p.detector.get? key

theorem loadDevice_fetched (steady : c.Steady) (fetches : c.Fetches loader device now world (.ok rs))
    (dated : ∀ r ∈ rs, r.time.isSome) (p : Processor) :
    Replays c p world rs (loadDevice c loader p device now world).1 := by
  obtain ⟨start, looked, answered, processor, reports⟩ := loadDevice_of_fetches fetches p
  obtain ⟨after, ending⟩ := replay_fetched (p := p.beginWarming device) answered dated
  obtain ⟨agree, results⟩ := (agreeOn_beginWarming (fun _ => True) p device).processAll steady
    (rs.mergeSort Reading.notAfter) (fun _ _ _ _ => trivial) .backfill
    (c.history device start now looked).2 world
  rw [after] at processor
  rw [ending, results] at reports
  refine ⟨fun key => ?_, reports, fun counts returned => ?_, fun key => ?_⟩
  · rw [processor]
    exact congrArg Track.window (agree.track key trivial)
  · rcases reports with same | ⟨_, _, fault, -, failed⟩
    · rw [same] at returned
      rw [← Except.ok.inj returned, Counts.sum_ofResults, Processor.length_processAll,
        List.length_mergeSort]
    · rw [failed] at returned
      cases returned
  · rw [processor]
    refine (Processor.processAll_armed c _ _ _ key).trans ?_
    exact congrArg Track.armed
      ((agreeOn_beginWarming (fun _ => True) p device).track key trivial)

theorem loadDevice_lost (fetches : c.Fetches loader device now world (.error fault))
    (p : Processor) :
    c.Reports (.error (.historyLost device fault.text)) (loadDevice c loader p device now world).1.2 ∧
      ∀ key, (loadDevice c loader p device now world).1.1.track key = p.track key := by
  obtain ⟨start, looked, answered, processor, reports⟩ := loadDevice_of_fetches fetches p
  obtain ⟨after, ending⟩ := replay_lost (p := p.beginWarming device) answered
  rw [ending] at reports
  refine ⟨reports, fun key => ?_⟩
  rw [processor, after]
  exact (agreeOn_beginWarming (fun _ => True) p device).track key trivial

theorem processAll_history (c : Collaborators σ) (history : Int → Stamp → Stamp → Call σ (List Reading))
    (p : Processor) (mode : Mode) (world : σ) (rs : List Reading) :
    p.processAll { c with history } mode world rs = p.processAll c mode world rs := by
  induction rs generalizing p world with
  | nil => rfl
  | cons r rest ih =>
    have first : p.process { c with history } mode r world = p.process c mode r world := rfl
    simp only [Processor.processAll, first, ih]

/-- Other surroundings that answer in the same way replay reordered readings in the same way. -/
theorem loadDevice_reordered (steady : c.Steady)
    {history : Int → Stamp → Stamp → Call σ (List Reading)} {others : List Reading} {other : σ}
    (fetches : { c with history }.Fetches loader device now other (.ok others))
    (reorders : Reading.Reorders others rs) (dated : ∀ r ∈ rs, r.time.isSome) (p : Processor)
    (world : σ) :
    Replays c p world rs (loadDevice { c with history } loader p device now other).1 := by
  have known : ∀ r ∈ others, r.time.isSome := fun r hr => dated r ((reorders.mem_iff r).1 hr)
  have same : Processor.AgreeOn (fun _ => True) p p := ⟨rfl, fun _ _ => rfl⟩
  have sorted := reorders.mergeSort_eq dated
  have length : others.length = rs.length := by
    simpa only [List.length_mergeSort] using congrArg List.length sorted
  obtain ⟨agree, results⟩ := same.processAll steady (rs.mergeSort Reading.notAfter)
    (fun _ _ _ _ => trivial) .backfill other world
  have steady' : Collaborators.Steady { c with history } := ⟨steady.registry, steady.calibration⟩
  obtain ⟨windows, returns, counted, armed⟩ := loadDevice_fetched steady' fetches known p
  rw [processAll_history, sorted, results] at returns
  refine ⟨fun key => ?_, returns, fun counts returned => ?_, armed⟩
  · rw [windows key, processAll_history, sorted]
    exact congrArg Track.window (agree.track key trivial)
  · rw [counted counts returned, length]

theorem Replays.windows_eq {done other : Processor × Except Fault Counts}
    (h : Replays c p world rs done) (h' : Replays c p world rs other) (key : SensorKey) :
    other.1.windows.window key = done.1.windows.window key :=
  (h'.windows key).trans (h.windows key).symm

theorem Replays.counts_eq {done : Processor × Except Fault Counts} (h : Replays c p world rs done)
    {counts : Counts} (returned : done.2 = .ok counts) :
    counts = Counts.ofResults
      (p.processAll c .backfill world (rs.mergeSort Reading.notAfter)).1.2 := by
  rcases h.returns with same | ⟨_, _, fault, -, failed⟩
  · exact Except.ok.inj (returned.symm.trans same)
  · cases returned.symm.trans failed

section Journal

variable (c : Collaborators σ) (loader : Loader) (p : Processor) (device : Int)
  (start stop now : Stamp) (world : σ) (sent : List Activity)

theorem replay_journaled :
    replay c.journaled p device start stop (world, sent) =
      ((replay c p device start stop world).1, (replay c p device start stop world).2, sent) := by
  have history : c.journaled.history device start stop (world, sent) =
      ((c.history device start stop world).1, (c.history device start stop world).2, sent) := rfl
  unfold replay
  simp only [history]
  rcases c.history device start stop world with ⟨fault | readings, after⟩
  · rfl
  · cases ordered : inTimeOrder readings with
    | error fault => simp only [ordered]
    | ok rs => simp only [ordered, Processor.processAll_journaled]

theorem trackedReplay_journaled :
    trackedReplay c.journaled p device start stop (world, sent) =
      ((trackedReplay c p device start stop world).1,
        (trackedReplay c p device start stop world).2, sent) := by
  have log (record : LogRecord) (world : σ) : c.journaled.log record (world, sent) =
      ((c.log record world).1, (c.log record world).2, sent) := rfl
  unfold trackedReplay
  simp only [replay_journaled]
  generalize track LogCall.record? "fuel_warm_start" _ _ _ _ = tracked
  cases tracked.logged with
  | none => rfl
  | some record =>
    simp only [log]
    rcases c.log record (replay c p device start stop world).2 with ⟨fault | ⟨⟩, after⟩ <;> rfl

theorem loadDevice_journaled :
    loadDevice c.journaled loader p device now (world, sent) =
      ((loadDevice c loader p device now world).1, (loadDevice c loader p device now world).2,
        sent) := by
  have linked : c.journaled.linkedSensors device (world, sent) =
      ((c.linkedSensors device world).1, (c.linkedSensors device world).2, sent) := rfl
  unfold loadDevice loadGated
  simp only [linked]
  rcases c.linkedSensors device world with ⟨fault | _ | _ | ⟨first, rest⟩, looked⟩
  · rfl
  · rfl
  · rfl
  · cases hoursBefore loader.hours now with
    | error fault => rfl
    | ok start => simp only [trackedReplay_journaled]

end Journal

/-- A load replays the history as backfill in time order, in whatever order readings of different
times come, and publishes nothing; without the history it changes no window. -/
theorem loadDevice_replays (steady : c.Steady) (loader : Loader) (p : Processor) (device : Int)
    (now : Stamp) (world : σ) :
    (∀ rs, c.Fetches loader device now world (.ok rs) → (∀ r ∈ rs, r.time.isSome) →
      Replays c p world rs (loadDevice c loader p device now world).1 ∧
      ∀ history others other, Reading.Reorders others rs →
        Collaborators.Fetches { c with history } loader device now other (.ok others) →
        (∀ key, (loadDevice { c with history } loader p device now other).1.1.windows.window key =
          (loadDevice c loader p device now world).1.1.windows.window key) ∧
        (p.processAll { c with history } .backfill other (others.mergeSort Reading.notAfter)).1.2 =
          (p.processAll c .backfill world (rs.mergeSort Reading.notAfter)).1.2 ∧
        ∀ counts counts', (loadDevice c loader p device now world).1.2 = .ok counts →
          (loadDevice { c with history } loader p device now other).1.2 = .ok counts' →
            counts' = counts) ∧
    (∀ fault, c.Fetches loader device now world (.error fault) →
      c.Reports (.error (.historyLost device fault.text))
        (loadDevice c loader p device now world).1.2 ∧
      ∀ key, (loadDevice c loader p device now world).1.1.windows.window key =
        p.windows.window key) ∧
    ∀ sent, (loadDevice c.journaled loader p device now (world, sent)).2.2 = sent := by
  refine ⟨fun rs fetches dated => ?_, fun fault fetches => ?_, fun sent => ?_⟩
  · have replays := loadDevice_fetched steady fetches dated p
    refine ⟨replays, fun history others other reorders fetches' => ?_⟩
    have replays' := loadDevice_reordered steady fetches' reorders dated p world
    have same : Processor.AgreeOn (fun _ => True) p p := ⟨rfl, fun _ _ => rfl⟩
    refine ⟨replays.windows_eq replays', ?_, fun counts counts' returned returned' => ?_⟩
    · rw [processAll_history, reorders.mergeSort_eq dated]
      exact (same.processAll steady _ (fun _ _ _ _ => trivial) .backfill other world).2
    · rw [replays.counts_eq returned, replays'.counts_eq returned']
  · obtain ⟨reports, tracks⟩ := loadDevice_lost fetches p
    exact ⟨reports, fun key => congrArg Track.window (tracks key)⟩
  · rw [loadDevice_journaled]

end WarmStart

def InMemory.storedTank (latestFirst : Bool) : InMemory :=
  let latest := Reading.ofTank 400 (some 30) none
  let tied := [Reading.ofTank 380 (some (-1)) none, .ofTank 380 none none]
  { oneTank with readings := if latestFirst then latest :: tied else tied ++ [latest] }

namespace WarmStart

def secondDay : Stamp := ⟨⟨Time.day, by decide⟩, none⟩

theorem loadDevice_replays_storedTank :
    let c := InMemory.collaborators.frozen .oneTank
    let rs (latestFirst : Bool) := (InMemory.storedTank latestFirst).readings
    let load (latestFirst : Bool) :=
      loadDevice c ⟨24, 4⟩ (.new .fourAtOnce) 1 secondDay (InMemory.storedTank latestFirst)
    c.Steady ∧ (∀ first, c.Fetches ⟨24, 4⟩ 1 secondDay (.storedTank first) (.ok (rs first))) ∧
      (∀ r ∈ rs true, r.time.isSome) ∧ Reading.Reorders (rs false) (rs true) ∧
      Replays c (.new .fourAtOnce) (.storedTank true) (rs true) (load true).1 ∧
      ∀ key, (load false).1.1.windows.window key = (load true).1.1.windows.window key := by
  intro c rs load
  have steady : c.Steady := InMemory.collaborators.steady_frozen .oneTank
  have fetches : ∀ first, c.Fetches ⟨24, 4⟩ 1 secondDay (.storedTank first) (.ok (rs first)) := by
    rintro (_ | _) <;> exact ⟨_, _, _, rfl, rfl, rfl⟩
  have dated : ∀ r ∈ rs true, r.time.isSome := by decide
  have reorders : Reading.Reorders (rs false) (rs true) := by
    intro t
    by_cases tie : some ⟨380 * Time.minute, by decide⟩ = t
    · subst tie
      rfl
    · have untied : [Reading.ofTank 380 (some (-1)) none, .ofTank 380 none none].filter
          (·.time = t) = [] := List.filter_eq_nil_iff.2 <| by
        rintro r (_ | ⟨_, _ | ⟨_, ⟨⟩⟩⟩) timed <;> exact tie (of_decide_eq_true timed)
      change (_ ++ [Reading.ofTank 400 (some 30) none]).filter _ =
        ([Reading.ofTank 400 (some 30) none] ++ _).filter _
      rw [List.filter_append, List.filter_append, untied, List.nil_append, List.append_nil]
  obtain ⟨replays, reordered⟩ := (loadDevice_replays steady ⟨24, 4⟩ (.new .fourAtOnce) 1 secondDay
    (.storedTank true)).1 (rs true) (fetches true) dated
  exact ⟨steady, fetches, dated, reorders, replays,
    (reordered c.history (rs false) (.storedTank false) reorders (fetches false)).1⟩

end WarmStart

end FuelTelemetry

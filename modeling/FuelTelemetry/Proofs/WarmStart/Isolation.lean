import FuelTelemetry.Proofs.WarmStart.Parallel

/-!
Devices loaded at once do not meet. A load sees and changes the tracks of its own device only, so in
every order of the steps each device comes out as if it had been loaded alone: with the same entry,
which is missing if and only if a lookup or the fetch failed, and with the same windows.
-/

namespace FuelTelemetry

open Time (Stamp)

def Collaborators.Loses {σ : Type} (c : Collaborators σ) (loader : Loader) (device : Int)
    (now : Stamp) (world : σ) : Prop :=
  (∃ fault, (c.linkedSensors device world).1 = .error fault) ∨
    ∃ fault, c.Fetches loader device now world (.error fault)

theorem Collaborators.Reliable.reports {σ α : Type} {c : Collaborators σ} (reliable : c.Reliable)
    {ending result : Except Fault α} (reports : c.Reports ending result) : result = ending := by
  rcases reports with same | ⟨record, world, fault, failed, -⟩
  · exact same
  · rw [reliable.log record world] at failed
    cases failed

namespace WarmStart

open Processor (AgreeOn)

variable {σ : Type} {c : Collaborators σ} {loader : Loader} {p : Processor} {device : Int}
  {devices picks : List Int} {now : Stamp} {world : σ}

structure Isolated (c : Collaborators σ) (loader : Loader) (p : Processor) (device : Int)
    (now : Stamp) (world : σ) (after : Processor) (entry : Option Counts) : Prop where
  lost : entry = none ↔ c.Loses loader device now world
  counts : entry = (loadDevice c loader p device now world).1.2.toOption
  windows : ∀ key : SensorKey, key.device = device → after.windows.window key =
    (loadDevice c loader p device now world).1.1.windows.window key

theorem loadDevice_unlinked {fault : Fault}
    (failed : (c.linkedSensors device world).1 = .error fault) (p : Processor) :
    (loadDevice c loader p device now world).1.2 = .error fault := by
  unfold loadDevice loadGated
  rcases found : c.linkedSensors device world with ⟨answer, looked⟩
  rw [found] at failed
  cases failed
  rfl

theorem loadDevice_unsensed {sensors : Option (List LinkedSensor)}
    (linked : (c.linkedSensors device world).1 = .ok sensors)
    (without : sensors = none ∨ sensors = some []) (p : Processor) :
    (loadDevice c loader p device now world).1.2 = .ok [] := by
  unfold loadDevice loadGated
  rcases found : c.linkedSensors device world with ⟨answer, looked⟩
  rw [found] at linked
  cases linked
  rcases without with rfl | rfl <;> rfl

theorem loadDevice_lost_iff (reliable : c.Reliable)
    (hours : ∃ start, hoursBefore loader.hours now = .ok start) (own : c.OwnHistory device now)
    (p : Processor) (world : σ) :
    (loadDevice c loader p device now world).1.2.toOption = none ↔
      c.Loses loader device now world := by
  obtain ⟨start, hours⟩ := hours
  have unsensed : ∀ sensors, (c.linkedSensors device world).1 = .ok sensors →
      sensors = none ∨ sensors = some [] →
        ((loadDevice c loader p device now world).1.2.toOption = none ↔
          c.Loses loader device now world) := by
    intro sensors linked without
    rw [loadDevice_unsensed linked without]
    refine ⟨nofun, ?_⟩
    rintro (⟨fault, failed⟩ | ⟨fault, first, rest, _, sensed, _⟩)
    · exact nomatch linked.symm.trans failed
    · rw [Except.ok.inj (linked.symm.trans sensed)] at without
      rcases without with ⟨⟨⟩⟩ | ⟨⟨⟩⟩
  rcases linked : (c.linkedSensors device world).1 with fault | _ | _ | ⟨first, rest⟩
  · rw [loadDevice_unlinked linked]
    exact ⟨fun _ => .inl ⟨fault, linked⟩, fun _ => rfl⟩
  · exact unsensed _ linked (.inl rfl)
  · exact unsensed _ linked (.inr rfl)
  · have fetches : ∀ answer, (c.history device start now (c.linkedSensors device world).2).1 =
        answer → c.Fetches loader device now world answer :=
      fun answer answered => ⟨first, rest, start, linked, hours, answered⟩
    cases answered : (c.history device start now (c.linkedSensors device world).2).1 with
    | error fault =>
      rw [reliable.reports (loadDevice_lost (fetches _ answered) p).1]
      exact ⟨fun _ => .inr ⟨fault, fetches _ answered⟩, fun _ => rfl⟩
    | ok rs =>
      have dated : ∀ r ∈ rs, r.time.isSome :=
        fun r listed => (own start _ rs answered r listed).1
      rw [reliable.reports
        (loadDevice_fetched reliable.toSteady (fetches _ answered) dated p).returns]
      refine ⟨nofun, ?_⟩
      rintro (⟨fault, failed⟩ | ⟨fault, lost⟩)
      · exact nomatch linked.symm.trans failed
      · exact nomatch lost.unique (fetches _ answered)

/-- A load that has ended among others has ended as it does alone, and its device has the tracks that
it has then. -/
theorem run_isolated (reliable : c.Reliable) (own : ∀ device ∈ devices, c.OwnHistory device now)
    (among : ∀ device ∈ picks, device ∈ devices) (listed : device ∈ devices)
    {result : Except Fault Counts}
    (ended : ((loads c loader now (beginAll p devices) world).run picks).tasks device =
      .ended result) :
    result = (loadDevice c loader p device now world).1.2 ∧
      AgreeOn (fun key => key.device = device)
        ((loads c loader now (beginAll p devices) world).run picks).state.1
          (loadDevice c loader p device now world).1.1 := by
  have blind : (loading c loader device now).Blind (Alike device) :=
    (inherited_blind reliable).loading fun start w rs fetched r taken =>
      (own device listed start w rs fetched r taken).2
  have begun : Alike device (beginAll p devices, world) (p, world) :=
    agreeOn_foldl (fun p device => agreeOn_beginWarming _ p device) p devices
  have hidden : ∀ other ∈ picks, other ≠ device → ∀ s s' t : Processor × σ,
      AgreeOn (fun key => key.device ≠ other) s'.1 s.1 → Alike device s t → Alike device s' t := by
    intro other _ apart s s' t kept same
    refine AgreeOn.trans ⟨kept.settings, fun key mine => kept.track key fun foreign => ?_⟩ same
    exact apart (foreign.symm.trans mine)
  obtain ⟨t, alike, alone⟩ := Pool.run_blind
    (loads c loader now (beginAll p devices) world) blind
    (fun other picked _ => loading_tracks loader (own other (among other picked))) hidden begun
  rw [ended] at alone
  have finished := alone.trans (loading_alone c p world loader device now)
  rw [Task.alone, Prod.mk.injEq] at finished
  obtain ⟨same, rfl⟩ := finished
  exact ⟨same, alike⟩

variable {done : (Processor × Except Fault (Table Int (Option Counts))) × σ}

theorem Loaded.isolated (loaded : Loaded c loader p devices now world done)
    (distinct : devices.Nodup) (workers : 0 < loader.workers) (reliable : c.Reliable)
    (hours : ∃ start, hoursBefore loader.hours now = .ok start)
    (own : ∀ device ∈ devices, c.OwnHistory device now) :
    ∃ entries, done.1.2 = .ok entries ∧ entries.keys.Perm devices ∧
      ∀ device ∈ devices, ∃ entry, entries.get? device = some entry ∧
        Isolated c loader p device now world done.1.1 entry := by
  cases loaded with
  | refused few => omega
  | @returned picks entries _ among all ended =>
    refine ⟨entries, rfl, all, fun device listed => ?_⟩
    obtain ⟨⟨named, entry⟩, put, same⟩ := List.mem_map.1 (all.mem_iff.2 listed)
    obtain rfl : named = device := same
    obtain ⟨result, task, same⟩ := ended _ put
    obtain ⟨result_eq, agree⟩ := run_isolated reliable own among listed task
    obtain rfl : entry = (loadDevice c loader p named now world).1.2.toOption :=
      same.trans (congrArg Except.toOption result_eq)
    refine ⟨_, Table.get?_of_mem (all.nodup_iff.2 distinct) put,
      loadDevice_lost_iff reliable hours (own named listed) p world, rfl, fun key mine => ?_⟩
    have finished (q : Processor) : AgreeOn (fun key => key.device = named) (finishAll q devices) q :=
      agreeOn_foldl (f := Processor.finishWarming) (fun _ _ => ⟨rfl, fun _ _ => rfl⟩) q devices
    exact congrArg Track.window (((finished _).trans agree).track key mine)

/-- Whatever the order of the steps, loads of several devices do not meet, and when they end no listed
device is warming. -/
theorem loads_isolated (distinct : devices.Nodup) (c : Collaborators σ) (loader : Loader)
    (p : Processor) (now : Stamp) (world : σ) :
    (∀ done, Loaded c loader p devices now world done → p.Released devices done.1.1 ∧
      (0 < loader.workers → c.Reliable → (∃ start, hoursBefore loader.hours now = .ok start) →
        (∀ device ∈ devices, c.OwnHistory device now) →
          ∃ entries, done.1.2 = .ok entries ∧ entries.keys.Perm devices ∧
            ∀ device ∈ devices, ∃ entry, entries.get? device = some entry ∧
              Isolated c loader p device now world done.1.1 entry)) ∧
    (∀ done, Loaded c loader (beginAll p devices) devices now world done →
      p.Released devices done.1.1) ∧
    Loaded c loader p devices now world (loadAll c loader p (some devices) now world) ∧
    (0 < loader.workers → ∀ picks, (∀ device ∈ picks, device ∈ devices) → ∃ more entries,
      let after := (loads c loader now (beginAll p devices) world).run (picks ++ more)
      Loaded c loader p devices now world
        ((finishAll after.state.1 devices, .ok entries), after.state.2)) ∧
    (∀ device, p.Released [device] (loadDevice c loader p device now world).1.1) ∧
    ∀ looked, c.deviceIds world = (.ok devices, looked) →
      Loaded c loader p devices now looked (loadAll c loader p none now world) ∧
        p.Released devices (schedule c loader p now world).1.1 := by
  refine ⟨fun done loaded => ⟨loaded.released, loaded.isolated distinct⟩, fun done loaded device => ?_,
    loaded_loadListed distinct c loader p now world,
    fun workers picks among => exists_loaded workers among c p now world,
    fun device => loadDevice_released c loader p device now world, fun looked registered => ?_⟩
  · rw [loaded.released device, isWarming_beginAll]
    by_cases listed : device ∈ devices <;> simp [listed]
  · have loaded := loaded_loadListed distinct c loader p now looked
    unfold loadAll schedule
    rw [registered]
    exact ⟨loaded, loaded.released⟩

end WarmStart

def Collaborators.settled {σ : Type} (c : Collaborators σ) (world : σ) : Collaborators σ :=
  { c.frozen world with
    history := fun device start stop now => ((c.history device start stop world).1, now) }

namespace InMemory

theorem reliable_settled (m : InMemory) : (collaborators.settled m).Reliable where
  toSteady := ⟨fun _ _ _ => rfl, fun _ _ _ => rfl⟩
  history _ _ _ _ _ := rfl
  log _ _ := rfl

theorem inRange_dated {start stop : Stamp} {rs kept : List Reading}
    (found : inRange start stop rs = .ok kept) : ∀ r ∈ kept, r.time.isSome ∧ r ∈ rs := by
  induction rs generalizing kept with
  | nil =>
    cases found
    simp
  | cons first rest ih =>
    unfold inRange at found
    cases here : between start stop first with
    | error fault =>
      rw [here] at found
      cases found
    | ok within =>
      have dated : first.time.isSome := by
        unfold between at here
        split at here <;> simp_all
      cases others : inRange start stop rest with
      | error fault =>
        rw [here, others] at found
        cases within <;> cases found
      | ok kept' =>
        rw [here, others] at found
        have later : ∀ r ∈ kept', r.time.isSome ∧ r ∈ first :: rest := fun r listed =>
          ⟨(ih others r listed).1, List.mem_cons_of_mem first (ih others r listed).2⟩
        cases within with
        | false =>
          cases found
          exact later
        | true =>
          cases found
          exact List.forall_mem_cons.2 ⟨⟨dated, List.mem_cons_self⟩, later⟩

theorem ownHistory_settled (m : InMemory) (device : Int) (now : Stamp) :
    (collaborators.settled m).OwnHistory device now := by
  intro start world rs fetched r listed
  simp only [Collaborators.settled, collaborators, history] at fetched
  split at fetched
  · cases fetched
  · obtain ⟨dated, stored⟩ := inRange_dated fetched r listed
    exact ⟨dated, of_decide_eq_true (List.mem_filter.1 stored).2⟩

def halfStored : InMemory :=
  { twoTanks with
    readings := [.ofTank 380 (some 40) none, { Reading.ofTank 390 (some 30) none with device := 2 },
      .ofTank 400 (some 30) none]
    outages := ⟨[], [], [2], false⟩ }

end InMemory

namespace WarmStart

/-- The loads of both tanks, their first steps taken in turn. -/
theorem loads_isolated_halfStored :
    let c := InMemory.collaborators.settled .halfStored
    let p := Processor.new .fourAtOnce
    [(1 : Int), 2].Nodup ∧ c.Reliable ∧ (∃ start, hoursBefore 24 secondDay = .ok start) ∧
      (∀ device ∈ [1, 2], c.OwnHistory device secondDay) ∧
      (∃ more entries,
        let after := (loads c ⟨24, 4⟩ secondDay (beginAll p [1, 2]) .halfStored).run
          ([1, 2, 2, 1] ++ more)
        let done := ((finishAll after.state.1 [1, 2], .ok entries), after.state.2)
        Loaded c ⟨24, 4⟩ p [1, 2] secondDay .halfStored done ∧ p.Released [1, 2] done.1.1 ∧
          entries.keys.Perm [1, 2] ∧ entries.get? 2 = some none ∧
          ∃ counts, entries.get? 1 = some (some counts)) ∧
      c.deviceIds .halfStored = (.ok [1, 2], .halfStored) ∧
      p.Released [1, 2] (schedule c ⟨24, 4⟩ p secondDay .halfStored).1.1 := by
  intro c p
  have distinct : [(1 : Int), 2].Nodup := by decide
  have reliable : c.Reliable := InMemory.halfStored.reliable_settled
  have hours : ∃ start, hoursBefore 24 secondDay = .ok start := ⟨_, rfl⟩
  have own : ∀ device ∈ [1, 2], c.OwnHistory device secondDay :=
    fun device _ => InMemory.halfStored.ownHistory_settled device secondDay
  have sorted : [(1 : Int), 2].mergeSort (fun a b => a ≤ b) = [1, 2] :=
    List.mergeSort_of_pairwise (by decide)
  have registered : c.deviceIds .halfStored = (.ok [1, 2], .halfStored) :=
    congrArg (fun listed => (Except.ok listed, InMemory.halfStored)) sorted
  obtain ⟨isolated, -, -, runs, -, scheduled⟩ :=
    loads_isolated distinct c ⟨24, 4⟩ p secondDay .halfStored
  obtain ⟨more, entries, loaded⟩ := runs (by decide) [1, 2, 2, 1] (by decide)
  obtain ⟨released, others⟩ := isolated _ loaded
  obtain ⟨_, ⟨⟩, all, each⟩ := others (by decide) reliable hours own
  obtain ⟨first, firstEntry, firstIsolated⟩ := each 1 (by decide)
  obtain ⟨second, secondEntry, secondIsolated⟩ := each 2 (by decide)
  have lost : c.Loses ⟨24, 4⟩ 2 secondDay .halfStored := .inr ⟨_, _, _, _, rfl, rfl, rfl⟩
  have kept : ¬ c.Loses ⟨24, 4⟩ 1 secondDay .halfStored := by
    have fetched : c.Fetches ⟨24, 4⟩ 1 secondDay .halfStored
        (.ok [.ofTank 380 (some 40) none, .ofTank 400 (some 30) none]) := ⟨_, _, _, rfl, rfl, rfl⟩
    rintro (⟨fault, failed⟩ | ⟨fault, lost⟩)
    · cases failed
    · exact nomatch lost.unique fetched
  rw [secondIsolated.lost.2 lost] at secondEntry
  obtain ⟨counts, rfl⟩ := Option.ne_none_iff_exists'.1 (mt firstIsolated.lost.1 kept)
  exact ⟨distinct, reliable, hours, own, ⟨more, entries, loaded, released, all, secondEntry,
    counts, firstEntry⟩, registered, (scheduled _ registered).2⟩

end WarmStart

end FuelTelemetry

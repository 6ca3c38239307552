import FuelTelemetry.Proofs.WarmStart.Steps

/-!
Loads of several devices at once. The workers of a load take the steps of the listed devices in any
order. When such a load ends, in whatever way, no listed device is warming and the gates of all others
are as before. Every run of the steps can be brought to an end, and one of them loads the devices one
after the other.
-/

namespace FuelTelemetry

open Time (Stamp)

namespace Table

variable {κ α : Type} [DecidableEq κ]

theorem put_of_not_mem {key : κ} {table : Table κ α} (fresh : key ∉ table.keys) (value : α) :
    table.put key value = table ++ [(key, value)] := by
  induction table with
  | nil => rfl
  | cons entry rest ih =>
    simp only [keys, List.map_cons, List.mem_cons, not_or] at fresh
    rw [put, if_neg (Ne.symm fresh.1), ih fresh.2]
    rfl

theorem merge_of_nodup {entries : Table κ α} (table : Table κ α)
    (distinct : (table ++ entries).keys.Nodup) :
    table.merge entries = table ++ entries := by
  induction entries generalizing table with
  | nil => exact (List.append_nil table).symm
  | cons entry rest ih =>
    have grown : table ++ entry :: rest = (table ++ [entry]) ++ rest := by simp
    have fresh : entry.1 ∉ table.keys := by
      intro listed
      rw [keys, List.map_append, List.map_cons, List.nodup_append] at distinct
      exact distinct.2.2 _ listed _ List.mem_cons_self rfl
    rw [grown] at distinct ⊢
    rw [← ih _ distinct, ← put_of_not_mem fresh]
    rfl

end Table

namespace Processor

theorem isWarming_beginWarming (p : Processor) (device other : Int) :
    (p.beginWarming device).isWarming other = (decide (other = device) || p.isWarming other) := by
  unfold beginWarming
  split <;> rename_i warming
  · by_cases same : other = device
    · subst same
      simp [warming]
    · simp [same]
  · simp [isWarming]

theorem isWarming_finishWarming (p : Processor) (device other : Int) :
    (p.finishWarming device).isWarming other = (p.isWarming other && decide (other ≠ device)) := by
  simp [isWarming, finishWarming, Bool.and_comm]

theorem carryOut_warming (p : Processor) (mode : Mode) (r : Reading)
    (given : Except Outcome Assignment) : (p.carryOut mode r given).1.warming = p.warming := by
  cases given <;> rfl

def SameGates (p : Processor) (device : Int) (q : Processor) : Prop :=
  ∀ other ≠ device, q.isWarming other = p.isWarming other

def Released (p : Processor) (devices : List Int) (q : Processor) : Prop :=
  ∀ device, q.isWarming device = (p.isWarming device && decide (device ∉ devices))

end Processor

def Collaborators.OwnHistory {σ : Type} (c : Collaborators σ) (device : Int) (now : Stamp) : Prop :=
  ∀ start world rs, (c.history device start now world).1 = .ok rs →
    ∀ r ∈ rs, r.time.isSome ∧ r.device = device

namespace WarmStart

open Processor (AgreeOn)

variable {σ : Type} {c : Collaborators σ} {loader : Loader} {p : Processor} {device other : Int}
  {devices picks : List Int} {now : Stamp} {world : σ}

section Gates

theorem isWarming_beginAll (p : Processor) (devices : List Int) (device : Int) :
    (beginAll p devices).isWarming device =
      (decide (device ∈ devices) || p.isWarming device) := by
  induction devices generalizing p with
  | nil => simp [beginAll]
  | cons first rest ih =>
    refine (ih (p.beginWarming first)).trans ?_
    rw [Processor.isWarming_beginWarming]
    by_cases own : device = first <;> simp [own]

theorem isWarming_finishAll (p : Processor) (devices : List Int) :
    p.Released devices (finishAll p devices) := by
  intro device
  induction devices generalizing p with
  | nil => simp [finishAll]
  | cons first rest ih =>
    refine (ih (p.finishWarming first)).trans ?_
    rw [Processor.isWarming_finishWarming]
    by_cases own : device = first <;> simp [own]

theorem agreeOn_foldl {here : SensorKey → Prop} {f : Processor → Int → Processor}
    (step : ∀ p device, AgreeOn here (f p device) p) (p : Processor) (devices : List Int) :
    AgreeOn here (devices.foldl f p) p := by
  induction devices generalizing p with
  | nil => exact ⟨rfl, fun _ _ => rfl⟩
  | cons device rest ih => exact (ih (f p device)).trans (step p device)

theorem loading_gates (c : Collaborators σ) (loader : Loader) (device : Int) (now : Stamp) :
    (loading c loader device now).Always fun s t => s.1.SameGates device t.1 := by
  have inherited : Inherited c device (fun _ => True) fun task =>
      task.Always fun s t => s.1.SameGates device t.1 := by
    refine inherited_always (fun p q => p.SameGates device q) (fun _ _ _ => rfl)
      (fun p other apart => ?_) (fun p other apart => ?_) fun p r given _ _ other _ => ?_
    · simp [Processor.isWarming_beginWarming, apart]
    · simp [Processor.isWarming_finishWarming, apart]
    · simp only [Processor.isWarming, Processor.carryOut_warming]
  exact inherited.loading fun _ _ _ _ _ _ => trivial

theorem loading_tracks (loader : Loader) (own : c.OwnHistory device now) :
    (loading c loader device now).Always fun s t =>
      AgreeOn (fun key => key.device ≠ device) t.1 s.1 := by
  have inherited : Inherited c device (fun r => r.device = device) fun task =>
      task.Always fun s t => AgreeOn (fun key => key.device ≠ device) t.1 s.1 := by
    refine inherited_always (fun p q => AgreeOn (fun key => key.device ≠ device) q p)
      (fun _ => ⟨rfl, fun _ _ => rfl⟩) (fun p => agreeOn_beginWarming _ p device)
      (fun _ => ⟨rfl, fun _ _ => rfl⟩) fun p r given mine assigned => ?_
    cases given with
    | error outcome => exact ⟨rfl, fun _ _ => rfl⟩
    | ok a =>
      refine ⟨rfl, fun key foreign => Processor.onTrack_track_of_ne ?_ _ _⟩
      rintro rfl
      exact foreign ((assigned.device rfl).trans mine)
  exact inherited.loading fun start w rs fetched r listed => (own start w rs fetched r listed).2

theorem loadDevice_released (c : Collaborators σ) (loader : Loader) (p : Processor) (device : Int)
    (now : Stamp) (world : σ) :
    p.Released [device] (loadDevice c loader p device now world).1.1 := by
  intro other
  by_cases own : other = device
  · subst own
    simp [loadDevice, Processor.isWarming_finishWarming]
  · have kept := Task.alone_invariant (s := (p, world))
      (fun s => s.1.isWarming other = p.isWarming other) (loading_gates c loader device now)
      (fun _ _ same before => (same other own).trans before) rfl
    rw [loading_alone] at kept
    simpa [own] using kept

end Gates

def loads (c : Collaborators σ) (loader : Loader) (now : Stamp) (p : Processor) (world : σ) :
    Pool Int (Processor × σ) (Except Fault Counts) :=
  ⟨fun device => loading c loader device now, (p, world)⟩

/-- The ends of loads of several devices with workers that take the steps of the devices in any
order. The entries come in the order in which the devices are done. -/
inductive Loaded (c : Collaborators σ) (loader : Loader) (p : Processor) (devices : List Int)
    (now : Stamp) (world : σ) : (Processor × Except Fault (Table Int (Option Counts))) × σ → Prop
  | refused (workers : loader.workers ≤ 0) :
    Loaded c loader p devices now world
      ((finishAll (beginAll p devices) devices, .error .workerCount), world)
  | returned {picks : List Int} {entries : Table Int (Option Counts)} (workers : 0 < loader.workers)
    (among : ∀ device ∈ picks, device ∈ devices) (all : entries.keys.Perm devices)
    (ended : ∀ entry ∈ entries, ∃ result,
      ((loads c loader now (beginAll p devices) world).run picks).tasks entry.1 = .ended result ∧
        entry.2 = result.toOption) :
    Loaded c loader p devices now world
      ((finishAll ((loads c loader now (beginAll p devices) world).run picks).state.1 devices,
        .ok entries), ((loads c loader now (beginAll p devices) world).run picks).state.2)

theorem run_gates (among : ∀ device ∈ picks, device ∈ devices) (unlisted : other ∉ devices)
    (p : Processor) :
    ((loads c loader now p world).run picks).state.1.isWarming other = p.isWarming other :=
  Pool.run_invariant (loads c loader now p world)
    (fun s => s.1.isWarming other = p.isWarming other)
    (fun device _ => loading_gates c loader device now)
    (fun device picked _ _ same before =>
      (same other fun own => unlisted (own ▸ among device picked)).trans before) rfl

theorem Loaded.released {done : (Processor × Except Fault (Table Int (Option Counts))) × σ}
    (loaded : Loaded c loader p devices now world done) : p.Released devices done.1.1 := by
  intro device
  cases loaded with
  | refused _ =>
    rw [isWarming_finishAll, isWarming_beginAll]
    by_cases listed : device ∈ devices <;> simp [listed]
  | returned _ among _ _ =>
    rw [isWarming_finishAll]
    by_cases listed : device ∈ devices
    · simp [listed]
    · rw [run_gates among listed, isWarming_beginAll]
      simp [listed]

theorem run_loadEach (distinct : devices.Nodup)
    (pool : Pool Int (Processor × σ) (Except Fault Counts))
    (started : ∀ device ∈ devices, pool.tasks device = loading c loader device now) :
    let done := loadEach c loader now pool.state.1 pool.state.2 devices
    done.1.2.map Prod.fst = devices ∧ ∃ picks, (∀ device ∈ picks, device ∈ devices) ∧
      (pool.run picks).state = (done.1.1, done.2) ∧ ∀ entry ∈ done.1.2, ∃ result,
        (pool.run picks).tasks entry.1 = .ended result ∧ entry.2 = result.toOption := by
  induction devices generalizing pool with
  | nil => exact ⟨rfl, [], by simp, rfl, by simp [loadEach]⟩
  | cons device rest ih =>
    intro done
    obtain ⟨fresh, distinct⟩ := List.nodup_cons.1 distinct
    obtain ⟨count, alone⟩ := pool.exists_run_alone device
    rw [started device List.mem_cons_self, loading_alone] at alone
    obtain ⟨keys, picks, among, state, ended⟩ := ih distinct
      (pool.run (List.replicate count device)) fun other listed => by
        have apart : other ≠ device := fun own => fresh (own ▸ listed)
        rw [alone]
        exact (Function.update_of_ne apart _ _).trans
          (started other (List.mem_cons_of_mem device listed))
    simp only [alone] at keys state ended
    refine ⟨congrArg (device :: ·) keys, List.replicate count device ++ picks,
      fun other picked => ?_, ?_, ?_⟩
    · rcases List.mem_append.1 picked with picked | picked
      · rw [List.eq_of_mem_replicate picked]
        exact List.mem_cons_self
      · exact List.mem_cons_of_mem device (among other picked)
    · rw [Pool.run_append, alone, state]
      rfl
    · rw [Pool.run_append, alone]
      refine List.forall_mem_cons.2 ⟨⟨_, ?_, rfl⟩, ended⟩
      exact (Pool.run_tasks_of_not_mem (fun picked => fresh (among device picked)) _).trans
        (Function.update_self ..)

/-- Devices loaded one after the other are among the loads that many workers can do. -/
theorem loaded_loadListed (distinct : devices.Nodup) (c : Collaborators σ) (loader : Loader)
    (p : Processor) (now : Stamp) (world : σ) :
    Loaded c loader p devices now world (loadListed c loader p devices now world) := by
  unfold loadListed
  simp only
  split
  · exact .refused ‹_›
  · rename_i workers
    obtain ⟨keys, picks, among, state, ended⟩ := run_loadEach distinct
      (loads c loader now (beginAll p devices) world) fun _ _ => rfl
    have loaded := Loaded.returned (not_le.1 workers) among (.of_eq keys) ended
    rw [state] at loaded
    have entries := Table.merge_of_nodup [] (keys.symm ▸ distinct)
    rwa [← List.nil_append (loadEach _ _ _ _ _ _).1.2, ← entries] at loaded

theorem exists_entries {pool : Pool Int (Processor × σ) (Except Fault Counts)}
    (ended : ∀ device ∈ devices, ∃ result, pool.tasks device = .ended result) :
    ∃ entries : Table Int (Option Counts), entries.keys = devices ∧ ∀ entry ∈ entries, ∃ result,
      pool.tasks entry.1 = .ended result ∧ entry.2 = result.toOption := by
  induction devices with
  | nil => exact ⟨[], rfl, by simp⟩
  | cons device rest ih =>
    rw [List.forall_mem_cons] at ended
    obtain ⟨result, task⟩ := ended.1
    obtain ⟨entries, keys, others⟩ := ih ended.2
    exact ⟨(device, result.toOption) :: entries, congrArg (device :: ·) keys,
      List.forall_mem_cons.2 ⟨⟨result, task, rfl⟩, others⟩⟩

/-- From everywhere the loads can all be brought to their ends. -/
theorem exists_loaded (workers : 0 < loader.workers) (among : ∀ device ∈ picks, device ∈ devices)
    (c : Collaborators σ) (p : Processor) (now : Stamp) (world : σ) :
    ∃ more entries,
      let after := (loads c loader now (beginAll p devices) world).run (picks ++ more)
      Loaded c loader p devices now world
        ((finishAll after.state.1 devices, .ok entries), after.state.2) := by
  obtain ⟨more, added, ended⟩ :=
    ((loads c loader now (beginAll p devices) world).run picks).exists_completion devices
  rw [← Pool.run_append] at ended
  obtain ⟨entries, keys, results⟩ := exists_entries ended
  refine ⟨more, entries, .returned workers (fun device picked => ?_) (.of_eq keys) results⟩
  exact (List.mem_append.1 picked).elim (among device) (added device)

end WarmStart

end FuelTelemetry

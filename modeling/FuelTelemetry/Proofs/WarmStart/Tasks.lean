import Mathlib.Logic.Function.Basic

/-!
Tasks that share a state. A task is cut into steps that nothing can come between, and a pool of tasks
takes steps of its tasks in any order. What every step of a task keeps to, every run keeps to; and a
task that sees only a part of the state, which the others leave alone, ends in every run as it does
when it runs alone.
-/

namespace FuelTelemetry

inductive Task (S α : Type) where
  | ended (result : α)
  | step (next : S → Task S α) (after : S → S)

namespace Task

variable {S α β : Type}

def call (f : S → β × S) (next : β → Task S α) : Task S α :=
  .step (fun s => next (f s).1) fun s => (f s).2

def alone : Task S α → S → α × S
  | ended result, s => (result, s)
  | step next after, s => (next s).alone (after s)

def Always (guarantee : S → S → Prop) : Task S α → Prop
  | ended _ => True
  | step next after => ∀ s, guarantee s (after s) ∧ (next s).Always guarantee

/-- A task that goes on in the same way from states that look alike, which then look alike again. -/
def Blind (alike : S → S → Prop) : Task S α → Prop
  | ended _ => True
  | step next after => ∀ s,
    (∀ t, alike s t → next s = next t ∧ alike (after s) (after t)) ∧ (next s).Blind alike

theorem always_call {guarantee : S → S → Prop} {f : S → β × S} {next : β → Task S α}
    (kept : ∀ s, guarantee s (f s).2) (later : ∀ s, (next (f s).1).Always guarantee) :
    (call f next).Always guarantee :=
  fun s => ⟨kept s, later s⟩

theorem blind_call {alike : S → S → Prop} {f : S → β × S} {next : β → Task S α}
    (answers : ∀ s t, alike s t → (f s).1 = (f t).1 ∧ alike (f s).2 (f t).2)
    (later : ∀ s, (next (f s).1).Blind alike) : (call f next).Blind alike :=
  fun s => ⟨fun t same => ⟨congrArg next (answers s t same).1, (answers s t same).2⟩, later s⟩

theorem alone_invariant {guarantee : S → S → Prop} {task : Task S α} {s : S} (inv : S → Prop)
    (always : task.Always guarantee) (keeps : ∀ s t, guarantee s t → inv s → inv t) (h : inv s) :
    inv (task.alone s).2 := by
  induction task generalizing s with
  | ended result => exact h
  | step next after ih => exact ih s (always s).2 (keeps _ _ (always s).1 h)

end Task

structure Pool (ι S α : Type) where
  tasks : ι → Task S α
  state : S

namespace Pool

variable {ι S α : Type} [DecidableEq ι]

def pick (pool : Pool ι S α) (name : ι) : Pool ι S α :=
  match pool.tasks name with
  | .ended _ => pool
  | .step next after => ⟨Function.update pool.tasks name (next pool.state), after pool.state⟩

def run (pool : Pool ι S α) (picks : List ι) : Pool ι S α := picks.foldl pick pool

variable {pool : Pool ι S α} {name : ι} {guarantee : ι → S → S → Prop}

theorem pick_ended {result : α} (task : pool.tasks name = .ended result) :
    pool.pick name = pool := by
  unfold pick
  rw [task]

theorem pick_step {next : S → Task S α} {after : S → S} (task : pool.tasks name = .step next after) :
    pool.pick name =
      ⟨Function.update pool.tasks name (next pool.state), after pool.state⟩ := by
  unfold pick
  rw [task]

theorem pick_tasks_of_ne {other : ι} (different : other ≠ name) (pool : Pool ι S α) :
    (pool.pick name).tasks other = pool.tasks other := by
  unfold pick
  split
  · rfl
  · exact Function.update_of_ne different _ _

theorem pick_always {kept : S → S → Prop} {other : ι} (always : (pool.tasks other).Always kept) :
    ((pool.pick name).tasks other).Always kept := by
  by_cases own : other = name
  · subst own
    cases task : pool.tasks other with
    | ended result => rwa [pick_ended task]
    | step next after =>
      rw [task] at always
      simp only [pick_step task, Function.update_self]
      exact (always pool.state).2
  · rwa [pick_tasks_of_ne own]

theorem pick_state {kept : S → S → Prop} (always : (pool.tasks name).Always kept) :
    (pool.pick name).state = pool.state ∨ kept pool.state (pool.pick name).state := by
  cases task : pool.tasks name with
  | ended result => exact .inl (by rw [pick_ended task])
  | step next after =>
    rw [task] at always
    rw [pick_step task]
    exact .inr (always pool.state).1

theorem run_invariant {picks : List ι} (pool : Pool ι S α) (inv : S → Prop)
    (always : ∀ name ∈ picks, (pool.tasks name).Always (guarantee name))
    (keeps : ∀ name ∈ picks, ∀ s t, guarantee name s t → inv s → inv t) (h : inv pool.state) :
    inv (pool.run picks).state := by
  induction picks generalizing pool with
  | nil => exact h
  | cons name rest ih =>
    refine ih (pool.pick name)
      (fun other listed => pick_always (always other (List.mem_cons_of_mem name listed)))
      (fun other listed => keeps other (List.mem_cons_of_mem name listed)) ?_
    rcases pick_state (always name List.mem_cons_self) with same | kept
    · rwa [same]
    · exact keeps name List.mem_cons_self _ _ kept h

/-- A task is, at any point of a run, where it can also be alone, in a state that looks alike: as long
as it sees nothing of what the other tasks do. -/
theorem run_blind {alike : S → S → Prop} {picks : List ι} (pool : Pool ι S α)
    (blind : (pool.tasks name).Blind alike)
    (always : ∀ other ∈ picks, other ≠ name → (pool.tasks other).Always (guarantee other))
    (hidden : ∀ other ∈ picks, other ≠ name → ∀ s s' t, guarantee other s s' → alike s t →
      alike s' t) {t : S} (h : alike pool.state t) :
    ∃ t', alike (pool.run picks).state t' ∧
      ((pool.run picks).tasks name).alone t' = (pool.tasks name).alone t := by
  induction picks generalizing pool t with
  | nil => exact ⟨t, h, rfl⟩
  | cons picked rest ih =>
    have later : ∀ other ∈ rest, other ≠ name →
        ((pool.pick picked).tasks other).Always (guarantee other) :=
      fun other listed different =>
        pick_always (always other (List.mem_cons_of_mem picked listed) different)
    have hiddenLater : ∀ other ∈ rest, other ≠ name → ∀ s s' t, guarantee other s s' → alike s t →
        alike s' t :=
      fun other listed => hidden other (List.mem_cons_of_mem picked listed)
    by_cases own : picked = name
    · subst own
      cases task : pool.tasks picked with
      | ended result =>
        have idle := pick_ended task
        obtain ⟨t', alike', same⟩ := ih pool blind (idle ▸ later) hiddenLater h
        rw [show pool.run (picked :: rest) = pool.run rest from congrArg (Pool.run · rest) idle,
          ← task]
        exact ⟨t', alike', same⟩
      | step next after =>
        rw [task] at blind
        obtain ⟨agree, blindNext⟩ := blind pool.state
        obtain ⟨sameNext, sameAfter⟩ := agree t h
        have moved := pick_step task
        have here : (pool.pick picked).tasks picked = next pool.state := by
          simp only [moved, Function.update_self]
        obtain ⟨t', alike', same⟩ := ih (pool.pick picked) (here ▸ blindNext) later
          hiddenLater (t := after t) (by rw [moved]; exact sameAfter)
        refine ⟨t', alike', same.trans ?_⟩
        rw [here, sameNext]
        rfl
    · have apart := pick_tasks_of_ne (Ne.symm own) pool
      have seen : alike (pool.pick picked).state t := by
        rcases pick_state (always picked List.mem_cons_self own) with same | kept
        · rwa [same]
        · exact hidden picked List.mem_cons_self own _ _ t kept h
      obtain ⟨t', alike', same⟩ := ih (pool.pick picked) (apart ▸ blind) later hiddenLater seen
      exact ⟨t', alike', same.trans (by rw [apart])⟩

theorem run_tasks_of_not_mem {picks : List ι} (apart : name ∉ picks) (pool : Pool ι S α) :
    (pool.run picks).tasks name = pool.tasks name := by
  induction picks generalizing pool with
  | nil => rfl
  | cons picked rest ih =>
    rw [List.mem_cons, not_or] at apart
    exact (ih apart.2 (pool.pick picked)).trans (pick_tasks_of_ne apart.1 pool)

theorem run_append (pool : Pool ι S α) (first second : List ι) :
    pool.run (first ++ second) = (pool.run first).run second :=
  List.foldl_append

theorem exists_run_alone (pool : Pool ι S α) (name : ι) : ∃ count,
    pool.run (List.replicate count name) =
      ⟨Function.update pool.tasks name (.ended ((pool.tasks name).alone pool.state).1),
        ((pool.tasks name).alone pool.state).2⟩ := by
  generalize given : pool.tasks name = task
  induction task generalizing pool with
  | ended result =>
    refine ⟨0, ?_⟩
    simp only [Task.alone, ← given, Function.update_eq_self]
    rfl
  | step next after ih =>
    have moved := pick_step given
    have here : (pool.pick name).tasks name = next pool.state := by
      simp only [moved, Function.update_self]
    obtain ⟨count, rest⟩ := ih pool.state (pool.pick name) here
    refine ⟨count + 1, rest.trans ?_⟩
    simp only [moved, Function.update_idem, Task.alone]

theorem exists_completion (pool : Pool ι S α) (names : List ι) :
    ∃ picks, (∀ name ∈ picks, name ∈ names) ∧
      ∀ name ∈ names, ∃ result, (pool.run picks).tasks name = .ended result := by
  induction names with
  | nil => exact ⟨[], by simp, by simp⟩
  | cons name rest ih =>
    obtain ⟨picks, among, ended⟩ := ih
    obtain ⟨count, last⟩ := (pool.run picks).exists_run_alone name
    refine ⟨picks ++ List.replicate count name, fun picked listed => ?_, fun other listed => ?_⟩
    · rcases List.mem_append.1 listed with listed | listed
      · exact List.mem_cons_of_mem name (among picked listed)
      · rw [List.eq_of_mem_replicate listed]
        exact List.mem_cons_self
    · rw [run_append, last]
      by_cases own : other = name
      · subst own
        exact ⟨_, Function.update_self ..⟩
      · obtain ⟨result, task⟩ := ended other ((List.mem_cons.1 listed).resolve_left own)
        exact ⟨result, (Function.update_of_ne own _ _).trans task⟩

end Pool

end FuelTelemetry

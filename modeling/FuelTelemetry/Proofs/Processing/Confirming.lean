import FuelTelemetry.Proofs.Processing.Stages

/-!
What a confirmed activity holds. The readings of a sound window have their times, so a change opens
and closes at a time, and what is reported of it has its sensor, both times and a volume. This holds
for all processors that can be reached.
-/

namespace FuelTelemetry

open Time (Instant Stamp)

structure Activity.Complete (a : Activity) (key : SensorKey) : Prop where
  device : a.device = some key.device
  sensor : a.sensor = some key.sensor
  startTime : ∃ t, a.startTime = some (Stamp.ofInstant t)
  endTime : ∃ t, a.endTime = some (Stamp.ofInstant t)
  volume : (a.volume == a.volume) = true

theorem Activity.Spans.complete {a : Activity} {first last : Reading} (h : a.Spans first last)
    (detected : a.detected = true) (began : first.time.isSome) (ended : last.time.isSome)
    (key : SensorKey) : (a.located key).Complete key := by
  obtain ⟨start, began⟩ := Option.isSome_iff_exists.1 began
  obtain ⟨stop, ended⟩ := Option.isSome_iff_exists.1 ended
  refine ⟨rfl, rfl, ⟨start, ?_⟩, ⟨stop, ?_⟩, ?_⟩
  · exact h.startTime.trans (by rw [began]; rfl)
  · exact h.endTime.trans (by rw [ended]; rfl)
  · change (a.volume == a.volume) = true
    cases kind : a.kind with
    | none => simp [Activity.detected, kind] at detected
    | fill => exact (Number.beq_self_of_lt (h.rises kind)).2
    | drain => exact (Number.beq_self_of_lt (h.falls kind)).1

theorem Window.Sound.dated_sample {capacity : Nat} {w : Window} (h : w.Sound capacity) {r : Reading}
    {target : Int} {reach : Reach} {sample : List Reading}
    (selected : w.select r target reach = .ok sample) : ∀ o ∈ sample, o.time.isSome := by
  intro o ho
  have listed := (h.select_sublist selected).subset ho
  rw [h.readings_eq] at listed
  obtain ⟨e, he, rfl⟩ := List.mem_map.1 listed
  rw [h.timed e he]
  rfl

def Track.Poised (t : Track) : Prop :=
  ∀ a, t.armed = some a → a.opening.Fits ∧ a.opening.reading.time.isSome

namespace Stage

variable {s : Settings} {key : SensorKey} {g g' : Stage} {r : Reading} {t : Instant}
  {activity : Option Activity}

theorem Stepped.poised (h : Stepped s key g r t (g', activity))
    (sound : g.track.window.Sound s.capacity) (ht : r.time = some t) (poised : g.track.Poised) :
    g'.track.Poised ∧ ∀ a, activity = some a → a.Complete key := by
  have silent : ∀ a, (none : Option Activity) = some a → a.Complete key := fun a ha => by cases ha
  cases h with
  | refused => exact ⟨poised, silent⟩
  | withdrawn _ _ => exact ⟨poised, silent⟩
  | received _ => exact ⟨poised, silent⟩
  | @checked sample change armed a levelled selected full checked =>
    -- a change opens and closes at the middle of a sample, which is a reading of the window
    have dated {o : Reading} (found : middleOf sample = some o) : o.time.isSome :=
      (sound.receive ht levelled).dated_sample selected o (List.mem_of_getElem? found)
    unfold Track.Poised at poised ⊢
    generalize g.track.armed = before at poised checked
    cases checked with
    | idle _ => exact ⟨poised, silent⟩
    | opened wide =>
      obtain ⟨found, fits⟩ := openingOf_middle wide
      exact ⟨fun _ ha => Option.some.inj ha ▸ ⟨fits, dated found⟩, silent⟩
    | held o before after =>
      have still := poised ⟨o, before⟩ rfl
      exact ⟨fun _ ha => Option.some.inj ha ▸ still, silent⟩
    | reported before found detected spans =>
      obtain ⟨fits, began⟩ := poised _ rfl
      have complete := (spans fits).complete detected began (dated found) key
      rw [if_pos detected]
      exact ⟨fun _ ha => (by cases ha), fun _ ha => Option.some.inj ha ▸ complete⟩

end Stage

namespace Processor

structure Ready (s : Settings) (p : Processor) : Prop extends Sound s p where
  poised : ∀ key, (p.track key).Poised

theorem ready_new (s : Settings) : (new s).Ready s :=
  ⟨sound_new s, fun _ _ ha => by cases ha⟩

variable {s : Settings} {p : Processor} {mode : Mode} {r : Reading}
  {given : Except Outcome Assignment}

theorem carryOut_time {t : Instant} (assigned : Assigned r given) (ht : r.time = some t) :
    (p.carryOut mode r given).2.reading.time = some t := by
  obtain ⟨level, reading⟩ := (carryOut_gives assigned p mode).reading
  rw [reading]
  exact ht

theorem Ready.carryOut (h : p.Ready s) (mode : Mode) (assigned : Assigned r given)
    (dated : r.time.isSome) : (p.carryOut mode r given).1.Ready s where
  toSound := h.toSound.carryOut assigned dated
  poised key := by
    obtain ⟨t, ht⟩ := Option.isSome_iff_exists.1 dated
    rcases h.carryOut_stepped mode assigned ht key [] with ⟨-, track, -⟩ | ⟨-, stepped⟩
    · rw [track]
      exact h.poised key
    · exact (stepped.poised (h.windows key) (carryOut_time assigned ht) (h.poised key)).1

/-- An activity that a ready processor confirms is complete, for the sensor of its reading. -/
theorem Ready.complete (h : p.Ready s) (assigned : Assigned r given) (dated : r.time.isSome)
    {a : Activity} (confirmed : (p.carryOut mode r given).2.outcome.activity = some a) :
    ∃ own, given = .ok own ∧ a.Complete own.key := by
  obtain ⟨own, rfl, -⟩ := carryOut_located assigned confirmed
  obtain ⟨t, ht⟩ := Option.isSome_iff_exists.1 dated
  refine ⟨own, rfl, ?_⟩
  rcases h.carryOut_stepped mode assigned ht own.key [] with ⟨foreign, -, -⟩ | ⟨-, stepped⟩
  · exact absurd rfl foreign
  · exact (stepped.poised (h.windows own.key) (carryOut_time assigned ht)
      (h.poised own.key)).2 a confirmed

theorem Ready.process {σ : Type} (h : p.Ready s) (c : Collaborators σ) (mode : Mode)
    (dated : r.time.isSome) (world : σ) : (p.process c mode r world).1.1.Ready s := by
  rw [process_fst]
  exact h.carryOut mode (c.assign_assigned r world) dated

theorem Ready.processAll {σ : Type} (h : p.Ready s) (c : Collaborators σ) (mode : Mode)
    {rs : List Reading} (dated : ∀ r ∈ rs, r.time.isSome) (world : σ) :
    (p.processAll c mode world rs).1.1.Ready s :=
  processAll_invariant (fun _ _ world before first => before.process c mode first world) h dated
    world

theorem Reachable.ready (h : Reachable s p) : p.Ready s := by
  induction h with
  | new => exact ready_new s
  | process c mode world _ dated ih => exact ih.process c mode dated world
  | beginWarming device _ ih =>
    unfold Processor.beginWarming
    split
    · exact ih
    · exact ⟨⟨ih.settings, ih.windows⟩, ih.poised⟩
  | finishWarming _ _ ih => exact ⟨⟨ih.settings, ih.windows⟩, ih.poised⟩

end Processor

end FuelTelemetry

import FuelTelemetry.Proofs.Processing.Stages

/-!
Which way an activity runs in time. It goes from the middle of the sample that armed its sensor to
the middle of the sample that confirmed the change. Where readings come in the order of their times
these middles are in order too, except that a whole window may reach back behind the slice that
armed the sensor. That needs a window more than twice as large as all the readings since and half a
sample.
-/

namespace FuelTelemetry

open Time (Instant Stamp)

namespace Activity

def Forward (a : Activity) : Prop :=
  ∃ first last, a.startTime = some (.ofInstant first) ∧ a.endTime = some (.ofInstant last) ∧
    first ≤ last

def Backward (a : Activity) : Prop :=
  ∃ first last, a.startTime = some (.ofInstant first) ∧ a.endTime = some (.ofInstant last) ∧
    last ≤ first

variable {a : Activity} {first last : Reading}

theorem Spans.times (h : a.Spans first last) (dated : first.time.isSome)
    (dated' : last.time.isSome) : ∃ t t', first.time = some t ∧ last.time = some t' ∧
      a.startTime = some (.ofInstant t) ∧ a.endTime = some (.ofInstant t') := by
  obtain ⟨t, ht⟩ := Option.isSome_iff_exists.1 dated
  obtain ⟨t', ht'⟩ := Option.isSome_iff_exists.1 dated'
  exact ⟨t, t', ht, ht', by rw [h.startTime, ht]; rfl, by rw [h.endTime, ht']; rfl⟩

theorem Spans.forward (h : a.Spans first last) (dated : first.time.isSome)
    (dated' : last.time.isSome) (ordered : first.notAfter last = true) : a.Forward := by
  obtain ⟨t, t', ht, ht', start, stop⟩ := h.times dated dated'
  have le : t ≤ t' := by simpa [Reading.notAfter, ht, ht', Instant.le_iff] using ordered
  exact ⟨t, t', start, stop, le⟩

theorem Spans.backward (h : a.Spans first last) (dated : first.time.isSome)
    (dated' : last.time.isSome) (ordered : last.notAfter first = true) : a.Backward := by
  obtain ⟨t, t', ht, ht', start, stop⟩ := h.times dated dated'
  have le : t' ≤ t := by simpa [Reading.notAfter, ht, ht', Instant.le_iff] using ordered
  exact ⟨t, t', start, stop, le⟩

end Activity

namespace Stage

variable {s : Settings} {g g' : Stage} {first last : Reading}

/-- The whole window, with which a change is confirmed at the second stage, has its middle before
that of the slice that armed the sensor at the first. -/
def TurnsBack (s : Settings) (g g' : Stage) : Prop :=
  g.sliced s = true ∧ g'.sliced s = false ∧
    s.sampleSize.toNat / 2 + 1 + (g'.given.length - g.given.length) < g'.track.window.size / 2

theorem Sound.notAfter_of_le (h : g.Sound s) {i j : Nat} (hi : g.given[i]? = some first)
    (hj : g.given[j]? = some last) (le : i ≤ j) : first.notAfter last = true := by
  obtain ⟨inside, rfl⟩ := List.getElem?_eq_some_iff.1 hi
  obtain ⟨inside', rfl⟩ := List.getElem?_eq_some_iff.1 hj
  rcases Nat.lt_or_eq_of_le le with lt | rfl
  · exact List.pairwise_iff_getElem.1 h.ordered i j inside inside' lt
  · simp [Reading.notAfter]

theorem Sound.size_le (h : g.Sound s) : g.track.window.size ≤ g.given.length := h.ends.length_le

theorem MiddleIs.ordered (h : g.MiddleIs s first) (h' : g'.MiddleIs s last) (sound : g.Sound s)
    (sound' : g'.Sound s) (longer : g.given <+: g'.given)
    (further : g.given.length < g'.given.length)
    (grown : g'.track.window.size + g.given.length ≤ g.track.window.size + g'.given.length) :
    (¬ TurnsBack s g g' → first.notAfter last = true) ∧
      (TurnsBack s g g' → last.notAfter first = true) := by
  have least : leastSample ≤ s.sampleSize := s.leastSample_le
  have large := h.large
  have large' := h'.large
  have size := sound.size_le
  have size' := sound'.size_le
  have inside := (List.getElem?_eq_some_iff.1 h.middle).1
  have place : g'.given[g.given.length - g.depth s]? = some first := by
    obtain ⟨rest, whole⟩ := longer
    rw [← whole, List.getElem?_append_left inside]
    exact h.middle
  unfold leastSample at least
  -- a window grows by no more than the readings since, so its middle falls behind that of a slice
  -- alone, which lies close to the end whatever the size of the window
  have order : g'.given.length - g'.depth s < g.given.length - g.depth s ↔ TurnsBack s g g' := by
    unfold TurnsBack depth
    cases g.sliced s <;> cases g'.sliced s <;>
      simp only [Bool.false_eq_true, if_true, if_false, true_and, false_and, and_false,
        reduceCtorEq, iff_false] <;> omega
  constructor
  · intro onward
    exact sound'.notAfter_of_le place h'.middle (Nat.le_of_not_lt fun back => onward (order.1 back))
  · intro back
    exact sound'.notAfter_of_le h'.middle place (Nat.le_of_lt (order.2 back))

end Stage

namespace Processor

variable {σ : Type} {s : Settings} {c : Collaborators σ} {world : σ} {xs : List Submission}
  {n : Nat}

theorem key_of_activity {done : Handling} (logged : ((new s).run c world xs).1.2[n]? = some done)
    {a : Activity} (carried : done.result.outcome.activity = some a) :
    ∃ key, done.key = some key := by
  have inside := lt_of_logged logged
  have handled := run_getElem? c (new s) world (List.getElem?_eq_getElem inside)
  obtain rfl := Option.some.inj (handled.symm.trans logged)
  simp only [handling, process_fst] at carried ⊢
  obtain ⟨given, assigned, -⟩ := carryOut_located (c.assign_assigned _ _) carried
  exact ⟨given.key, by rw [assigned]; rfl⟩

/-- Where readings come in the order of their times, the sensor of an activity was armed by an
earlier reading, at the start of the activity. It runs forward in time, unless the confirming window
turns back behind the arming slice; then it runs backward. -/
theorem activity_forward (h : Orderly s c world xs) {done : Handling}
    (logged : ((new s).run c world xs).1.2[n]? = some done) {a : Activity}
    (carried : done.result.outcome.activity = some a) :
    ∃ key o m, m < n ∧ done.key = some key ∧
      (stage s c world xs key m).track.armed = none ∧
      (stage s c world xs key (m + 1)).track.armed = some ⟨o, none⟩ ∧ a.start = some o.reading ∧
      (¬ Stage.TurnsBack s (stage s c world xs key (m + 1)) (stage s c world xs key (n + 1)) →
        a.Forward) ∧
      (Stage.TurnsBack s (stage s c world xs key (m + 1)) (stage s c world xs key (n + 1)) →
        a.Backward) := by
  obtain ⟨key, own⟩ := key_of_activity logged carried
  have inside := lt_of_logged logged
  have moved := h.stage_moved logged key
  rw [if_pos own, carried] at moved
  generalize announced : some a = activity at moved
  cases moved with
  | same _ => cases announced
  | opened _ _ _ _ => cases announced
  | held _ _ => cases announced
  | @reported o before last b armed idle middle spans further =>
    obtain rfl := Option.some.inj announced
    obtain ⟨fits, m, earlier, idleBefore, opened, begun⟩ :=
      h.armed_since (Nat.le_of_lt inside) armed
    have sound := h.stage_sound key (n := m + 1) (by omega)
    have sound' := h.stage_sound key (n := n + 1) inside
    obtain ⟨upToHere, -⟩ := h.stage_grows key (m := m + 1) (n := n) earlier (Nat.le_of_lt inside)
    obtain ⟨longer, grown⟩ := h.stage_grows key (m := m + 1) (n := n + 1) (by omega) inside
    have behind := Nat.lt_of_le_of_lt upToHere.length_le further
    have span := spans fits
    have spanned : (b.located key).Spans o.reading last :=
      ⟨span.start, span.stop, span.startTime, span.endTime, span.volume, span.falls, span.rises⟩
    have first := sound.dated _ (List.mem_of_getElem? begun.middle)
    have final := sound'.dated _ (List.mem_of_getElem? middle.middle)
    obtain ⟨onward, back⟩ := begun.ordered middle sound sound' longer behind grown
    exact ⟨key, o, m, earlier, own, idleBefore, opened, span.start,
      fun turns => spanned.forward first final (onward turns),
      fun turns => spanned.backward first final (back turns)⟩

end Processor

def Settings.eightAtOnce : Settings :=
  { Settings.fourAtOnce with
    windowCapacity := 8
    averageSize := 1
    windowCapacity_pos := by decide
    averageSize_pos := by decide }

/-- A fall that arms the tank at the fifth reading, and hours later a single reading, for which only
the whole window makes a full sample. -/
def Submission.lateRise : List Submission :=
  [⟨.live, .ofTank 101 (some 0) (some 20.0)⟩, ⟨.live, .ofTank 102 (some 0) (some 20.0)⟩,
    ⟨.live, .ofTank 103 (some 0) (some 20.0)⟩, ⟨.live, .ofTank 104 (some 0) (some 40.0)⟩,
    ⟨.live, .ofTank 105 (some 0) (some 20.0)⟩, ⟨.live, .ofTank 106 (some 0) (some 10.0)⟩,
    ⟨.live, .ofTank 107 (some 200) none⟩, ⟨.live, .ofTank 400 (some 3500) none⟩]

def Submission.quickRise : List Submission :=
  [⟨.live, .ofTank 101 (some 0) (some 20.0)⟩, ⟨.live, .ofTank 102 (some 0) (some 20.0)⟩,
    ⟨.live, .ofTank 103 (some 700) none⟩, ⟨.live, .ofTank 104 (some 0) (some 60.0)⟩,
    ⟨.live, .ofTank 105 (some 0) (some 60.0)⟩, ⟨.live, .ofTank 106 (some 600) none⟩]

namespace Processor

def spanAt (log : List Handling) (n : Nat) : Option (Option Nat × Option Nat) :=
  (log[n]?.bind (·.result.outcome.activity)).map fun a =>
    (a.startTime.map (·.wall.micros), a.endTime.map (·.wall.micros))

theorem exists_of_spanAt {log : List Handling} {n : Nat} {span : Option Nat × Option Nat}
    (h : spanAt log n = some span) :
    ∃ done a, log[n]? = some done ∧ done.result.outcome.activity = some a ∧
      a.startTime.map (·.wall.micros) = span.1 ∧ a.endTime.map (·.wall.micros) = span.2 := by
  obtain ⟨a, found, rfl⟩ := Option.map_eq_some_iff.1 h
  obtain ⟨done, logged, carried⟩ := Option.bind_eq_some_iff.1 found
  exact ⟨done, a, logged, carried, rfl, rfl⟩

theorem span_lateRise :
    spanAt ((new .eightAtOnce).run InMemory.collaborators .oneTank Submission.lateRise).1.2 7 =
      some (some (105 * Time.minute), some (104 * Time.minute)) := by
  decide +kernel

theorem orderly_lateRise :
    Orderly .eightAtOnce InMemory.collaborators .oneTank Submission.lateRise :=
  ⟨by decide, by decide, by decide +kernel⟩

theorem span_quickRise :
    spanAt ((new .eightAtOnce).run InMemory.collaborators .oneTank Submission.quickRise).1.2 5 =
      some (some (102 * Time.minute), some (104 * Time.minute)) := by
  decide +kernel

theorem orderly_quickRise :
    Orderly .eightAtOnce InMemory.collaborators .oneTank Submission.quickRise :=
  ⟨by decide, by decide, by decide +kernel⟩

theorem key_quickRise :
    ((new .eightAtOnce).run InMemory.collaborators .oneTank
      Submission.quickRise).1.2[5]?.bind (·.key) = some ⟨1, 7⟩ := by
  decide +kernel

theorem sliced_quickRise :
    (stage .eightAtOnce InMemory.collaborators .oneTank Submission.quickRise ⟨1, 7⟩ 6).sliced
      .eightAtOnce = true := by
  decide +kernel

theorem activity_forward_rises :
    (Orderly .eightAtOnce InMemory.collaborators .oneTank Submission.quickRise ∧
      ∃ (done : Handling) (a : Activity),
        ((new .eightAtOnce).run InMemory.collaborators .oneTank
          Submission.quickRise).1.2[5]? = some done ∧
        done.result.outcome.activity = some a ∧ a.Forward) ∧
    Orderly .eightAtOnce InMemory.collaborators .oneTank Submission.lateRise ∧
      ∃ (done : Handling) (a : Activity) (key : SensorKey) (o : Opening) (m : Nat),
        ((new .eightAtOnce).run InMemory.collaborators .oneTank
          Submission.lateRise).1.2[7]? = some done ∧
        done.result.outcome.activity = some a ∧ m < 7 ∧ done.key = some key ∧
        a.start = some o.reading ∧
        (¬ Stage.TurnsBack .eightAtOnce
            (stage .eightAtOnce InMemory.collaborators .oneTank Submission.lateRise key (m + 1))
            (stage .eightAtOnce InMemory.collaborators .oneTank Submission.lateRise key 8) →
          a.Forward) := by
  constructor
  · obtain ⟨done, a, logged, carried, -⟩ := exists_of_spanAt span_quickRise
    obtain ⟨key, o, m, -, own, -, -, -, onward, -⟩ :=
      activity_forward orderly_quickRise logged carried
    have known := key_quickRise
    rw [logged, Option.bind_some, own] at known
    obtain rfl := Option.some.inj known
    refine ⟨orderly_quickRise, done, a, logged, carried, onward fun turns => ?_⟩
    have whole := turns.2.1
    rw [sliced_quickRise] at whole
    cases whole
  · obtain ⟨done, a, logged, carried, -⟩ := exists_of_spanAt span_lateRise
    obtain ⟨key, o, m, earlier, own, -, -, start, onward, -⟩ :=
      activity_forward orderly_lateRise logged carried
    exact ⟨orderly_lateRise, done, a, key, o, m, logged, carried, earlier, own, start, onward⟩

theorem activity_not_forward :
    ¬ ∀ (s : Settings) (world : InMemory) (xs : List Submission),
      Orderly s InMemory.collaborators world xs →
      ∀ done ∈ ((new s).run InMemory.collaborators world xs).1.2, ∀ a,
        done.result.outcome.activity = some a → a.Forward := by
  intro claim
  obtain ⟨done, a, logged, carried, start, stop⟩ := exists_of_spanAt span_lateRise
  obtain ⟨first, last, starts, stops, le⟩ := claim .eightAtOnce .oneTank Submission.lateRise
    orderly_lateRise done (List.mem_of_getElem? logged) a carried
  rw [starts] at start
  rw [stops] at stop
  have began : first.micros = 105 * Time.minute := Option.some.inj start
  have ended : last.micros = 104 * Time.minute := Option.some.inj stop
  rw [Instant.le_iff, began, ended] at le
  exact absurd le (by decide)

end Processor

end FuelTelemetry

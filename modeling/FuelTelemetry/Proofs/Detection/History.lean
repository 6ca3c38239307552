import FuelTelemetry.Proofs.Detection.Checking
import Mathlib.Data.List.DropRight

/-!
The history of a detector. Of the calls for a sensor only those since its last report or reset
matter: the sensor is armed once one of their samples is wide, at the opening of the earliest such
sample, whatever the later ones hold. A report begins at that opening and ends in the middle of its
own sample, so that two reports for a sensor have an opening in between.
-/

namespace FuelTelemetry

def Reading.atLevel (level : Float) : Reading where
  device := 1
  time := none
  latitude := none
  longitude := none
  sensor := some 7
  payload := none
  analog := none
  event := 0
  level := some level
  id := none

namespace Detector

inductive Call where
  | check (key : SensorKey) (sample : List Reading) (t : Thresholds)
  | reset (key : SensorKey)

namespace Call

def key : Call → SensorKey
  | check key _ _ => key
  | reset key => key

def sample : Call → List Reading
  | check _ sample _ => sample
  | reset _ => []

def opening? : Call → Option Opening
  | check _ sample t => openingOf sample t.change
  | reset _ => none

end Call

def perform (d : Detector) : Call → Detector × Except Fault Activity
  | .check key sample t => d.check key sample t
  | .reset key => (d.reset key, .ok .nothing)

structure Answered where
  call : Call
  answer : Except Fault Activity

namespace Answered

def reports (x : Answered) : Bool :=
  match x.answer with
  | .ok activity => activity.detected
  | .error _ => false

def resets (x : Answered) : Bool :=
  match x.call with
  | .check .. => false
  | .reset _ => true

def ends (key : SensorKey) (x : Answered) : Bool :=
  x.call.key = key && (x.reports || x.resets)

def opening? (key : SensorKey) (x : Answered) : Option Opening :=
  if x.call.key = key then x.call.opening? else none

end Answered

/-- A detector with all calls that made it what it is. -/
structure History where
  detector : Detector
  log : List Answered

def History.record (h : History) (call : Call) : History :=
  ⟨(h.detector.perform call).1, h.log ++ [⟨call, (h.detector.perform call).2⟩]⟩

def history (calls : List Call) : History :=
  calls.foldl History.record ⟨[], []⟩

theorem history_concat (calls : List Call) (call : Call) :
    history (calls ++ [call]) = (history calls).record call := by
  simp [history]

/-- The openings that a sensor had occasion for since its last report or reset, in order. -/
def openingsSince (key : SensorKey) (log : List Answered) : List Opening :=
  (log.rtakeWhile fun x => !x.ends key).filterMap (·.opening? key)

section Since

variable {key : SensorKey} {log : List Answered} {x : Answered}

theorem openingsSince_concat_of_ends (h : x.ends key = true) :
    openingsSince key (log ++ [x]) = [] := by
  rw [openingsSince, List.rtakeWhile_concat_neg _ _ _ (by simp [h])]
  rfl

theorem openingsSince_concat (h : x.ends key = false) :
    openingsSince key (log ++ [x]) = openingsSince key log ++ (x.opening? key).toList := by
  rw [openingsSince, List.rtakeWhile_concat_pos _ _ _ (by simp [h]), List.filterMap_append,
    ← openingsSince]
  cases opening : x.opening? key <;> simp [opening]

theorem openingsSince_concat_of_ne (h : x.call.key ≠ key) :
    openingsSince key (log ++ [x]) = openingsSince key log := by
  rw [openingsSince_concat (by simp [Answered.ends, h]), Answered.opening?, if_neg h]
  simp

theorem openingsSince_concat_quiet (sample : List Reading) (t : Thresholds) :
    openingsSince key (log ++ [⟨.check key sample t, .ok .nothing⟩]) =
      openingsSince key log ++ (openingOf sample t.change).toList := by
  rw [openingsSince_concat (by simp [Answered.ends, Answered.reports, Answered.resets,
    Activity.nothing, Activity.detected])]
  simp [Answered.opening?, Call.key, Call.opening?]

theorem exists_opening_of_ends (h : x.ends key = true) (between : List Answered)
    (opened : openingsSince key (log ++ x :: between) ≠ []) :
    ∃ z ∈ between, (z.opening? key).isSome := by
  induction between using List.reverseRecOn with
  | nil => exact absurd (openingsSince_concat_of_ends h) opened
  | append_singleton between z ih =>
    rw [← List.cons_append, ← List.append_assoc] at opened
    cases last : z.ends key with
    | true => exact absurd (openingsSince_concat_of_ends last) opened
    | false =>
      rw [openingsSince_concat last] at opened
      cases opening : z.opening? key with
      | some o => exact ⟨z, by simp, by simp [opening]⟩
      | none =>
        simp only [opening, Option.toList_none, List.append_nil] at opened
        obtain ⟨y, hy, found⟩ := ih opened
        exact ⟨y, List.mem_append_left _ hy, found⟩

end Since

theorem get?_perform_of_ne {d : Detector} {call : Call} {key : SensorKey} (h : call.key ≠ key) :
    (d.perform call).1.get? key = d.get? key := by
  cases call with
  | check k sample t => exact get?_setEntry_of_ne (Ne.symm h) _ _
  | reset k => exact Table.get?_erase_of_ne (Ne.symm h) d

theorem perform_check (d : Detector) (key : SensorKey) (sample : List Reading) (t : Thresholds)
    (levelled : Levelled sample) :
    Armed.Checked sample t.change (d.get? key)
      ((d.perform (.check key sample t)).1.get? key, (d.perform (.check key sample t)).2) := by
  have checked := Armed.check_checked levelled (d.get? key) t
  have entry : (d.perform (.check key sample t)).1.get? key =
      (Armed.check (d.get? key) sample t).1 := get?_setEntry_self _ _ _
  rw [entry]
  exact checked

theorem perform_ok (d : Detector) {call : Call} (levelled : Levelled call.sample) :
    ∃ a, (d.perform call).2 = .ok a := by
  cases call with
  | check key sample t => exact Armed.check_ok (d.get? key) levelled t
  | reset key => exact ⟨.nothing, rfl⟩

theorem perform_reported {d : Detector} {call : Call} {a : Activity}
    (levelled : Levelled call.sample) (answer : (d.perform call).2 = .ok a)
    (detected : a.detected = true) :
    ∃ armed last, d.get? call.key = some armed ∧ middleOf call.sample = some last ∧
      (armed.opening.Fits → a.Spans armed.opening.reading last) ∧
      (d.perform call).1.get? call.key = none := by
  cases call with
  | reset key =>
    cases answer
    cases detected
  | check key sample t =>
    have checked := perform_check d key sample t levelled
    rw [answer] at checked
    simp only [Call.key, Call.sample]
    generalize d.get? key = entry at checked ⊢
    generalize (d.perform (.check key sample t)).1.get? key = entry' at checked ⊢
    cases checked with
    | reported before middle _ spans => exact ⟨_, _, rfl, middle, spans, rfl⟩
    | _ => cases detected

variable {calls : List Call}

theorem get?_history (levelled : ∀ call ∈ calls, Levelled call.sample) (key : SensorKey) :
    ((history calls).detector.get? key).map (·.opening) =
      (openingsSince key (history calls).log).head? := by
  -- the last call alone decides between keeping, adding and dropping what was open before it
  induction calls using List.reverseRecOn with
  | nil => rfl
  | append_singleton calls call ih =>
    have before := ih fun other h => levelled other (List.mem_append_left _ h)
    rw [history_concat]
    simp only [History.record]
    by_cases own : call.key = key
    · cases call with
      | reset k =>
        subst own
        rw [openingsSince_concat_of_ends (by simp [Answered.ends, Answered.resets])]
        have idle := Table.get?_erase_self k (history calls).detector
        exact congrArg (Option.map Armed.opening) idle
      | check k sample t =>
        obtain rfl : k = key := own
        have levelledSample : Levelled sample := levelled (.check k sample t) (by simp)
        have checked := perform_check (history calls).detector k sample t levelledSample
        generalize (history calls).detector.get? k = entry at before checked
        generalize ((history calls).detector.perform (.check k sample t)).1.get? k = entry'
          at checked ⊢
        generalize ((history calls).detector.perform (.check k sample t)).2 = answer at checked ⊢
        cases checked with
        | idle calm =>
          rw [openingsSince_concat_quiet, calm]
          simpa using before
        | opened wide =>
          have none_before := List.head?_eq_none_iff.1 before.symm
          rw [openingsSince_concat_quiet, wide, none_before]
          rfl
        | held o closing closing' =>
          -- a later wide sample comes behind the first opening
          rw [openingsSince_concat_quiet, List.head?_append, ← before]
          rfl
        | reported _ _ detected _ =>
          rw [openingsSince_concat_of_ends (by simp [Answered.ends, Answered.reports, detected,
            Call.key])]
          rfl
    · rw [get?_perform_of_ne own, openingsSince_concat_of_ne own]
      exact before

theorem fits_of_mem_openingsSince {key : SensorKey} {log : List Answered} {o : Opening}
    (h : o ∈ openingsSince key log) : o.Fits := by
  obtain ⟨x, -, opening⟩ := List.mem_filterMap.1 h
  unfold Answered.opening? at opening
  split at opening
  · unfold Call.opening? at opening
    split at opening
    · exact (openingOf_middle opening).2
    · cases opening
  · cases opening

theorem opening_between_reports (levelled : ∀ call ∈ calls, Levelled call.sample)
    {key : SensorKey} {x y : Answered} {before between after : List Answered}
    (split : (history calls).log = before ++ x :: (between ++ y :: after))
    (first : x.call.key = key) (reported : x.reports = true)
    (second : y.call.key = key) (reportedAgain : y.reports = true) :
    ∃ z ∈ between, (z.opening? key).isSome := by
  induction calls using List.reverseRecOn generalizing after with
  | nil => simp [history] at split
  | append_singleton calls call ih =>
    have levelledBefore : ∀ other ∈ calls, Levelled other.sample :=
      fun other h => levelled other (List.mem_append_left _ h)
    rw [history_concat] at split
    simp only [History.record] at split
    rcases List.eq_nil_or_concat after with rfl | ⟨after, last, rfl⟩
    · -- the second report is the last answer, so that the sensor was armed before it
      obtain ⟨past, rfl⟩ : (history calls).log = before ++ x :: between ∧
          (⟨call, ((history calls).detector.perform call).2⟩ : Answered) = y := by
        rw [← List.cons_append, ← List.append_assoc] at split
        simpa using List.append_inj' split rfl
      subst second
      obtain ⟨a, answer⟩ := perform_ok (history calls).detector
        (levelled call (by simp))
      simp only [Answered.reports, answer] at reportedAgain
      obtain ⟨armed, -, entry, -⟩ := perform_reported (levelled call (by simp)) answer reportedAgain
      have since := get?_history levelledBefore call.key
      rw [entry, past] at since
      have opened : openingsSince call.key (before ++ x :: between) ≠ [] := by
        rintro nothing
        rw [nothing] at since
        cases since
      have ended : x.ends call.key = true := by simp [Answered.ends, first, reported]
      exact exists_opening_of_ends ended between opened
    · have past : (history calls).log = before ++ x :: (between ++ y :: after) := by
        have ended : before ++ x :: (between ++ y :: after.concat last) =
            (before ++ x :: (between ++ y :: after)) ++ [last] := by simp
        exact (List.append_inj' (split.trans ended) rfl).1
      exact ih levelledBefore past

/-- A sensor is armed exactly if it has had a wide sample since its last report or reset, at the
opening of the earliest one. A report spans from there to the middle of its sample and leaves the
sensor idle, so that another needs another opening; the entries of other sensors stay. -/
theorem entries_and_reports (levelled : ∀ call ∈ calls, Levelled call.sample) (key : SensorKey) :
    ((history calls).detector.get? key).map (·.opening) =
        (openingsSince key (history calls).log).head? ∧
      (∀ call : Call, Levelled call.sample →
        ∃ a, ((history calls).detector.perform call).2 = .ok a ∧
          (call.key ≠ key → ((history calls).detector.perform call).1.get? key =
            (history calls).detector.get? key) ∧
          (call.key = key → a.detected = true →
            ((history calls).detector.perform call).1.get? key = none ∧
            ∃ o last, (openingsSince key (history calls).log).head? = some o ∧
              middleOf call.sample = some last ∧ a.Spans o.reading last)) ∧
      ∀ before x between y after,
        (history calls).log = before ++ x :: (between ++ y :: after) →
        x.call.key = key → x.reports = true → y.call.key = key → y.reports = true →
        ∃ z ∈ between, (z.opening? key).isSome := by
  have opened := get?_history levelled key
  refine ⟨opened, fun call levelledCall => ?_, fun before x between y after split first reported =>
    opening_between_reports levelled split first reported⟩
  obtain ⟨a, answer⟩ := perform_ok (history calls).detector levelledCall
  refine ⟨a, answer, get?_perform_of_ne, ?_⟩
  rintro rfl detected
  obtain ⟨armed, last, entry, middle, spans, idle⟩ := perform_reported levelledCall answer detected
  rw [entry, Option.map_some] at opened
  have fits := fits_of_mem_openingsSince (List.mem_of_mem_head? opened.symm)
  exact ⟨idle, armed.opening, last, opened.symm, middle, spans fits⟩

def Call.rise : List Call :=
  [.check ⟨1, 7⟩ ([20.0, 20.0, 40.0].map Reading.atLevel) ⟨5.0, 0.5⟩,
    .check ⟨1, 7⟩ ([20.0, 40.0, 40.0].map Reading.atLevel) ⟨5.0, 0.5⟩]

theorem entries_and_reports_rise :
    (∀ call ∈ Call.rise, Levelled call.sample) ∧
      (openingsSince ⟨1, 7⟩ (history Call.rise).log).length = 2 ∧
      ((history Call.rise).detector.get? ⟨1, 7⟩).map (·.opening) =
        (openingsSince ⟨1, 7⟩ (history Call.rise).log).head? := by
  have levelled : ∀ call ∈ Call.rise, Levelled call.sample := by
    simp [Call.rise, Call.sample, Levelled, Reading.atLevel]
  exact ⟨levelled, by decide +kernel, (entries_and_reports levelled ⟨1, 7⟩).1⟩

end Detector

end FuelTelemetry

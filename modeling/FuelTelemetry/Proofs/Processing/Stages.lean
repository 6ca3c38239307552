import FuelTelemetry.Proofs.Processing.Latest
import FuelTelemetry.Proofs.Window.Trailing

/-!
The stages of a sensor in a run: its track and all readings accepted for it so far. A reading of
the sensor brings it from one stage to the next, any other leaves it where it is. As long as the
readings of a sensor are not replayed and come in the order of their times, its window ends the list
of its readings, and so the middle of the sample that a reading is checked with has its place there.
-/

namespace FuelTelemetry

open Time (Instant)

structure Stage where
  track : Track
  given : List Reading

namespace Stage

/-- The last reading would be checked with a slice of its trailing span. -/
def sliced (s : Settings) (g : Stage) : Bool :=
  g.given.getLast?.any (g.track.window.sliced s.sampleSize s.reach.lookback)

/-- How far from the end of the readings the middle of the sample of the last one lies. -/
def depth (s : Settings) (g : Stage) : Nat :=
  if g.sliced s then s.sampleSize.toNat / 2 + 2 else g.track.window.size / 2 + 1

inductive Stepped (s : Settings) (key : SensorKey) (g : Stage) (r : Reading) (t : Instant) :
    Stage × Option Activity → Prop
  | refused : Stepped s key g r t (g, none)
  | withdrawn {arrivals : Nat} {rest : List Entry} (later : g.track.window.arrivals ≤ arrivals)
    (ends : rest <:+ g.track.window.entries) :
    Stepped s key g r t (⟨⟨⟨arrivals, .dated rest⟩, g.track.armed⟩, g.given⟩, none)
  | received (levelled : r.level.isSome) :
    Stepped s key g r t
      (⟨⟨g.track.window.receive s.capacity t r, g.track.armed⟩, g.given ++ [r]⟩, none)
  | checked {sample : List Reading} {change : Float} {armed : Option Armed} {a : Activity}
    (levelled : r.level.isSome)
    (selected : (g.track.window.receive s.capacity t r).select r s.sampleSize s.reach = .ok sample)
    (full : s.sampleSize ≤ sample.length)
    (checked : Armed.Checked sample change g.track.armed (armed, .ok a)) :
    Stepped s key g r t
      (⟨⟨g.track.window.receive s.capacity t r, armed⟩, g.given ++ [r]⟩,
        if a.detected then some (a.located key) else none)

structure Sound (s : Settings) (g : Stage) : Prop where
  window : g.track.window.Sound s.capacity
  ends : g.track.window.readings <:+ g.given
  dated : ∀ r ∈ g.given, r.time.isSome
  ordered : g.given.Pairwise fun a b => a.notAfter b = true

variable {s : Settings} {key : SensorKey} {g g' : Stage} {r : Reading} {t : Instant}
  {activity : Option Activity}

theorem sound_empty (s : Settings) : Sound s ⟨Track.empty, []⟩ where
  window := Window.sound_empty _
  ends := List.suffix_refl _
  dated _ hr := absurd hr List.not_mem_nil
  ordered := .nil

theorem Sound.late (h : g.Sound s) (ht : r.time = some t)
    (after : ∀ o ∈ g.given, o.notAfter r = true) : ∀ e ∈ g.track.window.entries, e.time ≤ t := by
  intro e he
  have listed : e.reading ∈ g.track.window.readings := by
    rw [h.window.readings_eq]
    exact List.mem_map_of_mem he
  have before := after e.reading (h.ends.subset listed)
  simpa [Reading.notAfter, h.window.timed e he, ht, Instant.le_iff] using before

theorem Sound.receive (h : g.Sound s) (ht : r.time = some t) (levelled : r.level.isSome)
    (after : ∀ o ∈ g.given, o.notAfter r = true) (armed : Option Armed) :
    Sound s ⟨⟨g.track.window.receive s.capacity t r, armed⟩, g.given ++ [r]⟩ where
  window := h.window.receive ht levelled
  ends := h.window.receive_suffix (h.late ht after) h.ends
  dated o ho := by
    rcases List.mem_append.1 ho with ho | ho
    · exact h.dated o ho
    · rw [List.mem_singleton.1 ho, ht]
      rfl
  ordered := List.pairwise_append.2 ⟨h.ordered, List.pairwise_singleton _ _, fun o ho last hl => by
    rw [List.mem_singleton.1 hl]
    exact after o ho⟩

theorem Stepped.sound (h : Stepped s key g r t (g', activity)) (sound : g.Sound s)
    (ht : r.time = some t) (after : ∀ o ∈ g.given, o.notAfter r = true) : g'.Sound s := by
  cases h with
  | refused => exact sound
  | @withdrawn arrivals rest later ends =>
    have kept := sound.window.sublist ends.sublist later
    refine ⟨kept, ?_, sound.dated, sound.ordered⟩
    have readings := ends.map Entry.reading
    rw [← sound.window.readings_eq] at readings
    exact readings.trans sound.ends
  | received levelled => exact sound.receive ht levelled after _
  | checked levelled _ _ _ => exact sound.receive ht levelled after _

/-- A stage extends the one before by as many readings at least as its window grows. -/
theorem Stepped.grows (h : Stepped s key g r t (g', activity)) (sound : g.Sound s) :
    g.given <+: g'.given ∧
      g'.track.window.size + g.given.length ≤ g.track.window.size + g'.given.length := by
  have receive : (g.track.window.receive s.capacity t r).size ≤ g.track.window.size + 1 := by
    rw [sound.window.size_receive]
    exact Nat.min_le_right _ _
  cases h with
  | refused => exact ⟨List.prefix_refl _, Nat.le_refl _⟩
  | withdrawn _ ends =>
    refine ⟨List.prefix_refl _, Nat.add_le_add_right ?_ _⟩
    rw [sound.window.size_eq, Window.size, Window.readings, Contents.readings, List.length_map]
    exact ends.length_le
  | received _ =>
    refine ⟨List.prefix_append _ _, ?_⟩
    simp only [List.length_append, List.length_singleton]
    omega
  | checked _ _ _ _ =>
    refine ⟨List.prefix_append _ _, ?_⟩
    simp only [List.length_append, List.length_singleton]
    omega

structure MiddleIs (s : Settings) (g : Stage) (r : Reading) : Prop where
  middle : g.given[g.given.length - g.depth s]? = some r
  large : s.sampleSize ≤ g.track.window.size

theorem Sound.middleIs (h : g'.Sound s) {front : List Reading} (last : g'.given = front ++ [r])
    (ht : r.time = some t) (current : r.isReplayed = false) {sample : List Reading}
    (selected : g'.track.window.select r s.sampleSize s.reach = .ok sample)
    (full : s.sampleSize ≤ sample.length) {middle : Reading}
    (found : middleOf sample = some middle) : g'.MiddleIs s middle := by
  have after : ∀ o ∈ g'.given, o.notAfter r = true := by
    intro o ho
    have ordered := h.ordered
    rw [last] at ho ordered
    rcases List.mem_append.1 ho with ho | ho
    · exact (List.pairwise_append.1 ordered).2.2 o ho r List.mem_cons_self
    · rw [List.mem_singleton.1 ho]
      simp [Reading.notAfter]
  have cut : g'.sliced s = g'.track.window.sliced s.sampleSize s.reach.lookback r := by
    rw [sliced, last, List.getLast?_append, List.getLast?_singleton]
    rfl
  have least : 0 < s.sampleSize := Int.lt_of_lt_of_le (by decide) s.leastSample_le
  obtain ⟨place, large⟩ :=
    h.window.middleOf_selected ht current (h.late ht after) least selected full h.ends
  refine ⟨?_, large⟩
  rw [depth, cut, ← place]
  exact found

/-- What a step does to the detector entry: an idle sensor may be armed at the middle of a sample,
an armed one keeps its opening until its change is reported, up to the middle of another sample. -/
inductive Moved (s : Settings) (key : SensorKey) (g g' : Stage) : Option Activity → Prop
  | same (armed : g'.track.armed = g.track.armed) : Moved s key g g' none
  | opened {o : Opening} (idle : g.track.armed = none) (armed : g'.track.armed = some ⟨o, none⟩)
    (fits : o.Fits) (middle : g'.MiddleIs s o.reading) : Moved s key g g' none
  | held {o : Opening} {before after : Option Closing} (armed : g.track.armed = some ⟨o, before⟩)
    (still : g'.track.armed = some ⟨o, after⟩) : Moved s key g g' none
  | reported {o : Opening} {before : Option Closing} {last : Reading} {a : Activity}
    (armed : g.track.armed = some ⟨o, before⟩) (idle : g'.track.armed = none)
    (middle : g'.MiddleIs s last) (spans : o.Fits → a.Spans o.reading last)
    (further : g.given.length < g'.given.length) : Moved s key g g' (some (a.located key))

theorem Stepped.moved (h : Stepped s key g r t (g', activity)) (sound : g'.Sound s)
    (ht : r.time = some t) (current : r.isReplayed = false) : Moved s key g g' activity := by
  cases h with
  | refused => exact .same rfl
  | withdrawn _ _ => exact .same rfl
  | received _ => exact .same rfl
  | @checked sample change armed a _ selected full checked =>
    have middle {r' : Reading} (found : middleOf sample = some r') :=
      sound.middleIs rfl ht current selected full found
    generalize entry : g.track.armed = before at checked
    cases checked with
    | idle _ => exact .same entry.symm
    | opened wide =>
      obtain ⟨found, fits⟩ := openingOf_middle wide
      exact .opened entry rfl fits (middle found)
    | held o _ _ => exact .held entry rfl
    | reported _ found detected spans =>
      rw [if_pos detected]
      exact .reported entry rfl (middle found) spans (by simp)

end Stage

variable {s : Settings} {mode : Mode} {r : Reading} {t : Instant}

theorem Track.enter_stepped {g : Stage} (sound : g.track.window.Sound s.capacity)
    (ht : r.time = some t) (key : SensorKey) (mode : Mode) (curve : Curve) (raw : RawValue) :
    g.Stepped s key (g.track.enter s key mode curve raw r).2.reading t
      (⟨(g.track.enter s key mode curve raw r).1,
          g.given ++ (g.track.enter s key mode curve raw r).2.taken⟩,
        (g.track.enter s key mode curve raw r).2.outcome.activity) := by
  have entered := enter_entered sound ht key mode curve raw
  generalize ended : g.track.enter s key mode curve raw r = after at entered
  cases entered with
  | refused _ =>
    simp only [Result.taken, Outcome.accepted, Bool.false_eq_true, if_false, List.append_nil]
    exact .refused
  | @withdrawn mean fault rest _ _ _ _ crowded roomy =>
    simp only [Result.taken, Outcome.accepted, Bool.false_eq_true, if_false, List.append_nil]
    refine .withdrawn (Nat.le_succ _) ?_
    by_cases full : g.track.window.Crowded s.capacity t
    · obtain rfl := crowded full
      exact List.tail_suffix _
    · obtain rfl := roomy full
      exact List.suffix_refl _
  | @taken mean armed activity _ _ _ =>
    have processed : (g.track.enter s key mode curve raw r).2.outcome = .processed activity := by
      rw [ended]
    obtain ⟨level, done, -, inserted, reading, confirmed⟩ := enter_processed processed
    rw [ended] at reading confirmed
    obtain rfl : r.withLevel mean = level := reading
    obtain ⟨evicted, received⟩ := sound.insert_eq (r := r.withLevel mean) ht
    obtain rfl := Except.ok.inj (received.symm.trans inserted)
    simp only [Result.taken, Outcome.accepted, if_true, Outcome.activity]
    cases confirmed with
    | unlooked _ => exact .received rfl
    | short _ _ _ => exact .received rfl
    | looked _ selected full checked =>
      have received := sound.receive (r := r.withLevel mean) ht rfl
      have levelled := received.levelled_sample selected
      have known := Armed.check_checked levelled g.track.armed (s.thresholds raw.source)
      rw [checked] at known
      exact .checked rfl selected full known

theorem Assignment.perform_stepped (mode : Mode) {a : Assignment} (assigned : Assigned r (.ok a))
    {g : Stage} (sound : g.track.window.Sound s.capacity) (ht : r.time = some t) :
    g.Stepped s a.key (a.perform s mode r g.track).2.reading t
      (⟨(a.perform s mode r g.track).1, g.given ++ (a.perform s mode r g.track).2.taken⟩,
        (a.perform s mode r g.track).2.outcome.activity) := by
  cases assigned with
  | keep _ has =>
    simp only [perform, Track.keep_eq sound ht]
    exact .received has
  | @enter key curve raw _ _ => exact Track.enter_stepped sound ht key mode curve raw

inductive Result.Gives (r : Reading) : Result → Prop where
  | processed (level : Float) (activity : Option Activity) :
      Gives r ⟨r.withLevel level, .processed activity⟩
  | unchanged (outcome : Outcome) (other : outcome.status ≠ .processed) : Gives r ⟨r, outcome⟩

theorem Result.Gives.reading {result : Result} (h : Result.Gives r result) :
    ∃ level, result.reading = { r with level } := by
  cases h with
  | processed level activity => exact ⟨some level, rfl⟩
  | unchanged outcome other => exact ⟨r.level, rfl⟩

namespace Processor

variable {σ : Type} {p : Processor}

theorem carryOut_gives {given : Except Outcome Assignment} (assigned : Assigned r given)
    (p : Processor) (mode : Mode) : Result.Gives r (p.carryOut mode r given).2 := by
  cases assigned with
  | skipped reason => exact .unchanged (.skipped reason) (by rintro ⟨⟩)
  | failed fault => exact .unchanged (.failed fault) (by rintro ⟨⟩)
  | keep own has =>
    simp only [carryOut, onTrack, Assignment.perform, Track.keep]
    split
    · exact .unchanged .stored (by rintro ⟨⟩)
    · exact .unchanged (.failed _) (by rintro ⟨⟩)
  | @enter key curve raw own lacks =>
    simp only [carryOut, onTrack, Assignment.perform]
    cases ok : Track.levelled p.settings (p.track key).window curve raw.points r with
    | error fault =>
      rw [Track.enter_of_unlevelled ok]
      exact .unchanged (.failed fault) (by rintro ⟨⟩)
    | ok level =>
      obtain ⟨-, -, mean, rfl⟩ := Track.levelled_ok ok
      cases inserted : (p.track key).window.insert p.settings.capacity (r.withLevel mean) with
      | error fault =>
        rw [Settings.capacity] at inserted
        simp only [Track.enter, ok, inserted, bind, Except.bind]
        exact .unchanged (.failed fault) (by rintro ⟨⟩)
      | ok done =>
        rw [Track.enter_of_levelled ok inserted]
        unfold Track.conclude
        split
        · exact .processed mean _
        · exact .unchanged (.failed _) (by rintro ⟨⟩)

theorem Sound.carryOut_stepped (h : p.Sound s) (mode : Mode) {given : Except Outcome Assignment}
    (assigned : Assigned r given) (ht : r.time = some t) (key : SensorKey) (before : List Reading) :
    let done := p.carryOut mode r given
    let handling : Handling := ⟨given.toOption.map (·.key), done.2⟩
    (handling.key ≠ some key ∧ done.1.track key = p.track key ∧ handling.taken key = []) ∨
      (handling.key = some key ∧ Stage.Stepped s key ⟨p.track key, before⟩ done.2.reading t
        (⟨done.1.track key, before ++ handling.taken key⟩, done.2.outcome.activity)) := by
  cases given with
  | error outcome => exact .inl ⟨nofun, rfl, rfl⟩
  | ok a =>
    by_cases own : a.key = key
    · subst own
      obtain rfl := h.settings
      have stepped := Assignment.perform_stepped mode assigned (g := ⟨p.track a.key, before⟩)
        (h.windows a.key) ht
      have track : (p.carryOut mode r (.ok a)).1.track a.key =
          (a.perform p.settings mode r (p.track a.key)).1 := onTrack_track_self p a.key _
      refine .inr ⟨rfl, ?_⟩
      simp only [Except.toOption, Option.map_some, Handling.taken, if_true, track]
      exact stepped
    · refine .inl ⟨by simpa [Except.toOption] using own, onTrack_track_of_ne (Ne.symm own) p _, ?_⟩
      simp [Handling.taken, Except.toOption, own]

def Chronological (log : List Handling) : Prop :=
  log.Pairwise fun h h' =>
    h.key.isSome → h.key = h'.key → h.result.reading.notAfter h'.result.reading = true

instance (log : List Handling) : Decidable (Chronological log) :=
  inferInstanceAs (Decidable (List.Pairwise _ _))

structure Orderly (s : Settings) (c : Collaborators σ) (world : σ) (xs : List Submission) :
    Prop where
  dated : ∀ x ∈ xs, x.reading.time.isSome
  current : ∀ x ∈ xs, x.reading.isReplayed = false
  chronological : Chronological ((new s).run c world xs).1.2

def stage (s : Settings) (c : Collaborators σ) (world : σ) (xs : List Submission) (key : SensorKey)
    (n : Nat) : Stage :=
  let done := (new s).run c world (xs.take n)
  ⟨done.1.1.track key, accepted key done.1.2⟩

namespace Orderly

variable {c : Collaborators σ} {world : σ} {xs : List Submission} {key : SensorKey} {n : Nat}
  {done : Handling}

theorem stage_succ (h : Orderly s c world xs)
    (logged : ((new s).run c world xs).1.2[n]? = some done) (key : SensorKey) :
    (done.key ≠ some key ∧ stage s c world xs key (n + 1) = stage s c world xs key n) ∨
      (done.key = some key ∧ done.result.reading.isReplayed = false ∧
        ∃ t, done.result.reading.time = some t ∧
          (stage s c world xs key n).Stepped s key done.result.reading t
            (stage s c world xs key (n + 1), done.result.outcome.activity)) := by
  obtain ⟨x, hx⟩ : ∃ x, xs[n]? = some x := ⟨_, List.getElem?_eq_getElem (lt_of_logged logged)⟩
  have submitted := List.mem_of_getElem? hx
  obtain ⟨t, ht⟩ := Option.isSome_iff_exists.1 (h.dated x submitted)
  have next := run_take_succ c (new s) world hx
  have same := run_getElem? c (new s) world hx
  obtain rfl := Option.some.inj (same.symm.trans logged)
  have sound := (sound_new s).after_run c world fun y hy => h.dated y (List.take_subset n xs hy)
  simp only [stage, next, accepted, List.flatMap_append, List.flatMap_singleton, handling,
    process_fst]
  generalize (new s).run c world (xs.take n) = done at sound ⊢
  obtain ⟨level, reading⟩ :=
    (carryOut_gives (c.assign_assigned x.reading done.2) done.1.1 x.mode).reading
  rcases sound.carryOut_stepped x.mode (c.assign_assigned x.reading done.2) ht key
    (accepted key done.1.2) with ⟨foreign, track, taken⟩ | ⟨own, stepped⟩
  · exact .inl ⟨foreign, by rw [track, taken, List.append_nil]⟩
  · refine .inr ⟨own, ?_, t, ?_, stepped⟩
    · rw [reading]
      exact h.current x submitted
    · rw [reading]
      exact ht

theorem notAfter_of_given (h : Orderly s c world xs)
    (logged : ((new s).run c world xs).1.2[n]? = some done) (own : done.key = some key)
    {o : Reading} (ho : o ∈ (stage s c world xs key n).given) :
    o.notAfter done.result.reading = true := by
  rw [stage, log_take] at ho
  obtain ⟨earlier, among, taken⟩ := List.mem_flatMap.1 ho
  obtain ⟨same, -, rfl⟩ := earlier.of_mem_taken taken
  obtain ⟨i, inside, found⟩ := List.mem_iff_getElem.1 among
  obtain ⟨before, last⟩ := List.getElem?_eq_some_iff.1 logged
  rw [List.length_take] at inside
  have ordered := List.pairwise_iff_getElem.1 h.chronological i n (by omega) before (by omega)
  rw [List.getElem_take] at found
  rw [found, last] at ordered
  exact ordered (by rw [same]; rfl) (same.trans own.symm)

theorem stage_sound (h : Orderly s c world xs) (key : SensorKey) (within : n ≤ xs.length) :
    (stage s c world xs key n).Sound s := by
  induction n with
  | zero => exact Stage.sound_empty s
  | succ n ih =>
    have before := ih (Nat.le_of_succ_le within)
    obtain ⟨done, logged⟩ := exists_logged c (new s) world within
    rcases h.stage_succ logged key with ⟨-, same⟩ | ⟨own, -, t, ht, stepped⟩
    · rw [same]
      exact before
    · exact stepped.sound before ht fun o ho => h.notAfter_of_given logged own ho

theorem stage_grows (h : Orderly s c world xs) (key : SensorKey) {m : Nat} (le : m ≤ n)
    (within : n ≤ xs.length) :
    (stage s c world xs key m).given <+: (stage s c world xs key n).given ∧
      (stage s c world xs key n).track.window.size + (stage s c world xs key m).given.length ≤
        (stage s c world xs key m).track.window.size + (stage s c world xs key n).given.length := by
  induction n, le using Nat.le_induction with
  | base => exact ⟨List.prefix_refl _, Nat.le_refl _⟩
  | succ n le ih =>
    obtain ⟨extends_m, grown⟩ := ih (Nat.le_of_succ_le within)
    obtain ⟨done, logged⟩ := exists_logged c (new s) world within
    rcases h.stage_succ logged key with ⟨-, same⟩ | ⟨own, -, t, ht, stepped⟩
    · rw [same]
      exact ⟨extends_m, grown⟩
    · have before := h.stage_sound key (Nat.le_of_succ_le within)
      obtain ⟨extends_n, step⟩ := stepped.grows before
      exact ⟨extends_m.trans extends_n, by omega⟩

theorem stage_moved (h : Orderly s c world xs)
    (logged : ((new s).run c world xs).1.2[n]? = some done) (key : SensorKey) :
    (stage s c world xs key n).Moved s key (stage s c world xs key (n + 1))
      (if done.key = some key then done.result.outcome.activity else none) := by
  have sound := h.stage_sound key (lt_of_logged logged)
  rcases h.stage_succ logged key with ⟨foreign, same⟩ | ⟨own, live, t, ht, step⟩
  · rw [if_neg foreign]
    exact .same (by rw [same])
  · rw [if_pos own]
    exact step.moved sound ht live

/-- An armed sensor was idle once and then armed at its opening, the middle of a sample. -/
theorem armed_since (h : Orderly s c world xs) (within : n ≤ xs.length) {o : Opening}
    {closing : Option Closing}
    (armed : (stage s c world xs key n).track.armed = some ⟨o, closing⟩) :
    o.Fits ∧ ∃ m < n, (stage s c world xs key m).track.armed = none ∧
      (stage s c world xs key (m + 1)).track.armed = some ⟨o, none⟩ ∧
      (stage s c world xs key (m + 1)).MiddleIs s o.reading := by
  induction n generalizing closing with
  | zero => cases armed
  | succ n ih =>
    obtain ⟨done, logged⟩ := exists_logged c (new s) world within
    have still {closing : Option Closing}
        (armed : (stage s c world xs key n).track.armed = some ⟨o, closing⟩) :
        o.Fits ∧ ∃ m < n + 1, (stage s c world xs key m).track.armed = none ∧
          (stage s c world xs key (m + 1)).track.armed = some ⟨o, none⟩ ∧
          (stage s c world xs key (m + 1)).MiddleIs s o.reading := by
      obtain ⟨fits, m, before, opened⟩ := ih (Nat.le_of_succ_le within) armed
      exact ⟨fits, m, Nat.lt_succ_of_lt before, opened⟩
    have moved := h.stage_moved logged key
    generalize (if done.key = some key then done.result.outcome.activity else none) = activity
      at moved
    -- what is open now was open before, unless the last step opened it
    cases moved with
    | same unchanged => exact still (unchanged.symm.trans armed)
    | opened idle opened fits middle =>
      obtain ⟨rfl, rfl⟩ : _ = o ∧ _ = closing := by simpa using opened.symm.trans armed
      exact ⟨fits, n, Nat.lt_succ_self n, idle, opened, middle⟩
    | held before after =>
      obtain ⟨rfl, rfl⟩ : _ = o ∧ _ = closing := by simpa using after.symm.trans armed
      exact still before
    | reported _ idle _ _ _ => cases idle.symm.trans armed

end Orderly

end Processor

end FuelTelemetry

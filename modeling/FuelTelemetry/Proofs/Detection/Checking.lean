import FuelTelemetry.Proofs.Detection.Levelled

/-!
One sample before the detector. What a levelled sample can do to the entry of a sensor depends on
two readings of it, the middle and the first, and on how far the means of its halves lie apart. An
idle sensor stays idle or is armed at the middle of a wide sample. An armed one keeps its opening or
is reported, which ends at the middle of the sample and leaves the sensor idle.
-/

namespace FuelTelemetry

open Time (Stamp)

namespace Number

open Float.Model

theorem compare_sign_swap (s t : UnpackedFloat.Sign) : (compare s t).swap = compare t s := by
  cases s <;> cases t <;> rfl

theorem compare_magnitude_swap (e f : Int) (m n : Nat) :
    ((compare e f).then (compare m n)).swap = (compare f e).then (compare n m) := by
  rw [Ordering.swap_then, Int.compare_swap, Nat.compare_swap]

theorem compare_unpacked_swap (x y : UnpackedFloat) :
    y.compare x = (x.compare y).map Ordering.swap := by
  rcases x with s | _ | s | ⟨s, m, e, hm⟩ <;> rcases y with t | _ | t | ⟨t, n, f, hn⟩
  case infinity.infinity => exact congrArg some (compare_sign_swap s t).symm
  case finite.finite =>
    have magnitude := (compare_magnitude_swap e f m n).symm
    cases s <;> cases t
    case negative.negative => exact congrArg (fun order => some order.swap) magnitude
    case positive.positive => exact congrArg some magnitude
    all_goals rfl
  -- of two different kinds one is the larger by its sign alone
  all_goals (try cases s) <;> (try cases t) <;> rfl

theorem compare_of_lt {x y : Float} (h : x < y) :
    x.toModel.unpack.compare y.toModel.unpack = some .lt := by
  simpa [LT.lt, Float.lt, Float.Model.lt, UnpackedFloat.lt] using h

theorem lt_asymm {x y : Float} (h : x < y) : ¬ y < x := by
  intro again
  have more := compare_of_lt again
  rw [compare_unpacked_swap, compare_of_lt h] at more
  cases more

theorem compare_unpacked_self {x y : UnpackedFloat} {order : Ordering}
    (h : x.compare y = some order) : x.compare x = some .eq := by
  rcases x with s | _ | s | ⟨s, m, e, hm⟩
  · cases s <;> rfl
  · cases h
  · rfl
  · have magnitude : (compare e e).then (compare m m) = .eq := by simp
    cases s
    · exact congrArg (fun order => some order.swap) magnitude
    · exact congrArg some magnitude

theorem beq_self_of_compare {x y : Float} {order : Ordering}
    (h : x.toModel.unpack.compare y.toModel.unpack = some order) : (x == x) = true := by
  change (x.toModel.unpack.compare x.toModel.unpack == some .eq) = true
  rw [compare_unpacked_self h]
  rfl

theorem beq_self_of_lt {x y : Float} (h : x < y) : (x == x) = true ∧ (y == y) = true := by
  have more := compare_unpacked_swap x.toModel.unpack y.toModel.unpack
  rw [compare_of_lt h] at more
  exact ⟨beq_self_of_compare (compare_of_lt h), beq_self_of_compare more⟩

end Number

def middleOf (sample : List Reading) : Option Reading := sample[midpointOf sample.length]?

def gapOf (sample : List Reading) : Option Float :=
  (halfMeans (levelsOf sample)).toOption.map fun means => (means.left - means.right).abs

/-- Where a change begins that a sample makes plain: at the middle of a sample that is large enough
and whose gap is wider than the threshold, with the first level as its edge. -/
def openingOf (sample : List Reading) (change : Float) : Option Opening :=
  if sample.length < leastSample then none
  else do
    let gap ← gapOf sample
    let middle ← middleOf sample
    let level ← middle.level
    let edge ← sample.head?.bind (·.level)
    if gap > change then some ⟨level, middle.time, middle, edge⟩ else none

structure Opening.Fits (o : Opening) : Prop where
  level : o.reading.level = some o.level
  time : o.time = o.reading.time

theorem openingOf_middle {sample : List Reading} {change : Float} {o : Opening}
    (h : openingOf sample change = some o) : middleOf sample = some o.reading ∧ o.Fits := by
  unfold openingOf at h
  split at h
  · cases h
  · obtain ⟨gap, -, h⟩ := Option.bind_eq_some_iff.1 h
    obtain ⟨middle, found, h⟩ := Option.bind_eq_some_iff.1 h
    obtain ⟨level, levelled, h⟩ := Option.bind_eq_some_iff.1 h
    obtain ⟨edge, -, h⟩ := Option.bind_eq_some_iff.1 h
    split at h
    · cases h
      exact ⟨found, levelled, rfl⟩
    · cases h

theorem Profile.Shows.openingOf_eq {p : Profile} {sample : List Reading} (h : p.Shows sample)
    (large : ¬ sample.length < leastSample) (change : Float) :
    openingOf sample change = if p.gap > change then some p.opening else none := by
  simp only [openingOf, gapOf, middleOf, h.means, h.midpoint, h.midLevel, h.first, large, if_false,
    Except.toOption, Option.map_some, Option.bind_eq_bind, Option.bind_some]
  rfl

structure Activity.Spans (a : Activity) (first last : Reading) : Prop where
  start : a.start = some first
  stop : a.stop = some last
  startTime : a.startTime = first.time.map Stamp.ofInstant
  endTime : a.endTime = last.time.map Stamp.ofInstant
  volume : ∃ before after, first.level = some before ∧ last.level = some after ∧
    a.volume = after - before
  falls : a.kind = .drain → a.volume < 0.0
  rises : a.kind = .fill → a.volume > 0.0

structure Activity.Ended (a : Activity) : Prop where
  start : a.start.isSome
  stop : a.stop.isSome

theorem confirmedKind_drain {volume edgeChange required : Float}
    (h : confirmedKind volume edgeChange required = .drain) : volume < 0.0 := by
  unfold confirmedKind at h
  split at h
  · rename_i falls
    simp only [Bool.and_eq_true, decide_eq_true_eq] at falls
    exact falls.1
  · split at h <;> cases h

theorem confirmedKind_fill {volume edgeChange required : Float}
    (h : confirmedKind volume edgeChange required = .fill) : volume > 0.0 := by
  unfold confirmedKind at h
  split at h
  · cases h
  · split at h
    · rename_i rises
      simp only [Bool.and_eq_true, decide_eq_true_eq] at rises
      exact rises.1
    · cases h

theorem Activity.spans_between {o : Opening} {c : Closing} (fits : o.Fits)
    (level : c.reading.level = some c.level) (time : c.time = c.reading.time)
    (edgeChange required : Float) :
    (Activity.between (confirmedKind (c.level - o.level) edgeChange required)
      (c.level - o.level) o c).Spans o.reading c.reading where
  start := rfl
  stop := rfl
  startTime := congrArg (Option.map Stamp.ofInstant) fits.time
  endTime := congrArg (Option.map Stamp.ofInstant) time
  volume := ⟨_, _, fits.level, level, rfl⟩
  falls := confirmedKind_drain
  rises := confirmedKind_fill

namespace Armed

theorem close_ended {armed : Armed} {p : Profile} {edge : Float} {a : Activity}
    (h : (armed.close p edge).2 = .ok a) (detected : a.detected = true) : a.Ended := by
  unfold close at h
  dsimp only at h
  split at h
  · cases h
  · split at h
    · cases h
      cases detected
    · cases h
      exact ⟨rfl, rfl⟩

theorem check_ended {armed : Option Armed} {sample : List Reading} {t : Thresholds} {a : Activity}
    (h : (check armed sample t).2 = .ok a) (detected : a.detected = true) : a.Ended := by
  unfold check advance at h
  split at h
  · cases h
    cases detected
  · split at h
    · split at h
      · split at h
        · exact close_ended h detected
        · cases h
          cases detected
      · cases h
        cases detected
    · cases h

/-- What a levelled sample may do to the entry of a sensor, and what it may report. -/
inductive Checked (sample : List Reading) (change : Float) :
    Option Armed → Option Armed × Except Fault Activity → Prop
  | idle (calm : openingOf sample change = none) : Checked sample change none (none, .ok .nothing)
  | opened {o : Opening} (wide : openingOf sample change = some o) :
    Checked sample change none (some ⟨o, none⟩, .ok .nothing)
  | held (o : Opening) (before after : Option Closing) :
    Checked sample change (some ⟨o, before⟩) (some ⟨o, after⟩, .ok .nothing)
  | reported {o : Opening} {last : Reading} {a : Activity} (before : Option Closing)
    (middle : middleOf sample = some last) (detected : a.detected = true)
    (spans : o.Fits → a.Spans o.reading last) :
    Checked sample change (some ⟨o, before⟩) (none, .ok a)

variable {sample : List Reading} {p : Profile}

theorem close_checked (shows : p.Shows sample) (a : Armed) (change edge : Float) :
    Checked sample change (some a) (a.close p edge) := by
  obtain ⟨last, present⟩ := Option.isSome_iff_exists.1 shows.last
  have spans := fun fits : a.opening.Fits => Activity.spans_between (c := p.closing) fits
    shows.midLevel rfl (last - a.opening.edge) ((p.midLevel - a.opening.level) * edge)
  simp only [close, Profile.closing, present] at spans ⊢
  cases kind : confirmedKind (p.midLevel - a.opening.level) (last - a.opening.edge)
      ((p.midLevel - a.opening.level) * edge) with
  | none => exact .held a.opening _ _
  | fill =>
    rw [kind] at spans
    exact .reported a.closing shows.midpoint rfl spans
  | drain =>
    rw [kind] at spans
    exact .reported a.closing shows.midpoint rfl spans

theorem advance_checked (shows : p.Shows sample) (large : ¬ sample.length < leastSample)
    (armed : Option Armed) (t : Thresholds) :
    Checked sample t.change armed (advance armed p t) := by
  have opening := shows.openingOf_eq large t.change
  cases armed with
  | some a =>
    simp only [advance, arm]
    split
    · exact close_checked shows a t.change t.edge
    · exact .held a.opening _ _
  | none =>
    simp only [advance, arm]
    by_cases wide : p.gap > t.change
    · -- a gap that is wider than the threshold is not narrower as well
      rw [if_pos wide] at opening ⊢
      simp only [Number.lt_asymm wide, if_false]
      exact .opened opening
    · rw [if_neg wide] at opening ⊢
      exact .idle opening

theorem check_checked (levelled : Levelled sample) (armed : Option Armed) (t : Thresholds) :
    Checked sample t.change armed (check armed sample t) := by
  unfold check
  by_cases small : sample.length < leastSample
  · rw [if_pos small]
    cases armed with
    | none => exact .idle (if_pos small)
    | some a => exact .held a.opening _ _
  · rw [if_neg small]
    have nonempty : sample ≠ [] := by
      rintro rfl
      exact small (by decide)
    obtain ⟨p, found, shows⟩ := Profile.ofSample_shows levelled nonempty
    rw [found]
    exact advance_checked shows small armed t

theorem check_ok (armed : Option Armed) (levelled : Levelled sample) (t : Thresholds) :
    ∃ activity, (check armed sample t).2 = .ok activity := by
  have checked := check_checked levelled armed t
  generalize check armed sample t = after at checked ⊢
  cases checked with
  | reported _ _ _ _ => exact ⟨_, rfl⟩
  | _ => exact ⟨_, rfl⟩

end Armed

end FuelTelemetry

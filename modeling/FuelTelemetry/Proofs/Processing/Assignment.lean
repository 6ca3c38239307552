import FuelTelemetry.Proofs.Processing.Entering
import FuelTelemetry.Processing.Processor

/-!
Assignments. What is to be done with a reading follows from the reading and the lookups for it, not
from the mode or the state of the processor. Processing carries out the assignment on the track of
one sensor and then announces the activity that it confirmed. A journal beside the surroundings
lists all activities that were handed to the sink, whether it took them or not.
-/

namespace FuelTelemetry

variable {σ : Type}

inductive Work where
  | keep
  | enter (curve : Curve) (raw : RawValue)

structure Assignment where
  key : SensorKey
  work : Work

def Assignment.perform (a : Assignment) (s : Settings) (mode : Mode) (r : Reading) (t : Track) :
    Track × Result :=
  match a.work with
  | .keep => t.keep s r
  | .enter curve raw => t.enter s a.key mode curve raw r

def Collaborators.assign (c : Collaborators σ) (r : Reading) (world : σ) :
    Except Outcome Assignment × σ :=
  match c.linkedSensors r.device world with
  | (.error fault, world) => (.error (.failed fault), world)
  | (.ok linked, world) =>
    match r.route linked with
    | .error reason => (.error (.skipped reason), world)
    | .ok route =>
      let key : SensorKey := ⟨r.device, route.sensor⟩
      if r.hasLevel then (.ok ⟨key, .keep⟩, world)
      else match c.calibration key world with
        | (.error fault, world) => (.error (.failed fault), world)
        | (.ok none, world) => (.error (.skipped .noCalibration), world)
        | (.ok (some curve), world) => (.ok ⟨key, .enter curve route.raw⟩, world)

namespace Processor

def carryOut (p : Processor) (mode : Mode) (r : Reading) :
    Except Outcome Assignment → Processor × Result
  | .error outcome => (p, ⟨r, outcome⟩)
  | .ok a => p.onTrack a.key (a.perform p.settings mode r)

theorem settle_eq (c : Collaborators σ) (p : Processor) (mode : Mode) (r : Reading) (world : σ) :
    p.settle c mode r world = (p.carryOut mode r (c.assign r world).1, (c.assign r world).2) := by
  unfold settle calibrated Collaborators.assign
  rcases c.linkedSensors r.device world with ⟨fault | linked, world⟩
  · rfl
  · cases route : r.route linked with
    | error reason => simp only [route, carryOut]
    | ok route' =>
      simp only [route]
      split
      · rfl
      · rcases c.calibration ⟨r.device, route'.sensor⟩ world with ⟨fault | _ | curve, world⟩ <;> rfl

theorem process_fst (c : Collaborators σ) (p : Processor) (mode : Mode) (r : Reading) (world : σ) :
    (p.process c mode r world).1 = p.carryOut mode r (c.assign r world).1 := by
  unfold process
  rw [settle_eq]
  simp only
  split <;> rfl

theorem process_snd (c : Collaborators σ) (p : Processor) (mode : Mode) (r : Reading) (world : σ) :
    (p.process c mode r world).2 =
      match (p.process c mode r world).1.2.outcome.activity with
      | some activity => c.announce activity (c.assign r world).2
      | none => (c.assign r world).2 := by
  rw [process_fst]
  unfold process
  rw [settle_eq]
  simp only
  split <;> simp_all

end Processor

def Assignment.ofAnswers (r : Reading) (linked : Except Fault (Option (List LinkedSensor)))
    (calibration : SensorKey → Except Fault (Option Curve)) : Except Outcome Assignment :=
  match linked with
  | .error fault => .error (.failed fault)
  | .ok linked =>
    match r.route linked with
    | .error reason => .error (.skipped reason)
    | .ok route =>
      let key : SensorKey := ⟨r.device, route.sensor⟩
      if r.hasLevel then .ok ⟨key, .keep⟩
      else match calibration key with
        | .error fault => .error (.failed fault)
        | .ok none => .error (.skipped .noCalibration)
        | .ok (some curve) => .ok ⟨key, .enter curve route.raw⟩

theorem Collaborators.assign_fst (c : Collaborators σ) (r : Reading) (world : σ) :
    (c.assign r world).1 = Assignment.ofAnswers r (c.linkedSensors r.device world).1 fun key =>
      (c.calibration key (c.linkedSensors r.device world).2).1 := by
  unfold assign Assignment.ofAnswers
  rcases c.linkedSensors r.device world with ⟨fault | linked, world⟩
  · rfl
  · cases route : r.route linked with
    | error reason => simp only [route]
    | ok route' =>
      simp only [route]
      split
      · rfl
      · rcases c.calibration ⟨r.device, route'.sensor⟩ world with ⟨fault | _ | curve, world⟩ <;> rfl

/-- What an assignment may be: readings are kept if they have their level and entered if they have
none, both under a key of their own device. -/
inductive Assigned (r : Reading) : Except Outcome Assignment → Prop
  | skipped (reason : SkipReason) : Assigned r (.error (.skipped reason))
  | failed (fault : Fault) : Assigned r (.error (.failed fault))
  | keep {key : SensorKey} (own : key.device = r.device) (has : r.level.isSome) :
    Assigned r (.ok ⟨key, .keep⟩)
  | enter {key : SensorKey} (curve : Curve) (raw : RawValue) (own : key.device = r.device)
    (lacks : r.level = none) : Assigned r (.ok ⟨key, .enter curve raw⟩)

namespace Assignment

variable {r : Reading} {linked : Except Fault (Option (List LinkedSensor))}
  {calibration : SensorKey → Except Fault (Option Curve)}

theorem ofAnswers_assigned (r : Reading) (linked : Except Fault (Option (List LinkedSensor)))
    (calibration : SensorKey → Except Fault (Option Curve)) :
    Assigned r (ofAnswers r linked calibration) := by
  cases linked with
  | error fault => exact .failed fault
  | ok linked =>
    cases route : r.route linked with
    | error reason =>
      simp only [ofAnswers, route]
      exact .skipped reason
    | ok route' =>
      simp only [ofAnswers, route]
      split
      · rename_i has
        exact .keep rfl has
      · rename_i lacks
        have unlevelled : r.level = none := by simpa [Reading.hasLevel] using lacks
        rcases calibration ⟨r.device, route'.sensor⟩ with fault | _ | curve
        · exact .failed fault
        · exact .skipped .noCalibration
        · exact .enter curve route'.raw rfl unlevelled

theorem ofAnswers_withLevel {key : SensorKey} {curve : Curve} {raw : RawValue}
    (entered : ofAnswers r linked calibration = .ok ⟨key, .enter curve raw⟩) (level : Float) :
    ofAnswers (r.withLevel level) linked calibration = .ok ⟨key, .keep⟩ := by
  cases linked with
  | error fault => cases entered
  | ok linked =>
    have same : (r.withLevel level).route linked = r.route linked := rfl
    simp only [ofAnswers, same] at entered ⊢
    cases route : r.route linked with
    | error reason =>
      rw [route] at entered
      cases entered
    | ok route' =>
      simp only [route] at entered ⊢
      split at entered
      · cases entered
      · rcases answer : calibration ⟨r.device, route'.sensor⟩ with fault | _ | found <;>
          rw [answer] at entered
        · cases entered
        · cases entered
        · cases entered
          rfl

theorem route_ok {linked : Option (List LinkedSensor)} {route : Route}
    (h : r.route linked = .ok route) :
    ∃ sensors, linked = some sensors ∧ LinkedSensor.identify sensors r = some route.sensor ∧
      r.rawValue = .ok route.raw := by
  rcases linked with _ | _ | ⟨sensor, sensors⟩
  · cases h
  · cases h
  · simp only [Reading.route] at h
    cases identified : LinkedSensor.identify (sensor :: sensors) r with
    | none => simp [identified] at h
    | some id =>
      cases value : r.rawValue with
      | error reason => simp [identified, value, bind, Except.bind] at h
      | ok raw =>
        simp only [identified, value, bind, Except.bind, pure, Except.pure, Except.ok.injEq] at h
        subst h
        exact ⟨_, rfl, identified, rfl⟩

/-- An assignment goes to the sensor identified among the linked ones, of a reading with a raw
value; what is entered there has the curve of this sensor. -/
inductive Grounded (r : Reading) (linked : Except Fault (Option (List LinkedSensor)))
    (calibration : SensorKey → Except Fault (Option Curve)) : Assignment → Prop
  | keep {sensors : List LinkedSensor} {sensor : Int} {raw : RawValue}
    (looked : linked = .ok (some sensors))
    (identified : LinkedSensor.identify sensors r = some sensor)
    (value : r.rawValue = .ok raw) : Grounded r linked calibration ⟨⟨r.device, sensor⟩, .keep⟩
  | enter {sensors : List LinkedSensor} {sensor : Int} {curve : Curve} {raw : RawValue}
    (looked : linked = .ok (some sensors))
    (identified : LinkedSensor.identify sensors r = some sensor)
    (value : r.rawValue = .ok raw) (curved : calibration ⟨r.device, sensor⟩ = .ok (some curve)) :
    Grounded r linked calibration ⟨⟨r.device, sensor⟩, .enter curve raw⟩

theorem grounded_of_ofAnswers {a : Assignment} (h : ofAnswers r linked calibration = .ok a) :
    Grounded r linked calibration a := by
  cases linked with
  | error fault => cases h
  | ok answer =>
    cases route : r.route answer with
    | error reason =>
      simp only [ofAnswers, route] at h
      cases h
    | ok route' =>
      obtain ⟨sensors, rfl, identified, value⟩ := route_ok route
      simp only [ofAnswers, route] at h
      split at h
      · cases h
        exact .keep rfl identified value
      · cases curved : calibration ⟨r.device, route'.sensor⟩ with
        | error fault => simp [curved] at h
        | ok found =>
          cases found with
          | none => simp [curved] at h
          | some curve =>
            simp only [curved, Except.ok.injEq] at h
            subst h
            exact .enter rfl identified value curved

end Assignment

theorem Collaborators.assign_assigned (c : Collaborators σ) (r : Reading) (world : σ) :
    Assigned r (c.assign r world).1 := by
  rw [assign_fst]
  exact Assignment.ofAnswers_assigned r _ _

theorem Assignment.perform_located {s : Settings} {mode : Mode} {r : Reading} {t : Track}
    {given : Assignment} {a : Activity}
    (h : (given.perform s mode r t).2.outcome.activity = some a) :
    ∃ b : Activity, b.Ended ∧ a = b.located given.key := by
  rcases given with ⟨key, _ | ⟨curve, raw⟩⟩
  · unfold perform Track.keep at h
    simp only at h
    split at h <;> cases h
  · change (t.enter s key mode curve raw r).2.outcome.activity = some a at h
    cases outcome : (t.enter s key mode curve raw r).2.outcome with
    | processed activity =>
      obtain ⟨_, _, _, _, _, confirmed⟩ := Track.enter_processed outcome
      rw [outcome] at h
      obtain rfl : activity = some a := h
      exact confirmed.located
    | _ =>
      rw [outcome] at h
      cases h

theorem Processor.carryOut_located {p : Processor} {mode : Mode} {r : Reading}
    {given : Except Outcome Assignment} {a : Activity} (assigned : Assigned r given)
    (h : (p.carryOut mode r given).2.outcome.activity = some a) :
    ∃ own, given = .ok own ∧ ∃ b : Activity, b.Ended ∧ a = b.located own.key := by
  cases given with
  | error outcome => cases assigned <;> cases h
  | ok own =>
    obtain ⟨b, located⟩ := Assignment.perform_located h
    exact ⟨own, rfl, b, located⟩

namespace Collaborators

/-- The assignment looks at the device, the route and the presence of a level alone. -/
theorem assign_congr (c : Collaborators σ) {r other : Reading} (device : other.device = r.device)
    (route : ∀ linked, other.route linked = r.route linked) (level : other.hasLevel = r.hasLevel)
    (world : σ) : c.assign other world = c.assign r world := by
  unfold assign
  simp only [device, route, level]

theorem assign_of_answers (c : Collaborators σ) {r : Reading} {world other : σ}
    (registry : (c.linkedSensors r.device world).1 = (c.linkedSensors r.device other).1)
    (calibration : ∀ key, (c.calibration key (c.linkedSensors r.device world).2).1 =
      (c.calibration key (c.linkedSensors r.device other).2).1) :
    (c.assign r world).1 = (c.assign r other).1 := by
  rw [assign_fst, assign_fst, registry, funext calibration]

theorem assign_withLevel {c : Collaborators σ} {r : Reading} {world : σ} {key : SensorKey}
    {curve : Curve} {raw : RawValue}
    (entered : (c.assign r world).1 = .ok ⟨key, .enter curve raw⟩) (level : Float) :
    (c.assign (r.withLevel level) world).1 = .ok ⟨key, .keep⟩ := by
  rw [assign_fst] at entered ⊢
  exact Assignment.ofAnswers_withLevel entered level

end Collaborators

def Call.beside {α τ : Type} (call : Call σ α) : Call (σ × τ) α :=
  fun world => ((call world.1).1, (call world.1).2, world.2)

namespace Collaborators

def journaled (c : Collaborators σ) : Collaborators (σ × List Activity) where
  linkedSensors device := (c.linkedSensors device).beside
  deviceIds := c.deviceIds.beside
  calibration key := (c.calibration key).beside
  history device start stop := (c.history device start stop).beside
  log record := (c.log record).beside
  publish a := fun world =>
    ((c.publish a world.1).1, (c.publish a world.1).2, world.2 ++ [a])

theorem assign_journaled (c : Collaborators σ) (r : Reading) (world : σ) (sent : List Activity) :
    c.journaled.assign r (world, sent) =
      ((c.assign r world).1, (c.assign r world).2, sent) := by
  unfold assign
  simp only [journaled, Call.beside]
  rcases c.linkedSensors r.device world with ⟨fault | linked, world⟩
  · rfl
  · cases route : r.route linked with
    | error reason => simp only [route]
    | ok route' =>
      simp only [route]
      split
      · rfl
      · rcases c.calibration ⟨r.device, route'.sensor⟩ world with ⟨fault | _ | curve, world⟩ <;> rfl

theorem announce_journaled (c : Collaborators σ) (a : Activity) (world : σ)
    (sent : List Activity) :
    c.journaled.announce a (world, sent) = (c.announce a world, sent ++ [a]) := by
  unfold announce tell
  split <;> rfl

end Collaborators

theorem Processor.process_journaled (c : Collaborators σ) (p : Processor) (mode : Mode)
    (r : Reading) (world : σ) (sent : List Activity) :
    p.process c.journaled mode r (world, sent) =
      ((p.process c mode r world).1, (p.process c mode r world).2,
        sent ++ (p.process c mode r world).1.2.outcome.activity.toList) := by
  have same : (p.process c.journaled mode r (world, sent)).1 = (p.process c mode r world).1 := by
    rw [process_fst, process_fst, Collaborators.assign_journaled]
  refine Prod.ext same ?_
  rw [process_snd, same, process_snd c, Collaborators.assign_journaled]
  cases (p.process c mode r world).1.2.outcome.activity with
  | none => simp
  | some activity => simp [Collaborators.announce_journaled]

end FuelTelemetry

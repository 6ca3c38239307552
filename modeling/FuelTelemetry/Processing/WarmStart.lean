import FuelTelemetry.Processing.Processor

/-!
Warm start: refilling the windows from stored history before live traffic. A device is warming from
the first lookup until its replay has ended in any way. Its readings are replayed in time order,
equal times in the order of the history, and each replay is one tracked operation. A device that
fails does not stop the others.
-/

namespace FuelTelemetry

open Time (Stamp)

abbrev Counts := Table Status Nat

namespace Counts

def zero : Counts := Status.all.map fun status => (status, 0)

def ofResults (results : List Result) : Counts :=
  Status.all.map fun status => (status, (results.filter (·.outcome.status = status)).length)

def toJson (counts : Counts) : Json :=
  .object (counts.map fun (status, n) => (status.word, .int n))

end Counts

/-- What a loader does when its own values are left open or 0: it takes those of the settings. -/
structure Loader where
  hours : Int
  workers : Int

def Loader.new (s : Settings) (hours workers : Option Int) : Loader :=
  let chosen (value : Option Int) (default : Int) : Int := (value.filter (· ≠ 0)).getD default
  ⟨chosen hours s.hours, chosen workers s.workers⟩

namespace WarmStart

def hoursBefore (hours : Int) (s : Stamp) : Except Fault Stamp := do
  let span ← spanOf (hours * 3600)
  match s.wall.shift? (-span) with
  | some wall => return { s with wall }
  | none => throw .shiftedOutOfCalendar

/-- Readings in time order, equal times in the given order. Two readings or more have to have
times. -/
def inTimeOrder (rs : List Reading) : Except Fault (List Reading) :=
  if rs.length ≤ 1 then .ok rs
  else if rs.any (·.time.isNone) then .error .undated
  else .ok (rs.mergeSort fun a b => (a.time.map (·.micros)).getD 0 ≤ (b.time.map (·.micros)).getD 0)

variable {σ : Type}

structure Replay where
  steps : List EventStep
  ending : Except Fault Counts

def replay (c : Collaborators σ) (p : Processor) (device : Int) (start stop : Stamp) (world : σ) :
    (Processor × Replay) × σ :=
  let loaded := EventStep.timed "load_history" 0.0
  let replayed := EventStep.timed "replay" 0.0
  match c.history device start stop world with
  | (.error fault, world) =>
    ((p, ⟨[loaded, .business "warm_start_failed" (.bool true)],
      .error (.historyLost device fault.text)⟩), world)
  | (.ok readings, world) =>
    match inTimeOrder readings with
    | .error fault => ((p, ⟨[loaded, replayed], .error fault⟩), world)
    | .ok ordered =>
      let ((p, results), world) := p.processAll c .backfill world ordered
      let counts := Counts.ofResults results
      ((p, ⟨[loaded, replayed, .business "readings_replayed" (.int readings.length),
        .business "status_counts" counts.toJson], .ok counts⟩), world)

def trackedReplay (c : Collaborators σ) (p : Processor) (device : Int) (start stop : Stamp)
    (world : σ) : (Processor × Except Fault Counts) × σ :=
  let ((p, done), world) := replay c p device start stop world
  let tracked := track LogCall.record? "fuel_warm_start"
    [("device_id", .int device), ("window_start", .text start.text),
     ("window_end", .text stop.text)] done.steps done.ending .atOnce
  match tracked.logged with
  | none => ((p, tracked.outcome), world)
  | some record =>
    match c.log record world with
    | (.ok (), world) => ((p, tracked.outcome), world)
    | (.error fault, world) => ((p, .error fault), world)

def loadGated (c : Collaborators σ) (loader : Loader) (p : Processor) (device : Int) (now : Stamp)
    (world : σ) : (Processor × Except Fault Counts) × σ :=
  match c.linkedSensors device world with
  | (.error fault, world) => ((p, .error fault), world)
  | (.ok none, world) | (.ok (some []), world) => ((p, .ok []), world)
  | (.ok (some _), world) =>
    match hoursBefore loader.hours now with
    | .error fault => ((p, .error fault), world)
    | .ok start => trackedReplay c p device start now world

def loadDevice (c : Collaborators σ) (loader : Loader) (p : Processor) (device : Int)
    (now : Stamp) (world : σ) : (Processor × Except Fault Counts) × σ :=
  let ((p, result), world) := loadGated c loader (p.beginWarming device) device now world
  ((p.finishWarming device, result), world)

def beginAll (p : Processor) (devices : List Int) : Processor :=
  devices.foldl Processor.beginWarming p

def finishAll (p : Processor) (devices : List Int) : Processor :=
  devices.foldl Processor.finishWarming p

/-- Loads devices one after the other; `none` for those that fail. -/
def loadEach (c : Collaborators σ) (loader : Loader) (now : Stamp) (p : Processor) (world : σ) :
    List Int → (Processor × List (Int × Option Counts)) × σ
  | [] => ((p, []), world)
  | device :: rest =>
    let ((p, result), world) := loadDevice c loader p device now world
    let ((p, results), world) := loadEach c loader now p world rest
    ((p, (device, result.toOption) :: results), world)

def loadListed (c : Collaborators σ) (loader : Loader) (p : Processor) (devices : List Int)
    (now : Stamp) (world : σ) : (Processor × Except Fault (Table Int (Option Counts))) × σ :=
  let p := beginAll p devices
  if loader.workers ≤ 0 then ((finishAll p devices, .error .workerCount), world)
  else
    let ((p, results), world) := loadEach c loader now p world devices
    ((finishAll p devices, .ok (Table.merge [] results)), world)

def loadAll (c : Collaborators σ) (loader : Loader) (p : Processor) (devices : Option (List Int))
    (now : Stamp) (world : σ) : (Processor × Except Fault (Table Int (Option Counts))) × σ :=
  match devices with
  | some devices => loadListed c loader p devices now world
  | none =>
    match c.deviceIds world with
    | (.error fault, world) => ((p, .error fault), world)
    | (.ok devices, world) => loadListed c loader p devices now world

/-- Loads all devices of the registry in the background: what becomes of it is not told. -/
def schedule (c : Collaborators σ) (loader : Loader) (p : Processor) (now : Stamp) (world : σ) :
    (Processor × Except Fault Unit) × σ :=
  match c.deviceIds world with
  | (.error fault, world) => ((p, .error fault), world)
  | (.ok devices, world) =>
    let ((p, _), world) := loadListed c loader p devices now world
    ((p, .ok ()), world)

end WarmStart

end FuelTelemetry

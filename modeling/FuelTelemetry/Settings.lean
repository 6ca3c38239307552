import FuelTelemetry.Detection.Detector

/-!
Settings of the processor. Accepted settings hold at least one reading to a window, average over at
least one, detect on samples of at least three and warm up with at least one worker; the first rule
broken is the one reported. Spans and thresholds are free.
-/

namespace FuelTelemetry

structure Tunables where
  windowCapacity : Int
  averageSize : Int
  sampleSize : Int
  reach : Reach
  digitalChange : Float
  analogChange : Float
  edgeFraction : Float
  hours : Int
  workers : Int

namespace Tunables

def defaultHours : Int := 24

def defaultWorkers : Int := 4

def fields (t : Tunables) : List (String × Json) :=
  [("max_messages_to_load", .int t.windowCapacity),
   ("min_values_for_moving_average", .int t.averageSize),
   ("max_values_for_alerts", .int t.sampleSize),
   ("stored_event_lookaround_seconds", .int t.reach.lookaround),
   ("current_event_lookback_seconds", .int t.reach.lookback),
   ("fuel_change_threshold_digital", .float t.digitalChange),
   ("fuel_change_threshold_analog", .float t.analogChange),
   ("fuel_error_threshold", .float t.edgeFraction),
   ("hours_of_data_to_load", .int t.hours),
   ("warm_start_workers", .int t.workers)]

end Tunables

structure Settings extends Tunables where
  windowCapacity_pos : 1 ≤ windowCapacity
  averageSize_pos : 1 ≤ averageSize
  leastSample_le : leastSample ≤ sampleSize
  workers_pos : 1 ≤ workers

namespace Settings

def accept (t : Tunables) : Except Fault Settings :=
  if h₁ : 1 ≤ t.windowCapacity then
    if h₂ : 1 ≤ t.averageSize then
      if h₃ : leastSample ≤ t.sampleSize then
        if h₄ : 1 ≤ t.workers then .ok ⟨t, h₁, h₂, h₃, h₄⟩
        else .error (.setting .noWorkers)
      else .error (.setting .shortSample)
    else .error (.setting .emptyAverage)
  else .error (.setting .emptyWindow)

def store (s : Settings) : WindowStore where
  capacity := s.windowCapacity.toNat
  capacity_pos := by have := s.windowCapacity_pos; omega
  windows := []

end Settings

end FuelTelemetry

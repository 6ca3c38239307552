import FuelTelemetry.Reading.Basic

/-!
Fuel activities: fills and drains, each with the readings at which it began and ended. An activity
of kind `none` says that nothing was confirmed.
-/

namespace FuelTelemetry

open Time (Stamp)

inductive ActivityKind where
  | none
  | fill
  | drain
deriving DecidableEq, Repr

namespace ActivityKind

def word : ActivityKind → String
  | none => "NONE"
  | fill => "FUEL_FILL"
  | drain => "FUEL_DRAIN"

def ofWord? (word : String) : Option ActivityKind :=
  [none, fill, drain].find? (·.word = word)

end ActivityKind

/-- Times that were put in by hand may carry an offset; detected ones do not. -/
structure Activity where
  kind : ActivityKind
  volume : Float
  startTime : Option Stamp
  endTime : Option Stamp
  start : Option Reading
  stop : Option Reading
  device : Option Int
  sensor : Option Int

namespace Activity

def nothing : Activity where
  kind := .none
  volume := 0.0
  startTime := none
  endTime := none
  start := none
  stop := none
  device := none
  sensor := none

def detected (a : Activity) : Bool := a.kind ≠ .none

def startLatitude (a : Activity) : Option Float := a.start.bind (·.latitude)
def startLongitude (a : Activity) : Option Float := a.start.bind (·.longitude)
def endLatitude (a : Activity) : Option Float := a.stop.bind (·.latitude)
def endLongitude (a : Activity) : Option Float := a.stop.bind (·.longitude)

def fields (a : Activity) : List (String × Json) :=
  [("activity_type", .text a.kind.word),
   ("device_id", .ofOption .int a.device),
   ("sensor_id", .ofOption .int a.sensor),
   ("change_volume", .float a.volume),
   ("start_time", .ofOption (fun s => .text s.text) a.startTime),
   ("end_time", .ofOption (fun s => .text s.text) a.endTime),
   ("start_latitude", .ofOption .float a.startLatitude),
   ("start_longitude", .ofOption .float a.startLongitude),
   ("end_latitude", .ofOption .float a.endLatitude),
   ("end_longitude", .ofOption .float a.endLongitude)]

def toJson (a : Activity) : Json := .object a.fields

end Activity

end FuelTelemetry

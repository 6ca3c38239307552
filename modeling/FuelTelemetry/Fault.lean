import FuelTelemetry.Json.Display

/-!
What can go wrong. An `ErrorReport` is an error of the receiver itself with a message and details;
a `Fault` is the cause of any failure, one constructor to a cause. The words of a fault are in
`Fault.report?` and `Fault.text`; `Fault.name` is the class under which logs and answers list it,
and several causes share a class.
-/

namespace FuelTelemetry

inductive ErrorReport where
  | general (message : String) (details : List (String × Json))
  | calibration (message : String) (device sensor : Option Int)
  | calibrationRange (message : String) (raw lowest : Option Int)
  | rejectedReading (message : String) (field value : Option String)
  | warmStart (message : String) (device : Option Int)
  | publishing (message : String) (device : Option Int) (activity : Option String)
  | configuration (message : String) (key : Option String)

namespace ErrorReport

def name : ErrorReport → String
  | general .. => "FuelReceiverError"
  | calibration .. => "CalibrationError"
  | calibrationRange .. => "CalibrationRangeError"
  | rejectedReading .. => "SensorDataParseError"
  | warmStart .. => "WarmStartError"
  | publishing .. => "ActivityPublishError"
  | configuration .. => "ConfigurationError"

def message : ErrorReport → String
  | general message _ | calibration message _ _ | calibrationRange message _ _
  | rejectedReading message _ _ | warmStart message _ | publishing message _ _
  | configuration message _ => message

def intDetail (name : String) (value : Option Int) : List (String × Json) :=
  (value.map fun n => (name, Json.int n)).toList

def textDetail (name : String) (value : Option String) : List (String × Json) :=
  (value.map fun s => (name, Json.text s)).toList

/-- Names of fields, kinds and keys are left out when empty, a rejected value is not. -/
def nonemptyDetail (name : String) (value : Option String) : List (String × Json) :=
  textDetail name (value.filter (· ≠ ""))

def details : ErrorReport → List (String × Json)
  | general _ details => details
  | calibration _ device sensor => intDetail "device_id" device ++ intDetail "sensor_id" sensor
  | calibrationRange _ raw lowest => intDetail "raw_value" raw ++ intDetail "lowest_point" lowest
  | rejectedReading _ field value => nonemptyDetail "field" field ++ textDetail "value" value
  | warmStart _ device => intDetail "device_id" device
  | publishing _ device activity =>
    intDetail "device_id" device ++ nonemptyDetail "activity_type" activity
  | configuration _ key => nonemptyDetail "config_key" key

def text? (e : ErrorReport) : Option String :=
  if e.details.isEmpty then some e.message
  else (Json.object e.details).display?.map fun details => e.message ++ " - " ++ details

end ErrorReport

inductive SettingFault where
  | emptyWindow
  | emptyAverage
  | shortSample
  | noWorkers
  | frequency
deriving DecidableEq, Repr

inductive Fault where
  /-- An error raised as such by a collaborator or a caller. -/
  | raised (report : ErrorReport)
  | noBreakpoints
  | belowCurve (raw lowest : Int)
  | zeroSlope (point : Int)
  | notAnObject
  | missingField (field : String)
  | missingTime
  | rejectedTime (value : String)
  | payloadNotText (value : String)
  | notInteger (field value : String)
  | notNumber (field value : String)
  | setting (cause : SettingFault)
  | historyLost (device : Int) (cause : String)
  | undelivered (device : Option Int) (activity cause : String)
  /-- A value of a type that is no timestamp, as it is shown. -/
  | unsupportedTimestamp (shown : String)
  | malformedTimestamp
  | timestampOutOfCalendar
  | timestampBeyondYears
  | timestampBeyondClock
  | shiftedOutOfCalendar
  | spanTooLong
  | infiniteInteger
  | tooLargeForDouble
  | tooLargeForStore
  | windowCapacity
  | undated
  | mixedOffsets
  | missingLevel
  | emptySample
  | workerCount
  | malformedNumber
  /-- An integer that has no decimal text. -/
  | tooManyDigits
  | unknownWord (word : String)
  | clashingName (name : String)
  /-- A placeholder that is incomplete or has an unknown letter. -/
  | malformedTemplate
  /-- A size or a code point that a placeholder cannot have. -/
  | tooLargeForTemplate
  | outOfRoom
  /-- A request with a target or a header that cannot be sent. -/
  | malformedRequest
  /-- A host name with a label that is empty or too long. -/
  | malformedHost
  /-- An entry put into a value of this type, which has none. -/
  | noEntries (type : String)
  /-- An entry asked of a value of this type, which has none. -/
  | noLookup (type : String)
  | incompatible
  | missingTable (table : String)
  | duplicateRow (table : String)
  | missingColumn (table : String)
  | unavailable (text : String)
  | missingKey (key : String)
  /-- A failure of another class with its text. -/
  | foreign (name text : String)

namespace SettingFault

def report : SettingFault → ErrorReport
  | emptyWindow =>
    .configuration "Window must hold at least one reading" (some "HOURS_OF_DATA_TO_LOAD")
  | emptyAverage =>
    .configuration "Moving average needs at least one value" (some "MIN_VALUES_FOR_MOVING_AVERAGE")
  | shortSample =>
    .configuration "Detection sample must hold at least 3 values" (some "MAX_VALUES_FOR_ALERTS")
  | noWorkers => .configuration "Need at least one warm start worker" (some "WARM_START_WORKERS")
  | frequency =>
    .configuration "Message frequency must be positive" (some "MESSAGE_FREQUENCY_SECONDS")

end SettingFault

namespace Fault

def report? : Fault → Option ErrorReport
  | raised report => some report
  | noBreakpoints =>
    some (.calibration "Calibration curve needs at least one breakpoint" none none)
  | belowCurve raw lowest =>
    some (.calibrationRange s!"Raw value {raw} is below the lowest calibration point"
      (some raw) (some lowest))
  | zeroSlope point =>
    some (.calibration s!"Calibration point {point} has a zero points-per-unit slope" none none)
  | notAnObject => some (.rejectedReading "Reading must be a JSON object" none none)
  | missingField field =>
    some (.rejectedReading s!"Missing required field: {field}" (some field) none)
  | missingTime => some (.rejectedReading "Missing device timestamp" (some "device_time") none)
  | rejectedTime value =>
    some (.rejectedReading "Invalid device timestamp" (some "device_time") (some value))
  | payloadNotText value =>
    some (.rejectedReading "Sensor data must be a string" (some "sensor_data") (some value))
  | notInteger field value =>
    some (.rejectedReading s!"{field} must be an integer" (some field) (some value))
  | notNumber field value =>
    some (.rejectedReading s!"{field} must be a number" (some field) (some value))
  | setting cause => some cause.report
  | historyLost device cause =>
    some (.warmStart s!"Failed to load history: {cause}" (some device))
  | undelivered device activity cause =>
    some (.publishing s!"Failed to store fuel activity: {cause}" device (some activity))
  | _ => none

def isCalibration (f : Fault) : Bool :=
  match f.report? with
  | some (.calibration ..) | some (.calibrationRange ..) => true
  | _ => false

def nameOf : Fault → String
  | unsupportedTimestamp _ | malformedTimestamp | timestampOutOfCalendar | windowCapacity
  | workerCount | malformedNumber | tooManyDigits | unknownWord _ | malformedTemplate
  | malformedRequest => "ValueError"
  | malformedHost => "UnicodeError"
  | timestampBeyondYears => "OSError"
  | timestampBeyondClock | shiftedOutOfCalendar | spanTooLong | infiniteInteger
  | tooLargeForDouble | tooLargeForStore | tooLargeForTemplate => "OverflowError"
  | undated | mixedOffsets | missingLevel | clashingName _ | noEntries _ | incompatible =>
    "TypeError"
  | emptySample => "ZeroDivisionError"
  | outOfRoom => "MemoryError"
  | noLookup _ => "AttributeError"
  | missingTable _ => "OperationalError"
  | duplicateRow _ | missingColumn _ => "IntegrityError"
  | unavailable _ => "RuntimeError"
  | missingKey _ => "KeyError"
  | foreign name _ => name
  | _ => "Exception"

def name (f : Fault) : String :=
  match f.report? with
  | some report => report.name
  | none => f.nameOf

def textOf : Fault → String
  | unsupportedTimestamp shown => s!"Invalid timestamp: {shown}"
  | malformedTimestamp => "malformed timestamp"
  | timestampOutOfCalendar => "timestamp lies outside the calendar"
  | timestampBeyondYears => "timestamp lies beyond the years that the clock counts"
  | timestampBeyondClock => "timestamp lies beyond the clock"
  | shiftedOutOfCalendar => "time lies outside the calendar"
  | spanTooLong => "span is too long"
  | infiniteInteger => "infinity is no integer"
  | tooLargeForDouble => "integer is too large for a double"
  | tooLargeForStore => "integer does not fit in 64 bits"
  | windowCapacity => "max_size must be at least 1"
  | undated =>
    "'<=' not supported between instances of 'datetime.datetime' and 'NoneType'"
  | mixedOffsets => "can't compare offset-naive and offset-aware datetimes"
  | missingLevel => "a reading has no fuel level"
  | emptySample => "sample is empty"
  | workerCount => "worker count must be positive"
  | malformedNumber => "malformed number"
  | tooManyDigits => "integer has too many digits for a text"
  | unknownWord word => s!"unknown value: {word}"
  | clashingName name => s!"name is taken: {name}"
  | malformedTemplate => "malformed placeholder"
  | tooLargeForTemplate => "number is too large for a placeholder"
  | outOfRoom => "text is too long"
  | malformedRequest => "malformed request"
  | malformedHost => "malformed host name"
  | noEntries "list" => "list indices must be integers or slices, not str"
  | noEntries type => s!"'{type}' object does not support item assignment"
  | noLookup type => s!"'{type}' object has no attribute 'get'"
  | incompatible => "values cannot be combined"
  | missingTable table => s!"no such table: {table}"
  | duplicateRow table => s!"UNIQUE constraint failed: {table}"
  | missingColumn table => s!"NOT NULL constraint failed: {table}"
  | unavailable text => text
  | missingKey key => String.ofList (Text.quoted key.toList)
  | foreign _ text => text
  | _ => ""

def text? (f : Fault) : Option String :=
  match f.report? with
  | some report => report.text?
  | none => some f.textOf

/-- Where the details of an error have no text, its message stands alone. -/
def text (f : Fault) : String :=
  f.text?.getD ((f.report?.map (·.message)).getD "")

def told (f : Fault) : Except Fault String :=
  match f.text? with
  | some text => .ok text
  | none => .error .tooManyDigits

def naming (n : Int) (f : Fault) : Fault :=
  if (Text.integer? n).isSome then f else .tooManyDigits

end Fault

def Json.display (value : Json) : Except Fault String :=
  match value.display? with
  | some written => .ok written
  | none => .error .tooManyDigits

theorem Except.bind_ok {α β : Type} {x : Except Fault α} {f : α → Except Fault β} {b : β}
    (h : x >>= f = .ok b) : ∃ a, x = .ok a ∧ f a = .ok b := by
  cases x with
  | error fault => cases h
  | ok a => exact ⟨a, rfl, h⟩

theorem Except.bind_error {α β : Type} {x : Except Fault α} {f : α → Except Fault β}
    {fault : Fault} (h : x >>= f = .error fault) :
    x = .error fault ∨ ∃ a, x = .ok a ∧ f a = .error fault := by
  cases x with
  | error found => exact .inl (congrArg Except.error (Except.error.inj h))
  | ok a => exact .inr ⟨a, rfl, h⟩

theorem Except.map_error_iff {α β : Type} {x : Except Fault α} {f : α → β} {fault : Fault} :
    f <$> x = .error fault ↔ x = .error fault := by
  cases x with
  | error found => exact ⟨fun h => congrArg _ (Except.error.inj h),
      fun h => congrArg _ (Except.error.inj h)⟩
  | ok a => exact ⟨nofun, nofun⟩

theorem Except.bind_total {α β : Type} {x : Except Fault α} {f : α → Except Fault β}
    (hx : ∃ a, x = .ok a) (hf : ∀ a, ∃ b, f a = .ok b) : ∃ b, x >>= f = .ok b := by
  obtain ⟨a, rfl⟩ := hx
  exact hf a

end FuelTelemetry

import FuelTelemetry.Time.Stamp

/-!
Reading ISO 8601 stamps. A date is `YYYY-MM-DD`, `YYYYMMDD`, `YYYY-Www[-D]` or `YYYYWww[D]`; then
come any one character and a time of day `HH[:MM[:SS[.f]]]`, with or without its colons, and `Z` or
an offset of the same shape; an offset of less than a second is that of UTC. A fraction has any
number of digits, of which six count. It may follow hours and minutes too, and seconds without a
point: behind a colon if there are colons, and at once if there are none. Where a week date may end in
two places, the digits that follow decide.
-/

namespace FuelTelemetry.Time.Iso

open FuelTelemetry.Text (asciiDigit?)

def fixed? : Nat → Nat → List Char → Option (Nat × List Char)
  | 0, value, rest => some (value, rest)
  | _ + 1, _, [] => none
  | width + 1, value, c :: rest => do fixed? width (10 * value + (← asciiDigit? c)) rest

def digits? (width : Nat) (text : List Char) : Option (Nat × List Char) :=
  fixed? width 0 text

def startsWithDigit : List Char → Bool
  | c :: _ => (asciiDigit? c).isSome
  | [] => false

/-- Behind `YYYY-Www`: a hyphen and a day, unless two more digits show the hyphen to be the
separator before an hour. -/
def dayOfExtendedWeek? : List Char → Option (Nat × List Char)
  | '-' :: rest =>
    match rest with
    | [] => none
    | _ :: more => if startsWithDigit more then some (1, '-' :: rest) else digits? 1 rest
  | rest => some (1, rest)

/-- Behind `YYYYWww`: a day, unless an odd number of digits, at least three, shows the first of
them to be the separator before the time. -/
def dayOfBasicWeek? (rest : List Char) : Option (Nat × List Char) :=
  let run := (rest.takeWhile fun c => (asciiDigit? c).isSome).length
  if run == 0 || (run ≥ 2 && run % 2 == 1) then some (1, rest) else digits? 1 rest

def weekDate? (year week : Nat) (tail : Option (Nat × List Char)) :
    Option (CivilDate × List Char) := do
  let (day, rest) ← tail
  return (← ofWeekDate? year week day, rest)

def date? (text : List Char) : Option (CivilDate × List Char) := do
  let (year, rest) ← digits? 4 text
  match rest with
  | '-' :: 'W' :: rest =>
    let (week, rest) ← digits? 2 rest
    weekDate? year week (dayOfExtendedWeek? rest)
  | 'W' :: rest =>
    let (week, rest) ← digits? 2 rest
    weekDate? year week (dayOfBasicWeek? rest)
  | '-' :: rest =>
    let (month, rest) ← digits? 2 rest
    match rest with
    | '-' :: rest =>
      let (day, rest) ← digits? 2 rest
      return (⟨year, month, day⟩, rest)
    | _ => none
  | rest =>
    let (month, rest) ← digits? 2 rest
    let (day, rest) ← digits? 2 rest
    return (⟨year, month, day⟩, rest)

structure Clock where
  hours : Nat
  minutes : Nat
  seconds : Nat
  micros : Nat

def Clock.total (c : Clock) : Nat :=
  c.hours * hour + c.minutes * minute + c.seconds * second + c.micros

def Clock.timeOfDay? (c : Clock) : Option Nat :=
  if c.hours < 24 ∧ c.minutes < 60 ∧ c.seconds < 60 then some c.total else none

/-- A text ends at a NUL at the latest. -/
def atEnd (text : List Char) : Bool :=
  text.head?.all (· == '\x00')

/-- A fraction of a second: at least one digit, six of which count. With it, whether the text ends
behind it. -/
def fraction? (text : List Char) : Option (Nat × Bool) := do
  let kept := text.take 6
  let (value, _) ← digits? kept.length kept
  let rest := (text.drop 6).dropWhile fun c => (asciiDigit? c).isSome
  return (value * Nat.pow 10 (6 - kept.length), atEnd rest)

def ofParts (reversed : List Nat) (micros : Nat) : Clock :=
  match reversed.reverse with
  | hours :: minutes :: seconds :: _ => ⟨hours, minutes, seconds, micros⟩
  | [hours, minutes] => ⟨hours, minutes, 0, micros⟩
  | [hours] => ⟨hours, 0, 0, micros⟩
  | [] => ⟨0, 0, 0, micros⟩

/-- Reads on behind some parts, of which so many may follow, or else a fraction. Whether the parts
have colons between them is seen behind the first one. A last character does not count if it takes
one byte. With the clock, whether the text ends behind it. -/
def clockFrom? : Nat → Option Bool → List Nat → List Char → Option (Clock × Bool)
  | 0, _, reversed, text => do
    let (micros, complete) ← fraction? text
    return (ofParts reversed micros, complete)
  | parts + 1, colons, reversed, text => do
    let (value, rest) ← digits? 2 text
    let reversed := value :: reversed
    match rest with
    | [] => return (ofParts reversed 0, true)
    | [last] => if last.val < 0x80 then return (ofParts reversed 0, atEnd rest) else none
    | mark :: more =>
      let colons := colons.getD (mark == ':')
      if colons && mark == ':' then clockFrom? parts (some colons) reversed more
      else if mark == '.' || mark == ',' then clockFrom? 0 (some colons) reversed more
      else if !colons then clockFrom? parts (some colons) reversed rest
      else none

def clock? (text : List Char) : Option (Clock × Bool) :=
  clockFrom? 3 none [] text

def isZoneMark (c : Char) : Bool := c == '+' || c == '-' || c == 'Z'

/-- An offset from its mark on; nothing may follow it. A fraction alone is no offset. -/
def offset? : List Char → Option Int
  | 'Z' :: rest => if atEnd rest then some 0 else none
  | sign :: rest => do
    let (clock, complete) ← clock? rest
    if !complete then none
    let total := clock.total
    if total < second then return 0
    else if total < day then return if sign == '-' then -(total : Int) else total
    else none
  | [] => none

/-- A time of day and the offset behind it. What stands between them does not count. -/
def time? (text : List Char) : Option (Nat × Option Int) := do
  let (clock, complete) ← clock? (text.takeWhile fun c => !isZoneMark c)
  let timeOfDay ← clock.timeOfDay?
  match text.dropWhile fun c => !isZoneMark c with
  | [] => if complete then return (timeOfDay, none) else none
  | zone => return (timeOfDay, some (← offset? zone))

end FuelTelemetry.Time.Iso

namespace FuelTelemetry.Time

def Stamp.ofIso? (text : List Char) : Option Stamp := do
  let (date, rest) ← Iso.date? text
  let (timeOfDay, offset) ← match rest with
    | [] => some (0, none)
    | _ :: time => Iso.time? time
  return ⟨← Instant.ofCivil? date timeOfDay, offset⟩

end FuelTelemetry.Time

import FuelTelemetry.Time.Instant

/-!
Stamps: civil times that may carry an offset from UTC. A stamp without an offset is taken to be in
UTC already. Normalizing subtracts the offset, which may leave the calendar.
-/

namespace FuelTelemetry.Time

/-- Offsets are in microseconds, positive to the east, and less than a day either way. -/
structure Stamp where
  wall : Instant
  offset : Option Int
deriving DecidableEq

namespace Stamp

def ofInstant (t : Instant) : Stamp := ⟨t, none⟩

def utc? (s : Stamp) : Option Instant :=
  match s.offset with
  | none => some s.wall
  | some offset => s.wall.shift? (-offset)

end Stamp

def offsetText (offset : Int) : List Char :=
  let micros := offset.natAbs
  let seconds := micros / second % 60
  let tail :=
    if micros % minute == 0 then []
    else ':' :: Text.padded 2 seconds ++ fractionText (micros % second)
  (if offset < 0 then '-' else '+') :: Text.padded 2 (micros / hour) ++
    ':' :: Text.padded 2 (micros / minute % 60) ++ tail

def Stamp.iso (s : Stamp) : List Char :=
  s.wall.iso ++ (s.offset.map offsetText).getD []

def Stamp.text (s : Stamp) : String :=
  String.ofList s.iso

@[simp] theorem Stamp.text_ofInstant (t : Instant) : (ofInstant t).text = t.text := by
  simp [text, iso, ofInstant, Instant.text]

end FuelTelemetry.Time

/-!
Bytes as text. The encodings are told apart by a byte order mark of UTF-8 or by where the first bytes
are zero, for a JSON text begins with a character of ASCII. A surrogate without its partner has no
character and becomes U+FFFD, as do bytes that are no UTF-8 where they are put up with.
-/

namespace FuelTelemetry.Text

def replacement : Char := '\uFFFD'

def isHighSurrogate (unit : Nat) : Bool := 0xD800 ≤ unit && unit < 0xDC00

def isLowSurrogate (unit : Nat) : Bool := 0xDC00 ≤ unit && unit < 0xE000

def ofUnit (unit : Nat) : Char :=
  if isHighSurrogate unit || isLowSurrogate unit then replacement else Char.ofNat unit

def ofSurrogates (high low : Nat) : Char :=
  Char.ofNat (0x10000 + (high - 0xD800) * 0x400 + (low - 0xDC00))

def ofUnits : List Nat → List Char
  | [] => []
  | [unit] => [ofUnit unit]
  | high :: low :: rest =>
    if isHighSurrogate high && isLowSurrogate low then ofSurrogates high low :: ofUnits rest
    else ofUnit high :: ofUnits (low :: rest)

inductive ByteOrder where
  | bigFirst
  | littleFirst
deriving DecidableEq, Repr

/-- Joins neighbours to numbers of twice their width, `none` if one is left over. -/
def joinPairs? (order : ByteOrder) (base : Nat) : List Nat → Option (List Nat)
  | [] => some []
  | [_] => none
  | a :: b :: rest =>
    let joined := match order with
      | .bigFirst => a * base + b
      | .littleFirst => b * base + a
    (joinPairs? order base rest).map (joined :: ·)

inductive Encoding where
  | utf8
  | utf16 (order : ByteOrder)
  | utf32 (order : ByteOrder)
deriving DecidableEq, Repr

namespace Encoding

/-- The encoding that the zeros among the first bytes show. -/
def detect : List UInt8 → Encoding
  | [0, _] => utf16 .bigFirst
  | [_, 0] => utf16 .littleFirst
  | 0 :: b :: _ :: _ :: _ => if b == 0 then utf32 .bigFirst else utf16 .bigFirst
  | _ :: 0 :: c :: d :: _ => if c == 0 && d == 0 then utf32 .littleFirst else utf16 .littleFirst
  | _ => utf8

def decode? (bytes : List UInt8) : Encoding → Option (List Char)
  | utf8 => (String.fromUTF8? ⟨bytes.toArray⟩).map String.toList
  | utf16 order => (joinPairs? order 0x100 (bytes.map UInt8.toNat)).map ofUnits
  | utf32 order => do
    let halves ← joinPairs? order 0x100 (bytes.map UInt8.toNat)
    let points ← joinPairs? order 0x10000 halves
    if points.all (· < 0x110000) then return points.map ofUnit else none

end Encoding

def decode? : List UInt8 → Option (List Char)
  | 0xEF :: 0xBB :: 0xBF :: rest => Encoding.utf8.decode? rest
  | bytes => (Encoding.detect bytes).decode? bytes

/-- The characters of so many bytes at most from a place on, U+FFFD for each byte that is no UTF-8. -/
def lossyFrom (bytes : ByteArray) : Nat → Nat → List Char
  | 0, _ => []
  | n + 1, place =>
    if bytes.size ≤ place then []
    else match bytes.utf8DecodeChar? place with
      | some c => c :: lossyFrom bytes n (place + c.utf8Size)
      | none => replacement :: lossyFrom bytes n (place + 1)

def decodeLossy (bytes : List UInt8) : List Char :=
  let bytes : ByteArray := ⟨bytes.toArray⟩
  lossyFrom bytes bytes.size 0

end FuelTelemetry.Text

import FuelTelemetry.Fault
import FuelTelemetry.Text.Digit

/-!
The authority of a reference: a user with a password, a host and a port. A host in brackets is an
address of version 6 or of a version that is named; other hosts are labels between points.
-/

namespace FuelTelemetry.Service

def cutAt? (mark : Char) (chars : List Char) : Option (List Char × List Char) :=
  match chars.dropWhile (· ≠ mark) with
  | _ :: rest => some (chars.takeWhile (· ≠ mark), rest)
  | [] => none

def cutAt (mark : Char) (chars : List Char) : List Char × List Char :=
  (cutAt? mark chars).getD (chars, [])

namespace Address

def isHex (c : Char) : Bool := (Text.hexValue? c).isSome

def isByte (digits : List Char) : Bool :=
  digits == ['0'] ||
    (digits.all Char.isDigit && digits.head?.any (· ≠ '0') && digits.length ≤ 3 &&
      ((digits.foldl (fun n c => 10 * n + (c.toNat - '0'.toNat)) 0) < 256))

def isV4 (chars : List Char) : Bool :=
  let bytes := chars.splitOn '.'
  bytes.length == 4 && bytes.all isByte

def isGroup (digits : List Char) : Bool :=
  !digits.isEmpty && digits.length ≤ 4 && digits.all isHex

/-- Groups at one end of an address, where the gap may come first or last. -/
def endGroups (groups : List (List Char)) : List (List Char) :=
  if groups == [[]] then [] else groups

/-- Eight groups, or fewer with a gap between colons that stands for at least one. -/
def groupsFit (groups : List (List Char)) : Bool :=
  let inner := (groups.drop 1).dropLast
  match inner.filter List.isEmpty with
  | [] => groups.length == 8 && groups.all isGroup
  | [_] =>
    let gap := (inner.takeWhile (!·.isEmpty)).length + 1
    let high := endGroups (groups.take gap)
    let low := endGroups (groups.drop (gap + 1))
    high.length + low.length < 8 && high.all isGroup && low.all isGroup
  | _ => false

def withoutV4 (groups : List (List Char)) : Option (List (List Char)) :=
  match groups.getLast? with
  | some last =>
    if !last.contains '.' then some groups
    else if isV4 last then some (groups.dropLast ++ [['0'], ['0']])
    else none
  | none => some groups

def isV6 (chars : List Char) : Bool :=
  let zoneFits := match cutAt? '%' chars with
    | some (_, zone) => !zone.isEmpty && !zone.contains '%'
    | none => true
  let groups := (cutAt '%' chars).1.splitOn ':'
  zoneFits && 3 ≤ groups.length && (withoutV4 groups).any groupsFit

def isLater : List Char → Bool
  | 'v' :: rest =>
    match cutAt? '.' rest with
    | some (version, address) =>
      !version.isEmpty && version.all isHex && !address.isEmpty
    | none => false
  | _ => false

def fits (chars : List Char) : Bool :=
  if chars.head? == some 'v' then isLater chars else isV6 chars

end Address

structure Authority where
  user : List Char
  password : List Char
  host : List Char
  port : List Char

namespace Authority

/-- Characters that are compatible with a text which has one of the marks `/?#@:` in it. -/
def disguised : List Nat :=
  [0x2047, 0x2048, 0x2049, 0x2100, 0x2101, 0x2105, 0x2106, 0x2A74, 0xFE13, 0xFE16, 0xFE55, 0xFE56,
   0xFE5F, 0xFE6B, 0xFF03, 0xFF0F, 0xFF1A, 0xFF1F, 0xFF20]

/-- Whether brackets come in pairs and hold an address, and no mark is disguised. -/
def wellFormed (chars : List Char) : Bool :=
  let bracketed :=
    match chars.contains '[', chars.contains ']' with
    | false, false => true
    | true, true => Address.fits (cutAt ']' (cutAt '[' chars).2).1
    | _, _ => false
  bracketed && chars.all fun c => !disguised.contains c.toNat

def cutAtLast (mark : Char) (chars : List Char) : List Char × List Char :=
  let behind := (chars.reverse.takeWhile (· ≠ mark)).reverse
  (chars.take (chars.length - behind.length - 1), behind)

/-- Host names have no case, zones do. -/
def lowered (host : List Char) : List Char :=
  (host.takeWhile (· ≠ '%')).map Char.toLower ++ host.dropWhile (· ≠ '%')

def ofText (chars : List Char) : Authority :=
  let (account, place) := cutAtLast '@' chars
  let (user, password) := cutAt ':' account
  let (host, port) := match cutAt? '[' place with
    | some (_, bracketed) =>
      let (host, rest) := cutAt ']' bracketed
      (host, (cutAt ':' rest).2)
    | none => cutAt ':' place
  ⟨user, password, lowered host, port⟩

/-- Only the last label of a name may be empty, and none has more than 63 characters. -/
def labelsFit (name : List Char) : Bool :=
  let isPoint (c : Char) : Bool :=
    c == '.' || ['\u3002', '\uFF0E', '\uFF61'].contains c && name.any fun c => 0x80 ≤ c.toNat
  let labels := (name.map fun c => if isPoint c then '.' else c).splitOn '.'
  labels.all (·.length < 64) && labels.dropLast.all (!·.isEmpty)

def portNumber? (port : List Char) : Option Nat :=
  let n := port.foldl (fun n c => 10 * n + (c.toNat - '0'.toNat)) 0
  if port.all Char.isDigit ∧ n < 65536 then some n else none

/-- The written form: port number 0, an empty user and an empty password are left out. -/
def normal (a : Authority) : Except Fault (List Char) := do
  if !labelsFit a.host then throw .malformedHost
  match portNumber? a.port with
  | none => throw .malformedRequest
  | some port =>
    let host := if a.host.contains ':' then '[' :: a.host ++ [']'] else a.host
    let port := if port == 0 then [] else ':' :: Text.decimal port
    let password := if a.password.isEmpty then [] else ':' :: a.password
    let account := if a.user.isEmpty then [] else a.user ++ password ++ ['@']
    return account ++ host ++ port

end Authority

end FuelTelemetry.Service

import FuelTelemetry.Json.Arithmetic
import FuelTelemetry.Number.Rounded

/-!
Templates: texts with placeholders for the values of an argument. A placeholder is `%`, a name in
parentheses, flags, a width, a precision and a letter for the form of the value; all but the letter
may be missing, and `%%` is a percent sign. A name asks for a field of the argument, which has to be
an object. Without a name the argument itself is taken, by one placeholder only. Placeholders are
filled from left to right, and the first fault counts.
-/

namespace FuelTelemetry.Template

structure Flags where
  left : Bool
  signed : Bool
  blank : Bool
  alternate : Bool
  zeros : Bool

structure Placeholder where
  flags : Flags
  width : Nat
  precision : Option Nat
  letter : Char

structure Supply where
  argument : Json
  next : Option Json

namespace Supply

def take (s : Supply) : Except Fault (Json × Supply) :=
  match s.next with
  | some value => .ok (value, { s with next := none })
  | none => .error .incompatible

/-- A text has no names, whatever the name. -/
def hasNames (s : Supply) : Bool :=
  match s.argument with
  | .text _ => false
  | _ => true

def look (s : Supply) (name : String) : Except Fault Supply :=
  match s.argument with
  | .object fields =>
    match Table.get? name fields with
    | some value => .ok { s with next := some value }
    | none => .error (.missingKey name)
  | _ => .error .incompatible

/-- A value that is left over at the end of a placeholder, or for a text at the end of all. -/
def settled (s : Supply) : Except Fault Unit :=
  if s.next.isSome then .error .incompatible else .ok ()

end Supply

def closing? : Nat → List Char → List Char → Option (List Char × List Char)
  | _, _, [] => none
  | 0, reversed, ')' :: rest => some (reversed.reverse, rest)
  | depth + 1, reversed, ')' :: rest => closing? depth (')' :: reversed) rest
  | depth, reversed, '(' :: rest => closing? (depth + 1) ('(' :: reversed) rest
  | depth, reversed, c :: rest => closing? depth (c :: reversed) rest

def name (s : Supply) : List Char → Except Fault (Supply × List Char)
  | '(' :: rest =>
    if !s.hasNames then .error .incompatible
    else match closing? 0 [] rest with
      | some (name, rest) => (·, rest) <$> s.look (String.ofList name)
      | none => .error .malformedTemplate
  | chars => .ok (s, chars)

def flags (f : Flags) : List Char → Flags × List Char
  | '-' :: rest => flags { f with left := true } rest
  | '+' :: rest => flags { f with signed := true } rest
  | ' ' :: rest => flags { f with blank := true } rest
  | '#' :: rest => flags { f with alternate := true } rest
  | '0' :: rest => flags { f with zeros := true } rest
  | chars => (f, chars)

def digits (limit : Nat) (n : Nat) : List Char → Except Fault (Nat × List Char)
  | [] => .ok (n, [])
  | c :: rest =>
    match Text.asciiDigit? c with
    | none => .ok (n, c :: rest)
    | some d =>
      if (limit - d) / 10 < n then .error .malformedTemplate else digits limit (10 * n + d) rest

def size (limit : Nat) (s : Supply) : List Char → Except Fault (Int × Supply × List Char)
  | '*' :: rest => do
    match ← s.take with
    | (value, s) =>
      let n ← match value.amount? with
        | some (.whole n) => pure n
        | _ => throw .incompatible
      if n < -(limit : Int) - 1 ∨ (limit : Int) < n then throw .tooLargeForTemplate
      return (n, s, rest)
  | chars => do
    let (n, rest) ← digits limit 0 chars
    return (n, s, rest)

def precision (s : Supply) : List Char → Except Fault (Option Nat × Supply × List Char)
  | '.' :: rest => do
    let (n, s, rest) ← size 0x7FFFFFFF s rest
    return (some n.toNat, s, rest)
  | chars => .ok (none, s, chars)

def letter : List Char → Except Fault (Char × List Char)
  | c :: rest =>
    if c == 'h' || c == 'l' || c == 'L' then
      match rest with
      | c :: rest => .ok (c, rest)
      | [] => .error .malformedTemplate
    else .ok (c, rest)
  | [] => .error .malformedTemplate

/-- Reads a placeholder behind its percent sign. A width below zero puts the value to the left. -/
def placeholder (s : Supply) (chars : List Char) :
    Except Fault (Placeholder × Supply × List Char) := do
  let (s, rest) ← name s chars
  let (f, rest) := flags ⟨false, false, false, false, false⟩ rest
  let (width, s, rest) ← size 0x7FFFFFFFFFFFFFFF s rest
  let (precision, s, rest) ← precision s rest
  let (letter, rest) ← letter rest
  return (⟨{ f with left := f.left || width < 0 }, width.natAbs, precision, letter⟩, s, rest)

/-- A value in the form that its letter asks for. Only numbers are padded with zeros. -/
structure Piece where
  sign : List Char
  marker : List Char
  body : List Char
  number : Bool

namespace Piece

def plain (p : Placeholder) (body : List Char) : Piece :=
  ⟨[], [], match p.precision with
    | some n => body.take n
    | none => body, false⟩

def signOf (p : Placeholder) (negative : Bool) : List Char :=
  if negative then ['-'] else if p.flags.signed then ['+'] else if p.flags.blank then [' '] else []

def integer (p : Placeholder) (base : Nat) (marker : List Char) (n : Int) : Piece :=
  let digits := Nat.toDigits base n.natAbs
  let padding := List.replicate (p.precision.getD 0 - digits.length) '0'
  ⟨signOf p (n < 0), if p.flags.alternate then marker else [], padding ++ digits, true⟩

def upper (piece : Piece) : Piece :=
  { piece with marker := piece.marker.map Char.toUpper, body := piece.body.map Char.toUpper }

def real (p : Placeholder) (layout : Number.FiniteDouble → Nat → Bool → List Char) (x : Float) :
    Piece :=
  match Number.Binary64.ofFloat x with
  | .notANumber => ⟨signOf p false, [], "nan".toList, true⟩
  | .infinite negative => ⟨signOf p negative, [], "inf".toList, true⟩
  | .finite d =>
    ⟨signOf p d.negative, [], layout d (p.precision.getD 6) p.flags.alternate, true⟩

def text (p : Placeholder) (piece : Piece) : List Char :=
  let bare := piece.sign ++ piece.marker ++ piece.body
  let gap := p.width - bare.length
  if p.flags.left then bare ++ List.replicate gap ' '
  else if p.flags.zeros && piece.number then
    piece.sign ++ piece.marker ++ List.replicate gap '0' ++ piece.body
  else List.replicate gap ' ' ++ bare

end Piece

def whole (value : Json) : Except Fault Int :=
  match value.amount? with
  | some (.whole n) => .ok n
  | _ => .error .incompatible

def truncated (value : Json) : Except Fault Int :=
  match value.amount? with
  | some (.whole n) => .ok n
  | some (.real x) =>
    match Number.Binary64.ofFloat x with
    | .finite d => .ok d.truncate
    | .infinite _ => .error .infiniteInteger
    | .notANumber => .error .malformedNumber
  | none => .error .incompatible

def double (value : Json) : Except Fault Float :=
  match value.amount? with
  | some amount => amount.real?
  | none => .error .incompatible

def character (value : Json) : Except Fault Char := do
  match value with
  | .text t =>
    match t.toList with
    | [c] => return c
    | _ => throw .incompatible
  | value =>
    let n ← whole value
    if n < 0 ∨ 0x110000 ≤ n then throw .tooLargeForTemplate
    return if n.toNat.isValidChar then Char.ofNat n.toNat else '\uFFFD'

def shown (value : Json) : Except Fault (List Char) :=
  match value.shown? with
  | some text => .ok text
  | none => .error .tooManyDigits

def asciiOnly (c : Char) : List Char :=
  if c.toNat < 0x80 then [c] else Text.codePoint c

def piece (p : Placeholder) (value : Json) : Except Fault Piece :=
  match p.letter with
  | 's' => (fun text => .plain p text.toList) <$> value.display
  | 'r' => .plain p <$> shown value
  | 'a' => (fun text => .plain p (text.flatMap asciiOnly)) <$> shown value
  | 'c' => (fun c => ⟨[], [], [c], false⟩) <$> character value
  | 'd' | 'i' | 'u' => do
    let n ← truncated value
    if (Text.integer? n).isSome then return .integer p 10 [] n else throw .tooManyDigits
  | 'o' => .integer p 8 ['0', 'o'] <$> whole value
  | 'x' => .integer p 16 ['0', 'x'] <$> whole value
  | 'X' => (Piece.upper ∘ .integer p 16 ['0', 'x']) <$> whole value
  | 'f' => .real p Number.positional <$> double value
  | 'F' => (Piece.upper ∘ .real p Number.positional) <$> double value
  | 'e' => .real p Number.exponential <$> double value
  | 'E' => (Piece.upper ∘ .real p Number.exponential) <$> double value
  | 'g' => .real p Number.general <$> double value
  | 'G' => (Piece.upper ∘ .real p Number.general) <$> double value
  | _ => .error .malformedTemplate

/-- Characters that one placeholder may come to. -/
def room : Nat := 0x1000000

def write (p : Placeholder) (s : Supply) : Except Fault (List Char × Supply) := do
  let (value, s) ← s.take
  if room < p.width ∨ room < p.precision.getD 0 then throw .outOfRoom
  return ((← piece p value).text p, s)

def fillFrom : Nat → Supply → List Char → Except Fault (List Char)
  | 0, _, _ => .ok []
  | _, s, [] => do
    if !s.hasNames then s.settled
    return []
  | n + 1, s, '%' :: '%' :: rest => do return '%' :: (← fillFrom n s rest)
  | n + 1, s, '%' :: rest => do
    let (p, s, rest) ← placeholder s rest
    let (text, s) ← write p s
    if s.hasNames then s.settled
    return text ++ (← fillFrom n s rest)
  | n + 1, s, c :: rest => do return c :: (← fillFrom n s rest)

def fill (template : String) (argument : Json) : Except Fault String :=
  let chars := template.toList
  String.ofList <$> fillFrom (chars.length + 1) ⟨argument, some argument⟩ chars

end FuelTelemetry.Template

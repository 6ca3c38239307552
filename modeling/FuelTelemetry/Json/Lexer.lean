import FuelTelemetry.Json.Basic
import FuelTelemetry.Number.Numeral
import FuelTelemetry.Text.Encoding

/-!
Tokens of JSON text, read with one state per character. Words and numbers end where a character
follows that stands in neither. Besides the standard words `NaN`, `Infinity` and `-Infinity` are
values. A surrogate escape without its partner has no character and becomes U+FFFD. The tokens before
the first fault are kept, for they may be at fault themselves.
-/

namespace FuelTelemetry.Json

inductive Token where
  | openList
  | closeList
  | openObject
  | closeObject
  | comma
  | colon
  | text (value : String)
  | scalar (value : Json)

namespace Lexer

/-- What has been read of the current token, most recent character first. -/
inductive State where
  | between
  | bare (reversed : List Char)
  | inText (reversed : List Char)
  | escaped (reversed : List Char)
  | coded (reversed : List Char) (digits value : Nat)
  | surrogate (reversed : List Char) (high : Nat)
  | surrogateEscaped (reversed : List Char) (high : Nat)
  | surrogateCoded (reversed : List Char) (high digits value : Nat)

open Text (replacement isHighSurrogate isLowSurrogate ofSurrogates ofUnit)

def isBare (c : Char) : Bool :=
  c.isAlphanum || c == '-' || c == '+' || c == '.'

def simpleEscape? : Char → Option Char
  | '"' => some '"'
  | '\\' => some '\\'
  | '/' => some '/'
  | 'b' => some '\x08'
  | 'f' => some '\x0C'
  | 'n' => some '\n'
  | 'r' => some '\r'
  | 't' => some '\t'
  | _ => none

/-- A number: an optional minus, an integer without leading zeros, a fraction, an exponent. An
integer of more than `limit` digits is refused. -/
def number? (limit : Option Nat) (chars : List Char) : Option Json := do
  let (negative, body) := match chars with
    | '-' :: rest => (true, rest)
    | rest => (false, rest)
  let whole := body.takeWhile Char.isDigit
  if whole.isEmpty || (whole.length > 1 && whole.head? == some '0') then none
  let rest := body.dropWhile Char.isDigit
  if rest.isEmpty then
    if limit.any (· < whole.length) then none
    let n ← Number.natural? whole
    return .int (if negative then -(n : Int) else n)
  else
    match rest with
    | '.' :: c :: _ => if !c.isDigit then none
    | '.' :: [] => none
    | _ => pure ()
    return .float (← Number.decimal? negative body)

def scalar? (limit : Option Nat) (chars : List Char) : Option Json :=
  match String.ofList chars with
  | "null" => some .null
  | "true" => some (.bool true)
  | "false" => some (.bool false)
  | "NaN" => some (.float Number.nan)
  | "Infinity" => some (.float Number.infinity)
  | "-Infinity" => some (.float (-Number.infinity))
  | _ => number? limit chars

def start (c : Char) : Option (State × Option Token) :=
  if c == ' ' || c == '\t' || c == '\n' || c == '\r' then some (.between, none)
  else match c with
    | '[' => some (.between, some .openList)
    | ']' => some (.between, some .closeList)
    | '{' => some (.between, some .openObject)
    | '}' => some (.between, some .closeObject)
    | ',' => some (.between, some .comma)
    | ':' => some (.between, some .colon)
    | '"' => some (.inText [], none)
    | _ => if isBare c then some (.bare [c], none) else none

/-- A character of a text behind a high surrogate that found no partner. -/
def textStep (reversed : List Char) (c : Char) : Option (State × Option Token) :=
  if c == '"' then some (.between, some (.text (String.ofList reversed.reverse)))
  else if c == '\\' then some (.escaped reversed, none)
  else if c.toNat < 0x20 then none
  else some (.inText (c :: reversed), none)

def escapeStep (reversed : List Char) (c : Char) : Option (State × Option Token) :=
  if c == 'u' then some (.coded reversed 0 0, none)
  else (simpleEscape? c).map fun e => (.inText (e :: reversed), none)

def unitState (reversed : List Char) (unit : Nat) : State :=
  if isHighSurrogate unit then .surrogate reversed unit else .inText (ofUnit unit :: reversed)

def pairState (reversed : List Char) (high unit : Nat) : State :=
  if isLowSurrogate unit then .inText (ofSurrogates high unit :: reversed)
  else unitState (replacement :: reversed) unit

def step (limit : Option Nat) (state : State) (c : Char) : Option (State × List Token) :=
  let one (result : Option (State × Option Token)) : Option (State × List Token) :=
    result.map fun (next, token) => (next, token.toList)
  match state with
  | .between => one (start c)
  | .bare reversed =>
    if isBare c then some (.bare (c :: reversed), [])
    else do
      let value ← scalar? limit reversed.reverse
      let (next, token) ← start c
      return (next, .scalar value :: token.toList)
  | .inText reversed => one (textStep reversed c)
  | .escaped reversed => one (escapeStep reversed c)
  | .coded reversed digits value => do
    let value := 16 * value + (← Text.hexValue? c)
    if digits == 3 then return (unitState reversed value, [])
    else return (.coded reversed (digits + 1) value, [])
  | .surrogate reversed high =>
    if c == '\\' then some (.surrogateEscaped reversed high, [])
    else one (textStep (replacement :: reversed) c)
  | .surrogateEscaped reversed high =>
    if c == 'u' then some (.surrogateCoded reversed high 0 0, [])
    else one (escapeStep (replacement :: reversed) c)
  | .surrogateCoded reversed high digits value => do
    let value := 16 * value + (← Text.hexValue? c)
    if digits == 3 then return (pairState reversed high value, [])
    else return (.surrogateCoded reversed high (digits + 1) value, [])

def finish? (limit : Option Nat) : State → Option (List Token)
  | .between => some []
  | .bare reversed => (scalar? limit reversed.reverse).map fun value => [.scalar value]
  | _ => none

structure Tokens where
  tokens : List Token
  complete : Bool

def readFrom (limit : Option Nat) (state : State) (reversed : List Token) : List Char → Tokens
  | [] =>
    match finish? limit state with
    | some last => ⟨reversed.reverse ++ last, true⟩
    | none => ⟨reversed.reverse, false⟩
  | c :: rest =>
    match step limit state c with
    | some (next, tokens) => readFrom limit next (tokens.reverse ++ reversed) rest
    | none => ⟨reversed.reverse, false⟩

def read (limit : Option Nat) (chars : List Char) : Tokens :=
  readFrom limit .between [] chars

end Lexer

end FuelTelemetry.Json

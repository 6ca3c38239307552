import FuelTelemetry.Json.Lexer

/-!
JSON values from tokens, read with a stack of the lists and objects still open. Of fields with one
name the last value counts, at the place of the first. Faults are found from left to right.
-/

namespace FuelTelemetry.Json

namespace Reader

/-- An open list with its items in reverse, or an open object with the name whose value comes. -/
inductive Frame where
  | list (reversed : List Json)
  | object (fields : List (String × Json)) (name : String)

inductive State where
  | value (stack : List Frame)
  | firstItem (stack : List Frame)
  | firstName (stack : List Frame)
  | name (fields : List (String × Json)) (stack : List Frame)
  | colon (fields : List (String × Json)) (name : String) (stack : List Frame)
  | after (value : Json) (stack : List Frame)

def openValue (stack : List Frame) : Token → Option State
  | .openList => some (.firstItem stack)
  | .openObject => some (.firstName stack)
  | .text value => some (.after (.text value) stack)
  | .scalar value => some (.after value stack)
  | _ => none

def continueFrame (value : Json) (frame : Frame) (stack : List Frame) : Token → Option State
  | .comma =>
    match frame with
    | .list reversed => some (.value (.list (value :: reversed) :: stack))
    | .object fields name => some (.name (Table.put name value fields) stack)
  | .closeList =>
    match frame with
    | .list reversed => some (.after (.list (value :: reversed).reverse) stack)
    | .object _ _ => none
  | .closeObject =>
    match frame with
    | .list _ => none
    | .object fields name => some (.after (.object (Table.put name value fields)) stack)
  | _ => none

def step : State → Token → Option State
  | .value stack, token => openValue stack token
  | .firstItem stack, .closeList => some (.after (.list []) stack)
  | .firstItem stack, token => openValue (.list [] :: stack) token
  | .firstName stack, .closeObject => some (.after (.object []) stack)
  | .firstName stack, .text name => some (.colon [] name stack)
  | .firstName _, _ => none
  | .name fields stack, .text name => some (.colon fields name stack)
  | .name _ _, _ => none
  | .colon fields name stack, .colon => some (.value (.object fields name :: stack))
  | .colon _ _ _, _ => none
  | .after value (frame :: stack), token => continueFrame value frame stack token
  | .after _ [], _ => none

def State.opened? : State → Option Nat
  | .firstItem stack | .firstName stack => some (stack.length + 1)
  | _ => none

end Reader

/-- Why a text is not read: it is no JSON, or lists and objects are nested too deep in it. -/
inductive Refusal where
  | malformed
  | tooDeep
deriving DecidableEq, Repr

structure Limits where
  digits : Option Nat
  depth : Option Nat

def stepWithin (limits : Limits) (state : Reader.State) (token : Token) :
    Except Refusal Reader.State :=
  match Reader.step state token with
  | none => .error .malformed
  | some next =>
    if limits.depth.any fun limit => next.opened?.any (limit < ·) then .error .tooDeep
    else .ok next

def read (limits : Limits) (chars : List Char) : Except Refusal Json := do
  let lexed := Lexer.read limits.digits chars
  match ← lexed.tokens.foldlM (stepWithin limits) (.value []) with
  | .after value [] => if lexed.complete then return value else throw .malformed
  | _ => throw .malformed

end FuelTelemetry.Json

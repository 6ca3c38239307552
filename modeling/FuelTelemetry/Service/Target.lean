import FuelTelemetry.Service.Reference
import FuelTelemetry.Text.Encoding

/-!
Request targets. A target is a reference whose path and query are read as a reference of their own,
so that a path may name a second host, and the path of that once more. Escaped bytes `%XX` are decoded
as UTF-8; an escape that is no pair of hexadecimal digits stands for itself.
-/

namespace FuelTelemetry.Service

structure Target where
  path : List Char
  /-- Names and values in order; one that cannot be decoded is `none`. -/
  query : List (Option String × Option String)
  /-- The name of the host as it is looked up. -/
  host : List Char
  /-- Whether the scheme asks for a web socket. -/
  socket : Bool

def escapedBytes : List Char → List UInt8
  | [] => []
  | '%' :: a :: b :: rest =>
    match Text.hexValue? a, Text.hexValue? b with
    | some high, some low => UInt8.ofNat (16 * high + low) :: escapedBytes rest
    | _, _ => 37 :: escapedBytes (a :: b :: rest)
  | c :: rest => String.utf8EncodeChar c ++ escapedBytes rest

/-- In a query a plus is a space, and bytes that are no UTF-8 make a text unknown. -/
def queryText? (chars : List Char) : Option String :=
  String.fromUTF8? ⟨(escapedBytes (chars.map fun c => if c == '+' then ' ' else c)).toArray⟩

def queryOf (chars : List Char) : List (Option String × Option String) :=
  ((chars.splitOn '&').filter (!·.isEmpty)).map fun part =>
    let (name, value) := cutAt '=' part
    (queryText? name, queryText? value)

namespace Target

def rooted (path : List Char) : List Char :=
  '/' :: (Text.decodeLossy (escapedBytes path)).dropWhile (· == '/')

def read (text : String) : Except Fault Target := do
  let outer ← Reference.read text.toList
  let inner ← Reference.read outer.pathAndQuery
  let path ← (← Reference.read inner.path).asPath
  let authority ← (Authority.ofText outer.authority).normal
  return {
    path := rooted path
    query := queryOf inner.query
    host := (cutAt ':' authority).1
    socket := outer.scheme == "ws".toList || outer.scheme == "wss".toList }

def value? (t : Target) (name : String) : Option String :=
  ((t.query.find? fun entry => entry.1 = some name).map (·.2)).join

end Target

end FuelTelemetry.Service

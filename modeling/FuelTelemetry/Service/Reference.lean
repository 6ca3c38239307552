import FuelTelemetry.Service.Authority

/-!
References: a scheme, an authority, a path and a query, all but the path of which may be missing; a
fragment is dropped. Blanks and controls at the front and line breaks and tabs anywhere do not count.
-/

namespace FuelTelemetry.Service

structure Reference where
  scheme : List Char
  authority : List Char
  path : List Char
  query : List Char

namespace Reference

def isIgnored (c : Char) : Bool := c == '\t' || c == '\n' || c == '\r'

def cleaned (chars : List Char) : List Char :=
  (chars.dropWhile (·.toNat ≤ 0x20)).filter (!isIgnored ·)

def isSchemeChar (c : Char) : Bool := c.isAlphanum || c == '+' || c == '-' || c == '.'

def cutScheme (chars : List Char) : List Char × List Char :=
  match cutAt? ':' chars with
  | some (name, rest) =>
    if name.head?.any Char.isAlpha && name.all isSchemeChar then (name.map Char.toLower, rest)
    else ([], chars)
  | none => ([], chars)

def cutAuthority : List Char → List Char × List Char
  | '/' :: '/' :: rest =>
    let inside (c : Char) : Bool := c ≠ '/' && c ≠ '?' && c ≠ '#'
    (rest.takeWhile inside, rest.dropWhile inside)
  | chars => ([], chars)

def read (chars : List Char) : Except Fault Reference :=
  let (scheme, rest) := cutScheme (cleaned chars)
  let (authority, rest) := cutAuthority rest
  if Authority.wellFormed authority then
    let (path, query) := cutAt '?' (cutAt '#' rest).1
    .ok ⟨scheme, authority, path, query⟩
  else .error .malformedRequest

def pathAndQuery (r : Reference) : List Char :=
  if r.query.isEmpty then r.path else r.path ++ '?' :: r.query

/-- The reference as one path, with its authority in the written form. -/
def asPath (r : Reference) : Except Fault (List Char) := do
  let authority ← (Authority.ofText r.authority).normal
  let scheme := if r.scheme.isEmpty then [] else r.scheme ++ [':']
  let authority := if authority.isEmpty then [] else '/' :: '/' :: authority
  return scheme ++ authority ++ r.path

end Reference

end FuelTelemetry.Service

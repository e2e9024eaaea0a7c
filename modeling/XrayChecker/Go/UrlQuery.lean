import XrayChecker.Go.Url

/-
`url.Parse` on URLs of any scheme but PostgreSQL's, what `Hostname`, `Port`
and `Query` read of them, and `strconv.Atoi`.
-/

namespace Go

def lowerByte (b : UInt8) : UInt8 :=
  if 0x41 ≤ b ∧ b ≤ 0x5a then b + 0x20 else b

def letterByte (b : UInt8) : Bool :=
  0x41 ≤ b && b ≤ 0x5a || 0x61 ≤ b && b ≤ 0x7a

def digitByte (b : UInt8) : Bool :=
  0x30 ≤ b && b ≤ 0x39

/-- The bytes of a scheme behind its first. -/
def schemeByte (b : UInt8) : Bool :=
  letterByte b || digitByte b || b ∈ ([0x2b, 0x2d, 0x2e] : Bytes)

/-- `getScheme`; `none` where it returns an error. -/
def getScheme (s : Bytes) : Option (Bytes × Bytes) :=
  let scheme := s.takeWhile schemeByte
  match s.dropWhile schemeByte with
  | 0x3a :: rest =>
      match scheme with
      | [] => none
      | first :: _ =>
          if letterByte first then some (scheme, rest) else some ([], s)
  | _ => some ([], s)

/-- The parts of a URL that are read of a link. -/
structure LinkUrl where
  scheme : Bytes := []
  host : Bytes := []
  rawQuery : Bytes := []
  fragment : Bytes := []
deriving DecidableEq

section Parse

variable (ipLiteral : Bytes → Bool)

/-- `parse`, of what stands before the fragment. -/
def parseBare (s : Bytes) : Option LinkUrl :=
  if s.any fun b => b < 0x20 || b = 0x7f then none
  else if s = [0x2a] then some {}
  else do
    let (scheme, rest) ← getScheme s
    -- A query that is empty is cut off all the same.
    let (rest, rawQuery) := cutByte 0x3f rest
    let url : LinkUrl :=
      { scheme := scheme.map lowerByte, rawQuery := rawQuery }
    if rest.head? ≠ some 0x2f then
      if scheme ≠ [] then some url
      else if 0x3a ∈ rest.takeWhile (· ≠ 0x2f) then none
      else (unescape .path rest).map fun _ => url
    else if ([0x2f, 0x2f].isPrefixOf rest) &&
        (scheme ≠ [] || !([0x2f, 0x2f, 0x2f].isPrefixOf rest)) then do
      let authority := rest.drop 2
      let host ← parseAuthority ipLiteral (authority.takeWhile (· ≠ 0x2f))
      let _ ← unescape .path (authority.dropWhile (· ≠ 0x2f))
      some { url with host := host }
    else (unescape .path rest).map fun _ => url

/-- `url.Parse`. -/
def parseUrl (s : Bytes) : Option LinkUrl := do
  let (bare, frag) := cutByte 0x23 s
  let url ← parseBare ipLiteral bare
  let fragment ← unescape .fragment frag
  some { url with fragment := fragment }

end Parse

namespace LinkUrl

/-- `splitHostPort`. -/
def splitHostPort (hostPort : Bytes) : Bytes × Bytes :=
  let (host, port) :=
    match cutLastByte 0x3a hostPort with
    | none => (hostPort, [])
    | some (host, port) =>
        if port.all digitByte then (host, port) else (hostPort, [])
  if host.head? = some 0x5b ∧ host.getLast? = some 0x5d then
    ((host.drop 1).dropLast, port)
  else (host, port)

/-- `Hostname`. -/
def hostname (url : LinkUrl) : Bytes :=
  (splitHostPort url.host).1

/-- `Port`. -/
def port (url : LinkUrl) : Bytes :=
  (splitHostPort url.host).2

end LinkUrl

/-- `url.QueryUnescape`. -/
def queryUnescape (s : Bytes) : Option Bytes :=
  unescape .path (s.map fun b => if b = 0x2b then 0x20 else b)

/-- A key and its value, and nothing where they cannot be read. -/
def queryPair (part : Bytes) : Option (Bytes × Bytes) :=
  if 0x3b ∈ part ∨ part = [] then none
  else do
    let (key, value) := cutByte 0x3d part
    let key ← queryUnescape key
    let value ← queryUnescape value
    some (key, value)

/-- `urlmaxqueryparams`. -/
def maxQueryParams : Nat := 10000

/-- `ParseQuery`, the error it may return aside. -/
def parseQuery (query : Bytes) : List (Bytes × Bytes) :=
  if maxQueryParams < query.count 0x26 + 1 then []
  else (query.splitOn 0x26).filterMap queryPair

/-- `Query().Get`. -/
def queryGet (query : List (Bytes × Bytes)) (key : Bytes) : Bytes :=
  (query.lookup key).getD []

/-- The number that decimal digits write. -/
def digitsValue (digits : Bytes) : Nat :=
  digits.foldl (fun n b => n * 10 + (b.toNat - 0x30)) 0

/-- `strconv.Atoi`; `none` where it returns an error. -/
def atoi (s : Bytes) : Option Int :=
  let negative := s.head? = some 0x2d
  let digits := if negative ∨ s.head? = some 0x2b then s.drop 1 else s
  if digits = [] ∨ digits.all digitByte = false then none
  else if negative then
    if digitsValue digits ≤ 2 ^ 63 then some (-(digitsValue digits : Int))
    else none
  else if digitsValue digits < 2 ^ 63 then some (digitsValue digits)
  else none

end Go

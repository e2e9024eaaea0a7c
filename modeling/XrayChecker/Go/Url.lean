import XrayChecker.Go.Utf8

/-
`url.Parse` on `http` and `https` URLs: the host and the path.
-/

namespace Go

/-- `unhex`, where `ishex` holds. -/
def hexValue (b : UInt8) : Option UInt8 :=
  if 0x30 ≤ b ∧ b ≤ 0x39 then some (b - 0x30)
  else if 0x61 ≤ b ∧ b ≤ 0x66 then some (b - 0x61 + 10)
  else if 0x41 ≤ b ∧ b ≤ 0x46 then some (b - 0x41 + 10)
  else none

/-- The parts of a URL that are unescaped. -/
inductive UrlEncoding where
  | host | zone | path | userPassword | fragment
deriving DecidableEq

/-- The bytes that stand for themselves in a host. -/
def hostByte (b : UInt8) : Bool :=
  0x30 ≤ b && b ≤ 0x39 || 0x41 ≤ b && b ≤ 0x5a || 0x61 ≤ b && b ≤ 0x7a ||
    b ∈ encode "-_.~!$&'()*+,;=:[]<>\""

/-- The bytes an escape may stand for. -/
def UrlEncoding.escapes (encoding : UrlEncoding) (b : UInt8) : Bool :=
  match encoding with
  | .host => 0x80 ≤ b || b = 0x25
  | .zone => b = 0x25 || b = 0x20 || hostByte b
  | _ => true

/-- The bytes that may stand without an escape. -/
def UrlEncoding.plain (encoding : UrlEncoding) (b : UInt8) : Bool :=
  match encoding with
  | .host => 0x80 ≤ b || hostByte b
  | .zone => 0x80 ≤ b || hostByte b
  | _ => true

/-- `unescape`; `none` where it returns an error. -/
def unescape (encoding : UrlEncoding) : Bytes → Option Bytes
  | [] => some []
  | b :: rest =>
      if b = 0x25 then
        match rest with
        | high :: low :: rest =>
            match hexValue high, hexValue low with
            | some high, some low =>
                if encoding.escapes (high * 16 + low) then
                  (unescape encoding rest).map ((high * 16 + low) :: ·)
                else none
            | _, _ => none
        | _ => none
      else if encoding.plain b then (unescape encoding rest).map (b :: ·)
      else none

/-- `strings.Cut`, at a byte. -/
def cutByte (separator : UInt8) (s : Bytes) : Bytes × Bytes :=
  (s.takeWhile (· ≠ separator), (s.dropWhile (· ≠ separator)).drop 1)

/-- The bytes before and after the last `separator`. -/
def cutLastByte (separator : UInt8) (s : Bytes) : Option (Bytes × Bytes) :=
  if separator ∈ s then
    let after := (s.reverse.takeWhile (· ≠ separator)).reverse
    some (s.take (s.length - after.length - 1), after)
  else none

def validOptionalPort : Bytes → Bool
  | [] => true
  | b :: rest => b = 0x3a && rest.all fun digit => 0x30 ≤ digit && digit ≤ 0x39

def userinfoByte (b : UInt8) : Bool :=
  0x30 ≤ b && b ≤ 0x39 || 0x41 ≤ b && b ≤ 0x5a || 0x61 ≤ b && b ≤ 0x7a ||
    b ∈ encode "-._:~!$&'()*+,;=%@"

/-- The zone of an IP literal starts with `%25`. -/
def cutZone : Bytes → Bytes × Bytes
  | [] => ([], [])
  | b :: rest =>
      if (encode "%25").isPrefixOf (b :: rest) then ([], b :: rest)
      else
        let (address, zone) := cutZone rest
        (b :: address, zone)

section Parse

/- `ipLiteral` stands for the addresses `netip.ParseAddr` takes, other than
IPv4. -/
variable (ipLiteral : Bytes → Bool)

/-- `parseHost`, of an `http` or `https` URL. -/
def parseHost (host : Bytes) : Option Bytes :=
  if 0x5b ∈ host then
    match host with
    | 0x5b :: inside =>
        if 0x5b ∈ inside then none
        else
          match cutLastByte 0x5d inside with
          | none => none
          | some (hostname, colonPort) =>
              if validOptionalPort colonPort then do
                let colonPort ← unescape .host colonPort
                let (address, zone) := cutZone hostname
                let address ← unescape .host address
                let zone ← unescape .zone zone
                if ipLiteral (address ++ zone) then
                  some (0x5b :: address ++ zone ++ 0x5d :: colonPort)
                else none
              else none
    | _ => none
  else if validOptionalPort (host.dropWhile (· ≠ 0x3a)) then unescape .host host
  else none

/-- `parseAuthority`, without the user it finds. -/
def parseAuthority (authority : Bytes) : Option Bytes :=
  match cutLastByte 0x40 authority with
  | none => parseHost ipLiteral authority
  | some (userinfo, host) => do
      let host ← parseHost ipLiteral host
      if userinfo.all userinfoByte then
        let _ ← unescape .userPassword userinfo
        some host
      else none

/-- The parts of a parsed URL that are looked at. -/
structure Url where
  scheme : Bytes
  host : Bytes
  path : Bytes
deriving DecidableEq

/-- What follows the scheme and `://`. -/
def parseRest (scheme rest : Bytes) : Option Url :=
  let (u, frag) := cutByte 0x23 rest
  let (hierarchical, _) := cutByte 0x3f u
  if u.any fun b => b < 0x20 || b = 0x7f then none
  else do
    let host ← parseAuthority ipLiteral (hierarchical.takeWhile (· ≠ 0x2f))
    let path ← unescape .path (hierarchical.dropWhile (· ≠ 0x2f))
    let _ ← unescape .fragment frag
    some { scheme := scheme, host := host, path := path }

/-- `url.Parse`, of what starts with `http://` or `https://`. -/
def parseHttp (value : Bytes) : Option Url :=
  if (encode "http://").isPrefixOf value then
    parseRest ipLiteral (encode "http") (value.drop 7)
  else if (encode "https://").isPrefixOf value then
    parseRest ipLiteral (encode "https") (value.drop 8)
  else none

end Parse

end Go

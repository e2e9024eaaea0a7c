import XrayChecker.Go.Map

/-
One node of a subscription, and the identity derived from its connection
settings.
-/

namespace XrayChecker

open Go

/-- The fields of `ProxyConfig` that take no part in an identity.  `Settings`
is its entries in key order, and nil where there are none. -/
structure ConnectionOptions where
  flow : Text := []
  encryption : Text := []
  headerType : Text := []
  path : Text := []
  host : Text := []
  fingerprint : Text := []
  shortID : Text := []
  mode : Text := []
  level : Int := 0
  alterId : Int := 0
  vmessAid : Int := 0
  multiMode : Bool := false
  serviceName : Text := []
  idleTimeout : Int := 0
  windowsSize : Int := 0
  allowInsecure : Bool := false
  alpn : Option (List Text) := none
  settings : Option (List (Text × Text)) := none
  rawXhttpSettings : Text := []
  groupName : Text := []
deriving DecidableEq

structure ProxyConfig extends ConnectionOptions where
  protocol : Text := []
  server : Text := []
  port : Int := 0
  name : Text := []
  security : Text := []
  type : Text := []
  uuid : Text := []
  password : Text := []
  method : Text := []
  sni : Text := []
  publicKey : Text := []
  index : Int := 0
  stableID : Text := []
  subName : Text := []
  sourceID : Text := []
deriving DecidableEq

namespace ProxyConfig

/-- An optional component of the identity, left out when it is empty. -/
def optionalComponent (value : Text) : List Text :=
  if value = [] then [] else [value]

/-- The components `GenerateStableID` joins and hashes. -/
def idComponents (pc : ProxyConfig) : List Text :=
  [pc.protocol, pc.server, itoaInt pc.port] ++
    (if pc.protocol = "vless" ∨ pc.protocol = "vmess" then
      optionalComponent pc.uuid
    else if pc.protocol = "trojan" ∨ pc.protocol = "shadowsocks" then
      optionalComponent pc.password ++
        (if pc.protocol = "shadowsocks" then optionalComponent pc.method
        else [])
    else []) ++
    optionalComponent pc.sni ++ optionalComponent pc.type ++
    optionalComponent pc.security ++ optionalComponent pc.publicKey

/-- `GenerateStableID`; `digest` stands for the first 16 hex digits of the
SHA-256 sum. -/
def generateStableID (digest : Text → Text) (pc : ProxyConfig) : Text :=
  digest (join pc.idComponents "|")

/-- The identity of a node: the one it carries, or the generated one. -/
def effectiveStableID (digest : Text → Text) (pc : ProxyConfig) : Text :=
  if pc.stableID = [] then pc.generateStableID digest else pc.stableID

/-- A node that is given its own identity keeps it. -/
@[simp] theorem effectiveStableID_fill (digest : Text → Text)
    (pc : ProxyConfig) :
    ({ pc with stableID := pc.effectiveStableID digest } :
      ProxyConfig).effectiveStableID digest = pc.effectiveStableID digest := by
  by_cases hempty : pc.effectiveStableID digest = []
  · by_cases hid : pc.stableID = []
    · simp only [effectiveStableID, hid, ↓reduceIte] at hempty ⊢
      simp only [hempty, ↓reduceIte]
      exact hempty
    · simp [effectiveStableID, hid] at hempty
  · rw [effectiveStableID, if_neg hempty]

/-- `server:port`. -/
def address (pc : ProxyConfig) : Text :=
  pc.server ++ ":" ++ itoaInt pc.port

end ProxyConfig

end XrayChecker

import XrayChecker.Diagnostics.Types
import XrayChecker.Go.Bytes

/-
The wire protocol of the probe agents: the requests, what their signatures
cover, and the texts the controller lets in.
-/

namespace XrayChecker.Probeagent

open Go

def protocolVersion : Int := 1
def heartbeatPath : Text := "/api/v1/agent/heartbeat"
def jobPollPath : Text := "/api/v1/agent/jobs/next"
def observationPath : Text := "/api/v1/agent/observations"
def maxExecutionConfigBytes : Nat := 512 * 1024

/-- `ed25519.PublicKeySize`. -/
def publicKeySize : Nat := 32

/-- `ed25519.SignatureSize`. -/
def signatureSize : Nat := 64

/-- `sha256.Size`. -/
def sha256Size : Nat := 32

/-- Keys, digests and signatures are kept as bytes; the records and the headers
spell them in hex or base64. -/
structure EnrollRequest where
  protocolVersion : Int
  agentID : Text
  enrollmentToken : Text
  identityPublicKey : Bytes
  observationPublicKey : Bytes
  agentVersion : Text
  capabilities : List Text
deriving DecidableEq

structure HeartbeatRequest where
  protocolVersion : Int
  agentID : Text
  agentVersion : Text
  capabilities : List Text
  health : Text
deriving DecidableEq

structure ControlRequest where
  protocolVersion : Int
  agentID : Text
deriving DecidableEq

/-- What an agent is handed to run: the job, and the credential-bearing
material kept out of it. -/
structure JobAssignment where
  job : Diagnostics.DiagnosticJob
  xrayConfig : Bytes
  socksPort : Int
  targetHost : Text
  targetPort : Int
  targetSNI : Text := []
deriving DecidableEq

/-- `controlSignatureEnvelope`.  `json.Marshal` writes its fields one after
another under their names, so that the envelope stands for its text. -/
structure ControlSignatureEnvelope where
  method : Text
  path : Text
  agentID : Text
  timestamp : Time
  sequence : Nat
  bodySHA256 : Bytes
deriving DecidableEq

/-- Ed25519, assumed unforgeable: a signature that verifies was made with the
key over the message, and every signature is made once. -/
structure Ed25519 where
  verify : Bytes → ControlSignatureEnvelope → Bytes → Bool
  signer : Bytes → Option (Bytes × ControlSignatureEnvelope)
  unforgeable : ∀ {key message signature},
    verify key message signature = true → signer signature = some (key, message)

/-- What the registry takes from the standard library without looking inside:
`netip` addresses, the tests on `url.Parse`, SHA-256 of a text and of a body,
and the JSON bodies of the three control requests, of an observation the
agent it names. -/
structure Primitives (Addr : Type) where
  parseAddr : Text → Option Addr
  unmap : Addr → Addr
  addrText : Addr → Text
  httpsURL : Text → Bool
  tokenDigest : Text → Bytes
  bodyDigest : Bytes → Bytes
  decodeHeartbeat : Bytes → Option HeartbeatRequest
  decodeControl : Bytes → Option ControlRequest
  decodeObservation : Bytes → Option Text
  ed25519 : Ed25519

/-- `ControlSigningPayload`; `none` is an incomplete binding.  The method is
one of the upper-case names the handlers let through. -/
def controlSigningPayload {Addr : Type} (primitives : Primitives Addr)
    (method path agentID : Text) (timestamp : Time) (sequence : Nat)
    (body : Bytes) : Option ControlSignatureEnvelope :=
  let method := trimSpace method
  let path := trimSpace path
  let agentID := trimSpace agentID
  if method = [] ∨ path = [] ∨ agentID = [] ∨ timestamp.isZero ∨
      sequence = 0 then none
  else
    some ⟨method, path, agentID, timestamp, sequence,
      primitives.bodyDigest body⟩

/-- `validShortText`, and with a limit of 80 `validDisplayName`. -/
def validShortText (value : Text) (max : Nat) : Bool :=
  let value := trimSpace value
  value ≠ [] && runeCount value ≤ max &&
    !containsAny value ['\r', '\n', Char.ofNat 0]

def validDisplayName (value : Text) : Bool :=
  validShortText value 80

/-- The runes of an identifier. -/
def isIdentifierRune (c : Char) : Bool :=
  ('a' ≤ c && c ≤ 'z') || ('A' ≤ c && c ≤ 'Z') || ('0' ≤ c && c ≤ '9') ||
    c == '-' || c == '_' || c == '.' || c == ':'

def validIdentifier (value : Text) (max : Nat) : Bool :=
  value ≠ [] && byteLen value ≤ max && value.all isIdentifierRune

def validHealth (value : Text) : Bool :=
  [("healthy" : Text), "degraded", "unhealthy", "starting"].elem value

/-- `normalizeCapabilities`. -/
def normalizeCapabilities (values : List Text) : List Text :=
  let kept := values.foldl
    (fun result raw =>
      let value := trimSpace raw
      if !validIdentifier value 64 || result.elem value then result
      else result ++ [value])
    []
  (sortStrings kept).take 16

end XrayChecker.Probeagent

import XrayChecker.Go.Decimal
import XrayChecker.Go.Map
import XrayChecker.Go.Time

/-
The isolated diagnostic schema: sessions, their jobs, and the observations of
the agents.  The evidence no controller code reads (throughput, latency
series, stability, TLS and DNS answers) is left out of an observation.
-/

namespace XrayChecker.Diagnostics

open Go

def sessionSchemaVersion : Int := 2
def jobSchemaVersion : Int := 1
def observationSchemaVersion : Int := 2
def maxObservationSignatureBytes : Nat := 512

inductive ErrorKind where
  | invalidSchema
  | invalidRequest
  | capacity
  | unknownSession
  | unknownJob
  | duplicateJob
  | invalidSignature
  | staleObservation
  | staleGeneration
  | bindingMismatch
  | replayObservation
  | duplicateObservation
  | sessionExpired
  | sessionCancelled
  | invalidTransition
  /-- An error of another package, which `detail` spells. -/
  | foreign
deriving DecidableEq

def ErrorKind.text : ErrorKind → Text
  | .invalidSchema => "invalid diagnostic schema"
  | .invalidRequest => "invalid diagnostic request"
  | .capacity => "diagnostic session capacity reached"
  | .unknownSession => "unknown diagnostic session"
  | .unknownJob => "unknown diagnostic job"
  | .duplicateJob => "diagnostic job already exists for agent"
  | .invalidSignature => "invalid observation signature"
  | .staleObservation => "stale observation"
  | .staleGeneration => "stale configuration generation"
  | .bindingMismatch => "observation binding mismatch"
  | .replayObservation => "replayed observation"
  | .duplicateObservation => "duplicate observation"
  | .sessionExpired => "diagnostic session expired"
  | .sessionCancelled => "diagnostic session cancelled"
  | .invalidTransition => "invalid diagnostic state transition"
  | .foreign => []

/-- What `errors.Is` finds of an error, and what `%w` is followed by. -/
structure DiagnosticError where
  kind : ErrorKind
  detail : Text := []
deriving DecidableEq

def DiagnosticError.text (error : DiagnosticError) : Text :=
  if error.kind = .foreign then error.detail
  else if error.detail = [] then error.kind.text
  else error.kind.text ++ ": " ++ error.detail

/-- `Trigger`; `other` is any text that is none of the constants. -/
inductive Trigger where
  | manual
  | autoProxyFailure
  | autoOffline
  | autoCheckEndpoint
  | autoAmbiguousFailure
  | autoSpeedFallback
  | reachabilitySweep
  | other (value : Text)
deriving DecidableEq

def Trigger.automatic (t : Trigger) : Bool :=
  t ≠ .manual

inductive SessionState where
  | requested
  | dispatching
  | running
  | completed
  | partiallyCompleted
  | expired
  | cancelled
deriving DecidableEq

def SessionState.terminal : SessionState → Bool
  | .completed | .partiallyCompleted | .expired | .cancelled => true
  | .requested | .dispatching | .running => false

inductive JobState where
  | pending
  | dispatched
  | running
  | completed
  | expired
  | cancelled
deriving DecidableEq

def JobState.terminal : JobState → Bool
  | .completed | .expired | .cancelled => true
  | .pending | .dispatched | .running => false

/-- `ProbeStatus`; `other` is any text that is none of the constants. -/
inductive ProbeStatus where
  | unknown
  | online
  | proxyFailure
  | offline
  | other (value : Text)
deriving DecidableEq

/-- `ProbeMethod`; `other` is any text that is none of the constants. -/
inductive ProbeMethod where
  | ip
  | status
  | download
  | latency
  | stability
  | tls
  | dns
  | other (value : Text)
deriving DecidableEq

def ProbeMethod.text : ProbeMethod → Text
  | .ip => "ip"
  | .status => "status"
  | .download => "download"
  | .latency => "latency"
  | .stability => "stability"
  | .tls => "tls"
  | .dns => "dns"
  | .other value => value

def ProbeMethod.valid : ProbeMethod → Bool
  | .other _ => false
  | _ => true

def ProbeMethod.tunnelled : ProbeMethod → Bool
  | .ip | .status | .download | .latency | .stability => true
  | .tls | .dns | .other _ => false

/-- `FailureStage`; `absent` is the empty text, `other` any further one. -/
inductive FailureStage where
  | absent
  | configuration
  | xrayStart
  | proxy
  | tcp
  | ping
  | direct
  | endpoint
  | dns
  | tls
  | other (value : Text)
deriving DecidableEq

structure FailureEvidence where
  code : Text := []
  stage : FailureStage := .absent
deriving DecidableEq

structure CheckEvidence where
  checked : Bool := false
  online : Bool := false
  latencyMillis : Int := 0
  failureCode : Text := []
deriving DecidableEq

structure LocalResultSnapshot where
  status : ProbeStatus
  checkedAt : Time := 0
  latencyMillis : Int := 0
  failure : FailureEvidence := {}
  tcp : CheckEvidence := {}
  ping : CheckEvidence := {}
deriving DecidableEq

structure AutomationContext where
  kind : Text := []
  outcome : Text := []
  source : Text := []
  thresholdMbps : Rat := 0
  observedMbps : Rat := 0
  fallbackAttempts : Int := 0
  measuredBytes : Int := 0
  speedServerID : Text := []
deriving DecidableEq

def automationKindSpeedFallback : Text := "speed_fallback"
def automationOutcomeTechnical : Text := "technical_error"
def automationOutcomeLowSpeed : Text := "low_speed"
def automationKindProxyFailure : Text := "proxy_failure"
def automationKindOffline : Text := "offline"
def automationSourceAvailability : Text := "availability"

def proxyFailureAutomationContext : AutomationContext :=
  { kind := automationKindProxyFailure, source := automationSourceAvailability }

def offlineAutomationContext : AutomationContext :=
  { kind := automationKindOffline, source := automationSourceAvailability }

def minProfileDownloadBytes : Int := 1000000
def maxProfileDownloadBytes : Int := 200000000

/-- `ProfileDownloadBytes`. -/
def profileDownloadBytes (bytes : Int) : Option Int :=
  if bytes < minProfileDownloadBytes ∨ bytes > maxProfileDownloadBytes then
    none
  else some bytes

structure TestProfile where
  id : Text
  method : ProbeMethod
  alternativeProfileID : Text := []
  downloadBytes : Int := 0
  serverID : Text := []
deriving DecidableEq

structure DiagnosticJob where
  schemaVersion : Int
  jobID : Text
  sessionID : Text
  agentID : Text
  nonce : Text
  stableID : Text
  configGeneration : Nat
  configFingerprint : Text
  profile : TestProfile
  createdAt : Time
  expiresAt : Time
  state : JobState
deriving DecidableEq

structure AlternativeEndpointObservation where
  profileID : Text
  status : ProbeStatus
  latencyMillis : Int := 0
  failure : FailureEvidence := {}
deriving DecidableEq

structure Observation where
  schemaVersion : Int
  agentID : Text
  sessionID : Text
  jobID : Text
  nonce : Text
  stableID : Text
  configGeneration : Nat
  configFingerprint : Text
  checkedAt : Time
  durationMillis : Int := 0
  endpointProfile : Text
  status : ProbeStatus
  latencyMillis : Int := 0
  failure : FailureEvidence := {}
  tcp : CheckEvidence := {}
  ping : CheckEvidence := {}
  directConnectivity : CheckEvidence := {}
  alternativeEndpoint : Option AlternativeEndpointObservation := none
  agentVersion : Text := []
  speedServerID : Text := []
  signature : List UInt8 := []
deriving DecidableEq

structure AcceptedObservation where
  observation : Observation
  acceptedAt : Time
  reliable : Bool
deriving DecidableEq

structure DiagnosticSession where
  schemaVersion : Int := sessionSchemaVersion
  sessionID : Text
  stableID : Text
  trigger : Trigger
  configGeneration : Nat
  configFingerprint : Text
  localResultSnapshot : LocalResultSnapshot
  automationContext : AutomationContext
  requestedAgents : List Text
  jobs : List DiagnosticJob := []
  agentObservations : List AcceptedObservation := []
  maintenanceDiagnostic : Bool
  createdAt : Time
  expiresAt : Time
  state : SessionState := .requested
deriving DecidableEq

structure CreateSessionRequest where
  stableID : Text
  trigger : Trigger
  configGeneration : Nat
  configFingerprint : Text
  localResultSnapshot : LocalResultSnapshot
  automationContext : AutomationContext := {}
  requestedAgents : List Text
  maintenanceDiagnostic : Bool := false
  expiresAt : Time := 0

structure RegisterJobRequest where
  sessionID : Text
  agentID : Text
  profile : TestProfile
  expiresAt : Time := 0

/-- What the signature of an observation covers: every field but itself. -/
def Observation.unsigned (observation : Observation) : Observation :=
  { observation with signature := [] }

end XrayChecker.Diagnostics

import XrayChecker.Diagnostics.Profiles

/-
What the session manager accepts: the shape of requests, profiles, local
results and observations.
-/

namespace XrayChecker.Diagnostics

open Go

/-- A refusal of a malformed request. -/
def invalidRequest (detail : Text) : Except DiagnosticError Unit :=
  .error ⟨.invalidRequest, detail⟩

/-- The runes of an identity. -/
def isTokenRune (c : Char) : Bool :=
  ('a' ≤ c && c ≤ 'z') || ('A' ≤ c && c ≤ 'Z') || ('0' ≤ c && c ≤ '9') ||
    c == '-' || c == '_' || c == '.' || c == ':'

theorem toNat_of_isTokenRune {c : Char} (h : isTokenRune c = true) :
    45 ≤ c.toNat ∧ c.toNat ≤ 122 := by
  simp only [isTokenRune, Bool.or_eq_true, Bool.and_eq_true,
    decide_eq_true_eq, beq_iff_eq] at h
  rcases h with (((((h | h) | h) | rfl) | rfl) | rfl) | rfl
  · exact ⟨le_trans (by decide) (UInt32.le_iff_toNat_le.mp h.1),
      le_trans (UInt32.le_iff_toNat_le.mp h.2) (by decide)⟩
  · exact ⟨le_trans (by decide) (UInt32.le_iff_toNat_le.mp h.1),
      le_trans (UInt32.le_iff_toNat_le.mp h.2) (by decide)⟩
  · exact ⟨le_trans (by decide) (UInt32.le_iff_toNat_le.mp h.1),
      le_trans (UInt32.le_iff_toNat_le.mp h.2) (by decide)⟩
  · decide
  · decide
  · decide
  · decide

theorem isSpace_of_isTokenRune {c : Char} (h : isTokenRune c = true) :
    isSpace c = false := by
  obtain ⟨hlow, hhigh⟩ := toNat_of_isTokenRune h
  simp only [isSpace, Bool.or_eq_false_iff, Bool.and_eq_false_iff,
    decide_eq_false_iff_not, beq_eq_false_iff_ne]
  omega

/-- `validSafeValue`. -/
def validSafeValue (value : Text) (maxLength : Nat) : Bool :=
  !value.isEmpty && byteLen value ≤ maxLength && value.all isTokenRune

def validToken (value : Text) : Bool :=
  validSafeValue value 128

def validProfileID (value : Text) : Bool :=
  validSafeValue value 64

/-- A digit `hex.DecodeString` reads. -/
def isHexDigit (c : Char) : Bool :=
  ('0' ≤ c && c ≤ '9') || ('a' ≤ c && c ≤ 'f') || ('A' ≤ c && c ≤ 'F')

def validFingerprint (value : Text) : Bool :=
  hasPrefix value "sha256:" && byteLen value == 7 + 64 &&
    (value.drop 7).all isHexDigit && value == toLower value

def validFailureCode (value : Text) : Bool :=
  [("configuration" : Text), "dns", "tcp_refused", "tcp_timeout",
    "host_unreachable", "network_unreachable", "proxy_handshake",
    "proxy_timeout", "tls", "tls_timeout", "tls_reset", "tls_eof", "tls_alert",
    "tls_failed", "dns_mismatch", "dns_literal_address", "http_status",
    "source_ip_unchanged", "download_incomplete", "check_endpoint",
    "unknown"].elem value

def validFailureStage : FailureStage → Bool
  | .configuration | .xrayStart | .proxy | .tcp | .ping | .direct
  | .endpoint => true
  | .absent | .dns | .tls | .other _ => false

def validateCheckEvidence (evidence : CheckEvidence) :
    Except DiagnosticError Unit :=
  if evidence.latencyMillis < 0 then invalidRequest []
  else if !evidence.checked then
    if evidence.online || evidence.latencyMillis ≠ 0 ||
        evidence.failureCode ≠ [] then invalidRequest []
    else .ok ()
  else if evidence.online then
    if evidence.failureCode ≠ [] then invalidRequest [] else .ok ()
  else if !validFailureCode evidence.failureCode then invalidRequest []
  else .ok ()

def validateProbeResult (status : ProbeStatus) (failure : FailureEvidence) :
    Except DiagnosticError Unit :=
  match status with
  | .online =>
      if failure.code ≠ [] ∨ failure.stage ≠ .absent then
        invalidRequest "online result cannot contain failure"
      else .ok ()
  | .proxyFailure | .offline =>
      if !validFailureCode failure.code || !validFailureStage failure.stage then
        invalidRequest "failed result requires classified failure"
      else .ok ()
  | .unknown | .other _ => invalidRequest "invalid probe status"

/-- The loop over the pieces of evidence of one report. -/
def validateEvidence (refusal : Text) :
    List CheckEvidence → Except DiagnosticError Unit
  | [] => .ok ()
  | evidence :: rest =>
      match validateCheckEvidence evidence with
      | .error _ => invalidRequest refusal
      | .ok () => validateEvidence refusal rest

/-- What `validateLocalResultSnapshot` asks of the status and the failure. -/
def validateLocalStatus (snapshot : LocalResultSnapshot) :
    Except DiagnosticError Unit :=
  match snapshot.status with
  | .unknown =>
      if (snapshot.failure.code ≠ [] ∨ snapshot.failure.stage ≠ .absent) ∧
          ¬(validFailureCode snapshot.failure.code ∧
            validFailureStage snapshot.failure.stage) then
        invalidRequest "invalid local failure classification"
      else .ok ()
  | .online | .proxyFailure | .offline =>
      if snapshot.checkedAt.isZero then
        invalidRequest "checkedAt is required for a known local result"
      else validateProbeResult snapshot.status snapshot.failure
  | .other _ => invalidRequest "invalid local probe status"

def validateLocalResultSnapshot (snapshot : LocalResultSnapshot) :
    Except DiagnosticError Unit :=
  if snapshot.latencyMillis < 0 then
    invalidRequest "local latency cannot be negative"
  else do
    validateLocalStatus snapshot
    validateEvidence "invalid local connectivity evidence"
      [snapshot.tcp, snapshot.ping]

/-- The first field that is not a token is refused.  Go visits the fields in
no fixed order. -/
def validateTokens : List (Text × Text) → Except DiagnosticError Unit
  | [] => .ok ()
  | (name, value) :: rest =>
      if !validToken value then invalidRequest (name ++ " is invalid")
      else validateTokens rest

/-- The fields of an observation that have to be tokens. -/
def Observation.tokens (observation : Observation) : List (Text × Text) :=
  [("agentId", observation.agentID), ("sessionId", observation.sessionID),
    ("jobId", observation.jobID), ("nonce", observation.nonce),
    ("stableId", observation.stableID),
    ("endpointProfile", observation.endpointProfile),
    ("agentVersion", observation.agentVersion)]

def validateAlternative :
    Option AlternativeEndpointObservation → Except DiagnosticError Unit
  | none => .ok ()
  | some alternative =>
      if !validProfileID alternative.profileID ||
          alternative.latencyMillis < 0 then
        invalidRequest "invalid alternative endpoint result"
      else validateProbeResult alternative.status alternative.failure

def validateObservation (observation : Observation) :
    Except DiagnosticError Unit :=
  if observation.schemaVersion ≠ observationSchemaVersion then
    .error { kind := .invalidSchema }
  else do
    validateTokens observation.tokens
    if !validFingerprint observation.configFingerprint then
      invalidRequest "config fingerprint must be sha256"
    else if observation.checkedAt.isZero || observation.durationMillis < 0 ||
        observation.latencyMillis < 0 then
      invalidRequest "invalid observation timing"
    else if observation.signature.isEmpty ||
        maxObservationSignatureBytes < observation.signature.length then
      .error ⟨.invalidSignature, "signature is required"⟩
    else if !observation.directConnectivity.checked then
      invalidRequest "direct connectivity control is required"
    else do
      validateProbeResult observation.status observation.failure
      validateEvidence "invalid connectivity evidence"
        [observation.tcp, observation.ping, observation.directConnectivity]
      validateAlternative observation.alternativeEndpoint
      if observation.speedServerID ≠ [] ∧
          !validSpeedServerID observation.speedServerID then
        invalidRequest "unknown speed-test server"
      else .ok ()

/-- `validateObservationTime`; the durations are those of the manager. -/
def validateObservationTime (checkedAt now jobCreatedAt jobExpiresAt : Time)
    (maxAge clockSkew : Int) : Except DiagnosticError Unit :=
  let stale : Except DiagnosticError Unit :=
    .error { kind := .staleObservation }
  if (checkedAt : Int) < now - maxAge ∨ (checkedAt : Int) > now + clockSkew then
    stale
  else if (checkedAt : Int) < jobCreatedAt - clockSkew ∨
      (checkedAt : Int) > jobExpiresAt + clockSkew then
    stale
  else .ok ()

def validateProfile (profile : TestProfile) : Except DiagnosticError Unit :=
  if !validProfileID profile.id then invalidRequest "profile ID is invalid"
  else if !profile.method.valid then
    -- `%q` also escapes quotes and control runes, which no method has.
    invalidRequest
      ("unsupported probe method \"" ++ profile.method.text ++ "\"")
  else if profile.alternativeProfileID ≠ [] ∧
      (!validProfileID profile.alternativeProfileID ∨
        profile.alternativeProfileID = profile.id) then
    invalidRequest "alternative profile ID is invalid"
  else if profile.downloadBytes ≠ 0 ∧ profile.method ≠ .download then
    invalidRequest "only a download probe may be given a transfer size"
  else if profile.downloadBytes ≠ 0 ∧
      (profileDownloadBytes profile.downloadBytes).isNone then
    invalidRequest "requested transfer size is out of range"
  else if profile.serverID ≠ [] ∧ profile.method ≠ .download then
    invalidRequest "only a download probe may be given a speed-test server"
  else if profile.serverID ≠ [] ∧ !validSpeedServerID profile.serverID then
    invalidRequest "unknown speed-test server"
  else .ok ()

/-- The automation context a trigger has to come with. -/
def validateAutomationContext (trigger : Trigger)
    (context : AutomationContext) : Except DiagnosticError Unit :=
  match trigger with
  | .autoSpeedFallback =>
      if context.kind ≠ automationKindSpeedFallback ∨
          (context.outcome ≠ automationOutcomeTechnical ∧
            context.outcome ≠ automationOutcomeLowSpeed) ∨
          !validToken context.source ∨ context.thresholdMbps < 0 ∨
          context.observedMbps < 0 ∨ context.measuredBytes < 0 ∨
          context.fallbackAttempts < 0 ∨
          (context.speedServerID ≠ [] ∧
            !validSpeedServerID context.speedServerID) then
        invalidRequest "invalid speed fallback automation context"
      else .ok ()
  | .autoProxyFailure =>
      if context ≠ proxyFailureAutomationContext then
        invalidRequest "invalid proxy failure automation context"
      else .ok ()
  | .autoOffline =>
      if context ≠ offlineAutomationContext then
        invalidRequest "invalid offline automation context"
      else .ok ()
  | _ =>
      if context ≠ {} then
        invalidRequest "automation context does not match trigger"
      else .ok ()

def validateTrigger : Trigger → Except DiagnosticError Unit
  | .other _ => invalidRequest "unsupported trigger"
  | _ => .ok ()

/-- The deadline of a session, where one is asked for. -/
def validateSessionExpiry (expiresAt now : Time) (maxTTL : Int) :
    Except DiagnosticError Unit :=
  if expiresAt.isZero then .ok ()
  else if expiresAt ≤ now ∨ (expiresAt : Int) > now + maxTTL then
    invalidRequest "session expiry exceeds configured TTL"
  else .ok ()

def validateCreateSessionRequest (request : CreateSessionRequest) (now : Time)
    (maxTTL : Int) (maxAgents : Int) : Except DiagnosticError Unit :=
  if !validToken request.stableID then invalidRequest "stableId is required"
  else do
    validateTrigger request.trigger
    if request.maintenanceDiagnostic && request.trigger.automatic then
      invalidRequest "maintenance diagnostics must be manual"
    else do
      validateAutomationContext request.trigger request.automationContext
      if !validFingerprint request.configFingerprint then
        invalidRequest "config fingerprint must be sha256"
      else if request.requestedAgents.isEmpty then
        invalidRequest "at least one agent is required"
      else if (request.requestedAgents.length : Int) > maxAgents then
        invalidRequest "requested agents exceed configured limit"
      else do
        validateLocalResultSnapshot request.localResultSnapshot
        validateSessionExpiry request.expiresAt now maxTTL

/-- `normalizedAgentIDs`. -/
def normalizedAgentIDs (agentIDs : List Text) :
    Except DiagnosticError (List Text) :=
  agentIDs.foldlM
    (fun result rawAgentID =>
      let agentID := trimSpace rawAgentID
      if !validToken agentID then .error ⟨.invalidRequest, "agentId is invalid"⟩
      else if result.elem agentID then .ok result
      else .ok (result ++ [agentID]))
    []

end XrayChecker.Diagnostics

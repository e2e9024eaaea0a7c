import XrayChecker.Probeagent.Protocol

/-
The registry of the probe agents: one record an agent, kept in memory and in
one file that every change writes anew.  A change that cannot be written is
taken back.
-/

namespace XrayChecker.Probeagent

open Go

def registryVersion : Int := 1
def defaultEnrollmentTTL : Int := minutes 15
def defaultHeartbeatIntervalSec : Int := 30
def defaultHeartbeatMaxSkew : Int := minutes 2

inductive RegistryError where
  | disabled
  | invalidAgent (detail : Text)
  | agentNotFound
  | agentRevoked
  | agentNotRevoked
  | sourceIPMismatch
  | enrollmentExpired
  | enrollmentUsed
  | invalidEnrollment
  | agentNotEnrolled
  | invalidControlRequest
  | controlReplay
  /-- The random generator or the file system failed. -/
  | failed (text : Text)
deriving DecidableEq

structure AgentRecord where
  agentID : Text
  displayName : Text
  expectedSourceIP : Text
  controllerIP : Text
  controllerURL : Text
  region : Text := []
  provider : Text := []
  networkGroup : Text := []
  enabled : Bool
  createdAt : Time
  updatedAt : Time
  enrollmentExpiresAt : Time := 0
  enrollmentUsedAt : Time := 0
  enrollmentTokenHash : Bytes := []
  identityPublicKey : Bytes := []
  observationPublicKey : Bytes := []
  enrolledAt : Time := 0
  lastSeenAt : Time := 0
  lastSequence : Nat := 0
  agentVersion : Text := []
  capabilities : List Text := []
  health : Text := []
  revokedAt : Time := 0
deriving DecidableEq

structure RegistryFile where
  version : Int := registryVersion
  updatedAt : Time := 0
  agents : GoMap Text AgentRecord := ∅

structure AgentSnapshot where
  agentID : Text
  displayName : Text := []
  expectedSourceIP : Text
  controllerIP : Text := []
  controllerURL : Text := []
  region : Text := []
  provider : Text := []
  networkGroup : Text := []
  enabled : Bool
  connected : Bool
  createdAt : Time := 0
  enrollmentExpiresAt : Time := 0
  enrollmentUsedAt : Time := 0
  enrolledAt : Time := 0
  lastSeenAt : Time := 0
  agentVersion : Text := []
  capabilities : List Text
  health : Text
  revokedAt : Time := 0
  revoked : Bool := false
  identityConfigured : Bool := false
  observationKeySet : Bool := false
deriving DecidableEq

structure CreateAgentRequest where
  displayName : Text
  expectedSourceIP : Text
  controllerIP : Text
  controllerURL : Text
  region : Text := []
  provider : Text := []
  networkGroup : Text := []
deriving DecidableEq

structure RegistryConfig where
  path : Text
  enabled : Bool
  defaultControllerURL : Text := []
  defaultControllerIP : Text := []
  enrollmentTTL : Int := 0
  heartbeatMaxSkew : Int := 0
  heartbeatIntervalSec : Int := 0
deriving DecidableEq

structure Registry where
  config : RegistryConfig
  state : RegistryFile := {}

/-- What one call meets outside: the clock, and once more when a snapshot is
taken of the record, the two random tokens, and how the file was written. -/
structure Outside where
  now : Time
  shownAt : Time := 0
  agentID : Except Text Text := .ok []
  token : Except Text Text := .ok []
  persisted : Except Text Unit := .ok ()

section

variable {Addr : Type} (primitives : Primitives Addr)

def parseExactIP (value : Text) : Option Addr :=
  (primitives.parseAddr (trimSpace value)).map primitives.unmap

def normalizeIP (value : Text) : Text :=
  match parseExactIP primitives value with
  | none => trimSpace value
  | some address => primitives.addrText address

/-- `sourceMatches`; `none` is the zero address, which is not valid. -/
def sourceMatches [DecidableEq Addr] (expected : Text)
    (actual : Option Addr) : Bool :=
  match parseExactIP primitives expected, actual with
  | some address, some actual => address = primitives.unmap actual
  | _, _ => false

/-- `tokenMatches`. -/
def tokenMatches (expectedHash : Bytes) (token : Text) : Bool :=
  expectedHash.length = sha256Size && expectedHash =
    primitives.tokenDigest token

def validateControllerAddress (controllerURL controllerIP : Text) :
    Except RegistryError Unit :=
  if (parseExactIP primitives controllerIP).isNone then
    .error (.invalidAgent
      "controllerIp must be an exact IPv4 or IPv6 address")
  else if !primitives.httpsURL controllerURL then
    .error (.invalidAgent
      "controllerUrl must be an https URL without credentials, query or fragment")
  else .ok ()

/-- The loop over the optional texts.  Go visits them in no fixed order. -/
def validateOptionalTexts : List (Text × Text) → Except RegistryError Unit
  | [] => .ok ()
  | (name, value) :: rest =>
      if value ≠ [] ∧ !validShortText value 80 then
        .error (.invalidAgent
          (name ++ " contains unsupported characters or is too long"))
      else validateOptionalTexts rest

def validateCreateRequest (request : CreateAgentRequest) :
    Except RegistryError Unit :=
  if !validDisplayName request.displayName then
    .error (.invalidAgent
      "displayName is required and must be at most 80 characters")
  else if (parseExactIP primitives request.expectedSourceIP).isNone then
    .error (.invalidAgent
      "expectedSourceIp must be an exact IPv4 or IPv6 address")
  else do
    validateControllerAddress primitives request.controllerURL
      request.controllerIP
    validateOptionalTexts
      [("region", request.region), ("provider", request.provider),
        ("networkGroup", request.networkGroup)]

/-- `strings.TrimRight(strings.TrimSpace(url), "/")`. -/
def normalizeURL (url : Text) : Text :=
  (trimSpace url).rdropWhile (· = '/')

def normalizeCreateRequest (request : CreateAgentRequest) :
    CreateAgentRequest :=
  { displayName := trimSpace request.displayName
    expectedSourceIP := normalizeIP primitives request.expectedSourceIP
    controllerIP := normalizeIP primitives request.controllerIP
    controllerURL := normalizeURL request.controllerURL
    region := trimSpace request.region
    provider := trimSpace request.provider
    networkGroup := trimSpace request.networkGroup }

/-- The request the fields of a record amount to. -/
def AgentRecord.request (record : AgentRecord) : CreateAgentRequest :=
  { displayName := record.displayName
    expectedSourceIP := record.expectedSourceIP
    controllerIP := record.controllerIP
    controllerURL := record.controllerURL
    region := record.region
    provider := record.provider
    networkGroup := record.networkGroup }

def validateRecord (record : AgentRecord) : Except RegistryError Unit :=
  if !validIdentifier record.agentID 96 ||
      !validDisplayName record.displayName then
    .error (.invalidAgent [])
  else do
    validateCreateRequest primitives record.request
    if record.createdAt.isZero || record.updatedAt.isZero then
      .error (.invalidAgent "timestamps are required")
    else if record.agentVersion ≠ [] ∧
        !validShortText record.agentVersion 128 then
      .error (.invalidAgent "invalid agent version")
    else if record.health ≠ [] ∧ !validHealth record.health then
      .error (.invalidAgent "invalid agent health")
    else if [record.identityPublicKey, record.observationPublicKey].any
        fun key => key ≠ [] ∧ key.length ≠ publicKeySize then
      .error (.invalidAgent "invalid public key")
    else if record.enrollmentTokenHash ≠ [] ∧
        record.enrollmentTokenHash.length ≠ sha256Size then
      .error (.invalidAgent "invalid enrollment token hash")
    else if (record.identityPublicKey ≠ [] ∨
          record.observationPublicKey ≠ [] ∨ !record.enrolledAt.isZero) ∧
        (record.identityPublicKey = [] ∨ record.observationPublicKey = [] ∨
          record.enrolledAt.isZero ∨ record.enrollmentUsedAt.isZero ∨
          record.enrollmentTokenHash ≠ []) then
      .error (.invalidAgent "inconsistent enrolled identity state")
    else if record.enrollmentTokenHash ≠ [] ∧
        (record.enrollmentExpiresAt.isZero ∨
          !record.enrollmentUsedAt.isZero) then
      .error (.invalidAgent "inconsistent enrollment token state")
    else .ok ()

/-- An entry of the file with its ID filled in and its capabilities in
order. -/
def readRecord (id : Text) (record : AgentRecord) : AgentRecord :=
  { record with
    agentID :=
      if trimSpace record.agentID = [] then id else trimSpace record.agentID
    capabilities := normalizeCapabilities record.capabilities }

/-- One entry of the file as `DecodeRegistry` takes it. -/
def decodeRecord (id : Text) (record : AgentRecord) :
    Except RegistryError AgentRecord :=
  match validateRecord primitives (readRecord id record) with
  | .error error => .error error
  | .ok () =>
      if id ≠ (readRecord id record).agentID then
        .error (.failed ("probe agent key " ++ id ++
          " does not match agentId " ++ (readRecord id record).agentID))
      else .ok (readRecord id record)

/-- The loop of `DecodeRegistry` over the entries. -/
def decodeRecords (agents : GoMap Text AgentRecord) :
    List (Text × AgentRecord) → Except RegistryError (GoMap Text AgentRecord)
  | [] => .ok agents
  | (id, record) :: rest =>
      match decodeRecord primitives id record with
      | .error error => .error error
      | .ok record => decodeRecords (agents.insert id record) rest

/-- The version of a file, where it names none the current one. -/
def RegistryFile.effectiveVersion (file : RegistryFile) : Int :=
  if file.version = 0 then registryVersion else file.version

/-- `DecodeRegistry` of a file that is JSON of the expected shape. -/
def decodeRegistry (file : RegistryFile) : Except RegistryError RegistryFile :=
  if file.effectiveVersion ≠ registryVersion then
    .error (.failed ("unsupported probe agent registry version " ++
      itoaInt file.effectiveVersion))
  else
    match decodeRecords primitives file.agents file.agents.toList with
    | .error error => .error error
    | .ok agents =>
        .ok { file with version := file.effectiveVersion, agents := agents }

/-- A value where it was set, and the default where it is zero. -/
def orDefault (value fallback : Int) : Int :=
  if value = 0 then fallback else value

/-- `NewRegistry`. -/
def newRegistry (config : RegistryConfig) : Except RegistryError Registry :=
  let config :=
    { config with
      path := trimSpace config.path
      enrollmentTTL := orDefault config.enrollmentTTL defaultEnrollmentTTL
      heartbeatMaxSkew :=
        orDefault config.heartbeatMaxSkew defaultHeartbeatMaxSkew
      heartbeatIntervalSec :=
        orDefault config.heartbeatIntervalSec defaultHeartbeatIntervalSec
      defaultControllerURL := normalizeURL config.defaultControllerURL
      defaultControllerIP :=
        normalizeIP primitives config.defaultControllerIP }
  if config.path = [] then
    .error (.invalidAgent "registry path is required")
  else if config.enrollmentTTL < minutes 1 ∨
      config.heartbeatMaxSkew < 1000000000 ∨ config.heartbeatIntervalSec
        < 5 then
    .error (.invalidAgent "registry time limits are invalid")
  else do
    if config.defaultControllerURL ≠ [] ∨ config.defaultControllerIP ≠ [] then
      validateControllerAddress primitives config.defaultControllerURL
        config.defaultControllerIP
    .ok { config := config }

end

/-- The registry of a running controller, beside the file it writes. -/
structure Store where
  registry : Registry
  file : Option RegistryFile := none

namespace Store

section

variable {Addr : Type} [DecidableEq Addr] (primitives : Primitives Addr)
  (store : Store)

/-- The records in force. -/
def agents : GoMap Text AgentRecord :=
  store.registry.state.agents

/-- `Load` into a registry that was just built; a file that cannot be decoded
leaves it empty. -/
def load : Store × Except RegistryError Unit :=
  match store.file with
  | none => (store, .ok ())
  | some file =>
      match decodeRegistry primitives file with
      | .error error => (store, .error error)
      | .ok state =>
          ({ store with registry := { store.registry with state := state } },
            .ok ())

/-- The state with other records in it. -/
def withAgents (agents : GoMap Text AgentRecord) (updatedAt : Time) :
    RegistryFile :=
  { version := registryVersion, updatedAt := updatedAt, agents := agents }

/-- `persistLocked` of a state, and the state to go back to where the file
could not be written. -/
def persist (next restored : RegistryFile) (outside : Outside) :
    Store × Except RegistryError Unit :=
  match outside.persisted with
  | .error text =>
      ({ store with registry := { store.registry with state := restored } },
        .error (.failed text))
  | .ok () =>
      ({ registry := { store.registry with state := next }
         file := some next },
        .ok ())

/-- The common end of the operations on one record: store it, write the file,
and put the previous record back where that failed. -/
def replaceRecord (previous record : AgentRecord) (outside : Outside) :
    Store × Except RegistryError Unit :=
  let agents := store.agents.insert record.agentID record
  store.persist (withAgents agents outside.now)
    (withAgents (agents.insert record.agentID previous)
      store.registry.state.updatedAt)
    outside

/-- `snapshot`. -/
def snapshot (record : AgentRecord) (now : Time) : AgentSnapshot :=
  let connectedWindow : Int :=
    max (store.registry.config.heartbeatIntervalSec * 3 * 1000000000)
      90000000000
  { agentID := record.agentID
    displayName := record.displayName
    expectedSourceIP := record.expectedSourceIP
    controllerIP := record.controllerIP
    controllerURL := record.controllerURL
    region := record.region
    provider := record.provider
    networkGroup := record.networkGroup
    enabled := record.enabled
    connected :=
      record.enabled && record.identityPublicKey ≠ [] &&
        0 < record.lastSequence &&
        (now : Int) - connectedWindow < record.lastSeenAt
    createdAt := record.createdAt
    enrollmentExpiresAt := record.enrollmentExpiresAt
    enrollmentUsedAt := record.enrollmentUsedAt
    enrolledAt := record.enrolledAt
    lastSeenAt := record.lastSeenAt
    agentVersion := record.agentVersion
    capabilities := record.capabilities
    health := record.health
    revokedAt := record.revokedAt
    revoked := !record.revokedAt.isZero
    identityConfigured := record.identityPublicKey ≠ []
    observationKeySet := record.observationPublicKey ≠ [] }

/-- `Agent`. -/
def agent (agentID : Text) (now : Time) : Option AgentSnapshot :=
  (store.agents[trimSpace agentID]?).map fun record => store.snapshot record now

/-- `Snapshot`: the newest first. -/
def snapshots (now : Time) : List AgentSnapshot :=
  (store.agents.toList.map fun entry => store.snapshot entry.2
    now).insertionSort
    fun a b => b.createdAt ≤ a.createdAt

/-- The answer to an issued enrollment; the Compose text is left out. -/
structure CreationResult where
  agent : AgentSnapshot
  enrollmentToken : Text

/-- `applyControllerDefaults`. -/
def applyControllerDefaults (request : CreateAgentRequest) :
    CreateAgentRequest :=
  { request with
    controllerURL :=
      if request.controllerURL = [] then
        store.registry.config.defaultControllerURL
      else request.controllerURL
    controllerIP :=
      if request.controllerIP = [] then
        store.registry.config.defaultControllerIP
      else request.controllerIP }

/-- The deadline of an enrollment issued at `now`. -/
def enrollmentDeadline (now : Time) : Time :=
  ((now : Int) + store.registry.config.enrollmentTTL).toNat

/-- The record `Create` adds. -/
def newRecord (request : CreateAgentRequest) (agentID token : Text)
    (now : Time) : AgentRecord :=
  { agentID := agentID
    displayName := request.displayName
    expectedSourceIP := request.expectedSourceIP
    controllerIP := request.controllerIP
    controllerURL := request.controllerURL
    region := request.region
    provider := request.provider
    networkGroup := request.networkGroup
    enabled := true
    createdAt := now
    updatedAt := now
    enrollmentExpiresAt := store.enrollmentDeadline now
    enrollmentTokenHash := primitives.tokenDigest token }

/-- The two tokens `Create` generates. -/
def generatedTokens (outside : Outside) : Except RegistryError (Text × Text) :=
  match outside.agentID, outside.token with
  | .error text, _ => .error (.failed text)
  | .ok _, .error text => .error (.failed text)
  | .ok agentID, .ok token => .ok (agentID, token)

/-- `Create`. -/
def create (request : CreateAgentRequest) (outside : Outside) :
    Store × Except RegistryError CreationResult :=
  if !store.registry.config.enabled then (store, .error .disabled)
  else
    let request :=
      store.applyControllerDefaults (normalizeCreateRequest primitives request)
    match validateCreateRequest primitives request with
    | .error error => (store, .error error)
    | .ok () =>
        match generatedTokens outside with
        | .error error => (store, .error error)
        | .ok (agentID, token) =>
            let record :=
              store.newRecord primitives request agentID token outside.now
            if store.agents.contains agentID then
              (store, .error (.invalidAgent "generated agent ID collision"))
            else
              let agents := store.agents.insert agentID record
              match store.persist (withAgents agents outside.now)
                  (withAgents (agents.erase agentID)
                    store.registry.state.updatedAt) outside with
              | (store, .error error) => (store, .error error)
              | (store, .ok ()) =>
                  (store, .ok ⟨store.snapshot record outside.shownAt, token⟩)

/-- The record `Reissue` writes: the identity is gone, and its counter with
it. -/
def reissuedRecord (record : AgentRecord) (token : Text) (now : Time) :
    AgentRecord :=
  { record with
    enabled := true
    revokedAt := 0
    enrollmentExpiresAt := store.enrollmentDeadline now
    enrollmentUsedAt := 0
    enrollmentTokenHash := primitives.tokenDigest token
    identityPublicKey := []
    observationPublicKey := []
    enrolledAt := 0
    lastSeenAt := 0
    lastSequence := 0
    agentVersion := []
    capabilities := []
    health := []
    updatedAt := now }

/-- `Reissue`. -/
def reissue (agentID : Text) (outside : Outside) :
    Store × Except RegistryError CreationResult :=
  if !store.registry.config.enabled then (store, .error .disabled)
  else
    match outside.token with
    | .error text => (store, .error (.failed text))
    | .ok token =>
        match store.agents[trimSpace agentID]? with
        | none => (store, .error .agentNotFound)
        | some previous =>
            let record :=
              store.reissuedRecord primitives previous token outside.now
            match store.replaceRecord previous record outside with
            | (store, .error error) => (store, .error error)
            | (store, .ok ()) =>
                (store, .ok ⟨store.snapshot record outside.shownAt, token⟩)

/-- The record `Revoke` writes. -/
def revokedRecord (record : AgentRecord) (now : Time) : AgentRecord :=
  { record with
    enabled := false
    revokedAt := now
    enrollmentTokenHash := []
    updatedAt := now }

/-- `Revoke`. -/
def revoke (agentID : Text) (outside : Outside) :
    Store × Except RegistryError AgentSnapshot :=
  match store.agents[trimSpace agentID]? with
  | none => (store, .error .agentNotFound)
  | some previous =>
      let record := revokedRecord previous outside.now
      match store.replaceRecord previous record outside with
      | (store, .error error) => (store, .error error)
      | (store, .ok ()) => (store, .ok (store.snapshot record outside.shownAt))

/-- `Delete`. -/
def delete (agentID : Text) (outside : Outside) :
    Store × Except RegistryError Unit :=
  if !store.registry.config.enabled then (store, .error .disabled)
  else
    let agentID := trimSpace agentID
    match store.agents[agentID]? with
    | none => (store, .error .agentNotFound)
    | some record =>
        if record.enabled || record.revokedAt.isZero then
          (store, .error .agentNotRevoked)
        else
          let agents := store.agents.erase agentID
          store.persist (withAgents agents outside.now)
            (withAgents (agents.insert agentID record)
              store.registry.state.updatedAt) outside

/-- What `Enroll` asks of the request alone. -/
def validEnrollment (request : EnrollRequest) : Bool :=
  request.protocolVersion = protocolVersion &&
    request.identityPublicKey.length = publicKeySize &&
    request.observationPublicKey.length = publicKeySize &&
    request.identityPublicKey ≠ request.observationPublicKey &&
    validShortText request.agentVersion 128

/-- What `Enroll` asks of the record of the agent. -/
def enrollable (request : EnrollRequest) (sourceIP : Option Addr)
    (record : AgentRecord) (now : Time) : Except RegistryError Unit :=
  if !record.enabled then .error .agentRevoked
  else if !sourceMatches primitives record.expectedSourceIP sourceIP then
    .error .sourceIPMismatch
  else if !record.enrollmentUsedAt.isZero ∨ record.enrollmentTokenHash = [] then
    .error .enrollmentUsed
  else if record.enrollmentExpiresAt ≤ now then .error .enrollmentExpired
  else if !tokenMatches primitives record.enrollmentTokenHash
      request.enrollmentToken then
    .error .invalidEnrollment
  else .ok ()

/-- The record `Enroll` writes. -/
def enrolledRecord (request : EnrollRequest) (record : AgentRecord)
    (now : Time) : AgentRecord :=
  { record with
    identityPublicKey := request.identityPublicKey
    observationPublicKey := request.observationPublicKey
    enrollmentUsedAt := now
    enrollmentTokenHash := []
    enrolledAt := now
    lastSeenAt := now
    agentVersion := request.agentVersion
    capabilities := normalizeCapabilities request.capabilities
    health := "starting"
    updatedAt := now }

structure EnrollResponse where
  agentID : Text
  enrolledAt : Time
  heartbeatInterval : Int

/-- `Enroll`. -/
def enroll (request : EnrollRequest) (sourceIP : Option Addr)
    (outside : Outside) : Store × Except RegistryError EnrollResponse :=
  if !store.registry.config.enabled then (store, .error .disabled)
  else if !validEnrollment request then (store, .error .invalidEnrollment)
  else
    match store.agents[trimSpace request.agentID]? with
    | none => (store, .error .agentNotFound)
    | some previous =>
        match enrollable primitives request sourceIP previous outside.now with
        | .error error => (store, .error error)
        | .ok () =>
            match store.replaceRecord previous
                (enrolledRecord request previous outside.now) outside with
            | (store, .error error) => (store, .error error)
            | (store, .ok ()) =>
                (store, .ok ⟨previous.agentID, outside.now,
                  store.registry.config.heartbeatIntervalSec⟩)

/-- What a handler hands the registry of a signed request. -/
structure Authentication (Addr : Type) where
  sourceIP : Option Addr
  timestamp : Time
  sequence : Nat
  payload : ControlSignatureEnvelope
  signature : Bytes

/-- The timestamp is further from the clock than the skew allows. -/
def skewed (timestamp now : Time) : Bool :=
  (timestamp : Int) < now - store.registry.config.heartbeatMaxSkew ||
    (now : Int) + store.registry.config.heartbeatMaxSkew < timestamp

/-- What both control requests ask of the record, after the test whether the
agent is still allowed in. -/
def authenticated (record : AgentRecord)
    (authentication : Authentication Addr) : Except RegistryError Unit :=
  if !sourceMatches primitives record.expectedSourceIP
      authentication.sourceIP then
    .error .sourceIPMismatch
  else if record.identityPublicKey = [] || record.enrolledAt.isZero then
    .error .agentNotEnrolled
  else if authentication.sequence ≤ record.lastSequence then
    .error .controlReplay
  else if record.identityPublicKey.length ≠ publicKeySize ||
      authentication.signature.length ≠ signatureSize ||
      !primitives.ed25519.verify record.identityPublicKey
        authentication.payload authentication.signature then
    .error .invalidControlRequest
  else .ok ()

/-- The record `AcceptControlRequest` writes. -/
def seenRecord (record : AgentRecord) (sequence : Nat) (now : Time) :
    AgentRecord :=
  { record with lastSeenAt := now, lastSequence := sequence, updatedAt := now }

/-- The record `AcceptHeartbeat` writes. -/
def heartbeatRecord (request : HeartbeatRequest) (record : AgentRecord)
    (sequence : Nat) (now : Time) : AgentRecord :=
  { seenRecord record sequence now with
    agentVersion := request.agentVersion
    capabilities := normalizeCapabilities request.capabilities
    health := request.health }

structure HeartbeatResponse where
  agentID : Text
  acceptedAt : Time

/-- `AcceptHeartbeat`. -/
def acceptHeartbeat (request : HeartbeatRequest)
    (authentication : Authentication Addr) (outside : Outside) :
    Store × Except RegistryError HeartbeatResponse :=
  if !store.registry.config.enabled then (store, .error .disabled)
  else if request.protocolVersion ≠ protocolVersion || request.agentID = [] ||
      !validShortText request.agentVersion 128 || !validHealth request.health ||
      authentication.timestamp.isZero || authentication.sequence = 0 then
    (store, .error .invalidControlRequest)
  else if store.skewed authentication.timestamp outside.now then
    (store, .error .invalidControlRequest)
  else
    match store.agents[trimSpace request.agentID]? with
    | none => (store, .error .agentNotFound)
    | some previous =>
        if !previous.enabled then (store, .error .agentRevoked)
        else
          match authenticated primitives previous authentication with
          | .error error => (store, .error error)
          | .ok () =>
              match store.replaceRecord previous
                  (heartbeatRecord request previous authentication.sequence
                    outside.now) outside with
              | (store, .error error) => (store, .error error)
              | (store, .ok ()) =>
                  (store, .ok ⟨previous.agentID, outside.now⟩)

/-- `AcceptControlRequest`. -/
def acceptControlRequest (agentID : Text) (authentication : Authentication Addr)
    (outside : Outside) : Store × Except RegistryError Unit :=
  if !store.registry.config.enabled then (store, .error .disabled)
  else
    let agentID := trimSpace agentID
    if !validIdentifier agentID 96 || authentication.timestamp.isZero ||
        authentication.sequence = 0 then
      (store, .error .invalidControlRequest)
    else if store.skewed authentication.timestamp outside.now then
      (store, .error .invalidControlRequest)
    else
      match store.agents[agentID]? with
      | none => (store, .error .agentNotFound)
      | some previous =>
          if !previous.enabled || !previous.revokedAt.isZero then
            (store, .error .agentRevoked)
          else
            match authenticated primitives previous authentication with
            | .error error => (store, .error error)
            | .ok () =>
                store.replaceRecord previous
                  (seenRecord previous authentication.sequence outside.now)
                  outside

end

end Store

end XrayChecker.Probeagent

import XrayChecker.Probeagent.Reloads

/-
The agent's side of the control channel: the identity it keeps in a file, a
start up to the first accepted heartbeat, and the requests it signs; and the
agents together with their registry.
-/

namespace XrayChecker.Probeagent

open Go

def identityVersion : Int := 1

/-- `ed25519.PrivateKeySize`. -/
def privateKeySize : Nat := 64

/-- The identity as the file holds it.  The counter is 64 bits wide, more than
an agent can ever count. -/
structure IdentityFile where
  version : Int := identityVersion
  agentID : Text
  identityPrivateKey : Bytes
  observationPrivateKey : Bytes
  enrolled : Bool := false
  nextSequence : Nat := 0
deriving DecidableEq

/-- The test of `privateKeys`. -/
def IdentityFile.validKeys (identity : IdentityFile) : Bool :=
  identity.identityPrivateKey.length = privateKeySize &&
    identity.observationPrivateKey.length = privateKeySize &&
    identity.identityPrivateKey ≠ identity.observationPrivateKey

structure ClientConfig where
  agentID : Text
  enrollmentToken : Text
  agentVersion : Text
  capabilities : List Text

/-- The configuration as `NewClient` keeps it. -/
def ClientConfig.normalized (config : ClientConfig) : ClientConfig :=
  { config with
    agentID := trimSpace config.agentID
    agentVersion := trimSpace config.agentVersion
    capabilities := normalizeCapabilities config.capabilities }

/-- What `NewClient` asks of it. -/
def ClientConfig.valid (config : ClientConfig) : Bool :=
  validIdentifier config.agentID 96 && validShortText config.agentVersion 128

/-- `loadOrCreateIdentity`: what memory and file hold after it. -/
def loadOrCreateIdentity (agentID : Text) (generated : Bytes × Bytes)
    (written : Bool) : Option IdentityFile → Option IdentityFile
  | some identity =>
      if identity.version ≠ identityVersion ∨ identity.agentID ≠ agentID then
        none
      else if !identity.validKeys then none
      else some identity
  | none =>
      if written then
        some
          { agentID := agentID
            identityPrivateKey := generated.1
            observationPrivateKey := generated.2 }
      else none

/-- Where a running agent stands: `EnsureEnrolled` posts the enrollment, or the
heartbeat after a failure, and writes `Enrolled`; `Run` posts its first
heartbeat and enters its loops. -/
inductive Phase where
  | enrolling
  | recovering
  | marking
  | greeting
  | connected
deriving DecidableEq

structure AgentClient where
  config : ClientConfig
  identity : IdentityFile
  phase : Phase

/-- How `EnsureEnrolled` begins; `none` is an error. -/
def firstPhase (config : ClientConfig) (identity : IdentityFile) :
    Option Phase :=
  if identity.enrolled then some .greeting
  else if trimSpace config.enrollmentToken = [] then none
  else if !identity.validKeys then none
  else some .enrolling

/-- What a request of the agent meets on its side: the clock, the JSON text of
the body, the signature made, and whether the identity could be written. -/
structure Made where
  now : Time
  body : Bytes := []
  signature : Bytes := []
  written : Bool := true

/-- A signed request on the wire, with the public key that goes with it. -/
structure Sent where
  key : Bytes
  request : SignedRequest
deriving DecidableEq

/-- The registry takes a request in and its answer reaches the agent. -/
structure Reached (Addr : Type) where
  sourceIP : Option Addr
  outside : Outside

/-- The registry and the agents: each identity directory with its file and the
process that runs on it, and what was put on the wire. -/
structure Deployment (Addr : Type) where
  registry : World Addr
  files : GoMap Nat IdentityFile
  clients : GoMap Nat AgentClient
  /-- The public identity keys generated so far. -/
  generated : List Bytes
  sent : List Sent
  enrollments : List EnrollRequest

/-- What happens to the agents and the registry. -/
inductive Move (Addr : Type) where
  /-- `NewClient` and the beginning of `Run`; `prepared` tells whether the
  HTTP client and the directory could be made. -/
  | start (dir : Nat) (config : ClientConfig) (prepared : Bool)
      (generated : Bytes × Bytes) (written : Bool)
  /-- The process ends, at whatever step it is. -/
  | crash (dir : Nat)
  /-- The next step on the way to the loops of `Run`.  Without an answer the
  request is lost, or on its way for long. -/
  | turn (dir : Nat) (made : Made) (answer : Option (Reached Addr))
  /-- A request of the loops of `Run`. -/
  | post (dir : Nat) (endpoint : Endpoint) (made : Made)
      (answer : Option (Reached Addr))
  /-- Everything else the registry meets: its operators, its restarts, and
  requests off the wire, late and repeated ones included. -/
  | registry (event : Event Addr)

/-- The request as the handler reads it off the wire. -/
def SignedRequest.call {Addr : Type} (request : SignedRequest)
    (sourceIP : Option Addr) : SignedCall Addr where
  method := "POST"
  sourceIP := sourceIP
  agentID := request.agentID
  timestamp := some request.timestamp
  sequence := some request.sequence
  signature := some request.signature
  body := request.body

namespace AgentClient

/-- The heartbeat of `SendHeartbeat`. -/
def heartbeatRequest (client : AgentClient)
    (health : Text) : HeartbeatRequest where
  protocolVersion := protocolVersion
  agentID := client.config.agentID
  agentVersion := client.config.agentVersion
  capabilities := client.config.capabilities
  health := health

/-- `c.identity.NextSequence++`. -/
def counted (client : AgentClient) : AgentClient :=
  { client with
    identity :=
      { client.identity with
        nextSequence := client.identity.nextSequence + 1 } }

/-- `c.identity.Enrolled = true`. -/
def marked (client : AgentClient) : AgentClient :=
  { client with
    identity := { client.identity with enrolled := true }
    phase := .greeting }

end AgentClient

section

variable {Addr : Type} [DecidableEq Addr] (primitives : Primitives Addr)
  (publicKey : Bytes → Bytes)

namespace AgentClient

/-- The public half of the identity key. -/
def key (client : AgentClient) : Bytes :=
  publicKey client.identity.identityPrivateKey

/-- The request of `EnsureEnrolled`. -/
def enrollRequest (client : AgentClient) : EnrollRequest where
  protocolVersion := protocolVersion
  agentID := client.config.agentID
  enrollmentToken := client.config.enrollmentToken
  identityPublicKey := client.key publicKey
  observationPublicKey := publicKey client.identity.observationPrivateKey
  agentVersion := client.config.agentVersion
  capabilities := client.config.capabilities

/-- What the request after the next count is signed over. -/
def nextPayload (client : AgentClient) (endpoint : Endpoint) (made : Made) :
    Option ControlSignatureEnvelope :=
  controlSigningPayload primitives "POST" endpoint.path client.config.agentID
    made.now (client.identity.nextSequence + 1) made.body

/-- The request itself. -/
def nextRequest (client : AgentClient) (endpoint : Endpoint) (made : Made) :
    SignedRequest where
  path := endpoint.path
  agentID := client.config.agentID
  timestamp := made.now
  sequence := client.identity.nextSequence + 1
  body := made.body
  signature := made.signature

end AgentClient

namespace Deployment

/-- The process of the directory goes on to a phase. -/
def goOn (w : Deployment Addr) (dir : Nat) (phase : Phase) : Deployment Addr :=
  match w.clients[dir]? with
  | none => w
  | some client =>
      { w with clients := w.clients.insert dir { client with phase := phase } }

/-- The process of the directory ends. -/
def exit (w : Deployment Addr) (dir : Nat) : Deployment Addr :=
  { w with clients := w.clients.erase dir }

/-- `postSignedJSONBytes` up to the wire: the count goes up in memory and in
the file before anything is sent. -/
def post (w : Deployment Addr) (dir : Nat) (client : AgentClient)
    (endpoint : Endpoint) (made : Made) :
    Deployment Addr × Option SignedRequest :=
  if !client.identity.validKeys then (w, none)
  else
    let counted :=
      { w with clients := w.clients.insert dir client.counted }
    if !made.written then (counted, none)
    else
      let written :=
        { counted with
          files := w.files.insert dir client.counted.identity }
      match client.nextPayload primitives endpoint made with
      | none => (written, none)
      | some _ =>
          let request := client.nextRequest endpoint made
          ({ written with sent := ⟨client.key publicKey, request⟩ :: w.sent },
            some request)

/-- The handler takes the request in, and the agent reads whether it was
accepted. -/
def answer (w : Deployment Addr) (endpoint : Endpoint) :
    Option SignedRequest → Option (Reached Addr) → Deployment Addr × Bool
  | some request, some reached =>
      let call := request.call reached.sourceIP
      ({ w with
          registry :=
            w.registry.step primitives (.control endpoint call
              reached.outside) },
        (endpoint.handle primitives w.registry.store call
          reached.outside).2.isSome)
  | _, _ => (w, false)

/-- A signed request and the answer to it.  The client does nothing else until
then (`requestMu`), so that what the others do meanwhile may as well come
first. -/
def exchange (w : Deployment Addr) (dir : Nat) (client : AgentClient)
    (endpoint : Endpoint) (made : Made) (reached : Option (Reached Addr)) :
    Deployment Addr × Bool :=
  let posted := w.post primitives publicKey dir client endpoint made
  posted.1.answer primitives endpoint posted.2 reached

/-- `EnsureEnrolled` posts the enrollment. -/
def enrollTurn (w : Deployment Addr) (dir : Nat) (client : AgentClient)
    (reached : Option (Reached Addr)) : Deployment Addr :=
  let request := client.enrollRequest publicKey
  let w := { w with enrollments := request :: w.enrollments }
  match reached with
  | none => w.goOn dir .recovering
  | some reached =>
      let answer :=
        w.registry.store.enroll primitives request reached.sourceIP
          reached.outside
      { w with
        registry :=
          w.registry.step primitives
            (.enroll request reached.sourceIP reached.outside) }.goOn dir
        (if answer.2.isOk then .marking else .recovering)

/-- A heartbeat on which the start depends. -/
def heartbeatTurn (w : Deployment Addr) (dir : Nat) (client : AgentClient)
    (made : Made) (reached : Option (Reached Addr)) (next : Phase) :
    Deployment Addr :=
  let answered := w.exchange primitives publicKey dir client .heartbeat made
    reached
  if answered.2 then answered.1.goOn dir next else answered.1.exit dir

/-- The flag goes to memory and file. -/
def markTurn (w : Deployment Addr) (dir : Nat) (client : AgentClient)
    (made : Made) : Deployment Addr :=
  if made.written then
    { w with
      files := w.files.insert dir client.marked.identity
      clients := w.clients.insert dir client.marked }
  else w.exit dir

def turn (w : Deployment Addr) (dir : Nat) (client : AgentClient) (made : Made)
    (reached : Option (Reached Addr)) : Deployment Addr :=
  match client.phase with
  | .enrolling => w.enrollTurn primitives publicKey dir client reached
  | .recovering =>
      w.heartbeatTurn primitives publicKey dir client made reached .marking
  | .marking => w.markTurn dir client made
  | .greeting =>
      w.heartbeatTurn primitives publicKey dir client made reached .connected
  | .connected => w

/-- The identity a start comes to hold: the file of the directory, or a new
one. -/
def started (w : Deployment Addr) (dir : Nat) (config : ClientConfig)
    (identity : IdentityFile) : Deployment Addr :=
  { w with
    files := w.files.insert dir identity
    clients :=
      w.clients.set dir ((firstPhase config identity).map fun phase =>
        ⟨config, identity, phase⟩)
    generated :=
      if w.files[dir]?.isNone then
        publicKey identity.identityPrivateKey :: w.generated
      else w.generated }

def step (w : Deployment Addr) : Move Addr → Deployment Addr
  | .start dir config prepared generated written =>
      -- a directory serves one process at a time
      if w.clients[dir]?.isSome || !prepared || !config.normalized.valid then w
      else
        match loadOrCreateIdentity config.normalized.agentID generated written
            w.files[dir]? with
        | none => w
        | some identity => w.started publicKey dir config.normalized identity
  | .crash dir => w.exit dir
  | .turn dir made reached =>
      match w.clients[dir]? with
      | none => w
      | some client => w.turn primitives publicKey dir client made reached
  | .post dir endpoint made reached =>
      match w.clients[dir]? with
      | none => w
      | some client =>
          if client.phase = .connected then
            (w.exchange primitives publicKey dir client endpoint made reached).1
          else w
  | .registry event => { w with registry := w.registry.step primitives event }

/-- Before the first agent. -/
def begin (config : RegistryConfig) : Deployment Addr where
  registry := .start config
  files := ∅
  clients := ∅
  generated := []
  sent := []
  enrollments := []

end Deployment

end

end XrayChecker.Probeagent

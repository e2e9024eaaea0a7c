import XrayChecker.Probeagent.Registry
import XrayChecker.Machine.Run

/-
The signed requests of the agents as the HTTP handlers take them in, and the
runs of the registry: every operation on it, restarts included, and the
answers given so far.
-/

namespace XrayChecker.Probeagent

open Go

/-- The three endpoints that take signed requests. -/
inductive Endpoint where
  | heartbeat
  | jobs
  | observations
deriving DecidableEq

def Endpoint.path : Endpoint → Text
  | .heartbeat => heartbeatPath
  | .jobs => jobPollPath
  | .observations => observationPath

/-- A request as it reaches a handler: the address `RequestSourceIP` finds,
the four headers as far as they can be read, and the body. -/
structure SignedCall (Addr : Type) where
  method : Text
  sourceIP : Option Addr
  agentID : Text
  timestamp : Option Time
  sequence : Option Nat
  signature : Option Bytes
  body : Bytes

/-- What makes two signed requests the same one. -/
structure SignedRequest where
  path : Text
  agentID : Text
  timestamp : Time
  sequence : Nat
  body : Bytes
  signature : Bytes
deriving DecidableEq

section

variable {Addr : Type} [DecidableEq Addr] (primitives : Primitives Addr)

/-- `parseProbeControlAuthentication`. -/
def parseProbeControlAuthentication (call : SignedCall Addr)
    (agentID path : Text) : Option (Store.Authentication Addr) :=
  match call.sourceIP, call.timestamp, call.sequence, call.signature with
  | some sourceIP, some timestamp, some sequence, some signature =>
      let headerAgentID := trimSpace call.agentID
      if headerAgentID = [] ∨ headerAgentID ≠ trimSpace agentID then none
      else
        match controlSigningPayload primitives call.method path headerAgentID
            timestamp sequence call.body with
        | none => none
        | some payload =>
            some ⟨some sourceIP, timestamp, sequence, payload, signature⟩
  | _, _, _, _ => none

/-- The agent a body names, where the handler reads the body at all. -/
def Endpoint.bodyAgent (endpoint : Endpoint) (body : Bytes) : Option Text :=
  match endpoint with
  | .heartbeat => (primitives.decodeHeartbeat body).map (·.agentID)
  | .jobs =>
      match primitives.decodeControl body with
      | none => none
      | some input =>
          if input.protocolVersion ≠ protocolVersion then none
          else some input.agentID
  | .observations => primitives.decodeObservation body

/-- The call of the registry an endpoint makes for an authentication. -/
def Endpoint.accept (endpoint : Endpoint) (store : Store) (agentID : Text)
    (call : SignedCall Addr) (authentication : Store.Authentication Addr)
    (outside : Outside) : Store × Bool :=
  match endpoint with
  | .heartbeat =>
      match primitives.decodeHeartbeat call.body with
      | none => (store, false)
      | some input =>
          let answer :=
            store.acceptHeartbeat primitives input authentication outside
          (answer.1, answer.2.isOk)
  | .jobs | .observations =>
      let answer :=
        store.acceptControlRequest primitives agentID authentication outside
      (answer.1, answer.2.isOk)

/-- The handlers `ProbeAgentHeartbeatHandler`, `ProbeAgentJobHandler` and
`ProbeAgentObservationHandler` up to the answer of the registry: the request
it accepted, if it did. -/
def Endpoint.handle (endpoint : Endpoint) (store : Store)
    (call : SignedCall Addr) (outside : Outside) :
    Store × Option SignedRequest :=
  if call.method ≠ "POST" then (store, none)
  else
    match endpoint.bodyAgent primitives call.body with
    | none => (store, none)
    | some agentID =>
        match parseProbeControlAuthentication primitives call agentID
            endpoint.path with
        | none => (store, none)
        | some authentication =>
            match endpoint.accept primitives store agentID call authentication
                outside with
            | (store, false) => (store, none)
            | (store, true) =>
                (store, some ⟨endpoint.path, trimSpace agentID,
                  authentication.timestamp, authentication.sequence, call.body,
                  authentication.signature⟩)

end

/-- An answer the registry gave: what it did for whom. -/
inductive Entry (Addr : Type) where
  | created (agentID token expectedSourceIP : Text)
  | reissued (agentID token : Text)
  | withdrawn (agentID : Text)
  | enrolled (agentID token : Text) (key : Bytes)
  | accepted (request : SignedRequest) (key : Bytes) (sourceIP : Option Addr)

/-- The registry with its file, and its answers, the latest first. -/
structure World (Addr : Type) where
  store : Store
  log : List (Entry Addr) := []

/-- Everything that happens to the registry. -/
inductive Event (Addr : Type) where
  | create (request : CreateAgentRequest) (outside : Outside)
  | reissue (agentID : Text) (outside : Outside)
  | revoke (agentID : Text) (outside : Outside)
  | delete (agentID : Text) (outside : Outside)
  | enroll (request : EnrollRequest) (sourceIP : Option Addr)
      (outside : Outside)
  | control (endpoint : Endpoint) (call : SignedCall Addr) (outside : Outside)
  | restart (config : RegistryConfig)

namespace World

variable {Addr : Type} [DecidableEq Addr] (primitives : Primitives Addr)

/-- The world before the first agent. -/
def start (config : RegistryConfig) : World Addr :=
  { store := { registry := { config := config } } }

/-- The world after an operation, with what the answer to it adds. -/
def answered {α : Type} (world : World Addr)
    (answer : Store × Except RegistryError α)
    (entry : α → Entry Addr) : World Addr :=
  match answer.2 with
  | .error _ => { world with store := answer.1 }
  | .ok value => { store := answer.1, log := entry value :: world.log }

/-- The identity key of an agent as the registry holds it. -/
def currentKey (world : World Addr) (agentID : Text) : Bytes :=
  match world.store.agents[agentID]? with
  | none => []
  | some record => record.identityPublicKey

def step (world : World Addr) : Event Addr → World Addr
  | .create request outside =>
      world.answered (world.store.create primitives request outside)
        fun result => .created result.agent.agentID result.enrollmentToken
          result.agent.expectedSourceIP
  | .reissue agentID outside =>
      world.answered (world.store.reissue primitives agentID outside)
        fun result => .reissued (trimSpace agentID) result.enrollmentToken
  | .revoke agentID outside =>
      world.answered (world.store.revoke agentID outside)
        fun _ => .withdrawn (trimSpace agentID)
  | .delete agentID outside =>
      world.answered (world.store.delete agentID outside)
        fun _ => .withdrawn (trimSpace agentID)
  | .enroll request sourceIP outside =>
      world.answered (world.store.enroll primitives request sourceIP outside)
        fun _ => .enrolled (trimSpace request.agentID) request.enrollmentToken
          request.identityPublicKey
  | .control endpoint call outside =>
      match endpoint.handle primitives world.store call outside with
      | (store, none) => { world with store := store }
      | (store, some request) =>
          { store := store
            log := .accepted request (world.currentKey request.agentID)
              call.sourceIP :: world.log }
  | .restart config =>
      -- A configuration that is refused ends the process; nothing runs then.
      match newRegistry primitives config with
      | .error _ => world
      | .ok registry =>
          { world with
            store := ({ world.store with registry := registry }.load
              primitives).1 }

end World

end XrayChecker.Probeagent

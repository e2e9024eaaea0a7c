import XrayChecker.Checker.Runs
import XrayChecker.Diagnostics.Manager
import XrayChecker.Probeagent.Registry

/-
The controller of the remote diagnostics: the snapshot of a node it hands to
the session manager, and the three ways a session is opened, by an operator,
by the reachability sweep and automatically.
-/

namespace XrayChecker.Checker

open Go

/-- `DiagnosticProxySnapshot`; `status` is there when `HasStatus` is set. -/
structure DiagnosticProxySnapshot where
  proxy : ProxyConfig
  generation : Nat
  maintenance : Bool
  status : Option ProxyStatusDetails

/-- `DiagnosticSnapshot`. -/
def ProxyChecker.diagnosticSnapshot (options : Options) (pc : ProxyChecker)
    (stableID : Text) : Except Text DiagnosticProxySnapshot :=
  let stableID := trimSpace stableID
  if stableID = [] then .error "stableId is required"
  else
    match pc.getProxyByStableID options stableID with
    | none => .error "proxy not found"
    | some proxy =>
        .ok
          { proxy :=
              { proxy with stableID := proxy.effectiveStableID options.digest }
            generation := pc.generation
            maintenance := !pc.monitoringEnabled stableID
            status := pc.statusDetailsByStableID stableID }

end XrayChecker.Checker

namespace XrayChecker.Remoteprobe

open Go Diagnostics Probeagent Checker

/-- `Duration.Milliseconds`. -/
def milliseconds (duration : Int) : Int :=
  duration.tdiv 1000000

/-- `diagnostics.ProbeStatus` of an availability state. -/
def probeStatus : AvailabilityState → ProbeStatus
  | .unset => .other []
  | .online => .online
  | .proxyFailure => .proxyFailure
  | .offline => .offline

/-- `checkEvidence`. -/
def checkEvidence (checked online : Bool) (latency : Int)
    (failureCode : Text) : CheckEvidence :=
  { checked := checked
    online := online
    latencyMillis := milliseconds latency
    failureCode := if checked && !online then failureCode else [] }

/-- `failureStage`. -/
def failureStage (code : Text) : FailureStage :=
  if code = "configuration" then .configuration
  else if code = "tcp_refused" ∨ code = "tcp_timeout" ∨
      code = "host_unreachable" ∨ code = "dns" then .tcp
  else if code = "check_endpoint" ∨ code = "http_status" ∨
      code = "download_incomplete" then .endpoint
  else .proxy

/-- The failure `localResult` names. -/
def localFailure (details : ProxyStatusDetails) : FailureEvidence :=
  let code := trimSpace details.failure.code
  let code : Text := if code = [] then "unknown" else code
  { code := code, stage := failureStage code }

/-- `localResult`. -/
def localResult (snapshot : DiagnosticProxySnapshot) : LocalResultSnapshot :=
  match snapshot.status with
  | none => { status := .unknown }
  | some details =>
      if details.checkedAt.isZero then { status := .unknown }
      else
        { status := probeStatus details.effectiveStatus
          checkedAt := details.checkedAt
          latencyMillis := milliseconds details.latency
          failure :=
            if details.effectiveStatus = .online then {}
            else localFailure details
          tcp := checkEvidence details.hostCheck.checked
            details.hostCheck.online details.hostCheck.latency "tcp_timeout"
          ping := checkEvidence details.pingCheck.checked
            details.pingCheck.online details.pingCheck.latency
            "host_unreachable" }

inductive ControllerError where
  | disabled
  | automaticPaused
  | agentNotFound
  | unavailableAgent
  | activeSession
  | unknownProfile
  | unsupportedByAgent
  | onlyNodeHostAgent
  | nodeAddressUnresolved
  | unsupportedTrigger
  /-- The node is not tracked, or its Xray configuration cannot be built. -/
  | snapshot (text : Text)
  | diagnostics (error : DiagnosticError)
deriving DecidableEq

/-- The error is `ErrInvalidRequest`. -/
def ControllerError.invalidRequest : ControllerError → Bool
  | .diagnostics error => error.kind = .invalidRequest
  | _ => false

structure Config where
  enabled : Bool
  checkMethod : Text
  jobTTL : Int
  socksPort : Int
  /-- `AgentPreference.PreferAgents`, where one is configured. -/
  agentPreference : Option (Text → List Text → List Text) := none

structure QueuedAssignment where
  assignment : JobAssignment
  claimed : Bool := false
deriving DecidableEq

structure Controller where
  config : Config
  registry : Store
  checker : ProxyChecker
  manager : DiagnosticSessionManager
  assignments : GoMap Text QueuedAssignment := ∅

/-- What the controller calls without looking inside: the addresses of
`netip`, the generator of Xray configurations in the encoding the transport
uses, and the fingerprint of one. -/
structure Library (Addr : Type) where
  options : Options
  parseAddr : Text → Option Addr
  unmap : Addr → Addr
  generateConfig : ProxyConfig → Int → Except Text Bytes
  configFingerprint : Bytes → Text

/-- What one call meets outside: the clock when the controller, `CreateSession`
and `RegisterJob` read it, the generated IDs, the order in which maps are
visited, and the answer of the resolver. -/
structure Outside (Addr : Type) where
  now : Time
  shownAt : Time
  createdAt : Time
  registeredAt : Time
  sessionID : Except Text Text
  jobID : Except Text Text
  nonce : Except Text Text
  visited : Text → Nat
  resolved : Except Text (List Addr)

namespace Controller

variable {Addr : Type} [DecidableEq Addr] (library : Library Addr)
  (c : Controller)

/-- `Enabled`. -/
def isEnabled : Bool :=
  c.config.enabled && c.registry.registry.config.enabled

/-- `executionSnapshot`. -/
def executionSnapshot (stableID : Text) :
    Except ControllerError (DiagnosticProxySnapshot × Bytes × Text) :=
  match c.checker.diagnosticSnapshot library.options stableID with
  | .error text => .error (.snapshot text)
  | .ok snapshot =>
      match library.generateConfig { snapshot.proxy with index := 0 }
          c.config.socksPort with
      | .error text => .error (.snapshot text)
      | .ok config =>
          if config = [] ∨ maxExecutionConfigBytes < config.length then
            .error (.snapshot "diagnostic Xray config exceeds delivery limit")
          else .ok (snapshot, config, library.configFingerprint config)

/-- `resolveProfile`. -/
def resolveProfile (requested : Text) (capabilities : List Text) :
    Except ControllerError ProfileDescriptor :=
  if trimSpace requested = [] then
    match profileForCheckMethod c.config.checkMethod with
    | none => .error .unknownProfile
    | some descriptor => .ok descriptor
  else
    match profileByID requested with
    | none => .error .unknownProfile
    | some descriptor =>
        if !capabilities.elem descriptor.capability then
          .error .unsupportedByAgent
        else .ok descriptor

/-- The fallback endpoint that is offered with a profile. -/
def alternativeID (descriptor : ProfileDescriptor)
    (capabilities : List Text) : Text :=
  match alternativeFor descriptor.id with
  | none => []
  | some candidate =>
      match profileByID candidate with
      | none => []
      | some alternative =>
          if capabilities.elem alternative.capability then alternative.id
          else []

/-- `removeExpiredAssignmentsLocked`. -/
def removeExpiredAssignments (now : Time) : Controller :=
  { c with
    assignments := c.assignments.filter fun _ queued =>
      now < queued.assignment.job.expiresAt }

/-- The assignment of a job. -/
def newAssignment (snapshot : DiagnosticProxySnapshot) (config : Bytes)
    (job : DiagnosticJob) : JobAssignment :=
  { job := job
    xrayConfig := config
    socksPort := c.config.socksPort
    targetHost := snapshot.proxy.server
    targetPort := snapshot.proxy.port
    targetSNI := trimSpace snapshot.proxy.sni }

/-- The end of `createTargeted` and `CreateAutomatic`: the session, its one
job, and the assignment that waits for the agent. -/
def openSession (request : CreateSessionRequest) (agentID : Text)
    (profile : TestProfile) (snapshot : DiagnosticProxySnapshot)
    (config : Bytes) (outside : Outside Addr) :
    Controller × Except ControllerError DiagnosticSession :=
  match c.manager.createSession request outside.sessionID outside.visited
      outside.createdAt with
  | (manager, .error error) =>
      ({ c with manager := manager }, .error (.diagnostics error))
  | (manager, .ok session) =>
      match manager.registerJob
          { sessionID := session.sessionID, agentID := agentID
            profile := profile, expiresAt := request.expiresAt }
          outside.jobID outside.nonce outside.registeredAt with
      | (manager, .error error) =>
          ({ c with
              manager :=
                (manager.cancelSession session.sessionID outside.shownAt).1 },
            .error (.diagnostics error))
      | (manager, .ok job) =>
          let shown := manager.session session.sessionID outside.shownAt
          ({ c with
              manager := shown.1
              assignments := c.assignments.insert job.jobID
                { assignment := c.newAssignment snapshot config job } },
            .ok (shown.2.getD session))

structure TargetedRequest where
  stableID : Text
  agentID : Text
  profileID : Text
  trigger : Trigger

/-- The deadline `JobTTL` sets. -/
def deadline (now : Time) : Time :=
  ((now : Int) + c.config.jobTTL).toNat

/-- The agent can be given a job by name. -/
def available (agent : AgentSnapshot) : Bool :=
  agent.enabled && agent.connected &&
    agent.capabilities.elem capabilityControlV1 &&
    agent.capabilities.elem capabilityDiagnosticV1

/-- `createTargeted`. -/
def createTargeted (request : TargetedRequest) (outside : Outside Addr) :
    Controller × Except ControllerError DiagnosticSession :=
  if !c.isEnabled then (c, .error .disabled)
  else if request.trigger.automatic && c.checker.projectMaintenance then
    (c, .error .automaticPaused)
  else
    let agentID := trimSpace request.agentID
    match c.registry.agent agentID outside.now with
    | none => (c, .error .agentNotFound)
    | some agent =>
        if !available agent then (c, .error .unavailableAgent)
        else
          match c.resolveProfile request.profileID agent.capabilities with
          | .error error => (c, .error error)
          | .ok descriptor =>
              match c.executionSnapshot library
                (trimSpace request.stableID) with
              | .error error => (c, .error error)
              | .ok (snapshot, config, fingerprint) =>
                  if snapshot.maintenance && request.trigger.automatic then
                    (c, .error .automaticPaused)
                  else
                    let c := c.removeExpiredAssignments outside.now
                    if c.assignments.toList.any fun queued =>
                        queued.2.assignment.job.stableID =
                            snapshot.proxy.stableID &&
                          queued.2.assignment.job.agentID = agentID then
                      (c, .error .activeSession)
                    else
                      c.openSession
                        { stableID := snapshot.proxy.stableID
                          trigger := request.trigger
                          configGeneration := snapshot.generation
                          configFingerprint := fingerprint
                          localResultSnapshot := localResult snapshot
                          requestedAgents := [agentID]
                          maintenanceDiagnostic := snapshot.maintenance
                          expiresAt := c.deadline outside.now }
                        agentID
                        (descriptor.testProfileFor
                          (alternativeID descriptor agent.capabilities))
                        snapshot config outside

structure CreateManualRequest where
  stableID : Text
  agentID : Text
  profileID : Text := []

/-- `CreateManual`. -/
def createManual (request : CreateManualRequest) (outside : Outside Addr) :
    Controller × Except ControllerError DiagnosticSession :=
  c.createTargeted library
    { stableID := request.stableID, agentID := request.agentID
      profileID := request.profileID, trigger := .manual } outside

structure CreateSweepRequest where
  stableID : Text
  agentID : Text
  profileID : Text

/-- `CreateSweep`. -/
def createSweep (request : CreateSweepRequest) (outside : Outside Addr) :
    Controller × Except ControllerError DiagnosticSession :=
  c.createTargeted library
    { stableID := request.stableID, agentID := request.agentID
      profileID := request.profileID, trigger := .reachabilitySweep } outside

/-- `automaticProfile`. -/
def automaticProfile (descriptor : ProfileDescriptor) (alternativeID : Text)
    (context : AutomationContext) (capabilities : List Text) : TestProfile :=
  let profile := descriptor.testProfileFor alternativeID
  if profile.method ≠ .download then profile
  else
    let profile :=
      if context.speedServerID ≠ [] ∧
          capabilities.elem capabilitySpeedServersV1 ∧
          (speedServerByID context.speedServerID).isSome then
        { profile with serverID := context.speedServerID }
      else profile
    if context.outcome ≠ automationOutcomeLowSpeed then profile
    else
      match profileDownloadBytes context.measuredBytes with
      | none => profile
      | some bytes => { profile with downloadBytes := bytes }

/-- `preferredAgent`. -/
def preferredAgent (stableID : Text) (eligible : List AgentSnapshot) :
    Option AgentSnapshot :=
  match c.config.agentPreference with
  | none => eligible.head?
  | some prefer =>
      if eligible.length < 2 then eligible.head?
      else
        match (prefer stableID (eligible.map (·.agentID))).findSome?
            fun agentID =>
              eligible.reverse.find? fun agent => agent.agentID = agentID with
        | some agent => some agent
        | none => eligible.head?

/-- `nodeHostAddresses`. -/
def nodeHostAddresses (server : Text) (resolved : Except Text (List Addr)) :
    Except ControllerError (List Addr) :=
  match library.parseAddr (trimSpace server) with
  | some address => .ok [library.unmap address]
  | none =>
      match resolved with
      | .error _ => .error .nodeAddressUnresolved
      | .ok [] => .error .nodeAddressUnresolved
      | .ok addresses => .ok (addresses.map library.unmap)

/-- `runsOnNodeHost`. -/
def runsOnNodeHost (agent : AgentSnapshot) (nodeHost : List Addr) : Bool :=
  match library.parseAddr (trimSpace agent.expectedSourceIP) with
  | none => false
  | some source => library.unmap source ∈ nodeHost

/-- The agents, the one heard from last first. -/
def byLiveness (agents : List AgentSnapshot) : List AgentSnapshot :=
  agents.insertionSort fun a b =>
    if a.lastSeenAt = b.lastSeenAt then a.agentID ≤ b.agentID
    else b.lastSeenAt < a.lastSeenAt

/-- An agent that could take an automatic job of a profile. -/
def idle (agent : AgentSnapshot) (descriptor : ProfileDescriptor) : Bool :=
  agent.enabled && agent.connected && agent.health = "healthy" &&
    !c.assignments.toList.any
      (fun queued => queued.2.assignment.job.agentID = agent.agentID) &&
    agent.capabilities.elem capabilityControlV1 &&
    agent.capabilities.elem descriptor.capability

structure CreateAutomaticRequest where
  stableID : Text
  trigger : Trigger
  profileID : Text
  automationContext : AutomationContext

/-- The triggers of `CreateAutomatic`. -/
def automaticTrigger : Trigger → Bool
  | .autoSpeedFallback | .autoProxyFailure | .autoOffline => true
  | _ => false

/-- `CreateAutomatic`. -/
def createAutomatic (request : CreateAutomaticRequest)
    (outside : Outside Addr) :
    Controller × Except ControllerError DiagnosticSession :=
  if !c.isEnabled then (c, .error .disabled)
  else if !automaticTrigger request.trigger then (c, .error .unsupportedTrigger)
  else if c.checker.projectMaintenance then (c, .error .automaticPaused)
  else
    match profileByID (trimSpace request.profileID) with
    | none => (c, .error .unknownProfile)
    | some descriptor =>
        match c.executionSnapshot library (trimSpace request.stableID) with
        | .error error => (c, .error error)
        | .ok (snapshot, config, fingerprint) =>
            if snapshot.maintenance || c.checker.projectMaintenance then
              (c, .error .automaticPaused)
            else
              match nodeHostAddresses library snapshot.proxy.server
                  outside.resolved with
              | .error error => (c, .error error)
              | .ok nodeHost =>
                  let agents := byLiveness (c.registry.snapshots outside.now)
                  let c := c.removeExpiredAssignments outside.now
                  let free := agents.filter (c.idle · descriptor)
                  let eligible := free.filter fun agent =>
                    !runsOnNodeHost library agent nodeHost
                  match c.preferredAgent snapshot.proxy.stableID eligible with
                  | none =>
                      if free.isEmpty then (c, .error .unavailableAgent)
                      else (c, .error .onlyNodeHostAgent)
                  | some agent =>
                      c.openSession
                        { stableID := snapshot.proxy.stableID
                          trigger := request.trigger
                          configGeneration := snapshot.generation
                          configFingerprint := fingerprint
                          localResultSnapshot := localResult snapshot
                          automationContext := request.automationContext
                          requestedAgents := [agent.agentID]
                          expiresAt := c.deadline outside.now }
                        agent.agentID
                        (automaticProfile descriptor
                          (alternativeID descriptor agent.capabilities)
                          request.automationContext agent.capabilities)
                        snapshot config outside

end Controller

/-- The three ways a session is asked for. -/
inductive Creation where
  | manual (request : Controller.CreateManualRequest)
  | sweep (request : Controller.CreateSweepRequest)
  | automatic (request : Controller.CreateAutomaticRequest)

def Creation.run {Addr : Type} [DecidableEq Addr]
    (library : Library Addr) (creation : Creation) (c : Controller)
    (outside : Outside Addr) :
    Controller × Except ControllerError DiagnosticSession :=
  match creation with
  | .manual request => c.createManual library request outside
  | .sweep request => c.createSweep library request outside
  | .automatic request => c.createAutomatic library request outside

end XrayChecker.Remoteprobe

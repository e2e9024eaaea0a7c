import XrayChecker.Diagnostics.Validate

/-
The session manager: the sessions, and the three indexes that have to stay in
step with them.  Every operation takes the clock it reads, the identities it
is handed by the generator, and the verifier of signatures in force.
-/

namespace XrayChecker.Diagnostics

open Go

structure ManagerConfig where
  sessionTTL : Int := 0
  observationMaxAge : Int := 0
  clockSkew : Int := 0
  maxSessions : Int := 0
  maxAgentsPerSession : Int := 0
deriving DecidableEq

def defaultSessionTTL : Int := minutes (24 * 60)
def defaultObservationMaxAge : Int := minutes 5
def defaultClockSkew : Int := 30000000000
def defaultMaxSessions : Int := 100
def defaultMaxAgentsPerSession : Int := 8

structure JobReference where
  sessionID : Text
  index : Nat
deriving DecidableEq

structure DiagnosticSessionManager where
  config : ManagerConfig
  sessions : GoMap Text DiagnosticSession := ∅
  jobs : GoMap Text JobReference := ∅
  usedNonces : GoMap Text Unit := ∅
  reservedNonces : GoMap Text Text := ∅

/-- A value where it was set, and the default where it is zero. -/
def orDefault (value fallback : Int) : Int :=
  if value = 0 then fallback else value

/-- `NewDiagnosticSessionManager`, handed a verifier. -/
def newDiagnosticSessionManager (config : ManagerConfig) :
    Except DiagnosticError DiagnosticSessionManager :=
  let config : ManagerConfig :=
    { sessionTTL := orDefault config.sessionTTL defaultSessionTTL
      observationMaxAge :=
        orDefault config.observationMaxAge defaultObservationMaxAge
      clockSkew := orDefault config.clockSkew defaultClockSkew
      maxSessions := orDefault config.maxSessions defaultMaxSessions
      maxAgentsPerSession :=
        orDefault config.maxAgentsPerSession defaultMaxAgentsPerSession }
  if config.sessionTTL < 0 ∨ config.observationMaxAge < 0 ∨
      config.clockSkew < 0 ∨ config.maxSessions < 1 ∨
      config.maxAgentsPerSession < 1 then
    .error ⟨.invalidRequest, "manager limits must be positive"⟩
  else .ok { config := config }

/-- The key of a nonce of an agent. -/
def nonceKey (agentID nonce : Text) : Text :=
  agentID ++ Char.ofNat 0 :: nonce

/-- A job whose deadline has passed expires. -/
def DiagnosticJob.expire (job : DiagnosticJob) (now : Time) : DiagnosticJob :=
  if !job.state.terminal && job.expiresAt ≤ now then
    { job with state := .expired }
  else job

/-- An unfinished job is given up. -/
def DiagnosticJob.giveUp (state : JobState) (job : DiagnosticJob) :
    DiagnosticJob :=
  if job.state.terminal then job else { job with state := state }

namespace DiagnosticSession

variable (session : DiagnosticSession)

/-- How many jobs are completed. -/
def completed : Nat :=
  session.jobs.countP (·.state = .completed)

/-- The deadline has passed, or every requested agent's job is over. -/
def Over (now : Time) : Prop :=
  session.expiresAt ≤ now ∨
    (session.jobs.length = session.requestedAgents.length ∧
      session.jobs.countP (·.state.terminal) = session.jobs.length)

instance (now : Time) : Decidable (session.Over now) :=
  inferInstanceAs (Decidable (_ ∨ _))

/-- `deriveSessionStateLocked`. -/
def deriveState (now : Time) : DiagnosticSession :=
  if session.state = .cancelled then session
  else if 0 < session.requestedAgents.length ∧
      session.completed = session.requestedAgents.length then
    { session with state := .completed }
  else if session.Over now then
    { session with
      jobs := session.jobs.map (DiagnosticJob.giveUp .expired)
      state :=
        if 0 < session.completed then .partiallyCompleted else .expired }
  else if session.jobs.any (·.state = .running) || 0 < session.completed then
    { session with state := .running }
  else if 0 < session.jobs.length then
    { session with state := .dispatching }
  else { session with state := .requested }

/-- What `expireLocked` makes of a session. -/
def expire (now : Time) : DiagnosticSession :=
  if session.state.terminal then session
  else
    { session with
      jobs := session.jobs.map (·.expire now) : DiagnosticSession }.deriveState
      now

/-- The session with the state of one job replaced. -/
def setJobState (index : Nat) (state : JobState) : DiagnosticSession :=
  { session with
    jobs := session.jobs.modify index fun job => { job with state := state } }

/-- What `CancelSession` makes of a session. -/
def cancel : DiagnosticSession :=
  { session with
    jobs := session.jobs.map (DiagnosticJob.giveUp .cancelled)
    state := .cancelled }

end DiagnosticSession

/-- `activeSessionError`. -/
def activeSessionError : SessionState → Except DiagnosticError Unit
  | .expired | .partiallyCompleted => .error { kind := .sessionExpired }
  | .cancelled => .error { kind := .sessionCancelled }
  | .completed => .error { kind := .invalidTransition }
  | .requested | .dispatching | .running => .ok ()

namespace DiagnosticSessionManager

variable (m : DiagnosticSessionManager)

/-- `expireLocked`. -/
def expire (now : Time) : DiagnosticSessionManager :=
  { m with sessions := m.sessions.map fun _ session => session.expire now }

/-- `jobLocked`: the session and the place of the job in it. -/
def jobAt (jobID : Text) :
    Except DiagnosticError (DiagnosticSession × Nat × DiagnosticJob) :=
  match m.jobs[jobID]? with
  | none => .error { kind := .unknownJob }
  | some reference =>
      match m.sessions[reference.sessionID]? with
      | none => .error { kind := .unknownJob }
      | some session =>
          match session.jobs[reference.index]? with
          | none => .error { kind := .unknownJob }
          | some job => .ok (session, reference.index, job)

/-- `removeSessionLocked`. -/
def removeSession (sessionID : Text) : DiagnosticSessionManager :=
  match m.sessions[sessionID]? with
  | none => m
  | some session =>
      { m with
        jobs := session.jobs.foldl (fun jobs job => jobs.erase job.jobID) m.jobs
        reservedNonces := session.jobs.foldl
          (fun reserved job => reserved.erase (nonceKey job.agentID job.nonce))
          m.reservedNonces
        usedNonces := session.agentObservations.foldl
          (fun used record =>
            used.erase
              (nonceKey record.observation.agentID record.observation.nonce))
          m.usedNonces
        sessions := m.sessions.erase sessionID }

/-- There is room for one more session. -/
def HasRoom : Prop :=
  (m.sessions.size : Int) < m.config.maxSessions

instance : Decidable m.HasRoom :=
  inferInstanceAs (Decidable (_ < _))

/-- The loop of `makeCapacityLocked` over the terminal sessions. -/
def evict (m : DiagnosticSessionManager) :
    List Text → DiagnosticSessionManager × Except DiagnosticError Unit
  | [] => (m, .error { kind := .capacity })
  | sessionID :: rest =>
      let m := m.removeSession sessionID
      if m.HasRoom then (m, .ok ()) else evict m rest

/-- The terminal sessions, the oldest first.  `visited` is the order in which
the map hands out the sessions, which decides between sessions of one age. -/
def terminalSessions (visited : Text → Nat) : List Text :=
  (((m.sessions.toList.filter (·.2.state.terminal)).insertionSort
    fun a b => visited a.1 ≤ visited b.1).insertionSort
      fun a b => a.2.createdAt ≤ b.2.createdAt).map (·.1)

/-- `makeCapacityLocked`. -/
def makeCapacity (visited : Text → Nat) :
    DiagnosticSessionManager × Except DiagnosticError Unit :=
  if m.HasRoom then (m, .ok ()) else m.evict (m.terminalSessions visited)

/-- The session `CreateSession` adds for a normalized request. -/
def newSession (request : CreateSessionRequest) (sessionID : Text)
    (now : Time) : DiagnosticSession :=
  { sessionID := sessionID
    stableID := request.stableID
    trigger := request.trigger
    configGeneration := request.configGeneration
    configFingerprint := request.configFingerprint
    localResultSnapshot := request.localResultSnapshot
    automationContext := request.automationContext
    requestedAgents := request.requestedAgents
    maintenanceDiagnostic := request.maintenanceDiagnostic
    createdAt := now
    expiresAt :=
      if request.expiresAt.isZero then
        ((now : Int) + m.config.sessionTTL).toNat
      else request.expiresAt }

/-- The request as `CreateSession` trims it. -/
def trimmedRequest (request : CreateSessionRequest) (agents : List Text) :
    CreateSessionRequest :=
  { request with
    stableID := trimSpace request.stableID
    configFingerprint := trimSpace request.configFingerprint
    automationContext :=
      { request.automationContext with
        kind := trimSpace request.automationContext.kind
        outcome := trimSpace request.automationContext.outcome
        source := trimSpace request.automationContext.source }
    requestedAgents := agents }

/-- The end of `CreateSession`, under the lock. -/
def addSession (session : DiagnosticSession) (visited : Text → Nat)
    (now : Time) :
    DiagnosticSessionManager × Except DiagnosticError DiagnosticSession :=
  let m := m.expire now
  if m.sessions.contains session.sessionID then
    (m, .error ⟨.invalidRequest, "duplicate generated session ID"⟩)
  else
    match m.makeCapacity visited with
    | (m, .error error) => (m, .error error)
    | (m, .ok ()) =>
        ({ m with sessions := m.sessions.insert session.sessionID session },
          .ok session)

/-- `CreateSession`; `newID` is what the generator returns. -/
def createSession (request : CreateSessionRequest)
    (newID : Except Text Text) (visited : Text → Nat) (now : Time) :
    DiagnosticSessionManager × Except DiagnosticError DiagnosticSession :=
  match normalizedAgentIDs request.requestedAgents with
  | .error error => (m, .error error)
  | .ok agents =>
      let request := trimmedRequest request agents
      match validateCreateSessionRequest request now m.config.sessionTTL
          m.config.maxAgentsPerSession with
      | .error error => (m, .error error)
      | .ok () =>
          match newID with
          | .error error =>
              (m, .error ⟨.foreign, "generate session ID: " ++ error⟩)
          | .ok sessionID =>
              if !validToken sessionID then
                (m, .error
                  ⟨.invalidRequest, "generated session ID is invalid"⟩)
              else m.addSession (m.newSession request sessionID now) visited now

/-- The deadline of a job: that of its session where none is asked for. -/
def jobExpiry (session : DiagnosticSession) (request : RegisterJobRequest) :
    Time :=
  if request.expiresAt.isZero then session.expiresAt else request.expiresAt

/-- The job `RegisterJob` adds to a session. -/
def newJob (session : DiagnosticSession) (request : RegisterJobRequest)
    (jobID nonce : Text) (now : Time) : DiagnosticJob :=
  { schemaVersion := jobSchemaVersion
    jobID := jobID
    sessionID := session.sessionID
    agentID := request.agentID
    nonce := nonce
    stableID := session.stableID
    configGeneration := session.configGeneration
    configFingerprint := session.configFingerprint
    profile := request.profile
    createdAt := now
    expiresAt := jobExpiry session request
    state := .pending }

/-- What `RegisterJob` asks of the session. -/
def registrable (request : RegisterJobRequest) :
    Except DiagnosticError DiagnosticSession :=
  match m.sessions[request.sessionID]? with
  | none => .error { kind := .unknownSession }
  | some session => do
      activeSessionError session.state
      if !session.requestedAgents.elem request.agentID then
        .error ⟨.invalidRequest, "agent was not requested"⟩
      else if session.jobs.any (·.agentID = request.agentID) then
        .error { kind := .duplicateJob }
      else .ok session

/-- The generated identities, the index of the jobs and the deadline allow the
job. -/
def checkedBinding (session : DiagnosticSession) (request : RegisterJobRequest)
    (jobID nonce : Except Text Text) (now : Time) :
    Except DiagnosticError (Text × Text) :=
  match jobID, nonce with
  | .error error, _ => .error ⟨.foreign, "generate job ID: " ++ error⟩
  | .ok _, .error error => .error ⟨.foreign, "generate job nonce: " ++ error⟩
  | .ok jobID, .ok nonce =>
      if !validToken jobID || !validToken nonce then
        .error ⟨.invalidRequest, "generated job binding is invalid"⟩
      else if m.jobs.contains jobID then
        .error ⟨.invalidRequest, "duplicate generated job ID"⟩
      else if m.reservedNonces.contains (nonceKey request.agentID nonce) then
        .error ⟨.invalidRequest, "duplicate generated job nonce"⟩
      else if jobExpiry session request ≤ now ∨
          session.expiresAt < jobExpiry session request then
        .error ⟨.invalidRequest,
          "job expiry must be within the session deadline"⟩
      else .ok (jobID, nonce)

/-- The manager with a job added to a session of its own. -/
def addJob (session : DiagnosticSession) (job : DiagnosticJob) (now : Time) :
    DiagnosticSessionManager :=
  let next : DiagnosticSession := { session with jobs := session.jobs ++ [job] }
  { m with
    sessions := m.sessions.insert session.sessionID (next.deriveState now)
    jobs := m.jobs.insert job.jobID ⟨session.sessionID, session.jobs.length⟩
    reservedNonces :=
      m.reservedNonces.insert (nonceKey job.agentID job.nonce) job.jobID }

/-- `RegisterJob`; `jobID` and `nonce` are what the generator returns. -/
def registerJob (request : RegisterJobRequest) (jobID nonce : Except Text Text)
    (now : Time) :
    DiagnosticSessionManager × Except DiagnosticError DiagnosticJob :=
  let request :=
    { request with
      sessionID := trimSpace request.sessionID
      agentID := trimSpace request.agentID }
  if !validToken request.sessionID || !validToken request.agentID then
    (m, .error ⟨.invalidRequest, "sessionId and agentId are required"⟩)
  else
    match validateProfile request.profile with
    | .error error => (m, .error error)
    | .ok () =>
        let m := m.expire now
        match m.registrable request with
        | .error error => (m, .error error)
        | .ok session =>
            match m.checkedBinding session request jobID nonce now with
            | .error error => (m, .error error)
            | .ok (jobID, nonce) =>
                let job := newJob session request jobID nonce now
                (m.addJob session job now, .ok job)

/-- The transitions of `transitionJob`. -/
def allowedTransition (next current : JobState) : Bool :=
  match next with
  | .dispatched => current = .pending
  | .running => current = .pending || current = .dispatched
  | _ => false

/-- `transitionJob`. -/
def transitionJob (jobID : Text) (next : JobState) (now : Time) :
    DiagnosticSessionManager × Except DiagnosticError Unit :=
  let m := m.expire now
  match m.jobAt (trimSpace jobID) with
  | .error error => (m, .error error)
  | .ok (session, index, job) =>
      match activeSessionError session.state with
      | .error error => (m, .error error)
      | .ok () =>
          if !allowedTransition next job.state then
            (m, .error { kind := .invalidTransition })
          else
            ({ m with
                sessions := m.sessions.insert session.sessionID
                  ((session.setJobState index next).deriveState now) },
              .ok ())

/-- `MarkJobDispatched`. -/
def markJobDispatched (jobID : Text) (now : Time) :
    DiagnosticSessionManager × Except DiagnosticError Unit :=
  m.transitionJob jobID .dispatched now

/-- `MarkJobRunning`. -/
def markJobRunning (jobID : Text) (now : Time) :
    DiagnosticSessionManager × Except DiagnosticError Unit :=
  m.transitionJob jobID .running now

/-- The verifier of signatures: what it objects to, if anything.  The payload
is the observation without its signature. -/
abbrev Verifier := Text → Observation → List UInt8 → Option Text

/-- What `AcceptObservation` asks of an observation of a job, in order. -/
def bound (verify : Verifier) (observation : Observation)
    (session : DiagnosticSession) (job : DiagnosticJob) (now : Time) :
    Except DiagnosticError Unit := do
  validateObservationTime observation.checkedAt now job.createdAt job.expiresAt
    m.config.observationMaxAge m.config.clockSkew
  match verify observation.agentID observation.unsigned
      observation.signature with
  | some objection => .error ⟨.invalidSignature, objection⟩
  | none =>
      if job.state = .completed then .error { kind := .duplicateObservation }
      else do
        activeSessionError session.state
        if m.usedNonces.contains
            (nonceKey observation.agentID observation.nonce) then
          .error { kind := .replayObservation }
        else if observation.configGeneration ≠ job.configGeneration ∨
            observation.configGeneration ≠ session.configGeneration then
          .error { kind := .staleGeneration }
        else if observation.schemaVersion ≠ observationSchemaVersion ∨
            observation.sessionID ≠ job.sessionID ∨
            observation.agentID ≠ job.agentID ∨
            observation.nonce ≠ job.nonce ∨
            observation.stableID ≠ job.stableID ∨
            observation.configFingerprint ≠ job.configFingerprint ∨
            observation.endpointProfile ≠ job.profile.id then
          .error { kind := .bindingMismatch }
        else if observation.alternativeEndpoint.any (fun alternative =>
            job.profile.alternativeProfileID = [] ∨
              alternative.profileID ≠ job.profile.alternativeProfileID) then
          .error { kind := .bindingMismatch }
        else if observation.speedServerID ≠ [] ∧
            observation.speedServerID ≠ job.profile.serverID then
          .error { kind := .bindingMismatch }
        else .ok ()

/-- The record kept of an accepted observation. -/
def accepted (observation : Observation) (now : Time) : AcceptedObservation :=
  { observation := observation
    acceptedAt := now
    reliable := observation.directConnectivity.checked &&
      observation.directConnectivity.online }

/-- The manager with an observation added to the job at `index`. -/
def addObservation (session : DiagnosticSession) (index : Nat)
    (observation : Observation) (now : Time) : DiagnosticSessionManager :=
  let next : DiagnosticSession :=
    { session.setJobState index .completed with
      agentObservations :=
        session.agentObservations ++ [accepted observation now] }
  { m with
    sessions := m.sessions.insert session.sessionID (next.deriveState now)
    usedNonces := m.usedNonces.insert
      (nonceKey observation.agentID observation.nonce) () }

/-- `AcceptObservation`. -/
def acceptObservation (verify : Verifier) (observation : Observation)
    (now : Time) :
    DiagnosticSessionManager × Except DiagnosticError AcceptedObservation :=
  match validateObservation observation with
  | .error error => (m, .error error)
  | .ok () =>
      let m := m.expire now
      match m.jobAt observation.jobID with
      | .error error => (m, .error error)
      | .ok (session, index, job) =>
          match m.bound verify observation session job now with
          | .error error => (m, .error error)
          | .ok () =>
              (m.addObservation session index observation now,
                .ok (accepted observation now))

/-- `DeleteSession`. -/
def deleteSession (sessionID : Text) :
    DiagnosticSessionManager × Except DiagnosticError Unit :=
  if m.sessions.contains (trimSpace sessionID) then
    (m.removeSession (trimSpace sessionID), .ok ())
  else (m, .error { kind := .unknownSession })

/-- `DeleteSessions`. -/
def deleteSessions (stableID : Text) : DiagnosticSessionManager × Nat :=
  let doomed := (m.sessions.toList.filter fun entry =>
    trimSpace stableID = [] ∨ entry.2.stableID = trimSpace stableID).map (·.1)
  (doomed.foldl removeSession m, doomed.length)

/-- `CancelSession`. -/
def cancelSession (sessionID : Text) (now : Time) :
    DiagnosticSessionManager × Except DiagnosticError Unit :=
  let m := m.expire now
  match m.sessions[trimSpace sessionID]? with
  | none => (m, .error { kind := .unknownSession })
  | some session =>
      if session.state.terminal then
        (m, .error { kind := .invalidTransition })
      else
        ({ m with
            sessions := m.sessions.insert
              (trimSpace sessionID) session.cancel },
          .ok ())

/-- `Session`, which `ExportSession` reads as well. -/
def session (sessionID : Text) (now : Time) :
    DiagnosticSessionManager × Option DiagnosticSession :=
  let m := m.expire now
  (m, m.sessions[trimSpace sessionID]?)

/-- `Sessions`: the newest first. -/
def listSessions (now : Time) :
    DiagnosticSessionManager × List DiagnosticSession :=
  let m := m.expire now
  (m, (m.sessions.toList.map (·.2)).insertionSort
    fun a b => b.createdAt ≤ a.createdAt)

end DiagnosticSessionManager

end XrayChecker.Diagnostics

import XrayChecker.Remoteprobe.Controller

/-
The controller beside itself.  Sessions live in the manager under one lock,
assignments in the queue under another: `Cancel`, `Delete`, `Clear` and
`AcceptObservation` take the first, let go of it, and then take the second,
which a creation and a claim hold from beginning to end.
-/

namespace XrayChecker.Remoteprobe

open Go Diagnostics Probeagent Checker

variable {Addr : Type} [DecidableEq Addr]

/-- The calls that take a session, or its job, away from the agents. -/
inductive Withdrawal where
  | cancel (sessionID : Text)
  | delete (sessionID : Text)
  | clear (stableID : Text)
  | accept (observation : Observation)
deriving DecidableEq

namespace Withdrawal

/-- The part under the lock of the manager, and the sessions it is about where
it succeeds. -/
def begin (library : Library Addr) (verify : DiagnosticSessionManager.Verifier)
    (c : Controller) (now : Time) :
    Withdrawal → DiagnosticSessionManager × Option (List Text)
  | .cancel sessionID =>
      match c.manager.cancelSession sessionID now with
      | (manager, .ok ()) => (manager, some [trimSpace sessionID])
      | (manager, .error _) => (manager, none)
  | .delete sessionID =>
      match c.manager.deleteSession (trimSpace sessionID) with
      | (manager, .ok ()) => (manager, some [trimSpace sessionID])
      | (manager, .error _) => (manager, none)
  | .clear stableID =>
      ((c.manager.deleteSessions (trimSpace stableID)).1,
        some ((c.manager.sessions.toList.filter fun entry =>
          trimSpace stableID = [] ∨
            entry.2.stableID = trimSpace stableID).map (·.1)))
  | .accept observation =>
      match c.executionSnapshot library observation.stableID with
      | .error _ => (c.manager, none)
      | .ok (snapshot, _, fingerprint) =>
          if snapshot.generation ≠ observation.configGeneration ∨
              fingerprint ≠ observation.configFingerprint then
            (c.manager, none)
          else
            match c.manager.acceptObservation verify observation now with
            | (manager, .ok _) => (manager, some [observation.sessionID])
            | (manager, .error _) => (manager, none)

/-- The part under the lock of the queue: the assignments that go. -/
def drops (jobID : Text) (job : DiagnosticJob) : Withdrawal → Bool
  | .cancel sessionID => job.sessionID = sessionID
  | .delete sessionID => job.sessionID = trimSpace sessionID
  | .clear stableID =>
      trimSpace stableID = [] ∨ job.stableID = trimSpace stableID
  | .accept observation => jobID = observation.jobID

end Withdrawal

/-- A withdrawal between its two parts. -/
structure Started where
  call : Withdrawal
  covered : List Text
deriving DecidableEq

/-- The controller with the calls in progress. -/
structure World where
  controller : Controller
  started : List Started := []
  /-- The sessions whose withdrawal has returned. -/
  withdrawn : List Text := []
  /-- The session IDs the generator returned. -/
  issued : List Text := []

/-- What a creation hands to the session manager. -/
structure Prepared where
  request : CreateSessionRequest
  agentID : Text
  profile : TestProfile
  snapshot : DiagnosticProxySnapshot
  config : Bytes

namespace Controller

variable (library : Library Addr) (c : Controller)

/-- `createTargeted` as far as the session manager is not asked. -/
def prepareTargeted (request : TargetedRequest) (outside : Outside Addr) :
    Controller × Except ControllerError Prepared :=
  if !c.isEnabled then (c, .error .disabled)
  else if request.trigger.automatic && c.checker.projectMaintenance then
    (c, .error .automaticPaused)
  else
    let agentID := trimSpace request.agentID
    match c.registry.agent agentID outside.now with
    | none => (c, .error .agentNotFound)
    | some agent =>
        if !available agent then (c, .error .unavailableAgent)
        else
          match c.resolveProfile request.profileID agent.capabilities with
          | .error error => (c, .error error)
          | .ok descriptor =>
              match c.executionSnapshot library
                (trimSpace request.stableID) with
              | .error error => (c, .error error)
              | .ok (snapshot, config, fingerprint) =>
                  if snapshot.maintenance && request.trigger.automatic then
                    (c, .error .automaticPaused)
                  else
                    let c := c.removeExpiredAssignments outside.now
                    if c.assignments.toList.any fun queued =>
                        queued.2.assignment.job.stableID =
                            snapshot.proxy.stableID &&
                          queued.2.assignment.job.agentID = agentID then
                      (c, .error .activeSession)
                    else
                      (c, .ok
                        { request :=
                            { stableID := snapshot.proxy.stableID
                              trigger := request.trigger
                              configGeneration := snapshot.generation
                              configFingerprint := fingerprint
                              localResultSnapshot := localResult snapshot
                              requestedAgents := [agentID]
                              maintenanceDiagnostic := snapshot.maintenance
                              expiresAt := c.deadline outside.now }
                          agentID := agentID
                          profile := descriptor.testProfileFor
                            (alternativeID descriptor agent.capabilities)
                          snapshot := snapshot
                          config := config })

/-- `CreateAutomatic` as far as the session manager is not asked. -/
def prepareAutomatic (request : CreateAutomaticRequest)
    (outside : Outside Addr) : Controller × Except ControllerError Prepared :=
  if !c.isEnabled then (c, .error .disabled)
  else if !automaticTrigger request.trigger then (c, .error .unsupportedTrigger)
  else if c.checker.projectMaintenance then (c, .error .automaticPaused)
  else
    match profileByID (trimSpace request.profileID) with
    | none => (c, .error .unknownProfile)
    | some descriptor =>
        match c.executionSnapshot library (trimSpace request.stableID) with
        | .error error => (c, .error error)
        | .ok (snapshot, config, fingerprint) =>
            if snapshot.maintenance || c.checker.projectMaintenance then
              (c, .error .automaticPaused)
            else
              match nodeHostAddresses library snapshot.proxy.server
                  outside.resolved with
              | .error error => (c, .error error)
              | .ok nodeHost =>
                  let agents := byLiveness (c.registry.snapshots outside.now)
                  let c := c.removeExpiredAssignments outside.now
                  let free := agents.filter (c.idle · descriptor)
                  let eligible := free.filter fun agent =>
                    !runsOnNodeHost library agent nodeHost
                  match c.preferredAgent snapshot.proxy.stableID eligible with
                  | none =>
                      if free.isEmpty then (c, .error .unavailableAgent)
                      else (c, .error .onlyNodeHostAgent)
                  | some agent =>
                      (c, .ok
                        { request :=
                            { stableID := snapshot.proxy.stableID
                              trigger := request.trigger
                              configGeneration := snapshot.generation
                              configFingerprint := fingerprint
                              localResultSnapshot := localResult snapshot
                              automationContext := request.automationContext
                              requestedAgents := [agent.agentID]
                              expiresAt := c.deadline outside.now }
                          agentID := agent.agentID
                          profile := automaticProfile descriptor
                            (alternativeID descriptor agent.capabilities)
                            request.automationContext agent.capabilities
                          snapshot := snapshot
                          config := config })

/-- The rest of a creation beside which nothing happens. -/
def opened (outside : Outside Addr)
    (prepared : Controller × Except ControllerError Prepared) :
    Controller × Except ControllerError DiagnosticSession :=
  match prepared with
  | (c, .error error) => (c, .error error)
  | (c, .ok prepared) =>
      c.openSession prepared.request prepared.agentID prepared.profile
        prepared.snapshot prepared.config outside

omit [DecidableEq Addr] in
theorem createTargeted_eq (request : TargetedRequest)
    (outside : Outside Addr) :
    c.createTargeted library request outside =
      opened outside (c.prepareTargeted library request outside) := by
  rw [createTargeted, prepareTargeted]
  by_cases hon : (!c.isEnabled) = true
  · rw [if_pos hon, if_pos hon, opened]
  rw [if_neg hon, if_neg hon]
  by_cases hpaused :
      (request.trigger.automatic && c.checker.projectMaintenance) = true
  · rw [if_pos hpaused, if_pos hpaused, opened]
  rw [if_neg hpaused, if_neg hpaused]
  dsimp only
  cases c.registry.agent (trimSpace request.agentID) outside.now with
  | none => rfl
  | some agent =>
      dsimp only
      by_cases havailable : (!available agent) = true
      · rw [if_pos havailable, if_pos havailable, opened]
      rw [if_neg havailable, if_neg havailable]
      cases c.resolveProfile request.profileID agent.capabilities with
      | error error => rfl
      | ok descriptor =>
          dsimp only
          cases c.executionSnapshot library (trimSpace request.stableID) with
          | error error => rfl
          | ok found =>
              obtain ⟨snapshot, config, fingerprint⟩ := found
              dsimp only
              split
              · rfl
              · split
                · rfl
                · rfl

theorem createAutomatic_eq (request : CreateAutomaticRequest)
    (outside : Outside Addr) :
    c.createAutomatic library request outside =
      opened outside (c.prepareAutomatic library request outside) := by
  rw [createAutomatic, prepareAutomatic]
  by_cases hon : (!c.isEnabled) = true
  · rw [if_pos hon, if_pos hon, opened]
  rw [if_neg hon, if_neg hon]
  by_cases htrigger : (!automaticTrigger request.trigger) = true
  · rw [if_pos htrigger, if_pos htrigger, opened]
  rw [if_neg htrigger, if_neg htrigger]
  by_cases hpaused : c.checker.projectMaintenance = true
  · rw [if_pos hpaused, if_pos hpaused, opened]
  rw [if_neg hpaused, if_neg hpaused]
  cases profileByID (trimSpace request.profileID) with
  | none => rfl
  | some descriptor =>
      dsimp only
      cases c.executionSnapshot library (trimSpace request.stableID) with
      | error error => rfl
      | ok found =>
          obtain ⟨snapshot, config, fingerprint⟩ := found
          dsimp only
          split
          · rfl
          · cases nodeHostAddresses library snapshot.proxy.server
                outside.resolved with
            | error error => rfl
            | ok nodeHost =>
                dsimp only
                generalize (c.removeExpiredAssignments
                  outside.now).preferredAgent _ _ = preferred
                cases preferred with
                | none =>
                    dsimp only
                    split
                    · rfl
                    · rfl
                | some agent => rfl

end Controller

namespace Creation

variable (library : Library Addr)

/-- A creation as far as the session manager is not asked. -/
def prepare (c : Controller) (outside : Outside Addr) :
    Creation → Controller × Except ControllerError Prepared
  | .manual request =>
      c.prepareTargeted library
        { stableID := request.stableID, agentID := request.agentID
          profileID := request.profileID, trigger := .manual } outside
  | .sweep request =>
      c.prepareTargeted library
        { stableID := request.stableID, agentID := request.agentID
          profileID := request.profileID, trigger := .reachabilitySweep }
        outside
  | .automatic request => c.prepareAutomatic library request outside

theorem run_eq (creation : Creation) (c : Controller)
    (outside : Outside Addr) :
    creation.run library c outside =
      Controller.opened outside (creation.prepare library c outside) := by
  cases creation with
  | manual request => exact c.createTargeted_eq library _ outside
  | sweep request => exact c.createTargeted_eq library _ outside
  | automatic request => exact c.createAutomatic_eq library request outside

end Creation

/-- A withdrawal that starts at some time. -/
abbrev Start := Withdrawal × Time

namespace World

variable (library : Library Addr)
  (verify : DiagnosticSessionManager.Verifier)

def withManager (w : World) (manager : DiagnosticSessionManager) : World :=
  { w with controller := { w.controller with manager := manager } }

def withQueue (w : World) (assignments : GoMap Text QueuedAssignment) :
    World :=
  { w with controller := { w.controller with assignments := assignments } }

/-- The first part of a withdrawal. -/
def start (w : World) (call : Start) : World :=
  match call.1.begin library verify w.controller call.2 with
  | (manager, none) => w.withManager manager
  | (manager, some covered) =>
      { w.withManager manager with
        started := w.started ++ [{ call := call.1, covered := covered }] }

/-- What other goroutines start meanwhile. -/
def starts (w : World) (calls : List Start) : World :=
  calls.foldl (start library verify) w

/-- The second part of a withdrawal, after which it returns. -/
def finish (w : World) (index : Nat) : World :=
  match w.started[index]? with
  | none => w
  | some withdrawal =>
      { w.withQueue (w.controller.assignments.filter fun jobID queued =>
          !withdrawal.call.drops jobID queued.assignment.job) with
        started := w.started.eraseIdx index
        withdrawn := w.withdrawn ++ withdrawal.covered }

/-- A creation, with what is started before and after `RegisterJob`.  Nothing
of that reads the queue, so the assignment is put in place at once. -/
def create (w : World) (creation : Creation) (outside : Outside Addr)
    (before after : List Start) : World :=
  match creation.prepare library w.controller outside with
  | (c, .error _) => { w with controller := c }
  | (c, .ok prepared) =>
      let w := { w with
        controller := c
        issued := w.issued ++ outside.sessionID.toOption.toList }
      match w.controller.manager.createSession prepared.request
          outside.sessionID outside.visited outside.createdAt with
      | (manager, .error _) => w.withManager manager
      | (manager, .ok session) =>
          let w := (w.withManager manager).starts library verify before
          match w.controller.manager.registerJob
              { sessionID := session.sessionID, agentID := prepared.agentID
                profile := prepared.profile
                expiresAt := prepared.request.expiresAt }
              outside.jobID outside.nonce outside.registeredAt with
          | (manager, .error _) =>
              let w := (w.withManager manager).starts library verify after
              w.withManager (w.controller.manager.cancelSession
                session.sessionID outside.shownAt).1
          | (manager, .ok job) =>
              let queue := w.controller.assignments.insert job.jobID
                { assignment := w.controller.newAssignment prepared.snapshot
                    prepared.config job }
              let w := ((w.withManager manager).withQueue queue).starts library
                verify after
              w.withManager (w.controller.manager.session session.sessionID
                outside.shownAt).1

/-- The loop of `claimNow` as far as it looks for a job; `clock` is what the
clock shows at each. -/
def search (agentID : Text) (clock : Text → Time)
    (assignments : GoMap Text QueuedAssignment) :
    List Text → GoMap Text QueuedAssignment × Option (Text × QueuedAssignment)
  | [] => (assignments, none)
  | jobID :: rest =>
      match assignments[jobID]? with
      | none => search agentID clock assignments rest
      | some queued =>
          if queued.assignment.job.expiresAt ≤ clock jobID then
            search agentID clock (assignments.erase jobID) rest
          else if queued.assignment.job.agentID ≠ agentID then
            search agentID clock assignments rest
          else (assignments, some (jobID, queued))

/-- What a claim meets outside. -/
structure Claim where
  agentID : Text
  clock : Text → Time
  dispatchedAt : Time
  runningAt : Time
  /-- What is started between `MarkJobDispatched` and `MarkJobRunning`. -/
  between : List Start := []

/-- `claimNow`; without a job it answers with a channel to wait on. -/
def claimNow (w : World) (claim : Claim) :
    World × Except DiagnosticError (Option JobAssignment) :=
  match search claim.agentID claim.clock w.controller.assignments
      w.controller.assignments.keys with
  | (assignments, none) => (w.withQueue assignments, .ok none)
  | (assignments, some (jobID, queued)) =>
      let w := w.withQueue assignments
      if queued.claimed then (w, .ok (some queued.assignment))
      else
        match w.controller.manager.markJobDispatched jobID
            claim.dispatchedAt with
        | (manager, .error error) =>
            ((w.withManager manager).withQueue (assignments.erase jobID),
              .error error)
        | (manager, .ok ()) =>
            let w := (w.withManager manager).starts library verify
              claim.between
            match w.controller.manager.markJobRunning jobID
                claim.runningAt with
            | (manager, .error error) =>
                ((w.withManager manager).withQueue (assignments.erase jobID),
                  .error error)
            | (manager, .ok ()) =>
                ((w.withManager manager).withQueue
                    (assignments.insert jobID { queued with claimed := true }),
                  .ok (some queued.assignment))

inductive Event (Addr : Type) where
  | create (creation : Creation) (outside : Outside Addr)
      (before after : List Start)
  | claim (claim : Claim)
  | start (call : Start)
  | finish (index : Nat)
  /-- `Sessions`, which also prunes the queue. -/
  | sessions (readAt prunedAt : Time)
  /-- The node list and the agents change. -/
  | surroundings (registry : Store) (checker : ProxyChecker)

def step (w : World) : Event Addr → World
  | .create creation outside before after =>
      w.create library verify creation outside before after
  | .claim claim => (w.claimNow library verify claim).1
  | .start call => w.start library verify call
  | .finish index => w.finish index
  | .sessions readAt prunedAt =>
      let w := w.withManager (w.controller.manager.listSessions readAt).1
      { w with controller := w.controller.removeExpiredAssignments prunedAt }
  | .surroundings registry checker =>
      { w with
        controller :=
          { w.controller with registry := registry, checker := checker } }

end World

/-- A creation beside which nothing starts is the one of the controller. -/
theorem create_alone (library : Library Addr)
    (verify : DiagnosticSessionManager.Verifier) (w : World)
    (creation : Creation) (outside : Outside Addr) :
    (w.create library verify creation outside [] []).controller =
      (creation.run library w.controller outside).1 := by
  rw [Creation.run_eq, World.create]
  rcases creation.prepare library w.controller outside with
    ⟨c, error | prepared⟩
  · rfl
  · simp only [World.starts, List.foldl_nil, World.withManager,
      Controller.opened, Controller.openSession]
    rcases c.manager.createSession prepared.request outside.sessionID
      outside.visited outside.createdAt with ⟨manager, error | session⟩
    · rfl
    · dsimp only
      rcases manager.registerJob _ outside.jobID outside.nonce
        outside.registeredAt with ⟨next, error | job⟩
      · rfl
      · rfl

end XrayChecker.Remoteprobe

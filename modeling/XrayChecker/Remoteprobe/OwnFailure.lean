import XrayChecker.Checker.Classified
import XrayChecker.Diagnostics.LocalResult
import XrayChecker.Machine.Run
import XrayChecker.Remoteprobe.Controller

/-
Whether a failing node can be diagnosed: the local result of every status the
checker stores, and what becomes of a session because of it.
-/

namespace XrayChecker.Remoteprobe

open Go Machine Diagnostics Checker

/-- The node is down with the one code of the checker that the diagnostics do
not know. -/
def StreamClosed (snapshot : DiagnosticProxySnapshot) : Prop :=
  ∃ details ∈ snapshot.status, details.checkedAt.isZero = false ∧
    details.effectiveStatus ≠ .online ∧
    details.failure.code = failureCodeProxyStreamClosed

theorem milliseconds_nonneg {duration : Int} (h : 0 ≤ duration) :
    0 ≤ milliseconds duration :=
  Int.tdiv_nonneg h (by decide)

theorem validateCheckEvidence_checkEvidence {checked online : Bool}
    {latency : Int} {failureCode : Text}
    (h : PlausibleCheck checked online latency)
    (hcode : validFailureCode failureCode = true) :
    validateCheckEvidence (checkEvidence checked online latency failureCode) =
      .ok () := by
  have hlatency : ¬milliseconds latency < 0 :=
    Int.not_lt.mpr (milliseconds_nonneg h.nonneg)
  cases checked with
  | false =>
      obtain ⟨rfl, rfl⟩ := h.unmade rfl
      rfl
  | true =>
      cases online with
      | true => simp [validateCheckEvidence, checkEvidence, hlatency]
      | false => simp [validateCheckEvidence, checkEvidence, hlatency, hcode]

theorem validFailureStage_failureStage (code : Text) :
    validFailureStage (failureStage code) = true := by
  unfold failureStage
  split_ifs <;> rfl

/-- The diagnostics know every code of the checker but one. -/
theorem validFailureCode_localFailure {details : ProxyStatusDetails}
    (h : details.failure.Known) :
    validFailureCode (localFailure details).code = true ↔
      details.failure.code ≠ failureCodeProxyStreamClosed := by
  have hcodes : ∀ code ∈ ([] : Text) :: failureCodes,
      (validFailureCode
          (if trimSpace code = [] then "unknown" else trimSpace code) = true ↔
        code ≠ failureCodeProxyStreamClosed) := by
    decide
  apply hcodes
  rcases h with hnone | hknown
  · rw [hnone]
    exact List.mem_cons_self
  · exact List.mem_cons_of_mem _ hknown

theorem validateProbeResult_localResult {details : ProxyStatusDetails}
    (h : details.failure.Known) :
    validateProbeResult (probeStatus details.effectiveStatus)
        (if details.effectiveStatus = .online then {}
          else localFailure details) = .ok () ↔
      details.effectiveStatus = .online ∨
        details.failure.code ≠ failureCodeProxyStreamClosed := by
  have hstage : validFailureStage (localFailure details).stage = true :=
    validFailureStage_failureStage _
  rw [← validFailureCode_localFailure h]
  cases hstatus : details.effectiveStatus with
  | unset => exact absurd hstatus details.effectiveStatus_ne_unset
  | online => simp [probeStatus, validateProbeResult]
  | proxyFailure =>
      simp [probeStatus, validateProbeResult, hstage, invalidRequest]
  | offline => simp [probeStatus, validateProbeResult, hstage, invalidRequest]

theorem validateEvidence_localResult {details : ProxyStatusDetails}
    (h : Classified details) :
    validateEvidence "invalid local connectivity evidence"
      [checkEvidence details.hostCheck.checked details.hostCheck.online
          details.hostCheck.latency "tcp_timeout",
        checkEvidence details.pingCheck.checked details.pingCheck.online
          details.pingCheck.latency "host_unreachable"] = .ok () := by
  simp only [validateEvidence,
    validateCheckEvidence_checkEvidence h.host
      (by decide : validFailureCode "tcp_timeout" = true),
    validateCheckEvidence_checkEvidence h.ping
      (by decide : validFailureCode "host_unreachable" = true)]

/-- The local result of a stored status is accepted unless its code is the
unknown one. -/
theorem localResult_valid_iff {snapshot : DiagnosticProxySnapshot}
    (h : ∀ details ∈ snapshot.status, Classified details) :
    validateLocalResultSnapshot (localResult snapshot) = .ok () ↔
      ¬StreamClosed snapshot := by
  unfold localResult StreamClosed
  cases hstatus : snapshot.status with
  | none =>
      simp [validateLocalResultSnapshot, validateLocalStatus, validateEvidence,
        validateCheckEvidence, bind, Except.bind]
  | some details =>
      have hdetails := h details hstatus
      simp only [Option.mem_def, Option.some.injEq, exists_eq_left']
      cases hchecked : details.checkedAt.isZero with
      | true =>
          simp [validateLocalResultSnapshot, validateLocalStatus,
            validateEvidence, validateCheckEvidence, bind, Except.bind]
      | false =>
          have hlatency : ¬milliseconds details.latency < 0 :=
            Int.not_lt.mpr (milliseconds_nonneg hdetails.latency)
          have hevidence := validateEvidence_localResult hdetails
          have hprobe := validateProbeResult_localResult hdetails.failure
          simp only [validateLocalResultSnapshot, Bool.false_eq_true,
            ↓reduceIte, hlatency, hevidence, true_and]
          have hstatus : validateLocalStatus
              { status := probeStatus details.effectiveStatus
                checkedAt := details.checkedAt
                latencyMillis := milliseconds details.latency
                failure :=
                  if details.effectiveStatus = .online then {}
                  else localFailure details
                tcp := checkEvidence details.hostCheck.checked
                  details.hostCheck.online details.hostCheck.latency
                  "tcp_timeout"
                ping := checkEvidence details.pingCheck.checked
                  details.pingCheck.online details.pingCheck.latency
                  "host_unreachable" } =
              validateProbeResult (probeStatus details.effectiveStatus)
                (if details.effectiveStatus = .online then {}
                  else localFailure details) := by
            have hset := details.effectiveStatus_ne_unset
            cases heffective : details.effectiveStatus with
            | unset => exact absurd heffective hset
            | online => simp [validateLocalStatus, probeStatus, hchecked]
            | proxyFailure => simp [validateLocalStatus, probeStatus, hchecked]
            | offline => simp [validateLocalStatus, probeStatus, hchecked]
          rw [hstatus]
          have hbind : ∀ answer : Except DiagnosticError Unit,
              (answer >>= fun _ => Except.ok ()) = .ok () ↔
                answer = .ok () := by
            intro answer
            cases answer with
            | error error => simp [bind, Except.bind]
            | ok value => simp [bind, Except.bind]
          rw [hbind, hprobe]
          tauto

def Creation.stableID : Creation → Text
  | .manual request => request.stableID
  | .sweep request => request.stableID
  | .automatic request => request.stableID

section

variable {Addr : Type} [DecidableEq Addr] (library : Library Addr)

/-- The controller as if its checker had no status of the node yet. -/
def Controller.withoutStatus (c : Controller) (stableID : Text) : Controller :=
  { c with
    checker :=
      { c.checker with
        statusDetails := c.checker.statusDetails.erase (trimSpace stableID) } }

/-- The answer is `ErrInvalidRequest`. -/
def AnswersInvalid (answer : Except ControllerError DiagnosticSession) : Prop :=
  ∃ error, answer = .error error ∧ error.invalidRequest = true

/-- The session is refused as invalid because of the node's own failure: it is
not when nothing is known of the node. -/
def Blamed (creation : Creation) (c : Controller) (outside : Outside Addr) :
    Prop :=
  AnswersInvalid (creation.run library c outside).2 ∧
    ¬AnswersInvalid (creation.run library (c.withoutStatus creation.stableID)
      outside).2

end

section

variable {Addr : Type} [DecidableEq Addr] {library : Library Addr}

omit [DecidableEq Addr] in
theorem diagnosticSnapshot_withoutStatus (c : Controller) (stableID : Text) :
    (c.withoutStatus stableID).checker.diagnosticSnapshot library.options
        (trimSpace stableID) =
      (c.checker.diagnosticSnapshot library.options (trimSpace stableID)).map
        fun found => { found with status := none } := by
  have hnode : ∀ id : Text,
      (c.withoutStatus stableID).checker.getProxyByStableID library.options id =
        c.checker.getProxyByStableID library.options id := fun _ => rfl
  have hgone : (c.withoutStatus stableID).checker.statusDetailsByStableID
      (trimSpace stableID) = none := by
    unfold ProxyChecker.statusDetailsByStableID
    split
    · rfl
    · simp [Controller.withoutStatus]
  simp only [ProxyChecker.diagnosticSnapshot, trimSpace_idem, hnode, hgone]
  by_cases hempty : trimSpace stableID = []
  · rw [if_pos hempty, if_pos hempty]
    rfl
  · rw [if_neg hempty, if_neg hempty]
    cases c.checker.getProxyByStableID library.options (trimSpace stableID) with
    | none => rfl
    | some proxy => rfl

omit [DecidableEq Addr] in
theorem executionSnapshot_withoutStatus (c : Controller) (stableID : Text) :
    (c.withoutStatus stableID).executionSnapshot library (trimSpace stableID) =
      (c.executionSnapshot library (trimSpace stableID)).map fun found =>
        ({ found.1 with status := none }, found.2) := by
  have hsocks : (c.withoutStatus stableID).config.socksPort =
      c.config.socksPort := rfl
  simp only [Controller.executionSnapshot, diagnosticSnapshot_withoutStatus,
    hsocks]
  cases c.checker.diagnosticSnapshot library.options (trimSpace stableID) with
  | error text => rfl
  | ok snapshot =>
      simp only [Except.map]
      cases library.generateConfig { snapshot.proxy with index := 0 }
          c.config.socksPort with
      | error text => rfl
      | ok config =>
          simp only
          split <;> rfl

omit [DecidableEq Addr] in
/-- The answer to a session request comes from the manager alone. -/
theorem openSession_answer {c c' : Controller} (h : c'.manager = c.manager)
    (request : CreateSessionRequest) (agentID : Text) (profile : TestProfile)
    (snapshot snapshot' : DiagnosticProxySnapshot) (config : Bytes)
    (outside : Outside Addr) :
    (c'.openSession request agentID profile snapshot' config outside).2 =
      (c.openSession request agentID profile snapshot config outside).2 := by
  simp only [Controller.openSession, h]
  split
  · rfl
  · split <;> rfl

/-- A creation is refused before it looks at the status of the node, or asks
the manager for the same session with the local result of that status. -/
structure Asks (library : Library Addr) (creation : Creation) (c : Controller)
    (outside : Outside Addr) (snapshot : DiagnosticProxySnapshot)
    (request : CreateSessionRequest) : Prop where
  found : c.checker.diagnosticSnapshot library.options
    (trimSpace creation.stableID) = .ok snapshot
  localResult : request.localResultSnapshot = localResult snapshot
  asked : ∃ agentID profile config,
    (creation.run library c outside).2 =
      (c.openSession request agentID profile snapshot config outside).2 ∧
    (creation.run library (c.withoutStatus creation.stableID) outside).2 =
      (c.openSession (request.withLocal { status := .unknown }) agentID profile
        snapshot config outside).2

omit [DecidableEq Addr] in
theorem executionSnapshot_found {c : Controller} {stableID : Text}
    {snapshot : DiagnosticProxySnapshot} {rest : Bytes × Text}
    (h : c.executionSnapshot library stableID = .ok (snapshot, rest)) :
    c.checker.diagnosticSnapshot library.options stableID = .ok snapshot := by
  unfold Controller.executionSnapshot at h
  split at h
  · cases h
  · rename_i found hfound
    split at h
    · cases h
    · split at h
      · cases h
      · cases h
        exact hfound

/-- Refused alike with and without the status, or asked of the manager. -/
def RefusedOrAsked (library : Library Addr) (creation : Creation)
    (c : Controller) (outside : Outside Addr) : Prop :=
  (∃ error, (creation.run library c outside).2 = .error error ∧
    (creation.run library (c.withoutStatus creation.stableID) outside).2 =
      .error error) ∨
  ∃ snapshot request, Asks library creation c outside snapshot request

theorem createTargeted_cases (c : Controller) (creation : Creation)
    (request : Controller.TargetedRequest) (outside : Outside Addr)
    (hrun : ∀ c, creation.run library c outside =
      c.createTargeted library request outside)
    (hid : request.stableID = creation.stableID) :
    RefusedOrAsked library creation c outside := by
  have hsnapshot := @executionSnapshot_withoutStatus _ library c
    creation.stableID
  have hunstatused : ∀ error,
      (c.createTargeted library request outside).2 = .error error →
      ((c.withoutStatus creation.stableID).createTargeted library request
        outside).2 = .error error →
      RefusedOrAsked library creation c outside := by
    intro error hwith hwithout
    exact Or.inl ⟨error, by rw [hrun, hwith], by rw [hrun, hwithout]⟩
  have henabled : (c.withoutStatus creation.stableID).isEnabled = c.isEnabled :=
    rfl
  have hpaused : (c.withoutStatus creation.stableID).checker.projectMaintenance =
      c.checker.projectMaintenance := rfl
  have hregistry : (c.withoutStatus creation.stableID).registry = c.registry :=
    rfl
  have hexpired : ((c.withoutStatus
      creation.stableID).removeExpiredAssignments outside.now).assignments =
      (c.removeExpiredAssignments outside.now).assignments := rfl
  have hprofile : ∀ requested capabilities,
      (c.withoutStatus creation.stableID).resolveProfile requested
        capabilities = c.resolveProfile requested capabilities :=
    fun _ _ => rfl
  by_cases hon : c.isEnabled = true
  · by_cases hmaintenance :
        (request.trigger.automatic && c.checker.projectMaintenance) = true
    · refine hunstatused .automaticPaused ?_ ?_ <;>
        simp [Controller.createTargeted, henabled, hpaused, hon, hmaintenance]
    · cases hagent : c.registry.agent (trimSpace request.agentID)
          outside.now with
      | none =>
          refine hunstatused .agentNotFound ?_ ?_ <;>
            simp only [Controller.createTargeted, henabled, hpaused, hon,
              hmaintenance, hregistry, hagent, Bool.not_true,
              Bool.false_eq_true, ↓reduceIte]
      | some agent =>
          by_cases havailable : Controller.available agent = true
          · cases hresolved : c.resolveProfile request.profileID
                agent.capabilities with
            | error error =>
                refine hunstatused error ?_ ?_ <;>
                  simp only [Controller.createTargeted, henabled, hpaused, hon,
                    hmaintenance, hregistry, hagent, hprofile, havailable,
                    hresolved, Bool.not_true, Bool.false_eq_true, ↓reduceIte]
            | ok descriptor =>
                cases hfound : c.executionSnapshot library
                    (trimSpace creation.stableID) with
                | error error =>
                    rw [hfound] at hsnapshot
                    refine hunstatused error ?_ ?_ <;>
                      simp only [Controller.createTargeted, henabled, hpaused,
                        hon, hmaintenance, hregistry, hagent, hprofile, hid,
                        havailable, hresolved, hfound, hsnapshot, Except.map,
                        Bool.not_true, Bool.false_eq_true, ↓reduceIte]
                | ok found =>
                    obtain ⟨snapshot, config, fingerprint⟩ := found
                    have hasked := executionSnapshot_found hfound
                    rw [hfound] at hsnapshot
                    simp only [Except.map] at hsnapshot
                    by_cases hpausedNode : (snapshot.maintenance &&
                        request.trigger.automatic) = true
                    · refine hunstatused .automaticPaused ?_ ?_ <;>
                        simp only [Controller.createTargeted, henabled, hpaused,
                          hon, hmaintenance, hregistry, hagent, hprofile, hid,
                          havailable, hresolved, hfound, hsnapshot, hpausedNode,
                          Bool.not_true, Bool.false_eq_true, ↓reduceIte]
                    · by_cases hbusy : ((c.removeExpiredAssignments
                          outside.now).assignments.toList.any fun queued =>
                          queued.2.assignment.job.stableID =
                              snapshot.proxy.stableID &&
                            queued.2.assignment.job.agentID =
                              trimSpace request.agentID) = true
                      · refine hunstatused .activeSession ?_ ?_ <;>
                          simp only [Controller.createTargeted, henabled,
                            hpaused, hon, hmaintenance, hregistry, hagent,
                            hprofile, hid, havailable, hresolved, hfound,
                            hsnapshot, hpausedNode, hexpired, hbusy,
                            Bool.not_true, Bool.false_eq_true, ↓reduceIte]
                      · refine Or.inr ⟨snapshot,
                          { stableID := snapshot.proxy.stableID
                            trigger := request.trigger
                            configGeneration := snapshot.generation
                            configFingerprint := fingerprint
                            localResultSnapshot := localResult snapshot
                            requestedAgents := [trimSpace request.agentID]
                            maintenanceDiagnostic := snapshot.maintenance
                            expiresAt := c.deadline outside.now },
                          hasked, rfl, trimSpace request.agentID,
                          descriptor.testProfileFor
                            (Controller.alternativeID descriptor
                              agent.capabilities), config, ?_, ?_⟩
                        · simp only [hrun, Controller.createTargeted, hon,
                            hmaintenance, hagent, hid, havailable, hresolved,
                            hfound, hpausedNode, hbusy, Bool.not_true,
                            Bool.false_eq_true, ↓reduceIte]
                          refine openSession_answer ?_ _ _ _ _ _ _ _
                          rfl
                        · simp only [hrun, Controller.createTargeted, henabled,
                            hpaused, hon, hmaintenance, hregistry, hagent,
                            hprofile, hid, havailable, hresolved, hsnapshot,
                            hpausedNode, hexpired, hbusy, Bool.not_true,
                            Bool.false_eq_true, ↓reduceIte]
                          refine openSession_answer ?_ _ _ _ _ _ _ _
                          rfl
          · refine hunstatused .unavailableAgent ?_ ?_ <;>
              simp only [Controller.createTargeted, henabled, hpaused, hon,
                hmaintenance, hregistry, hagent, havailable, Bool.not_true,
                Bool.not_false, Bool.false_eq_true, ↓reduceIte]
  · refine hunstatused .disabled ?_ ?_ <;>
      simp [Controller.createTargeted, henabled, hon]

theorem createAutomatic_cases (c : Controller)
    (request : Controller.CreateAutomaticRequest) (outside : Outside Addr) :
    RefusedOrAsked library (.automatic request) c outside := by
  have hsnapshot := @executionSnapshot_withoutStatus _ library c
    request.stableID
  have hunstatused : ∀ error,
      (c.createAutomatic library request outside).2 = .error error →
      ((c.withoutStatus request.stableID).createAutomatic library request
        outside).2 = .error error →
      RefusedOrAsked library (.automatic request) c outside :=
    fun error hwith hwithout => Or.inl ⟨error, hwith, hwithout⟩
  have henabled : (c.withoutStatus request.stableID).isEnabled = c.isEnabled :=
    rfl
  have hpaused : (c.withoutStatus request.stableID).checker.projectMaintenance =
      c.checker.projectMaintenance := rfl
  have hregistry : (c.withoutStatus request.stableID).registry = c.registry :=
    rfl
  have hidle : ∀ agent descriptor,
      ((c.withoutStatus request.stableID).removeExpiredAssignments
        outside.now).idle agent descriptor =
      (c.removeExpiredAssignments outside.now).idle agent descriptor :=
    fun _ _ => rfl
  have hpreferred : ∀ id eligible,
      ((c.withoutStatus request.stableID).removeExpiredAssignments
        outside.now).preferredAgent id eligible =
      (c.removeExpiredAssignments outside.now).preferredAgent id eligible :=
    fun _ _ => rfl
  by_cases hon : c.isEnabled = true
  · by_cases htrigger : Controller.automaticTrigger request.trigger = true
    · by_cases hmaintenance : c.checker.projectMaintenance = true
      · refine hunstatused .automaticPaused ?_ ?_ <;>
          simp only [Controller.createAutomatic, henabled, hpaused, hon,
            htrigger, hmaintenance, Bool.not_true, Bool.false_eq_true,
            ↓reduceIte]
      · cases hprofile : profileByID (trimSpace request.profileID) with
        | none =>
            refine hunstatused .unknownProfile ?_ ?_ <;>
              simp only [Controller.createAutomatic, henabled, hpaused, hon,
                htrigger, hmaintenance, hprofile, Bool.not_true,
                Bool.false_eq_true, ↓reduceIte]
        | some descriptor =>
            cases hfound : c.executionSnapshot library
                (trimSpace request.stableID) with
            | error error =>
                rw [hfound] at hsnapshot
                refine hunstatused error ?_ ?_ <;>
                  simp only [Controller.createAutomatic, henabled, hpaused, hon,
                    htrigger, hmaintenance, hprofile, hfound, hsnapshot,
                    Except.map, Bool.not_true, Bool.false_eq_true, ↓reduceIte]
            | ok found =>
                obtain ⟨snapshot, config, fingerprint⟩ := found
                have hasked := executionSnapshot_found hfound
                rw [hfound] at hsnapshot
                simp only [Except.map] at hsnapshot
                by_cases hnode : snapshot.maintenance = true
                · refine hunstatused .automaticPaused ?_ ?_ <;>
                    simp only [Controller.createAutomatic, henabled, hpaused,
                      hon, htrigger, hmaintenance, hprofile, hfound, hsnapshot,
                      hnode, Bool.true_or, Bool.not_true, Bool.false_eq_true,
                      ↓reduceIte]
                · cases hhost : Controller.nodeHostAddresses library
                      snapshot.proxy.server outside.resolved with
                  | error error =>
                      refine hunstatused error ?_ ?_ <;>
                        simp only [Controller.createAutomatic, henabled,
                          hpaused, hon, htrigger, hmaintenance, hprofile,
                          hfound, hsnapshot, hnode, hhost, Bool.or_self,
                          Bool.not_true, Bool.false_eq_true, ↓reduceIte]
                  | ok nodeHost =>
                      let free := (Controller.byLiveness
                        (c.registry.snapshots outside.now)).filter
                          ((c.removeExpiredAssignments outside.now).idle ·
                            descriptor)
                      cases hagent : (c.removeExpiredAssignments
                          outside.now).preferredAgent snapshot.proxy.stableID
                          (free.filter fun agent =>
                            !Controller.runsOnNodeHost library agent
                              nodeHost) with
                      | none =>
                          by_cases hfree : free.isEmpty = true
                          · refine hunstatused .unavailableAgent ?_ ?_ <;>
                              simp only [Controller.createAutomatic, henabled,
                                hpaused, hon, htrigger, hmaintenance, hprofile,
                                hfound, hsnapshot, hnode, hhost, hregistry,
                                hidle, hpreferred, hagent, hfree, free,
                                Bool.or_self, Bool.not_true, Bool.false_eq_true,
                                ↓reduceIte]
                          · refine hunstatused .onlyNodeHostAgent ?_ ?_ <;>
                              simp only [Controller.createAutomatic, henabled,
                                hpaused, hon, htrigger, hmaintenance, hprofile,
                                hfound, hsnapshot, hnode, hhost, hregistry,
                                hidle, hpreferred, hagent, hfree, free,
                                Bool.or_self, Bool.not_true, Bool.false_eq_true,
                                ↓reduceIte]
                      | some agent =>
                          refine Or.inr ⟨snapshot,
                            { stableID := snapshot.proxy.stableID
                              trigger := request.trigger
                              configGeneration := snapshot.generation
                              configFingerprint := fingerprint
                              localResultSnapshot := localResult snapshot
                              automationContext := request.automationContext
                              requestedAgents := [agent.agentID]
                              expiresAt := c.deadline outside.now },
                            hasked, rfl, agent.agentID,
                            Controller.automaticProfile descriptor
                              (Controller.alternativeID descriptor
                                agent.capabilities)
                              request.automationContext agent.capabilities,
                            config, ?_, ?_⟩
                          · simp only [Creation.run, Controller.createAutomatic,
                              hon, htrigger, hmaintenance, hprofile, hfound,
                              hnode, hhost, hagent, free, Bool.or_self,
                              Bool.not_true, Bool.false_eq_true, ↓reduceIte]
                            refine openSession_answer ?_ _ _ _ _ _ _ _
                            rfl
                          · simp only [Creation.run, Controller.createAutomatic,
                              Creation.stableID, henabled, hpaused, hon,
                              htrigger, hmaintenance, hprofile, hsnapshot,
                              hnode, hhost, hregistry, hidle, hpreferred,
                              hagent, free, Bool.or_self, Bool.not_true,
                              Bool.false_eq_true, ↓reduceIte]
                            refine openSession_answer ?_ _ _ _ _ _ _ _
                            rfl
    · refine hunstatused .unsupportedTrigger ?_ ?_ <;>
        simp only [Controller.createAutomatic, henabled, hon, htrigger,
          Bool.not_true, Bool.not_false, Bool.false_eq_true, ↓reduceIte]
  · refine hunstatused .disabled ?_ ?_ <;>
      simp only [Controller.createAutomatic, henabled, hon, Bool.not_false,
        ↓reduceIte]

theorem refusedOrAsked (creation : Creation) (c : Controller)
    (outside : Outside Addr) : RefusedOrAsked library creation c outside := by
  cases creation with
  | manual request =>
      exact createTargeted_cases c _ ⟨request.stableID, request.agentID,
        request.profileID, .manual⟩ outside (fun _ => rfl) rfl
  | sweep request =>
      exact createTargeted_cases c _ ⟨request.stableID, request.agentID,
        request.profileID, .reachabilitySweep⟩ outside (fun _ => rfl) rfl
  | automatic request => exact createAutomatic_cases c request outside

theorem validateLocalResultSnapshot_unknown :
    validateLocalResultSnapshot { status := .unknown } = .ok () := by
  decide

omit [DecidableEq Addr] in
/-- A valid local result changes nothing about a refusal. -/
theorem openSession_withLocal (c : Controller)
    {request : CreateSessionRequest} (agentID : Text) (profile : TestProfile)
    (snapshot : DiagnosticProxySnapshot) (config : Bytes)
    (outside : Outside Addr)
    (hrequest : validateLocalResultSnapshot request.localResultSnapshot =
      .ok ()) (error : ControllerError) :
    (c.openSession request agentID profile snapshot config outside).2 =
        .error error ↔
      (c.openSession (request.withLocal { status := .unknown }) agentID profile
        snapshot config outside).2 = .error error := by
  have hexpires : (request.withLocal { status := .unknown }).expiresAt =
      request.expiresAt := rfl
  simp only [Controller.openSession, hexpires]
  rcases createSession_withLocal c.manager request outside.sessionID
      outside.visited outside.createdAt validateLocalResultSnapshot_unknown
      hrequest with
    ⟨refusal, m₁, m₂, h₁, h₂⟩ | ⟨m₁, m₂, session, h₁, h₂, hsame⟩
  · simp only [h₁, h₂]
  · simp only [h₁, h₂]
    have hjob := hsame.registerJob
      { sessionID := session.sessionID, agentID := agentID, profile := profile
        expiresAt := request.expiresAt }
      outside.jobID outside.nonce outside.registeredAt
    revert hjob
    generalize m₁.registerJob _ _ _ _ = answer
    generalize m₂.registerJob _ _ _ _ = answer'
    rcases answer with ⟨next, answer⟩
    rcases answer' with ⟨next', answer'⟩
    rintro rfl
    cases answer' with
    | error refusal => exact Iff.rfl
    | ok job => simp

omit [DecidableEq Addr] in
theorem openSession_refuses (c : Controller) {request : CreateSessionRequest}
    (agentID : Text) (profile : TestProfile)
    (snapshot : DiagnosticProxySnapshot) (config : Bytes)
    (outside : Outside Addr)
    (hrequest : validateLocalResultSnapshot request.localResultSnapshot ≠
      .ok ()) :
    AnswersInvalid
      (c.openSession request agentID profile snapshot config outside).2 := by
  obtain ⟨error, hrefused, hkind⟩ := createSession_refuses c.manager request
    outside.sessionID outside.visited outside.createdAt hrequest
  refine ⟨.diagnostics error, ?_, by simpa [ControllerError.invalidRequest]⟩
  simp only [Controller.openSession, hrefused]

/-- A node can be diagnosed: its local result is accepted, and no session is
refused as invalid because of it. -/
def Diagnosable (library : Library Addr) (pc : ProxyChecker) (stableID : Text)
    (snapshot : DiagnosticProxySnapshot) : Prop :=
  validateLocalResultSnapshot (localResult snapshot) = .ok () ∧
    ∀ (c : Controller) (creation : Creation) (outside : Outside Addr),
      c.checker = pc → trimSpace creation.stableID = trimSpace stableID →
      ¬Blamed library creation c outside

/-- A request that would be served if nothing were known of the node. -/
def ServedOtherwise (library : Library Addr) (creation : Creation)
    (c : Controller) (outside : Outside Addr) : Prop :=
  (creation.run library (c.withoutStatus creation.stableID) outside).2.isOk =
    true

theorem diagnosticSnapshot_trimSpace (options : Options) (pc : ProxyChecker)
    (stableID : Text) :
    pc.diagnosticSnapshot options (trimSpace stableID) =
      pc.diagnosticSnapshot options stableID := by
  simp only [ProxyChecker.diagnosticSnapshot, trimSpace_idem]

theorem blamed_of_asks {creation : Creation} {c : Controller}
    {outside : Outside Addr} {snapshot : DiagnosticProxySnapshot}
    {request : CreateSessionRequest}
    (hasks : Asks library creation c outside snapshot request)
    (hvalid : validateLocalResultSnapshot (localResult snapshot) = .ok ()) :
    ¬Blamed library creation c outside := by
  rintro ⟨⟨error, hwith, hinvalid⟩, hwithout⟩
  obtain ⟨agentID, profile, config, hrun, hrun'⟩ := hasks.asked
  apply hwithout
  refine ⟨error, ?_, hinvalid⟩
  rw [hrun', ← openSession_withLocal c agentID profile snapshot config outside
    (hasks.localResult ▸ hvalid), ← hrun]
  exact hwith

/-- In every state the checker can reach, a tracked node can be diagnosed if
and only if it is not down with a closed stream; then every request that would
otherwise be served is refused. -/
theorem diagnosable_iff (proxies : List ProxyConfig)
    (events : List Checker.Event)
    (hevents : Admissible (step library.options)
      (fun _ event => event.Plausible) (.new library.options proxies) events)
    (stableID : Text) (snapshot : DiagnosticProxySnapshot)
    (htracked : (run (step library.options) (.new library.options proxies)
      events).diagnosticSnapshot library.options stableID = .ok snapshot) :
    (Diagnosable library (run (step library.options)
        (.new library.options proxies) events) stableID snapshot ↔
      ¬StreamClosed snapshot) ∧
    (StreamClosed snapshot → ∀ (c : Controller) (creation : Creation)
      (outside : Outside Addr),
      c.checker = run (step library.options) (.new library.options proxies)
        events → trimSpace creation.stableID = trimSpace stableID →
      ServedOtherwise library creation c outside →
      Blamed library creation c outside) := by
  have hstart : AllClassified (.new library.options proxies) := by
    intro id details hdetails
    simp [ProxyChecker.new, ProxyChecker.rebuildSourceIndex] at hdetails
  have hclassified := run_invariant AllClassified hevents hstart
    fun pc event hpc hevent => allClassified_step hpc hevent
  set pc := run (step library.options) (.new library.options proxies) events
  have hstatus : ∀ details ∈ snapshot.status, Classified details := by
    intro details hdetails
    simp only [ProxyChecker.diagnosticSnapshot] at htracked
    split at htracked
    · cases htracked
    · split at htracked
      · cases htracked
      · cases htracked
        simp only [ProxyChecker.statusDetailsByStableID, Option.mem_def]
          at hdetails
        split at hdetails
        · cases hdetails
        · exact hclassified _ _ hdetails
  have hvalid := localResult_valid_iff hstatus
  have hsame : ∀ (c : Controller) (creation : Creation)
      (outside : Outside Addr) (found : DiagnosticProxySnapshot)
      (request : CreateSessionRequest), c.checker = pc →
      trimSpace creation.stableID = trimSpace stableID →
      Asks library creation c outside found request → found = snapshot := by
    intro c creation outside found request hc hid hasks
    have hfound := hasks.found
    rw [hc, hid, diagnosticSnapshot_trimSpace, htracked] at hfound
    exact (Except.ok.inj hfound).symm
  refine ⟨⟨fun h => hvalid.mp h.1, ?_⟩, ?_⟩
  · intro hopen
    refine ⟨hvalid.mpr hopen, ?_⟩
    intro c creation outside hc hid
    rcases refusedOrAsked creation c outside with
      ⟨error, hwith, hwithout⟩ | ⟨found, request, hasks⟩
    · rintro ⟨hblamed, hotherwise⟩
      rw [hwith] at hblamed
      rw [hwithout] at hotherwise
      exact hotherwise hblamed
    · rw [hsame c creation outside found request hc hid hasks] at hasks
      exact blamed_of_asks hasks (hvalid.mpr hopen)
  · intro hclosed c creation outside hc hid hserved
    rcases refusedOrAsked creation c outside with
      ⟨error, hwith, hwithout⟩ | ⟨found, request, hasks⟩
    · rw [ServedOtherwise, hwithout] at hserved
      cases hserved
    · obtain ⟨agentID, profile, config, hrun, hrun'⟩ := hasks.asked
      rw [hsame c creation outside found request hc hid hasks] at hasks
      refine ⟨?_, ?_⟩
      · rw [hrun]
        apply openSession_refuses
        rw [hasks.localResult]
        exact fun h => hvalid.mp h hclosed
      · rintro ⟨error, hwithout, -⟩
        rw [ServedOtherwise, hwithout] at hserved
        cases hserved

end

namespace Sample

def library : Library Nat where
  options :=
    { digest := fun _ => "0123456789abcdef", startPort := 10000
      checkMethod := "status", downloadURL := [], downloadMinSize := 0 }
  parseAddr text := if text = "198.51.100.7" then some 7 else none
  unmap := id
  generateConfig _ _ := .ok [123, 125]
  configFingerprint _ := "sha256:" ++ List.replicate 64 'a'

def node : ProxyConfig :=
  { protocol := "vless", server := "nl.example.com", port := 443
    name := "Netherlands", subName := "main", stableID := "nl-1" }

/-- A full check of the node, which meets an answer at second 50. -/
def checked (answer : Answer) : Checker.Event :=
  .check .all
    { probed := [0]
      probes := fun _ =>
        { answer := answer, storedAt := 50000000000
          hostCheck := { checked := true, online := true, latency := 20000000 }
          pingCheck := { checked := true, online := true, latency := 9000000 }
          clock := ⟨51000000000, 51000000000, 51000000000⟩ } }

/-- The server closed the connection inside the tunnel. -/
def streamClosed : Checker.Event :=
  checked (.failed { text := "Get \"https://check.example\": EOF", isEOF := true })

/-- The check URL answered with a status that is no success. -/
def badStatus : Checker.Event :=
  checked (.response { statusCode := 502, ttfb := 40000000 })

def after (event : Checker.Event) : ProxyChecker :=
  run (step library.options) (.new library.options [node]) [event]

theorem plausible_checked {answer : Answer} (h : answer.Plausible) :
    (checked answer).Plausible := by
  have hchecked : ∀ latency : Int, 0 ≤ latency →
      PlausibleCheck true true latency :=
    fun _ hlatency => ⟨hlatency, by simp⟩
  refine ⟨fun _ => ⟨h, hchecked 20000000 (by decide),
      hchecked 9000000 (by decide)⟩, fun _ => plausibleCheck_unmade,
    fun _ => plausibleCheck_unmade⟩

/-- A node that answers with a bad status can be diagnosed. -/
theorem diagnosable_iff_sample :
    ∃ snapshot, (after badStatus).diagnosticSnapshot library.options "nl-1" =
        .ok snapshot ∧
      Diagnosable library (after badStatus) "nl-1" snapshot := by
  cases hsnapshot : (after badStatus).diagnosticSnapshot library.options
      "nl-1" with
  | error text =>
      have hok : ((after badStatus).diagnosticSnapshot library.options
        "nl-1").isOk = true := by decide
      rw [hsnapshot] at hok
      cases hok
  | ok snapshot =>
      refine ⟨snapshot, rfl, ?_⟩
      refine ((diagnosable_iff [node] [badStatus] ?_ "nl-1" snapshot
        hsnapshot).1).mpr ?_
      · rw [admissible_cons]
        exact ⟨plausible_checked (by decide : (0 : Int) ≤ 40000000),
          admissible_nil _⟩
      · rintro ⟨details, hdetails, -, -, hcode⟩
        have hother : ((after badStatus).diagnosticSnapshot library.options
            "nl-1").toOption.bind (·.status) |>.all fun details =>
              details.failure.code ≠ failureCodeProxyStreamClosed := by
          decide
        rw [hsnapshot] at hother
        simp only [Except.toOption, Option.bind_some] at hother
        rw [Option.mem_def] at hdetails
        rw [hdetails] at hother
        simp [hcode] at hother

/-- An agent that was heard from a second ago. -/
def agent : Probeagent.AgentRecord :=
  { agentID := "agent-1", displayName := "Probe"
    expectedSourceIP := "203.0.113.40", controllerIP := "192.0.2.1"
    controllerURL := "https://checker.example", enabled := true
    createdAt := 1000000000, updatedAt := 59000000000
    identityPublicKey := List.replicate 32 7
    observationPublicKey := List.replicate 32 8
    enrolledAt := 1000000000, enrollmentUsedAt := 1000000000
    lastSeenAt := 59000000000, lastSequence := 3
    capabilities := [capabilityControlV1, capabilityDiagnosticV1]
    health := "healthy" }

def controller (checker : ProxyChecker) : Controller :=
  { config :=
      { enabled := true, checkMethod := "status", jobTTL := minutes 5
        socksPort := 18080 }
    registry :=
      { registry :=
          { config :=
              { path := "agents.json", enabled := true
                heartbeatIntervalSec := 30 }
            state :=
              { agents := (∅ : GoMap Text Probeagent.AgentRecord).insert
                  "agent-1" agent } } }
    checker := checker
    manager :=
      { config :=
          { sessionTTL := defaultSessionTTL
            observationMaxAge := defaultObservationMaxAge
            clockSkew := defaultClockSkew
            maxSessions := defaultMaxSessions
            maxAgentsPerSession := defaultMaxAgentsPerSession } } }

def outside : Outside Nat :=
  { now := 60000000000, shownAt := 60000000000, createdAt := 60000000000
    registeredAt := 60000000000, sessionID := .ok "session-1"
    jobID := .ok "job-1", nonce := .ok "nonce-1", visited := fun _ => 0
    resolved := .ok [] }

def manual : Creation :=
  .manual { stableID := "nl-1", agentID := "agent-1" }

/-- The answer is `ErrInvalidRequest`, to be decided. -/
def refused (answer : Except ControllerError DiagnosticSession) : Bool :=
  match answer with
  | .error error => error.invalidRequest
  | .ok _ => false

/-- A node whose server closes the stream: its local result is refused, and so
is the session an operator asks for, which is opened when nothing is known of
the node. -/
theorem closed_stream_undiagnosable :
    ((after streamClosed).diagnosticSnapshot library.options
      "nl-1").toOption.any
      (fun snapshot => validateLocalResultSnapshot (localResult snapshot) ≠
        .ok ()) = true ∧
    refused (manual.run library (controller (after streamClosed)) outside).2 =
      true ∧
    (manual.run library
      ((controller (after streamClosed)).withoutStatus "nl-1")
      outside).2.isOk = true := by
  decide

end Sample

end XrayChecker.Remoteprobe

import XrayChecker.Diagnostics.SessionRuns

/-
What the manager has checked of every session and job it keeps: their
identities are tokens, their fingerprint is one, and the profile of every job
passes the check of its request.
-/

namespace XrayChecker.Diagnostics

open Go DiagnosticSessionManager

/-- A token has no spaces to trim. -/
theorem trimSpace_of_valid {value : Text} {limit : Nat}
    (h : validSafeValue value limit = true) : trimSpace value = value := by
  have hspace : ∀ c ∈ value, isSpace c = false := by
    simp only [validSafeValue, Bool.and_eq_true, List.all_eq_true] at h
    exact fun c hc => isSpace_of_isTokenRune (h.2 c hc)
  rw [trimSpace_eq_self_iff]
  exact ⟨fun c hc => hspace c (List.mem_of_mem_head? hc),
    fun c hc => hspace c (List.mem_of_mem_getLast? hc)⟩

/-- What `RegisterJob` has checked of a job. -/
structure DiagnosticJob.Minted (job : DiagnosticJob) : Prop where
  schemaVersion : job.schemaVersion = jobSchemaVersion
  jobID : validToken job.jobID = true
  agentID : validToken job.agentID = true
  nonce : validToken job.nonce = true
  profile : validateProfile job.profile = .ok ()

/-- What has been checked of a session and its jobs. -/
structure DiagnosticSession.Minted (session : DiagnosticSession) : Prop where
  sessionID : validToken session.sessionID = true
  stableID : validToken session.stableID = true
  fingerprint : validFingerprint session.configFingerprint = true
  jobs : ∀ job ∈ session.jobs, job.Minted

theorem DiagnosticJob.Minted.same {job other : DiagnosticJob} (h : job.Minted)
    (hsame : job.Same other) : other.Minted := by
  have hidentity := hsame.identity
  simp only [DiagnosticJob.identity, DiagnosticJob.mk.injEq] at hidentity
  obtain ⟨hschema, hjobID, -, hagentID, hnonce, -, -, -, hprofile, -⟩ :=
    hidentity
  exact ⟨hschema ▸ h.schemaVersion, hjobID ▸ h.jobID, hagentID ▸ h.agentID,
    hnonce ▸ h.nonce, hprofile ▸ h.profile⟩

/-- The states of a session and its jobs do not matter. -/
theorem DiagnosticSession.Minted.revised {session next : DiagnosticSession}
    (h : session.Minted) (hrevised : session.Revised next) : next.Minted := by
  refine ⟨hrevised.sessionID ▸ h.sessionID, hrevised.stableID ▸ h.stableID,
    hrevised.fingerprint ▸ h.fingerprint, fun job hjob => ?_⟩
  obtain ⟨before, hbefore, hsame⟩ := hrevised.mem_jobs hjob
  exact (h.jobs before hbefore).same hsame

theorem DiagnosticSession.Minted.setJobState {session : DiagnosticSession}
    (h : session.Minted) (index : Nat) (state : JobState) :
    (session.setJobState index state).Minted := by
  refine ⟨h.sessionID, h.stableID, h.fingerprint, fun after hafter => ?_⟩
  obtain ⟨other, before, hother, rfl⟩ :=
    DiagnosticSession.mem_setJobState.mp hafter
  have hminted := h.jobs before (List.mem_of_getElem? hother)
  split
  · exact ⟨hminted.schemaVersion, hminted.jobID, hminted.agentID, hminted.nonce,
      hminted.profile⟩
  · exact hminted

/-- The check of a request passes on its stable ID and its fingerprint. -/
theorem validateCreateSessionRequest_ok {request : CreateSessionRequest}
    {now : Time} {maxTTL maxAgents : Int}
    (h : validateCreateSessionRequest request now maxTTL maxAgents = .ok ()) :
    validToken request.stableID = true ∧
      validFingerprint request.configFingerprint = true := by
  unfold validateCreateSessionRequest at h
  split at h
  · cases h
  · rename_i hstable
    cases htrigger : validateTrigger request.trigger with
    | error error =>
        rw [htrigger] at h
        cases h
    | ok _ =>
        rw [htrigger] at h
        simp only [bind, Except.bind] at h
        split at h
        · cases h
        · split at h
          · cases h
          · split at h
            · cases h
            · rename_i hfingerprint
              exact ⟨by simpa using hstable, by simpa using hfingerprint⟩

namespace DiagnosticSessionManager

variable {m next : DiagnosticSessionManager}

/-- Every session has been checked, and the tolerance of the clock is none
that looks ahead. -/
structure Minted (m : DiagnosticSessionManager) : Prop where
  clockSkew : 0 ≤ m.config.clockSkew
  sessions : ∀ (sessionID : Text) (session : DiagnosticSession),
    m.sessions[sessionID]? = some session → session.Minted

theorem Minted.revised (h : m.Minted) (hrevised : m.RevisedBy next) :
    next.Minted := by
  refine ⟨hrevised.config ▸ h.clockSkew, fun sessionID session hsession => ?_⟩
  obtain ⟨before, hbefore, hsame⟩ := hrevised.before sessionID session hsession
  exact (h.sessions sessionID before hbefore).revised hsame

theorem Minted.expire (h : m.Minted) (now : Time) : (m.expire now).Minted :=
  h.revised (revisedBy_map fun session =>
    DiagnosticSession.revised_expire session now)

/-- A session is written. -/
theorem Minted.insert (h : m.Minted) {sessionID : Text}
    {session : DiagnosticSession} (hsession : session.Minted)
    (hconfig : next.config = m.config)
    (hnext : next.sessions = m.sessions.insert sessionID session) :
    next.Minted := by
  refine ⟨hconfig ▸ h.clockSkew, fun other found hfound => ?_⟩
  rw [hnext, GoMap.get_insert] at hfound
  split at hfound
  · cases hfound
    exact hsession
  · exact h.sessions other found hfound

theorem Minted.removeSession (h : m.Minted) (sessionID : Text) :
    (m.removeSession sessionID).Minted := by
  refine ⟨?_, fun other session hsession => ?_⟩
  · rw [removeSession_config]
    exact h.clockSkew
  · exact h.sessions other session
      (fewer_removeSession sessionID other session hsession)

theorem Minted.evict (h : m.Minted) (sessionIDs : List Text) :
    (m.evict sessionIDs).1.Minted := by
  induction sessionIDs generalizing m with
  | nil => exact h
  | cons sessionID rest ih =>
      simp only [DiagnosticSessionManager.evict]
      split
      · exact h.removeSession sessionID
      · exact ih (h.removeSession sessionID)

theorem Minted.makeCapacity (h : m.Minted) (visited : Text → Nat) :
    (m.makeCapacity visited).1.Minted := by
  unfold DiagnosticSessionManager.makeCapacity
  split
  · exact h
  · exact h.evict _

theorem Minted.deleteSessions (h : m.Minted) (stableID : Text) :
    (m.deleteSessions stableID).1.Minted := by
  have hloop : ∀ (doomed : List Text) (m : DiagnosticSessionManager),
      m.Minted →
      (doomed.foldl DiagnosticSessionManager.removeSession m).Minted := by
    intro doomed
    induction doomed with
    | nil => exact fun m h => h
    | cons sessionID rest ih => exact fun m h => ih _ (h.removeSession _)
  exact hloop _ m h

theorem Minted.addSession (h : m.Minted) {session : DiagnosticSession}
    (hsession : session.Minted) (visited : Text → Nat) (now : Time) :
    (DiagnosticSessionManager.addSession m session visited now).1.Minted := by
  simp only [DiagnosticSessionManager.addSession]
  have hexpired := h.expire now
  have hroom := hexpired.makeCapacity visited
  split
  · exact hexpired
  · split
    · rename_i heq
      rwa [heq] at hroom
    · rename_i heq
      rw [heq] at hroom
      exact hroom.insert hsession rfl rfl

theorem Minted.createSession (h : m.Minted) (request : CreateSessionRequest)
    (newID : Except Text Text) (visited : Text → Nat) (now : Time) :
    (m.createSession request newID visited now).1.Minted := by
  simp only [DiagnosticSessionManager.createSession]
  split
  · exact h
  · split
    · exact h
    · rename_i hvalid
      obtain ⟨hstable, hfingerprint⟩ := validateCreateSessionRequest_ok hvalid
      split
      · exact h
      · split
        · exact h
        · rename_i htoken
          apply h.addSession
          rw [Bool.not_eq_true', Bool.not_eq_false] at htoken
          exact ⟨htoken, hstable, hfingerprint,
            fun job hjob => absurd hjob List.not_mem_nil⟩

/-- A binding that is used is made of tokens. -/
theorem checkedBinding_tokens {session : DiagnosticSession}
    {request : RegisterJobRequest} {jobID nonce : Except Text Text}
    {now : Time} {binding : Text × Text}
    (h : m.checkedBinding session request jobID nonce now = .ok binding) :
    validToken binding.1 = true ∧ validToken binding.2 = true := by
  unfold checkedBinding at h
  split at h
  · cases h
  · cases h
  · split at h
    · cases h
    · rename_i htokens
      split at h
      · cases h
      · split at h
        · cases h
        · split at h
          · cases h
          · cases h
            simpa using htokens

theorem Minted.registerJob (h : m.Minted) (request : RegisterJobRequest)
    (jobID nonce : Except Text Text) (now : Time) :
    (m.registerJob request jobID nonce now).1.Minted := by
  have hexpired := h.expire now
  simp only [DiagnosticSessionManager.registerJob]
  split
  · exact h
  · rename_i htokens
    split
    · exact h
    · rename_i hprofile
      generalize m.expire now = m at hexpired
      split
      · exact hexpired
      · rename_i session hsession
        have hminted := hexpired.sessions _ _ (registrable_ok hsession).1
        split
        · exact hexpired
        · rename_i newJobID newNonce hbinding
          obtain ⟨hjobID, hnonce⟩ := checkedBinding_tokens hbinding
          refine hexpired.insert ?_ rfl rfl
          refine DiagnosticSession.Minted.revised ?_
            (DiagnosticSession.revised_deriveState _ now)
          refine ⟨hminted.sessionID, hminted.stableID, hminted.fingerprint,
            fun job hjob => ?_⟩
          rcases List.mem_append.mp hjob with hold | hnew
          · exact hminted.jobs job hold
          · rw [List.mem_singleton] at hnew
            subst hnew
            simp only [Bool.or_eq_true, Bool.not_eq_eq_eq_not, Bool.not_true,
              not_or, Bool.not_eq_false] at htokens
            exact ⟨rfl, hjobID, htokens.2, hnonce, hprofile⟩

theorem Minted.transitionJob (h : m.Minted) (hcoherent : m.Coherent)
    (jobID : Text) (state : JobState) (now : Time) :
    (m.transitionJob jobID state now).1.Minted := by
  have hexpired := h.expire now
  have hcoherent := hcoherent.expire now
  simp only [DiagnosticSessionManager.transitionJob]
  generalize m.expire now = m at hexpired hcoherent
  split
  · exact hexpired
  · rename_i session index job hjob
    obtain ⟨hsession, -, -⟩ := jobAt_ok hcoherent hjob
    split
    · exact hexpired
    · split
      · exact hexpired
      · refine hexpired.insert ?_ rfl rfl
        exact ((hexpired.sessions _ _ hsession).setJobState index state).revised
          (DiagnosticSession.revised_deriveState _ now)

theorem Minted.acceptObservation (h : m.Minted) (hcoherent : m.Coherent)
    (verify : Verifier) (observation : Observation) (now : Time) :
    (m.acceptObservation verify observation now).1.Minted := by
  have hexpired := h.expire now
  rcases acceptObservation_cases hcoherent verify observation now with
    ⟨-, -, hsame | hsame⟩ | ⟨session, index, job, haccepted, -, hjob, -⟩
  · rw [hsame]
    exact h
  · rw [hsame]
    exact hexpired
  · obtain ⟨hsession, -, -⟩ := jobAt_ok (hcoherent.expire now) hjob
    rw [haccepted]
    refine hexpired.insert ?_ rfl rfl
    have hwritten := (hexpired.sessions _ _ hsession).setJobState index
      .completed
    refine DiagnosticSession.Minted.revised ?_
      (DiagnosticSession.revised_deriveState _ now)
    exact ⟨hwritten.sessionID, hwritten.stableID, hwritten.fingerprint,
      hwritten.jobs⟩

theorem Minted.cancelSession (h : m.Minted) (sessionID : Text) (now : Time) :
    (m.cancelSession sessionID now).1.Minted := by
  have hexpired := h.expire now
  simp only [DiagnosticSessionManager.cancelSession]
  generalize m.expire now = m at hexpired
  split
  · exact hexpired
  · rename_i session hsession
    split
    · exact hexpired
    · exact hexpired.insert ((hexpired.sessions _ _ hsession).revised
        session.revised_cancel) rfl rfl

/-- Every call keeps what has been checked. -/
theorem minted_step (h : m.Minted) (hcoherent : m.Coherent) (event : Event) :
    (step m event).Minted := by
  obtain ⟨call, now⟩ := event
  cases call with
  | createSession request newID visited =>
      exact h.createSession request newID visited now
  | registerJob request jobID nonce =>
    exact h.registerJob request jobID nonce now
  | markJobDispatched jobID =>
      exact h.transitionJob hcoherent jobID .dispatched now
  | markJobRunning jobID => exact h.transitionJob hcoherent jobID .running now
  | acceptObservation verify observation =>
      exact h.acceptObservation hcoherent verify observation now
  | deleteSession sessionID =>
      simp only [step, deleteSession]
      split
      · exact h.removeSession _
      · exact h
  | deleteSessions stableID => exact h.deleteSessions stableID
  | cancelSession sessionID => exact h.cancelSession sessionID now
  | session sessionID => exact h.expire now
  | listSessions => exact h.expire now

theorem newDiagnosticSessionManager_minted {config : ManagerConfig}
    {start : DiagnosticSessionManager}
    (h : newDiagnosticSessionManager config = .ok start) : start.Minted := by
  simp only [newDiagnosticSessionManager] at h
  split at h
  · cases h
  · rename_i hlimits
    cases h
    simp only [not_or, not_lt] at hlimits
    refine ⟨hlimits.2.2.1, fun sessionID session hsession => ?_⟩
    simp at hsession

/-- In every run of the manager the sessions and their indexes are in step,
and every job has been checked. -/
theorem run_minted {config : ManagerConfig} {start : DiagnosticSessionManager}
    (hstart : newDiagnosticSessionManager config = .ok start)
    (events : List Event) :
    (Machine.run step start events).Coherent ∧
      (Machine.run step start events).Minted := by
  have hrun : Machine.Admissible step (fun _ _ => True) start events :=
    fun _ _ => trivial
  refine Machine.run_invariant
    (fun m : DiagnosticSessionManager => m.Coherent ∧ m.Minted) hrun
    ⟨(newDiagnosticSessionManager_coherent hstart).1,
      newDiagnosticSessionManager_minted hstart⟩
    fun m event h _ => ?_
  exact ⟨coherent_step h.1 event, minted_step h.2 h.1 event⟩

end DiagnosticSessionManager

end XrayChecker.Diagnostics

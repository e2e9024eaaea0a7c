import XrayChecker.Diagnostics.Manager

/-
What the local result of a session request is good for: it is judged on its
own, a refused one is an invalid request, and beyond that no answer depends
on it.
-/

namespace XrayChecker.Diagnostics

open Go

/-- Every refusal of a check is an invalid request. -/
def RefusesInvalid {α : Type} (answer : Except DiagnosticError α) : Prop :=
  ∀ error, answer = .error error → error.kind = .invalidRequest

theorem refusesInvalid_ok {α : Type} (value : α) :
    RefusesInvalid (.ok value : Except DiagnosticError α) := by
  intro error h
  cases h

theorem refusesInvalid_error {α : Type} (detail : Text) :
    RefusesInvalid (.error ⟨.invalidRequest, detail⟩ :
      Except DiagnosticError α) := by
  intro error h
  cases h
  rfl

theorem refusesInvalid_invalidRequest (detail : Text) :
    RefusesInvalid (invalidRequest detail) :=
  refusesInvalid_error detail

theorem RefusesInvalid.bind {α β : Type} {answer : Except DiagnosticError α}
    {next : α → Except DiagnosticError β} (h : RefusesInvalid answer)
    (hnext : ∀ value, RefusesInvalid (next value)) :
    RefusesInvalid (answer >>= next) := by
  cases answer with
  | error error =>
      intro refusal hrefusal
      cases hrefusal
      exact h error rfl
  | ok value => exact hnext value

theorem RefusesInvalid.ite {α : Type} {p : Prop} [Decidable p]
    {yes no : Except DiagnosticError α} (hyes : RefusesInvalid yes)
    (hno : RefusesInvalid no) : RefusesInvalid (if p then yes else no) := by
  split
  · exact hyes
  · exact hno

theorem refusesInvalid_validateProbeResult (status : ProbeStatus)
    (failure : FailureEvidence) :
    RefusesInvalid (validateProbeResult status failure) := by
  unfold validateProbeResult
  split
  · exact .ite (refusesInvalid_invalidRequest _) (refusesInvalid_ok _)
  · exact .ite (refusesInvalid_invalidRequest _) (refusesInvalid_ok _)
  · exact .ite (refusesInvalid_invalidRequest _) (refusesInvalid_ok _)
  · exact refusesInvalid_invalidRequest _
  · exact refusesInvalid_invalidRequest _

theorem refusesInvalid_validateEvidence (refusal : Text)
    (pieces : List CheckEvidence) :
    RefusesInvalid (validateEvidence refusal pieces) := by
  induction pieces with
  | nil => exact refusesInvalid_ok _
  | cons evidence rest ih =>
      unfold validateEvidence
      split
      · exact refusesInvalid_invalidRequest _
      · exact ih

theorem refusesInvalid_validateLocalResultSnapshot
    (snapshot : LocalResultSnapshot) :
    RefusesInvalid (validateLocalResultSnapshot snapshot) := by
  have hstatus : RefusesInvalid (validateLocalStatus snapshot) := by
    unfold validateLocalStatus
    split
    · exact .ite (refusesInvalid_invalidRequest _) (refusesInvalid_ok _)
    all_goals first
      | exact .ite (refusesInvalid_invalidRequest _)
          (refusesInvalid_validateProbeResult _ _)
      | exact refusesInvalid_invalidRequest _
  exact .ite (refusesInvalid_invalidRequest _)
    (hstatus.bind fun _ => refusesInvalid_validateEvidence _ _)

theorem refusesInvalid_validateAutomationContext (trigger : Trigger)
    (context : AutomationContext) :
    RefusesInvalid (validateAutomationContext trigger context) := by
  unfold validateAutomationContext
  split <;>
    exact .ite (refusesInvalid_invalidRequest _) (refusesInvalid_ok _)

theorem refusesInvalid_validateCreateSessionRequest
    (request : CreateSessionRequest) (now : Time) (maxTTL maxAgents : Int) :
    RefusesInvalid
      (validateCreateSessionRequest request now maxTTL maxAgents) := by
  have htrigger : RefusesInvalid (validateTrigger request.trigger) := by
    unfold validateTrigger
    split
    · exact refusesInvalid_invalidRequest _
    · exact refusesInvalid_ok _
  have hexpiry : RefusesInvalid
      (validateSessionExpiry request.expiresAt now maxTTL) :=
    .ite (refusesInvalid_ok _)
      (.ite (refusesInvalid_invalidRequest _) (refusesInvalid_ok _))
  have hlocal := (refusesInvalid_validateLocalResultSnapshot
    request.localResultSnapshot).bind fun _ => hexpiry
  refine .ite (refusesInvalid_invalidRequest _) (htrigger.bind fun _ =>
    .ite (refusesInvalid_invalidRequest _)
      ((refusesInvalid_validateAutomationContext _ _).bind fun _ => ?_))
  exact .ite (refusesInvalid_invalidRequest _)
    (.ite (refusesInvalid_invalidRequest _)
      (.ite (refusesInvalid_invalidRequest _) hlocal))

theorem refusesInvalid_normalizedAgentIDs (agentIDs : List Text) :
    RefusesInvalid (normalizedAgentIDs agentIDs) := by
  have hfold : ∀ (rest result : List Text), RefusesInvalid
      (rest.foldlM
        (fun result rawAgentID =>
          let agentID := trimSpace rawAgentID
          if !validToken agentID then
            .error ⟨.invalidRequest, "agentId is invalid"⟩
          else if result.elem agentID then .ok result
          else .ok (result ++ [agentID]))
        result) := by
    intro rest
    induction rest with
    | nil => exact fun result => refusesInvalid_ok result
    | cons rawAgentID rest ih =>
        intro result
        rw [List.foldlM_cons]
        refine RefusesInvalid.bind (.ite (refusesInvalid_error _)
          (.ite (refusesInvalid_ok _) (refusesInvalid_ok _))) fun _ => ih _
  exact hfold agentIDs []

/-- The request with another local result. -/
def CreateSessionRequest.withLocal (request : CreateSessionRequest)
    (localResult : LocalResultSnapshot) : CreateSessionRequest :=
  { request with localResultSnapshot := localResult }

/-- The local result is judged on its own. -/
theorem validateCreateSessionRequest_withLocal
    (request : CreateSessionRequest) {localResult : LocalResultSnapshot}
    (now : Time) (maxTTL maxAgents : Int)
    (hlocal : validateLocalResultSnapshot localResult = .ok ())
    (hrequest : validateLocalResultSnapshot request.localResultSnapshot =
      .ok ()) :
    validateCreateSessionRequest (request.withLocal localResult) now maxTTL
        maxAgents =
      validateCreateSessionRequest request now maxTTL maxAgents := by
  simp only [validateCreateSessionRequest, CreateSessionRequest.withLocal,
    hlocal, hrequest]

theorem validateCreateSessionRequest_refuses (request : CreateSessionRequest)
    (now : Time) (maxTTL maxAgents : Int)
    (h : validateLocalResultSnapshot request.localResultSnapshot ≠ .ok ()) :
    ∃ error, validateCreateSessionRequest request now maxTTL maxAgents =
      .error error := by
  cases hanswer : validateCreateSessionRequest request now maxTTL maxAgents with
  | error error => exact ⟨error, rfl⟩
  | ok _ =>
      exfalso
      apply h
      unfold validateCreateSessionRequest at hanswer
      split at hanswer
      · cases hanswer
      · cases htrigger : validateTrigger request.trigger with
        | error _ =>
            rw [htrigger] at hanswer
            cases hanswer
        | ok _ =>
            rw [htrigger] at hanswer
            simp only [bind, Except.bind] at hanswer
            split at hanswer
            · cases hanswer
            · split at hanswer
              · cases hanswer
              · split at hanswer
                · cases hanswer
                · split at hanswer
                  · cases hanswer
                  · split at hanswer
                    · cases hanswer
                    · split at hanswer
                      · cases hanswer
                      · assumption

/-- A session without what it says of the local result. -/
def DiagnosticSession.anonymous (session : DiagnosticSession) :
    DiagnosticSession :=
  { session with localResultSnapshot := { status := .unknown } }

theorem DiagnosticSession.deriveState_anonymous (session : DiagnosticSession)
    (now : Time) :
    session.anonymous.deriveState now = (session.deriveState
      now).anonymous := by
  unfold DiagnosticSession.deriveState DiagnosticSession.anonymous
  split_ifs <;> first | rfl | (exfalso; tauto)

theorem DiagnosticSession.expire_anonymous (session : DiagnosticSession)
    (now : Time) :
    session.anonymous.expire now = (session.expire now).anonymous := by
  unfold DiagnosticSession.expire
  by_cases hterminal : session.state.terminal = true
  · rw [if_pos hterminal, if_pos (show session.anonymous.state.terminal = true
      from hterminal)]
  · rw [if_neg hterminal, if_neg (show ¬session.anonymous.state.terminal = true
      from hterminal), ← DiagnosticSession.deriveState_anonymous]
    rfl

/-- Two managers that differ in local results only. -/
structure SameButLocal (m m' : DiagnosticSessionManager) : Prop where
  config : m'.config = m.config
  jobs : m'.jobs = m.jobs
  reserved : m'.reservedNonces = m.reservedNonces
  sessions : ∀ id : Text, (m'.sessions[id]?).map DiagnosticSession.anonymous =
    (m.sessions[id]?).map DiagnosticSession.anonymous

theorem SameButLocal.expire {m m' : DiagnosticSessionManager}
    (h : SameButLocal m m') (now : Time) :
    SameButLocal (m.expire now) (m'.expire now) := by
  refine ⟨h.config, h.jobs, h.reserved, ?_⟩
  intro id
  have hsessions := h.sessions id
  simp only [DiagnosticSessionManager.expire, Std.ExtTreeMap.getElem?_map,
    Option.map_map]
  have hcommute : DiagnosticSession.anonymous ∘
      (fun session : DiagnosticSession => session.expire now) =
      (fun session : DiagnosticSession => session.expire now) ∘
        DiagnosticSession.anonymous := by
    funext session
    exact (session.expire_anonymous now).symm
  rw [hcommute, ← Option.map_map, ← Option.map_map, hsessions]

theorem DiagnosticSession.eq_of_anonymous {session other : DiagnosticSession}
    (h : other.anonymous = session.anonymous) :
    other = { session with
      localResultSnapshot := other.localResultSnapshot } := by
  cases session
  cases other
  simp only [DiagnosticSession.anonymous, DiagnosticSession.mk.injEq] at h ⊢
  simp only [h, and_self]

theorem SameButLocal.checkedBinding {m m' : DiagnosticSessionManager}
    (h : SameButLocal m m') (session : DiagnosticSession)
    (localResult : LocalResultSnapshot) (request : RegisterJobRequest)
    (jobID nonce : Except Text Text) (now : Time) :
    m'.checkedBinding { session with localResultSnapshot := localResult }
        request jobID nonce now =
      m.checkedBinding session request jobID nonce now := by
  simp only [DiagnosticSessionManager.checkedBinding,
    DiagnosticSessionManager.jobExpiry, h.jobs, h.reserved]
  cases jobID with
  | error error => rfl
  | ok jobID => cases nonce <;> rfl

/-- A job is registered in either of them with the same answer. -/
theorem SameButLocal.registerJob {m m' : DiagnosticSessionManager}
    (h : SameButLocal m m') (request : RegisterJobRequest)
    (jobID nonce : Except Text Text) (now : Time) :
    (m'.registerJob request jobID nonce now).2 =
      (m.registerJob request jobID nonce now).2 := by
  simp only [DiagnosticSessionManager.registerJob]
  split
  · rfl
  · split
    · rfl
    · have hexpired := h.expire now
      have hsession := hexpired.sessions (trimSpace request.sessionID)
      simp only [DiagnosticSessionManager.registrable]
      cases hm : (m.expire now).sessions[trimSpace request.sessionID]? with
      | none =>
          rw [hm, Option.map_none, Option.map_eq_none_iff] at hsession
          rw [hsession]
      | some session =>
          rw [hm, Option.map_some, Option.map_eq_some_iff] at hsession
          obtain ⟨session', hm', hsame⟩ := hsession
          rw [hm', DiagnosticSession.eq_of_anonymous hsame]
          simp only
          cases activeSessionError session.state with
          | error error => rfl
          | ok _ =>
              simp only [bind, Except.bind]
              by_cases hagent : session.requestedAgents.elem
                  (trimSpace request.agentID) = true
              · by_cases htaken : session.jobs.any (fun job : DiagnosticJob =>
                    job.agentID = trimSpace request.agentID) = true
                · simp only [hagent, htaken, Bool.not_true, Bool.false_eq_true,
                    ↓reduceIte]
                · simp only [hagent, htaken, Bool.not_true, Bool.false_eq_true,
                    ↓reduceIte, hexpired.checkedBinding]
                  split <;> rfl
              · simp only [hagent, Bool.not_false, ↓reduceIte]

theorem addSession_withLocal (m : DiagnosticSessionManager)
    (session : DiagnosticSession) (localResult : LocalResultSnapshot)
    (visited : Text → Nat) (now : Time) :
    (∃ error m₁ m₂, m.addSession session visited now = (m₁, .error error) ∧
      m.addSession { session with localResultSnapshot := localResult } visited
        now = (m₂, .error error)) ∨
    ∃ m₁ m₂ added, m.addSession session visited now = (m₁, .ok added) ∧
      m.addSession { session with localResultSnapshot := localResult } visited
        now = (m₂, .ok { added with localResultSnapshot := localResult }) ∧
      SameButLocal m₁ m₂ := by
  simp only [DiagnosticSessionManager.addSession]
  split
  · exact Or.inl ⟨_, _, _, rfl, rfl⟩
  · rcases (m.expire now).makeCapacity visited with ⟨room, _ | _⟩
    · exact Or.inl ⟨_, _, _, rfl, rfl⟩
    · refine Or.inr ⟨_, _, _, rfl, rfl, rfl, rfl, rfl, ?_⟩
      intro id
      simp only [GoMap.get_insert]
      split <;> rfl

/-- Valid local results make no difference to the answer. -/
theorem createSession_withLocal (m : DiagnosticSessionManager)
    (request : CreateSessionRequest) {localResult : LocalResultSnapshot}
    (newID : Except Text Text) (visited : Text → Nat) (now : Time)
    (hlocal : validateLocalResultSnapshot localResult = .ok ())
    (hrequest : validateLocalResultSnapshot request.localResultSnapshot =
      .ok ()) :
    (∃ error m₁ m₂, m.createSession request newID visited now =
        (m₁, .error error) ∧
      m.createSession (request.withLocal localResult) newID visited now =
        (m₂, .error error)) ∨
    ∃ m₁ m₂ session, m.createSession request newID visited now =
        (m₁, .ok session) ∧
      m.createSession (request.withLocal localResult) newID visited now =
        (m₂, .ok { session with localResultSnapshot := localResult }) ∧
      SameButLocal m₁ m₂ := by
  have hjudged := fun agents => validateCreateSessionRequest_withLocal
    (DiagnosticSessionManager.trimmedRequest request agents) now
    m.config.sessionTTL m.config.maxAgentsPerSession hlocal hrequest
  simp only [DiagnosticSessionManager.createSession,
    CreateSessionRequest.withLocal] at hjudged ⊢
  cases normalizedAgentIDs request.requestedAgents with
  | error error => exact Or.inl ⟨error, m, m, rfl, rfl⟩
  | ok agents =>
      simp only
      have htrimmed : DiagnosticSessionManager.trimmedRequest
          { request with localResultSnapshot := localResult } agents =
        { DiagnosticSessionManager.trimmedRequest request agents with
          localResultSnapshot := localResult } := rfl
      rw [htrimmed, hjudged agents]
      cases validateCreateSessionRequest
          (DiagnosticSessionManager.trimmedRequest request agents) now
          m.config.sessionTTL m.config.maxAgentsPerSession with
      | error error => exact Or.inl ⟨error, m, m, rfl, rfl⟩
      | ok _ =>
          cases newID with
          | error error => exact Or.inl ⟨_, m, m, rfl, rfl⟩
          | ok sessionID =>
              simp only
              split
              · exact Or.inl ⟨_, m, m, rfl, rfl⟩
              · exact addSession_withLocal m
                  (m.newSession
                    (DiagnosticSessionManager.trimmedRequest request agents)
                    sessionID now) localResult visited now

/-- A refused local result is an invalid request, whatever else is asked. -/
theorem createSession_refuses (m : DiagnosticSessionManager)
    (request : CreateSessionRequest) (newID : Except Text Text)
    (visited : Text → Nat) (now : Time)
    (h : validateLocalResultSnapshot request.localResultSnapshot ≠ .ok ()) :
    ∃ error, m.createSession request newID visited now = (m, .error error) ∧
      error.kind = .invalidRequest := by
  simp only [DiagnosticSessionManager.createSession]
  cases hagents : normalizedAgentIDs request.requestedAgents with
  | error error =>
      exact ⟨error, rfl,
        refusesInvalid_normalizedAgentIDs request.requestedAgents error hagents⟩
  | ok agents =>
      obtain ⟨error, herror⟩ := validateCreateSessionRequest_refuses
        (DiagnosticSessionManager.trimmedRequest request agents) now
        m.config.sessionTTL m.config.maxAgentsPerSession h
      refine ⟨error, ?_,
        refusesInvalid_validateCreateSessionRequest _ _ _ _ error herror⟩
      simp only [herror]

end XrayChecker.Diagnostics

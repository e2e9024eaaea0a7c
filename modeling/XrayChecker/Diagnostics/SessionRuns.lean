import XrayChecker.Machine.Run
import XrayChecker.Diagnostics.Indexes

/-
Runs of the session manager: any order of requests, answers, cancellations,
deletions and reads, under any clock.
-/

namespace XrayChecker.Diagnostics

open Go DiagnosticSessionManager

/-- A call of the manager, with what it is handed from outside. -/
inductive Call where
  | createSession (request : CreateSessionRequest) (newID : Except Text Text)
      (visited : Text → Nat)
  | registerJob (request : RegisterJobRequest) (jobID nonce : Except Text Text)
  | markJobDispatched (jobID : Text)
  | markJobRunning (jobID : Text)
  | acceptObservation (verify : Verifier) (observation : Observation)
  | deleteSession (sessionID : Text)
  | deleteSessions (stableID : Text)
  | cancelSession (sessionID : Text)
  | session (sessionID : Text)
  | listSessions

structure Event where
  call : Call
  now : Time

/-- The manager after a call. -/
def step (m : DiagnosticSessionManager) (event : Event) :
    DiagnosticSessionManager :=
  match event.call with
  | .createSession request newID visited =>
      (m.createSession request newID visited event.now).1
  | .registerJob request jobID nonce =>
      (m.registerJob request jobID nonce event.now).1
  | .markJobDispatched jobID => (m.markJobDispatched jobID event.now).1
  | .markJobRunning jobID => (m.markJobRunning jobID event.now).1
  | .acceptObservation verify observation =>
      (m.acceptObservation verify observation event.now).1
  | .deleteSession sessionID => (m.deleteSession sessionID).1
  | .deleteSessions stableID => (m.deleteSessions stableID).1
  | .cancelSession sessionID => (m.cancelSession sessionID event.now).1
  | .session sessionID => (m.session sessionID event.now).1
  | .listSessions => (m.listSessions event.now).1

/-- The job an observation names is not over without being completed, unless
its session is over as well. -/
def Event.Timely (m : DiagnosticSessionManager) (event : Event) : Prop :=
  match event.call with
  | .acceptObservation _ observation =>
      match (m.expire event.now).jobAt observation.jobID with
      | .ok (session, _, job) =>
          job.state.terminal = true → job.state ≠ .completed →
            session.state.terminal = true
      | .error _ => True
  | _ => True

/-- The signature of the record was verified when it was accepted. -/
def VerifiedIn (past : List (DiagnosticSessionManager × Event))
    (record : AcceptedObservation) : Prop :=
  ∃ taken ∈ past, ∃ verify : Verifier,
    taken.2 = ⟨.acceptObservation verify record.observation,
      record.acceptedAt⟩ ∧
    verify record.observation.agentID record.observation.unsigned
      record.observation.signature = none

/-- What a step does to the sessions it finds: none that is over is taken up
again, and a refused observation changes nothing but what time changes. -/
structure Lawful (m : DiagnosticSessionManager) (event : Event) : Prop where
  forward : ∀ (sessionID : Text) (session next : DiagnosticSession),
    m.sessions[sessionID]? = some session →
    (step m event).sessions[sessionID]? = some next → session.Forward next
  refused : ∀ (verify : Verifier) (observation : Observation)
    (error : DiagnosticError),
    event.call = .acceptObservation verify observation →
    (m.acceptObservation verify observation event.now).2 = .error error →
    step m event = m ∨ step m event = m.expire event.now

namespace DiagnosticSessionManager

variable {m next : DiagnosticSessionManager} {now : Time}

/-- A change of the manager that keeps it coherent, takes up nothing that is
over, and keeps no new observation. -/
structure Moves (m next : DiagnosticSessionManager) : Prop where
  coherent : next.Coherent
  forward : ∀ (sessionID : Text) (session after : DiagnosticSession),
    m.sessions[sessionID]? = some session →
    next.sessions[sessionID]? = some after → session.Forward after
  kept : ∀ (sessionID : Text) (record : AcceptedObservation),
    next.Keeps sessionID record → m.Keeps sessionID record

theorem Coherent.stays (h : m.Coherent) : m.Moves m := by
  refine ⟨h, fun sessionID session after hsession hafter => ?_,
    fun _ _ => id⟩
  rw [hsession] at hafter
  cases hafter
  exact .refl session

theorem expire_sessions (now : Time) (sessionID : Text) :
    (m.expire now).sessions[sessionID]? =
      (m.sessions[sessionID]?).map fun session => session.expire now :=
  Std.ExtTreeMap.getElem?_map

/-- A change after the expiry. -/
theorem Moves.of_expire (h : (m.expire now).Moves next) : m.Moves next := by
  refine ⟨h.coherent, fun sessionID session after hsession hafter => ?_,
    fun sessionID record hkept => ?_⟩
  · refine (session.forward_expire now).trans ?_
    apply h.forward sessionID _ after _ hafter
    rw [expire_sessions, hsession, Option.map_some]
  · have hrevised : m.RevisedBy (m.expire now) :=
      revisedBy_map fun session =>
        DiagnosticSession.revised_expire session now
    exact hrevised.keeps.mp (h.kept sessionID record hkept)

/-- Writing a session over. -/
theorem Coherent.writes (h : m.Coherent) {sessionID : Text}
    {session after : DiagnosticSession}
    (hsession : m.sessions[sessionID]? = some session)
    (hrevised : session.Revised after) (hsound : after.Sound)
    (hforward : session.Forward after) :
    m.Moves { m with sessions := m.sessions.insert sessionID after } := by
  refine ⟨h.insert hsession hrevised hsound,
    fun other before found hbefore hfound => ?_,
    fun other record hkept =>
      (revisedBy_insert hsession hrevised).keeps.mp hkept⟩
  change (m.sessions.insert sessionID after)[other]? = some found at hfound
  rw [GoMap.get_insert] at hfound
  split at hfound
  · rename_i hsame
    subst hsame
    rw [hsession] at hbefore
    cases hbefore
    cases hfound
    exact hforward
  · rw [hbefore] at hfound
    cases hfound
    exact .refl before

theorem activeSessionError_ok {state : SessionState}
    (h : activeSessionError state = .ok ()) : state.terminal = false := by
  cases state <;> first | rfl | cases h

theorem jobAt_ok (h : m.Coherent) {jobID : Text} {session : DiagnosticSession}
    {index : Nat} {job : DiagnosticJob}
    (hjob : m.jobAt jobID = .ok (session, index, job)) :
    m.sessions[session.sessionID]? = some session ∧
      session.jobs[index]? = some job ∧ job.jobID = jobID := by
  unfold jobAt at hjob
  split at hjob
  · cases hjob
  · rename_i reference hreference
    split at hjob
    · cases hjob
    · rename_i found hfound
      split at hjob
      · cases hjob
      · rename_i foundJob hfoundJob
        cases hjob
        have hkey := h.keys _ _ hfound
        obtain ⟨other, ⟨owner, howner, hother⟩, hid⟩ :=
          (h.jobs jobID reference.sessionID reference.index).mp hreference
        rw [hfound] at howner
        cases howner
        rw [hfoundJob] at hother
        cases hother
        exact ⟨hkey ▸ hfound, hfoundJob, hid⟩

section Remove

theorem Coherent.removes (h : m.Coherent) (sessionID : Text) :
    m.Moves (m.removeSession sessionID) := by
  refine ⟨h.removeSession sessionID,
    fun other session after hsession hafter => ?_,
    fun other record hkept => (removeSession_keeps.mp hkept).2⟩
  rw [removeSession_sessions] at hafter
  split at hafter
  · cases hafter
  · rw [hsession] at hafter
    cases hafter
    exact .refl session

/-- Only removals lie between the two managers. -/
def Fewer (m next : DiagnosticSessionManager) : Prop :=
  ∀ (sessionID : Text) (session : DiagnosticSession),
    next.sessions[sessionID]? = some session →
    m.sessions[sessionID]? = some session

theorem fewer_removeSession (sessionID : Text) :
    m.Fewer (m.removeSession sessionID) := by
  intro other session hsession
  rw [removeSession_sessions] at hsession
  split at hsession
  · cases hsession
  · exact hsession

theorem Fewer.moves (h : m.Fewer next) (hcoherent : next.Coherent) :
    m.Moves next := by
  refine ⟨hcoherent, fun sessionID session after hsession hafter => ?_,
    fun sessionID record ⟨session, hsession, hrecord⟩ =>
      ⟨session, h sessionID session hsession, hrecord⟩⟩
  have hbefore := h sessionID after hafter
  rw [hsession] at hbefore
  cases hbefore
  exact .refl session

/-- The loop that makes room. -/
theorem Coherent.evict (h : m.Coherent) (sessionIDs : List Text) :
    (m.evict sessionIDs).1.Coherent ∧ m.Fewer (m.evict sessionIDs).1 ∧
      ((m.evict sessionIDs).2 = .ok () → (m.evict sessionIDs).1.HasRoom) := by
  induction sessionIDs generalizing m with
  | nil => exact ⟨h, fun _ _ => id, fun hok => by cases hok⟩
  | cons sessionID rest ih =>
      simp only [DiagnosticSessionManager.evict]
      split
      · rename_i hroom
        exact ⟨h.removeSession sessionID, fewer_removeSession sessionID,
          fun _ => hroom⟩
      · obtain ⟨hcoherent, hfewer, hroom⟩ := ih (h.removeSession sessionID)
        refine ⟨hcoherent, fun other session hsession => ?_, hroom⟩
        exact fewer_removeSession sessionID other session
          (hfewer other session hsession)

theorem Coherent.makeCapacity (h : m.Coherent) (visited : Text → Nat) :
    (m.makeCapacity visited).1.Coherent ∧
      m.Fewer (m.makeCapacity visited).1 ∧
      ((m.makeCapacity visited).2 = .ok () →
        (m.makeCapacity visited).1.HasRoom) := by
  unfold DiagnosticSessionManager.makeCapacity
  split
  · rename_i hroom
    exact ⟨h, fun _ _ => id, fun _ => hroom⟩
  · exact h.evict _

theorem Coherent.deleteSessions (h : m.Coherent) (stableID : Text) :
    m.Moves (m.deleteSessions stableID).1 := by
  have hloop : ∀ (doomed : List Text) (m : DiagnosticSessionManager),
      m.Coherent →
      (doomed.foldl DiagnosticSessionManager.removeSession m).Coherent ∧
        m.Fewer (doomed.foldl DiagnosticSessionManager.removeSession m) := by
    intro doomed
    induction doomed with
    | nil => exact fun m h => ⟨h, fun _ _ => id⟩
    | cons sessionID rest ih =>
        intro m h
        obtain ⟨hcoherent, hfewer⟩ := ih _ (h.removeSession sessionID)
        refine ⟨hcoherent, fun other session hsession => ?_⟩
        exact fewer_removeSession sessionID other session
          (hfewer other session hsession)
  obtain ⟨hcoherent, hfewer⟩ := hloop _ m h
  exact hfewer.moves hcoherent

end Remove

section Calls

theorem newSession_sound (request : CreateSessionRequest) (sessionID : Text)
    (now : Time) : (m.newSession request sessionID now).Sound := by
  constructor
  · exact fun job hjob => absurd hjob List.not_mem_nil
  · exact List.nodup_nil
  · exact fun job hjob => absurd hjob List.not_mem_nil
  · exact fun job hjob => absurd hjob List.not_mem_nil
  · exact fun record hrecord => absurd hrecord List.not_mem_nil
  · exact fun hterminal => absurd hterminal Bool.false_ne_true

theorem Coherent.addsSession (h : m.Coherent) {session : DiagnosticSession}
    (hsound : session.Sound) (hjobs : session.jobs = [])
    (hobservations : session.agentObservations = []) (visited : Text → Nat)
    (now : Time) :
    m.Moves (DiagnosticSessionManager.addSession m session visited now).1 := by
  apply @Moves.of_expire _ _ now
  simp only [DiagnosticSessionManager.addSession]
  have hexpired := h.expire now
  generalize m.expire now = m at hexpired
  obtain ⟨hcoherent, hfewer, hroom⟩ := hexpired.makeCapacity visited
  split
  · exact hexpired.stays
  · rename_i hnew
    have habsent : m.sessions[session.sessionID]? = none := by
      rw [Std.ExtTreeMap.contains_eq_isSome_getElem?] at hnew
      simpa using hnew
    split
    · rename_i heq
      rw [heq] at hcoherent hfewer
      exact hfewer.moves hcoherent
    · rename_i room heq
      rw [heq] at hcoherent hfewer hroom
      have hstill : room.sessions[session.sessionID]? = none := by
        cases hfound : room.sessions[session.sessionID]? with
        | none => rfl
        | some found =>
            rw [hfewer _ found hfound] at habsent
            cases habsent
      have hadded := hcoherent.addSession hstill (hroom rfl) hsound hjobs
        hobservations
      refine ⟨hadded, fun other before after hbefore hafter => ?_,
        fun other record ⟨found, hfound, hrecord⟩ => ?_⟩
      · change (room.sessions.insert _ session)[other]? = _ at hafter
        rw [GoMap.get_insert] at hafter
        split at hafter
        · rename_i hsame
          rw [hsame, hbefore] at habsent
          cases habsent
        · have hsame := hfewer other after hafter
          rw [hbefore] at hsame
          cases hsame
          exact .refl before
      · change (room.sessions.insert _ session)[other]? = _ at hfound
        rw [GoMap.get_insert] at hfound
        split at hfound
        · cases hfound
          rw [hobservations] at hrecord
          cases hrecord
        · exact ⟨found, hfewer other found hfound, hrecord⟩

theorem Coherent.createSession (h : m.Coherent)
    (request : CreateSessionRequest) (newID : Except Text Text)
    (visited : Text → Nat) (now : Time) :
    m.Moves (m.createSession request newID visited now).1 := by
  simp only [DiagnosticSessionManager.createSession]
  split
  · exact h.stays
  · split
    · exact h.stays
    · split
      · exact h.stays
      · split
        · exact h.stays
        · exact h.addsSession (newSession_sound _ _ _) rfl rfl visited now

theorem registrable_ok {request : RegisterJobRequest}
    {session : DiagnosticSession}
    (h : m.registrable request = .ok session) :
    m.sessions[request.sessionID]? = some session ∧
      session.state.terminal = false ∧
      request.agentID ∈ session.requestedAgents ∧
      ∀ job ∈ session.jobs, job.agentID ≠ request.agentID := by
  unfold registrable at h
  split at h
  · cases h
  · rename_i found hfound
    cases hactive : activeSessionError found.state with
    | error error =>
        rw [hactive] at h
        cases h
    | ok _ =>
        rw [hactive] at h
        simp only [bind, Except.bind] at h
        split at h
        · cases h
        · rename_i hrequested
          split at h
          · cases h
          · rename_i hnone
            cases h
            refine ⟨hfound, activeSessionError_ok hactive, ?_, ?_⟩
            · simpa using hrequested
            · simpa using hnone

theorem checkedBinding_ok {session : DiagnosticSession}
    {request : RegisterJobRequest} {jobID nonce : Except Text Text}
    {binding : Text × Text}
    (h : m.checkedBinding session request jobID nonce now = .ok binding) :
    m.jobs[binding.1]? = none ∧
      m.reservedNonces[nonceKey request.agentID binding.2]? = none := by
  unfold checkedBinding at h
  split at h
  · cases h
  · cases h
  · split at h
    · cases h
    · split at h
      · cases h
      · rename_i hjob
        split at h
        · cases h
        · rename_i hnonce
          split at h
          · cases h
          · cases h
            rw [Std.ExtTreeMap.contains_eq_isSome_getElem?] at hjob hnonce
            exact ⟨by simpa using hjob, by simpa using hnonce⟩

theorem Coherent.registerJob (h : m.Coherent) (request : RegisterJobRequest)
    (jobID nonce : Except Text Text) (now : Time) :
    m.Moves (m.registerJob request jobID nonce now).1 := by
  have hexpired := h.expire now
  simp only [DiagnosticSessionManager.registerJob]
  split
  · exact h.stays
  · split
    · exact h.stays
    · apply @Moves.of_expire _ _ now
      generalize m.expire now = m at hexpired
      split
      · exact hexpired.stays
      · rename_i session hsession
        obtain ⟨hfound, hopen, hrequested, hnone⟩ := registrable_ok hsession
        have hkey := hexpired.keys _ _ hfound
        split
        · exact hexpired.stays
        · rename_i newJobID newNonce hbinding
          obtain ⟨hid, hnonce⟩ := checkedBinding_ok hbinding
          generalize hjob : newJob session _ newJobID newNonce now = job
          have hjobID : job.jobID = newJobID := by rw [← hjob]; rfl
          have hjobNonce : jobNonce job =
              nonceKey (trimSpace request.agentID) newNonce := by
            rw [← hjob]
            rfl
          have hobserved : session.observed job.jobID = 0 := by
            rw [DiagnosticSession.observed, List.countP_eq_zero]
            intro record hrecord heq
            obtain ⟨index, other, hholds, hbound⟩ :=
              hexpired.kept_job ⟨session, hfound, hrecord⟩
            have hindexed := (hexpired.jobs newJobID _ index).mpr
              ⟨other, hholds, by
                rw [← hbound.jobID, ← hjobID]
                simpa using heq⟩
            rw [hid] at hindexed
            cases hindexed
          have hsound : { session with
              jobs := session.jobs ++ [job] : DiagnosticSession }.Sound := by
            apply (hexpired.sound _ _ hfound).addJob hopen _ _ _ _ hobserved
            · rw [← hjob]
              exact hrequested
            · rw [← hjob]
              exact hnone
            · rw [← hjob]
              exact ⟨rfl, rfl, rfl, rfl⟩
            · rw [← hjob]
              exact (by decide : JobState.pending ≠ .completed)
          have hadded := @Coherent.addJob m session hexpired
            (hkey.symm ▸ hfound)
            job (hjobID ▸ hid) (hjobNonce ▸ hnonce) now hsound
          refine ⟨hadded, fun other before after hbefore hafter => ?_,
            fun other record hheld => ?_⟩
          · change (m.sessions.insert _ _)[other]? = _ at hafter
            rw [GoMap.get_insert] at hafter
            split at hafter
            · rename_i hsame
              rw [← hsame, hkey, hfound] at hbefore
              cases hbefore
              cases hafter
              refine (session.forward_addJob job).trans ?_
              apply DiagnosticSession.forward_deriveState
              exact hopen
            · rw [hbefore] at hafter
              cases hafter
              exact .refl before
          · obtain ⟨found, hfoundAfter, hrecord⟩ := hheld
            change (m.sessions.insert _ _)[other]? = _ at hfoundAfter
            rw [GoMap.get_insert] at hfoundAfter
            split at hfoundAfter
            · rename_i hsame
              cases hfoundAfter
              refine ⟨session, ?_, ?_⟩
              · rw [← hsame, hkey]
                exact hfound
              · rwa [(DiagnosticSession.revised_deriveState _
                  now).observations] at hrecord
            · exact ⟨found, hfoundAfter, hrecord⟩

theorem allowedTransition_open {next current : JobState}
    (h : allowedTransition next current = true) :
    current.terminal = false ∧ next ≠ .completed := by
  cases next <;> cases current <;> simp_all [allowedTransition,
    JobState.terminal]

theorem Coherent.transitionJob (h : m.Coherent) (jobID : Text)
    (state : JobState) (now : Time) :
    m.Moves (m.transitionJob jobID state now).1 := by
  have hexpired := h.expire now
  simp only [DiagnosticSessionManager.transitionJob]
  apply @Moves.of_expire _ _ now
  generalize m.expire now = m at hexpired
  split
  · exact hexpired.stays
  · rename_i session index job hjob
    obtain ⟨hsession, hplace, -⟩ := jobAt_ok hexpired hjob
    split
    · exact hexpired.stays
    · rename_i hactive
      have hopen := activeSessionError_ok hactive
      split
      · exact hexpired.stays
      · rename_i hallowed
        obtain ⟨hjobOpen, hstate⟩ :=
          allowedTransition_open (by simpa using hallowed)
        have hbefore : job.state ≠ .completed := by
          intro hcompleted
          rw [hcompleted] at hjobOpen
          contradiction
        apply hexpired.writes hsession
        · exact (DiagnosticSession.revised_setJobState hplace hbefore
            hstate).trans (DiagnosticSession.revised_deriveState _ now)
        · exact ((hexpired.sound _ _ hsession).setJobState hopen hplace hbefore
            hstate).deriveState now
        · refine (DiagnosticSession.forward_setJobState hplace hjobOpen
            state).trans ?_
          apply DiagnosticSession.forward_deriveState
          exact hopen

theorem Coherent.cancelSession (h : m.Coherent) (sessionID : Text)
    (now : Time) : m.Moves (m.cancelSession sessionID now).1 := by
  have hexpired := h.expire now
  simp only [DiagnosticSessionManager.cancelSession]
  apply @Moves.of_expire _ _ now
  generalize m.expire now = m at hexpired
  split
  · exact hexpired.stays
  · rename_i session hsession
    split
    · exact hexpired.stays
    · rename_i hactive
      apply hexpired.writes hsession
      · exact session.revised_cancel
      · exact (hexpired.sound _ _ hsession).cancel
      · exact DiagnosticSession.forward_cancel (by simpa using hactive)

end Calls

section Accept

variable {verify : Verifier} {observation : Observation}
  {session : DiagnosticSession} {job : DiagnosticJob} {index : Nat}

/-- What an accepted observation has been found to be. -/
theorem bound_ok (h : m.bound verify observation session job now = .ok ())
    (hid : job.jobID = observation.jobID) :
    verify observation.agentID observation.unsigned observation.signature =
        none ∧
      job.state ≠ .completed ∧ session.state.terminal = false ∧
      (accepted observation now).BoundTo job := by
  unfold bound at h
  cases htime : validateObservationTime observation.checkedAt now job.createdAt
      job.expiresAt m.config.observationMaxAge m.config.clockSkew with
  | error error =>
      rw [htime] at h
      cases h
  | ok _ =>
      rw [htime] at h
      simp only [bind, Except.bind] at h
      split at h
      · cases h
      · rename_i hverified
        split at h
        · cases h
        · rename_i hcompleted
          cases hactive : activeSessionError session.state with
          | error error =>
              rw [hactive] at h
              cases h
          | ok _ =>
              rw [hactive] at h
              simp only at h
              split at h
              · cases h
              · split at h
                · cases h
                · rename_i hgeneration
                  split at h
                  · cases h
                  · rename_i hbinding
                    simp only [not_or, not_not] at hgeneration hbinding
                    obtain ⟨-, hsession, hagent, hnonce, hstable, hfingerprint,
                      hprofile⟩ := hbinding
                    exact ⟨hverified, hcompleted, activeSessionError_ok hactive,
                      ⟨hid.symm, hsession, hagent, hnonce, hstable,
                        hgeneration.1, hfingerprint, hprofile⟩⟩

/-- An observation is refused, and time alone has passed, or it is verified
and kept of an uncompleted job of an active session. -/
theorem acceptObservation_cases (h : m.Coherent) (verify : Verifier)
    (observation : Observation) (now : Time) :
    (∃ error, (m.acceptObservation verify observation now).2 = .error error ∧
      ((m.acceptObservation verify observation now).1 = m ∨
        (m.acceptObservation verify observation now).1 = m.expire now)) ∨
    ∃ session index job,
      (m.acceptObservation verify observation now).1 =
        (m.expire now).addObservation session index observation now ∧
      (m.acceptObservation verify observation now).2 =
        .ok (accepted observation now) ∧
      (m.expire now).jobAt observation.jobID = .ok (session, index, job) ∧
      verify observation.agentID observation.unsigned observation.signature =
        none ∧
      job.state ≠ .completed ∧ session.state.terminal = false ∧
      (accepted observation now).BoundTo job := by
  simp only [acceptObservation]
  split
  · exact Or.inl ⟨_, rfl, Or.inl rfl⟩
  · split
    · exact Or.inl ⟨_, rfl, Or.inr rfl⟩
    · rename_i session index job hjob
      split
      · exact Or.inl ⟨_, rfl, Or.inr rfl⟩
      · rename_i hbound
        have hid := (jobAt_ok (h.expire now) hjob).2.2
        exact Or.inr ⟨session, index, job, rfl, rfl, hjob,
          bound_ok hbound hid⟩

theorem Coherent.acceptObservation (h : m.Coherent) (verify : Verifier)
    (observation : Observation) (now : Time) :
    (m.acceptObservation verify observation now).1.Coherent := by
  rcases acceptObservation_cases h verify observation now with
    ⟨-, -, hsame | hexpired⟩ |
      ⟨session, index, job, haccepted, -, hjob, -, hbefore, hopen, hbound⟩
  · rw [hsame]
    exact h
  · rw [hexpired]
    exact h.expire now
  · obtain ⟨hsession, hplace, -⟩ := jobAt_ok (h.expire now) hjob
    rw [haccepted]
    exact (h.expire now).addObservation hsession hopen hplace hbefore hbound

theorem keeps_addObservation {sessionID : Text} {record : AcceptedObservation}
    (hsession : m.sessions[session.sessionID]? = some session)
    (hkept : (m.addObservation session index observation now).Keeps sessionID
      record) :
    m.Keeps sessionID record ∨ record = accepted observation now := by
  obtain ⟨found, hfound, hrecord⟩ := hkept
  change (m.sessions.insert _ _)[sessionID]? = _ at hfound
  rw [GoMap.get_insert] at hfound
  split at hfound
  · rename_i hsame
    cases hfound
    rw [(DiagnosticSession.revised_deriveState _ now).observations,
      List.mem_append, List.mem_singleton] at hrecord
    rcases hrecord with hold | hnew
    · exact Or.inl ⟨session, hsame ▸ hsession, hold⟩
    · exact Or.inr hnew
  · exact Or.inl ⟨found, hfound, hrecord⟩

end Accept

end DiagnosticSessionManager

section Runs

variable {m : DiagnosticSessionManager} {event : Event}

/-- A call that hands in no observation. -/
theorem moves_step (h : m.Coherent) (event : Event)
    (hother : ∀ (verify : Verifier) (observation : Observation),
      event.call ≠ .acceptObservation verify observation) :
    m.Moves (step m event) := by
  obtain ⟨call, now⟩ := event
  cases call with
  | createSession request newID visited =>
      exact h.createSession request newID visited now
  | registerJob request jobID nonce =>
    exact h.registerJob request jobID nonce now
  | markJobDispatched jobID => exact h.transitionJob jobID .dispatched now
  | markJobRunning jobID => exact h.transitionJob jobID .running now
  | acceptObservation verify observation =>
      exact absurd rfl (hother verify observation)
  | deleteSession sessionID =>
      simp only [step, deleteSession]
      split
      · exact h.removes _
      · exact h.stays
  | deleteSessions stableID => exact h.deleteSessions stableID
  | cancelSession sessionID => exact h.cancelSession sessionID now
  | session sessionID => exact ((h.expire now).stays).of_expire
  | listSessions => exact ((h.expire now).stays).of_expire

theorem coherent_step (h : m.Coherent) (event : Event) :
    (step m event).Coherent := by
  obtain ⟨call, now⟩ := event
  cases call with
  | acceptObservation verify observation =>
      exact h.acceptObservation verify observation now
  | _ => exact (moves_step h _ fun _ _ heq => by cases heq).coherent

/-- A timely event takes up nothing that is over. -/
theorem lawful_step (h : m.Coherent) (htimely : event.Timely m) :
    Lawful m event := by
  constructor
  · intro sessionID session next hsession hnext
    obtain ⟨call, now⟩ := event
    cases call with
    | acceptObservation verify observation =>
        have hexpired : ∀ after,
            (m.expire now).sessions[sessionID]? = some after →
            session.Forward after := by
          intro after hafter
          rw [expire_sessions, hsession] at hafter
          cases hafter
          exact session.forward_expire now
        change (m.acceptObservation verify observation
          now).1.sessions[sessionID]? = some next at hnext
        rcases acceptObservation_cases h verify observation now with
          ⟨-, -, hsame | hsame⟩ |
            ⟨owner, index, job, haccepted, -, hjob, -, hbefore, hopen, -⟩
        · rw [hsame, hsession] at hnext
          cases hnext
          exact .refl session
        · rw [hsame] at hnext
          exact hexpired next hnext
        · obtain ⟨howner, hplace, -⟩ := jobAt_ok (h.expire now) hjob
          have hjobOpen : job.state.terminal = false := by
            simp only [Event.Timely, hjob, hopen] at htimely
            by_contra hterminal
            exact absurd (htimely (by simpa using hterminal) hbefore) (by simp)
          rw [haccepted] at hnext
          change ((m.expire now).sessions.insert _ _)[sessionID]? = _ at hnext
          rw [GoMap.get_insert] at hnext
          split at hnext
          · rename_i hsame
            cases hnext
            have hforward := hexpired owner (hsame ▸ howner)
            refine (hforward.trans
              (DiagnosticSession.forward_setJobState hplace hjobOpen
                .completed)).trans ?_
            have hkept : (owner.setJobState index .completed).Forward
                { owner.setJobState index .completed with
                  agentObservations := owner.agentObservations ++
                    [accepted observation now] } :=
              ⟨fun _ => rfl, fun _ before hbefore _ => ⟨before, hbefore, rfl⟩⟩
            refine hkept.trans ?_
            apply DiagnosticSession.forward_deriveState
            exact hopen
          · exact hexpired next hnext
    | _ =>
        exact (moves_step h _ fun _ _ heq => by cases heq).forward sessionID
          session next hsession hnext
  · intro verify observation error hcall hrefused
    obtain ⟨call, now⟩ := event
    change call = _ at hcall
    subst hcall
    rcases acceptObservation_cases h verify observation now with
      ⟨-, -, hunchanged⟩ | ⟨-, -, -, -, haccepted, -⟩
    · exact hunchanged
    · rw [haccepted] at hrefused
      cases hrefused

theorem VerifiedIn.snoc {past : List (DiagnosticSessionManager × Event)}
    {record : AcceptedObservation} (h : VerifiedIn past record)
    (taken : DiagnosticSessionManager × Event) :
    VerifiedIn (past ++ [taken]) record := by
  obtain ⟨found, hfound, hverified⟩ := h
  exact ⟨found, List.mem_append_left _ hfound, hverified⟩

/-- Every observation kept was verified when it was handed in. -/
theorem verified_step {past : List (DiagnosticSessionManager × Event)}
    (h : m.Coherent)
    (hverified : ∀ sessionID record, m.Keeps sessionID record →
      VerifiedIn past record) (event : Event) :
    ∀ sessionID record, (step m event).Keeps sessionID record →
      VerifiedIn (past ++ [(m, event)]) record := by
  intro sessionID record hkept
  obtain ⟨call, now⟩ := event
  cases call with
  | acceptObservation verify observation =>
      have hexpired : (m.expire now).Keeps sessionID record →
          VerifiedIn past record := by
        intro hkept
        exact hverified sessionID record
          (((h.expire now).stays).of_expire.kept sessionID record hkept)
      change (m.acceptObservation verify observation now).1.Keeps sessionID
        record at hkept
      rcases acceptObservation_cases h verify observation now with
        ⟨-, -, hsame | hsame⟩ |
          ⟨owner, index, job, haccepted, -, hjob, hsigned, -⟩
      · rw [hsame] at hkept
        exact (hverified sessionID record hkept).snoc _
      · rw [hsame] at hkept
        exact (hexpired hkept).snoc _
      · obtain ⟨howner, -⟩ := jobAt_ok (h.expire now) hjob
        rw [haccepted] at hkept
        rcases keeps_addObservation howner hkept with hold | rfl
        · exact (hexpired hold).snoc _
        · exact ⟨_, List.mem_append_right _ List.mem_cons_self, verify, rfl,
            hsigned⟩
  | _ =>
      have hbefore := (moves_step h _ fun _ _ heq => by cases heq).kept
        sessionID record hkept
      exact (hverified sessionID record hbefore).snoc _

theorem newDiagnosticSessionManager_coherent {config : ManagerConfig}
    {start : DiagnosticSessionManager}
    (h : newDiagnosticSessionManager config = .ok start) :
    start.Coherent ∧ ∀ sessionID record, ¬start.Keeps sessionID record := by
  simp only [newDiagnosticSessionManager] at h
  split at h
  · cases h
  · rename_i hlimits
    cases h
    constructor
    · constructor
      · exact fun sessionID session hsession => by simp at hsession
      · exact fun sessionID session hsession => by simp at hsession
      · simp [Holds]
      · simp [Holds]
      · simp [Keeps]
      · simp only [not_or] at hlimits
        simp only [Std.ExtTreeMap.size_empty]
        omega
    · simp [Keeps]

/-- The session manager over every run of timely events: the sessions and the
indexes stay in step, nothing that is over is taken up again, refused
observations change nothing, and every observation kept was verified under the
key of its agent. -/
theorem diagnostic_sessions_lawful {config : ManagerConfig}
    {start : DiagnosticSessionManager}
    (hstart : newDiagnosticSessionManager config = .ok start)
    {events : List Event}
    (hrun : Machine.Admissible step (fun m event => event.Timely m) start
      events) :
    (Machine.run step start events).Coherent ∧
      (∀ taken ∈ Machine.steps step start events, Lawful taken.1 taken.2) ∧
      ∀ sessionID record,
        (Machine.run step start events).Keeps sessionID record →
        VerifiedIn (Machine.steps step start events) record := by
  obtain ⟨hcoherent, hnone⟩ := newDiagnosticSessionManager_coherent hstart
  refine ⟨?_, ?_, ?_⟩
  · exact Machine.run_invariant Coherent hrun hcoherent
      fun _ event h _ => coherent_step h event
  · intro taken htaken
    have hmet := Machine.steps_invariant Coherent hrun hcoherent
      (fun _ event h _ => coherent_step h event) taken htaken
    exact lawful_step hmet (hrun taken htaken)
  · refine (Machine.history_invariant
      (fun past (m : DiagnosticSessionManager) => m.Coherent ∧
        ∀ sessionID record, m.Keeps sessionID record →
          VerifiedIn past record) hrun ⟨hcoherent, ?_⟩ ?_).2
    · exact fun sessionID record hkept => absurd hkept (hnone sessionID record)
    · rintro past m event ⟨h, hverified⟩ -
      exact ⟨coherent_step h event, verified_step h hverified event⟩

end Runs

instance (m : DiagnosticSessionManager) (event : Event) :
    Decidable (event.Timely m) :=
  match event with
  | ⟨.acceptObservation _ observation, now⟩ =>
      match h : (m.expire now).jobAt observation.jobID with
      | .ok (session, _, job) =>
          decidable_of_iff
            (job.state.terminal = true → job.state ≠ .completed →
              session.state.terminal = true) (by simp only [Event.Timely, h])
      | .error _ => isTrue (by simp only [Event.Timely, h])
  | ⟨.createSession _ _ _, _⟩ => isTrue trivial
  | ⟨.registerJob _ _ _, _⟩ => isTrue trivial
  | ⟨.markJobDispatched _, _⟩ => isTrue trivial
  | ⟨.markJobRunning _, _⟩ => isTrue trivial
  | ⟨.deleteSession _, _⟩ => isTrue trivial
  | ⟨.deleteSessions _, _⟩ => isTrue trivial
  | ⟨.cancelSession _, _⟩ => isTrue trivial
  | ⟨.session _, _⟩ => isTrue trivial
  | ⟨.listSessions, _⟩ => isTrue trivial

namespace Sample

def fingerprint : Text :=
  "sha256:0000000000000000000000000000000000000000000000000000000000000000"

/-- An instant in seconds. -/
def instant (n : Nat) : Time :=
  n * 1000000000

/-- A manager with the default limits. -/
def manager : DiagnosticSessionManager :=
  match newDiagnosticSessionManager {} with
  | .ok m => m
  | .error _ => { config := {} }

/-- Two agents are asked about a node; the job of the first one is to be over
by second 160. -/
def twoAgentsAsked : List Event :=
  [⟨.createSession
      { stableID := "nl-1", trigger := .manual, configGeneration := 1
        configFingerprint := fingerprint
        localResultSnapshot := { status := .unknown }
        requestedAgents := ["agent-1", "agent-2"] }
      (.ok "diag_1") (fun _ => 0), instant 100⟩,
    ⟨.registerJob
      { sessionID := "diag_1", agentID := "agent-1"
        profile := { id := profileStatus, method := .status }
        expiresAt := instant 160 }
      (.ok "job_1") (.ok "nonce_1"), instant 100⟩,
    ⟨.markJobRunning "job_1", instant 110⟩]

/-- The answer of the first agent, measured at second 150. -/
def answer : Observation :=
  { schemaVersion := observationSchemaVersion
    agentID := "agent-1", sessionID := "diag_1", jobID := "job_1"
    nonce := "nonce_1", stableID := "nl-1", configGeneration := 1
    configFingerprint := fingerprint, checkedAt := instant 150
    endpointProfile := profileStatus, status := .online
    directConnectivity := { checked := true, online := true }
    agentVersion := "1.0", signature := [1] }

theorem diagnostic_sessions_lawful_sample :
    (Machine.run step manager (twoAgentsAsked ++
        [⟨.acceptObservation (fun _ _ _ => none) answer,
          instant 155⟩])).Coherent ∧
      (∀ taken ∈ Machine.steps step manager (twoAgentsAsked ++
          [⟨.acceptObservation (fun _ _ _ => none) answer, instant 155⟩]),
        Lawful taken.1 taken.2) ∧
      ∀ sessionID record,
        (Machine.run step manager (twoAgentsAsked ++
          [⟨.acceptObservation (fun _ _ _ => none) answer,
            instant 155⟩])).Keeps sessionID record →
        VerifiedIn (Machine.steps step manager (twoAgentsAsked ++
          [⟨.acceptObservation (fun _ _ _ => none) answer, instant 155⟩]))
          record :=
  @diagnostic_sessions_lawful {} manager rfl _ (by decide)

/-- The state of the job of the first agent. -/
def firstJobState (m : DiagnosticSessionManager) : Option JobState :=
  (m.sessions[("diag_1" : Text)]?).bind fun session =>
    (session.jobs[0]?).map (·.state)

/-- The same answer handed in at second 170 completes the expired job. -/
theorem expired_job_completed :
    let late := Machine.run step manager
      (twoAgentsAsked ++ [⟨.listSessions, instant 165⟩])
    firstJobState late = some .expired ∧
      firstJobState (step late
        ⟨.acceptObservation (fun _ _ _ => none) answer, instant 170⟩) =
        some .completed := by
  decide

end Sample

end XrayChecker.Diagnostics

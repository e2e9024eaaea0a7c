import XrayChecker.Diagnostics.Minted

/-
Where the sessions of the manager come from: what each call keeps of the
sessions it finds, which it removes, and what it opens.
-/

namespace XrayChecker.Diagnostics

open Go

/-- The same session, whatever became of it and of its jobs. -/
structure DiagnosticSession.Heir (session next : DiagnosticSession) :
    Prop where
  sessionID : next.sessionID = session.sessionID
  stableID : next.stableID = session.stableID
  jobIDs : next.jobs.map (·.jobID) = session.jobs.map (·.jobID)
  cancelled : session.state = .cancelled → next.state = .cancelled

namespace DiagnosticSession

variable {session next last : DiagnosticSession}

theorem Heir.refl (session : DiagnosticSession) : session.Heir session :=
  ⟨rfl, rfl, rfl, id⟩

theorem Heir.trans (h : session.Heir next) (h' : next.Heir last) :
    session.Heir last :=
  ⟨h'.sessionID.trans h.sessionID, h'.stableID.trans h.stableID,
    h'.jobIDs.trans h.jobIDs,
    fun hcancelled => h'.cancelled (h.cancelled hcancelled)⟩

theorem Revised.jobIDs (h : session.Revised next) :
    next.jobs.map (·.jobID) = session.jobs.map (·.jobID) := by
  apply List.ext_getElem?
  intro index
  have hidentity := congrArg (Option.map DiagnosticJob.jobID)
    (h.jobs_getElem? index)
  simpa [Option.map_map, Function.comp_def, DiagnosticJob.identity]
    using hidentity

theorem Revised.heir (h : session.Revised next)
    (hforward : session.Forward next) : session.Heir next := by
  refine ⟨h.sessionID, h.stableID, h.jobIDs, ?_⟩
  intro hcancelled
  rw [hforward.state (by rw [hcancelled]; rfl), hcancelled]

theorem jobIDs_setJobState (session : DiagnosticSession) (index : Nat)
    (state : JobState) :
    (session.setJobState index state).jobs.map (·.jobID) =
      session.jobs.map (·.jobID) := by
  rw [setJobState]
  apply List.ext_getElem?
  intro place
  rw [List.getElem?_map, List.getElem?_map, List.getElem?_modify]
  cases session.jobs[place]? with
  | none => rfl
  | some job =>
      by_cases hplace : index = place
      · simp [hplace]
      · simp [hplace]

theorem heir_expire (session : DiagnosticSession) (now : Time) :
    session.Heir (session.expire now) :=
  (revised_expire session now).heir (session.forward_expire now)

end DiagnosticSession

namespace DiagnosticSessionManager

variable {m next last : DiagnosticSessionManager}
  {removed : List Text}

/-- Every session after the call is one from before, and only the named ones
are missing. -/
structure Carries (m next : DiagnosticSessionManager) (removed : List Text) :
    Prop where
  coherent : next.Coherent
  before : ∀ (sessionID : Text) (after : DiagnosticSession),
    next.sessions[sessionID]? = some after →
    sessionID ∉ removed ∧ ∃ session : DiagnosticSession,
      m.sessions[sessionID]? = some session ∧ session.Heir after
  kept : ∀ (sessionID : Text) (session : DiagnosticSession),
    m.sessions[sessionID]? = some session → sessionID ∉ removed →
    ∃ after, next.sessions[sessionID]? = some after

theorem Coherent.carries (h : m.Coherent) : m.Carries m [] :=
  ⟨h, fun _ after hafter =>
    ⟨List.not_mem_nil, after, hafter, .refl after⟩,
    fun _ session hsession _ => ⟨session, hsession⟩⟩

theorem Carries.trans {gone : List Text} (h : m.Carries next gone)
    (h' : next.Carries last removed) : m.Carries last (gone ++ removed) := by
  refine ⟨h'.coherent, ?_, ?_⟩
  · intro sessionID after hafter
    obtain ⟨hkept, middle, hmiddle, hheir⟩ := h'.before sessionID after hafter
    obtain ⟨hfirst, session, hsession, hheir'⟩ :=
      h.before sessionID middle hmiddle
    refine ⟨?_, session, hsession, hheir'.trans hheir⟩
    rw [List.mem_append, not_or]
    exact ⟨hfirst, hkept⟩
  · intro sessionID session hsession hkept
    rw [List.mem_append, not_or] at hkept
    obtain ⟨middle, hmiddle⟩ := h.kept sessionID session hsession hkept.1
    exact h'.kept sessionID middle hmiddle hkept.2

theorem Coherent.carries_expire (h : m.Coherent) (now : Time) :
    m.Carries (m.expire now) [] := by
  refine ⟨h.expire now, ?_, ?_⟩
  · intro sessionID after hafter
    rw [expire_sessions, Option.map_eq_some_iff] at hafter
    obtain ⟨session, hsession, rfl⟩ := hafter
    exact ⟨List.not_mem_nil, session, hsession, session.heir_expire now⟩
  · intro sessionID session hsession _
    exact ⟨_, by rw [expire_sessions, hsession, Option.map_some]⟩

/-- Writing one session over. -/
theorem carries_insert {sessionID : Text} {session after : DiagnosticSession}
    (hcoherent : next.Coherent)
    (hnext : next.sessions = m.sessions.insert sessionID after)
    (hsession : m.sessions[sessionID]? = some session)
    (hheir : session.Heir after) : m.Carries next [] := by
  refine ⟨hcoherent, ?_, ?_⟩
  · intro other found hfound
    refine ⟨List.not_mem_nil, ?_⟩
    rw [hnext, GoMap.get_insert] at hfound
    split at hfound
    · rename_i hsame
      subst hsame
      cases hfound
      exact ⟨session, hsession, hheir⟩
    · exact ⟨found, hfound, .refl found⟩
  · intro other before hbefore _
    rw [hnext, GoMap.get_insert]
    split
    · exact ⟨after, rfl⟩
    · exact ⟨before, hbefore⟩

theorem Coherent.carries_removeSession (h : m.Coherent) (sessionID : Text) :
    m.Carries (m.removeSession sessionID) [sessionID] := by
  refine ⟨h.removeSession sessionID, ?_, ?_⟩
  · intro other after hafter
    rw [removeSession_sessions] at hafter
    split at hafter
    · cases hafter
    · rename_i hother
      exact ⟨fun hmem => hother (List.mem_singleton.mp hmem).symm, after,
        hafter, .refl after⟩
  · intro other session hsession hother
    refine ⟨session, ?_⟩
    rw [removeSession_sessions, if_neg, hsession]
    intro hsame
    exact hother (hsame ▸ List.mem_singleton_self _)

/-- Removing sessions one after the other. -/
theorem Coherent.carries_removeAll (h : m.Coherent) (doomed : List Text) :
    m.Carries (doomed.foldl DiagnosticSessionManager.removeSession m)
      doomed := by
  induction doomed generalizing m with
  | nil => exact h.carries
  | cons sessionID rest ih =>
      have hfirst := h.carries_removeSession sessionID
      exact hfirst.trans (ih hfirst.coherent)

/-- The loop that makes room removes only sessions it was given. -/
theorem Coherent.carries_evict (h : m.Coherent) (candidates : List Text) :
    ∃ evicted, (∀ id ∈ evicted, id ∈ candidates) ∧
      m.Carries (m.evict candidates).1 evicted := by
  induction candidates generalizing m with
  | nil => exact ⟨[], List.forall_mem_nil _, h.carries⟩
  | cons sessionID rest ih =>
      have hfirst := h.carries_removeSession sessionID
      simp only [DiagnosticSessionManager.evict]
      split
      · refine ⟨[sessionID], ?_, hfirst⟩
        intro id hid
        rw [List.mem_singleton.mp hid]
        exact List.mem_cons_self
      · obtain ⟨evicted, hsub, hrest⟩ := ih hfirst.coherent
        refine ⟨sessionID :: evicted, ?_, hfirst.trans hrest⟩
        intro id hid
        rcases List.mem_cons.mp hid with rfl | hmem
        · exact List.mem_cons_self
        · exact List.mem_cons_of_mem _ (hsub id hmem)

theorem mem_terminalSessions {visited : Text → Nat} {sessionID : Text}
    (hid : sessionID ∈ m.terminalSessions visited) :
    ∃ session, m.sessions[sessionID]? = some session ∧
      session.state.terminal = true := by
  simp only [terminalSessions, List.mem_map, List.mem_insertionSort,
    List.mem_filter] at hid
  obtain ⟨⟨id, session⟩, ⟨hentry, hterminal⟩, rfl⟩ := hid
  exact ⟨session, Std.ExtTreeMap.mem_toList_iff_getElem?_eq_some.mp hentry,
    hterminal⟩

/-- Making room removes only sessions that are over, and none where there is
room. -/
theorem Coherent.carries_makeCapacity (h : m.Coherent)
    (visited : Text → Nat) :
    ∃ evicted, (∀ id ∈ evicted, ¬ m.HasRoom ∧ ∃ session,
        m.sessions[id]? = some session ∧ session.state.terminal = true) ∧
      m.Carries (m.makeCapacity visited).1 evicted := by
  unfold DiagnosticSessionManager.makeCapacity
  split
  · exact ⟨[], List.forall_mem_nil _, h.carries⟩
  · rename_i hroom
    obtain ⟨evicted, hsub, hcarries⟩ := h.carries_evict
      (m.terminalSessions visited)
    exact ⟨evicted, fun id hid => ⟨hroom, mem_terminalSessions (hsub id hid)⟩,
      hcarries⟩

/-- A call that opens nothing and removes nothing. -/
theorem Coherent.carries_cancelSession (h : m.Coherent) (sessionID : Text)
    (now : Time) : m.Carries (m.cancelSession sessionID now).1 [] := by
  have hexpired := h.carries_expire now
  have hcoherent := (h.cancelSession sessionID now).coherent
  unfold DiagnosticSessionManager.cancelSession at hcoherent ⊢
  dsimp only at hcoherent ⊢
  split
  · exact hexpired
  · rename_i session hsession
    rw [hsession] at hcoherent
    dsimp only at hcoherent
    split
    · exact hexpired
    · rename_i hactive
      rw [if_neg hactive] at hcoherent
      exact hexpired.trans (carries_insert hcoherent rfl hsession
        (session.revised_cancel.heir
          (DiagnosticSession.forward_cancel (by simpa using hactive))))

/-- Where the cancellation succeeds, the session is cancelled. -/
theorem cancelSession_cancelled {sessionID : Text} {now : Time}
    (hok : (m.cancelSession sessionID now).2 = .ok ()) :
    (∃ session, (m.expire now).sessions[trimSpace sessionID]? =
        some session) ∧
    ∀ session, (m.cancelSession sessionID now).1.sessions[
      trimSpace sessionID]? = some session → session.state = .cancelled := by
  unfold DiagnosticSessionManager.cancelSession at hok ⊢
  dsimp only at hok ⊢
  split at hok
  · cases hok
  · rename_i session hsession
    split at hok
    · cases hok
    · rename_i hactive
      refine ⟨⟨session, hsession⟩, ?_⟩
      intro after hafter
      rw [if_neg hactive] at hafter
      change ((m.expire now).sessions.insert _ _)[_]? = _ at hafter
      rw [GoMap.get_insert, if_pos rfl] at hafter
      cases hafter
      rfl

theorem Coherent.carries_transitionJob (h : m.Coherent) (jobID : Text)
    (state : JobState) (now : Time) :
    m.Carries (m.transitionJob jobID state now).1 [] := by
  have hexpired := h.carries_expire now
  have hmoves := h.transitionJob jobID state now
  unfold DiagnosticSessionManager.transitionJob at hmoves ⊢
  dsimp only at hmoves ⊢
  split
  · exact hexpired
  · rename_i session index job hjob
    rw [hjob] at hmoves
    dsimp only at hmoves
    obtain ⟨hsession, hplace, -⟩ := jobAt_ok hexpired.coherent hjob
    split
    · exact hexpired
    · rename_i hactive
      rw [hactive] at hmoves
      dsimp only at hmoves
      have hopen := activeSessionError_ok hactive
      split
      · exact hexpired
      · rename_i hallowed
        rw [if_neg hallowed] at hmoves
        obtain ⟨hjobOpen, hstate⟩ :=
          allowedTransition_open (by simpa using hallowed)
        have hbefore : job.state ≠ .completed := by
          intro hcompleted
          rw [hcompleted] at hjobOpen
          contradiction
        refine hexpired.trans (carries_insert hmoves.coherent rfl hsession ?_)
        apply DiagnosticSession.Revised.heir
        · exact (DiagnosticSession.revised_setJobState hplace hbefore
            hstate).trans (DiagnosticSession.revised_deriveState _ now)
        · refine (DiagnosticSession.forward_setJobState hplace hjobOpen
            state).trans ?_
          apply DiagnosticSession.forward_deriveState
          exact hopen

theorem Coherent.carries_acceptObservation (h : m.Coherent)
    (verify : Verifier) (observation : Observation) (now : Time) :
    m.Carries (m.acceptObservation verify observation now).1 [] := by
  have hcoherent := h.acceptObservation verify observation now
  rcases acceptObservation_cases h verify observation now with
    ⟨-, -, hsame | hexpired⟩ |
      ⟨session, index, job, haccepted, -, hjob, -, hbefore, hopen, hbound⟩
  · rw [hsame]
    exact h.carries
  · rw [hexpired]
    exact h.carries_expire now
  · obtain ⟨hsession, hplace, -⟩ := jobAt_ok (h.expire now) hjob
    rw [haccepted] at hcoherent ⊢
    refine (h.carries_expire now).trans
      (carries_insert hcoherent rfl hsession ?_)
    have hderived := DiagnosticSession.revised_deriveState
      { session.setJobState index .completed with
        agentObservations :=
          session.agentObservations ++ [accepted observation now] } now
    refine ⟨hderived.sessionID, hderived.stableID, ?_, ?_⟩
    · rw [hderived.jobIDs]
      exact DiagnosticSession.jobIDs_setJobState session index .completed
    · intro hcancelled
      rw [hcancelled] at hopen
      cases hopen

/-- The sessions that had to go for a new one were over, and there was no
room. -/
def Evicted (m : DiagnosticSessionManager) (now : Time)
    (evicted : List Text) : Prop :=
  ∀ id ∈ evicted, ¬ (m.expire now).HasRoom ∧ ∃ session,
    (m.expire now).sessions[id]? = some session ∧
      session.state.terminal = true

theorem Coherent.addSession_cases (h : m.Coherent)
    (session : DiagnosticSession) (visited : Text → Nat) (now : Time) :
    ∃ middle evicted, m.Carries middle evicted ∧ m.Evicted now evicted ∧
      (((DiagnosticSessionManager.addSession m session visited now).1 =
          middle ∧
        ∃ error, (DiagnosticSessionManager.addSession m session visited
          now).2 = .error error) ∨
      ((DiagnosticSessionManager.addSession m session visited now).1.sessions =
          middle.sessions.insert session.sessionID session ∧
        middle.sessions[session.sessionID]? = none ∧
        (DiagnosticSessionManager.addSession m session visited now).2 =
          .ok session)) := by
  have hexpired := h.carries_expire now
  unfold DiagnosticSessionManager.addSession
  dsimp only
  split
  · exact ⟨_, [], hexpired, List.forall_mem_nil _, Or.inl ⟨rfl, _, rfl⟩⟩
  · rename_i hnew
    obtain ⟨evicted, hover, hcarries⟩ :=
      hexpired.coherent.carries_makeCapacity visited
    have hall := hexpired.trans hcarries
    split
    · rename_i heq
      rw [heq] at hall
      exact ⟨_, evicted, hall, hover, Or.inl ⟨rfl, _, rfl⟩⟩
    · rename_i room heq
      rw [heq] at hall hcarries
      refine ⟨room, evicted, hall, hover, Or.inr ⟨rfl, ?_, rfl⟩⟩
      cases hfound : room.sessions[session.sessionID]? with
      | none => rfl
      | some found =>
          obtain ⟨-, before, hbefore, -⟩ := hcarries.before _ found hfound
          rw [Std.ExtTreeMap.contains_eq_isSome_getElem?, hbefore] at hnew
          exact absurd rfl hnew

/-- `CreateSession` opens a session without jobs under a token, or none. -/
theorem Coherent.createSession_cases (h : m.Coherent)
    (request : CreateSessionRequest) (newID : Except Text Text)
    (visited : Text → Nat) (now : Time) :
    ∃ middle evicted, m.Carries middle evicted ∧ m.Evicted now evicted ∧
      (((m.createSession request newID visited now).1 = middle ∧
        ∃ error, (m.createSession request newID visited now).2 =
          .error error) ∨
      ∃ session, newID = .ok session.sessionID ∧
        trimSpace session.sessionID = session.sessionID ∧
        session.jobs = [] ∧
        (m.createSession request newID visited now).1.sessions =
          middle.sessions.insert session.sessionID session ∧
        middle.sessions[session.sessionID]? = none ∧
        (m.createSession request newID visited now).2 = .ok session) := by
  have hrefused : ∀ error : DiagnosticError, ∃ middle evicted,
      m.Carries middle evicted ∧ m.Evicted now evicted ∧
        ((m = middle ∧ ∃ error', (.error error :
          Except DiagnosticError DiagnosticSession) = .error error')) :=
    fun error => ⟨m, [], h.carries, List.forall_mem_nil _, rfl, error, rfl⟩
  unfold DiagnosticSessionManager.createSession
  split
  · obtain ⟨middle, evicted, hcarries, hover, hsame⟩ := hrefused ‹_›
    exact ⟨middle, evicted, hcarries, hover, Or.inl hsame⟩
  · rename_i agents hagents
    dsimp only
    split
    · obtain ⟨middle, evicted, hcarries, hover, hsame⟩ := hrefused ‹_›
      exact ⟨middle, evicted, hcarries, hover, Or.inl hsame⟩
    · split
      · exact ⟨m, [], h.carries, List.forall_mem_nil _, Or.inl ⟨rfl, _, rfl⟩⟩
      · rename_i sessionID
        split
        · exact ⟨m, [], h.carries, List.forall_mem_nil _, Or.inl ⟨rfl, _, rfl⟩⟩
        · rename_i htoken
          rw [Bool.not_eq_true', Bool.not_eq_false] at htoken
          generalize hsession : m.newSession (trimmedRequest request agents)
            sessionID now = session
          obtain ⟨middle, evicted, hcarries, hover, hcases⟩ :=
            h.addSession_cases session visited now
          refine ⟨middle, evicted, hcarries, hover, ?_⟩
          rcases hcases with hsame | ⟨hinsert, hnone, hok⟩
          · exact Or.inl hsame
          · refine Or.inr ⟨session, ?_, ?_, ?_, hinsert, hnone, hok⟩
            · rw [← hsession]
              rfl
            · rw [← hsession]
              exact trimSpace_of_valid htoken
            · rw [← hsession]
              rfl

/-- `RegisterJob` adds a job to an open session that asked for its agent, or
time alone passes. -/
theorem Coherent.registerJob_cases (h : m.Coherent)
    (request : RegisterJobRequest) (jobID nonce : Except Text Text)
    (now : Time) :
    (∃ error, (m.registerJob request jobID nonce now).2 = .error error ∧
      m.Carries (m.registerJob request jobID nonce now).1 []) ∨
    ∃ session job, (m.expire now).sessions[trimSpace request.sessionID]? =
        some session ∧
      session.sessionID = trimSpace request.sessionID ∧
      session.state.terminal = false ∧
      (m.registerJob request jobID nonce now).2 = .ok job ∧
      job.sessionID = session.sessionID ∧ job.stableID = session.stableID ∧
      (m.registerJob request jobID nonce now).1 =
        (m.expire now).addJob session job now := by
  have hexpired := h.carries_expire now
  unfold DiagnosticSessionManager.registerJob
  dsimp only
  split
  · exact Or.inl ⟨_, rfl, h.carries⟩
  · split
    · exact Or.inl ⟨_, rfl, h.carries⟩
    · split
      · exact Or.inl ⟨_, rfl, hexpired⟩
      · rename_i session hsession
        obtain ⟨hfound, hopen, -, -⟩ := registrable_ok hsession
        split
        · exact Or.inl ⟨_, rfl, hexpired⟩
        · exact Or.inr ⟨session, _, hfound,
            hexpired.coherent.keys _ _ hfound, hopen, rfl, rfl, rfl, rfl⟩

end DiagnosticSessionManager

end XrayChecker.Diagnostics

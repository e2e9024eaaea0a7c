import XrayChecker.Remoteprobe.OwnFailure
import XrayChecker.Remoteprobe.Withdrawn

/-
What a claim hands out after a withdrawal has returned, in every run of the
creations, the claims and the withdrawals.
-/

namespace XrayChecker.Remoteprobe

open Go Diagnostics DiagnosticSessionManager Probeagent Checker Machine

section

variable {Addr : Type} [DecidableEq Addr] {library : Library Addr}
  {verify : DiagnosticSessionManager.Verifier}

section Prepare

variable (c : Controller) (outside : Outside Addr)

omit [DecidableEq Addr] in
theorem prepareTargeted_fst (request : Controller.TargetedRequest) :
    ((c.prepareTargeted library request outside).1 = c ∧
      ∃ error, (c.prepareTargeted library request outside).2 =
        .error error) ∨
      (c.prepareTargeted library request outside).1 =
        c.removeExpiredAssignments outside.now := by
  unfold Controller.prepareTargeted
  split
  · exact Or.inl ⟨rfl, _, rfl⟩
  · split
    · exact Or.inl ⟨rfl, _, rfl⟩
    · dsimp only
      split
      · exact Or.inl ⟨rfl, _, rfl⟩
      · split
        · exact Or.inl ⟨rfl, _, rfl⟩
        · split
          · exact Or.inl ⟨rfl, _, rfl⟩
          · split
            · exact Or.inl ⟨rfl, _, rfl⟩
            · split
              · exact Or.inl ⟨rfl, _, rfl⟩
              · split
                · exact Or.inr rfl
                · exact Or.inr rfl

theorem prepareAutomatic_fst (request : Controller.CreateAutomaticRequest) :
    ((c.prepareAutomatic library request outside).1 = c ∧
      ∃ error, (c.prepareAutomatic library request outside).2 =
        .error error) ∨
      (c.prepareAutomatic library request outside).1 =
        c.removeExpiredAssignments outside.now := by
  unfold Controller.prepareAutomatic
  split
  · exact Or.inl ⟨rfl, _, rfl⟩
  · split
    · exact Or.inl ⟨rfl, _, rfl⟩
    · split
      · exact Or.inl ⟨rfl, _, rfl⟩
      · split
        · exact Or.inl ⟨rfl, _, rfl⟩
        · split
          · exact Or.inl ⟨rfl, _, rfl⟩
          · split
            · exact Or.inl ⟨rfl, _, rfl⟩
            · split
              · exact Or.inl ⟨rfl, _, rfl⟩
              · dsimp only
                split
                · split
                  · exact Or.inr rfl
                  · exact Or.inr rfl
                · exact Or.inr rfl

/-- Before the session manager is asked, a creation has pruned the queue. -/
theorem prepare_fst (creation : Creation) :
    ((creation.prepare library c outside).1 = c ∧
      ∃ error, (creation.prepare library c outside).2 = .error error) ∨
      (creation.prepare library c outside).1 =
        c.removeExpiredAssignments outside.now := by
  cases creation with
  | manual request => exact prepareTargeted_fst c outside _
  | sweep request => exact prepareTargeted_fst c outside _
  | automatic request => exact prepareAutomatic_fst c outside request

end Prepare

namespace World

theorem Sound.prune {w : World} (h : Sound w) (now : Time) :
    Sound { w with controller := w.controller.removeExpiredAssignments now
      } := by
  apply h.requeue
  intro jobID queued hqueued
  change (w.controller.assignments.filter _)[jobID]? = _ at hqueued
  rw [Std.ExtTreeMap.getElem?_filter', Option.filter_eq_some_iff] at hqueued
  exact ⟨queued, hqueued.1, rfl⟩

/-- `CreateSession` has room, or finds no queued assignment whose session is
over, apart from those a withdrawal in progress is about. -/
def Roomy (w : World) (now : Time) : Prop :=
  (w.controller.manager.expire now).HasRoom ∨
    ∀ (jobID : Text) (queued : QueuedAssignment),
      w.controller.assignments[jobID]? = some queued →
      (∃ withdrawal ∈ w.started,
        queued.assignment.job.sessionID ∈ withdrawal.covered) ∨
      ∀ session : DiagnosticSession, (w.controller.manager.expire now).sessions[
        queued.assignment.job.sessionID]? = some session →
        session.state.terminal = false

/-- The sessions that make room for a new one. -/
theorem Sound.evicted {w : World} (h : Sound w) {now : Time}
    (hroomy : w.Roomy now) {middle : DiagnosticSessionManager}
    {evicted : List Text}
    (hcarries : w.controller.manager.Carries middle evicted)
    (hevicted : w.controller.manager.Evicted now evicted) :
    Sound (w.withManager middle) := by
  have hmove := h.move hcarries [] ?_ (List.forall_mem_nil _)
  · rwa [List.append_nil] at hmove
  · intro jobID queued hqueued hgone
    obtain ⟨hfull, session, hsession, hover⟩ := hevicted _ hgone
    rw [List.append_nil]
    rcases hroomy with hroom | hroom
    · exact absurd hroom hfull
    · rcases hroom jobID queued hqueued with hcovered | hopen
      · exact hcovered
      · rw [hopen session hsession] at hover
        cases hover

theorem Sound.createSession {w : World} (h : Sound w)
    (request : CreateSessionRequest) {newID : Except Text Text}
    (visited : Text → Nat) {now : Time}
    (hfresh : ∀ id, newID = .ok id → id ∉ w.issued) (hroomy : w.Roomy now) :
    Sound ({ w with issued := w.issued ++ newID.toOption.toList }.withManager
      (w.controller.manager.createSession request newID visited now).1) ∧
    ∀ session,
      (w.controller.manager.createSession request newID visited now).2 =
        .ok session →
      trimSpace session.sessionID = session.sessionID ∧
        Opening ({ w with
          issued := w.issued ++ newID.toOption.toList }.withManager
          (w.controller.manager.createSession request newID visited now).1)
          session.sessionID := by
  have hcoherent := (h.coherent.createSession request newID visited
    now).coherent
  obtain ⟨middle, evicted, hcarries, hevicted, ⟨hsame, error, herror⟩ |
    ⟨session, hnew, htrim, hjobless, hinsert, -, hok⟩⟩ :=
    h.coherent.createSession_cases request newID visited now
  · rw [hsame, herror]
    refine ⟨(h.evicted hroomy hcarries hevicted).issue _, ?_⟩
    intro session hsession
    cases hsession
  · have hfresh := hfresh _ hnew
    have hissued : session.sessionID ∈
        w.issued ++ newID.toOption.toList := by
      rw [hnew]
      exact List.mem_append_right _ (List.mem_singleton_self _)
    have hunqueued : ∀ (jobID : Text) (queued : QueuedAssignment),
        w.controller.assignments[jobID]? = some queued →
        session.sessionID ≠ queued.assignment.job.sessionID := by
      intro jobID queued hqueued heq
      exact hfresh (heq ▸ (h.queued jobID queued hqueued).1)
    refine ⟨((h.evicted hroomy hcarries hevicted).issue _).put hcoherent hinsert
      hissued hunqueued, ?_⟩
    intro found hfound
    rw [hok] at hfound
    cases hfound
    refine ⟨htrim, hissued, fun hgone => hfresh (h.past.2 _ hgone), hunqueued,
      ?_, Or.inr fun withdrawal hstarted hcovered =>
        hfresh (h.past.1 withdrawal hstarted _ hcovered)⟩
    intro opened hopened
    change ((w.controller.manager.createSession request newID visited
      now).1.sessions)[_]? = _ at hopened
    rw [hinsert, GoMap.get_insert, if_pos rfl] at hopened
    cases hopened
    exact hjobless

/-- `RegisterJob` for the session that was just opened, and its assignment. -/
theorem Sound.registerJob {w : World} (h : Sound w)
    {request : RegisterJobRequest}
    (htrim : trimSpace request.sessionID = request.sessionID)
    (hopening : Opening w request.sessionID) (jobID nonce : Except Text Text)
    (now : Time) :
    Sound (w.withManager
      (w.controller.manager.registerJob request jobID nonce now).1) ∧
    ∀ job, (w.controller.manager.registerJob request jobID nonce now).2 =
        .ok job →
      ∀ queued : QueuedAssignment, queued.assignment.job = job →
      Sound ((w.withManager (w.controller.manager.registerJob request jobID
        nonce now).1).withQueue
          (w.controller.assignments.insert job.jobID queued)) := by
  have hcoherent := (h.coherent.registerJob request jobID nonce now).coherent
  rcases h.coherent.registerJob_cases request jobID nonce now with
    ⟨error, herror, hcarries⟩ |
      ⟨session, job, hsession, hid, hopen, hok, howner, hstable, hnext⟩
  · refine ⟨h.carried hcarries, ?_⟩
    intro job hjob
    rw [herror] at hjob
    cases hjob
  · rw [htrim] at hsession hid
    have hexpired := h.coherent.carries_expire now
    obtain ⟨hjobless, hcancelled⟩ := hopening.carried hexpired
    have hnone := hjobless session hsession
    have huncovered : ∀ withdrawal ∈ w.started,
        request.sessionID ∉ withdrawal.covered := by
      rcases hopening.untouched with hgone | huncovered
      · rw [hcancelled hgone session hsession] at hopen
        cases hopen
      · exact huncovered
    set next := ({ session with
      jobs := session.jobs ++ [job] } : DiagnosticSession).deriveState now
      with hderived
    have hrevised := DiagnosticSession.revised_deriveState
      ({ session with jobs := session.jobs ++ [job] } : DiagnosticSession) now
    have hinsert : (w.controller.manager.registerJob request jobID nonce
        now).1.sessions =
        (w.controller.manager.expire now).sessions.insert request.sessionID
          next := by
      rw [hnext, ← hid]
      rfl
    have hsound : Sound (w.withManager (w.controller.manager.registerJob
        request jobID nonce now).1) :=
      (h.carried hexpired).put hcoherent hinsert hopening.issued
        hopening.unqueued
    refine ⟨hsound, ?_⟩
    intro answered hanswered queued hqueued
    rw [hok] at hanswered
    cases hanswered
    have hsessionID : queued.assignment.job.sessionID = request.sessionID := by
      rw [hqueued, howner, hid]
    apply hsound.enqueue
    · change ((w.controller.manager.registerJob request jobID nonce
        now).1.sessions)[_]? = some next
      rw [hinsert, hsessionID, GoMap.get_insert, if_pos rfl]
    · rw [hsessionID]
      exact hopening.kept
    · rw [hqueued, hstable]
      exact hrevised.stableID
    · intro other hother
      have hmem : other.jobID ∈ next.jobs.map (·.jobID) :=
        List.mem_map_of_mem hother
      rw [hderived, hrevised.jobIDs, hnone] at hmem
      exact List.mem_singleton.mp hmem
    · rw [hsessionID]
      exact huncovered

theorem Sound.viewed {w : World} (h : Sound w) (id : Text) (now : Time) :
    Sound (w.withManager (w.controller.manager.session id now).1) :=
  h.carried (h.coherent.carries_expire now)

theorem Sound.create {w : World} (h : Sound w) (creation : Creation)
    (outside : Outside Addr) (before after : List Start)
    (hfresh : ∀ id, outside.sessionID = .ok id → id ∉ w.issued)
    (hroomy : Roomy { w with
      controller := w.controller.removeExpiredAssignments outside.now }
      outside.createdAt) :
    Sound (w.create library verify creation outside before after) := by
  have hpruned := h.prune outside.now
  have hfst := @prepare_fst _ _ library w.controller outside creation
  unfold World.create
  generalize creation.prepare library w.controller outside = answer at hfst ⊢
  rcases answer with ⟨c, error | prepared⟩
  · rcases hfst with ⟨hsame, -⟩ | hsame
    · exact (show c = w.controller from hsame) ▸ h
    · exact (show c = _ from hsame) ▸ hpruned
  · rcases hfst with ⟨-, error, herror⟩ | hsame
    · cases herror
    · have hc : c = w.controller.removeExpiredAssignments outside.now := hsame
      subst hc
      obtain ⟨hcreated, hopening⟩ := hpruned.createSession prepared.request
        outside.visited hfresh hroomy
      dsimp only
      revert hcreated hopening
      generalize DiagnosticSessionManager.createSession _ prepared.request
        outside.sessionID outside.visited outside.createdAt = answer
      intro hcreated hopening
      rcases answer with ⟨manager, error | session⟩
      · exact hcreated
      · obtain ⟨htrim, hopening⟩ := hopening session rfl
        have hstarted := @Sound.starts _ library verify _ hcreated before
        obtain ⟨hfailed, hregistered⟩ := @Sound.registerJob _ hstarted
          { sessionID := session.sessionID, agentID := prepared.agentID
            profile := prepared.profile
            expiresAt := prepared.request.expiresAt } htrim
          (hopening.starts hcreated before) outside.jobID outside.nonce
          outside.registeredAt
        dsimp only
        revert hfailed hregistered
        generalize DiagnosticSessionManager.registerJob _ _ outside.jobID
          outside.nonce outside.registeredAt = registered
        intro hfailed hregistered
        rcases registered with ⟨next, error | job⟩
        · have hlater := @Sound.starts _ library verify _ hfailed after
          exact hlater.carried (hlater.coherent.carries_cancelSession _ _)
        · apply Sound.viewed
          apply Sound.starts
          exact hregistered job rfl _ rfl

theorem get_of_erase {assignments : GoMap Text QueuedAssignment}
    {jobID other : Text} {queued : QueuedAssignment}
    (h : (assignments.erase jobID)[other]? = some queued) :
    assignments[other]? = some queued := by
  rw [GoMap.get_erase] at h
  split at h
  · cases h
  · exact h

/-- The loop of `claimNow` drops expired assignments, and finds one that is
queued. -/
theorem search_spec (agentID : Text) (clock : Text → Time)
    (assignments : GoMap Text QueuedAssignment) (jobIDs : List Text) :
    (∀ (jobID : Text) (queued : QueuedAssignment),
      (search agentID clock assignments jobIDs).1[jobID]? = some queued →
      assignments[jobID]? = some queued) ∧
    ∀ found, (search agentID clock assignments jobIDs).2 = some found →
      (search agentID clock assignments jobIDs).1[found.1]? =
        some found.2 := by
  induction jobIDs generalizing assignments with
  | nil =>
      refine ⟨fun _ _ hqueued => hqueued, ?_⟩
      intro found hfound
      cases hfound
  | cons jobID rest ih =>
      rw [search]
      split
      · exact ih assignments
      · rename_i queued hqueued
        split
        · obtain ⟨hsub, hfound⟩ := ih (assignments.erase jobID)
          refine ⟨?_, hfound⟩
          intro other found hother
          exact get_of_erase (hsub other found hother)
        · split
          · exact ih assignments
          · refine ⟨fun _ _ hold => hold, ?_⟩
            intro found hfound
            cases hfound
            exact hqueued

omit [DecidableEq Addr] in
theorem Sound.claimNow {w : World} (h : Sound w) (claim : Claim) :
    Sound (w.claimNow library verify claim).1 := by
  obtain ⟨hsub, hfound⟩ := search_spec claim.agentID claim.clock
    w.controller.assignments w.controller.assignments.keys
  unfold World.claimNow
  revert hsub hfound
  generalize search claim.agentID claim.clock w.controller.assignments
    w.controller.assignments.keys = answer
  intro hsub hfound
  have hsearched := h.requeue fun jobID queued hqueued =>
    ⟨queued, hsub jobID queued hqueued, rfl⟩
  rcases answer with ⟨assignments, - | ⟨jobID, queued⟩⟩
  · exact hsearched
  · dsimp only
    split
    · exact hsearched
    · have hdispatched := hsearched.carried
        (hsearched.coherent.carries_transitionJob jobID .dispatched
          claim.dispatchedAt)
      revert hdispatched
      rw [← markJobDispatched]
      generalize DiagnosticSessionManager.markJobDispatched _ jobID
        claim.dispatchedAt = dispatched
      intro hdispatched
      rcases dispatched with ⟨manager, error | done⟩
      · apply hdispatched.requeue
        exact fun other found hother => ⟨found, get_of_erase hother, rfl⟩
      · have hstarted := @Sound.starts _ library verify _ hdispatched
          claim.between
        have hrunning := hstarted.carried
          (hstarted.coherent.carries_transitionJob jobID .running
            claim.runningAt)
        have hqueue : (World.starts library verify
            ((w.withQueue assignments).withManager manager)
            claim.between).controller.assignments = assignments :=
          (starts_frame _ _).1
        dsimp only
        revert hrunning
        rw [← markJobRunning]
        generalize DiagnosticSessionManager.markJobRunning _ jobID
          claim.runningAt = running
        intro hrunning
        rcases running with ⟨next, error | done⟩
        · apply hrunning.requeue
          intro other found hother
          exact ⟨found, (congrArg (·[other]?) hqueue).trans
            (get_of_erase hother), rfl⟩
        · apply hrunning.requeue
          intro other found hother
          rw [GoMap.get_insert] at hother
          split at hother
          · rename_i hsame
            subst hsame
            cases hother
            exact ⟨queued, (congrArg (·[jobID]?) hqueue).trans
              (hfound _ rfl), rfl⟩
          · exact ⟨found, (congrArg (·[other]?) hqueue).trans hother, rfl⟩

omit [DecidableEq Addr] in
/-- What a claim hands out was queued. -/
theorem claimNow_queued {w : World} {claim : Claim}
    {assignment : JobAssignment}
    (h : (w.claimNow library verify claim).2 = .ok (some assignment)) :
    ∃ (jobID : Text) (queued : QueuedAssignment),
      w.controller.assignments[jobID]? = some queued ∧
        queued.assignment = assignment := by
  obtain ⟨hsub, hfound⟩ := search_spec claim.agentID claim.clock
    w.controller.assignments w.controller.assignments.keys
  unfold World.claimNow at h
  revert hsub hfound h
  generalize search claim.agentID claim.clock w.controller.assignments
    w.controller.assignments.keys = answer
  intro h hsub hfound
  rcases answer with ⟨assignments, - | ⟨jobID, queued⟩⟩
  · cases h
  · refine ⟨jobID, queued, hsub jobID queued (hfound _ rfl), ?_⟩
    dsimp only at h
    split at h
    · cases h
      rfl
    · split at h
      · cases h
      · split at h
        · cases h
        · cases h
          rfl

/-- Both locks read the argument of a cancellation alike, where it matters. -/
def Exact (w : World) : Withdrawal → Prop
  | .cancel sessionID => trimSpace sessionID = sessionID ∨
      ∀ (jobID : Text) (queued : QueuedAssignment),
        w.controller.assignments[jobID]? = some queued →
        queued.assignment.job.sessionID ≠ trimSpace sessionID
  | _ => True

/-- Then all goes that the withdrawal is about. -/
theorem Exact.drops {w : World} {call : Withdrawal} (h : w.Exact call)
    {jobID : Text} {queued : QueuedAssignment}
    (hqueued : w.controller.assignments[jobID]? = some queued)
    (haims : call.aims jobID queued.assignment.job = true) :
    call.drops jobID queued.assignment.job = true := by
  cases call with
  | cancel sessionID =>
      have hsession : queued.assignment.job.sessionID = trimSpace sessionID :=
        of_decide_eq_true haims
      rcases h with hsame | hnone
      · exact decide_eq_true (hsession.trans hsame)
      · exact absurd hsession (hnone jobID queued hqueued)
  | delete sessionID => exact haims
  | clear stableID => exact haims
  | accept observation => exact haims

theorem Sound.finish {w : World} (h : Sound w) {index : Nat}
    (hexact : ∀ withdrawal, w.started[index]? = some withdrawal →
      w.Exact withdrawal.call) :
    Sound (w.finish index) := by
  unfold World.finish
  cases hwithdrawal : w.started[index]? with
  | none => exact h
  | some withdrawal =>
      have hexact := hexact withdrawal hwithdrawal
      have hstarted : withdrawal ∈ w.started :=
        List.mem_of_getElem? hwithdrawal
      have hleft : ∀ (jobID : Text) (queued : QueuedAssignment),
          (w.controller.assignments.filter fun jobID queued =>
            !withdrawal.call.drops jobID queued.assignment.job)[jobID]? =
              some queued →
          w.controller.assignments[jobID]? = some queued ∧
            queued.assignment.job.sessionID ∉ withdrawal.covered := by
        intro jobID queued hqueued
        rw [Std.ExtTreeMap.getElem?_filter', Option.filter_eq_some_iff]
          at hqueued
        refine ⟨hqueued.1, ?_⟩
        intro hcovered
        have hdropped := hexact.drops hqueued.1
          (h.dropped withdrawal hstarted jobID queued hqueued.1 hcovered)
        rw [hdropped] at hqueued
        exact Bool.false_ne_true hqueued.2
      constructor
      · exact h.coherent
      · exact h.known
      · intro jobID queued hqueued
        obtain ⟨hold, huncovered⟩ := hleft jobID queued hqueued
        obtain ⟨hissued, hkept⟩ := h.queued jobID queued hold
        refine ⟨hissued, ?_⟩
        rw [List.mem_append, not_or]
        exact ⟨hkept, huncovered⟩
      · intro jobID queued hqueued
        exact h.matching jobID queued (hleft jobID queued hqueued).1
      · intro jobID queued hqueued
        obtain ⟨hold, huncovered⟩ := hleft jobID queued hqueued
        rcases h.held jobID queued hold with hsession | ⟨other, hother,
          hcovered⟩
        · exact Or.inl hsession
        · refine Or.inr ⟨other, ?_, hcovered⟩
          obtain ⟨place, hplace⟩ := List.getElem?_of_mem hother
          have hdiffer : place ≠ index := by
            intro hsame
            rw [hsame, hwithdrawal] at hplace
            cases hplace
            exact huncovered hcovered
          exact List.mem_eraseIdx_iff_getElem?.mpr ⟨place, hdiffer, hplace⟩
      · intro other hother jobID queued hqueued
        exact h.dropped other (List.mem_of_mem_eraseIdx hother) jobID queued
          (hleft jobID queued hqueued).1
      · refine ⟨?_, ?_⟩
        · intro other hother
          exact h.past.1 other (List.mem_of_mem_eraseIdx hother)
        · intro id hid
          rcases List.mem_append.mp hid with hold | hcovered
          · exact h.past.2 id hold
          · exact h.past.1 withdrawal hstarted id hcovered

/-- Generated session IDs do not repeat; a session makes room for a new one
only when nothing is queued for it; and `Cancel` is handed an ID as it is
written wherever there is something to drop. -/
def Allowed (w : World) : Event Addr → Prop
  | .create _ outside _ _ =>
      (∀ id, outside.sessionID = .ok id → id ∉ w.issued) ∧
        Roomy { w with
          controller := w.controller.removeExpiredAssignments outside.now }
          outside.createdAt
  | .finish index => ∀ withdrawal, w.started[index]? = some withdrawal →
      w.Exact withdrawal.call
  | _ => True

theorem Sound.step {w : World} (h : Sound w) {event : Event Addr}
    (hallowed : w.Allowed event) : Sound (w.step library verify event) := by
  cases event with
  | create creation outside before after =>
      exact h.create creation outside before after hallowed.1 hallowed.2
  | claim claim => exact h.claimNow claim
  | start call => exact h.start call
  | finish index => exact h.finish hallowed
  | sessions readAt prunedAt =>
      exact (h.carried (h.coherent.carries_expire readAt)).prune prunedAt
  | surroundings registry checker =>
      exact ⟨h.coherent, h.known, h.queued, h.matching, h.held, h.dropped,
        h.past⟩

/-- A controller that has just been made. -/
structure New (c : Controller) : Prop where
  manager : ∃ config, newDiagnosticSessionManager config = .ok c.manager
  assignments : c.assignments = ∅

theorem newDiagnosticSessionManager_sessions {config : ManagerConfig}
    {manager : DiagnosticSessionManager}
    (h : newDiagnosticSessionManager config = .ok manager) :
    manager.sessions = ∅ := by
  simp only [newDiagnosticSessionManager] at h
  split at h
  · cases h
  · cases h
    rfl

theorem New.sound {c : Controller} (h : New c) : Sound { controller := c } := by
  have hempty : ∀ (jobID : Text) (queued : QueuedAssignment),
      c.assignments[jobID]? ≠ some queued := by
    intro jobID queued hqueued
    rw [h.assignments] at hqueued
    simp at hqueued
  obtain ⟨config, hmanager⟩ := h.manager
  constructor
  · exact (newDiagnosticSessionManager_coherent hmanager).1
  · intro id session hsession
    change c.manager.sessions[id]? = some session at hsession
    rw [newDiagnosticSessionManager_sessions hmanager] at hsession
    simp at hsession
  · exact fun jobID queued hqueued => absurd hqueued (hempty jobID queued)
  · exact fun jobID queued hqueued => absurd hqueued (hempty jobID queued)
  · exact fun jobID queued hqueued => absurd hqueued (hempty jobID queued)
  · exact fun withdrawal hstarted => absurd hstarted List.not_mem_nil
  · exact ⟨fun withdrawal hstarted => absurd hstarted List.not_mem_nil,
      fun id hid => absurd hid List.not_mem_nil⟩

end World

section Active

variable {c : Controller}

omit [DecidableEq Addr] in
theorem executionSnapshot_error {stableID : Text} {error : ControllerError}
    (h : c.executionSnapshot library stableID = .error error) :
    ∃ text, error = .snapshot text := by
  unfold Controller.executionSnapshot at h
  split at h
  · cases h
    exact ⟨_, rfl⟩
  · split at h
    · cases h
      exact ⟨_, rfl⟩
    · split at h
      · cases h
        exact ⟨_, rfl⟩
      · cases h

theorem resolveProfile_error {requested : Text} {capabilities : List Text}
    {error : ControllerError}
    (h : c.resolveProfile requested capabilities = .error error) :
    error = .unknownProfile ∨ error = .unsupportedByAgent := by
  unfold Controller.resolveProfile at h
  split at h
  · split at h
    · cases h
      exact Or.inl rfl
    · cases h
  · split at h
    · cases h
      exact Or.inl rfl
    · split at h
      · cases h
        exact Or.inr rfl
      · cases h

omit [DecidableEq Addr] in
theorem openSession_error {request : CreateSessionRequest} {agentID : Text}
    {profile : TestProfile} {snapshot : DiagnosticProxySnapshot}
    {config : Bytes} {outside : Outside Addr} {error : ControllerError}
    (h : (c.openSession request agentID profile snapshot config outside).2 =
      .error error) : ∃ refusal, error = .diagnostics refusal := by
  unfold Controller.openSession at h
  split at h
  · cases h
    exact ⟨_, rfl⟩
  · split at h
    · cases h
      exact ⟨_, rfl⟩
    · cases h

omit [DecidableEq Addr] in
/-- A request is refused as active only where something is queued for the
agent. -/
theorem createTargeted_active {request : Controller.TargetedRequest}
    {outside : Outside Addr}
    (h : (c.createTargeted library request outside).2 =
      .error .activeSession) :
    ∃ (jobID : Text) (queued : QueuedAssignment),
      c.assignments[jobID]? = some queued ∧
        queued.assignment.job.agentID = trimSpace request.agentID := by
  unfold Controller.createTargeted at h
  split at h
  · cases h
  · split at h
    · cases h
    · dsimp only at h
      split at h
      · cases h
      · split at h
        · cases h
        · split at h
          · rename_i error herror
            cases h
            rcases resolveProfile_error herror with hother | hother
            · cases hother
            · cases hother
          · split at h
            · rename_i error herror
              cases h
              obtain ⟨text, hother⟩ := executionSnapshot_error herror
              cases hother
            · split at h
              · cases h
              · split at h
                · rename_i hany
                  obtain ⟨⟨jobID, queued⟩, hmem, hqueued⟩ :=
                    List.any_eq_true.mp hany
                  rw [Std.ExtTreeMap.mem_toList_iff_getElem?_eq_some] at hmem
                  change (c.assignments.filter _)[jobID]? = _ at hmem
                  rw [Std.ExtTreeMap.getElem?_filter',
                    Option.filter_eq_some_iff] at hmem
                  simp only [Bool.and_eq_true, decide_eq_true_eq] at hqueued
                  exact ⟨jobID, queued, hmem.1, hqueued.2⟩
                · obtain ⟨refusal, hother⟩ := openSession_error h
                  cases hother

end Active

/-- What holds where withdrawals have returned. -/
structure Settled (library : Library Addr)
    (verify : DiagnosticSessionManager.Verifier) (w : World) : Prop where
  /-- No claim returns an assignment of a withdrawn session. -/
  claims : ∀ (claim : World.Claim) (assignment : JobAssignment),
    (w.claimNow library verify claim).2 = .ok (some assignment) →
    assignment.job.sessionID ∉ w.withdrawn
  /-- Nothing is queued for one, so that its agent and its node are free. -/
  free : ∀ (jobID : Text) (queued : QueuedAssignment),
    w.controller.assignments[jobID]? = some queued →
    queued.assignment.job.sessionID ∉ w.withdrawn
  /-- A request is refused as active because of another session. -/
  opens : ∀ (request : Controller.TargetedRequest) (outside : Outside Addr),
    (w.controller.createTargeted library request outside).2 =
      .error .activeSession →
    ∃ (jobID : Text) (queued : QueuedAssignment),
      w.controller.assignments[jobID]? = some queued ∧
        queued.assignment.job.agentID = trimSpace request.agentID ∧
        queued.assignment.job.sessionID ∉ w.withdrawn
  /-- The manager holds the session of every queued assignment that no
  withdrawal in progress is about. -/
  held : ∀ (jobID : Text) (queued : QueuedAssignment),
    w.controller.assignments[jobID]? = some queued →
    (∃ session : DiagnosticSession, w.controller.manager.sessions[
      queued.assignment.job.sessionID]? = some session) ∨
    ∃ withdrawal ∈ w.started,
      queued.assignment.job.sessionID ∈ withdrawal.covered

omit [DecidableEq Addr] in
theorem World.Sound.settled {w : World} (h : World.Sound w) :
    Settled library verify w := by
  constructor
  · intro claim assignment hclaimed
    obtain ⟨jobID, queued, hqueued, rfl⟩ := World.claimNow_queued hclaimed
    exact (h.queued jobID queued hqueued).2
  · exact fun jobID queued hqueued => (h.queued jobID queued hqueued).2
  · intro request outside hactive
    obtain ⟨jobID, queued, hqueued, hagent⟩ := createTargeted_active hactive
    exact ⟨jobID, queued, hqueued, hagent, (h.queued jobID queued hqueued).2⟩
  · exact h.held

/-- In every run in which `Cancel` is handed session IDs as they are written,
a withdrawn job is never handed out. -/
theorem run_settled (library : Library Addr)
    (verify : DiagnosticSessionManager.Verifier) {c : Controller}
    (hnew : World.New c) {events : List (World.Event Addr)}
    (hevents : Admissible (World.step library verify) World.Allowed
      { controller := c } events) :
    Settled library verify
      (run (World.step library verify) { controller := c } events) :=
  (run_invariant World.Sound hevents hnew.sound
    fun _ _ hsound hallowed => hsound.step hallowed).settled

end

namespace Sample

/-- A request for the node, and a claim of its agent. -/
def begun : List (World.Event Nat) :=
  [.create manual outside [] [],
    .claim
      { agentID := "agent-1", clock := fun _ => 61000000000
        dispatchedAt := 61000000000, runningAt := 61000000000 }]

/-- And a cancellation. -/
def cancelled (sessionID : Text) : List (World.Event Nat) :=
  begun ++ [.start (.cancel sessionID, 62000000000), .finish 0]

def world : World :=
  { controller := controller (after badStatus) }

def trusting : DiagnosticSessionManager.Verifier := fun _ _ _ => none

def later : World.Claim :=
  { agentID := "agent-1", clock := fun _ => 63000000000
    dispatchedAt := 63000000000, runningAt := 63000000000 }

/-- The answer is `ErrActiveSession`. -/
def active (answer : Except ControllerError DiagnosticSession) : Bool :=
  match answer with
  | .error error => error = .activeSession
  | .ok _ => false

theorem new_world : World.New world.controller :=
  ⟨⟨world.controller.manager.config, rfl⟩, rfl⟩

/-- A session cancelled by its ID. -/
theorem run_settled_sample :
    ("session-1" : Text) ∈ (run (World.step library trusting) world
      (cancelled "session-1")).withdrawn ∧
    Settled library trusting (run (World.step library trusting) world
      (cancelled "session-1")) := by
  refine ⟨by decide, run_settled library trusting new_world ?_⟩
  have hstarted : (run (World.step library trusting) world
      (begun ++ [.start (.cancel "session-1", 62000000000)])).started =
        [{ call := .cancel "session-1", covered := ["session-1"] }] := by
    decide
  have hsplit : cancelled "session-1" =
      (begun ++ [.start (.cancel "session-1", 62000000000)]) ++ [.finish 0] :=
    rfl
  change Admissible _ _ world _
  rw [hsplit, admissible_snoc]
  refine ⟨?_, ?_⟩
  · simp only [begun, List.cons_append, List.nil_append, admissible_cons]
    exact ⟨⟨fun _ _ => List.not_mem_nil, Or.inl (by decide +kernel)⟩, trivial,
      trivial, admissible_nil _⟩
  · intro withdrawal hwithdrawal
    rw [hstarted] at hwithdrawal
    cases hwithdrawal
    exact Or.inl (by decide)

/-- A blank after the session ID: the cancellation succeeds, and the job is
handed out again and keeps its agent and its node. -/
theorem cancelled_job_redelivered :
    let w := run (World.step library trusting) world (cancelled "session-1 ")
    ("session-1" : Text) ∈ w.withdrawn ∧
    (w.claimNow library trusting later).2.toOption.join.map
      (·.job.sessionID) = some ("session-1" : Text) ∧
    active (manual.run library w.controller outside).2 = true := by
  decide +kernel

end Sample

end XrayChecker.Remoteprobe

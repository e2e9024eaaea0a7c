import XrayChecker.Diagnostics.Lineage
import XrayChecker.Machine.Run
import XrayChecker.Remoteprobe.Withdrawals

/-
After a withdrawal has returned, the queue holds no assignment of the session,
over any interleaving of the calls; what breaks it is an argument of `Cancel`
that the two locks read differently.
-/

namespace XrayChecker.Remoteprobe

open Go Diagnostics DiagnosticSessionManager Probeagent Checker Machine

variable {Addr : Type} {library : Library Addr}
  {verify : DiagnosticSessionManager.Verifier}

/-- The assignments a withdrawal is about. -/
def Withdrawal.aims (jobID : Text) (job : DiagnosticJob) : Withdrawal → Bool
  | .cancel sessionID => job.sessionID = trimSpace sessionID
  | call => call.drops jobID job

/-- What the first part of a withdrawal that succeeds has done. -/
structure Begun (m next : DiagnosticSessionManager) (call : Withdrawal)
    (covered : List Text) : Prop where
  carries : ∃ removed, m.Carries next removed ∧ ∀ id ∈ removed, id ∈ covered
  aims : ∀ id ∈ covered, ∃ session, m.sessions[id]? = some session ∧
    ∀ jobID job, job.sessionID = id → job.stableID = session.stableID →
      (∀ other ∈ session.jobs, other.jobID = jobID) →
      call.aims jobID job = true
  ends : ∀ id ∈ covered, ∀ session, m.sessions[id]? = some session →
    session.jobs = [] →
    ∀ after, next.sessions[id]? = some after → after.state = .cancelled

section Begin

variable {m : DiagnosticSessionManager}

theorem begun_cancel (h : m.Coherent) {sessionID : Text} {now : Time}
    (hok : (m.cancelSession sessionID now).2 = .ok ()) :
    Begun m (m.cancelSession sessionID now).1 (.cancel sessionID)
      [trimSpace sessionID] := by
  obtain ⟨⟨session, hsession⟩, hcancelled⟩ := cancelSession_cancelled hok
  obtain ⟨-, before, hbefore, -⟩ :=
    (h.carries_expire now).before _ session hsession
  refine ⟨⟨[], h.carries_cancelSession sessionID now, List.forall_mem_nil _⟩,
    ?_, ?_⟩
  · intro id hid
    rw [List.mem_singleton.mp hid]
    exact ⟨before, hbefore, fun jobID job hjob _ _ => decide_eq_true hjob⟩
  · intro id hid _ _ _ after hafter
    rw [List.mem_singleton.mp hid] at hafter
    exact hcancelled after hafter

theorem begun_delete (h : m.Coherent) {sessionID : Text}
    (hheld : m.sessions.contains (trimSpace sessionID) = true) :
    Begun m (m.removeSession (trimSpace sessionID)) (.delete sessionID)
      [trimSpace sessionID] := by
  have hcarries := h.carries_removeSession (trimSpace sessionID)
  rw [Std.ExtTreeMap.contains_eq_isSome_getElem?, Option.isSome_iff_exists]
    at hheld
  obtain ⟨session, hsession⟩ := hheld
  refine ⟨⟨_, hcarries, fun _ hid => hid⟩, ?_, ?_⟩
  · intro id hid
    rw [List.mem_singleton.mp hid]
    exact ⟨session, hsession, fun jobID job hjob _ _ => decide_eq_true hjob⟩
  · intro id hid _ _ _ after hafter
    exact absurd hid (hcarries.before id after hafter).1

theorem begun_clear (h : m.Coherent) (stableID : Text) :
    Begun m (m.deleteSessions (trimSpace stableID)).1 (.clear stableID)
      ((m.sessions.toList.filter fun entry => trimSpace stableID = [] ∨
        entry.2.stableID = trimSpace stableID).map (·.1)) := by
  have hdelete : (m.deleteSessions (trimSpace stableID)).1 =
      ((m.sessions.toList.filter fun entry => trimSpace stableID = [] ∨
        entry.2.stableID = trimSpace stableID).map (·.1)).foldl
          DiagnosticSessionManager.removeSession m := by
    simp only [deleteSessions, trimSpace_idem]
  have hcarries := h.carries_removeAll
    ((m.sessions.toList.filter fun entry => trimSpace stableID = [] ∨
      entry.2.stableID = trimSpace stableID).map (·.1))
  rw [hdelete]
  refine ⟨⟨_, hcarries, fun _ hid => hid⟩, ?_, ?_⟩
  · intro id hid
    obtain ⟨⟨key, session⟩, hentry, rfl⟩ := List.mem_map.mp hid
    obtain ⟨hmem, hmatch⟩ := List.mem_filter.mp hentry
    refine ⟨session, Std.ExtTreeMap.mem_toList_iff_getElem?_eq_some.mp hmem,
      ?_⟩
    intro jobID job _ hstable _
    apply decide_eq_true
    rw [hstable]
    exact of_decide_eq_true hmatch
  · intro id hid _ _ _ after hafter
    exact absurd hid (hcarries.before id after hafter).1

theorem begun_accept (h : m.Coherent) {observation : Observation} {now : Time}
    {accepted : AcceptedObservation}
    (hok : (m.acceptObservation verify observation now).2 = .ok accepted) :
    Begun m (m.acceptObservation verify observation now).1
      (.accept observation) [observation.sessionID] := by
  rcases acceptObservation_cases h verify observation now with
    ⟨error, herror, -⟩ |
      ⟨session, index, job, -, -, hjob, -, -, -, hbound⟩
  · rw [hok] at herror
    cases herror
  · have hexpired := h.carries_expire now
    obtain ⟨hsession, hplace, hid⟩ := jobAt_ok hexpired.coherent hjob
    have hmem : job ∈ session.jobs := List.mem_of_getElem? hplace
    have howner : observation.sessionID = session.sessionID :=
      hbound.sessionID.trans
        ((hexpired.coherent.sound _ _ hsession).owned job hmem).1
    obtain ⟨-, before, hbefore, hheir⟩ := hexpired.before _ session hsession
    have hbeforeJob : job.jobID ∈ before.jobs.map (·.jobID) := by
      rw [← hheir.jobIDs]
      exact List.mem_map_of_mem hmem
    refine ⟨⟨[], h.carries_acceptObservation verify observation now,
      List.forall_mem_nil _⟩, ?_, ?_⟩
    · intro id hcovered
      rw [List.mem_singleton.mp hcovered, howner]
      refine ⟨before, hbefore, ?_⟩
      intro jobID other _ _ hall
      obtain ⟨found, hfound, hfoundID⟩ := List.mem_map.mp hbeforeJob
      apply decide_eq_true
      rw [← hall found hfound, hfoundID, hid]
    · intro id hcovered found hfound hnone
      rw [List.mem_singleton.mp hcovered, howner, hbefore,
        Option.some.injEq] at hfound
      rw [hfound, hnone] at hbeforeJob
      cases hbeforeJob

/-- The first part of a withdrawal: refused, or begun. -/
theorem begin_cases {c : Controller} (h : c.manager.Coherent) (now : Time)
    (call : Withdrawal) :
    ((call.begin library verify c now).2 = none ∧
      c.manager.Carries (call.begin library verify c now).1 []) ∨
    ∃ covered, (call.begin library verify c now).2 = some covered ∧
      Begun c.manager (call.begin library verify c now).1 call covered := by
  cases call with
  | cancel sessionID =>
      have hcarries := h.carries_cancelSession sessionID now
      have hbegun := @begun_cancel _ h sessionID now
      simp only [Withdrawal.begin]
      generalize c.manager.cancelSession sessionID now = answer
        at hcarries hbegun ⊢
      rcases answer with ⟨manager, error | done⟩
      · exact Or.inl ⟨rfl, hcarries⟩
      · exact Or.inr ⟨_, rfl, hbegun rfl⟩
  | delete sessionID =>
      have hbegun := @begun_delete _ h sessionID
      simp only [Withdrawal.begin, deleteSession, trimSpace_idem]
      by_cases hheld : c.manager.sessions.contains (trimSpace sessionID) = true
      · rw [if_pos hheld]
        exact Or.inr ⟨_, rfl, hbegun hheld⟩
      · rw [if_neg hheld]
        exact Or.inl ⟨rfl, h.carries⟩
  | clear stableID => exact Or.inr ⟨_, rfl, begun_clear h stableID⟩
  | accept observation =>
      have hcarries := h.carries_acceptObservation verify observation now
      have hbegun := @begun_accept verify _ h observation now
      simp only [Withdrawal.begin]
      cases c.executionSnapshot library observation.stableID with
      | error error => exact Or.inl ⟨rfl, h.carries⟩
      | ok found =>
          obtain ⟨snapshot, config, fingerprint⟩ := found
          dsimp only
          split
          · exact Or.inl ⟨rfl, h.carries⟩
          · generalize c.manager.acceptObservation verify observation now =
              answer at hcarries hbegun ⊢
            rcases answer with ⟨manager, error | accepted⟩
            · exact Or.inl ⟨rfl, hcarries⟩
            · exact Or.inr ⟨_, rfl, hbegun rfl⟩

end Begin

namespace World

/-- The queue, the sessions and the withdrawals in progress fit together. -/
structure Sound (w : World) : Prop where
  coherent : w.controller.manager.Coherent
  known : ∀ (id : Text) (session : DiagnosticSession),
    w.controller.manager.sessions[id]? = some session →
    id ∈ w.issued
  queued : ∀ (jobID : Text) (queued : QueuedAssignment),
    w.controller.assignments[jobID]? = some queued →
    queued.assignment.job.sessionID ∈ w.issued ∧
      queued.assignment.job.sessionID ∉ w.withdrawn
  matching : ∀ (jobID : Text) (queued : QueuedAssignment),
    w.controller.assignments[jobID]? = some queued →
    ∀ session : DiagnosticSession, w.controller.manager.sessions[
      queued.assignment.job.sessionID]? = some session →
    session.stableID = queued.assignment.job.stableID ∧
      ∀ job ∈ session.jobs, job.jobID = jobID
  held : ∀ (jobID : Text) (queued : QueuedAssignment),
    w.controller.assignments[jobID]? = some queued →
    (∃ session : DiagnosticSession, w.controller.manager.sessions[
      queued.assignment.job.sessionID]? = some session) ∨
    ∃ withdrawal ∈ w.started,
      queued.assignment.job.sessionID ∈ withdrawal.covered
  dropped : ∀ withdrawal ∈ w.started,
    ∀ (jobID : Text) (queued : QueuedAssignment),
    w.controller.assignments[jobID]? = some queued →
    queued.assignment.job.sessionID ∈ withdrawal.covered →
    withdrawal.call.aims jobID queued.assignment.job = true
  past : (∀ withdrawal ∈ w.started, ∀ id ∈ withdrawal.covered,
    id ∈ w.issued) ∧ ∀ id ∈ w.withdrawn, id ∈ w.issued

/-- A call of the manager, perhaps the first part of withdrawals. -/
theorem Sound.move {w : World} (h : Sound w)
    {manager : DiagnosticSessionManager} {removed : List Text}
    (hcarries : w.controller.manager.Carries manager removed)
    (new : List Started)
    (hremoved : ∀ (jobID : Text) (queued : QueuedAssignment),
      w.controller.assignments[jobID]? = some queued →
      queued.assignment.job.sessionID ∈ removed →
      ∃ withdrawal ∈ w.started ++ new,
        queued.assignment.job.sessionID ∈ withdrawal.covered)
    (hnew : ∀ withdrawal ∈ new, ∀ id ∈ withdrawal.covered, ∃ session,
      w.controller.manager.sessions[id]? = some session ∧
      ∀ jobID job, job.sessionID = id → job.stableID = session.stableID →
        (∀ other ∈ session.jobs, other.jobID = jobID) →
        withdrawal.call.aims jobID job = true) :
    Sound { w.withManager manager with started := w.started ++ new } := by
  constructor
  · exact hcarries.coherent
  · intro id session hsession
    obtain ⟨-, before, hbefore, -⟩ := hcarries.before id session hsession
    exact h.known id before hbefore
  · exact h.queued
  · intro jobID queued hqueued session hsession
    obtain ⟨-, before, hbefore, hheir⟩ := hcarries.before _ session hsession
    obtain ⟨hstable, hjobs⟩ := h.matching jobID queued hqueued before hbefore
    refine ⟨hheir.stableID.trans hstable, ?_⟩
    intro job hjob
    have hmem : job.jobID ∈ before.jobs.map (·.jobID) := by
      rw [← hheir.jobIDs]
      exact List.mem_map_of_mem hjob
    obtain ⟨old, hold, hid⟩ := List.mem_map.mp hmem
    rw [← hid]
    exact hjobs old hold
  · intro jobID queued hqueued
    rcases h.held jobID queued hqueued with
      ⟨session, hsession⟩ | ⟨withdrawal, hstarted, hcovered⟩
    · by_cases hgone : queued.assignment.job.sessionID ∈ removed
      · exact Or.inr (hremoved jobID queued hqueued hgone)
      · exact Or.inl (hcarries.kept _ session hsession hgone)
    · exact Or.inr ⟨withdrawal, List.mem_append_left _ hstarted, hcovered⟩
  · intro withdrawal hstarted jobID queued hqueued hcovered
    rcases List.mem_append.mp hstarted with hold | hfresh
    · exact h.dropped withdrawal hold jobID queued hqueued hcovered
    · obtain ⟨session, hsession, haims⟩ := hnew withdrawal hfresh _ hcovered
      obtain ⟨hstable, hjobs⟩ :=
        h.matching jobID queued hqueued session hsession
      exact haims jobID _ rfl hstable.symm hjobs
  · refine ⟨?_, h.past.2⟩
    intro withdrawal hstarted id hcovered
    rcases List.mem_append.mp hstarted with hold | hfresh
    · exact h.past.1 withdrawal hold id hcovered
    · obtain ⟨session, hsession, -⟩ := hnew withdrawal hfresh id hcovered
      exact h.known id session hsession

/-- A call of the manager that withdraws nothing. -/
theorem Sound.carried {w : World} (h : Sound w)
    {manager : DiagnosticSessionManager}
    (hcarries : w.controller.manager.Carries manager []) :
    Sound (w.withManager manager) := by
  have hmove := h.move hcarries []
    (fun _ _ _ hgone => absurd hgone List.not_mem_nil)
    (List.forall_mem_nil _)
  rwa [List.append_nil] at hmove

/-- What a start does to the world. -/
theorem start_cases {w : World} (h : w.controller.manager.Coherent)
    (call : Start) :
    (w.start library verify call = w.withManager
        (call.1.begin library verify w.controller call.2).1 ∧
      w.controller.manager.Carries
        (call.1.begin library verify w.controller call.2).1 []) ∨
    ∃ covered, Begun w.controller.manager
        (call.1.begin library verify w.controller call.2).1 call.1 covered ∧
      w.start library verify call =
        { w.withManager (call.1.begin library verify w.controller call.2).1 with
          started := w.started ++ [{ call := call.1, covered := covered }]
            } := by
  have hcases := @begin_cases _ library verify w.controller h call.2 call.1
  unfold start
  generalize call.1.begin library verify w.controller call.2 =
    answer at hcases ⊢
  obtain ⟨manager, result⟩ := answer
  rcases hcases with ⟨hnone, hcarries⟩ | ⟨covered, hsome, hbegun⟩
  · cases hnone
    exact Or.inl ⟨rfl, hcarries⟩
  · cases hsome
    exact Or.inr ⟨covered, hbegun, rfl⟩

theorem Sound.start {w : World} (h : Sound w) (call : Start) :
    Sound (w.start library verify call) := by
  rcases @start_cases _ library verify w h.coherent call with
    ⟨hsame, hcarries⟩ | ⟨covered, hbegun, hnext⟩
  · rw [hsame]
    exact h.carried hcarries
  · rw [hnext]
    obtain ⟨removed, hcarries, hsub⟩ := hbegun.carries
    apply h.move hcarries
    · intro jobID queued _ hgone
      exact ⟨_, List.mem_append_right _ (List.mem_singleton_self _),
        hsub _ hgone⟩
    · intro withdrawal hmem
      rw [List.mem_singleton.mp hmem]
      exact hbegun.aims

theorem Sound.starts {w : World} (h : Sound w) (calls : List Start) :
    Sound (w.starts library verify calls) := by
  induction calls generalizing w with
  | nil => exact h
  | cons call rest ih => exact ih (h.start call)

/-- A start leaves everything else alone. -/
theorem starts_frame (w : World) (calls : List Start) :
    (w.starts library verify calls).controller.assignments =
        w.controller.assignments ∧
      (w.starts library verify calls).withdrawn = w.withdrawn ∧
      (w.starts library verify calls).issued = w.issued := by
  induction calls generalizing w with
  | nil => exact ⟨rfl, rfl, rfl⟩
  | cons call rest ih =>
      have hone : (w.start library verify call).controller.assignments =
            w.controller.assignments ∧
          (w.start library verify call).withdrawn = w.withdrawn ∧
          (w.start library verify call).issued = w.issued := by
        rw [World.start]
        split
        · exact ⟨rfl, rfl, rfl⟩
        · exact ⟨rfl, rfl, rfl⟩
      obtain ⟨hqueue, hwithdrawn, hissued⟩ := ih (w.start library verify call)
      exact ⟨hqueue.trans hone.1, hwithdrawn.trans hone.2.1,
        hissued.trans hone.2.2⟩

/-- Assignments leave the queue, or are marked. -/
theorem Sound.requeue {w : World} (h : Sound w)
    {assignments : GoMap Text QueuedAssignment}
    (hsub : ∀ (jobID : Text) (queued : QueuedAssignment),
      assignments[jobID]? = some queued → ∃ old : QueuedAssignment,
      w.controller.assignments[jobID]? = some old ∧
        old.assignment = queued.assignment) :
    Sound (w.withQueue assignments) := by
  constructor
  · exact h.coherent
  · exact h.known
  · intro jobID queued hqueued
    obtain ⟨old, hold, hsame⟩ := hsub jobID queued hqueued
    rw [← hsame]
    exact h.queued jobID old hold
  · intro jobID queued hqueued
    obtain ⟨old, hold, hsame⟩ := hsub jobID queued hqueued
    rw [← hsame]
    exact h.matching jobID old hold
  · intro jobID queued hqueued
    obtain ⟨old, hold, hsame⟩ := hsub jobID queued hqueued
    rw [← hsame]
    exact h.held jobID old hold
  · intro withdrawal hstarted jobID queued hqueued
    obtain ⟨old, hold, hsame⟩ := hsub jobID queued hqueued
    rw [← hsame]
    exact h.dropped withdrawal hstarted jobID old hold
  · exact h.past

/-- More session IDs are issued. -/
theorem Sound.issue {w : World} (h : Sound w) (ids : List Text) :
    Sound { w with issued := w.issued ++ ids } := by
  constructor
  · exact h.coherent
  · intro id session hsession
    exact List.mem_append_left _ (h.known id session hsession)
  · intro jobID queued hqueued
    obtain ⟨hissued, hkept⟩ := h.queued jobID queued hqueued
    exact ⟨List.mem_append_left _ hissued, hkept⟩
  · exact h.matching
  · exact h.held
  · exact h.dropped
  · refine ⟨?_, ?_⟩
    · intro withdrawal hstarted id hcovered
      exact List.mem_append_left _ (h.past.1 withdrawal hstarted id hcovered)
    · intro id hid
      exact List.mem_append_left _ (h.past.2 id hid)

/-- A session is opened, or written over, for which nothing is queued. -/
theorem Sound.put {w : World} (h : Sound w)
    {manager : DiagnosticSessionManager} {id : Text}
    {session : DiagnosticSession} (hcoherent : manager.Coherent)
    (hsessions : manager.sessions =
      w.controller.manager.sessions.insert id session)
    (hissued : id ∈ w.issued)
    (hunqueued : ∀ (jobID : Text) (queued : QueuedAssignment),
      w.controller.assignments[jobID]? = some queued →
      id ≠ queued.assignment.job.sessionID) :
    Sound (w.withManager manager) := by
  have hget : ∀ other : Text, id ≠ other →
      manager.sessions[other]? = w.controller.manager.sessions[other]? := by
    intro other hother
    rw [hsessions, GoMap.get_insert, if_neg hother]
  constructor
  · exact hcoherent
  · intro other found hfound
    by_cases hother : id = other
    · exact hother ▸ hissued
    · exact h.known other found ((hget other hother).symm.trans hfound)
  · exact h.queued
  · intro jobID queued hqueued found hfound
    apply h.matching jobID queued hqueued found
    exact (hget _ (hunqueued jobID queued hqueued)).symm.trans hfound
  · intro jobID queued hqueued
    rcases h.held jobID queued hqueued with ⟨found, hfound⟩ | hstarted
    · exact Or.inl
        ⟨found, (hget _ (hunqueued jobID queued hqueued)).trans hfound⟩
    · exact Or.inr hstarted
  · exact h.dropped
  · exact h.past

/-- An assignment is queued for the only job of a session that no withdrawal
is about. -/
theorem Sound.enqueue {w : World} (h : Sound w) {jobID : Text}
    {queued : QueuedAssignment} {session : DiagnosticSession}
    (hsession : w.controller.manager.sessions[
      queued.assignment.job.sessionID]? = some session)
    (hkept : queued.assignment.job.sessionID ∉ w.withdrawn)
    (hstable : session.stableID = queued.assignment.job.stableID)
    (hjobs : ∀ job ∈ session.jobs, job.jobID = jobID)
    (huncovered : ∀ withdrawal ∈ w.started,
      queued.assignment.job.sessionID ∉ withdrawal.covered) :
    Sound (w.withQueue (w.controller.assignments.insert jobID queued)) := by
  have hcases : ∀ (other : Text) (found : QueuedAssignment),
      (w.controller.assignments.insert jobID queued)[other]? = some found →
      (jobID = other ∧ queued = found) ∨
        w.controller.assignments[other]? = some found := by
    intro other found hfound
    rw [GoMap.get_insert] at hfound
    split at hfound
    · exact Or.inl ⟨‹_›, Option.some.inj hfound⟩
    · exact Or.inr hfound
  constructor
  · exact h.coherent
  · exact h.known
  · intro other found hfound
    rcases hcases other found hfound with ⟨rfl, rfl⟩ | hold
    · exact ⟨h.known _ session hsession, hkept⟩
    · exact h.queued other found hold
  · intro other found hfound before hbefore
    rcases hcases other found hfound with ⟨rfl, rfl⟩ | hold
    · have hsame : session = before :=
        Option.some.inj (hsession.symm.trans hbefore)
      rw [← hsame]
      exact ⟨hstable, hjobs⟩
    · exact h.matching other found hold before hbefore
  · intro other found hfound
    rcases hcases other found hfound with ⟨rfl, rfl⟩ | hold
    · exact Or.inl ⟨session, hsession⟩
    · exact h.held other found hold
  · intro withdrawal hstarted other found hfound hcovered
    rcases hcases other found hfound with ⟨rfl, rfl⟩ | hold
    · exact absurd hcovered (huncovered withdrawal hstarted)
    · exact h.dropped withdrawal hstarted other found hold hcovered
  · exact h.past

/-- A session between `CreateSession` and `RegisterJob`: a withdrawal that
reaches it ends it. -/
structure Opening (w : World) (id : Text) : Prop where
  issued : id ∈ w.issued
  kept : id ∉ w.withdrawn
  unqueued : ∀ (jobID : Text) (queued : QueuedAssignment),
    w.controller.assignments[jobID]? = some queued →
    id ≠ queued.assignment.job.sessionID
  jobless : ∀ session : DiagnosticSession,
    w.controller.manager.sessions[id]? = some session → session.jobs = []
  untouched : (∀ session : DiagnosticSession,
      w.controller.manager.sessions[id]? = some session →
      session.state = .cancelled) ∨
    ∀ withdrawal ∈ w.started, id ∉ withdrawal.covered

/-- The session goes on without jobs, and cancelled if it was. -/
theorem Opening.carried {w : World} {id : Text} (h : Opening w id)
    {manager : DiagnosticSessionManager} {removed : List Text}
    (hcarries : w.controller.manager.Carries manager removed) :
    (∀ session : DiagnosticSession, manager.sessions[id]? = some session →
      session.jobs = []) ∧
    ((∀ session : DiagnosticSession,
        w.controller.manager.sessions[id]? = some session →
        session.state = .cancelled) →
      ∀ session : DiagnosticSession, manager.sessions[id]? = some session →
        session.state = .cancelled) := by
  refine ⟨?_, ?_⟩
  · intro session hsession
    obtain ⟨-, before, hbefore, hheir⟩ := hcarries.before id session hsession
    have hnone := hheir.jobIDs
    rw [h.jobless before hbefore, List.map_nil] at hnone
    exact List.map_eq_nil_iff.mp hnone
  · intro hcancelled session hsession
    obtain ⟨-, before, hbefore, hheir⟩ := hcarries.before id session hsession
    exact hheir.cancelled (hcancelled before hbefore)

theorem Opening.start {w : World} {id : Text} (h : Opening w id)
    (hcoherent : w.controller.manager.Coherent) (call : Start) :
    Opening (w.start library verify call) id := by
  rcases @start_cases _ library verify w hcoherent call with
    ⟨hsame, hcarries⟩ | ⟨covered, hbegun, hnext⟩
  · rw [hsame]
    obtain ⟨hjobless, hcancelled⟩ := h.carried hcarries
    exact ⟨h.issued, h.kept, h.unqueued, hjobless,
      h.untouched.imp_left hcancelled⟩
  · rw [hnext]
    obtain ⟨removed, hcarries, -⟩ := hbegun.carries
    obtain ⟨hjobless, hcancelled⟩ := h.carried hcarries
    refine ⟨h.issued, h.kept, h.unqueued, hjobless, ?_⟩
    by_cases hcovered : id ∈ covered
    · refine Or.inl ?_
      intro session hsession
      obtain ⟨-, before, hbefore, -⟩ := hcarries.before id session hsession
      exact hbegun.ends id hcovered before hbefore (h.jobless before hbefore)
        session hsession
    · refine h.untouched.imp hcancelled ?_
      intro huncovered withdrawal hstarted
      rcases List.mem_append.mp hstarted with hold | hnew
      · exact huncovered withdrawal hold
      · rw [List.mem_singleton.mp hnew]
        exact hcovered

theorem Opening.starts {w : World} {id : Text} (h : Opening w id)
    (hsound : Sound w) (calls : List Start) :
    Opening (w.starts library verify calls) id := by
  induction calls generalizing w with
  | nil => exact h
  | cons call rest ih =>
      exact ih (h.start hsound.coherent call) (hsound.start call)

end World

end XrayChecker.Remoteprobe

import XrayChecker.Diagnostics.Manager

/-
One session: what deriving its state, expiring it and writing one of its jobs
keep.  A session is sound when its jobs, its observations and its state fit
together; it moves forward when nothing that is over is taken up again.
-/

namespace XrayChecker.Diagnostics

open Go

/-- The job without its state. -/
def DiagnosticJob.identity (job : DiagnosticJob) : DiagnosticJob :=
  { job with state := .pending }

/-- The same job, in a state that is completed when the other one is. -/
structure DiagnosticJob.Same (job other : DiagnosticJob) : Prop where
  identity : other.identity = job.identity
  completed : other.state = .completed ↔ job.state = .completed

/-- The observation is bound to the job. -/
structure AcceptedObservation.BoundTo (record : AcceptedObservation)
    (job : DiagnosticJob) : Prop where
  jobID : record.observation.jobID = job.jobID
  sessionID : record.observation.sessionID = job.sessionID
  agentID : record.observation.agentID = job.agentID
  nonce : record.observation.nonce = job.nonce
  stableID : record.observation.stableID = job.stableID
  generation : record.observation.configGeneration = job.configGeneration
  fingerprint : record.observation.configFingerprint = job.configFingerprint
  profile : record.observation.endpointProfile = job.profile.id

namespace DiagnosticSession

/-- How many observations are kept of a job. -/
def observed (session : DiagnosticSession) (jobID : Text) : Nat :=
  session.agentObservations.countP (·.observation.jobID = jobID)

/-- Jobs, observations and state fit together. -/
structure Sound (session : DiagnosticSession) : Prop where
  requested : ∀ job ∈ session.jobs, job.agentID ∈ session.requestedAgents
  oneEach : (session.jobs.map (·.agentID)).Nodup
  owned : ∀ job ∈ session.jobs, job.sessionID = session.sessionID ∧
    job.stableID = session.stableID ∧
    job.configGeneration = session.configGeneration ∧
    job.configFingerprint = session.configFingerprint
  counted : ∀ job ∈ session.jobs, session.observed job.jobID =
    if job.state = .completed then 1 else 0
  bound : ∀ record ∈ session.agentObservations,
    ∃ job ∈ session.jobs, record.BoundTo job
  settled : session.state.terminal = true →
    ∀ job ∈ session.jobs, job.state.terminal = true

/-- The same session with other states. -/
structure Revised (session next : DiagnosticSession) : Prop where
  sessionID : next.sessionID = session.sessionID
  stableID : next.stableID = session.stableID
  generation : next.configGeneration = session.configGeneration
  fingerprint : next.configFingerprint = session.configFingerprint
  requestedAgents : next.requestedAgents = session.requestedAgents
  observations : next.agentObservations = session.agentObservations
  jobs : List.Forall₂ DiagnosticJob.Same session.jobs next.jobs

/-- Nothing that is over is taken up again. -/
structure Forward (session next : DiagnosticSession) : Prop where
  state : session.state.terminal = true → next.state = session.state
  jobs : ∀ (index : Nat) (job : DiagnosticJob),
    session.jobs[index]? = some job → job.state.terminal = true →
    ∃ after, next.jobs[index]? = some after ∧ after.state = job.state

section Jobs

variable {job : DiagnosticJob} {now : Time}

theorem same_refl (job : DiagnosticJob) : job.Same job :=
  ⟨rfl, Iff.rfl⟩

theorem same_expire (job : DiagnosticJob) (now : Time) :
    job.Same (job.expire now) := by
  unfold DiagnosticJob.expire
  split
  · rename_i hexpires
    refine ⟨rfl, ?_⟩
    simp only [reduceCtorEq, false_iff]
    intro hcompleted
    simp [hcompleted, JobState.terminal] at hexpires
  · exact same_refl job

theorem same_giveUp (job : DiagnosticJob) {state : JobState}
    (hstate : state ≠ .completed) : job.Same (job.giveUp state) := by
  unfold DiagnosticJob.giveUp
  split
  · exact same_refl job
  · rename_i hopen
    refine ⟨rfl, iff_of_false hstate ?_⟩
    intro hcompleted
    rw [hcompleted] at hopen
    exact hopen rfl

theorem giveUp_terminal (job : DiagnosticJob) {state : JobState}
    (hstate : state.terminal = true) :
    (job.giveUp state).state.terminal = true := by
  unfold DiagnosticJob.giveUp
  split
  · assumption
  · exact hstate

theorem expire_of_terminal (h : job.state.terminal = true) (now : Time) :
    (job.expire now).state = job.state := by
  simp [DiagnosticJob.expire, h]

theorem giveUp_of_terminal (h : job.state.terminal = true) (state : JobState) :
    (job.giveUp state).state = job.state := by
  simp [DiagnosticJob.giveUp, h]

end Jobs

section Revised

variable {session next last : DiagnosticSession} {now : Time}

theorem Revised.refl (session : DiagnosticSession) :
    session.Revised session :=
  ⟨rfl, rfl, rfl, rfl, rfl, rfl, List.forall₂_same.mpr fun job _ =>
    same_refl job⟩

theorem Revised.trans (h : session.Revised next) (h' : next.Revised last) :
    session.Revised last := by
  refine ⟨h'.sessionID.trans h.sessionID, h'.stableID.trans h.stableID,
    h'.generation.trans h.generation, h'.fingerprint.trans h.fingerprint,
    h'.requestedAgents.trans h.requestedAgents,
    h'.observations.trans h.observations, ?_⟩
  have hjobs := h.jobs
  have hjobs' := h'.jobs
  generalize session.jobs = first at hjobs
  generalize next.jobs = second at hjobs hjobs'
  generalize last.jobs = third at hjobs'
  induction hjobs generalizing third with
  | nil =>
      cases hjobs'
      exact .nil
  | cons hsame _ ih =>
      cases hjobs' with
      | cons hsame' hrest' =>
          refine .cons ⟨hsame'.identity.trans hsame.identity, ?_⟩ (ih _ hrest')
          exact hsame'.completed.trans hsame.completed

/-- Rewriting the states of the jobs one by one. -/
theorem revised_map (session : DiagnosticSession) (state : SessionState)
    {f : DiagnosticJob → DiagnosticJob}
    (hf : ∀ job : DiagnosticJob, job.Same (f job)) :
    session.Revised
      { session with jobs := session.jobs.map f, state := state } := by
  refine ⟨rfl, rfl, rfl, rfl, rfl, rfl, ?_⟩
  rw [List.forall₂_map_right_iff]
  exact List.forall₂_same.mpr fun job _ => hf job

theorem revised_deriveState (session : DiagnosticSession) (now : Time) :
    session.Revised (session.deriveState now) := by
  have hkept : ∀ state, session.Revised { session with state := state } := by
    intro state
    have hmap := revised_map session state same_refl
    rwa [List.map_id'] at hmap
  unfold deriveState
  split
  · exact Revised.refl session
  · split
    · exact hkept _
    · split
      · apply revised_map
        exact fun job => same_giveUp job (by decide : JobState.expired ≠ _)
      · split
        · exact hkept _
        · split
          · exact hkept _
          · exact hkept _

theorem revised_expire (session : DiagnosticSession) (now : Time) :
    session.Revised (session.expire now) := by
  unfold expire
  split
  · exact Revised.refl session
  · refine Revised.trans ?_ (revised_deriveState _ now)
    exact revised_map session session.state fun job => same_expire job now

theorem revised_cancel (session : DiagnosticSession) :
    session.Revised session.cancel :=
  revised_map session .cancelled fun job =>
    same_giveUp job (by decide : JobState.cancelled ≠ _)

/-- The jobs are the same ones, at the same places. -/
theorem Revised.jobs_getElem? (h : session.Revised next) (index : Nat) :
    (next.jobs[index]?).map (·.identity) =
      (session.jobs[index]?).map (·.identity) := by
  have hjobs := h.jobs
  generalize session.jobs = first at hjobs
  generalize next.jobs = second at hjobs
  induction hjobs generalizing index with
  | nil => rfl
  | cons hsame _ ih =>
      cases index with
      | zero => simpa using hsame.identity
      | succ index => simpa using ih index

theorem Revised.mem_jobs (h : session.Revised next) {job : DiagnosticJob}
    (hjob : job ∈ next.jobs) : ∃ before ∈ session.jobs, before.Same job := by
  have hjobs := h.jobs
  generalize session.jobs = first at hjobs
  generalize next.jobs = second at hjobs hjob
  induction hjobs with
  | nil => cases hjob
  | cons hsame _ ih =>
      rcases List.mem_cons.mp hjob with rfl | hrest
      · exact ⟨_, List.mem_cons_self, hsame⟩
      · obtain ⟨before, hbefore, hsame'⟩ := ih hrest
        exact ⟨before, List.mem_cons_of_mem _ hbefore, hsame'⟩

theorem Revised.mem_before (h : session.Revised next) {job : DiagnosticJob}
    (hjob : job ∈ session.jobs) : ∃ after ∈ next.jobs, job.Same after := by
  have hjobs := h.jobs
  generalize session.jobs = first at hjobs hjob
  generalize next.jobs = second at hjobs
  induction hjobs with
  | nil => cases hjob
  | cons hsame _ ih =>
      rcases List.mem_cons.mp hjob with rfl | hrest
      · exact ⟨_, List.mem_cons_self, hsame⟩
      · obtain ⟨after, hafter, hsame'⟩ := ih hrest
        exact ⟨after, List.mem_cons_of_mem _ hafter, hsame'⟩

/-- What a job without its state says of the job. -/
theorem same_fields {job other : DiagnosticJob} (h : job.Same other) :
    other.jobID = job.jobID ∧ other.sessionID = job.sessionID ∧
      other.agentID = job.agentID ∧ other.nonce = job.nonce ∧
      other.stableID = job.stableID ∧
      other.configGeneration = job.configGeneration ∧
      other.configFingerprint = job.configFingerprint ∧
      other.profile = job.profile := by
  have hidentity := h.identity
  simp only [DiagnosticJob.identity, DiagnosticJob.mk.injEq] at hidentity
  tauto

theorem Sound.revised (h : session.Sound) (hrevised : session.Revised next)
    (hover : next.state.terminal = true →
      ∀ job ∈ next.jobs, job.state.terminal = true) : next.Sound := by
  constructor
  · intro job hjob
    obtain ⟨before, hbefore, hsame⟩ := hrevised.mem_jobs hjob
    obtain ⟨-, -, hagent, -⟩ := same_fields hsame
    rw [hrevised.requestedAgents, hagent]
    exact h.requested before hbefore
  · have hagents : next.jobs.map (·.agentID) =
        session.jobs.map (·.agentID) := by
      apply List.ext_getElem?
      intro index
      have hidentity := congrArg (Option.map DiagnosticJob.agentID)
        (hrevised.jobs_getElem? index)
      simpa [Option.map_map, Function.comp_def, DiagnosticJob.identity]
        using hidentity
    rw [hagents]
    exact h.oneEach
  · intro job hjob
    obtain ⟨before, hbefore, hsame⟩ := hrevised.mem_jobs hjob
    obtain ⟨-, hsession, -, -, hstable, hgeneration, hfingerprint, -⟩ :=
      same_fields hsame
    rw [hsession, hstable, hgeneration, hfingerprint, hrevised.sessionID,
      hrevised.stableID, hrevised.generation, hrevised.fingerprint]
    exact h.owned before hbefore
  · intro job hjob
    obtain ⟨before, hbefore, hsame⟩ := hrevised.mem_jobs hjob
    have hcounted := h.counted before hbefore
    simp only [observed, hrevised.observations, (same_fields hsame).1,
      hsame.completed] at hcounted ⊢
    exact hcounted
  · intro record hrecord
    rw [hrevised.observations] at hrecord
    obtain ⟨job, hjob, hbound⟩ := h.bound record hrecord
    obtain ⟨after, hafter, hsame⟩ := hrevised.mem_before hjob
    obtain ⟨hid, hsession, hagent, hnonce, hstable, hgeneration, hfingerprint,
      hprofile⟩ := same_fields hsame
    refine ⟨after, hafter, ?_⟩
    exact ⟨hbound.jobID.trans hid.symm, hbound.sessionID.trans hsession.symm,
      hbound.agentID.trans hagent.symm, hbound.nonce.trans hnonce.symm,
      hbound.stableID.trans hstable.symm,
      hbound.generation.trans hgeneration.symm,
      hbound.fingerprint.trans hfingerprint.symm,
      hbound.profile.trans (congrArg TestProfile.id hprofile.symm)⟩
  · exact hover

/-- No session has more jobs than agents were requested. -/
theorem Sound.jobs_length (h : session.Sound) :
    session.jobs.length ≤ session.requestedAgents.length := by
  have hsubset : session.jobs.map (·.agentID) ⊆ session.requestedAgents := by
    intro agentID hagent
    obtain ⟨job, hjob, rfl⟩ := List.mem_map.mp hagent
    exact h.requested job hjob
  have hlength := (h.oneEach.subperm hsubset).length_le
  rwa [List.length_map] at hlength

/-- Deriving the state of a session that is not over leaves no open job in one
that is. -/
theorem Sound.deriveState (h : session.Sound) (now : Time) :
    (session.deriveState now).Sound := by
  apply h.revised (revised_deriveState session now)
  unfold DiagnosticSession.deriveState
  split
  · exact h.settled
  · split
    · rename_i hall
      intro _ job hjob
      have hlength := h.jobs_length
      have hcompleted : session.jobs.countP (·.state = .completed) =
          session.jobs.length := by
        have hle := List.countP_le_length
          (p := fun job : DiagnosticJob => decide (job.state = .completed))
          (l := session.jobs)
        have hcount := hall.2
        unfold completed at hcount
        omega
      have hstate := List.countP_eq_length.mp hcompleted job hjob
      rw [of_decide_eq_true hstate]
      rfl
    · split
      · intro _ job hjob
        obtain ⟨before, -, rfl⟩ := List.mem_map.mp hjob
        exact giveUp_terminal before rfl
      · have hopen : ∀ state : SessionState, state.terminal = false →
            ({ session with state := state } : DiagnosticSession).state.terminal
              = true → ∀ job ∈ session.jobs, job.state.terminal = true := by
          intro state hstate hterminal
          rw [hstate] at hterminal
          contradiction
        split
        · exact hopen .running rfl
        · split
          · exact hopen .dispatching rfl
          · exact hopen .requested rfl

theorem Sound.expire (h : session.Sound) (now : Time) :
    (session.expire now).Sound := by
  unfold DiagnosticSession.expire
  split
  · exact h
  · rename_i hopen
    apply Sound.deriveState
    refine h.revised ?_ fun hterminal => absurd hterminal hopen
    exact revised_map session session.state fun job => same_expire job now

theorem Sound.cancel (h : session.Sound) : session.cancel.Sound := by
  refine h.revised (revised_cancel session) fun _ job hjob => ?_
  obtain ⟨before, -, rfl⟩ := List.mem_map.mp hjob
  exact giveUp_terminal before rfl

end Revised

section Forward

variable {session next last : DiagnosticSession} {now : Time}

theorem Forward.refl (session : DiagnosticSession) : session.Forward session :=
  ⟨fun _ => rfl, fun _ job hjob _ => ⟨job, hjob, rfl⟩⟩

theorem Forward.trans (h : session.Forward next) (h' : next.Forward last) :
    session.Forward last := by
  constructor
  · intro hterminal
    have hstate := h.state hterminal
    exact (h'.state (hstate ▸ hterminal)).trans hstate
  · intro index job hjob hterminal
    obtain ⟨after, hafter, hstate⟩ := h.jobs index job hjob hterminal
    obtain ⟨final, hfinal, hfinalState⟩ :=
      h'.jobs index after hafter (hstate ▸ hterminal)
    exact ⟨final, hfinal, hfinalState.trans hstate⟩

/-- A session that is not over may get any state, and its jobs any but those
that are over. -/
theorem forward_map (hopen : session.state.terminal = false)
    (state : SessionState) {f : DiagnosticJob → DiagnosticJob}
    (hf : ∀ job : DiagnosticJob, job.state.terminal = true →
      (f job).state = job.state) :
    session.Forward
      { session with jobs := session.jobs.map f, state := state } := by
  constructor
  · intro hterminal
    rw [hopen] at hterminal
    contradiction
  · intro index job hjob hterminal
    refine ⟨f job, ?_, hf job hterminal⟩
    simp [hjob]

theorem forward_deriveState (hopen : session.state.terminal = false)
    (now : Time) : session.Forward (session.deriveState now) := by
  have hkept : ∀ state, session.Forward { session with state := state } := by
    intro state
    have hmap := forward_map hopen state (f := id) fun _ _ => rfl
    rwa [List.map_id] at hmap
  unfold deriveState
  split
  · exact Forward.refl session
  · split
    · exact hkept _
    · split
      · exact forward_map hopen _ fun job h => giveUp_of_terminal h _
      · split
        · exact hkept _
        · split
          · exact hkept _
          · exact hkept _

theorem forward_expire (session : DiagnosticSession) (now : Time) :
    session.Forward (session.expire now) := by
  unfold expire
  split
  · exact Forward.refl session
  · rename_i hopen
    have hstate : session.state.terminal = false := by simpa using hopen
    refine @Forward.trans _ _ _ (forward_map hstate session.state
      fun job h => expire_of_terminal h now) ?_
    apply forward_deriveState
    exact hstate

theorem forward_cancel (hopen : session.state.terminal = false) :
    session.Forward session.cancel :=
  forward_map hopen .cancelled fun _ h => giveUp_of_terminal h _

/-- Writing the state of a job that is not over. -/
theorem forward_setJobState {index : Nat} {job : DiagnosticJob}
    (hjob : session.jobs[index]? = some job)
    (hopen : job.state.terminal = false) (state : JobState) :
    session.Forward (session.setJobState index state) := by
  refine ⟨fun _ => rfl, fun other before hbefore hterminal => ?_⟩
  have hne : index ≠ other := by
    rintro rfl
    rw [hjob] at hbefore
    cases hbefore
    rw [hopen] at hterminal
    contradiction
  refine ⟨before, ?_, rfl⟩
  simp [setJobState, hne, hbefore]

/-- A further job leaves those there alone. -/
theorem forward_addJob (session : DiagnosticSession) (job : DiagnosticJob) :
    session.Forward { session with jobs := session.jobs ++ [job] } := by
  refine ⟨fun _ => rfl, fun index before hbefore _ => ⟨before, ?_, rfl⟩⟩
  obtain ⟨hindex, -⟩ := List.getElem?_eq_some_iff.mp hbefore
  rw [List.getElem?_append_left hindex]
  exact hbefore

end Forward

section Written

variable {session : DiagnosticSession} {now : Time} {index : Nat}
  {job : DiagnosticJob}

/-- The jobs of a session have different identities of their own. -/
def DistinctJobs (session : DiagnosticSession) : Prop :=
  (session.jobs.map (·.jobID)).Nodup

theorem mem_setJobState {state : JobState} {after : DiagnosticJob} :
    after ∈ (session.setJobState index state).jobs ↔
      ∃ other before, session.jobs[other]? = some before ∧
        after = if index = other then { before with state := state }
          else before := by
  simp only [setJobState, List.mem_iff_getElem?, List.getElem?_modify]
  constructor
  · rintro ⟨other, hother⟩
    rw [Option.map_eq_map, Option.map_eq_some_iff] at hother
    obtain ⟨before, hbefore, rfl⟩ := hother
    exact ⟨other, before, hbefore, rfl⟩
  · rintro ⟨other, before, hbefore, rfl⟩
    exact ⟨other, by simp [hbefore]⟩

theorem same_setState {job : DiagnosticJob} {state : JobState}
    (hbefore : job.state ≠ .completed) (hafter : state ≠ .completed) :
    job.Same { job with state := state } :=
  ⟨rfl, iff_of_false hafter hbefore⟩

/-- Writing a job over that is neither completed before nor after. -/
theorem revised_setJobState (hjob : session.jobs[index]? = some job)
    (hbefore : job.state ≠ .completed) {state : JobState}
    (hafter : state ≠ .completed) :
    session.Revised (session.setJobState index state) := by
  refine ⟨rfl, rfl, rfl, rfl, rfl, rfl, ?_⟩
  rw [List.forall₂_iff_get]
  refine ⟨by simp [setJobState], fun i hi hi' => ?_⟩
  simp only [setJobState, List.get_eq_getElem, List.getElem_modify]
  split
  · rename_i hsame
    subst hsame
    obtain ⟨hlt, rfl⟩ := List.getElem?_eq_some_iff.mp hjob
    exact same_setState hbefore hafter
  · exact same_refl _

/-- A session that is not over stays sound when an unfinished job gets another
unfinished state. -/
theorem Sound.setJobState (h : session.Sound)
    (hopen : session.state.terminal = false)
    (hjob : session.jobs[index]? = some job)
    (hbefore : job.state ≠ .completed) {state : JobState}
    (hafter : state ≠ .completed) :
    (session.setJobState index state).Sound := by
  refine h.revised (revised_setJobState hjob hbefore hafter) fun hterminal => ?_
  rw [show session.state.terminal = true from hterminal] at hopen
  contradiction

/-- A session that is not over stays sound when a job is added for an agent
that has none. -/
theorem Sound.addJob (h : session.Sound)
    (hopen : session.state.terminal = false)
    (hrequested : job.agentID ∈ session.requestedAgents)
    (hnew : ∀ other ∈ session.jobs, other.agentID ≠ job.agentID)
    (howned : job.sessionID = session.sessionID ∧
      job.stableID = session.stableID ∧
      job.configGeneration = session.configGeneration ∧
      job.configFingerprint = session.configFingerprint)
    (hstate : job.state ≠ .completed)
    (hobserved : session.observed job.jobID = 0) :
    { session with jobs := session.jobs ++ [job] : DiagnosticSession }.Sound
      where
  requested := List.forall_mem_append.mpr
    ⟨h.requested, List.forall_mem_singleton.mpr hrequested⟩
  oneEach := by
    rw [List.map_append, List.nodup_append]
    refine ⟨h.oneEach, by simp, ?_⟩
    intro agentID hagent other hother
    obtain ⟨before, hbefore, rfl⟩ := List.mem_map.mp hagent
    simp only [List.map_cons, List.map_nil, List.mem_singleton] at hother
    rw [hother]
    exact hnew before hbefore
  owned := List.forall_mem_append.mpr
    ⟨h.owned, List.forall_mem_singleton.mpr howned⟩
  counted := by
    refine List.forall_mem_append.mpr
      ⟨h.counted, List.forall_mem_singleton.mpr ?_⟩
    rw [if_neg hstate]
    exact hobserved
  bound := fun record hrecord => by
    obtain ⟨before, hbefore, hbound⟩ := h.bound record hrecord
    exact ⟨before, List.mem_append_left _ hbefore, hbound⟩
  settled := fun hterminal => by
    rw [show session.state.terminal = true from hterminal] at hopen
    contradiction

/-- A session that is not over stays sound when the observation of a job that
was not completed is kept. -/
theorem Sound.addObservation (h : session.Sound)
    (hdistinct : DistinctJobs session)
    (hopen : session.state.terminal = false)
    (hjob : session.jobs[index]? = some job)
    (hbefore : job.state ≠ .completed) {record : AcceptedObservation}
    (hbound : record.BoundTo job) :
    { session.setJobState index .completed with
      agentObservations := session.agentObservations ++ [record] :
        DiagnosticSession }.Sound := by
  have hmem := List.mem_of_getElem? hjob
  have hself : ∀ (other : Nat) (before : DiagnosticJob),
      session.jobs[other]? = some before → before.jobID = job.jobID →
      other = index := by
    intro other before hother hid
    obtain ⟨hlt, -⟩ := List.getElem?_eq_some_iff.mp hother
    apply (List.getElem?_inj (by simpa using hlt) hdistinct).mp
    rw [List.getElem?_map, List.getElem?_map, hother, hjob, Option.map_some,
      Option.map_some, hid]
  constructor
  · intro after hafter
    obtain ⟨other, before, hother, rfl⟩ := mem_setJobState.mp hafter
    have hrequested := h.requested before (List.mem_of_getElem? hother)
    split
    · exact hrequested
    · exact hrequested
  · have hagents : (session.setJobState index .completed).jobs.map (·.agentID) =
        session.jobs.map (·.agentID) := by
      apply List.ext_getElem?
      intro other
      simp only [DiagnosticSession.setJobState, List.getElem?_map,
        List.getElem?_modify]
      cases session.jobs[other]? with
      | none => rfl
      | some before => by_cases hsame : index = other <;> simp [hsame]
    exact hagents ▸ h.oneEach
  · intro after hafter
    obtain ⟨other, before, hother, rfl⟩ := mem_setJobState.mp hafter
    have howned := h.owned before (List.mem_of_getElem? hother)
    split
    · exact howned
    · exact howned
  · intro after hafter
    obtain ⟨other, before, hother, rfl⟩ := mem_setJobState.mp hafter
    have hcounted := h.counted before (List.mem_of_getElem? hother)
    simp only [observed, List.countP_append, List.countP_singleton,
      decide_eq_true_eq] at hcounted ⊢
    split
    · rename_i hsame
      subst hsame
      rw [hjob] at hother
      cases hother
      simp [hcounted, hbefore, hbound.jobID]
    · rename_i hne
      have hid : record.observation.jobID ≠ before.jobID := by
        intro heq
        exact hne (hself other before hother
          (heq.symm.trans hbound.jobID)).symm
      simp [hcounted, hid]
  · intro kept hkept
    rcases List.mem_append.mp hkept with hold | hnew
    · obtain ⟨before, hbeforeMem, hboundBefore⟩ := h.bound kept hold
      obtain ⟨other, hother⟩ := List.mem_iff_getElem?.mp hbeforeMem
      refine ⟨_, mem_setJobState.mpr ⟨other, before, hother, rfl⟩, ?_⟩
      split
      · exact ⟨hboundBefore.jobID, hboundBefore.sessionID, hboundBefore.agentID,
          hboundBefore.nonce, hboundBefore.stableID, hboundBefore.generation,
          hboundBefore.fingerprint, hboundBefore.profile⟩
      · exact hboundBefore
    · rw [List.mem_singleton] at hnew
      subst hnew
      refine ⟨_, mem_setJobState.mpr ⟨index, job, hjob, rfl⟩, ?_⟩
      rw [if_pos rfl]
      exact ⟨hbound.jobID, hbound.sessionID, hbound.agentID, hbound.nonce,
        hbound.stableID, hbound.generation, hbound.fingerprint, hbound.profile⟩
  · intro hterminal
    rw [show session.state.terminal = true from hterminal] at hopen
    contradiction

end Written

end DiagnosticSession

end XrayChecker.Diagnostics

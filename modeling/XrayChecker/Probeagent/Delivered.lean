import XrayChecker.Probeagent.Honest

/-
Observations of running jobs handed to the session manager in time: which of
them it accepts.
-/

namespace XrayChecker.Probeagent

open Go Diagnostics DiagnosticSessionManager

theorem validateTokens_ok_iff (tokens : List (Text × Text)) :
    validateTokens tokens = .ok () ↔
      ∀ token ∈ tokens, validToken token.2 = true := by
  induction tokens with
  | nil => simp [validateTokens]
  | cons token rest ih =>
      obtain ⟨name, value⟩ := token
      rw [validateTokens, List.forall_mem_cons]
      cases hvalue : validToken value with
      | true => simp [ih]
      | false => simp [invalidRequest]

/-- The part of the validator that looks at the measurements. -/
def Filable (observation : Observation) : Prop :=
  Presentable observation ∧ 0 ≤ observation.durationMillis ∧
    (observation.speedServerID = [] ∨
      validSpeedServerID observation.speedServerID = true)

/-- What the validator asks of an observation, the parts that name the job
apart from the measurements. -/
theorem validateObservation_ok_iff {observation : Observation}
    (hschema : observation.schemaVersion = observationSchemaVersion)
    (hfingerprint : validFingerprint observation.configFingerprint = true)
    (hchecked : observation.checkedAt.isZero = false)
    (hsigned : observation.signature.isEmpty = false)
    (hsize : observation.signature.length ≤ maxObservationSignatureBytes) :
    validateObservation observation = .ok () ↔
      (∀ token ∈ observation.tokens, validToken token.2 = true) ∧
        Filable observation := by
  rw [← validateTokens_ok_iff]
  simp only [validateObservation, invalidRequest, guard_eq_ok, bind_unit_eq_ok,
    hschema, hfingerprint, hchecked, hsigned, not_lt.mpr hsize, ne_eq,
    not_true_eq_false, not_false_eq_true, Bool.not_true, Bool.false_eq_true,
    Bool.false_or, decide_false, Bool.or_eq_true, decide_eq_true_eq, not_or,
    true_and, and_true, not_and, Bool.not_eq_true', Bool.not_eq_false, not_lt]
  refine and_congr_right fun _ => ⟨?_, ?_⟩
  · rintro ⟨⟨hduration, hlatency⟩, hdirect, hresult, hevidence, halternative,
      hserver⟩
    exact ⟨⟨hdirect, hlatency, hresult, hevidence, halternative⟩, hduration,
      or_iff_not_imp_left.mpr hserver⟩
  · rintro ⟨h, hduration, hserver⟩
    exact ⟨⟨hduration, h.latency⟩, h.checked, h.result, h.evidence,
      h.alternative, or_iff_not_imp_left.mp hserver⟩

section Running

variable {m : DiagnosticSessionManager} {sessionID : Text} {index : Nat}
  {job : DiagnosticJob}

/-- The manager finds a job it holds. -/
theorem jobAt_of_holds (h : m.Coherent)
    (hheld : m.Holds sessionID index job) :
    ∃ session, m.sessions[sessionID]? = some session ∧
      session.jobs[index]? = some job ∧
      m.jobAt job.jobID = .ok (session, index, job) := by
  obtain ⟨session, hsession, hjob⟩ := hheld
  have hindex := (h.jobs job.jobID sessionID index).mpr
    ⟨job, ⟨session, hsession, hjob⟩, rfl⟩
  refine ⟨session, hsession, hjob, ?_⟩
  simp only [jobAt, hindex, hsession, hjob]

/-- The session of a job that runs is not over. -/
theorem active_of_running (h : m.Coherent) {session : DiagnosticSession}
    (hsession : m.sessions[sessionID]? = some session)
      (hjob : job ∈ session.jobs)
    (hrunning : job.state = .running) :
    activeSessionError session.state = .ok () := by
  have hsettled := (h.sound sessionID session hsession).settled
  cases hstate : session.state with
  | requested => rfl
  | dispatching => rfl
  | running => rfl
  | _ =>
      rw [hstate] at hsettled
      have hover := hsettled rfl job hjob
      rw [hrunning] at hover
      cases hover

/-- The nonce of a job that runs has not been used. -/
theorem nonce_unused_of_running (h : m.Coherent)
    (hheld : m.Holds sessionID index job) (hrunning : job.state = .running) :
    m.usedNonces.contains (nonceKey job.agentID job.nonce) = false := by
  rw [Std.ExtTreeMap.contains_eq_isSome_getElem?, Option.isSome_eq_false_iff,
    Option.isNone_iff_eq_none]
  by_contra hne
  obtain ⟨used, hused⟩ := Option.ne_none_iff_exists'.mp hne
  obtain ⟨owner, record, hkept, hkey⟩ :=
    (h.used (nonceKey job.agentID job.nonce)).mp hused
  obtain ⟨place, other, hother, hbound⟩ := h.kept_job hkept
  have hnonce : jobNonce other = jobNonce job := by
    rw [← BoundTo.recordNonce hbound, hkey]
    rfl
  obtain ⟨rfl, rfl⟩ := h.unique_nonce hother hheld hnonce
  obtain ⟨session, hsession, hjob⟩ := hheld
  obtain ⟨found, hfound, hplace⟩ := hother
  rw [hsession] at hfound
  cases hfound
  rw [hjob] at hplace
  cases hplace
  have hcounted := (h.sound _ _ hsession).counted job
    (List.mem_of_getElem? hjob)
  rw [hrunning, if_neg (by decide), DiagnosticSession.observed,
    List.countP_eq_zero] at hcounted
  obtain ⟨kept, hkeptSession, hrecord⟩ := hkept
  rw [hsession] at hkeptSession
  cases hkeptSession
  exact hcounted record hrecord (by simpa using hbound.jobID)

end Running

/-- The observation of a job that still runs in its session, made by the
agent the job is for and handed in in time under one clock, with a signature
that verifies. -/
structure Delivered (m : DiagnosticSessionManager) (verify : Verifier)
    (client : Client) (world : Outcomes) (assignment : JobAssignment)
    (observation : Observation) (sessionID : Text) (index : Nat)
    (job : DiagnosticJob) (now : Time) : Prop where
  held : (m.expire now).Holds sessionID index job
  running : job.state = .running
  catalogue : FromCatalogue job.profile
  assigned : assignment.job.identity = job.identity
  agent : client.agentID = job.agentID
  verified : verify client.agentID observation.unsigned observation.signature =
    none
  signed : observation.signature.length = signatureSize
  started : world.startedAt.isZero = false ∧ job.createdAt ≤ world.startedAt
  arrived : world.startedAt ≤ now ∧
    (now : Int) - m.config.observationMaxAge ≤ world.startedAt
  inTime : now < job.expiresAt
  -- A client whose own context has ended posts nothing.
  attended : ∀ ended ∈ world.cancelled, now < ended
  sampled : ∀ sample, world.tunnel.sampleAt sample ≤ now ∧
    world.alternative.sampleAt sample ≤ now

/-- When the observation of a job says nothing the controller refuses. -/
structure Answerable (e : Executor) (platform : Platform) (world : Outcomes)
    (assignment : JobAssignment) (client : Client) : Prop where
  version : validToken client.agentVersion = true
  taken : Executor.takes platform world assignment = true
  resolved : assignment.job.profile.method = .dns →
    Resolved platform world assignment
  shaken : assignment.job.profile.method = .tls → Shaken world
  -- The controller compares the server byte for byte with the one it asked
  -- for, which may still carry the spaces the agent has trimmed.
  named : assignment.job.profile.method = .download →
    world.configWritten = true → world.xrayStarts = true → ∀ url : Text,
    e.resolveSpeedServer (trimSpace assignment.job.profile.serverID) =
      some url →
    platform.validEndpointURL url = true →
    trimSpace assignment.job.profile.serverID =
      assignment.job.profile.serverID

section Answer

variable {m : DiagnosticSessionManager} {verify : Verifier} {client : Client}
  {e : Executor} {platform : Platform} {world : Outcomes}
  {assignment : JobAssignment} {observation : Observation} {sessionID : Text}
  {index : Nat} {job : DiagnosticJob} {now : Time}

theorem Delivered.fields
    (h : Delivered m verify client world assignment observation sessionID index
      job now) :
    assignment.job.jobID = job.jobID ∧
      assignment.job.sessionID = job.sessionID ∧
      assignment.job.agentID = job.agentID ∧
      assignment.job.nonce = job.nonce ∧
      assignment.job.stableID = job.stableID ∧
      assignment.job.configGeneration = job.configGeneration ∧
      assignment.job.configFingerprint = job.configFingerprint ∧
      assignment.job.profile = job.profile ∧
      assignment.job.expiresAt = job.expiresAt := by
  have hidentity := h.assigned
  simp only [DiagnosticJob.identity, DiagnosticJob.mk.injEq] at hidentity
  tauto

/-- A context that is open when the observation is handed in was open all
along. -/
theorem Delivered.opened
    (h : Delivered m verify client world assignment observation sessionID index
      job now) : Open world assignment := by
  have hexpires := h.fields.2.2.2.2.2.2.2.2
  have hopen : ∀ moment ≤ now, world.contextDone assignment moment = false := by
    intro moment hmoment
    have hdeadline := lt_of_le_of_lt hmoment h.inTime
    rw [Outcomes.contextDone, Bool.or_eq_false_iff, hexpires]
    refine ⟨decide_eq_false (not_le.mpr hdeadline), ?_⟩
    cases hcancelled : world.cancelled with
    | none => rfl
    | some ended =>
        have hattended := lt_of_le_of_lt hmoment (h.attended ended hcancelled)
        exact decide_eq_false (not_le.mpr hattended)
  exact fun sample =>
    ⟨hopen _ (h.sampled sample).1, hopen _ (h.sampled sample).2⟩

/-- The time checks pass. -/
theorem Delivered.timely
    (h : Delivered m verify client world assignment observation sessionID index
      job now) (hskew : 0 ≤ m.config.clockSkew) :
    validateObservationTime world.startedAt now job.createdAt job.expiresAt
      m.config.observationMaxAge m.config.clockSkew = .ok () := by
  have hcreated := Int.ofNat_le.mpr h.started.2
  have hnow := Int.ofNat_le.mpr h.arrived.1
  have hage := h.arrived.2
  have hexpires := Int.ofNat_lt.mpr h.inTime
  simp only [validateObservationTime]
  rw [if_neg (by omega), if_neg (by omega)]

/-- The part of a completed observation that names its job. -/
theorem complete_fields (hprofile : FromCatalogue assignment.job.profile) :
    let observation := client.complete (e.execute platform world assignment)
    observation.schemaVersion = observationSchemaVersion ∧
      observation.agentID = client.agentID ∧
      observation.sessionID = assignment.job.sessionID ∧
      observation.jobID = assignment.job.jobID ∧
      observation.nonce = assignment.job.nonce ∧
      observation.stableID = assignment.job.stableID ∧
      observation.configGeneration = assignment.job.configGeneration ∧
      observation.configFingerprint = assignment.job.configFingerprint ∧
      observation.checkedAt = world.startedAt ∧
      observation.endpointProfile = assignment.job.profile.id := by
  have hheading := @Executor.heading_observe e platform world assignment
    hprofile
  simp only [heading, startedObservation, Observation.mk.injEq] at hheading
  obtain ⟨hschema, -, hsession, hjobID, hnonce, hstable, hgeneration,
    hfingerprint, hchecked, -, hendpoint, -⟩ := hheading
  exact ⟨hschema, rfl, hsession, hjobID, hnonce, hstable, hgeneration,
    hfingerprint, hchecked, hendpoint⟩

theorem filable_complete_iff :
    Filable (client.complete (e.execute platform world assignment)) ↔
      Presentable (e.observe platform world assignment) ∧
        ((e.observe platform world assignment).speedServerID = [] ∨
          validSpeedServerID
            (e.observe platform world assignment).speedServerID = true) := by
  constructor
  · rintro ⟨h, -, hserver⟩
    exact ⟨⟨h.checked, h.latency, h.result, h.evidence, h.alternative⟩, hserver⟩
  · rintro ⟨h, hserver⟩
    exact ⟨⟨h.checked, h.latency, h.result, h.evidence, h.alternative⟩,
      le_max_left _ _, hserver⟩

/-- Every profile of the catalogue has an ID that is a token. -/
theorem validToken_catalogue {profile : TestProfile}
    (h : FromCatalogue profile) : validToken profile.id = true := by
  obtain ⟨descriptor, hdescriptor, hid, -⟩ := h
  have hvalid : ∀ entry ∈ profileCatalogue, validToken entry.id = true := by
    decide
  rw [hid]
  exact hvalid descriptor hdescriptor

/-- What the profile of a job may name. -/
theorem validateProfile_ok {profile : TestProfile}
    (h : validateProfile profile = .ok ()) :
    (profile.alternativeProfileID = [] ∨
      validProfileID profile.alternativeProfileID = true) ∧
      (profile.serverID = [] ∨ validSpeedServerID profile.serverID = true) := by
  simp only [validateProfile, invalidRequest, guard_eq_ok] at h
  obtain ⟨-, -, halternative, -, -, -, hserver, -⟩ := h
  constructor
  · by_cases hne : profile.alternativeProfileID = []
    · exact Or.inl hne
    · refine Or.inr ?_
      by_contra hinvalid
      exact halternative ⟨hne, Or.inl (by simpa using hinvalid)⟩
  · by_cases hne : profile.serverID = []
    · exact Or.inl hne
    · refine Or.inr ?_
      by_contra hinvalid
      exact hserver ⟨hne, by simpa using hinvalid⟩

/-- The server of a download: none, or the one asked for without its
spaces. -/
theorem downloadEndpoint_server (profile : TestProfile) :
    (e.downloadEndpoint platform profile).2 =
      if trimSpace profile.serverID ≠ [] ∧ ∃ url : Text,
          e.resolveSpeedServer (trimSpace profile.serverID) = some url ∧
            platform.validEndpointURL url = true then
        trimSpace profile.serverID
      else [] := by
  simp only [Executor.downloadEndpoint]
  split
  · rename_i hempty
    rw [if_neg (fun h => h.1 hempty)]
  · rename_i hne
    cases hurl : e.resolveSpeedServer (trimSpace profile.serverID) with
    | none => simp
    | some url =>
        cases hvalid : platform.validEndpointURL url with
        | true => simp [hne, hvalid]
        | false => simp [hvalid]

/-- The server an observation names is one of the catalogue. -/
theorem observe_server_valid (hprofile : FromCatalogue assignment.job.profile)
    (hvalid : validateProfile assignment.job.profile = .ok ()) :
    (e.observe platform world assignment).speedServerID = [] ∨
      validSpeedServerID (e.observe platform world assignment).speedServerID =
        true := by
  rw [e.observe_speedServerID hprofile]
  split
  · rw [downloadEndpoint_server]
    split
    · rename_i hnamed
      rcases (validateProfile_ok hvalid).2 with hempty | hserver
      · rw [hempty] at hnamed
        exact absurd rfl hnamed.1
      · refine Or.inr ?_
        simpa only [validSpeedServerID, speedServerByID, trimSpace_idem]
          using hserver
    · exact Or.inl rfl
  · exact Or.inl rfl

/-- The server an observation names is the one of the job, spaces included. -/
theorem observe_server_iff (hprofile : FromCatalogue assignment.job.profile)
    (hvalid : validateProfile assignment.job.profile = .ok ())
    (htaken : Executor.takes platform world assignment = true) :
    ((e.observe platform world assignment).speedServerID = [] ∨
      (e.observe platform world assignment).speedServerID =
        assignment.job.profile.serverID) ↔
      (assignment.job.profile.method = .download →
        world.configWritten = true → world.xrayStarts = true → ∀ url : Text,
        e.resolveSpeedServer (trimSpace assignment.job.profile.serverID) =
          some url →
        platform.validEndpointURL url = true →
        trimSpace assignment.job.profile.serverID =
          assignment.job.profile.serverID) := by
  rw [e.observe_speedServerID hprofile]
  by_cases hrun : assignment.job.profile.method = .download ∧
      world.configWritten = true ∧ world.xrayStarts = true
  · rw [if_pos ⟨htaken, hrun⟩, downloadEndpoint_server]
    obtain ⟨hmethod, hwritten, hstarts⟩ := hrun
    by_cases hempty : trimSpace assignment.job.profile.serverID = []
    · have hnone : assignment.job.profile.serverID = [] := by
        rcases (validateProfile_ok hvalid).2 with h | h
        · exact h
        · simp [validSpeedServerID, speedServerByID, hempty] at h
      rw [if_neg (fun h => h.1 hempty)]
      exact ⟨fun _ _ _ _ _ _ _ => hempty.trans hnone.symm, fun _ => Or.inl rfl⟩
    · by_cases hurl : ∃ url : Text,
          e.resolveSpeedServer (trimSpace assignment.job.profile.serverID) =
            some url ∧ platform.validEndpointURL url = true
      · rw [if_pos ⟨hempty, hurl⟩]
        obtain ⟨url, hresolved, hvalid⟩ := hurl
        constructor
        · rintro (h | h)
          · exact absurd h hempty
          · exact fun _ _ _ _ _ _ => h
        · exact fun h =>
            Or.inr (h hmethod hwritten hstarts url hresolved hvalid)
      · rw [if_neg (fun h => hurl h.2)]
        refine ⟨fun _ _ _ _ url hresolved hvalid => ?_, fun _ => Or.inl rfl⟩
        exact absurd ⟨url, hresolved, hvalid⟩ hurl
  · rw [if_neg (fun h => hrun h.2)]
    refine ⟨fun _ hmethod hwritten hstarts => ?_, fun _ => Or.inl rfl⟩
    exact absurd ⟨hmethod, hwritten, hstarts⟩ hrun

/-- Once everything else fits, the manager compares the servers. -/
theorem bound_ok_iff {session : DiagnosticSession}
    (htime : validateObservationTime observation.checkedAt now job.createdAt
      job.expiresAt m.config.observationMaxAge m.config.clockSkew = .ok ())
    (hverified : verify observation.agentID observation.unsigned
      observation.signature = none)
    (hopen : job.state ≠ .completed)
    (hactive : activeSessionError session.state = .ok ())
    (hnonce : m.usedNonces.contains
      (nonceKey observation.agentID observation.nonce) = false)
    (hschema : observation.schemaVersion = observationSchemaVersion)
    (hbound : (accepted observation now).BoundTo job)
    (hgeneration : job.configGeneration = session.configGeneration)
    (halternative : ∀ alternative ∈ observation.alternativeEndpoint,
      job.profile.alternativeProfileID ≠ [] ∧
        alternative.profileID = job.profile.alternativeProfileID) :
    m.bound verify observation session job now = .ok () ↔
      observation.speedServerID = [] ∨
        observation.speedServerID = job.profile.serverID := by
  have hsecond : observation.alternativeEndpoint.any (fun alternative =>
      job.profile.alternativeProfileID = [] ∨
        alternative.profileID ≠ job.profile.alternativeProfileID) = false := by
    cases hreport : observation.alternativeEndpoint with
    | none => rfl
    | some alternative =>
        obtain ⟨hne, hsame⟩ := halternative alternative hreport
        simp [hne, hsame]
  have hgenerations :
      ¬(observation.configGeneration ≠ job.configGeneration ∨
        observation.configGeneration ≠ session.configGeneration) := by
    simp only [not_or, ne_eq, not_not]
    exact ⟨hbound.generation, hbound.generation.trans hgeneration⟩
  have hheading : ¬(observation.schemaVersion ≠ observationSchemaVersion ∨
      observation.sessionID ≠ job.sessionID ∨
      observation.agentID ≠ job.agentID ∨ observation.nonce ≠ job.nonce ∨
      observation.stableID ≠ job.stableID ∨
      observation.configFingerprint ≠ job.configFingerprint ∨
      observation.endpointProfile ≠ job.profile.id) := by
    simp only [not_or, ne_eq, not_not]
    exact ⟨hschema, hbound.sessionID, hbound.agentID, hbound.nonce,
      hbound.stableID, hbound.fingerprint, hbound.profile⟩
  simp only [bound, bind_unit_eq_ok, htime, hverified, hactive, hnonce, hsecond,
    hopen, Bool.false_eq_true, true_and, ↓reduceIte]
  rw [if_neg hgenerations, if_neg hheading, guard_eq_ok]
  simp only [ne_eq, not_and, not_not, and_true]
  exact or_iff_not_imp_left.symm

/-- For the observation of a running job, handed in in time under the clock of
the controller: it is accepted exactly when nothing in it is refused. -/
theorem honest_observation_accepted_iff {config : ManagerConfig}
    {start : DiagnosticSessionManager}
    (hstart : newDiagnosticSessionManager config = .ok start)
    (events : List Event)
    (hdelivered : Delivered (Machine.run step start events) verify client world
      assignment (client.complete (e.execute platform world assignment))
      sessionID index job now) :
    (∃ record, ((Machine.run step start events).acceptObservation verify
        (client.complete (e.execute platform world assignment)) now).2 =
          .ok record) ↔
      Answerable e platform world assignment client := by
  obtain ⟨hcoherent, hminted⟩ := run_minted hstart events
  generalize Machine.run step start events = m at *
  have hskew : 0 ≤ m.config.clockSkew := hminted.clockSkew
  replace hcoherent := hcoherent.expire now
  replace hminted := hminted.expire now
  obtain ⟨session, hsession, hplace, hfound⟩ :=
    jobAt_of_holds hcoherent hdelivered.held
  have hjob : job ∈ session.jobs := List.mem_of_getElem? hplace
  have hsessionMinted := hminted.sessions _ _ hsession
  have hjobMinted := hsessionMinted.jobs job hjob
  have hsound := hcoherent.sound _ _ hsession
  obtain ⟨hownSession, hownStable, hownGeneration, hownFingerprint⟩ :=
    hsound.owned job hjob
  obtain ⟨hjobID, hsessionID, hagentID, hnonce, hstableID, hgeneration,
    hfingerprint, hprofile, -⟩ := hdelivered.fields
  have hcatalogue : FromCatalogue assignment.job.profile :=
    hprofile ▸ hdelivered.catalogue
  have hvalid : validateProfile assignment.job.profile = .ok () :=
    hprofile ▸ hjobMinted.profile
  obtain ⟨hschema, hagent, hobsSession, hobsJob, hobsNonce, hobsStable,
    hobsGeneration, hobsFingerprint, hchecked, hendpoint⟩ :=
    @complete_fields client e platform world assignment hcatalogue
  have hbound : (accepted (client.complete
      (e.execute platform world assignment)) now).BoundTo job :=
    ⟨hobsJob.trans hjobID, hobsSession.trans hsessionID,
      hagent.trans hdelivered.agent, hobsNonce.trans hnonce,
      hobsStable.trans hstableID, hobsGeneration.trans hgeneration,
      hobsFingerprint.trans hfingerprint,
      hendpoint.trans (congrArg TestProfile.id hprofile)⟩
  have hserver := @observe_server_valid e platform world assignment hcatalogue
    hvalid
  -- The validator: the tokens are those of the job, but for the version.
  have hvalidated : validateObservation
      (client.complete (e.execute platform world assignment)) = .ok () ↔
      validToken client.agentVersion = true ∧
        Presentable (e.observe platform world assignment) := by
    have hprint : validFingerprint (client.complete
        (e.execute platform world assignment)).configFingerprint = true := by
      rw [hobsFingerprint, hfingerprint, hownFingerprint]
      exact hsessionMinted.fingerprint
    have hclock : (client.complete
        (e.execute platform world assignment)).checkedAt.isZero = false := by
      rw [hchecked]
      exact hdelivered.started.1
    rw [validateObservation_ok_iff hschema hprint hclock
      (by
        rw [← Bool.not_eq_true, List.isEmpty_iff_length_eq_zero,
          hdelivered.signed]
        decide)
      (by
        rw [hdelivered.signed]
        decide), filable_complete_iff]
    simp only [Observation.tokens, List.forall_mem_cons, hagent,
      hdelivered.agent, hjobMinted.agentID, hobsSession, hsessionID,
        hownSession,
      hsessionMinted.sessionID, hobsJob, hjobID, hjobMinted.jobID, hobsNonce,
      hnonce, hjobMinted.nonce, hobsStable, hstableID, hownStable,
      hsessionMinted.stableID, hendpoint, validToken_catalogue hcatalogue,
      hserver, true_and, and_true, List.not_mem_nil, false_implies,
      implies_true]
    exact Iff.rfl
  -- The binding: what is left is the server of a download.
  have hchosen : (m.expire now).bound verify
      (client.complete (e.execute platform world assignment)) session job now =
        .ok () ↔
      ((e.observe platform world assignment).speedServerID = [] ∨
        (e.observe platform world assignment).speedServerID =
          assignment.job.profile.serverID) := by
    rw [hprofile]
    apply bound_ok_iff
    · rw [hchecked]
      exact hdelivered.timely hskew
    · exact hdelivered.verified
    · rw [hdelivered.running]
      exact (by decide : JobState.running ≠ .completed)
    · exact active_of_running hcoherent hsession hjob hdelivered.running
    · rw [hagent, hdelivered.agent, hobsNonce, hnonce]
      exact nonce_unused_of_running hcoherent hdelivered.held hdelivered.running
    · exact hschema
    · exact hbound
    · exact hownGeneration
    · intro alternative halternative
      obtain ⟨hne, hid⟩ :=
        e.observe_alternativeEndpoint hcatalogue halternative
      rw [hprofile] at hne hid hvalid
      rcases (validateProfile_ok hvalid).1 with hempty | hvalidID
      · rw [hempty] at hne
        exact absurd rfl hne
      · rw [trimSpace_of_valid hvalidID] at hne hid
        rw [trimSpace_of_valid hvalidID] at hid
        exact ⟨hne, hid⟩
  have hanswer : (∃ record, (m.acceptObservation verify
      (client.complete (e.execute platform world assignment)) now).2 =
        .ok record) ↔
      validateObservation
        (client.complete (e.execute platform world assignment)) = .ok () ∧
      (m.expire now).bound verify
        (client.complete (e.execute platform world assignment)) session job
          now = .ok () := by
    have hat : (m.expire now).jobAt (client.complete
        (e.execute platform world assignment)).jobID =
          .ok (session, index, job) := by
      rw [hobsJob, hjobID]
      exact hfound
    generalize client.complete (e.execute platform world assignment) =
      observation at *
    simp only [acceptObservation]
    cases validateObservation observation with
    | error error => simp
    | ok _ =>
        simp only [hat, true_and]
        cases (m.expire now).bound verify observation session job now with
        | error error => simp
        | ok _ => simp
  rw [hanswer, hvalidated, hchosen,
    e.presentable_observe_iff hcatalogue hdelivered.opened]
  constructor
  · rintro ⟨⟨hversion, htaken, hresolved, hshaken⟩, hnamed⟩
    exact ⟨hversion, htaken, hresolved, hshaken,
      (observe_server_iff hcatalogue hvalid htaken).mp hnamed⟩
  · rintro ⟨hversion, htaken, hresolved, hshaken, hnamed⟩
    exact ⟨⟨hversion, htaken, hresolved, hshaken⟩,
      (observe_server_iff hcatalogue hvalid htaken).mpr hnamed⟩

end Answer

namespace Sample

open Diagnostics.Sample

/-- One agent is asked about a node with a profile, and runs its job. -/
def asked (profile : TestProfile) : List Event :=
  [⟨.createSession
      { stableID := "nl-1", trigger := .manual, configGeneration := 1
        configFingerprint := fingerprint
        localResultSnapshot := { status := .unknown }
        requestedAgents := ["agent-1"] }
      (.ok "diag_1") (fun _ => 0), instant 100⟩,
    ⟨.registerJob
      { sessionID := "diag_1", agentID := "agent-1", profile := profile }
      (.ok "job_1") (.ok "nonce_1"), instant 100⟩,
    ⟨.markJobRunning "job_1", instant 110⟩]

/-- The job as the manager keeps it. -/
def keptJob (profile : TestProfile) : DiagnosticJob :=
  { schemaVersion := jobSchemaVersion, jobID := "job_1"
    sessionID := "diag_1", agentID := "agent-1", nonce := "nonce_1"
    stableID := "nl-1", configGeneration := 1
    configFingerprint := fingerprint, profile := profile
    createdAt := instant 100
    expiresAt := ((instant 100 : Int) + defaultSessionTTL).toNat
    state := .running }

def assignment (profile : TestProfile) : JobAssignment :=
  { job := keptJob profile, xrayConfig := [1], socksPort := 20000
    targetHost := "node.example", targetPort := 443 }

def executor : Executor :=
  { ipCheckURL := "https://ip.example", statusCheckURL := "https://ok.example"
    downloadURL := "https://files.example", downloadMinSize := 10000000
    latencySamples := 5, resolveSpeedServer := fun _ => none }

/-- A config that names one tunnel and the digest the session was opened
under. -/
def platform : Platform :=
  { configFingerprint := fun _ => fingerprint
    decodeExecutionConfig := fun _ =>
      some
        { inbounds := [("127.0.0.1", 20000, "socks")]
          outbounds := ["freedom", "blackhole", "vless"], routing := [1] }
    validEndpointURL := fun _ => true
    isIPLiteral := fun _ => false }

def answered : Exchange :=
  .answered 204 1000000
    { text := .ok [], copied := fun n => (n, none), pieces := [] }

def tunnel : Tunnel :=
  { get := fun _ => answered, sample := fun _ => answered
    sampleAt := fun _ => instant 121, elapsed := fun _ => 1000000 }

/-- A network on which everything works but the two resolvers. -/
def unresolved : Outcomes :=
  { startedAt := instant 120, validatedAt := instant 120
    finishedAt := instant 122, cancelled := none, direct := answered
    directElapsed := 1000000, configWritten := true, xrayStarts := true
    tunnel := tunnel, alternative := tunnel, tcpDial := none
    tcpElapsed := 1000000, pingReplies := none, tlsDial := none
    tlsHandshake := none, tlsElapsed := 1000000
    systemLookup := ⟨none, 1000000⟩, resolverLookup := ⟨none, 1000000⟩ }

def client : Client :=
  { agentID := "agent-1", agentVersion := "1.0"
    sign := fun _ => List.replicate signatureSize 1 }

theorem delivered_asked (profile : TestProfile)
    (hprofile : FromCatalogue profile)
    (hheld : ((Machine.run step manager (asked profile)).expire
      (instant 123)).Holds "diag_1" 0 (keptJob profile))
    (hconfig : (Machine.run step manager (asked profile)).config =
      manager.config) :
    Delivered (Machine.run step manager (asked profile)) (fun _ _ _ => none)
      client unresolved (assignment profile)
      (client.complete (executor.execute platform unresolved
        (assignment profile))) "diag_1" 0 (keptJob profile) (instant 123) := by
  constructor
  · exact hheld
  · rfl
  · exact hprofile
  · rfl
  · rfl
  · rfl
  · rfl
  · exact ⟨rfl, (by decide : instant 100 ≤ instant 120)⟩
  · rw [hconfig]
    exact (by decide : instant 120 ≤ instant 123 ∧
      (instant 123 : Int) - manager.config.observationMaxAge ≤ instant 120)
  · exact (by decide : instant 123 <
      ((instant 100 : Int) + defaultSessionTTL).toNat)
  · exact fun ended hended => by cases hended
  · exact fun _ => (by decide : instant 121 ≤ instant 123 ∧
      instant 121 ≤ instant 123)

/-- The status profile of the catalogue. -/
def statusProfile : TestProfile :=
  { id := profileStatus, method := .status }

/-- The name resolution profile of the catalogue. -/
def dnsProfile : TestProfile :=
  { id := profileDNS, method := .dns }

theorem honest_observation_accepted_iff_sample :
    ∃ record, ((Machine.run step manager
      (asked statusProfile)).acceptObservation (fun _ _ _ => none)
        (client.complete (executor.execute platform unresolved
          (assignment statusProfile))) (instant 123)).2 = .ok record :=
  (@honest_observation_accepted_iff _ _ executor platform _ _ _ _ _ _ {}
    manager rfl (asked statusProfile)
    (delivered_asked statusProfile (by decide)
      ⟨_, rfl, rfl⟩ rfl)).mpr
    ⟨by decide, by decide, fun h => (by cases h),
      fun h => (by cases h), fun h => (by cases h)⟩

/-- A name no resolver finds is reported and refused. -/
theorem unresolved_name_refused :
    Delivered (Machine.run step manager (asked dnsProfile)) (fun _ _ _ => none)
        client unresolved (assignment dnsProfile)
        (client.complete (executor.execute platform unresolved
          (assignment dnsProfile))) "diag_1" 0 (keptJob dnsProfile)
        (instant 123) ∧
      ((Machine.run step manager (asked dnsProfile)).acceptObservation
        (fun _ _ _ => none)
        (client.complete (executor.execute platform unresolved
          (assignment dnsProfile))) (instant 123)).2 =
        .error ⟨.invalidRequest,
          "failed result requires classified failure"⟩ :=
  ⟨delivered_asked dnsProfile (by decide) ⟨_, rfl, rfl⟩ rfl,
    by decide⟩

end Sample

end XrayChecker.Probeagent

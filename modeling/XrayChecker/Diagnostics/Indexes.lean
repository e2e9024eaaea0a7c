import XrayChecker.Diagnostics.Sessions

/-
The sessions and their indexes: what it means that they are in step, and that
every single write of the manager keeps them so.
-/

namespace XrayChecker.Diagnostics

open Go

/-- Erasing the keys of a list of items. -/
theorem get_foldl_erase {K V A : Type} [Ord K] [Std.TransOrd K]
    [Std.LawfulEqOrd K] (key : A → K) (items : List A) (map : GoMap K V)
    (k : K) [Decidable (k ∈ items.map key)] :
    (items.foldl (fun map item => map.erase (key item)) map)[k]? =
      if k ∈ items.map key then none else map[k]? := by
  classical
  have hloop : (k ∈ items.map key → (items.foldl
        (fun map item => map.erase (key item)) map)[k]? = none) ∧
      (k ∉ items.map key → (items.foldl
        (fun map item => map.erase (key item)) map)[k]? = map[k]?) := by
    induction items generalizing map with
    | nil => simp
    | cons item rest ih =>
        rw [List.foldl_cons, List.map_cons, List.mem_cons]
        obtain ⟨hin, hout⟩ := ih (map.erase (key item))
        constructor
        · intro hmem
          by_cases hrest : k ∈ rest.map key
          · exact hin hrest
          · rw [hout hrest, GoMap.get_erase, if_pos]
            exact (hmem.resolve_right hrest).symm
        · intro hmem
          rw [not_or] at hmem
          rw [hout hmem.2, GoMap.get_erase, if_neg (Ne.symm hmem.1)]
  split
  · exact hloop.1 (by assumption)
  · exact hloop.2 (by assumption)

namespace DiagnosticSessionManager

/-- A live session has the job at a place. -/
def Holds (m : DiagnosticSessionManager) (sessionID : Text) (index : Nat)
    (job : DiagnosticJob) : Prop :=
  ∃ session, m.sessions[sessionID]? = some session ∧
    session.jobs[index]? = some job

/-- A live session keeps the observation. -/
def Keeps (m : DiagnosticSessionManager) (sessionID : Text)
    (record : AcceptedObservation) : Prop :=
  ∃ session, m.sessions[sessionID]? = some session ∧
    record ∈ session.agentObservations

/-- The key under which a job reserves its nonce. -/
def jobNonce (job : DiagnosticJob) : Text :=
  nonceKey job.agentID job.nonce

/-- The key under which an observation uses up its nonce. -/
def recordNonce (record : AcceptedObservation) : Text :=
  nonceKey record.observation.agentID record.observation.nonce

/-- Every session is sound, the indexes mention exactly the jobs and the
observations of the live sessions, and there are no more sessions than
allowed. -/
structure Coherent (m : DiagnosticSessionManager) : Prop where
  keys : ∀ (sessionID : Text) (session : DiagnosticSession),
    m.sessions[sessionID]? = some session → session.sessionID = sessionID
  sound : ∀ (sessionID : Text) (session : DiagnosticSession),
    m.sessions[sessionID]? = some session → session.Sound
  jobs : ∀ (jobID sessionID : Text) (index : Nat),
    m.jobs[jobID]? = some ⟨sessionID, index⟩ ↔
      ∃ job, m.Holds sessionID index job ∧ job.jobID = jobID
  reserved : ∀ (key jobID : Text), m.reservedNonces[key]? = some jobID ↔
    ∃ sessionID index job, m.Holds sessionID index job ∧ jobNonce job = key ∧
      job.jobID = jobID
  used : ∀ key : Text, m.usedNonces[key]? = some () ↔
    ∃ sessionID record, m.Keeps sessionID record ∧ recordNonce record = key
  size : (m.sessions.size : Int) ≤ m.config.maxSessions

variable {m : DiagnosticSessionManager}

theorem BoundTo.recordNonce {record : AcceptedObservation}
    {job : DiagnosticJob} (h : record.BoundTo job) :
    recordNonce record = jobNonce job := by
  simp only [DiagnosticSessionManager.recordNonce, jobNonce, h.agentID, h.nonce]

section Unique

variable {sessionID otherSession : Text} {index otherIndex : Nat}
  {job other : DiagnosticJob}

/-- An identity belongs to one job. -/
theorem Coherent.unique (h : m.Coherent) (hjob : m.Holds sessionID index job)
    (hother : m.Holds otherSession otherIndex other)
    (hid : job.jobID = other.jobID) :
    sessionID = otherSession ∧ index = otherIndex := by
  have hfirst := (h.jobs job.jobID sessionID index).mpr ⟨job, hjob, rfl⟩
  have hsecond := (h.jobs job.jobID otherSession otherIndex).mpr
    ⟨other, hother, hid.symm⟩
  rw [hfirst, Option.some.injEq, JobReference.mk.injEq] at hsecond
  exact hsecond

/-- A nonce of an agent belongs to one job. -/
theorem Coherent.unique_nonce (h : m.Coherent)
    (hjob : m.Holds sessionID index job)
    (hother : m.Holds otherSession otherIndex other)
    (hnonce : jobNonce job = jobNonce other) :
    sessionID = otherSession ∧ index = otherIndex := by
  have hfirst := (h.reserved (jobNonce job) job.jobID).mpr
    ⟨sessionID, index, job, hjob, rfl, rfl⟩
  have hsecond := (h.reserved (jobNonce job) other.jobID).mpr
    ⟨otherSession, otherIndex, other, hother, hnonce.symm, rfl⟩
  rw [hfirst, Option.some.injEq] at hsecond
  exact h.unique hjob hother hsecond

theorem Coherent.distinctJobs (h : m.Coherent) {session : DiagnosticSession}
    (hsession : m.sessions[sessionID]? = some session) :
    session.DistinctJobs := by
  rw [DiagnosticSession.DistinctJobs, List.Nodup, List.pairwise_iff_getElem]
  intro i j hi hj hij heq
  simp only [List.length_map] at hi hj
  simp only [List.getElem_map] at heq
  have hsame := (h.unique ⟨session, hsession, List.getElem?_eq_getElem hi⟩
    ⟨session, hsession, List.getElem?_eq_getElem hj⟩ heq).2
  omega

/-- The job an observation is kept of. -/
theorem Coherent.kept_job (h : m.Coherent) {record : AcceptedObservation}
    (hkept : m.Keeps sessionID record) :
    ∃ index job, m.Holds sessionID index job ∧ record.BoundTo job := by
  obtain ⟨session, hsession, hrecord⟩ := hkept
  obtain ⟨job, hjob, hbound⟩ :=
    (h.sound sessionID session hsession).bound record hrecord
  obtain ⟨index, hindex⟩ := List.mem_iff_getElem?.mp hjob
  exact ⟨index, job, ⟨session, hsession, hindex⟩, hbound⟩

end Unique

section Revise

/-- The sessions of the other manager are those of this one with other states
of themselves and their jobs. -/
structure RevisedBy (m next : DiagnosticSessionManager) : Prop where
  config : next.config = m.config
  jobs : next.jobs = m.jobs
  reserved : next.reservedNonces = m.reservedNonces
  used : next.usedNonces = m.usedNonces
  size : next.sessions.size = m.sessions.size
  before : ∀ (sessionID : Text) (after : DiagnosticSession),
    next.sessions[sessionID]? = some after →
    ∃ session, m.sessions[sessionID]? = some session ∧ session.Revised after
  after : ∀ (sessionID : Text) (session : DiagnosticSession),
    m.sessions[sessionID]? = some session →
    ∃ after, next.sessions[sessionID]? = some after ∧ session.Revised after

variable {next : DiagnosticSessionManager}

theorem RevisedBy.holds (h : m.RevisedBy next) {sessionID : Text} {index : Nat}
    {identity : DiagnosticJob} :
    (∃ job, next.Holds sessionID index job ∧ job.identity = identity) ↔
      ∃ job, m.Holds sessionID index job ∧ job.identity = identity := by
  constructor
  · rintro ⟨job, ⟨after, hafter, hjob⟩, rfl⟩
    obtain ⟨session, hsession, hrevised⟩ := h.before sessionID after hafter
    have hsame := hrevised.jobs_getElem? index
    rw [hjob, Option.map_some, eq_comm, Option.map_eq_some_iff] at hsame
    obtain ⟨before, hbefore, hidentity⟩ := hsame
    exact ⟨before, ⟨session, hsession, hbefore⟩, hidentity⟩
  · rintro ⟨job, ⟨session, hsession, hjob⟩, rfl⟩
    obtain ⟨after, hafter, hrevised⟩ := h.after sessionID session hsession
    have hsame := hrevised.jobs_getElem? index
    rw [hjob, Option.map_some, Option.map_eq_some_iff] at hsame
    obtain ⟨other, hother, hidentity⟩ := hsame
    exact ⟨other, ⟨after, hafter, hother⟩, hidentity⟩

theorem RevisedBy.keeps (h : m.RevisedBy next) {sessionID : Text}
    {record : AcceptedObservation} :
    next.Keeps sessionID record ↔ m.Keeps sessionID record := by
  constructor
  · rintro ⟨after, hafter, hrecord⟩
    obtain ⟨session, hsession, hrevised⟩ := h.before sessionID after hafter
    exact ⟨session, hsession, hrevised.observations ▸ hrecord⟩
  · rintro ⟨session, hsession, hrecord⟩
    obtain ⟨after, hafter, hrevised⟩ := h.after sessionID session hsession
    exact ⟨after, hafter, hrevised.observations ▸ hrecord⟩

/-- A property of jobs that does not look at their states. -/
theorem RevisedBy.holds_of (h : m.RevisedBy next) {sessionID : Text}
    {index : Nat} {P : DiagnosticJob → Prop} :
    (∃ job, next.Holds sessionID index job ∧ P job.identity) ↔
      ∃ job, m.Holds sessionID index job ∧ P job.identity := by
  constructor
  · rintro ⟨job, hjob, hP⟩
    obtain ⟨before, hbefore, hidentity⟩ := h.holds.mp ⟨job, hjob, rfl⟩
    exact ⟨before, hbefore, hidentity ▸ hP⟩
  · rintro ⟨job, hjob, hP⟩
    obtain ⟨after, hafter, hidentity⟩ := h.holds.mpr ⟨job, hjob, rfl⟩
    exact ⟨after, hafter, hidentity ▸ hP⟩

theorem Coherent.revised (h : m.Coherent) (hrevised : m.RevisedBy next)
    (hsound : ∀ (sessionID : Text) (session : DiagnosticSession),
      next.sessions[sessionID]? = some session → session.Sound) :
    next.Coherent := by
  constructor
  · intro sessionID after hafter
    obtain ⟨session, hsession, hsame⟩ := hrevised.before sessionID after hafter
    rw [hsame.sessionID]
    exact h.keys sessionID session hsession
  · exact hsound
  · intro jobID sessionID index
    rw [hrevised.jobs, h.jobs]
    exact (@RevisedBy.holds_of m next hrevised sessionID index
      fun job => job.jobID = jobID).symm
  · intro key jobID
    rw [hrevised.reserved, h.reserved]
    refine exists_congr fun sessionID => exists_congr fun index => ?_
    exact (@RevisedBy.holds_of m next hrevised sessionID index
      fun job => jobNonce job = key ∧ job.jobID = jobID).symm
  · intro key
    rw [hrevised.used, h.used]
    refine exists_congr fun sessionID => exists_congr fun record => ?_
    rw [hrevised.keeps]
  · rw [hrevised.size, hrevised.config]
    exact h.size

/-- Rewriting every session. -/
theorem revisedBy_map {f : DiagnosticSession → DiagnosticSession}
    (hf : ∀ session : DiagnosticSession, session.Revised (f session)) :
    m.RevisedBy { m with sessions := m.sessions.map fun _ => f } := by
  refine ⟨rfl, rfl, rfl, rfl, Std.ExtTreeMap.size_map, ?_, ?_⟩
  · intro sessionID after hafter
    change (m.sessions.map _)[sessionID]? = some after at hafter
    rw [Std.ExtTreeMap.getElem?_map, Option.map_eq_some_iff] at hafter
    obtain ⟨session, hsession, rfl⟩ := hafter
    exact ⟨session, hsession, hf session⟩
  · intro sessionID session hsession
    refine ⟨f session, ?_, hf session⟩
    change (m.sessions.map _)[sessionID]? = some _
    rw [Std.ExtTreeMap.getElem?_map, hsession, Option.map_some]

/-- Rewriting one session. -/
theorem revisedBy_insert {sessionID : Text} {session after : DiagnosticSession}
    (hsession : m.sessions[sessionID]? = some session)
    (hrevised : session.Revised after) :
    m.RevisedBy { m with sessions := m.sessions.insert sessionID after } := by
  have hmem : m.sessions.contains sessionID = true := by
    rw [Std.ExtTreeMap.contains_eq_isSome_getElem?, hsession]
    rfl
  refine ⟨rfl, rfl, rfl, rfl, ?_, ?_, ?_⟩
  · change (m.sessions.insert sessionID after).size = _
    rw [Std.ExtTreeMap.size_insert, if_pos hmem]
  · intro other found hfound
    change (m.sessions.insert sessionID after)[other]? = some found at hfound
    rw [GoMap.get_insert] at hfound
    split at hfound
    · rename_i hsame
      subst hsame
      cases hfound
      exact ⟨session, hsession, hrevised⟩
    · exact ⟨found, hfound, .refl found⟩
  · intro other before hbefore
    change ∃ found, (m.sessions.insert sessionID after)[other]? = some found ∧ _
    rw [GoMap.get_insert]
    split
    · rename_i hsame
      subst hsame
      rw [hsession] at hbefore
      cases hbefore
      exact ⟨after, rfl, hrevised⟩
    · exact ⟨before, hbefore, .refl before⟩

theorem Coherent.expire (h : m.Coherent) (now : Time) :
    (m.expire now).Coherent := by
  apply h.revised (revisedBy_map fun session =>
    DiagnosticSession.revised_expire session now)
  intro sessionID after hafter
  change (m.sessions.map _)[sessionID]? = some after at hafter
  rw [Std.ExtTreeMap.getElem?_map, Option.map_eq_some_iff] at hafter
  obtain ⟨session, hsession, rfl⟩ := hafter
  exact (h.sound sessionID session hsession).expire now

/-- Writing a revised, sound session over. -/
theorem Coherent.insert (h : m.Coherent) {sessionID : Text}
    {session after : DiagnosticSession}
    (hsession : m.sessions[sessionID]? = some session)
    (hrevised : session.Revised after) (hsound : after.Sound) :
    Coherent { m with sessions := m.sessions.insert sessionID after } := by
  apply h.revised (revisedBy_insert hsession hrevised)
  intro other found hfound
  change (m.sessions.insert sessionID after)[other]? = some found at hfound
  rw [GoMap.get_insert] at hfound
  split at hfound
  · cases hfound
    exact hsound
  · exact h.sound other found hfound

end Revise

section Remove

variable {sessionID : Text}

theorem removeSession_sessions (sessionID other : Text) :
    (m.removeSession sessionID).sessions[other]? =
      if sessionID = other then none else m.sessions[other]? := by
  unfold removeSession
  split
  · rename_i hnone
    split
    · rename_i hsame
      rw [← hsame, hnone]
    · rfl
  · exact GoMap.get_erase _ _ _

theorem removeSession_config (sessionID : Text) :
    (m.removeSession sessionID).config = m.config := by
  unfold removeSession
  split <;> rfl

theorem removeSession_holds {other : Text} {index : Nat} {job : DiagnosticJob} :
    (m.removeSession sessionID).Holds other index job ↔
      sessionID ≠ other ∧ m.Holds other index job := by
  unfold Holds
  rw [removeSession_sessions]
  by_cases hsame : sessionID = other
  · simp [hsame]
  · simp [hsame]

theorem removeSession_keeps {other : Text} {record : AcceptedObservation} :
    (m.removeSession sessionID).Keeps other record ↔
      sessionID ≠ other ∧ m.Keeps other record := by
  unfold Keeps
  rw [removeSession_sessions]
  by_cases hsame : sessionID = other
  · simp [hsame]
  · simp [hsame]

theorem removeSession_size_le (sessionID : Text) :
    (m.removeSession sessionID).sessions.size ≤ m.sessions.size := by
  unfold removeSession
  split
  · exact Nat.le_refl _
  · exact Std.ExtTreeMap.size_erase_le

/-- What a session holds is what the indexes forget with it. -/
theorem Coherent.removeSession (h : m.Coherent) (sessionID : Text) :
    (m.removeSession sessionID).Coherent := by
  cases hsession : m.sessions[sessionID]? with
  | none =>
      have hsame : m.removeSession sessionID = m := by
        simp only [DiagnosticSessionManager.removeSession, hsession]
      rw [hsame]
      exact h
  | some session =>
      have hjobs : ∀ jobID : Text, (m.removeSession sessionID).jobs[jobID]? =
          if jobID ∈ session.jobs.map (·.jobID) then none
          else m.jobs[jobID]? := by
        intro jobID
        simp only [DiagnosticSessionManager.removeSession, hsession]
        exact get_foldl_erase _ _ _ _
      have hreserved : ∀ key : Text,
          (m.removeSession sessionID).reservedNonces[key]? =
            if key ∈ session.jobs.map jobNonce then none
            else m.reservedNonces[key]? := by
        intro key
        simp only [DiagnosticSessionManager.removeSession, hsession]
        exact get_foldl_erase jobNonce _ _ _
      have hused : ∀ key : Text, (m.removeSession sessionID).usedNonces[key]? =
          if key ∈ session.agentObservations.map recordNonce then none
          else m.usedNonces[key]? := by
        intro key
        simp only [DiagnosticSessionManager.removeSession, hsession]
        exact get_foldl_erase recordNonce _ _ _
      have hheld : ∀ job ∈ session.jobs, ∃ index,
        m.Holds sessionID index job := by
        intro job hjob
        obtain ⟨index, hindex⟩ := List.mem_iff_getElem?.mp hjob
        exact ⟨index, session, hsession, hindex⟩
      constructor
      · intro other after hafter
        rw [removeSession_sessions] at hafter
        split at hafter
        · cases hafter
        · exact h.keys other after hafter
      · intro other after hafter
        rw [removeSession_sessions] at hafter
        split at hafter
        · cases hafter
        · exact h.sound other after hafter
      · intro jobID other index
        simp only [hjobs, removeSession_holds]
        split
        · rename_i hmem
          obtain ⟨job, hjob, rfl⟩ := List.mem_map.mp hmem
          obtain ⟨place, hplace⟩ := hheld job hjob
          refine iff_of_false (by simp) ?_
          rintro ⟨found, ⟨hne, hfound⟩, hid⟩
          exact hne (h.unique hplace hfound hid.symm).1
        · rename_i hmem
          rw [h.jobs]
          refine exists_congr fun job => ?_
          constructor
          · rintro ⟨hholds, hid⟩
            refine ⟨⟨?_, hholds⟩, hid⟩
            rintro rfl
            obtain ⟨found, hfound, hjob⟩ := hholds
            rw [hsession] at hfound
            cases hfound
            exact hmem (List.mem_map.mpr
              ⟨job, List.mem_of_getElem? hjob, hid⟩)
          · rintro ⟨⟨-, hholds⟩, hid⟩
            exact ⟨hholds, hid⟩
      · intro key jobID
        simp only [hreserved, removeSession_holds]
        split
        · rename_i hmem
          obtain ⟨job, hjob, rfl⟩ := List.mem_map.mp hmem
          obtain ⟨place, hplace⟩ := hheld job hjob
          refine iff_of_false (by simp) ?_
          rintro ⟨other, index, found, ⟨hne, hfound⟩, hnonce, -⟩
          exact hne (h.unique_nonce hplace hfound hnonce.symm).1
        · rename_i hmem
          rw [h.reserved]
          refine exists_congr fun other => exists_congr fun index =>
            exists_congr fun job => ?_
          constructor
          · rintro ⟨hholds, hnonce, hid⟩
            refine ⟨⟨?_, hholds⟩, hnonce, hid⟩
            rintro rfl
            obtain ⟨found, hfound, hjob⟩ := hholds
            rw [hsession] at hfound
            cases hfound
            exact hmem (List.mem_map.mpr
              ⟨job, List.mem_of_getElem? hjob, hnonce⟩)
          · rintro ⟨⟨-, hholds⟩, hnonce, hid⟩
            exact ⟨hholds, hnonce, hid⟩
      · intro key
        simp only [hused, removeSession_keeps]
        split
        · rename_i hmem
          obtain ⟨record, hrecord, rfl⟩ := List.mem_map.mp hmem
          obtain ⟨place, job, hplace, hbound⟩ :=
            h.kept_job ⟨session, hsession, hrecord⟩
          refine iff_of_false (by simp) ?_
          rintro ⟨other, found, ⟨hne, hfound⟩, hnonce⟩
          obtain ⟨index, foundJob, hholds, hfoundBound⟩ := h.kept_job hfound
          rw [BoundTo.recordNonce hbound, BoundTo.recordNonce hfoundBound]
            at hnonce
          exact hne (h.unique_nonce hplace hholds hnonce.symm).1
        · rename_i hmem
          rw [h.used]
          refine exists_congr fun other => exists_congr fun record => ?_
          constructor
          · rintro ⟨hkept, hnonce⟩
            refine ⟨⟨?_, hkept⟩, hnonce⟩
            rintro rfl
            obtain ⟨found, hfound, hrecord⟩ := hkept
            rw [hsession] at hfound
            cases hfound
            exact hmem (List.mem_map.mpr ⟨record, hrecord, hnonce⟩)
          · rintro ⟨⟨-, hkept⟩, hnonce⟩
            exact ⟨hkept, hnonce⟩
      · have hsize := @removeSession_size_le m sessionID
        have hbefore := h.size
        rw [removeSession_config]
        omega

end Remove

section Add

/-- A session without jobs is added under a key of its own. -/
theorem Coherent.addSession (h : m.Coherent) {session : DiagnosticSession}
    (hnew : m.sessions[session.sessionID]? = none) (hroom : m.HasRoom)
    (hsound : session.Sound) (hjobs : session.jobs = [])
    (hobservations : session.agentObservations = []) :
    Coherent
      { m with
        sessions := m.sessions.insert session.sessionID session } := by
  have hsessions : ∀ other : Text,
      (m.sessions.insert session.sessionID session)[other]? =
        if session.sessionID = other then some session
        else m.sessions[other]? :=
    fun other => GoMap.get_insert _ _ _ _
  have hholds : ∀ (other : Text) (index : Nat) (job : DiagnosticJob),
      Holds { m with sessions := m.sessions.insert session.sessionID session }
        other index job ↔ m.Holds other index job := by
    intro other index job
    simp only [Holds, hsessions]
    by_cases hsame : session.sessionID = other
    · subst hsame
      simp [hnew, hjobs]
    · simp [hsame]
  have hkeeps : ∀ (other : Text) (record : AcceptedObservation),
      Keeps { m with sessions := m.sessions.insert session.sessionID session }
        other record ↔ m.Keeps other record := by
    intro other record
    simp only [Keeps, hsessions]
    by_cases hsame : session.sessionID = other
    · subst hsame
      simp [hnew, hobservations]
    · simp [hsame]
  constructor
  · intro other found hfound
    simp only [hsessions] at hfound
    split at hfound
    · rename_i hsame
      cases hfound
      exact hsame
    · exact h.keys other found hfound
  · intro other found hfound
    simp only [hsessions] at hfound
    split at hfound
    · cases hfound
      exact hsound
    · exact h.sound other found hfound
  · intro jobID other index
    simp only [hholds]
    exact h.jobs jobID other index
  · intro key jobID
    simp only [hholds]
    exact h.reserved key jobID
  · intro key
    simp only [hkeeps]
    exact h.used key
  · have hsize : (m.sessions.insert session.sessionID session).size ≤
        m.sessions.size + 1 := Std.ExtTreeMap.size_insert_le
    unfold HasRoom at hroom
    change ((m.sessions.insert session.sessionID session).size : Int) ≤
      m.config.maxSessions
    omega

variable {session : DiagnosticSession}

/-- A job with an identity and a nonce of its own is added to a session. -/
theorem Coherent.addJob (h : m.Coherent)
    (hsession : m.sessions[session.sessionID]? = some session)
    {job : DiagnosticJob} (hid : m.jobs[job.jobID]? = none)
    (hnonce : m.reservedNonces[jobNonce job]? = none) {now : Time}
    (hsound : { session with
      jobs := session.jobs ++ [job] : DiagnosticSession }.Sound) :
    (m.addJob session job now).Coherent := by
  generalize hnext : ({ session with
    jobs := session.jobs ++ [job] : DiagnosticSession }).deriveState now = next
  have hrevised := DiagnosticSession.revised_deriveState
    ({ session with jobs := session.jobs ++ [job] : DiagnosticSession }) now
  rw [hnext] at hrevised
  have hsessions : ∀ other : Text, (m.addJob session job now).sessions[other]? =
      if session.sessionID = other then some next
      else m.sessions[other]? := by
    intro other
    simp only [DiagnosticSessionManager.addJob, hnext]
    exact GoMap.get_insert _ _ _ _
  have hholds : ∀ (other : Text) (index : Nat) (P : DiagnosticJob → Prop),
      (∃ found, (m.addJob session job now).Holds other index found ∧
        P found.identity) ↔
      (∃ found, m.Holds other index found ∧ P found.identity) ∨
        (other = session.sessionID ∧ index = session.jobs.length ∧
          P job.identity) := by
    intro other index P
    simp only [Holds, hsessions]
    by_cases hsame : session.sessionID = other
    · subst hsame
      simp only [↓reduceIte, Option.some.injEq, exists_eq_left', hsession,
        true_and]
      have hplaces := hrevised.jobs_getElem? index
      have hlift : (∃ found, next.jobs[index]? = some found ∧
          P found.identity) ↔
          ∃ found, (session.jobs ++ [job])[index]? = some found ∧
            P found.identity := by
        constructor
        · rintro ⟨found, hfound, hP⟩
          rw [hfound, Option.map_some, eq_comm, Option.map_eq_some_iff]
            at hplaces
          obtain ⟨before, hbefore, hidentity⟩ := hplaces
          exact ⟨before, hbefore, hidentity ▸ hP⟩
        · rintro ⟨found, hfound, hP⟩
          simp only [hfound, Option.map_some, Option.map_eq_some_iff]
            at hplaces
          obtain ⟨after, hafter, hidentity⟩ := hplaces
          exact ⟨after, hafter, hidentity ▸ hP⟩
      rw [hlift]
      rcases Nat.lt_trichotomy index session.jobs.length with hlt | heq | hgt
      · rw [List.getElem?_append_left hlt]
        simp [Nat.ne_of_lt hlt]
      · subst heq
        simp
      · have hnone : session.jobs[index]? = none :=
          List.getElem?_eq_none (Nat.le_of_lt hgt)
        have hnone' : (session.jobs ++ [job])[index]? = none :=
          List.getElem?_eq_none (by simpa using hgt)
        simp [hnone, hnone', Nat.ne_of_gt hgt]
    · simp [hsame, Ne.symm hsame]
  have hkeeps : ∀ (other : Text) (record : AcceptedObservation),
      (m.addJob session job now).Keeps other record ↔ m.Keeps other record := by
    intro other record
    simp only [Keeps, hsessions]
    by_cases hsame : session.sessionID = other
    · subst hsame
      simp [hsession, hrevised.observations]
    · simp [hsame]
  constructor
  · intro other found hfound
    rw [hsessions] at hfound
    split at hfound
    · rename_i hsame
      cases hfound
      exact hrevised.sessionID.trans hsame
    · exact h.keys other found hfound
  · intro other found hfound
    rw [hsessions] at hfound
    split at hfound
    · cases hfound
      exact hnext ▸ hsound.deriveState now
    · exact h.sound other found hfound
  · intro jobID other index
    have hindex : (m.addJob session job now).jobs[jobID]? =
        if job.jobID = jobID then some ⟨session.sessionID, session.jobs.length⟩
        else m.jobs[jobID]? := GoMap.get_insert _ _ _ _
    have hfound := hholds other index fun found => found.jobID = jobID
    simp only [DiagnosticJob.identity] at hfound
    rw [hindex, hfound]
    split
    · rename_i hsame
      subst hsame
      rw [← h.jobs, hid]
      simp [eq_comm]
    · rename_i hne
      rw [h.jobs]
      simp [hne]
  · intro key jobID
    have hindex : (m.addJob session job now).reservedNonces[key]? =
        if jobNonce job = key then some job.jobID
        else m.reservedNonces[key]? := GoMap.get_insert _ _ _ _
    have hfound : (∃ other index found,
        (m.addJob session job now).Holds other index found ∧
          jobNonce found = key ∧ found.jobID = jobID) ↔
        (∃ other index found, m.Holds other index found ∧
          jobNonce found = key ∧ found.jobID = jobID) ∨
        (jobNonce job = key ∧ job.jobID = jobID) := by
      have hat := fun other index => hholds other index fun found =>
        jobNonce found = key ∧ found.jobID = jobID
      simp only [DiagnosticJob.identity, jobNonce] at hat ⊢
      constructor
      · rintro ⟨other, index, found, hfound⟩
        rcases (hat other index).mp ⟨found, hfound⟩ with hold | hnew
        · exact Or.inl ⟨other, index, hold⟩
        · exact Or.inr hnew.2.2
      · rintro (⟨other, index, hold⟩ | hnew)
        · exact ⟨other, index, (hat other index).mpr (Or.inl hold)⟩
        · exact ⟨session.sessionID, session.jobs.length,
            (hat _ _).mpr (Or.inr ⟨rfl, rfl, hnew⟩)⟩
    rw [hindex, hfound, ← h.reserved]
    split
    · rename_i hsame
      subst hsame
      simp [hnonce]
    · rename_i hne
      simp [hne]
  · intro key
    simp only [hkeeps]
    exact h.used key
  · have hmem : m.sessions.contains session.sessionID = true := by
      rw [Std.ExtTreeMap.contains_eq_isSome_getElem?, hsession]
      rfl
    change ((m.sessions.insert session.sessionID _).size : Int) ≤
      m.config.maxSessions
    rw [Std.ExtTreeMap.size_insert, if_pos hmem]
    exact h.size

/-- The observation of a job that was not completed is kept, under a nonce
that was not used up. -/
theorem Coherent.addObservation (h : m.Coherent)
    (hsession : m.sessions[session.sessionID]? = some session)
    (hopen : session.state.terminal = false) {index : Nat}
    {job : DiagnosticJob} (hjob : session.jobs[index]? = some job)
    (hbefore : job.state ≠ .completed) {observation : Observation} {now : Time}
    (hbound : (accepted observation now).BoundTo job) :
    (m.addObservation session index observation now).Coherent := by
  let written : DiagnosticSession :=
    { session.setJobState index .completed with
      agentObservations :=
        session.agentObservations ++ [accepted observation now] }
  have hsound : written.Sound :=
    (h.sound _ session hsession).addObservation (h.distinctJobs hsession) hopen
      hjob hbefore hbound
  have hrevised := DiagnosticSession.revised_deriveState written now
  generalize hnext : written.deriveState now = next at hrevised
  have hsessions : ∀ other : Text,
      (m.addObservation session index observation now).sessions[other]? =
        if session.sessionID = other then some next
        else m.sessions[other]? := by
    intro other
    rw [← hnext]
    exact GoMap.get_insert _ _ _ _
  have hplaces : ∀ place : Nat,
      (next.jobs[place]?).map DiagnosticJob.identity =
        (session.jobs[place]?).map DiagnosticJob.identity := by
    intro place
    rw [hrevised.jobs_getElem? place]
    simp only [written, DiagnosticSession.setJobState, List.getElem?_modify]
    cases session.jobs[place]? with
    | none => rfl
    | some before =>
        by_cases hsame : index = place
        · simp [hsame, DiagnosticJob.identity]
        · simp [hsame]
  have hholds : ∀ (other : Text) (place : Nat) (P : DiagnosticJob → Prop),
      (∃ found,
        (m.addObservation session index observation now).Holds other place
          found ∧ P found.identity) ↔
      ∃ found, m.Holds other place found ∧ P found.identity := by
    intro other place P
    simp only [Holds, hsessions]
    by_cases hsame : session.sessionID = other
    · subst hsame
      have hplace := hplaces place
      simp only [↓reduceIte, Option.some.injEq, exists_eq_left', hsession]
      constructor
      · rintro ⟨found, hfound, hP⟩
        rw [hfound, Option.map_some, eq_comm, Option.map_eq_some_iff] at hplace
        obtain ⟨before, hbefore, hidentity⟩ := hplace
        exact ⟨before, hbefore, hidentity ▸ hP⟩
      · rintro ⟨found, hfound, hP⟩
        rw [hfound, Option.map_some, Option.map_eq_some_iff] at hplace
        obtain ⟨after, hafter, hidentity⟩ := hplace
        exact ⟨after, hafter, hidentity ▸ hP⟩
    · simp [hsame]
  have hkeeps : ∀ (other : Text) (record : AcceptedObservation),
      (m.addObservation session index observation now).Keeps other record ↔
        m.Keeps other record ∨
          (other = session.sessionID ∧ record = accepted observation now) := by
    intro other record
    simp only [Keeps, hsessions]
    by_cases hsame : session.sessionID = other
    · subst hsame
      simp [hsession, hrevised.observations, written]
    · simp [hsame, Ne.symm hsame]
  constructor
  · intro other found hfound
    rw [hsessions] at hfound
    split at hfound
    · rename_i hsame
      cases hfound
      exact hrevised.sessionID.trans hsame
    · exact h.keys other found hfound
  · intro other found hfound
    rw [hsessions] at hfound
    split at hfound
    · cases hfound
      exact hnext ▸ hsound.deriveState now
    · exact h.sound other found hfound
  · intro jobID other place
    have hfound := hholds other place fun found => found.jobID = jobID
    simp only [DiagnosticJob.identity] at hfound
    rw [hfound]
    exact h.jobs jobID other place
  · intro key jobID
    have hfound := fun other place => hholds other place fun found =>
      jobNonce found = key ∧ found.jobID = jobID
    simp only [DiagnosticJob.identity, jobNonce] at hfound
    simp only [jobNonce, hfound]
    exact h.reserved key jobID
  · intro key
    have hindex :
        (m.addObservation session index observation now).usedNonces[key]? =
        if recordNonce (accepted observation now) = key then some ()
        else m.usedNonces[key]? := GoMap.get_insert _ _ _ _
    have hfound : (∃ other record,
        (m.addObservation session index observation now).Keeps other record ∧
          recordNonce record = key) ↔
        (∃ other record, m.Keeps other record ∧ recordNonce record = key) ∨
          recordNonce (accepted observation now) = key := by
      constructor
      · rintro ⟨other, record, hkept, hnonce⟩
        rcases (hkeeps other record).mp hkept with hold | ⟨-, rfl⟩
        · exact Or.inl ⟨other, record, hold, hnonce⟩
        · exact Or.inr hnonce
      · rintro (⟨other, record, hold, hnonce⟩ | hnonce)
        · exact ⟨other, record, (hkeeps other record).mpr (Or.inl hold), hnonce⟩
        · exact ⟨_, _, (hkeeps _ _).mpr (Or.inr ⟨rfl, rfl⟩), hnonce⟩
    rw [hindex, hfound, ← h.used]
    split
    · rename_i hsame
      simp [hsame]
    · rename_i hne
      simp [hne]
  · have hmem : m.sessions.contains session.sessionID = true := by
      rw [Std.ExtTreeMap.contains_eq_isSome_getElem?, hsession]
      rfl
    change ((m.sessions.insert session.sessionID _).size : Int) ≤
      m.config.maxSessions
    rw [Std.ExtTreeMap.size_insert, if_pos hmem]
    exact h.size

end Add

end DiagnosticSessionManager

end XrayChecker.Diagnostics

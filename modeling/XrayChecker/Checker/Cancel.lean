import XrayChecker.Checker.Export

/-
Cancelling an availability run.  The jobs of a run are taken apart into the
steps between which the cancellation can fall, and any number of them
interleave; every result carries the mark whether it came back after the
cancellation.
-/

namespace XrayChecker.Checker

open Go ProxyChecker

/-- Where a job of a run stands.  A result carries `late`: it came back after
the run was cancelled. -/
inductive Stage where
  | queued
  | diagnosing
  | diagnosed (hostCheck : HostCheckDetails) (pingCheck : PingCheckDetails)
      (late : Bool)
  | ready
  | probing
  | answered (answer : Answer) (late : Bool)
  | failing (failure : FailureDetails) (late : Bool)
  | succeeding (latency : Int) (late : Bool)
  | marking (failure : FailureDetails) (late : Bool)
  | collecting
  | collected (hostCheck : HostCheckDetails) (pingCheck : PingCheckDetails)
      (late : Bool)
  | timing
  | finished

/-- The first pass of a job is over. -/
def Stage.firstPassDone : Stage → Bool
  | .queued => false
  | .diagnosing => false
  | .diagnosed _ _ _ => false
  | _ => true

structure Job where
  candidate : Candidate
  stage : Stage

/-- A result that was stored in the status details. -/
structure StoredResult where
  node : Text
  late : Bool
deriving DecidableEq

/-- An availability run under way; `stores` is the history of the results it
stored. -/
structure RunState where
  pc : ProxyChecker
  expectedGeneration : Option Nat
  jobs : List Job
  cancelled : Bool := false
  stores : List StoredResult := []

/-- What one step of a job does. -/
structure Advance where
  pc : ProxyChecker
  stage : Stage
  stores : List StoredResult := []

/-- What a step meets outside, as a check that reads its context now sees
it. -/
def seenBy (cancelled : Bool) (input : Probe) : Probe :=
  { input with cancelled := if cancelled then .atStart else .never }

/-- One step of a job: one reading of the context, one network operation, or
one write of the shared state. -/
def advance (options : Options) (s : RunState) (candidate : Candidate)
    (stage : Stage) (input : Probe) : Advance :=
  let pc := s.pc
  let proxy := candidate.proxy
  let stableID := proxy.effectiveStableID options.digest
  let exportMetrics := !candidate.probeOnly && pc.listedPublicly stableID
  match stage with
  | .queued =>
      if s.cancelled then ⟨pc, .finished, []⟩
      else if candidate.wasUnavailable then ⟨pc, .diagnosing, []⟩
      else ⟨pc, .ready, []⟩
  | .diagnosing =>
      ⟨pc, .diagnosed input.hostCheck input.pingCheck s.cancelled, []⟩
  | .diagnosed hostCheck pingCheck late =>
      if s.cancelled || !pc.isGenerationValid s.expectedGeneration then
        ⟨pc, .finished, []⟩
      else
        ⟨pc.storeStatusDetailsMode stableID
            { online := false, hostCheck := some hostCheck
              pingCheck := some pingCheck }
            candidate.probeOnly input.storedAt,
          if hostCheck.online then .ready else .finished,
          if pc.storable stableID candidate.probeOnly then [⟨stableID, late⟩]
          else []⟩
  | .ready =>
      if !s.jobs.all (·.stage.firstPassDone) then ⟨pc, .ready, []⟩
      else if !pc.admits options proxy candidate.probeOnly
          (seenBy s.cancelled input) then ⟨pc, .finished, []⟩
      else ⟨pc, .probing, []⟩
  | .probing => ⟨pc, .answered input.answer s.cancelled, []⟩
  | .answered answer late =>
      match probeOutcome options pc.currentIP proxy
          (seenBy s.cancelled { input with answer := answer }) with
      | .cancelled => ⟨pc, .finished, []⟩
      | .failed failure => ⟨pc, .failing failure late, []⟩
      | .succeeded latency => ⟨pc, .succeeding latency late, []⟩
  | .failing failure late =>
      if s.cancelled || !pc.isGenerationValid s.expectedGeneration then
        ⟨pc, .timing, []⟩
      else ⟨pc, .marking failure late, []⟩
  | .succeeding latency late =>
      ⟨pc.setSucceeded options proxy s.expectedGeneration candidate.probeOnly
          latency input.storedAt,
        .finished,
        if pc.isGenerationValid s.expectedGeneration &&
            pc.storable stableID candidate.probeOnly then [⟨stableID, late⟩]
        else []⟩
  | .marking failure late =>
      let pc := pc.recordFailedStatus options proxy candidate.probeOnly
        exportMetrics
      if pc.storable stableID candidate.probeOnly then
        ⟨pc.storeStatusDetailsMode stableID
            { online := false, failure := some failure } candidate.probeOnly
            input.storedAt,
          .collecting, [⟨stableID, late⟩]⟩
      else ⟨pc, .timing, []⟩
  | .collecting =>
      ⟨pc, .collected input.hostCheck input.pingCheck s.cancelled, []⟩
  | .collected hostCheck pingCheck late =>
      ⟨pc.storeOfflineDiagnostics stableID hostCheck pingCheck input.clock,
        .timing,
        match pc.statusDetails[stableID]? with
        | none => []
        | some current => if current.online then [] else [⟨stableID, late⟩]⟩
  | .timing =>
      ⟨pc.setFailedLatency options proxy s.expectedGeneration
          candidate.probeOnly exportMetrics (seenBy s.cancelled input),
        .finished, []⟩
  | .finished => ⟨pc, .finished, []⟩

/-- What can happen during a run. -/
inductive Move where
  | cancel
  | ownIP (ip : Text)
  | advance (index : Nat) (input : Probe)

def moveStep (options : Options) (s : RunState) : Move → RunState
  | .cancel => { s with cancelled := true }
  | .ownIP ip =>
      { s with pc := { s.pc with currentIP := ip, ipInitialized := true } }
  | .advance index input =>
      match s.jobs[index]? with
      | none => s
      | some job =>
          let next := advance options s job.candidate job.stage input
          { s with
            pc := next.pc
            jobs := s.jobs.set index { job with stage := next.stage }
            stores := s.stores ++ next.stores }

/-- The jobs of a run at its start: the runs over candidates begin with the
first pass. -/
def startJobs (options : Options) (pc : ProxyChecker) : RunKind → List Job
  | .one proxy => [⟨{ proxy := proxy }, .ready⟩]
  | .all => (pc.proxies.map (pc.candidate options)).map (⟨·, .ready⟩)
  | .unavailable =>
      match pc.availabilityCheckCandidates options [] true false with
      | .error _ => []
      | .ok candidates => candidates.map (⟨·, .queued⟩)
  | .selected stableIDs allowMaintenance =>
      match pc.availabilityCheckCandidates options stableIDs false
          allowMaintenance with
      | .error _ => []
      | .ok candidates => candidates.map (⟨·, .queued⟩)

def RunKind.expectedGeneration (pc : ProxyChecker) : RunKind → Option Nat
  | .one _ => none
  | _ => some pc.generation

def startRun (options : Options) (pc : ProxyChecker) (kind : RunKind) :
    RunState :=
  { pc := pc
    expectedGeneration := kind.expectedGeneration pc
    jobs := startJobs options pc kind }

/-- The job is between the last question whether the run was cancelled and
the end of the host diagnostics that follow a failure. -/
def Stage.unguarded : Stage → Bool
  | .marking _ _ => true
  | .collecting => true
  | _ => false

/-- The run is not cancelled while a job is unguarded. -/
def CancelsGuarded (s : RunState) : Move → Prop
  | .cancel => ∀ job ∈ s.jobs, job.stage.unguarded = false
  | _ => True

instance (s : RunState) (move : Move) : Decidable (CancelsGuarded s move) :=
  match move with
  | .cancel => inferInstanceAs (Decidable (∀ _ ∈ _, _))
  | .ownIP _ => inferInstanceAs (Decidable True)
  | .advance _ _ => inferInstanceAs (Decidable True)

/-- What is known of the result a job holds. -/
def Stage.Timely (cancelled : Bool) : Stage → Prop
  | .diagnosed _ _ late => late = true → cancelled = true
  | .answered _ late => late = true → cancelled = true
  | .failing _ late => late = true → cancelled = true
  | .succeeding _ late => late = false
  | .marking _ late => late = false ∧ cancelled = false
  | .collecting => cancelled = false
  | .collected _ _ late => late = false
  | _ => True

/-- No result that came back late was stored, and none will be. -/
structure Evident (s : RunState) : Prop where
  stores : ∀ result ∈ s.stores, result.late = false
  jobs : ∀ job ∈ s.jobs, job.stage.Timely s.cancelled

variable {options : Options}

theorem probeOutcome_not_cancelled {currentIP : Text} {proxy : ProxyConfig}
    {probe : Probe} {latency : Int}
    (h : probeOutcome options currentIP proxy probe = .succeeded latency) :
    probe.cancelledAt .afterProbe = false := by
  simp only [probeOutcome] at h
  split at h
  · cases h
  · split at h
    · cases h
    · split at h
      · cases h
      · rename_i hcancelled
        simpa using hcancelled

/-- One step of a job stores no late result and keeps its own timely. -/
theorem advance_timely (s : RunState) (candidate : Candidate) {stage : Stage}
    (input : Probe) (h : stage.Timely s.cancelled) :
    (advance options s candidate stage input).stage.Timely s.cancelled ∧
      ∀ result ∈ (advance options s candidate stage input).stores,
        result.late = false := by
  cases stage with
  | queued =>
      simp only [advance]
      split
      · simp [Stage.Timely]
      · split <;> simp [Stage.Timely]
  | diagnosing => simp [advance, Stage.Timely]
  | diagnosed hostCheck pingCheck late =>
      simp only [advance]
      split
      · simp [Stage.Timely]
      · rename_i hgo
        have hlate : late = false := by
          by_contra hlate
          simp [h (by simpa using hlate)] at hgo
        refine ⟨?_, ?_⟩
        · simp only
          split <;> trivial
        · intro result hresult
          simp only at hresult
          split at hresult
          · rw [List.mem_singleton.mp hresult]
            exact hlate
          · cases hresult
  | ready =>
      simp only [advance]
      split
      · simp [Stage.Timely]
      · split <;> simp [Stage.Timely]
  | probing => simp [advance, Stage.Timely]
  | answered answer late =>
      simp only [advance]
      split
      · simp [Stage.Timely]
      · exact ⟨h, by simp⟩
      · rename_i latency houtcome
        refine ⟨?_, by simp⟩
        have hguard := probeOutcome_not_cancelled houtcome
        change late = false
        by_contra hlate
        rw [h (by simpa using hlate)] at hguard
        simp [seenBy, Probe.cancelledAt, Place.rank] at hguard
  | failing failure late =>
      simp only [advance]
      split
      · simp [Stage.Timely]
      · rename_i hgo
        have hopen : s.cancelled = false := by
          by_contra hcancelled
          simp [hcancelled] at hgo
        refine ⟨⟨?_, hopen⟩, by simp⟩
        by_contra hlate
        have hcancelled := h (by simpa using hlate)
        rw [hopen] at hcancelled
        cases hcancelled
  | succeeding latency late =>
      refine ⟨trivial, ?_⟩
      intro result hresult
      simp only [advance] at hresult
      split at hresult
      · rw [List.mem_singleton.mp hresult]
        exact h
      · cases hresult
  | marking failure late =>
      simp only [advance]
      split
      · refine ⟨h.2, ?_⟩
        intro result hresult
        rw [List.mem_singleton.mp hresult]
        exact h.1
      · simp [Stage.Timely]
  | collecting => exact ⟨h, by simp [advance]⟩
  | collected hostCheck pingCheck late =>
      refine ⟨trivial, ?_⟩
      intro result hresult
      simp only [advance] at hresult
      split at hresult
      · cases hresult
      · split at hresult
        · cases hresult
        · rw [List.mem_singleton.mp hresult]
          exact h
  | timing => simp [advance, Stage.Timely]
  | finished => simp [advance, Stage.Timely]

theorem timely_of_guarded {stage : Stage} {cancelled : Bool}
    (h : stage.Timely cancelled) (hguarded : stage.unguarded = false) :
    stage.Timely true := by
  cases stage <;> simp_all [Stage.Timely, Stage.unguarded]

theorem evident_step {s : RunState} {move : Move} (h : Evident s)
    (hguarded : CancelsGuarded s move) :
    Evident (moveStep options s move) := by
  cases move with
  | cancel =>
      refine ⟨h.stores, fun job hjob => ?_⟩
      exact timely_of_guarded (h.jobs job hjob) (hguarded job hjob)
  | ownIP ip => exact ⟨h.stores, h.jobs⟩
  | advance index input =>
      simp only [moveStep]
      split
      · exact h
      · rename_i job hjob
        have htimely := h.jobs job (List.mem_of_getElem? hjob)
        obtain ⟨hstage, hstores⟩ :=
          @advance_timely options s job.candidate job.stage input htimely
        constructor
        · intro result hresult
          rcases List.mem_append.mp hresult with hold | hnew
          · exact h.stores result hold
          · exact hstores result hnew
        · intro other hother
          rcases List.mem_or_eq_of_mem_set hother with hold | rfl
          · exact h.jobs other hold
          · exact hstage

/-- A step of a job changes the status details only where it stores a
result. -/
theorem advance_stores (s : RunState) (candidate : Candidate) (stage : Stage)
    (input : Probe) :
    (advance options s candidate stage input).pc.statusDetails =
        s.pc.statusDetails ∨
      ∃ result, (advance options s candidate stage input).stores =
        [result] := by
  have hstore : ∀ (current : ProxyChecker) (stableID : Text)
      (report : StatusReport) (allowMaintenance : Bool) (now : Time),
      current.regime = s.pc.regime →
      current.statusDetails = s.pc.statusDetails →
      s.pc.storable stableID allowMaintenance = false →
      (current.storeStatusDetailsMode stableID report allowMaintenance
        now).statusDetails = s.pc.statusDetails := by
    intro current stableID report allowMaintenance now hregime hdetails
      hstorable
    simp [storeStatusDetailsMode, storable_of_regime hregime, hstorable,
      hdetails]
  cases stage with
  | queued =>
      left
      simp only [advance]
      split
      · rfl
      · split <;> rfl
  | diagnosing => exact Or.inl rfl
  | diagnosed hostCheck pingCheck late =>
      simp only [advance]
      split
      · exact Or.inl rfl
      · by_cases hstorable : s.pc.storable
            (candidate.proxy.effectiveStableID options.digest)
            candidate.probeOnly = true
        · simp [hstorable]
        · left
          exact hstore s.pc _ _ _ _ rfl rfl (by simpa using hstorable)
  | ready =>
      left
      simp only [advance]
      split
      · rfl
      · split <;> rfl
  | probing => exact Or.inl rfl
  | answered answer late =>
      left
      simp only [advance]
      split <;> rfl
  | failing failure late =>
      left
      simp only [advance]
      split <;> rfl
  | succeeding latency late =>
      simp only [advance]
      by_cases hvalid : s.pc.isGenerationValid s.expectedGeneration = true
      · by_cases hstorable : s.pc.storable
            (candidate.proxy.effectiveStableID options.digest)
            candidate.probeOnly = true
        · simp [hvalid, hstorable]
        · left
          simp only [setSucceeded, hvalid, Bool.not_true, Bool.false_eq_true,
            ↓reduceIte]
          cases hmode : candidate.probeOnly
          · exact hstore _ _ _ _ _ rfl rfl (by simpa [hmode] using hstorable)
          · exact hstore _ _ _ _ _ rfl rfl (by simpa [hmode] using hstorable)
      · left
        simp [setSucceeded, hvalid]
  | marking failure late =>
      simp only [advance]
      split
      · exact Or.inr ⟨_, rfl⟩
      · exact Or.inl (statusDetails_recordFailedStatus ..)
  | collecting => exact Or.inl rfl
  | collected hostCheck pingCheck late =>
      simp only [advance, storeOfflineDiagnostics]
      split
      · exact Or.inl rfl
      · rename_i current hcurrent
        by_cases honline : current.online = true
        · simp [honline]
        · simp [hcurrent, honline]
  | timing => exact Or.inl (statusDetails_setFailedLatency ..)
  | finished => exact Or.inl rfl

theorem moveStep_stores (s : RunState) (move : Move) :
    (moveStep options s move).pc.statusDetails = s.pc.statusDetails ∨
      ∃ result, (moveStep options s move).stores = s.stores ++ [result] := by
  cases move with
  | cancel => exact Or.inl rfl
  | ownIP ip => exact Or.inl rfl
  | advance index input =>
      simp only [moveStep]
      split
      · exact Or.inl rfl
      · rename_i job hjob
        rcases @advance_stores options s job.candidate job.stage input with
          hsame | ⟨result, hresult⟩
        · exact Or.inl hsame
        · exact Or.inr ⟨result, by rw [hresult]⟩

/-- Every availability run and every way in which its jobs and a cancellation
interleave: as long as the run is not cancelled while a job is between its
last look at the context and the end of the host diagnostics, no result that
came back after the cancellation is stored, and the status details change only
where a result that came back in time is stored. -/
theorem cancelled_never_evidence {pc : ProxyChecker} {kind : RunKind}
    {moves : List Move}
    (hguarded : Machine.Admissible (moveStep options) CancelsGuarded
      (startRun options pc kind) moves) :
    (∀ result ∈ (Machine.run (moveStep options) (startRun options pc kind)
      moves).stores, result.late = false) ∧
    ∀ taken ∈ Machine.steps (moveStep options) (startRun options pc kind)
        moves,
      (moveStep options taken.1 taken.2).pc.statusDetails =
          taken.1.pc.statusDetails ∨
        ∃ result, result.late = false ∧
          (moveStep options taken.1 taken.2).stores =
            taken.1.stores ++ [result] := by
  have hstart : Evident (startRun options pc kind) := by
    refine ⟨by simp [startRun], fun job hjob => ?_⟩
    have hstage : job.stage = .ready ∨ job.stage = .queued := by
      cases kind with
      | one proxy => simp_all [startRun, startJobs]
      | all =>
          obtain ⟨candidate, -, rfl⟩ := List.mem_map.mp hjob
          exact Or.inl rfl
      | unavailable =>
          simp only [startRun, startJobs] at hjob
          split at hjob
          · cases hjob
          · obtain ⟨candidate, -, rfl⟩ := List.mem_map.mp hjob
            exact Or.inr rfl
      | selected stableIDs allowMaintenance =>
          simp only [startRun, startJobs] at hjob
          split at hjob
          · cases hjob
          · obtain ⟨candidate, -, rfl⟩ := List.mem_map.mp hjob
            exact Or.inr rfl
    rcases hstage with hready | hqueued
    · rw [hready]
      trivial
    · rw [hqueued]
      trivial
  have hstep : ∀ s move, Evident s → CancelsGuarded s move →
      Evident (moveStep options s move) :=
    fun s move hs hmove => evident_step hs hmove
  constructor
  · exact (Machine.run_invariant Evident hguarded hstart hstep).stores
  · intro taken htaken
    have hbefore := Machine.steps_invariant Evident hguarded hstart hstep taken
      htaken
    have hafter := hstep taken.1 taken.2 hbefore (hguarded taken htaken)
    rcases @moveStep_stores options taken.1 taken.2 with
      hsame | ⟨result, hresult⟩
    · exact Or.inl hsame
    · refine Or.inr ⟨result, ?_, hresult⟩
      apply hafter.stores
      rw [hresult]
      simp

section Solo

variable {expectedGeneration : Option Nat} {candidate : Candidate}
  {probe : Probe}

/-- A run with one job, not cancelled. -/
def solo (pc : ProxyChecker) (expectedGeneration : Option Nat)
    (candidate : Candidate) (stage : Stage) (stores : List StoredResult) :
    RunState :=
  ⟨pc, expectedGeneration, [⟨candidate, stage⟩], false, stores⟩

/-- The state a lone job leaves after some more steps. -/
def soloRun (options : Options) (expectedGeneration : Option Nat)
    (candidate : Candidate) (probe : Probe) (pc : ProxyChecker)
    (stage : Stage) (stores : List StoredResult) (n : Nat) : ProxyChecker :=
  (Machine.run (moveStep options)
    (solo pc expectedGeneration candidate stage stores)
    (List.replicate n (.advance 0 probe))).pc

theorem soloRun_succ (pc : ProxyChecker) (stage : Stage)
    (stores : List StoredResult) (n : Nat) :
    let next := advance options (solo pc expectedGeneration candidate stage
      stores) candidate stage probe
    soloRun options expectedGeneration candidate probe pc stage stores
        (n + 1) =
      soloRun options expectedGeneration candidate probe next.pc next.stage
        (stores ++ next.stores) n := rfl

theorem soloRun_finished (pc : ProxyChecker) (stores : List StoredResult)
    (n : Nat) :
    soloRun options expectedGeneration candidate probe pc .finished stores n =
      pc := by
  induction n generalizing stores with
  | zero => rfl
  | succ n ih =>
      rw [soloRun_succ]
      exact ih _

theorem seenBy_false (h : probe.cancelled = .never) :
    seenBy false probe = probe := by
  simp [seenBy, ← h]

theorem cancelledAt_of_never (h : probe.cancelled = .never) {place : Place}
    (hplace : place ≠ .never) : probe.cancelledAt place = false := by
  cases place <;> simp_all [Probe.cancelledAt, Place.rank]

/-- A failing job, from its outcome to its end. -/
theorem soloRun_failing (h : probe.cancelled = .never) (pc : ProxyChecker)
    (failure : FailureDetails) (late : Bool) (stores : List StoredResult) :
    soloRun options expectedGeneration candidate probe pc
        (.failing failure late) stores 5 =
      let exportMetrics := !candidate.probeOnly && pc.listedPublicly
        (candidate.proxy.effectiveStableID options.digest)
      (pc.setFailedStatus options candidate.proxy expectedGeneration
        candidate.probeOnly exportMetrics failure probe).setFailedLatency
          options candidate.proxy expectedGeneration candidate.probeOnly
          exportMetrics probe := by
  have htiming : ∀ (current : ProxyChecker) (stores : List StoredResult)
      (n : Nat), current.regime = pc.regime →
      soloRun options expectedGeneration candidate probe current .timing
        stores (n + 1) =
      current.setFailedLatency options candidate.proxy expectedGeneration
        candidate.probeOnly (!candidate.probeOnly && pc.listedPublicly
          (candidate.proxy.effectiveStableID options.digest)) probe := by
    intro current stores n hregime
    rw [soloRun_succ]
    simp only [advance, solo, seenBy_false h, soloRun_finished,
      listedPublicly_of_regime hregime]
  have hopen : probe.cancelledAt .atStatus = false :=
    cancelledAt_of_never h (by simp)
  rw [soloRun_succ]
  by_cases hvalid : pc.isGenerationValid expectedGeneration = true
  · simp only [advance, solo, setFailedStatus, hopen, hvalid, Bool.not_true,
      Bool.or_self, Bool.false_eq_true, ↓reduceIte]
    have hmarked : ∀ exportMetrics, (pc.recordFailedStatus options
        candidate.proxy candidate.probeOnly exportMetrics).regime =
          pc.regime := fun exportMetrics =>
      recordFailedStatus_frame unwritten_regime _ _ _
    rw [soloRun_succ]
    simp only [advance, solo, markUnavailableAndCollectDiagnostics,
      storable_of_regime (hmarked _)]
    split
    · rw [soloRun_succ, soloRun_succ]
      simp only [advance, solo]
      apply htiming
      rw [storeOfflineDiagnostics_frame unwritten_regime,
        storeStatusDetailsMode_frame unwritten_regime]
      exact hmarked _
    · exact htiming _ _ _ (hmarked _)
  · simp only [advance, solo, setFailedStatus, hopen, hvalid, Bool.not_false,
      Bool.or_true, ↓reduceIte]
    exact htiming pc _ _ rfl

/-- A job that no cancellation meets does what `checkProxyInternal` does. -/
theorem soloRun_eq_check (h : probe.cancelled = .never) (pc : ProxyChecker) :
    soloRun options expectedGeneration candidate probe pc .ready [] 8 =
      pc.checkProxyInternal options candidate.proxy expectedGeneration
        candidate.probeOnly probe := by
  rw [soloRun_succ]
  simp only [advance, solo, seenBy_false h, List.all_cons, List.all_nil,
    Stage.firstPassDone, Bool.and_self, Bool.not_true, Bool.false_eq_true,
    ↓reduceIte, checkProxyInternal]
  by_cases hadmits : pc.admits options candidate.proxy candidate.probeOnly
      probe = true
  · simp only [hadmits, Bool.not_true, Bool.false_eq_true, ↓reduceIte]
    rw [soloRun_succ]
    simp only [advance, solo]
    rw [soloRun_succ]
    simp only [advance, solo, seenBy_false h]
    cases probeOutcome options pc.currentIP candidate.proxy probe with
    | cancelled => exact soloRun_finished ..
    | failed failure => exact soloRun_failing h pc failure _ _
    | succeeded latency =>
        rw [soloRun_succ]
        simp only [advance, solo, soloRun_finished]
  · simp only [hadmits, Bool.not_false, ↓reduceIte]
    exact soloRun_finished ..

end Solo

namespace Sample

/-- The network as a cancelled context leaves it: every operation fails. -/
def interrupted : Probe :=
  { answer := .failed { text := "context canceled" }
    hostCheck := { checked := true, error := "operation was canceled" }
    pingCheck := { checked := true, error := "operation was canceled" }
    storedAt := 20
    clock := ⟨20, 20, 20⟩ }

/-- A node that answers with an error, while its host is reachable. -/
def refused : Probe :=
  { answer := .response { statusCode := 502 }
    hostCheck := { checked := true, online := true }
    pingCheck := { checked := true, online := true }
    storedAt := 10
    clock := ⟨10, 10, 10⟩ }

/-- A full check of a failing node, its diagnostics done before the
cancellation arrives. -/
def cancelledAfterwards : List Move :=
  List.replicate 6 (.advance 0 refused) ++
    [.cancel, .advance 0 interrupted, .advance 0 interrupted]

/-- The same check, cancelled while the host diagnostics are under way. -/
def cancelledMidway : List Move :=
  List.replicate 5 (.advance 0 refused) ++
    [.cancel, .advance 0 interrupted, .advance 0 interrupted]

def fullRun (moves : List Move) : RunState :=
  Machine.run (moveStep (optionsFor "status"))
    (startRun (optionsFor "status") { proxies := [node [] "nl-1"] } .all) moves

theorem cancelled_never_evidence_sample :
    (fullRun cancelledAfterwards).stores ≠ [] ∧
      ∀ result ∈ (fullRun cancelledAfterwards).stores, result.late = false :=
  ⟨by decide, (cancelled_never_evidence (by decide)).1⟩

/-- The diagnostics the cancellation cut short are stored, and take the node
offline. -/
theorem cancelled_diagnostics_stored :
    (fullRun cancelledMidway).stores = [⟨"nl-1", false⟩, ⟨"nl-1", true⟩] ∧
      ((fullRun cancelledMidway).pc.statusDetailsByStableID "nl-1").map
          (fun details => (details.status, details.downSince)) =
        some (.offline, 20) := by
  decide

end Sample

end XrayChecker.Checker

import XrayChecker.Checker.Runs

/-
What an availability run leaves alone, and the rule that carries a fact about
the state through a run: it is enough to know what one diagnosis and one
check do to it.
-/

namespace XrayChecker.Checker

open Go

@[simp] theorem online_nextStatusDetails (previous : Option ProxyStatusDetails)
    (report : StatusReport) (now : Time) :
    (nextStatusDetails previous report now).online = report.online := by
  have hcarried : ∀ status,
      (carriedDetails previous report status now).online = report.online := by
    intro status
    unfold carriedDetails
    split <;> rfl
  unfold nextStatusDetails
  split
  · exact hcarried _
  · exact hcarried _

/-- The part of the state no check writes. -/
structure Regime where
  proxies : List ProxyConfig
  maintenance : GoMap Text Unit
  generation : Nat
  projectMaintenance : Bool
  sourcePolicies : GoMap Text Policy
  sourceByStableID : GoMap Text Text

namespace ProxyChecker

def regime (pc : ProxyChecker) : Regime :=
  ⟨pc.proxies, pc.maintenance, pc.generation, pc.projectMaintenance,
    pc.sourcePolicies, pc.sourceByStableID⟩

variable {options : Options} {pc pc' : ProxyChecker}

theorem proxies_of_regime (h : pc'.regime = pc.regime) :
    pc'.proxies = pc.proxies :=
  congrArg Regime.proxies h

theorem generation_of_regime (h : pc'.regime = pc.regime) :
    pc'.generation = pc.generation :=
  congrArg Regime.generation h

theorem monitoringEnabled_of_regime (h : pc'.regime = pc.regime)
    (stableID : Text) :
    pc'.monitoringEnabled stableID = pc.monitoringEnabled stableID := by
  have hmaintenance : pc'.maintenance = pc.maintenance :=
    congrArg Regime.maintenance h
  simp only [monitoringEnabled, hmaintenance]

theorem observationPolicyFor_of_regime (h : pc'.regime = pc.regime)
    (stableID : Text) :
    pc'.observationPolicyFor stableID = pc.observationPolicyFor stableID := by
  have hpolicies : pc'.sourcePolicies = pc.sourcePolicies :=
    congrArg Regime.sourcePolicies h
  have hindex : pc'.sourceByStableID = pc.sourceByStableID :=
    congrArg Regime.sourceByStableID h
  simp only [observationPolicyFor, hpolicies, hindex]

theorem availabilityAccounted_of_regime (h : pc'.regime = pc.regime)
    (stableID : Text) :
    pc'.availabilityAccounted stableID = pc.availabilityAccounted stableID := by
  simp only [availabilityAccounted, monitoringEnabled_of_regime h,
    observationPolicyFor_of_regime h]

theorem listedPublicly_of_regime (h : pc'.regime = pc.regime)
    (stableID : Text) :
    pc'.listedPublicly stableID = pc.listedPublicly stableID := by
  simp only [listedPublicly, observationPolicyFor_of_regime h]

theorem storable_of_regime (h : pc'.regime = pc.regime) (stableID : Text)
    (allowMaintenance : Bool) :
    pc'.storable stableID allowMaintenance =
      pc.storable stableID allowMaintenance := by
  simp only [storable, monitoringEnabled_of_regime h]

theorem admits_of_regime (h : pc'.regime = pc.regime) (proxy : ProxyConfig)
    (allowMaintenance : Bool) (probe : Probe) :
    pc'.admits options proxy allowMaintenance probe =
      pc.admits options proxy allowMaintenance probe := by
  simp only [admits, monitoringEnabled_of_regime h]

theorem isGenerationValid_of_regime (h : pc'.regime = pc.regime)
    (expectedGeneration : Option Nat) :
    pc'.isGenerationValid expectedGeneration =
      pc.isGenerationValid expectedGeneration := by
  simp only [isGenerationValid, generation_of_regime h]

/-- A reading of the state that does not look at what a check writes. -/
def Unwritten {α : Type} (f : ProxyChecker → α) : Prop :=
  ∀ (pc : ProxyChecker) (currentMetrics : GoMap Text Bool)
    (latencyMetrics : GoMap Text Int)
    (statusDetails : GoMap Text ProxyStatusDetails) (registry : Registry),
    f { pc with
        currentMetrics := currentMetrics
        latencyMetrics := latencyMetrics
        statusDetails := statusDetails
        registry := registry } = f pc

theorem unwritten_regime : Unwritten regime := fun _ _ _ _ _ => rfl

theorem unwritten_currentIP : Unwritten (·.currentIP) := fun _ _ _ _ _ => rfl

section Unwritten

variable {α : Type} {f : ProxyChecker → α} (hf : Unwritten f)

include hf

theorem storeStatusDetailsMode_frame (stableID : Text) (report : StatusReport)
    (allowMaintenance : Bool) (now : Time) :
    f (pc.storeStatusDetailsMode stableID report allowMaintenance now) =
      f pc := by
  unfold storeStatusDetailsMode
  split
  · exact hf pc pc.currentMetrics pc.latencyMetrics _ pc.registry
  · rfl

theorem storeOfflineDiagnostics_frame (stableID : Text)
    (hostCheck : HostCheckDetails) (pingCheck : PingCheckDetails)
    (clock : DiagnosticReadings) :
    f (pc.storeOfflineDiagnostics stableID hostCheck pingCheck clock) =
      f pc := by
  unfold storeOfflineDiagnostics
  split
  · rfl
  · split
    · rfl
    · exact hf pc pc.currentMetrics pc.latencyMetrics _ pc.registry

theorem recordFailedStatus_frame (proxy : ProxyConfig)
    (allowMaintenance exportMetrics : Bool) :
    f (pc.recordFailedStatus options proxy allowMaintenance exportMetrics) =
      f pc := by
  unfold recordFailedStatus
  split
  · rfl
  · cases exportMetrics
    · exact hf pc _ pc.latencyMetrics pc.statusDetails pc.registry
    · exact hf pc _ pc.latencyMetrics pc.statusDetails _

theorem markUnavailable_frame (proxy : ProxyConfig) (allowMaintenance : Bool)
    (failure : FailureDetails) (probe : Probe) :
    f (pc.markUnavailableAndCollectDiagnostics options proxy allowMaintenance
      failure probe) = f pc := by
  simp only [markUnavailableAndCollectDiagnostics]
  split
  · rw [storeOfflineDiagnostics_frame hf, storeStatusDetailsMode_frame hf]
  · rfl

theorem setFailedStatus_frame (proxy : ProxyConfig)
    (expectedGeneration : Option Nat) (allowMaintenance exportMetrics : Bool)
    (failure : FailureDetails) (probe : Probe) :
    f (pc.setFailedStatus options proxy expectedGeneration allowMaintenance
      exportMetrics failure probe) = f pc := by
  unfold setFailedStatus
  split
  · rfl
  · rw [markUnavailable_frame hf, recordFailedStatus_frame hf]

theorem setFailedLatency_frame (proxy : ProxyConfig)
    (expectedGeneration : Option Nat) (allowMaintenance exportMetrics : Bool)
    (probe : Probe) :
    f (pc.setFailedLatency options proxy expectedGeneration allowMaintenance
      exportMetrics probe) = f pc := by
  unfold setFailedLatency
  split
  · rfl
  · cases exportMetrics
    · exact hf pc pc.currentMetrics _ pc.statusDetails pc.registry
    · exact hf pc pc.currentMetrics _ pc.statusDetails _

theorem setSucceeded_frame (proxy : ProxyConfig)
    (expectedGeneration : Option Nat) (allowMaintenance : Bool) (latency : Int)
    (now : Time) :
    f (pc.setSucceeded options proxy expectedGeneration allowMaintenance
      latency now) = f pc := by
  unfold setSucceeded
  split
  · rfl
  · rw [storeStatusDetailsMode_frame hf]
    split
    · rfl
    · exact hf pc _ _ pc.statusDetails _

/-- A check writes the two caches, the statuses and the registry only. -/
theorem checkProxyInternal_frame (proxy : ProxyConfig)
    (expectedGeneration : Option Nat) (allowMaintenance : Bool)
    (probe : Probe) :
    f (pc.checkProxyInternal options proxy expectedGeneration allowMaintenance
      probe) = f pc := by
  unfold checkProxyInternal
  split
  · rfl
  · split
    · rfl
    · rw [setFailedLatency_frame hf, setFailedStatus_frame hf]
    · rw [setSucceeded_frame hf]

end Unwritten

@[simp] theorem regime_storeStatusDetailsMode (stableID : Text)
    (report : StatusReport) (allowMaintenance : Bool) (now : Time) :
    (pc.storeStatusDetailsMode stableID report allowMaintenance now).regime =
      pc.regime :=
  storeStatusDetailsMode_frame unwritten_regime stableID report
    allowMaintenance now

@[simp] theorem regime_checkProxyInternal (proxy : ProxyConfig)
    (expectedGeneration : Option Nat) (allowMaintenance : Bool)
    (probe : Probe) :
    (pc.checkProxyInternal options proxy expectedGeneration allowMaintenance
      probe).regime = pc.regime :=
  checkProxyInternal_frame unwritten_regime proxy expectedGeneration
    allowMaintenance probe

theorem statusDetails_recordFailedStatus (options : Options)
    (pc : ProxyChecker) (proxy : ProxyConfig)
    (allowMaintenance exportMetrics : Bool) :
    (pc.recordFailedStatus options proxy allowMaintenance
      exportMetrics).statusDetails = pc.statusDetails := by
  unfold recordFailedStatus
  split
  · rfl
  · cases exportMetrics <;> rfl

theorem statusDetails_setFailedLatency (proxy : ProxyConfig)
    (expectedGeneration : Option Nat) (allowMaintenance exportMetrics : Bool)
    (probe : Probe) :
    (pc.setFailedLatency options proxy expectedGeneration allowMaintenance
      exportMetrics probe).statusDetails = pc.statusDetails := by
  unfold setFailedLatency
  split
  · rfl
  · cases exportMetrics <;> rfl

/-- Reading the own address changes nothing else. -/
theorem withCurrentIP_cases {needed : Bool} {answer : Except Text Text}
    (h : pc.withCurrentIP options needed answer = .ok pc') :
    pc' = pc ∨
      ∃ ip, pc' = { pc with currentIP := ip, ipInitialized := true } := by
  unfold withCurrentIP getCurrentIP at h
  split at h
  · split at h
    · exact Or.inl (Except.ok.inj h).symm
    · cases answer with
      | error text => cases h
      | ok ip => exact Or.inr ⟨ip, (Except.ok.inj h).symm⟩
  · exact Or.inl (Except.ok.inj h).symm

/-- A refresh of the host diagnostics only ever stores over a failing status. -/
theorem refreshHostDiagnostics_cases (options : Options) (pc : ProxyChecker)
    (stableID : Text) (hostCheck : HostCheckDetails)
    (pingCheck : PingCheckDetails) (now : Time) :
    (pc.refreshHostDiagnosticsByStableID options stableID hostCheck pingCheck
      now).1 = pc ∨
    ∃ current, pc.statusDetails[stableID]? = some current ∧
      current.online = false ∧
      (pc.refreshHostDiagnosticsByStableID options stableID hostCheck
        pingCheck now).1 =
        pc.storeStatusDetailsMode stableID
          { online := false, hostCheck := some hostCheck
            pingCheck := some pingCheck } false now := by
  unfold refreshHostDiagnosticsByStableID
  split
  · exact Or.inl rfl
  · split
    · exact Or.inl rfl
    · split
      · exact Or.inl rfl
      · rename_i current hcurrent
        by_cases honline : current.online = true
        · simp [honline]
        · right
          refine ⟨current, hcurrent, by simpa using honline, ?_⟩
          simp only [honline, Bool.false_eq_true, ↓reduceIte]
          split <;> rfl

@[simp] theorem effectiveStableID_candidate (proxy : ProxyConfig) :
    (pc.candidate options proxy).proxy.effectiveStableID options.digest =
      proxy.effectiveStableID options.digest :=
  ProxyConfig.effectiveStableID_fill options.digest proxy

end ProxyChecker

open ProxyChecker

variable {options : Options} {pc : ProxyChecker}

theorem mem_reached {candidates : List Candidate} {order : List Nat}
    {probes : Nat → Probe} {job : Candidate × Probe}
    (h : job ∈ reached candidates order probes) : job.1 ∈ candidates := by
  obtain ⟨index, -, hindex⟩ := List.mem_filterMap.mp h
  obtain ⟨candidate, hget, rfl⟩ := Option.map_eq_some_iff.mp hindex
  exact List.mem_of_getElem? hget

/-- Every candidate of a run is a tracked node in the mode its source asks
for. -/
theorem mem_availabilityCheckCandidates {stableIDs : List Text}
    {unavailableOnly allowMaintenance : Bool} {candidates : List Candidate}
    (h : pc.availabilityCheckCandidates options stableIDs unavailableOnly
      allowMaintenance = .ok candidates) {candidate : Candidate}
    (hmem : candidate ∈ candidates) :
    ∃ proxy ∈ pc.proxies, candidate = pc.candidate options proxy := by
  have hordered : ∀ candidate ∈ pc.orderedCandidates options
      (requestedIDs stableIDs) unavailableOnly allowMaintenance,
      ∃ proxy ∈ pc.proxies, candidate = pc.candidate options proxy := by
    intro candidate hcandidate
    obtain ⟨proxy, hproxy, heq⟩ :=
      List.mem_map.mp (List.mem_of_mem_filter hcandidate)
    exact ⟨proxy, hproxy, heq.symm⟩
  simp only [availabilityCheckCandidates] at h
  split at h
  · cases h
  · split at h
    · cases h
      exact hordered candidate hmem
    · split at h
      · cases h
        obtain ⟨stableID, -, hfind⟩ := List.mem_filterMap.mp hmem
        apply hordered candidate
        exact List.mem_reverse.mp (List.mem_of_find?_eq_some hfind)
      · split at h <;> cases h

/-- Who is checked by a run: tracked nodes in the mode of their source, or
the node handed to `CheckProxy`. -/
inductive IsJob (options : Options) (pc : ProxyChecker) :
    RunKind → Candidate → Prop where
  | tracked {kind : RunKind} (proxy : ProxyConfig)
      (hproxy : proxy ∈ pc.proxies) (hkind : ∀ proxy, kind ≠ .one proxy) :
      IsJob options pc kind (pc.candidate options proxy)
  | one (proxy : ProxyConfig) : IsJob options pc (.one proxy) { proxy := proxy }

/-- The first pass only stores diagnoses of candidates that were failing. -/
theorem firstPass_rule (P : ProxyChecker → Prop) {candidates : List Candidate}
    (generation : Nat) (around : Surroundings) (hstart : P pc)
    (hdiagnosis : ∀ current candidate index, P current →
      candidate ∈ candidates → candidate.wasUnavailable = true →
      P (current.storeStatusDetailsMode candidate.proxy.stableID
        { online := false, hostCheck := some (around.diagnoses index).hostCheck
          pingCheck := some (around.diagnoses index).pingCheck }
        candidate.probeOnly (around.diagnoses index).storedAt)) :
    P (pc.firstPass generation candidates around).pc := by
  have hstep : ∀ (pass : FirstPass) (index : Nat), P pass.pc →
      P (diagnoseCandidate generation candidates around.diagnoses pass
        index).pc := by
    intro pass index hpass
    simp only [diagnoseCandidate]
    split
    · exact hpass
    · rename_i candidate hget
      split
      · exact hpass
      · by_cases hwas : candidate.wasUnavailable
        · simp only [hwas, Bool.not_true, Bool.false_eq_true, ↓reduceIte]
          split
          · exact hpass
          · split
            · exact hpass
            · exact hdiagnosis _ _ _ hpass (List.mem_of_getElem? hget) hwas
        · simpa [hwas] using hpass
  have hfold : ∀ (order : List Nat) (pass : FirstPass), P pass.pc →
      P (order.foldl (diagnoseCandidate generation candidates
        around.diagnoses) pass).pc := by
    intro order
    induction order with
    | nil => exact fun _ hpass => hpass
    | cons index rest ih =>
        exact fun pass hpass => ih _ (hstep pass index hpass)
  exact hfold around.diagnosed _ hstart

/-- A run about to check: a fact about its state, the regime it starts from,
and who is checked. -/
def Ready (options : Options) (P : ProxyChecker → Prop) (pc : ProxyChecker)
    (kind : RunKind) (run : Run) : Prop :=
  P run.pc ∧ run.pc.regime = pc.regime ∧
    ∀ job ∈ run.jobs, IsJob options pc kind job.1

/-- A fact that reading the own address and the diagnosis of a failing node
both leave true. -/
structure Stable (options : Options) (P : ProxyChecker → Prop)
    (pc : ProxyChecker) (around : Surroundings) : Prop where
  ip : ∀ current ip, P current →
    P { current with currentIP := ip, ipInitialized := true }
  diagnosis : ∀ current proxy index, P current →
    current.regime = pc.regime → proxy ∈ pc.proxies →
    (pc.candidate options proxy).wasUnavailable = true →
    P (current.storeStatusDetailsMode
      (proxy.effectiveStableID options.digest)
      { online := false, hostCheck := some (around.diagnoses index).hostCheck
        pingCheck := some (around.diagnoses index).pingCheck }
      (pc.candidate options proxy).probeOnly (around.diagnoses index).storedAt)

section Rule

variable {P : ProxyChecker → Prop} {kind : RunKind} {around : Surroundings}

theorem Stable.withCurrentIP (hstable : Stable options P pc around)
    {needed : Bool}
    {answer : Except Text Text} {current current' : ProxyChecker}
    (h : current.withCurrentIP options needed answer = .ok current')
    (hP : P current) : P current' ∧ current'.regime = current.regime := by
  rcases withCurrentIP_cases h with rfl | ⟨ip, rfl⟩
  · exact ⟨hP, rfl⟩
  · exact ⟨hstable.ip current ip hP, rfl⟩

theorem ready_of_no_jobs (hP : P pc) {run : Run} (hpc : run.pc = pc)
    (hjobs : run.jobs = []) : Ready options P pc kind run := by
  refine ⟨hpc ▸ hP, hpc ▸ rfl, ?_⟩
  intro job hjob
  rw [hjobs] at hjob
  cases hjob

theorem ready_withCheckRun (allowProjectMaintenance : Bool) (hP : P pc)
    {start : ProxyChecker → Run}
    (hstart : Ready options P pc kind (start pc)) :
    Ready options P pc kind
      (pc.withCheckRun allowProjectMaintenance around start) := by
  unfold withCheckRun
  split
  · exact ready_of_no_jobs hP rfl rfl
  · split
    · exact ready_of_no_jobs hP rfl rfl
    · exact hstart

theorem ready_checkAvailabilityCandidates (hstable : Stable options P pc around)
    (hP : P pc) (hkind : ∀ proxy, kind ≠ .one proxy)
    {candidates : List Candidate}
    (htracked : ∀ candidate ∈ candidates,
      ∃ proxy ∈ pc.proxies, candidate = pc.candidate options proxy)
    (generation : Nat) :
    Ready options P pc kind
      (pc.checkAvailabilityCandidates options candidates generation
        around) := by
  have hpass : P (pc.firstPass generation candidates around).pc ∧
      (pc.firstPass generation candidates around).pc.regime = pc.regime := by
    refine firstPass_rule
      (fun current => P current ∧ current.regime = pc.regime)
      generation around ⟨hP, rfl⟩ ?_
    rintro current candidate index ⟨hcurrent, hregime⟩ hmem hwas
    obtain ⟨proxy, hproxy, rfl⟩ := htracked candidate hmem
    refine ⟨?_, by simpa using hregime⟩
    exact hstable.diagnosis current proxy index hcurrent hregime hproxy hwas
  simp only [checkAvailabilityCandidates]
  split
  · exact ⟨hpass.1, hpass.2, by simp⟩
  · split
    · exact ⟨hpass.1, hpass.2, by simp⟩
    · split
      · exact ⟨hpass.1, hpass.2, by simp⟩
      · rename_i current hip
        have hcurrent := hstable.withCurrentIP hip hpass.1
        refine ⟨hcurrent.1, hcurrent.2.trans hpass.2, ?_⟩
        intro job hjob
        obtain ⟨proxy, hproxy, heq⟩ := htracked _ (mem_reached hjob)
        rw [heq]
        exact .tracked proxy hproxy hkind

theorem ready_checkCandidates (hstable : Stable options P pc around) (hP : P pc)
    (hkind : ∀ proxy, kind ≠ .one proxy) (stableIDs : List Text)
    (unavailableOnly allowMaintenance : Bool) :
    Ready options P pc kind
      (pc.checkCandidates options stableIDs unavailableOnly allowMaintenance
        around) := by
  unfold checkCandidates
  split
  · exact ready_of_no_jobs hP rfl rfl
  · rename_i candidates hcandidates
    apply ready_checkAvailabilityCandidates hstable hP hkind
    intro candidate hmem
    exact mem_availabilityCheckCandidates hcandidates hmem

/-- The rule for the part of a run before its checks: a stable fact holds
when the checks start, and who is checked is known. -/
theorem ready_start (hstable : Stable options P pc around) (hP : P pc) :
    Ready options P pc kind (kind.start options pc around) := by
  cases kind with
  | one proxy =>
      apply ready_withCheckRun false hP
      split
      · exact ready_of_no_jobs hP rfl rfl
      · split
        · exact ready_of_no_jobs hP rfl rfl
        · rename_i current hip
          have hcurrent := hstable.withCurrentIP hip hP
          refine ⟨hcurrent.1, hcurrent.2, ?_⟩
          intro job hjob
          rw [List.mem_singleton.mp hjob]
          exact .one proxy
  | all =>
      apply ready_withCheckRun false hP
      split
      · exact ready_of_no_jobs hP rfl rfl
      · rename_i current hip
        have hcurrent := hstable.withCurrentIP hip hP
        refine ⟨hcurrent.1, hcurrent.2, ?_⟩
        intro job hjob
        obtain ⟨proxy, hproxy, heq⟩ := List.mem_map.mp (mem_reached hjob)
        rw [← heq]
        rcases withCurrentIP_cases hip with rfl | ⟨ip, rfl⟩
        · exact .tracked proxy hproxy (by simp)
        · exact .tracked proxy hproxy (by simp)
  | unavailable =>
      apply ready_withCheckRun false hP
      exact ready_checkCandidates hstable hP (by simp) [] true false
  | selected stableIDs allowMaintenance =>
      apply ready_withCheckRun allowMaintenance hP
      exact ready_checkCandidates hstable hP (by simp) stableIDs false
        allowMaintenance

/-- The rule for a whole run: beyond the start, the fact has to survive every
check the run makes. -/
theorem finish_rule (hstable : Stable options P pc around) (hP : P pc)
    (hcheck : ∀ current, P current → current.regime = pc.regime →
      ∀ job ∈ (kind.start options pc around).jobs,
      IsJob options pc kind job.1 →
      P (current.checkProxyInternal options job.1.proxy
        (kind.start options pc around).expectedGeneration job.1.probeOnly
        job.2)) :
    P ((kind.start options pc around).finish options) := by
  have hready : Ready options P pc kind (kind.start options pc around) :=
    ready_start hstable hP
  obtain ⟨hstart, hregime, hjobs⟩ := hready
  refine (foldl_invariant
    (fun _ (current : ProxyChecker) =>
      P current ∧ current.regime = pc.regime) _ ⟨hstart, hregime⟩ ?_).1
  rintro _ job current hjob ⟨hcurrent, hcurrentRegime⟩
  refine ⟨?_, by simpa using hcurrentRegime⟩
  exact hcheck current hcurrent hcurrentRegime job hjob (hjobs job hjob)

end Rule

end XrayChecker.Checker

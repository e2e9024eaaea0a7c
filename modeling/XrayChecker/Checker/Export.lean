import XrayChecker.Checker.Frames

/-
Which samples the availability runs record in Prometheus.  The failure branch
of a check consults the observation policy of the node's source; the success
branch does not.
-/

namespace XrayChecker.Checker

open Go ProxyChecker

variable {options : Options} {pc : ProxyChecker}

/-- A status or latency sample of a node. -/
def sampleOf (options : Options) (proxy : ProxyConfig) (gauge : Gauge)
    (value : Int) : SeriesSample :=
  ⟨gauge, proxy.effectiveStableID options.digest, seriesLabels proxy, value⟩

/-- Whether a check goes on to write metrics, as far as its guards, its mode
and the generation decide. -/
def Accounts (options : Options) (pc : ProxyChecker)
    (expectedGeneration : Option Nat) (job : Candidate × Probe) : Prop :=
  pc.admits options job.1.proxy job.1.probeOnly job.2 = true ∧
    job.1.probeOnly = false ∧
    pc.isGenerationValid expectedGeneration = true

instance (expectedGeneration : Option Nat) (job : Candidate × Probe) :
    Decidable (Accounts options pc expectedGeneration job) :=
  inferInstanceAs (Decidable (_ ∧ _ ∧ _))

/-- The samples of a failed check: none for an unlisted node, and none from
the place on where the run turns out to be cancelled. -/
def failedSamples (options : Options) (pc : ProxyChecker) (proxy : ProxyConfig)
    (probe : Probe) : List SeriesSample :=
  if pc.listedPublicly (proxy.effectiveStableID options.digest) then
    (if probe.cancelledAt .atStatus then []
      else [sampleOf options proxy .status 0]) ++
    (if probe.cancelledAt .atLatency then []
      else [sampleOf options proxy .latency 0])
  else []

/-- The samples one check records. -/
def checkSamples (options : Options) (pc : ProxyChecker)
    (expectedGeneration : Option Nat) (job : Candidate × Probe) :
    List SeriesSample :=
  if Accounts options pc expectedGeneration job then
    match probeOutcome options pc.currentIP job.1.proxy job.2 with
    | .cancelled => []
    | .failed _ => failedSamples options pc job.1.proxy job.2
    | .succeeded latency =>
        [sampleOf options job.1.proxy .status 1,
          sampleOf options job.1.proxy .latency latency]
  else []

namespace ProxyChecker

@[simp] theorem registry_storeStatusDetailsMode (stableID : Text)
    (report : StatusReport) (allowMaintenance : Bool) (now : Time) :
    (pc.storeStatusDetailsMode stableID report allowMaintenance
      now).registry = pc.registry := by
  unfold storeStatusDetailsMode
  split <;> rfl

@[simp] theorem registry_storeOfflineDiagnostics (stableID : Text)
    (hostCheck : HostCheckDetails) (pingCheck : PingCheckDetails)
    (clock : DiagnosticReadings) :
    (pc.storeOfflineDiagnostics stableID hostCheck pingCheck
      clock).registry = pc.registry := by
  unfold storeOfflineDiagnostics
  split
  · rfl
  · split <;> rfl

@[simp] theorem registry_markUnavailable (proxy : ProxyConfig)
    (allowMaintenance : Bool) (failure : FailureDetails) (probe : Probe) :
    (pc.markUnavailableAndCollectDiagnostics options proxy allowMaintenance
      failure probe).registry = pc.registry := by
  simp only [markUnavailableAndCollectDiagnostics]
  split
  · simp
  · rfl

end ProxyChecker

theorem registry_setFailedStatus {proxy : ProxyConfig}
    {expectedGeneration : Option Nat}
    (hgeneration : pc.isGenerationValid expectedGeneration = true)
    (exportMetrics : Bool) (failure : FailureDetails) (probe : Probe) :
    (pc.setFailedStatus options proxy expectedGeneration false exportMetrics
      failure probe).registry =
      (if probe.cancelledAt .atStatus || !exportMetrics then []
        else [sampleOf options proxy .status 0]).foldl
          Registry.record pc.registry := by
  simp only [setFailedStatus, hgeneration, Bool.not_true, Bool.or_false]
  by_cases hcancelled : probe.cancelledAt .atStatus
  · simp [hcancelled]
  · cases exportMetrics
    · simp [hcancelled, recordFailedStatus, storeCurrent]
    · simp [hcancelled, recordFailedStatus, storeCurrent, recordStatus,
        sampleOf]

theorem registry_setFailedLatency {proxy : ProxyConfig}
    {expectedGeneration : Option Nat}
    (hgeneration : pc.isGenerationValid expectedGeneration = true)
    (exportMetrics : Bool) (probe : Probe) :
    (pc.setFailedLatency options proxy expectedGeneration false exportMetrics
      probe).registry =
      (if probe.cancelledAt .atLatency || !exportMetrics then []
        else [sampleOf options proxy .latency 0]).foldl
          Registry.record pc.registry := by
  simp only [setFailedLatency, hgeneration, Bool.not_true, Bool.or_false]
  by_cases hcancelled : probe.cancelledAt .atLatency
  · simp [hcancelled]
  · cases exportMetrics
    · simp [hcancelled, storeLatency]
    · simp [hcancelled, storeLatency, recordLatency, sampleOf]

theorem registry_setSucceeded {proxy : ProxyConfig}
    {expectedGeneration : Option Nat}
    (hgeneration : pc.isGenerationValid expectedGeneration = true)
    (latency : Int) (now : Time) :
    (pc.setSucceeded options proxy expectedGeneration false latency
      now).registry =
      [sampleOf options proxy .status 1,
        sampleOf options proxy .latency latency].foldl
          Registry.record pc.registry := by
  simp [setSucceeded, hgeneration, storeLatency, storeCurrent, recordLatency,
    recordStatus, sampleOf]

/-- A check that does not account leaves the registry alone. -/
theorem registry_of_not_accounts {expectedGeneration : Option Nat}
    {job : Candidate × Probe}
    (h : ¬Accounts options pc expectedGeneration job) :
    (pc.checkProxyInternal options job.1.proxy expectedGeneration
      job.1.probeOnly job.2).registry = pc.registry := by
  unfold checkProxyInternal
  by_cases hadmits : pc.admits options job.1.proxy job.1.probeOnly job.2
  · have hother : job.1.probeOnly = true ∨
        pc.isGenerationValid expectedGeneration = false := by
      by_cases hprobe : job.1.probeOnly
      · exact Or.inl hprobe
      · right
        by_contra hvalid
        exact h ⟨hadmits, by simpa using hprobe, by simpa using hvalid⟩
    simp only [hadmits, Bool.not_true, Bool.false_eq_true, ↓reduceIte]
    rcases hother with hprobe | hinvalid
    · split
      · rfl
      · simp only [setFailedStatus, setFailedLatency, hprobe, Bool.or_true,
          ↓reduceIte]
        split
        · rfl
        · simp [recordFailedStatus]
      · simp only [setSucceeded, hprobe, ↓reduceIte]
        split
        · rfl
        · simp
    · split
      · rfl
      · simp [setFailedStatus, setFailedLatency, hinvalid]
      · simp [setSucceeded, hinvalid]
  · simp [hadmits]

/-- What a check does to the registry, exactly. -/
theorem registry_checkProxyInternal (expectedGeneration : Option Nat)
    (job : Candidate × Probe) :
    (pc.checkProxyInternal options job.1.proxy expectedGeneration
      job.1.probeOnly job.2).registry =
      (checkSamples options pc expectedGeneration job).foldl
        Registry.record pc.registry := by
  by_cases haccounts : Accounts options pc expectedGeneration job
  · have hall := haccounts
    obtain ⟨hadmits, hprobe, hgeneration⟩ := hall
    rw [hprobe] at hadmits ⊢
    simp only [checkSamples, if_pos haccounts, checkProxyInternal, hadmits,
      Bool.not_true, Bool.not_false, Bool.true_and, Bool.false_eq_true,
      ↓reduceIte]
    cases probeOutcome options pc.currentIP job.1.proxy job.2 with
    | cancelled => rfl
    | succeeded latency => exact registry_setSucceeded hgeneration _ _
    | failed failure =>
        have hvalid : (pc.setFailedStatus options job.1.proxy
            expectedGeneration false
            (pc.listedPublicly (job.1.proxy.effectiveStableID options.digest))
            failure job.2).isGenerationValid expectedGeneration = true := by
          rw [isGenerationValid_of_regime
            (setFailedStatus_frame unwritten_regime ..)]
          exact hgeneration
        simp only [registry_setFailedLatency hvalid,
          registry_setFailedStatus hgeneration, failedSamples]
        by_cases hlisted : pc.listedPublicly
            (job.1.proxy.effectiveStableID options.digest)
        · simp [hlisted]
        · simp [hlisted]
  · rw [registry_of_not_accounts haccounts]
    simp [checkSamples, haccounts]

theorem accounts_of_regime {pc' : ProxyChecker} (h : pc'.regime = pc.regime)
    (expectedGeneration : Option Nat) (job : Candidate × Probe) :
    Accounts options pc' expectedGeneration job ↔
      Accounts options pc expectedGeneration job := by
  simp only [Accounts, admits_of_regime h, isGenerationValid_of_regime h]

/-- The samples of a check depend on the regime and the own address only. -/
theorem checkSamples_congr {pc' : ProxyChecker} (h : pc'.regime = pc.regime)
    (hip : pc'.currentIP = pc.currentIP) (expectedGeneration : Option Nat)
    (job : Candidate × Probe) :
    checkSamples options pc' expectedGeneration job =
      checkSamples options pc expectedGeneration job := by
  have haccounts : Accounts options pc' expectedGeneration job ↔
      Accounts options pc expectedGeneration job :=
    accounts_of_regime h expectedGeneration job
  simp only [checkSamples, failedSamples, listedPublicly_of_regime h, hip,
    if_congr haccounts rfl rfl]

/-- What the checks of a run record, one after another. -/
theorem registry_finish (run : Run) :
    (run.finish options).registry =
      (run.jobs.flatMap
        (checkSamples options run.pc run.expectedGeneration)).foldl
          Registry.record run.pc.registry := by
  refine (foldl_invariant
    (fun done (current : ProxyChecker) =>
      current.regime = run.pc.regime ∧
      current.currentIP = run.pc.currentIP ∧
      current.registry = (done.flatMap
        (checkSamples options run.pc run.expectedGeneration)).foldl
          Registry.record run.pc.registry)
    run.jobs ⟨rfl, rfl, rfl⟩ ?_).2.2
  rintro done job current hjob ⟨hregime, hip, hregistry⟩
  refine ⟨by simpa using hregime, ?_, ?_⟩
  · exact (checkProxyInternal_frame unwritten_currentIP ..).trans hip
  · rw [registry_checkProxyInternal, hregistry,
      checkSamples_congr hregime hip]
    simp

namespace ProxyChecker

theorem samples_record (registry : Registry) (samples : List SeriesSample) :
    (samples.foldl Registry.record registry).samples =
      registry.samples ++ samples := by
  induction samples generalizing registry with
  | nil => simp
  | cons sample rest ih =>
      rw [List.foldl_cons, ih]
      unfold Registry.record
      cases sample.gauge <;> simp

theorem samples_deleteKeys (registry : Registry) (keys : List Text) :
    (keys.foldl Registry.deleteKey registry).samples = registry.samples := by
  induction keys generalizing registry with
  | nil => rfl
  | cons key rest ih =>
      rw [List.foldl_cons, ih]
      unfold Registry.deleteKey
      split <;> rfl

@[simp] theorem samples_clearProxyMonitoringState (stableID : Text) :
    (pc.clearProxyMonitoringState stableID).registry.samples =
      pc.registry.samples :=
  samples_deleteKeys _ _

@[simp] theorem samples_setMaintenanceModeLocked (stableID : Text)
    (enabled : Bool) :
    (pc.setMaintenanceModeLocked stableID enabled).registry.samples =
      pc.registry.samples := by
  unfold setMaintenanceModeLocked
  split
  · rfl
  · simp

@[simp] theorem samples_restoreStatus (restored : Restored)
    (details : ProxyStatusDetails) :
    (pc.restoreStatus options restored details).registry =
      pc.registry := by
  unfold restoreStatus
  split
  · rfl
  · split <;> rfl

/-- A loop of steps none of which records a sample. -/
theorem samples_foldl {α : Type} {update : ProxyChecker → α → ProxyChecker}
    (hupdate : ∀ pc item, (update pc item).registry.samples =
      pc.registry.samples) (items : List α) (pc : ProxyChecker) :
    (items.foldl update pc).registry.samples = pc.registry.samples := by
  induction items generalizing pc with
  | nil => rfl
  | cons item rest ih => rw [List.foldl_cons, ih, hupdate]

end ProxyChecker

/-- Nothing but the runs records samples. -/
theorem samples_step_of_not_check {event : Event}
    (h : ∀ kind around, event ≠ .check kind around) :
    (step options pc event).registry.samples = pc.registry.samples := by
  cases event with
  | check kind around => exact absurd rfl (h kind around)
  | setSourcePolicies policies => rfl
  | setMaintenanceMode stableID enabled =>
      simp only [step, setMaintenanceMode]
      split
      · rfl
      · split
        · rfl
        · simp
  | replaceMaintenanceModes stableIDs =>
      simp only [step, replaceMaintenanceModes]
      rw [samples_foldl (by simp), samples_foldl (by simp)]
  | setProjectMaintenance enabled => rfl
  | clearProjectMonitoringState =>
      simp only [step, clearProjectMonitoringState]
      apply samples_foldl
      intro pc proxy
      split
      · rfl
      · simp
  | updateProxies proxies => exact samples_deleteKeys _ _
  | restoreOfflineStatus restored now =>
      simp [step, restoreOfflineStatus]
  | restoreProxyFailureStatus restored now =>
      simp [step, restoreProxyFailureStatus]
  | refreshHostDiagnostics stableID hostCheck pingCheck now =>
      rcases refreshHostDiagnostics_cases options pc stableID hostCheck
        pingCheck now with hsame | ⟨_, -, -, hstored⟩
      · simp only [step, hsame]
      · simp only [step, hstored, registry_storeStatusDetailsMode]

/-- The samples a run records. -/
def runSamples (options : Options) (pc : ProxyChecker) (kind : RunKind)
    (around : Surroundings) : List SeriesSample :=
  let run := kind.start options pc around
  run.jobs.flatMap (checkSamples options run.pc run.expectedGeneration)

theorem registry_check (kind : RunKind) (around : Surroundings) :
    (step options pc (.check kind around)).registry =
      (runSamples options pc kind around).foldl Registry.record
        pc.registry := by
  have hready : Ready options
      (fun current => current.registry = pc.registry) pc kind
      (kind.start options pc around) := by
    apply ready_start
    · exact ⟨fun _ _ h => h, fun _ _ _ h _ _ _ => by simpa using h⟩
    · rfl
  exact (registry_finish _).trans (by rw [hready.1]; rfl)

/-- The samples an event adds. -/
def newSamples (options : Options) (pc : ProxyChecker) (event : Event) :
    List SeriesSample :=
  (step options pc event).registry.samples.drop pc.registry.samples.length

theorem newSamples_check (kind : RunKind) (around : Surroundings) :
    newSamples options pc (.check kind around) =
      runSamples options pc kind around := by
  rw [newSamples, registry_check, samples_record]
  exact List.drop_left

theorem newSamples_of_not_check {event : Event}
    (h : ∀ kind around, event ≠ .check kind around) :
    newSamples options pc event = [] := by
  rw [newSamples, samples_step_of_not_check h]
  exact List.drop_length

/-- Every sample an event records is of a node that is listed publicly and
accounted. -/
def RecordsOnlyListed (options : Options) (pc : ProxyChecker) (event : Event) :
    Prop :=
  ∀ sample ∈ newSamples options pc event,
    pc.listedPublicly sample.node = true ∧
      pc.availabilityAccounted sample.node = true

instance (event : Event) : Decidable (RecordsOnlyListed options pc event) :=
  inferInstanceAs (Decidable (∀ _ ∈ _, _))

/-- The node of a check is working, as far as the network tells. -/
def Succeeds (options : Options) (pc : ProxyChecker)
    (job : Candidate × Probe) : Prop :=
  ∃ latency,
    probeOutcome options pc.currentIP job.1.proxy job.2 = .succeeded latency

/-- The node of a check is not working, and the run goes on to say so. -/
def Fails (options : Options) (pc : ProxyChecker)
    (job : Candidate × Probe) : Prop :=
  job.2.cancelledAt .atStatus = false ∧ ∃ failure,
    probeOutcome options pc.currentIP job.1.proxy job.2 = .failed failure

/-- No accounted check that succeeds is of a node which is not listed; and no
node of a paused source is handed to `CheckProxy`, unless the check fails and
the node is not listed. -/
def SuccessesListed (options : Options) (pc : ProxyChecker) : Event → Prop
  | .check kind around =>
      let run := kind.start options pc around
      ∀ job ∈ run.jobs, Accounts options pc run.expectedGeneration job →
        let stableID := job.1.proxy.effectiveStableID options.digest
        (Succeeds options run.pc job → pc.listedPublicly stableID = true) ∧
        (∀ proxy, kind = .one proxy →
          Succeeds options run.pc job ∨
            Fails options run.pc job ∧ pc.listedPublicly stableID = true →
          pc.availabilityAccounted stableID = true)
  | _ => True

/-- A later place finds the run cancelled if an earlier one did. -/
theorem cancelledAt_mono {probe : Probe} {place later : Place}
    (hlater : place.rank ≤ later.rank)
    (h : probe.cancelledAt place = true) : probe.cancelledAt later = true := by
  simp only [Probe.cancelledAt, decide_eq_true_eq] at h ⊢
  omega

/-- When a check records anything at all. -/
theorem checkSamples_ne_nil_iff {expectedGeneration : Option Nat}
    {job : Candidate × Probe}
    (haccounts : Accounts options pc expectedGeneration job) :
    checkSamples options pc expectedGeneration job ≠ [] ↔
      Succeeds options pc job ∨
        Fails options pc job ∧
          pc.listedPublicly
            (job.1.proxy.effectiveStableID options.digest) = true := by
  simp only [checkSamples, if_pos haccounts, Succeeds, Fails]
  cases probeOutcome options pc.currentIP job.1.proxy job.2 with
  | cancelled => simp
  | succeeded latency => simp
  | failed failure =>
      by_cases hlisted : pc.listedPublicly
          (job.1.proxy.effectiveStableID options.digest)
      · by_cases hcancelled : job.2.cancelledAt .atStatus
        · have hlater : job.2.cancelledAt .atLatency = true :=
            cancelledAt_mono (by decide) hcancelled
          simp [failedSamples, hlisted, hcancelled, hlater]
        · simp [failedSamples, hlisted, hcancelled]
      · simp [failedSamples, hlisted]

/-- Every sample of a check is of the checked node. -/
theorem node_of_mem_checkSamples {expectedGeneration : Option Nat}
    {job : Candidate × Probe} {sample : SeriesSample}
    (h : sample ∈ checkSamples options pc expectedGeneration job) :
    sample.node = job.1.proxy.effectiveStableID options.digest := by
  unfold checkSamples at h
  split at h
  · split at h
    · cases h
    · unfold failedSamples at h
      split at h
      · rcases List.mem_append.mp h with hstatus | hlatency
        · split at hstatus
          · cases hstatus
          · rw [List.mem_singleton.mp hstatus]
            rfl
        · split at hlatency
          · cases hlatency
          · rw [List.mem_singleton.mp hlatency]
            rfl
      · cases h
    · rcases List.mem_pair.mp h with rfl | rfl
      · rfl
      · rfl
  · cases h

/-- A check that accounts is of an accounted node, unless it was handed to
`CheckProxy`. -/
theorem accounted_of_isJob {kind : RunKind} {candidate : Candidate}
    (hjob : IsJob options pc kind candidate)
    (hprobe : candidate.probeOnly = false) :
    pc.availabilityAccounted
        (candidate.proxy.effectiveStableID options.digest) = true ∨
      ∃ proxy, kind = .one proxy := by
  cases hjob with
  | tracked proxy hproxy hkind =>
      left
      rw [effectiveStableID_candidate]
      simpa [candidate] using hprobe
  | one proxy => exact Or.inr ⟨proxy, rfl⟩

/-- One check, made while the regime of `pc` is in force. -/
theorem checkSamples_listed_iff {current : ProxyChecker} {kind : RunKind}
    {job : Candidate × Probe} (hregime : current.regime = pc.regime)
    (hjob : IsJob options pc kind job.1) (expectedGeneration : Option Nat) :
    (∀ sample ∈ checkSamples options current expectedGeneration job,
      pc.listedPublicly sample.node = true ∧
        pc.availabilityAccounted sample.node = true) ↔
    (Accounts options pc expectedGeneration job →
      (Succeeds options current job → pc.listedPublicly
        (job.1.proxy.effectiveStableID options.digest) = true) ∧
      (∀ proxy, kind = .one proxy →
        Succeeds options current job ∨
          Fails options current job ∧ pc.listedPublicly
            (job.1.proxy.effectiveStableID options.digest) = true →
        pc.availabilityAccounted
          (job.1.proxy.effectiveStableID options.digest) = true)) := by
  by_cases haccounts : Accounts options pc expectedGeneration job
  · have hcurrent := (accounts_of_regime hregime _ _).mpr haccounts
    have hrecords := checkSamples_ne_nil_iff hcurrent
    rw [listedPublicly_of_regime hregime] at hrecords
    have hnodes : (∀ sample ∈ checkSamples options current expectedGeneration
        job, pc.listedPublicly sample.node = true ∧
          pc.availabilityAccounted sample.node = true) ↔
        (checkSamples options current expectedGeneration job ≠ [] →
          pc.listedPublicly
            (job.1.proxy.effectiveStableID options.digest) = true ∧
          pc.availabilityAccounted
            (job.1.proxy.effectiveStableID options.digest) = true) := by
      constructor
      · intro hall hne
        obtain ⟨sample, hsample⟩ := List.exists_mem_of_ne_nil _ hne
        rw [← node_of_mem_checkSamples hsample]
        exact hall sample hsample
      · intro hall sample hsample
        rw [node_of_mem_checkSamples hsample]
        exact hall (List.ne_nil_of_mem hsample)
    rw [hnodes, hrecords]
    have hmode := accounted_of_isJob hjob haccounts.2.1
    constructor
    · intro hall _
      refine ⟨fun hsucceeds => (hall (Or.inl hsucceeds)).1, ?_⟩
      intro proxy _ hrecorded
      exact (hall hrecorded).2
    · intro hall hrecorded
      obtain ⟨hlisted, hhanded⟩ := hall haccounts
      constructor
      · rcases hrecorded with hsucceeds | hfails
        · exact hlisted hsucceeds
        · exact hfails.2
      · rcases hmode with haccounted | ⟨proxy, hkind⟩
        · exact haccounted
        · exact hhanded proxy hkind hrecorded
  · have hcurrent : ¬Accounts options current expectedGeneration job :=
      fun h => haccounts ((accounts_of_regime hregime _ _).mp h)
    simp [checkSamples, hcurrent, haccounts]

/-- One event records samples of listed and accounted nodes only, exactly when
its successful checks are of listed nodes. -/
theorem recordsOnlyListed_iff (pc : ProxyChecker) (event : Event) :
    RecordsOnlyListed options pc event ↔ SuccessesListed options pc event := by
  by_cases hcheck : ∃ kind around, event = .check kind around
  · obtain ⟨kind, around, rfl⟩ := hcheck
    have hready : Ready options (fun _ => True) pc kind
        (kind.start options pc around) :=
      ready_start ⟨fun _ _ _ => trivial, fun _ _ _ _ _ _ _ => trivial⟩ trivial
    obtain ⟨-, hregime, hjobs⟩ := hready
    simp only [RecordsOnlyListed, newSamples_check, runSamples,
      List.mem_flatMap, SuccessesListed]
    constructor
    · intro hall job hjob
      apply (checkSamples_listed_iff hregime (hjobs job hjob) _).mp
      exact fun sample hsample => hall sample ⟨job, hjob, hsample⟩
    · rintro hall sample ⟨job, hjob, hsample⟩
      exact (checkSamples_listed_iff hregime (hjobs job hjob) _).mpr
        (hall job hjob) sample hsample
  · have hnone : newSamples options pc event = [] :=
      newSamples_of_not_check fun kind around heq => hcheck ⟨kind, around, heq⟩
    have hallowed : SuccessesListed options pc event := by
      cases event with
      | check kind around => exact absurd ⟨kind, around, rfl⟩ hcheck
      | _ => trivial
    simp [RecordsOnlyListed, hnone, hallowed]

/-- Prometheus over a whole run of the checker: every sample is of a node that
is listed publicly and accounted, if and only if every accounted check that
succeeds is of a listed node. -/
theorem exports_only_listed_iff (start : ProxyChecker) (events : List Event) :
    (∀ taken ∈ Machine.steps (step options) start events,
      RecordsOnlyListed options taken.1 taken.2) ↔
    ∀ taken ∈ Machine.steps (step options) start events,
      SuccessesListed options taken.1 taken.2 :=
  forall₂_congr fun taken _ => recordsOnlyListed_iff taken.1 taken.2

namespace Sample

/-- A deployment that checks by `method`. -/
def optionsFor (method : Text) : Options where
  digest _ := "0123456789abcdef"
  startPort := 10000
  checkMethod := method
  downloadURL := []
  downloadMinSize := 0

/-- A node of a source. -/
def node (sourceID stableID : Text) : ProxyConfig :=
  { protocol := "vless", server := "nl.example.com", port := 443
    name := "Netherlands", subName := "main", stableID := stableID
    sourceID := sourceID }

/-- A checker whose only node comes from a source kept off the public lists. -/
def unlisted : ProxyChecker :=
  (new (optionsFor "status") [node "s1" "nl-1"]).setSourcePolicies
    ((∅ : GoMap Text Policy).insert "s1" ⟨true, true, false⟩)

/-- The full check of a node that works. -/
def workingRound : Event :=
  .check .all
    { probed := [0]
      probes := fun _ => { answer := .response { ttfb := 40 } } }

/-- The same check of a node that fails. -/
def failingRound : Event :=
  .check .all
    { probed := [0]
      probes := fun _ => { answer := .response { statusCode := 502 } } }

/-- The unlisted node appears in Prometheus once a check of it succeeds; a
check that fails keeps it out. -/
theorem unlisted_success_exported :
    ¬RecordsOnlyListed (optionsFor "status") unlisted workingRound ∧
      RecordsOnlyListed (optionsFor "status") unlisted failingRound := by
  decide

end Sample

end XrayChecker.Checker

import XrayChecker.Checker.Series

/-
The two readers of a node's status.  One serves the cache of verdicts, the
other the status details; an accounted check writes both, a probe of a paused
source only the details.
-/

namespace XrayChecker.Checker

open Go ProxyChecker

variable {options : Options} {pc : ProxyChecker}

/-- The verdict a check stores in the status details, if it gets that far. -/
def storedVerdict (options : Options) (pc : ProxyChecker)
    (expectedGeneration : Option Nat) (job : Candidate × Probe) :
    Option Bool :=
  if pc.admits options job.1.proxy job.1.probeOnly job.2 = true ∧
      pc.isGenerationValid expectedGeneration = true ∧
      job.1.proxy.effectiveStableID options.digest ≠ [] then
    (probeOutcome options pc.currentIP job.1.proxy job.2).verdict job.2
  else none

/-- The online flag the details of a node hold. -/
def onlineFlag (pc : ProxyChecker) (stableID : Text) : Option Bool :=
  (pc.statusDetails[stableID]?).map (·.online)

@[simp] theorem onlineFlag_storeStatusDetailsMode (stableID other : Text)
    (report : StatusReport) (allowMaintenance : Bool) (now : Time) :
    onlineFlag (pc.storeStatusDetailsMode stableID report allowMaintenance now)
        other =
      if stableID = other ∧ pc.storable stableID allowMaintenance = true then
        some report.online
      else onlineFlag pc other := by
  unfold storeStatusDetailsMode onlineFlag
  by_cases hstorable : pc.storable stableID allowMaintenance = true
  · simp only [hstorable, ↓reduceIte, and_true, GoMap.get_insert]
    by_cases hid : stableID = other
    · simp [hid]
    · simp [hid]
  · simp [hstorable]

/-- Diagnostics never turn a failing status into a working one, or back. -/
@[simp] theorem onlineFlag_storeOfflineDiagnostics (stableID other : Text)
    (hostCheck : HostCheckDetails) (pingCheck : PingCheckDetails)
    (clock : DiagnosticReadings) :
    onlineFlag (pc.storeOfflineDiagnostics stableID hostCheck pingCheck clock)
        other = onlineFlag pc other := by
  unfold storeOfflineDiagnostics
  split
  · rfl
  · rename_i current hcurrent
    split
    · rfl
    · unfold onlineFlag
      rw [GoMap.get_insert]
      by_cases hid : stableID = other
      · subst hid
        simp [hcurrent, diagnosedDetails]
      · simp [hid]

theorem storable_of_admits {proxy : ProxyConfig} {allowMaintenance : Bool}
    {probe : Probe}
    (h : pc.admits options proxy allowMaintenance probe = true)
    (hid : proxy.effectiveStableID options.digest ≠ []) :
    pc.storable (proxy.effectiveStableID options.digest) allowMaintenance =
      true := by
  simp only [admits, Bool.and_eq_true] at h
  simp only [storable, Bool.and_eq_true, decide_eq_true_eq]
  exact ⟨hid, h.1⟩

theorem not_storable_of_empty (allowMaintenance : Bool) :
    pc.storable [] allowMaintenance = false := by
  simp [storable]

/-- A reading that only looks at the status details. -/
theorem onlineFlag_congr {pc' : ProxyChecker}
    (h : pc'.statusDetails = pc.statusDetails) (stableID : Text) :
    onlineFlag pc' stableID = onlineFlag pc stableID := by
  simp only [onlineFlag, h]

theorem onlineFlag_setFailedStatus {proxy : ProxyConfig}
    {allowMaintenance : Bool} {probe : Probe}
    (hadmits : pc.admits options proxy allowMaintenance probe = true)
    (expectedGeneration : Option Nat) (exportMetrics : Bool)
    (failure : FailureDetails) (other : Text) :
    onlineFlag (pc.setFailedStatus options proxy expectedGeneration
      allowMaintenance exportMetrics failure probe) other =
      if proxy.effectiveStableID options.digest = other ∧
          probe.cancelledAt .atStatus = false ∧
          pc.isGenerationValid expectedGeneration = true ∧
          proxy.effectiveStableID options.digest ≠ [] then some false
      else onlineFlag pc other := by
  by_cases hstop : (probe.cancelledAt .atStatus ||
      !pc.isGenerationValid expectedGeneration) = true
  · have hstop' : ¬(probe.cancelledAt .atStatus = false ∧
        pc.isGenerationValid expectedGeneration = true) := by
      simpa [Classical.or_iff_not_imp_left] using hstop
    rw [setFailedStatus, if_pos hstop, if_neg (by tauto)]
  · have hgo : probe.cancelledAt .atStatus = false ∧
        pc.isGenerationValid expectedGeneration = true := by
      simpa using hstop
    have hsame := statusDetails_recordFailedStatus options pc proxy
      allowMaintenance exportMetrics
    have hregime : (pc.recordFailedStatus options proxy allowMaintenance
        exportMetrics).regime = pc.regime :=
      recordFailedStatus_frame unwritten_regime proxy allowMaintenance
        exportMetrics
    simp only [setFailedStatus, if_neg hstop,
      markUnavailableAndCollectDiagnostics, storable_of_regime hregime]
    by_cases hid : proxy.effectiveStableID options.digest = []
    · simp [hid, not_storable_of_empty, onlineFlag_congr hsame]
    · simp [storable_of_admits hadmits hid, storable_of_regime hregime,
        onlineFlag_congr hsame, hgo, hid]

theorem onlineFlag_setSucceeded {proxy : ProxyConfig}
    {allowMaintenance : Bool} {probe : Probe}
    (hadmits : pc.admits options proxy allowMaintenance probe = true)
    (expectedGeneration : Option Nat) (latency : Int) (now : Time)
    (other : Text) :
    onlineFlag (pc.setSucceeded options proxy expectedGeneration
      allowMaintenance latency now) other =
      if proxy.effectiveStableID options.digest = other ∧
          pc.isGenerationValid expectedGeneration = true ∧
          proxy.effectiveStableID options.digest ≠ [] then some true
      else onlineFlag pc other := by
  have hwritten : ∀ current : ProxyChecker, current.regime = pc.regime →
      current.statusDetails = pc.statusDetails →
      onlineFlag (current.storeStatusDetailsMode
        (proxy.effectiveStableID options.digest)
        { online := true, latency := latency } allowMaintenance now) other =
        if proxy.effectiveStableID options.digest = other ∧
            proxy.effectiveStableID options.digest ≠ [] then some true
        else onlineFlag pc other := by
    intro current hregime hsame
    rw [onlineFlag_storeStatusDetailsMode, storable_of_regime hregime,
      onlineFlag_congr hsame]
    by_cases hid : proxy.effectiveStableID options.digest = []
    · simp [hid, not_storable_of_empty]
    · simp [hid, storable_of_admits hadmits hid]
  unfold setSucceeded
  cases hvalid : pc.isGenerationValid expectedGeneration
  · simp
  · simp only [Bool.not_true, Bool.false_eq_true, ↓reduceIte, true_and]
    cases allowMaintenance
    · exact hwritten _ rfl rfl
    · exact hwritten _ rfl rfl

/-- What a check does to the online flags, exactly. -/
theorem onlineFlag_checkProxyInternal (expectedGeneration : Option Nat)
    (job : Candidate × Probe) (other : Text) :
    onlineFlag (pc.checkProxyInternal options job.1.proxy expectedGeneration
      job.1.probeOnly job.2) other =
      if job.1.proxy.effectiveStableID options.digest = other then
        (storedVerdict options pc expectedGeneration job).or
          (onlineFlag pc other)
      else onlineFlag pc other := by
  unfold checkProxyInternal storedVerdict
  by_cases hadmits : pc.admits options job.1.proxy job.1.probeOnly job.2 = true
  · simp only [hadmits, Bool.not_true, Bool.false_eq_true, ↓reduceIte,
      Outcome.verdict, true_and]
    cases probeOutcome options pc.currentIP job.1.proxy job.2 with
    | cancelled => simp
    | failed failure =>
        simp only [onlineFlag_congr (statusDetails_setFailedLatency ..),
          onlineFlag_setFailedStatus hadmits]
        by_cases hid : job.1.proxy.effectiveStableID options.digest = other
        · cases pc.isGenerationValid expectedGeneration <;>
            cases job.2.cancelledAt .atStatus <;> simp [hid]
          split <;> simp
        · simp [hid]
    | succeeded latency =>
        simp only [onlineFlag_setSucceeded hadmits]
        by_cases hid : job.1.proxy.effectiveStableID options.digest = other
        · cases pc.isGenerationValid expectedGeneration <;> simp [hid]
          split <;> simp
        · simp [hid]
  · simp [hadmits]

/-- Node lists as the subscription code hands them over: no two nodes share an
identity, and identities are trimmed and free of the metric separator. -/
structure WellIdentified (options : Options) (proxies : List ProxyConfig) :
    Prop where
  distinct : ∀ p ∈ proxies, ∀ q ∈ proxies,
    p.effectiveStableID options.digest = q.effectiveStableID options.digest →
    p = q
  trimmed : ∀ p ∈ proxies,
    trimSpace (p.effectiveStableID options.digest) =
      p.effectiveStableID options.digest
  separable : ∀ p ∈ proxies, '|' ∉ p.effectiveStableID options.digest

/-- The cache says nothing about a monitored node, or what its details say. -/
def CacheAgrees (options : Options) (pc : ProxyChecker) (proxy : ProxyConfig) :
    Prop :=
  pc.monitoringEnabled (proxy.effectiveStableID options.digest) = true →
  ∀ online, pc.currentMetrics[metricKey options proxy]? = some online →
    onlineFlag pc (proxy.effectiveStableID options.digest) = some online

structure Consistent (options : Options) (pc : ProxyChecker) : Prop where
  ids : WellIdentified options pc.proxies
  cache : ∀ proxy ∈ pc.proxies, CacheAgrees options pc proxy

theorem ne_nil_of_monitoringEnabled {stableID : Text}
    (h : pc.monitoringEnabled stableID = true) : stableID ≠ [] := by
  rintro rfl
  revert h
  simp [monitoringEnabled, show trimSpace [] = [] from rfl]

/-- An identity without a separator is the end of its key. -/
theorem seriesKey_inj {labels labels' : List Text} {stableID stableID' : Text}
    (hne : labels ≠ []) (hne' : labels' ≠ []) (hclean : '|' ∉ stableID)
    (hclean' : '|' ∉ stableID')
    (h : seriesKey labels stableID = seriesKey labels' stableID') :
    stableID = stableID' := by
  obtain ⟨front, hfront⟩ := hasSuffix_iff.mp (hasSuffix_seriesKey hne stableID)
  obtain ⟨front', hfront'⟩ :=
    hasSuffix_iff.mp (hasSuffix_seriesKey hne' stableID')
  rw [hfront, hfront', List.append_eq_append_iff] at h
  rcases h with ⟨middle, -, h⟩ | ⟨middle, -, h⟩
  · cases middle with
    | nil => simpa using h
    | cons c rest =>
        have hmem : stableID = rest ++ '|' :: stableID' := by
          simpa using (List.cons.inj h).2
        exact absurd (by rw [hmem]; simp) hclean
  · cases middle with
    | nil => simpa using h.symm
    | cons c rest =>
        have hmem : stableID' = rest ++ '|' :: stableID := by
          simpa using (List.cons.inj h).2
        exact absurd (by rw [hmem]; simp) hclean'

theorem metricKey_ne {proxies : List ProxyConfig}
    (hids : WellIdentified options proxies) {p q : ProxyConfig}
    (hp : p ∈ proxies) (hq : q ∈ proxies)
    (hne : p.effectiveStableID options.digest ≠
      q.effectiveStableID options.digest) :
    metricKey options p ≠ metricKey options q := fun h =>
  hne (seriesKey_inj (List.cons_ne_nil _ _) (List.cons_ne_nil _ _)
    (hids.separable p hp) (hids.separable q hq) h)

theorem cachedVerdict_eq_none {expectedGeneration : Option Nat}
    {job : Candidate × Probe} (h : job.1.probeOnly = true) :
    cachedVerdict options pc expectedGeneration job = none := by
  simp [cachedVerdict, Accounts, h]

theorem cachedVerdict_eq_storedVerdict {expectedGeneration : Option Nat}
    {job : Candidate × Probe} (h : job.1.probeOnly = false)
    (hid : job.1.proxy.effectiveStableID options.digest ≠ []) :
    cachedVerdict options pc expectedGeneration job =
      storedVerdict options pc expectedGeneration job := by
  have hiff : Accounts options pc expectedGeneration job ↔
      pc.admits options job.1.proxy job.1.probeOnly job.2 = true ∧
        pc.isGenerationValid expectedGeneration = true ∧
        job.1.proxy.effectiveStableID options.digest ≠ [] := by
    simp [Accounts, h, hid]
  by_cases haccounts : Accounts options pc expectedGeneration job
  · rw [cachedVerdict, storedVerdict, if_pos haccounts,
      if_pos (hiff.mp haccounts)]
  · rw [cachedVerdict, storedVerdict, if_neg haccounts,
      if_neg fun hall => haccounts (hiff.mpr hall)]

/-- One check keeps the cache of every node in agreement, unless it is a probe
only and contradicts what the cache holds for its own node. -/
theorem cacheAgrees_check (hids : WellIdentified options pc.proxies)
    {p q : ProxyConfig} (hp : p ∈ pc.proxies) (hq : q ∈ pc.proxies)
    (hagrees : CacheAgrees options pc p) (expectedGeneration : Option Nat)
    {job : Candidate × Probe}
    (hkey : metricKey options job.1.proxy = metricKey options q)
    (hid : job.1.proxy.effectiveStableID options.digest =
      q.effectiveStableID options.digest)
    (hprobe : q = p → job.1.probeOnly = true →
      pc.monitoringEnabled (p.effectiveStableID options.digest) = true →
      ∀ cached, pc.currentMetrics[metricKey options p]? = some cached →
        storedVerdict options pc expectedGeneration job ≠ some (!cached)) :
    CacheAgrees options
      (pc.checkProxyInternal options job.1.proxy expectedGeneration
        job.1.probeOnly job.2) p := by
  intro hmonitored online hcached
  rw [monitoringEnabled_of_regime (regime_checkProxyInternal ..)] at hmonitored
  rw [onlineFlag_checkProxyInternal, hid]
  rw [currentMetrics_checkProxyInternal, hkey] at hcached
  by_cases hsame : q.effectiveStableID options.digest =
      p.effectiveStableID options.digest
  · obtain rfl := hids.distinct q hq p hp hsame
    have hne := ne_nil_of_monitoringEnabled hmonitored
    simp only [↓reduceIte]
    by_cases hmode : job.1.probeOnly = true
    · rw [cachedVerdict_eq_none hmode] at hcached
      have hallowed := hprobe rfl hmode hmonitored online hcached
      cases hverdict : storedVerdict options pc expectedGeneration job with
      | none => simpa using hagrees hmonitored online hcached
      | some verdict =>
          rw [hverdict] at hallowed
          cases verdict <;> cases online <;> simp_all
    · rw [cachedVerdict_eq_storedVerdict (by simpa using hmode)
        (by rw [hid]; exact hne)] at hcached
      cases hverdict : storedVerdict options pc expectedGeneration job with
      | none =>
          rw [hverdict] at hcached
          simpa using hagrees hmonitored online hcached
      | some verdict =>
          simp only [hverdict, GoMap.get_insert, ↓reduceIte] at hcached
          simpa using hcached
  · simp only [hsame, ↓reduceIte]
    have hkeys := metricKey_ne hids hq hp hsame
    apply hagrees hmonitored online
    revert hcached
    cases cachedVerdict options pc expectedGeneration job with
    | none => exact id
    | some verdict =>
        simp only [GoMap.get_insert, hkeys, ↓reduceIte]
        exact id

/-- A run that `CheckProxy` starts is about a tracked node. -/
def RunKind.Tracked (pc : ProxyChecker) : RunKind → Prop
  | .one proxy => proxy ∈ pc.proxies
  | _ => True

/-- A probe of a node outside maintenance whose source is paused does not
contradict the verdict the cache still holds; `CheckProxy` is handed tracked
nodes; and lists of nodes are well identified. -/
def ReadersKept (options : Options) (pc : ProxyChecker) : Event → Prop
  | .check kind around =>
      let run := kind.start options pc around
      kind.Tracked pc ∧
      ∀ job ∈ run.jobs, job.1.probeOnly = true →
        pc.monitoringEnabled
          (job.1.proxy.effectiveStableID options.digest) = true →
        ∀ cached,
          pc.currentMetrics[metricKey options job.1.proxy]? = some cached →
          storedVerdict options run.pc run.expectedGeneration job ≠
            some (!cached)
  | .updateProxies proxies => WellIdentified options proxies
  | _ => True

theorem storedVerdict_congr {pc' : ProxyChecker} (h : pc'.regime = pc.regime)
    (hip : pc'.currentIP = pc.currentIP) (expectedGeneration : Option Nat)
    (job : Candidate × Probe) :
    storedVerdict options pc' expectedGeneration job =
      storedVerdict options pc expectedGeneration job := by
  simp only [storedVerdict, admits_of_regime h, isGenerationValid_of_regime h,
    hip]

/-- Every job of a run is about a tracked node; a probe of a source in force
is accounted. -/
theorem tracked_of_isJob {kind : RunKind} {candidate : Candidate}
    (hjob : IsJob options pc kind candidate)
    (hone : kind.Tracked pc) :
    ∃ q ∈ pc.proxies,
      metricKey options candidate.proxy = metricKey options q ∧
      candidate.proxy.effectiveStableID options.digest =
        q.effectiveStableID options.digest := by
  cases hjob with
  | tracked q hq hkind =>
      refine ⟨q, hq, ?_, effectiveStableID_candidate q⟩
      unfold metricKey
      rw [effectiveStableID_candidate]
      rfl
  | one q => exact ⟨q, hone, rfl, rfl⟩

/-- A candidate that was failing is a node whose details say so. -/
theorem online_of_wasUnavailable {proxy : ProxyConfig} {online : Bool}
    (hwas : (pc.candidate options proxy).wasUnavailable = true)
    (hflag : onlineFlag pc (proxy.effectiveStableID options.digest) =
      some online) : online = false := by
  obtain ⟨details, hdetails, rfl⟩ := Option.map_eq_some_iff.mp hflag
  simp only [candidate, statusDetailsByStableID] at hwas
  by_cases hid : proxy.effectiveStableID options.digest = []
  · simp [hid] at hwas
  · simpa [hid, hdetails] using hwas

/-- Before its checks, a run only diagnoses nodes that were failing, so the
cache stays in agreement. -/
theorem ready_consistent (h : Consistent options pc) (kind : RunKind)
    (around : Surroundings) :
    Ready options
      (fun current => current.currentMetrics = pc.currentMetrics ∧
        (current.regime = pc.regime →
          ∀ p ∈ pc.proxies, CacheAgrees options current p))
      pc kind (kind.start options pc around) := by
  apply ready_start
  · constructor
    · rintro current ip ⟨hmetrics, hagrees⟩
      exact ⟨hmetrics, fun hregime => hagrees hregime⟩
    · rintro current q diagnosis ⟨hmetrics, hagrees⟩ hregime hq hwas
      refine ⟨by simpa using hmetrics, fun _ p hp => ?_⟩
      intro hmonitored online hcached
      rw [currentMetrics_storeStatusDetailsMode, hmetrics] at hcached
      rw [monitoringEnabled_of_regime
        (regime_storeStatusDetailsMode ..)] at hmonitored
      rw [onlineFlag_storeStatusDetailsMode]
      split
      · rename_i hstored
        obtain rfl := h.ids.distinct q hq p hp hstored.1
        rw [monitoringEnabled_of_regime hregime] at hmonitored
        have hflag := h.cache q hq hmonitored online hcached
        rw [← online_of_wasUnavailable hwas hflag]
      · rw [← hmetrics] at hcached
        exact hagrees hregime p hp hmonitored online hcached
  · exact ⟨rfl, fun _ => h.cache⟩

/-- The jobs of a run about one node have one mode. -/
theorem probeOnly_eq_of_isJob {kind : RunKind} {candidate other : Candidate}
    (hjob : IsJob options pc kind candidate)
    (hother : IsJob options pc kind other)
    (hid : candidate.proxy.effectiveStableID options.digest =
      other.proxy.effectiveStableID options.digest) :
    candidate.probeOnly = other.probeOnly := by
  cases hjob with
  | tracked p hp hkind =>
      cases hother with
      | tracked q hq _ =>
          rw [effectiveStableID_candidate, effectiveStableID_candidate] at hid
          simp only [ProxyChecker.candidate, hid]
      | one q => exact absurd rfl (hkind q)
  | one p =>
      cases hother with
      | tracked q hq hkind => exact absurd rfl (hkind p)
      | one _ => rfl

/-- The checks of a run keep the cache in agreement. -/
theorem cacheAgrees_finish (h : Consistent options pc) {kind : RunKind}
    {around : Surroundings}
    (hkept : ReadersKept options pc (.check kind around)) :
    (step options pc (.check kind around)).regime = pc.regime ∧
      ∀ p ∈ pc.proxies,
        CacheAgrees options (step options pc (.check kind around)) p := by
  obtain ⟨hone, hprobes⟩ := hkept
  obtain ⟨⟨hmetrics, hagrees⟩, hregime, hjobs⟩ :=
    ready_consistent h kind around
  change ((kind.start options pc around).finish options).regime = pc.regime ∧
    ∀ p ∈ pc.proxies,
      CacheAgrees options ((kind.start options pc around).finish options) p
  generalize kind.start options pc around = run at *
  have hfold : (run.finish options).regime = pc.regime ∧
      (∀ p ∈ pc.proxies, CacheAgrees options (run.finish options) p) ∧
      (run.finish options).currentIP = run.pc.currentIP ∧
      ∀ job ∈ run.jobs, job.1.probeOnly = true →
        (run.finish options).currentMetrics[metricKey options job.1.proxy]? =
          pc.currentMetrics[metricKey options job.1.proxy]? := by
    refine foldl_invariant
      (fun _ (current : ProxyChecker) => current.regime = pc.regime ∧
        (∀ p ∈ pc.proxies, CacheAgrees options current p) ∧
        current.currentIP = run.pc.currentIP ∧
        ∀ job ∈ run.jobs, job.1.probeOnly = true →
          current.currentMetrics[metricKey options job.1.proxy]? =
            pc.currentMetrics[metricKey options job.1.proxy]?)
      run.jobs ⟨hregime, hagrees hregime, rfl, fun _ _ _ => by rw [hmetrics]⟩ ?_
    rintro _ job current hjob ⟨hcurrent, hcache, hip, hcached⟩
    have hproxies := proxies_of_regime hcurrent
    obtain ⟨q, hq, hkey, hid⟩ := tracked_of_isJob (hjobs job hjob) hone
    refine ⟨by simpa using hcurrent, ?_,
      (checkProxyInternal_frame unwritten_currentIP ..).trans hip, ?_⟩
    · intro p hp
      refine cacheAgrees_check (by rw [hproxies]; exact h.ids)
        (by rw [hproxies]; exact hp) (by rw [hproxies]; exact hq)
        (hcache p hp) _ hkey hid ?_
      rintro rfl hmode hmonitored cached hheld
      rw [monitoringEnabled_of_regime hcurrent] at hmonitored
      rw [← hkey, hcached job hjob hmode] at hheld
      rw [storedVerdict_congr (hcurrent.trans hregime.symm) hip]
      exact hprobes job hjob hmode (by rw [hid]; exact hmonitored) cached hheld
    · intro other hother hmode
      rw [currentMetrics_checkProxyInternal]
      cases hverdict : cachedVerdict options current run.expectedGeneration job
        with
      | none => exact hcached other hother hmode
      | some online =>
          obtain ⟨p, hp, hkey', hid'⟩ :=
            tracked_of_isJob (hjobs other hother) hone
          have hne : metricKey options job.1.proxy ≠
              metricKey options other.1.proxy := by
            intro hsame
            rw [hkey, hkey'] at hsame
            have hids : job.1.proxy.effectiveStableID options.digest =
                other.1.proxy.effectiveStableID options.digest := by
              rw [hid, hid']
              by_contra hdiff
              exact metricKey_ne h.ids hq hp hdiff hsame
            rw [← probeOnly_eq_of_isJob (hjobs job hjob) (hjobs other hother)
              hids] at hmode
            rw [cachedVerdict_eq_none hmode] at hverdict
            cases hverdict
          simp only [GoMap.get_insert, hne, ↓reduceIte]
          exact hcached other hother hmode
  exact ⟨hfold.1, hfold.2.1⟩

theorem consistent_check (h : Consistent options pc) {kind : RunKind}
    {around : Surroundings}
    (hkept : ReadersKept options pc (.check kind around)) :
    Consistent options (step options pc (.check kind around)) := by
  obtain ⟨hregime, hcache⟩ := cacheAgrees_finish h hkept
  have hproxies := proxies_of_regime hregime
  constructor
  · rw [hproxies]
    exact h.ids
  · rw [hproxies]
    exact hcache

/-- Clearing a node takes its cache entry along, and leaves the other nodes
alone. -/
theorem cacheAgrees_clear {stableID : Text} {q : ProxyConfig}
    (h : q.effectiveStableID options.digest ≠ stableID →
      CacheAgrees options pc q) :
    CacheAgrees options (pc.clearProxyMonitoringState stableID) q := by
  intro hmonitored online hcached
  simp only [clearProxyMonitoringState, Std.ExtTreeMap.getElem?_filter',
    Option.filter_eq_some_iff] at hcached
  obtain ⟨hheld, hleft⟩ := hcached
  have hne : q.effectiveStableID options.digest ≠ stableID := by
    rintro rfl
    simp [metricKey, hasSuffix_seriesKey, seriesLabels] at hleft
  have hflag := h hne hmonitored online hheld
  simp only [onlineFlag, clearProxyMonitoringState] at hflag ⊢
  rw [GoMap.get_erase, if_neg hne.symm]
  exact hflag

theorem consistent_clearProxyMonitoringState (h : Consistent options pc)
    (stableID : Text) :
    Consistent options (pc.clearProxyMonitoringState stableID) :=
  ⟨h.ids, fun q hq => cacheAgrees_clear fun _ => h.cache q hq⟩

/-- Switching the maintenance of one identity only matters to its node. -/
theorem monitoringEnabled_switch {stableID other : Text} {enabled : Bool}
    (hother : trimSpace other ≠ stableID) :
    ({ pc with
        maintenance :=
          if enabled then pc.maintenance.insert stableID ()
          else pc.maintenance.erase stableID } :
      ProxyChecker).monitoringEnabled other = pc.monitoringEnabled other := by
  have hcompare : (compare stableID (trimSpace other) == .eq) = false := by
    rw [beq_eq_false_iff_ne]
    exact fun h => hother (Std.compare_eq_iff_eq.mp h).symm
  cases enabled
  · simp [monitoringEnabled, Std.ExtTreeMap.contains_erase, bne, hcompare]
  · simp [monitoringEnabled, Std.ExtTreeMap.contains_insert, hcompare]

theorem consistent_setMaintenanceModeLocked (h : Consistent options pc)
    (stableID : Text) (enabled : Bool) :
    Consistent options (pc.setMaintenanceModeLocked stableID enabled) := by
  simp only [setMaintenanceModeLocked]
  split
  · exact h
  · refine ⟨h.ids, fun q hq => cacheAgrees_clear fun hne => ?_⟩
    intro hmonitored online hcached
    have hother : trimSpace (q.effectiveStableID options.digest) ≠
      stableID := by
      rw [h.ids.trimmed q hq]
      exact hne
    rw [monitoringEnabled_switch hother] at hmonitored
    exact h.cache q hq hmonitored online hcached

theorem consistent_foldl {α : Type} {update : ProxyChecker → α → ProxyChecker}
    (hupdate : ∀ pc item, Consistent options pc →
      Consistent options (update pc item))
    (items : List α) {pc : ProxyChecker} (h : Consistent options pc) :
    Consistent options (items.foldl update pc) := by
  induction items generalizing pc with
  | nil => exact h
  | cons item rest ih => exact ih (hupdate pc item h)

theorem consistent_restoreStatus (h : Consistent options pc)
    (restored : Restored) {details : ProxyStatusDetails}
    (hdetails : details.online = false) :
    Consistent options (pc.restoreStatus options restored details) := by
  unfold restoreStatus
  split
  · exact h
  · split
    · exact h
    · rename_i proxy hfound
      have hproxy := List.mem_of_find?_eq_some hfound
      have hid : proxy.effectiveStableID options.digest =
        restored.stableID := by
        simpa using List.find?_some hfound
      refine ⟨h.ids, fun q hq hmonitored online hcached => ?_⟩
      simp only [onlineFlag, GoMap.get_insert] at hcached ⊢
      by_cases hsame : restored.stableID = q.effectiveStableID options.digest
      · obtain rfl := h.ids.distinct proxy hproxy q hq (hid.trans hsame)
        simp only [↓reduceIte, Option.some.injEq] at hcached
        simp [hsame, hdetails, ← hcached]
      · have hkeys : metricKey options proxy ≠ metricKey options q :=
          metricKey_ne h.ids hproxy hq (by rw [hid]; exact hsame)
        simp only [hkeys, ↓reduceIte] at hcached
        simp only [hsame, ↓reduceIte]
        exact h.cache q hq hmonitored online hcached

theorem consistent_refresh (h : Consistent options pc) (stableID : Text)
    (hostCheck : HostCheckDetails) (pingCheck : PingCheckDetails)
    (now : Time) :
    Consistent options (pc.refreshHostDiagnosticsByStableID options stableID
      hostCheck pingCheck now).1 := by
  rcases refreshHostDiagnostics_cases options pc stableID hostCheck pingCheck
    now with hsame | ⟨current, hcurrent, honline, hstored⟩
  · rw [hsame]
    exact h
  · rw [hstored]
    have hregime : (pc.storeStatusDetailsMode stableID
        { online := false, hostCheck := some hostCheck
          pingCheck := some pingCheck } false now).regime = pc.regime :=
      regime_storeStatusDetailsMode ..
    have hproxies := proxies_of_regime hregime
    refine ⟨by rw [hproxies]; exact h.ids, fun q hq => ?_⟩
    rw [hproxies] at hq
    intro hmonitored online hcached
    rw [monitoringEnabled_of_regime
      (regime_storeStatusDetailsMode ..)] at hmonitored
    rw [currentMetrics_storeStatusDetailsMode] at hcached
    have hflag := h.cache q hq hmonitored online hcached
    rw [onlineFlag_storeStatusDetailsMode]
    split
    · rename_i hsame
      rw [← hsame.1, onlineFlag, hcurrent] at hflag
      simpa [honline] using hflag
    · exact hflag

/-- One event keeps the two stores consistent. -/
theorem consistent_step (h : Consistent options pc) {event : Event}
    (hkept : ReadersKept options pc event) :
    Consistent options (step options pc event) := by
  cases event with
  | check kind around => exact consistent_check h hkept
  | setSourcePolicies policies => exact ⟨h.ids, h.cache⟩
  | setProjectMaintenance enabled => exact ⟨h.ids, h.cache⟩
  | setMaintenanceMode stableID enabled =>
      simp only [step, setMaintenanceMode]
      split
      · exact h
      · split
        · exact h
        · exact consistent_setMaintenanceModeLocked h _ enabled
  | replaceMaintenanceModes stableIDs =>
      simp only [step, replaceMaintenanceModes]
      apply consistent_foldl fun pc stableID h =>
        consistent_setMaintenanceModeLocked h stableID true
      exact consistent_foldl (fun pc stableID h =>
        consistent_setMaintenanceModeLocked h stableID false) _ h
  | clearProjectMonitoringState =>
      simp only [step, clearProjectMonitoringState]
      refine consistent_foldl (fun pc proxy h => ?_) _ h
      split
      · exact h
      · exact consistent_clearProxyMonitoringState h _
  | updateProxies proxies =>
      refine ⟨hkept, fun q _ _ online hcached => ?_⟩
      simp [step, updateProxies, clearMetrics, rebuildSourceIndex] at hcached
  | restoreOfflineStatus restored now =>
      exact consistent_restoreStatus h restored rfl
  | restoreProxyFailureStatus restored now =>
      exact consistent_restoreStatus h restored rfl
  | refreshHostDiagnostics stableID hostCheck pingCheck now =>
      exact consistent_refresh h stableID hostCheck pingCheck now

/-- What the first reader says about a node, without the latency. -/
def cachedReading (options : Options) (pc : ProxyChecker) (stableID : Text) :
    Except ReadError Bool :=
  (pc.getProxyStatusByStableID options stableID).map Prod.fst

/-- What the second reader says about a node. -/
def detailedReading (options : Options) (pc : ProxyChecker)
    (stableID : Text) : Except ReadError Bool :=
  (pc.getProxyStatusDetailsByStableID options stableID).map (·.online)

theorem readings_agree (h : Consistent options pc) (stableID : Text) :
    cachedReading options pc stableID =
      detailedReading options pc stableID := by
  unfold cachedReading detailedReading getProxyStatusByStableID
    getProxyStatusDetailsByStableID
  by_cases hmonitored : pc.monitoringEnabled stableID = true
  · have hne := ne_nil_of_monitoringEnabled hmonitored
    simp only [hmonitored, Bool.not_true, Bool.false_eq_true, ↓reduceIte,
      statusDetailsByStableID, hne]
    cases hfound : pc.getProxyByStableID options stableID with
    | none => rfl
    | some proxy =>
        have hid : proxy.effectiveStableID options.digest = stableID := by
          simpa using List.find?_some hfound
        subst hid
        simp only [Option.isNone_some, Bool.false_eq_true, ↓reduceIte]
        cases hcached : pc.currentMetrics[metricKey options proxy]? with
        | none =>
            cases pc.statusDetails[proxy.effectiveStableID options.digest]? <;>
              rfl
        | some online =>
            have hflag := h.cache proxy (List.mem_of_find?_eq_some hfound)
              hmonitored online hcached
            obtain ⟨details, hdetails, rfl⟩ := Option.map_eq_some_iff.mp hflag
            simp only [hdetails]
            rfl
  · simp only [hmonitored, Bool.not_false, ↓reduceIte]
    rfl

/-- The two readers over a whole run: as long as no probe of a paused source
contradicts the verdict cached before, they return the same online flag, or
the same error, for every node. -/
theorem readers_agree {proxies : List ProxyConfig} {events : List Event}
    (hids : WellIdentified options proxies)
    (hkept : Machine.Admissible (step options) (ReadersKept options)
      (new options proxies) events) (stableID : Text) :
    cachedReading options
        (Machine.run (step options) (new options proxies) events) stableID =
      detailedReading options
        (Machine.run (step options) (new options proxies) events)
        stableID := by
  apply readings_agree
  refine Machine.run_invariant (Consistent options) hkept ?_
    fun pc event h he => consistent_step h he
  refine ⟨hids, fun q _ _ online hcached => ?_⟩
  simp [new, rebuildSourceIndex] at hcached

instance (proxies : List ProxyConfig) :
    Decidable (WellIdentified options proxies) :=
  decidable_of_iff
    ((∀ p ∈ proxies, ∀ q ∈ proxies,
        p.effectiveStableID options.digest =
          q.effectiveStableID options.digest → p = q) ∧
      (∀ p ∈ proxies, trimSpace (p.effectiveStableID options.digest) =
        p.effectiveStableID options.digest) ∧
      ∀ p ∈ proxies, '|' ∉ p.effectiveStableID options.digest)
    ⟨fun h => ⟨h.1, h.2.1, h.2.2⟩,
      fun h => ⟨h.distinct, h.trimmed, h.separable⟩⟩

instance (kind : RunKind) : Decidable (kind.Tracked pc) :=
  match kind with
  | .one _ => inferInstanceAs (Decidable (_ ∈ _))
  | .all => inferInstanceAs (Decidable True)
  | .unavailable => inferInstanceAs (Decidable True)
  | .selected _ _ => inferInstanceAs (Decidable True)

instance (event : Event) : Decidable (ReadersKept options pc event) :=
  match event with
  | .check _ _ => inferInstanceAs (Decidable (_ ∧ ∀ _ ∈ _, _))
  | .updateProxies _ => inferInstanceAs (Decidable (WellIdentified _ _))
  | .setSourcePolicies _ => inferInstanceAs (Decidable True)
  | .setMaintenanceMode _ _ => inferInstanceAs (Decidable True)
  | .replaceMaintenanceModes _ => inferInstanceAs (Decidable True)
  | .setProjectMaintenance _ => inferInstanceAs (Decidable True)
  | .clearProjectMonitoringState => inferInstanceAs (Decidable True)
  | .restoreOfflineStatus _ _ => inferInstanceAs (Decidable True)
  | .restoreProxyFailureStatus _ _ => inferInstanceAs (Decidable True)
  | .refreshHostDiagnostics _ _ _ _ => inferInstanceAs (Decidable True)

namespace Sample

/-- The operator pauses the source. -/
def pauseSource : Event :=
  .setSourcePolicies
    ((∅ : GoMap Text Policy).insert "s1" ⟨false, false, true⟩)

def startUp : ProxyChecker := new (optionsFor "status") [node "s1" "nl-1"]

/-- A node works, its source is paused, and it goes through maintenance before
the next probe fails. -/
def pausedInMaintenance : List Event :=
  [workingRound, pauseSource, .setMaintenanceMode "nl-1" true, workingRound,
    .setMaintenanceMode "nl-1" false, failingRound]

theorem readers_agree_paused :
    cachedReading (optionsFor "status")
        (Machine.run (step (optionsFor "status")) startUp pausedInMaintenance)
        "nl-1" =
      detailedReading (optionsFor "status")
        (Machine.run (step (optionsFor "status")) startUp pausedInMaintenance)
        "nl-1" :=
  readers_agree (by decide +kernel) (by decide +kernel) "nl-1"

/-- Without the maintenance in between, the cache keeps the verdict from
before the pause and the details follow the probe. -/
theorem paused_source_splits_readers :
    let pc := Machine.run (step (optionsFor "status")) startUp
      [workingRound, pauseSource, failingRound]
    cachedReading (optionsFor "status") pc "nl-1" = .ok true ∧
      detailedReading (optionsFor "status") pc "nl-1" = .ok false := by
  decide

end Sample

end XrayChecker.Checker

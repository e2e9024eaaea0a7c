import XrayChecker.Checker.Export

/-
Removing the Prometheus series of nodes.  The labels of a series are read back
from the metric key by position, so a separator inside a label makes the key
name another series, and the recorded one stays.
-/

namespace XrayChecker.Checker

open Go ProxyChecker

variable {options : Options} {pc : ProxyChecker}

/-- No label contains the separator of metric keys. -/
def Separable (labels : List Text) : Prop :=
  ∀ label ∈ labels, '|' ∉ label

theorem seriesKey_cons (label : Text) (rest : List Text) (stableID : Text) :
    seriesKey (label :: rest) stableID =
      label ++ '|' :: seriesKey rest stableID := by
  unfold seriesKey join
  rw [List.cons_append,
    List.intercalate_cons_of_ne_nil (List.append_ne_nil_of_right_ne_nil
      rest (List.cons_ne_nil _ _))]
  simp

/-- The key of a node ends in its identity. -/
theorem hasSuffix_seriesKey {labels : List Text} (hne : labels ≠ [])
    (stableID : Text) :
    hasSuffix (seriesKey labels stableID) ('|' :: stableID) = true := by
  rw [hasSuffix_iff]
  induction labels with
  | nil => exact absurd rfl hne
  | cons label rest ih =>
      rw [seriesKey_cons]
      by_cases hrest : rest = []
      · exact ⟨label, by simp [hrest, seriesKey, join]⟩
      · obtain ⟨front, hfront⟩ := ih hrest
        exact ⟨label ++ '|' :: front, by simp [hfront]⟩

theorem splitOn_join {labels : List Text} (h : Separable labels)
    (stableID : Text) :
    (seriesKey labels stableID).splitOn '|' =
      labels ++ stableID.splitOn '|' := by
  induction labels with
  | nil => simp [seriesKey, join]
  | cons label rest ih =>
      have hrest : Separable rest := fun l hl => h l (List.mem_cons_of_mem _ hl)
      rw [seriesKey_cons, List.splitOn_append_cons_self_of_not_mem
        (h label List.mem_cons_self), ih hrest, List.cons_append]

/-- No piece of a split contains the separator. -/
theorem separable_splitOn (key : Text) : Separable (key.splitOn '|') := by
  induction key with
  | nil => simp [Separable]
  | cons c rest ih =>
      rw [List.splitOn_cons_eq_if_modifyHead]
      by_cases hc : c = '|'
      · simp only [hc, beq_self_eq_true, ↓reduceIte]
        intro label hlabel
        rcases List.mem_cons.mp hlabel with rfl | hlabel
        · simp
        · exact ih label hlabel
      · simp only [beq_eq_false_iff_ne.mpr hc, Bool.false_eq_true, ↓reduceIte]
        intro label hlabel
        cases hsplit : rest.splitOn '|' with
        | nil => exact absurd hsplit (List.splitOn_ne_nil _ _)
        | cons first others =>
            rw [hsplit] at hlabel ih
            rcases List.mem_cons.mp hlabel with rfl | hlabel
            · have hfirst := ih first List.mem_cons_self
              simp [Ne.symm hc, hfirst]
            · exact ih label (List.mem_cons_of_mem _ hlabel)

namespace Registry

/-- Four labels without a separator are read back as they were recorded. -/
theorem keyLabels_seriesKey {labels : List Text} (hfour : labels.length = 4)
    (h : Separable labels) (stableID : Text) :
    keyLabels (seriesKey labels stableID) = some labels := by
  unfold keyLabels
  rw [splitOn_join h]
  match labels, hfour with
  | [protocol, address, name, subName], _ => rfl

/-- Labels with a separator are never read back. -/
theorem separable_of_keyLabels {key : Text} {labels : List Text}
    (h : keyLabels key = some labels) : Separable labels := by
  have hall := separable_splitOn key
  unfold keyLabels at h
  split at h
  · rename_i protocol address name subName rest hsplit
    cases h
    rw [hsplit] at hall
    intro label hlabel
    apply hall
    simp only [List.mem_cons, List.not_mem_nil, or_false] at hlabel ⊢
    rcases hlabel with h | h | h | h <;> simp [h]
  · cases h

theorem exports_delete {registry : Registry} {labels other : List Text} :
    (registry.delete labels).Exports other ↔
      registry.Exports other ∧ labels ≠ other := by
  simp only [Exports, delete, Std.ExtTreeMap.mem_erase]
  simp only [ne_eq, Std.compare_eq_iff_eq]
  tauto

theorem exports_deleteKey {registry : Registry} {key : Text}
    {labels : List Text} :
    (registry.deleteKey key).Exports labels ↔
      registry.Exports labels ∧ keyLabels key ≠ some labels := by
  unfold deleteKey
  split
  · rename_i read hread
    simp [exports_delete, hread]
  · rename_i hread
    simp [hread]

/-- After a loop over keys, the series left are those no key is read back
as. -/
theorem exports_deleteKeys (keys : List Text) {registry : Registry}
    {labels : List Text} :
    (keys.foldl deleteKey registry).Exports labels ↔
      registry.Exports labels ∧ ∀ key ∈ keys, keyLabels key ≠ some labels := by
  induction keys generalizing registry with
  | nil => simp
  | cons key rest ih =>
      rw [List.foldl_cons, ih, exports_deleteKey]
      simp [and_assoc]

theorem exports_record {registry : Registry} {sample : SeriesSample}
    {labels : List Text} :
    (registry.record sample).Exports labels ↔
      sample.labels = labels ∨ registry.Exports labels := by
  unfold record
  cases sample.gauge with
  | status =>
      simp only [Exports, Std.ExtTreeMap.mem_insert, Std.compare_eq_iff_eq]
      tauto
  | latency =>
      simp only [Exports, Std.ExtTreeMap.mem_insert, Std.compare_eq_iff_eq]
      tauto

theorem exports_records (samples : List SeriesSample) {registry : Registry}
    {labels : List Text} :
    (samples.foldl record registry).Exports labels ↔
      registry.Exports labels ∨ ∃ sample ∈ samples, sample.labels = labels := by
  induction samples generalizing registry with
  | nil => simp
  | cons sample rest ih =>
      rw [List.foldl_cons, ih, exports_record]
      simp only [List.mem_cons, exists_eq_or_imp]
      tauto

end Registry

/-- The verdict an outcome stands for, unless the check finds its run
cancelled before it stores anything. -/
def Outcome.verdict (probe : Probe) : Outcome → Option Bool
  | .cancelled => none
  | .failed _ => if probe.cancelledAt .atStatus then none else some false
  | .succeeded _ => some true

/-- The verdict a check leaves in `currentMetrics`, if it gets that far. -/
def cachedVerdict (options : Options) (pc : ProxyChecker)
    (expectedGeneration : Option Nat) (job : Candidate × Probe) :
    Option Bool :=
  if Accounts options pc expectedGeneration job then
    (probeOutcome options pc.currentIP job.1.proxy job.2).verdict job.2
  else none

namespace ProxyChecker

@[simp] theorem currentMetrics_storeStatusDetailsMode (stableID : Text)
    (report : StatusReport) (allowMaintenance : Bool) (now : Time) :
    (pc.storeStatusDetailsMode stableID report allowMaintenance
      now).currentMetrics = pc.currentMetrics := by
  unfold storeStatusDetailsMode
  split <;> rfl

@[simp] theorem currentMetrics_storeOfflineDiagnostics (stableID : Text)
    (hostCheck : HostCheckDetails) (pingCheck : PingCheckDetails)
    (clock : DiagnosticReadings) :
    (pc.storeOfflineDiagnostics stableID hostCheck pingCheck
      clock).currentMetrics = pc.currentMetrics := by
  unfold storeOfflineDiagnostics
  split
  · rfl
  · split <;> rfl

@[simp] theorem currentMetrics_markUnavailable (proxy : ProxyConfig)
    (allowMaintenance : Bool) (failure : FailureDetails) (probe : Probe) :
    (pc.markUnavailableAndCollectDiagnostics options proxy allowMaintenance
      failure probe).currentMetrics = pc.currentMetrics := by
  simp only [markUnavailableAndCollectDiagnostics]
  split
  · simp
  · rfl

@[simp] theorem currentMetrics_setFailedLatency (proxy : ProxyConfig)
    (expectedGeneration : Option Nat) (allowMaintenance exportMetrics : Bool)
    (probe : Probe) :
    (pc.setFailedLatency options proxy expectedGeneration allowMaintenance
      exportMetrics probe).currentMetrics = pc.currentMetrics := by
  unfold setFailedLatency
  split
  · rfl
  · cases exportMetrics <;> rfl

theorem currentMetrics_setFailedStatus (proxy : ProxyConfig)
    (expectedGeneration : Option Nat) (allowMaintenance exportMetrics : Bool)
    (failure : FailureDetails) (probe : Probe) :
    (pc.setFailedStatus options proxy expectedGeneration allowMaintenance
      exportMetrics failure probe).currentMetrics =
      if probe.cancelledAt .atStatus = true ∨
          pc.isGenerationValid expectedGeneration = false ∨
          allowMaintenance = true then pc.currentMetrics
      else pc.currentMetrics.insert (metricKey options proxy) false := by
  unfold setFailedStatus
  by_cases hstop : (probe.cancelledAt .atStatus ||
      !pc.isGenerationValid expectedGeneration) = true
  · have hstop' : probe.cancelledAt .atStatus = true ∨
        pc.isGenerationValid expectedGeneration = false := by
      simpa using hstop
    rw [if_pos hstop, if_pos (by tauto)]
  · have hgo : probe.cancelledAt .atStatus = false ∧
        pc.isGenerationValid expectedGeneration = true := by
      simpa using hstop
    rw [if_neg hstop]
    cases allowMaintenance
    · cases exportMetrics <;>
        simp [hgo, recordFailedStatus, storeCurrent, recordStatus]
    · simp [recordFailedStatus]

theorem currentMetrics_setSucceeded (proxy : ProxyConfig)
    (expectedGeneration : Option Nat) (allowMaintenance : Bool) (latency : Int)
    (now : Time) :
    (pc.setSucceeded options proxy expectedGeneration allowMaintenance
      latency now).currentMetrics =
      if pc.isGenerationValid expectedGeneration = false ∨
          allowMaintenance = true then pc.currentMetrics
      else pc.currentMetrics.insert (metricKey options proxy) true := by
  unfold setSucceeded
  cases hvalid : pc.isGenerationValid expectedGeneration
  · simp
  · cases allowMaintenance <;>
      simp [storeCurrent, storeLatency, recordLatency, recordStatus]

/-- What a check does to `currentMetrics`, exactly. -/
theorem currentMetrics_checkProxyInternal (expectedGeneration : Option Nat)
    (job : Candidate × Probe) :
    (pc.checkProxyInternal options job.1.proxy expectedGeneration
      job.1.probeOnly job.2).currentMetrics =
      match cachedVerdict options pc expectedGeneration job with
      | none => pc.currentMetrics
      | some online =>
          pc.currentMetrics.insert (metricKey options job.1.proxy) online := by
  unfold checkProxyInternal cachedVerdict
  by_cases hadmits : pc.admits options job.1.proxy job.1.probeOnly job.2 = true
  · simp only [hadmits, Bool.not_true, Bool.false_eq_true, ↓reduceIte,
      Accounts, Outcome.verdict, true_and]
    cases probeOutcome options pc.currentIP job.1.proxy job.2 with
    | cancelled => simp
    | failed failure =>
        simp only [currentMetrics_setFailedLatency,
          currentMetrics_setFailedStatus]
        cases job.1.probeOnly <;>
          cases pc.isGenerationValid expectedGeneration <;>
          cases job.2.cancelledAt .atStatus <;> simp
    | succeeded latency =>
        simp only [currentMetrics_setSucceeded]
        cases job.1.probeOnly <;>
          cases pc.isGenerationValid expectedGeneration <;> simp
  · simp [hadmits, Accounts]

end ProxyChecker

/-- A check that records a sample leaves the key of its node behind. -/
theorem key_of_mem_checkSamples {expectedGeneration : Option Nat}
    {job : Candidate × Probe} {sample : SeriesSample}
    (h : sample ∈ checkSamples options pc expectedGeneration job) :
    sample.labels = seriesLabels job.1.proxy ∧
      (cachedVerdict options pc expectedGeneration job).isSome = true := by
  have haccounts : Accounts options pc expectedGeneration job := by
    by_contra hnot
    simp [checkSamples, hnot] at h
  simp only [checkSamples, cachedVerdict, Outcome.verdict,
    if_pos haccounts] at h ⊢
  cases houtcome : probeOutcome options pc.currentIP job.1.proxy job.2 with
  | cancelled => simp [houtcome] at h
  | succeeded latency =>
      simp only [houtcome] at h
      rcases List.mem_pair.mp h with rfl | rfl <;> simp [sampleOf]
  | failed failure =>
      simp only [houtcome, failedSamples] at h
      split at h
      · by_cases hcancelled : job.2.cancelledAt .atStatus = true
        · have hlater : job.2.cancelledAt .atLatency = true :=
            cancelledAt_mono (by decide) hcancelled
          simp [hcancelled, hlater] at h
        · refine ⟨?_, by simp [hcancelled]⟩
          rcases List.mem_append.mp h with hstatus | hlatency
          · simp only [hcancelled, Bool.false_eq_true, ↓reduceIte,
              List.mem_singleton] at hstatus
            rw [hstatus]
            rfl
          · split at hlatency
            · cases hlatency
            · rw [List.mem_singleton.mp hlatency]
              rfl
      · cases h

theorem keys_checkProxyInternal (expectedGeneration : Option Nat)
    (job : Candidate × Probe) {key : Text} (h : key ∈ pc.currentMetrics) :
    key ∈ (pc.checkProxyInternal options job.1.proxy expectedGeneration
      job.1.probeOnly job.2).currentMetrics := by
  rw [currentMetrics_checkProxyInternal]
  split
  · exact h
  · exact Std.ExtTreeMap.mem_insert.mpr (Or.inr h)

/-- The checks of a run only add keys, and add one for every sample. -/
theorem keys_finish (options : Options) (run : Run) :
    (∀ key ∈ run.pc.currentMetrics,
      key ∈ (run.finish options).currentMetrics) ∧
    ∀ job ∈ run.jobs, ∀ sample ∈ checkSamples options run.pc
      run.expectedGeneration job, sample.labels.length = 4 ∧
        seriesKey sample.labels sample.node ∈
          (run.finish options).currentMetrics := by
  refine (foldl_invariant
    (fun done (current : ProxyChecker) =>
      current.regime = run.pc.regime ∧
      current.currentIP = run.pc.currentIP ∧
      (∀ key ∈ run.pc.currentMetrics, key ∈ current.currentMetrics) ∧
      ∀ job ∈ done, ∀ sample ∈ checkSamples options run.pc
        run.expectedGeneration job, sample.labels.length = 4 ∧
          seriesKey sample.labels sample.node ∈ current.currentMetrics)
    run.jobs ⟨rfl, rfl, fun _ h => h, by simp⟩ ?_).2.2
  rintro done job current hjob ⟨hregime, hip, hkeys, hdone⟩
  refine ⟨by simpa using hregime,
    (checkProxyInternal_frame unwritten_currentIP ..).trans hip,
    fun key hkey => keys_checkProxyInternal _ job (hkeys key hkey), ?_⟩
  intro other hother sample hsample
  rcases List.mem_append.mp hother with hold | hnew
  · obtain ⟨hfour, hkey⟩ := hdone other hold sample hsample
    exact ⟨hfour, keys_checkProxyInternal _ job hkey⟩
  · rw [List.mem_singleton.mp hnew] at hsample
    have hnode := node_of_mem_checkSamples hsample
    rw [← checkSamples_congr hregime hip] at hsample
    obtain ⟨hlabels, hverdict⟩ := key_of_mem_checkSamples hsample
    obtain ⟨online, honline⟩ := Option.isSome_iff_exists.mp hverdict
    refine ⟨by rw [hlabels]; rfl, ?_⟩
    rw [currentMetrics_checkProxyInternal, honline, hlabels, hnode]
    exact Std.ExtTreeMap.mem_insert_self

theorem keys_check (options : Options) (pc : ProxyChecker) (kind : RunKind)
    (around : Surroundings) :
    (∀ key ∈ pc.currentMetrics,
      key ∈ (step options pc (.check kind around)).currentMetrics) ∧
    ∀ sample ∈ runSamples options pc kind around, sample.labels.length = 4 ∧
      seriesKey sample.labels sample.node ∈
        (step options pc (.check kind around)).currentMetrics := by
  have hready : Ready options
      (fun current => current.currentMetrics = pc.currentMetrics) pc kind
      (kind.start options pc around) := by
    apply ready_start
    · exact ⟨fun _ _ h => h, fun _ _ _ h _ _ _ => by simpa using h⟩
    · rfl
  obtain ⟨hkeys, hsamples⟩ :=
    keys_finish options (kind.start options pc around)
  constructor
  · intro key hkey
    rw [← hready.1] at hkey
    exact hkeys key hkey
  · intro sample hsample
    obtain ⟨job, hjob, hmem⟩ := List.mem_flatMap.mp hsample
    exact hsamples job hjob sample hmem

/-- A step that only removes series keeps the keys of those it leaves. -/
structure Keeps (pc pc' : ProxyChecker) : Prop where
  exports : ∀ labels, pc'.registry.Exports labels → pc.registry.Exports labels
  keys : ∀ labels stableID, labels.length = 4 → Separable labels →
    pc'.registry.Exports labels →
    seriesKey labels stableID ∈ pc.currentMetrics →
    seriesKey labels stableID ∈ pc'.currentMetrics

namespace Keeps

theorem refl (pc : ProxyChecker) : Keeps pc pc :=
  ⟨fun _ h => h, fun _ _ _ _ _ h => h⟩

theorem trans {pc pc' pc'' : ProxyChecker} (h : Keeps pc pc')
    (h' : Keeps pc' pc'') : Keeps pc pc'' := by
  constructor
  · exact fun labels hlabels => h.exports labels (h'.exports labels hlabels)
  · intro labels stableID hfour hclean hlabels hkey
    apply h'.keys labels stableID hfour hclean hlabels
    exact h.keys labels stableID hfour hclean (h'.exports labels hlabels) hkey

theorem foldl {α : Type} {update : ProxyChecker → α → ProxyChecker}
    (hupdate : ∀ pc item, Keeps pc (update pc item)) (items : List α)
    (pc : ProxyChecker) : Keeps pc (items.foldl update pc) := by
  induction items generalizing pc with
  | nil => exact refl pc
  | cons item rest ih => exact (hupdate pc item).trans (ih _)

/-- The registry is untouched and no key is lost. -/
theorem of_registry_eq {pc pc' : ProxyChecker}
    (hregistry : pc'.registry = pc.registry)
    (hkeys : ∀ key ∈ pc.currentMetrics, key ∈ pc'.currentMetrics) :
    Keeps pc pc' := by
  constructor
  · intro labels hlabels
    rwa [hregistry] at hlabels
  · intro labels stableID _ _ _ hkey
    exact hkeys _ hkey

end Keeps

theorem mem_removed {stableID key : Text} :
    key ∈ pc.currentMetrics.keys.filter
        (fun key => hasSuffix key ('|' :: stableID)) ↔
      key ∈ pc.currentMetrics ∧ hasSuffix key ('|' :: stableID) = true := by
  rw [List.mem_filter, Std.ExtTreeMap.mem_keys]

theorem keeps_clearProxyMonitoringState (stableID : Text) :
    Keeps pc (pc.clearProxyMonitoringState stableID) := by
  constructor
  · intro labels hlabels
    exact ((Registry.exports_deleteKeys _).mp hlabels).1
  · intro labels other hfour hclean hlabels hkey
    have hleft := ((Registry.exports_deleteKeys _).mp hlabels).2
    have hsuffix : hasSuffix (seriesKey labels other) ('|' :: stableID) =
        false := by
      by_contra hsuffix
      apply hleft (seriesKey labels other)
      · exact mem_removed.mpr ⟨hkey, by simpa using hsuffix⟩
      · exact Registry.keyLabels_seriesKey hfour hclean other
    simp only [clearProxyMonitoringState, Std.ExtTreeMap.mem_filter]
    exact ⟨hkey, by simp [hsuffix]⟩

theorem keeps_setMaintenanceModeLocked (stableID : Text) (enabled : Bool) :
    Keeps pc (pc.setMaintenanceModeLocked stableID enabled) := by
  simp only [setMaintenanceModeLocked]
  split
  · exact .refl pc
  · refine Keeps.trans ?_ (keeps_clearProxyMonitoringState stableID)
    exact .of_registry_eq rfl fun _ h => h

theorem keeps_restoreStatus (restored : Restored)
    (details : ProxyStatusDetails) :
    Keeps pc (pc.restoreStatus options restored details) := by
  apply Keeps.of_registry_eq (samples_restoreStatus _ _)
  intro key hkey
  unfold restoreStatus
  split
  · exact hkey
  · split
    · exact hkey
    · exact Std.ExtTreeMap.mem_insert.mpr (Or.inr hkey)

/-- Every event but the runs only removes series, and with a series the keys
of its labels. -/
theorem keeps_step {event : Event}
    (h : ∀ kind around, event ≠ .check kind around) :
    Keeps pc (step options pc event) := by
  cases event with
  | check kind around => exact absurd rfl (h kind around)
  | setSourcePolicies policies => exact .of_registry_eq rfl fun _ h => h
  | setProjectMaintenance enabled => exact .of_registry_eq rfl fun _ h => h
  | setMaintenanceMode stableID enabled =>
      simp only [step, setMaintenanceMode]
      split
      · exact .refl pc
      · split
        · exact .refl pc
        · exact keeps_setMaintenanceModeLocked _ enabled
  | replaceMaintenanceModes stableIDs =>
      simp only [step, replaceMaintenanceModes]
      exact (Keeps.foldl
        (fun pc stableID => keeps_setMaintenanceModeLocked stableID false)
        _ pc).trans (Keeps.foldl
        (fun pc stableID => keeps_setMaintenanceModeLocked stableID true) _ _)
  | clearProjectMonitoringState =>
      simp only [step, clearProjectMonitoringState]
      apply Keeps.foldl
      intro pc proxy
      split
      · exact .refl pc
      · exact keeps_clearProxyMonitoringState _
  | updateProxies proxies =>
      constructor
      · intro labels hlabels
        exact ((Registry.exports_deleteKeys _).mp hlabels).1
      · intro labels stableID hfour hclean hlabels hkey
        have hleft := ((Registry.exports_deleteKeys _).mp hlabels).2
        exact absurd (Registry.keyLabels_seriesKey hfour hclean stableID)
          (hleft _ (Std.ExtTreeMap.mem_keys.mpr hkey))
  | restoreOfflineStatus restored now => exact keeps_restoreStatus _ _
  | restoreProxyFailureStatus restored now => exact keeps_restoreStatus _ _
  | refreshHostDiagnostics stableID hostCheck pingCheck now =>
      rcases refreshHostDiagnostics_cases options pc stableID hostCheck
        pingCheck now with hsame | ⟨_, -, -, hstored⟩
      · simp only [step, hsame]
        exact .refl pc
      · simp only [step, hstored]
        exact .of_registry_eq (by simp) (by simp)

/-- Every series has its four labels, and the labels of a series that can be
read back belong to a key. -/
structure Backed (pc : ProxyChecker) : Prop where
  four : ∀ labels, pc.registry.Exports labels → labels.length = 4
  key : ∀ labels, pc.registry.Exports labels → Separable labels →
    ∃ stableID, seriesKey labels stableID ∈ pc.currentMetrics

theorem exports_check {kind : RunKind} {around : Surroundings}
    {labels : List Text} :
    (step options pc (.check kind around)).registry.Exports labels ↔
      pc.registry.Exports labels ∨
        ∃ sample ∈ runSamples options pc kind around,
          sample.labels = labels := by
  rw [registry_check, Registry.exports_records]

/-- One event keeps the series backed. -/
theorem backed_step (h : Backed pc) (event : Event) :
    Backed (step options pc event) := by
  by_cases hcheck : ∃ kind around, event = .check kind around
  · obtain ⟨kind, around, rfl⟩ := hcheck
    obtain ⟨hkeys, hsamples⟩ := keys_check options pc kind around
    constructor
    · intro labels hlabels
      rcases exports_check.mp hlabels with hold | ⟨sample, hsample, rfl⟩
      · exact h.four labels hold
      · exact (hsamples sample hsample).1
    · intro labels hlabels hclean
      rcases exports_check.mp hlabels with hold | ⟨sample, hsample, rfl⟩
      · obtain ⟨stableID, hkey⟩ := h.key labels hold hclean
        exact ⟨stableID, hkeys _ hkey⟩
      · exact ⟨sample.node, (hsamples sample hsample).2⟩
  · have hkeeps : Keeps pc (step options pc event) :=
      keeps_step fun kind around heq => hcheck ⟨kind, around, heq⟩
    constructor
    · exact fun labels hlabels => h.four labels (hkeeps.exports labels hlabels)
    · intro labels hlabels hclean
      have hold := hkeeps.exports labels hlabels
      obtain ⟨stableID, hkey⟩ := h.key labels hold hclean
      exact ⟨stableID, hkeeps.keys labels stableID (h.four labels hold) hclean
        hlabels hkey⟩

theorem backed_run (proxies : List ProxyConfig) (events : List Event) :
    Backed (Machine.run (step options) (new options proxies) events) := by
  have hrun : Machine.Admissible (step options) (fun _ _ => True)
      (new options proxies) events := fun _ _ => trivial
  refine Machine.run_invariant Backed hrun ?_
    fun pc event h _ => backed_step h event
  constructor
  · intro labels hlabels
    rcases hlabels with h | h <;> simp [new, rebuildSourceIndex] at h
  · intro labels hlabels
    rcases hlabels with h | h <;> simp [new, rebuildSourceIndex] at h

/-- A series that a check of the node recorded during the run and that has
been there ever since. -/
def RecordedFor (options : Options) (start : ProxyChecker)
    (events : List Event) (labels : List Text) (stableID : Text) : Prop :=
  ∃ before event after, events = before ++ event :: after ∧
    (∃ sample ∈ newSamples options (Machine.run (step options) start before)
      event, sample.node = stableID ∧ sample.labels = labels) ∧
    ∀ later, later <+: after →
      (Machine.run (step options) start
        (before ++ event :: later)).registry.Exports labels

theorem RecordedFor.exports {start : ProxyChecker} {events : List Event}
    {labels : List Text} {stableID : Text}
    (h : RecordedFor options start events labels stableID) :
    (Machine.run (step options) start events).registry.Exports labels := by
  obtain ⟨before, event, after, rfl, -, hall⟩ := h
  exact hall after List.prefix_rfl

/-- As long as a series stays that can be read back, the key of the node it
was recorded for stays too. -/
theorem RecordedFor.key {start : ProxyChecker} {events : List Event}
    {labels : List Text} {stableID : Text}
    (h : RecordedFor options start events labels stableID)
    (hclean : Separable labels) :
    labels.length = 4 ∧ seriesKey labels stableID ∈
      (Machine.run (step options) start events).currentMetrics := by
  obtain ⟨before, event, after, rfl, ⟨sample, hsample, rfl, rfl⟩, hall⟩ := h
  have hcheck : ∃ kind around, event = .check kind around := by
    by_contra hnot
    rw [newSamples_of_not_check fun kind around heq =>
      hnot ⟨kind, around, heq⟩] at hsample
    cases hsample
  obtain ⟨kind, around, rfl⟩ := hcheck
  rw [newSamples_check] at hsample
  induction after using List.reverseRecOn with
  | nil =>
      rw [Machine.run_append]
      exact (keys_check options _ kind around).2 sample hsample
  | append_singleton rest last ih =>
      have hrest := ih fun later hlater =>
        hall later (hlater.trans (List.prefix_append _ _))
      refine ⟨hrest.1, ?_⟩
      have hexports := hall _ List.prefix_rfl
      rw [← List.cons_append, ← List.append_assoc, Machine.run_append,
        Machine.run_cons, Machine.run_nil] at hexports ⊢
      by_cases hlast : ∃ kind around, last = .check kind around
      · obtain ⟨kind', around', rfl⟩ := hlast
        exact (keys_check options _ kind' around').1 _ hrest.2
      · exact (keeps_step fun kind around heq => hlast ⟨kind, around, heq⟩).keys
          _ _ hrest.1 hclean hexports hrest.2

/-- What `ClearMetrics` leaves behind: the series with a separator in one of
their labels. -/
theorem exports_clearMetrics (h : Backed pc) {labels : List Text} :
    pc.clearMetrics.registry.Exports labels ↔
      pc.registry.Exports labels ∧ ¬Separable labels := by
  simp only [clearMetrics, Registry.exports_deleteKeys]
  refine and_congr_right fun hlabels => ?_
  constructor
  · intro hleft hclean
    obtain ⟨stableID, hkey⟩ := h.key labels hlabels hclean
    exact hleft _ (Std.ExtTreeMap.mem_keys.mpr hkey)
      (Registry.keyLabels_seriesKey (h.four labels hlabels) hclean stableID)
  · intro hjoined key _ hread
    exact hjoined (Registry.separable_of_keyLabels hread)

/-- Nothing is left exactly when no series had a separator in a label. -/
theorem all_cleared_iff {left exported : List Text → Prop}
    (h : ∀ labels, left labels ↔ exported labels ∧ ¬Separable labels) :
    (∀ labels, ¬left labels) ↔ ∀ labels, exported labels →
      Separable labels := by
  constructor
  · intro hnone labels hlabels
    by_contra hjoined
    exact hnone labels ((h labels).mpr ⟨hlabels, hjoined⟩)
  · intro hall labels hleft
    obtain ⟨hlabels, hjoined⟩ := (h labels).mp hleft
    exact hjoined (hall labels hlabels)

theorem exports_clearProxyMonitoringState {start : ProxyChecker}
    {events : List Event} {labels : List Text} {stableID : Text}
    (h : RecordedFor options start events labels stableID) :
    ((Machine.run (step options) start events).clearProxyMonitoringState
      stableID).registry.Exports labels ↔ ¬Separable labels := by
  simp only [clearProxyMonitoringState, Registry.exports_deleteKeys]
  constructor
  · rintro ⟨-, hleft⟩ hclean
    obtain ⟨hfour, hkey⟩ := h.key hclean
    apply hleft (seriesKey labels stableID)
    · refine mem_removed.mpr ⟨hkey, hasSuffix_seriesKey ?_ stableID⟩
      exact List.ne_nil_of_length_eq_add_one hfour
    · exact Registry.keyLabels_seriesKey hfour hclean stableID
  · intro hjoined
    refine ⟨h.exports, fun key _ hread => ?_⟩
    exact hjoined (Registry.separable_of_keyLabels hread)

/-- The labels of a node are read back from its metric key exactly when none
of them contains the separator. -/
theorem keyLabels_metricKey_iff (proxy : ProxyConfig) :
    Registry.keyLabels (metricKey options proxy) = some (seriesLabels proxy) ↔
      Separable (seriesLabels proxy) :=
  ⟨Registry.separable_of_keyLabels,
    fun h => Registry.keyLabels_seriesKey rfl h _⟩

/-- Clearing over whole runs: after `ClearMetrics` or `UpdateProxies` no
series is left, and after `clearProxyMonitoringState` none that was recorded
for the node, if and only if the labels of those series are free of the
separator. -/
theorem clearing_complete_iff (proxies : List ProxyConfig)
    (events : List Event) :
    let start := new options proxies
    let pc := Machine.run (step options) start events
    ((∀ labels, ¬pc.clearMetrics.registry.Exports labels) ↔
      ∀ labels, pc.registry.Exports labels → Separable labels) ∧
    (∀ newProxies,
      (∀ labels,
        ¬(pc.updateProxies options newProxies).registry.Exports labels) ↔
      ∀ labels, pc.registry.Exports labels → Separable labels) ∧
    (∀ stableID,
      (∀ labels, RecordedFor options start events labels stableID →
        ¬(pc.clearProxyMonitoringState stableID).registry.Exports labels) ↔
      ∀ labels, RecordedFor options start events labels stableID →
        Separable labels) ∧
    ∀ proxy,
      Registry.keyLabels (metricKey options proxy) =
          some (seriesLabels proxy) ↔
        Separable (seriesLabels proxy) := by
  intro start pc
  have hbacked : Backed pc := backed_run proxies events
  refine ⟨?_, fun newProxies => ?_, fun stableID => ?_,
    keyLabels_metricKey_iff⟩
  · exact all_cleared_iff fun labels => exports_clearMetrics hbacked
  · have hbumped : Backed { pc with generation := pc.generation + 1 } :=
      ⟨hbacked.four, hbacked.key⟩
    exact all_cleared_iff fun labels => exports_clearMetrics hbumped
  · constructor
    · intro hnone labels hrecorded
      by_contra hjoined
      exact hnone labels hrecorded
        ((exports_clearProxyMonitoringState hrecorded).mpr hjoined)
    · intro hall labels hrecorded hleft
      exact (exports_clearProxyMonitoringState hrecorded).mp hleft
        (hall labels hrecorded)

namespace Sample

/-- A node whose name contains the separator, checked with success. -/
def joined : ProxyChecker :=
  Machine.run (step (optionsFor "status"))
    (new (optionsFor "status") [{ node [] "nl-1" with name := "NL|1" }])
    [workingRound]

def joinedLabels : List Text :=
  ["vless", "nl.example.com:443", "NL|1", "main"]

/-- Its series survive all three ways of clearing. -/
theorem joined_series_left :
    joined.clearMetrics.registry.Exports joinedLabels ∧
      (joined.updateProxies (optionsFor "status") []).registry.Exports
        joinedLabels ∧
      (joined.clearProxyMonitoringState "nl-1").registry.Exports
        joinedLabels := by
  decide

end Sample

end XrayChecker.Checker

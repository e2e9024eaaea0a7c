import XrayChecker.Checker.Frames

/-
What every stored status has in common: a failure code of the checker's own
list, and evidence of the host checks that a check can really have brought
back.
-/

namespace XrayChecker.Checker

open Go ProxyChecker

/-- The stable codes of the checker. -/
def failureCodes : List Text :=
  [failureCodeConfiguration, failureCodeDNS, failureCodeTCPRefused,
    failureCodeTCPTimeout, failureCodeHostUnreachable,
    failureCodeProxyHandshake, failureCodeProxyTimeout,
    failureCodeProxyStreamClosed, failureCodeTLS, failureCodeHTTPStatus,
    failureCodeSourceIPUnchanged, failureCodeDownloadIncomplete,
    failureCodeCheckEndpoint, failureCodeUnknown]

/-- No code yet, or one of the checker's. -/
def FailureDetails.Known (failure : FailureDetails) : Prop :=
  failure.code = [] ∨ failure.code ∈ failureCodes

/-- What a host check or a ping can bring back: a check that was not made
found nothing and took no time. -/
structure PlausibleCheck (checked online : Bool) (latency : Int) : Prop where
  nonneg : 0 ≤ latency
  unmade : checked = false → online = false ∧ latency = 0

def HostCheckDetails.Plausible (check : HostCheckDetails) : Prop :=
  PlausibleCheck check.checked check.online check.latency

def PingCheckDetails.Plausible (check : PingCheckDetails) : Prop :=
  PlausibleCheck check.checked check.online check.latency

theorem plausibleCheck_unmade : PlausibleCheck false false 0 :=
  ⟨Int.le_refl _, fun _ => ⟨rfl, rfl⟩⟩

structure Classified (details : ProxyStatusDetails) : Prop where
  latency : 0 ≤ details.latency
  host : details.hostCheck.Plausible
  ping : details.pingCheck.Plausible
  checkFailure : details.checkFailure.Known
  failure : details.failure.Known

theorem failureFromError_code (err : CheckError) :
    (failureFromError err).code ∈ failureCodes := by
  unfold failureFromError
  simp only [failureDetails]
  split_ifs <;> simp only [failureCodes, List.mem_cons, true_or, or_true]

theorem failureFromCheckResult_code (method message : Text) :
    (failureFromCheckResult method message).code ∈ failureCodes := by
  unfold failureFromCheckResult
  simp only [failureDetails]
  split_ifs <;> simp only [failureCodes, List.mem_cons, true_or, or_true]

theorem failureFromHostCheck_code (hostCheck : HostCheckDetails) :
    (failureFromHostCheck hostCheck).code ∈ failureCodes := by
  unfold failureFromHostCheck
  simp only [failureDetails]
  split_ifs <;> simp only [failureCodes, List.mem_cons, true_or, or_true]

/-- A diagnosis always names a code. -/
theorem diagnoseFailure_code {checkFailure : FailureDetails}
    (hostCheck : HostCheckDetails) (pingCheck : PingCheckDetails)
    (h : checkFailure.Known) :
    (diagnoseFailure checkFailure hostCheck pingCheck).code ∈ failureCodes := by
  have hhost := failureFromHostCheck_code hostCheck
  simp only [diagnoseFailure]
  split
  · split
    · exact hhost
    · split
      · exact hhost
      · split
        · exact hhost
        · split
          · simp [failureCodes]
          · exact hhost
  · split
    · simp [failureDetails, failureCodes]
    · rename_i hnamed
      exact h.resolve_left hnamed

/-- What a report to be stored has to bring along. -/
structure StatusReport.Classified (report : StatusReport) : Prop where
  latency : 0 ≤ report.latency
  host : ∀ check ∈ report.hostCheck, HostCheckDetails.Plausible check
  ping : ∀ check ∈ report.pingCheck, PingCheckDetails.Plausible check
  failure : ∀ failure ∈ report.failure, FailureDetails.Known failure

theorem carriedDetails_classified {previous : Option ProxyStatusDetails}
    {report : StatusReport} (hreport : report.Classified)
    (hprevious : ∀ details ∈ previous, Checker.Classified details)
    (status : AvailabilityState) (now : Time) :
    Checker.Classified (carriedDetails previous report status now) := by
  cases previous with
  | none =>
      exact ⟨hreport.latency, plausibleCheck_unmade, plausibleCheck_unmade,
        Or.inl rfl, Or.inl rfl⟩
  | some details =>
      have hold := hprevious details rfl
      simp only [carriedDetails]
      cases report.online with
      | true =>
          exact ⟨hreport.latency, plausibleCheck_unmade, plausibleCheck_unmade,
            Or.inl rfl, Or.inl rfl⟩
      | false =>
          exact ⟨hreport.latency, hold.host, hold.ping, hold.checkFailure,
            hold.failure⟩

theorem nextStatusDetails_classified {previous : Option ProxyStatusDetails}
    {report : StatusReport} (hreport : report.Classified)
    (hprevious : ∀ details ∈ previous, Checker.Classified details)
    (now : Time) :
    Checker.Classified (nextStatusDetails previous report now) := by
  have hcarried := carriedDetails_classified hreport hprevious
    (settledStatus previous report) now
  simp only [nextStatusDetails]
  split
  · exact ⟨hcarried.latency, hcarried.host, hcarried.ping,
      hcarried.checkFailure, hcarried.failure⟩
  · have hcheck : ((report.failure).getD (carriedDetails previous report
        (settledStatus previous report) now).checkFailure).Known := by
      cases hfailure : report.failure with
      | none => exact hcarried.checkFailure
      | some failure => exact hreport.failure failure hfailure
    refine ⟨hcarried.latency, ?_, ?_, hcheck,
      Or.inr (diagnoseFailure_code _ _ hcheck)⟩
    · cases hhost : report.hostCheck with
      | none => exact hcarried.host
      | some check => exact hreport.host check hhost
    · cases hping : report.pingCheck with
      | none => exact hcarried.ping
      | some check => exact hreport.ping check hping

theorem diagnosedDetails_classified {current : ProxyStatusDetails}
    (h : Checker.Classified current) {hostCheck : HostCheckDetails}
    {pingCheck : PingCheckDetails} (hhost : hostCheck.Plausible)
    (hping : pingCheck.Plausible) (clock : DiagnosticReadings) :
    Checker.Classified (diagnosedDetails current hostCheck pingCheck clock) :=
  ⟨h.latency, hhost, hping, h.checkFailure,
    Or.inr (diagnoseFailure_code hostCheck pingCheck h.checkFailure)⟩

/-- Every status the checker stores is classified. -/
def AllClassified (pc : ProxyChecker) : Prop :=
  ∀ (stableID : Text) (details : ProxyStatusDetails),
    pc.statusDetails[stableID]? = some details → Checker.Classified details

theorem AllClassified.of_statusDetails {pc pc' : ProxyChecker}
    (h : AllClassified pc) (hsame : pc'.statusDetails = pc.statusDetails) :
    AllClassified pc' := by
  intro stableID details hdetails
  rw [hsame] at hdetails
  exact h stableID details hdetails

theorem AllClassified.insert {pc pc' : ProxyChecker} (h : AllClassified pc)
    {stableID : Text} {details : ProxyStatusDetails}
    (hdetails : Checker.Classified details)
    (hinsert : pc'.statusDetails = pc.statusDetails.insert stableID details) :
    AllClassified pc' := by
  intro other otherDetails hother
  rw [hinsert, GoMap.get_insert] at hother
  by_cases hid : stableID = other
  · rw [if_pos hid] at hother
    cases hother
    exact hdetails
  · rw [if_neg hid] at hother
    exact h other otherDetails hother

theorem AllClassified.erase {pc pc' : ProxyChecker} (h : AllClassified pc)
    {stableID : Text}
    (herase : pc'.statusDetails = pc.statusDetails.erase stableID) :
    AllClassified pc' := by
  intro other details hother
  rw [herase, GoMap.get_erase] at hother
  by_cases hid : stableID = other
  · rw [if_pos hid] at hother
    cases hother
  · rw [if_neg hid] at hother
    exact h other details hother

/-- The answers a check can meet: no response comes before its request. -/
def Answer.Plausible : Answer → Prop
  | .failed _ => True
  | .response answered => 0 ≤ answered.ttfb

structure Probe.Plausible (probe : Probe) : Prop where
  answer : probe.answer.Plausible
  host : probe.hostCheck.Plausible
  ping : probe.pingCheck.Plausible

structure Surroundings.Plausible (around : Surroundings) : Prop where
  probes : ∀ index, (around.probes index).Plausible
  host : ∀ index, (around.diagnoses index).hostCheck.Plausible
  ping : ∀ index, (around.diagnoses index).pingCheck.Plausible

/-- What a restored status takes over from an earlier run of the checker. -/
structure ProxyChecker.Restored.Plausible (restored : Restored) : Prop where
  host : restored.hostCheck.Plausible
  ping : restored.pingCheck.Plausible
  failure : restored.failure.Known

/-- The event brings in what the outside can really bring: checks that were
made or not, and statuses an earlier run stored. -/
def Event.Plausible : Event → Prop
  | .check _ around => around.Plausible
  | .restoreOfflineStatus restored _ | .restoreProxyFailureStatus restored _ =>
      restored.Plausible
  | .refreshHostDiagnostics _ hostCheck pingCheck _ =>
      hostCheck.Plausible ∧ pingCheck.Plausible
  | _ => True

section

variable {options : Options} {pc : ProxyChecker}

theorem allClassified_storeStatusDetailsMode (h : AllClassified pc)
    (stableID : Text) {report : StatusReport} (hreport : report.Classified)
    (allowMaintenance : Bool) (now : Time) :
    AllClassified
      (pc.storeStatusDetailsMode stableID report allowMaintenance now) := by
  unfold storeStatusDetailsMode
  split
  · refine h.insert (nextStatusDetails_classified hreport ?_ now) rfl
    intro details hdetails
    exact h stableID details hdetails
  · exact h

theorem allClassified_storeOfflineDiagnostics (h : AllClassified pc)
    (stableID : Text) {hostCheck : HostCheckDetails}
    {pingCheck : PingCheckDetails} (hhost : hostCheck.Plausible)
    (hping : pingCheck.Plausible) (clock : DiagnosticReadings) :
    AllClassified
      (pc.storeOfflineDiagnostics stableID hostCheck pingCheck clock) := by
  unfold storeOfflineDiagnostics
  split
  · exact h
  · rename_i current hcurrent
    split
    · exact h
    · exact h.insert
        (diagnosedDetails_classified (h stableID current hcurrent) hhost hping
          clock) rfl

/-- What a diagnosis of the first pass reports. -/
theorem diagnosed_report_classified {hostCheck : HostCheckDetails}
    {pingCheck : PingCheckDetails} (hhost : hostCheck.Plausible)
    (hping : pingCheck.Plausible) :
    StatusReport.Classified
      { online := false
        hostCheck := some hostCheck
        pingCheck := some pingCheck } := by
  refine ⟨Int.le_refl _, ?_, ?_, by simp⟩
  · intro check hcheck
    cases hcheck
    exact hhost
  · intro check hcheck
    cases hcheck
    exact hping

theorem checkByMethod_latency {currentIP : Text} {answer : Answer}
    {result : CheckResult} (hanswer : answer.Plausible)
    (h : checkByMethod options currentIP answer = some result) :
    0 ≤ result.latency := by
  have hip : 0 ≤ (checkByIP currentIP answer).latency := by
    cases answer with
    | failed err => exact Int.le_refl _
    | response response =>
        simp only [checkByIP]
        split <;> exact hanswer
  have hgen : 0 ≤ (checkByGen answer).latency := by
    cases answer with
    | failed err => exact Int.le_refl _
    | response response => exact hanswer
  have hdownload : 0 ≤ (checkByDownload options answer).latency := by
    simp only [checkByDownload]
    split
    · exact Int.le_refl _
    · cases answer with
      | failed err => exact Int.le_refl _
      | response response =>
          simp only
          split
          · exact hanswer
          · split <;> exact hanswer
  unfold checkByMethod at h
  split at h
  · exact Option.some.inj h ▸ hip
  · split at h
    · exact Option.some.inj h ▸ hgen
    · split at h
      · exact Option.some.inj h ▸ hdownload
      · cases h

/-- What a check finds out about its node: a code of the checker, or how long
the node took. -/
def Outcome.Classified : Outcome → Prop
  | .cancelled => True
  | .failed failure => failure.code ∈ failureCodes
  | .succeeded latency => 0 ≤ latency

theorem probeOutcome_classified {currentIP : Text} {proxy : ProxyConfig}
    {probe : Probe} (hprobe : probe.Plausible) :
    (probeOutcome options currentIP proxy probe).Classified := by
  simp only [probeOutcome]
  by_cases hport : options.startPort + proxy.index < 0
  · rw [if_pos hport]
    simp [Outcome.Classified, failureDetails, failureCodes]
  · rw [if_neg hport]
    split
    · simp [Outcome.Classified, failureDetails, failureCodes]
    · rename_i result hresult
      by_cases hcancelled : probe.cancelledAt .afterProbe
      · rw [if_pos hcancelled]
        trivial
      · rw [if_neg hcancelled]
        split
        · exact failureFromError_code _
        · by_cases hsuccess : result.success
          · rw [if_pos hsuccess]
            exact checkByMethod_latency hprobe.answer hresult
          · rw [if_neg hsuccess]
            exact failureFromCheckResult_code _ _

theorem allClassified_markUnavailable (h : AllClassified pc)
    (proxy : ProxyConfig) (allowMaintenance : Bool) {failure : FailureDetails}
    {probe : Probe} (hfailure : failure.Known) (hprobe : probe.Plausible) :
    AllClassified (pc.markUnavailableAndCollectDiagnostics options proxy
      allowMaintenance failure probe) := by
  simp only [markUnavailableAndCollectDiagnostics]
  split
  · apply allClassified_storeOfflineDiagnostics _ _ hprobe.host hprobe.ping
    apply allClassified_storeStatusDetailsMode h
    refine ⟨Int.le_refl _, by simp, by simp, ?_⟩
    intro reported hreported
    cases hreported
    exact hfailure
  · exact h

theorem allClassified_checkProxyInternal (h : AllClassified pc)
    (proxy : ProxyConfig) (expectedGeneration : Option Nat)
    (allowMaintenance : Bool) {probe : Probe} (hprobe : probe.Plausible) :
    AllClassified (pc.checkProxyInternal options proxy expectedGeneration
      allowMaintenance probe) := by
  have houtcome := @probeOutcome_classified options pc.currentIP proxy probe
    hprobe
  simp only [checkProxyInternal]
  split
  · exact h
  · split
    · exact h
    · rename_i failure heq
      rw [heq] at houtcome
      refine AllClassified.of_statusDetails ?_
        (statusDetails_setFailedLatency _ _ _ _ _)
      simp only [setFailedStatus]
      split
      · exact h
      · exact allClassified_markUnavailable
          (h.of_statusDetails (statusDetails_recordFailedStatus _ _ _ _ _))
          proxy allowMaintenance (Or.inr houtcome) hprobe
    · rename_i latency heq
      rw [heq] at houtcome
      simp only [setSucceeded]
      split
      · exact h
      · have hlatency : 0 ≤ latency := houtcome
        refine allClassified_storeStatusDetailsMode
          (h.of_statusDetails ?_) _ ⟨hlatency, by simp, by simp, by simp⟩ _ _
        split <;> rfl

/-- The checks of a run meet what the surroundings hold for them. -/
theorem probe_of_mem_reached {candidates : List Candidate} {order : List Nat}
    {probes : Nat → Probe} {job : Candidate × Probe}
    (h : job ∈ reached candidates order probes) :
    ∃ index, job.2 = probes index := by
  obtain ⟨index, -, hindex⟩ := List.mem_filterMap.mp h
  obtain ⟨candidate, -, rfl⟩ := Option.map_eq_some_iff.mp hindex
  exact ⟨index, rfl⟩

theorem jobs_withCheckRun {allowProjectMaintenance : Bool}
    {around : Surroundings} {start : ProxyChecker → Run}
    {job : Candidate × Probe}
    (h : job ∈ (pc.withCheckRun allowProjectMaintenance around start).jobs) :
    job ∈ (start pc).jobs := by
  unfold withCheckRun at h
  split at h
  · cases h
  · split at h
    · cases h
    · exact h

theorem probe_of_mem_jobs {kind : RunKind} {around : Surroundings}
    {job : Candidate × Probe} (h : job ∈ (kind.start options pc around).jobs) :
    ∃ index, job.2 = around.probes index := by
  have hcandidates : ∀ (stableIDs : List Text)
      (unavailableOnly allowMaintenance : Bool),
      job ∈ (pc.checkCandidates options stableIDs unavailableOnly
        allowMaintenance around).jobs →
      ∃ index, job.2 = around.probes index := by
    intro stableIDs unavailableOnly allowMaintenance hjob
    simp only [checkCandidates, checkAvailabilityCandidates] at hjob
    split at hjob
    · cases hjob
    · split at hjob
      · cases hjob
      · split at hjob
        · cases hjob
        · split at hjob
          · cases hjob
          · exact probe_of_mem_reached hjob
  cases kind with
  | one proxy =>
      have hjob := jobs_withCheckRun h
      split at hjob
      · cases hjob
      · split at hjob
        · cases hjob
        · rw [List.mem_singleton.mp hjob]
          exact ⟨0, rfl⟩
  | all =>
      have hjob := jobs_withCheckRun h
      split at hjob
      · cases hjob
      · exact probe_of_mem_reached hjob
  | unavailable => exact hcandidates _ _ _ (jobs_withCheckRun h)
  | selected stableIDs allowMaintenance =>
      exact hcandidates _ _ _ (jobs_withCheckRun h)

theorem allClassified_check (h : AllClassified pc) (kind : RunKind)
    {around : Surroundings} (haround : around.Plausible) :
    AllClassified ((kind.start options pc around).finish options) := by
  refine finish_rule ⟨?_, ?_⟩ h ?_
  · intro current ip hcurrent
    exact hcurrent.of_statusDetails rfl
  · intro current proxy index hcurrent _ _ _
    exact allClassified_storeStatusDetailsMode hcurrent _
      (diagnosed_report_classified (haround.host index) (haround.ping index))
      _ _
  · intro current hcurrent _ job hjob _
    obtain ⟨index, hprobe⟩ := probe_of_mem_jobs hjob
    exact allClassified_checkProxyInternal hcurrent _ _ _
      (hprobe ▸ haround.probes index)

theorem allClassified_setMaintenanceModeLocked (h : AllClassified pc)
    (stableID : Text) (enabled : Bool) :
    AllClassified (pc.setMaintenanceModeLocked stableID enabled) := by
  unfold setMaintenanceModeLocked
  split
  · exact h
  · exact h.erase rfl

theorem restored_classified {restored : Restored} (h : restored.Plausible)
    (now : Time) : Checker.Classified (restored.details now) := by
  have hfailure : restored.effectiveFailure.Known := by
    unfold Restored.effectiveFailure
    split
    · exact Or.inr (diagnoseFailure_code _ _ (Or.inl rfl))
    · exact h.failure
  exact ⟨Int.le_refl _, h.host, h.ping, hfailure, hfailure⟩

theorem allClassified_restoreStatus (h : AllClassified pc)
    {restored : Restored} {details : ProxyStatusDetails}
    (hdetails : Checker.Classified details) :
    AllClassified (pc.restoreStatus options restored details) := by
  unfold restoreStatus
  split
  · exact h
  · split
    · exact h
    · exact h.insert hdetails rfl

theorem allClassified_step (h : AllClassified pc) {event : Event}
    (hevent : event.Plausible) : AllClassified (step options pc event) := by
  cases event with
  | check kind around => exact allClassified_check h kind hevent
  | setSourcePolicies policies => exact h.of_statusDetails rfl
  | setMaintenanceMode stableID enabled =>
      simp only [step, setMaintenanceMode]
      split
      · exact h
      · split
        · exact h
        · exact allClassified_setMaintenanceModeLocked h _ _
  | replaceMaintenanceModes stableIDs =>
      simp only [step, replaceMaintenanceModes]
      refine foldl_invariant (fun _ current => AllClassified current) _ ?_ ?_
      · refine foldl_invariant (fun _ current => AllClassified current) _ h ?_
        intro _ _ _ _ hcurrent
        exact allClassified_setMaintenanceModeLocked hcurrent _ _
      · intro _ _ _ _ hcurrent
        exact allClassified_setMaintenanceModeLocked hcurrent _ _
  | setProjectMaintenance enabled => exact h.of_statusDetails rfl
  | clearProjectMonitoringState =>
      simp only [step, clearProjectMonitoringState]
      refine foldl_invariant (fun _ current => AllClassified current) _ h ?_
      intro _ proxy current _ hcurrent
      split
      · exact hcurrent
      · exact hcurrent.erase rfl
  | updateProxies proxies =>
      intro stableID details hdetails
      apply h stableID details
      simp only [step, updateProxies, rebuildSourceIndex, clearMetrics,
        Std.ExtTreeMap.getElem?_filter] at hdetails
      have hkept := by simpa using hdetails
      exact hkept.1
  | restoreOfflineStatus restored now =>
      have hdetails := restored_classified hevent now
      exact allClassified_restoreStatus h
        ⟨hdetails.latency, hdetails.host, hdetails.ping, hdetails.checkFailure,
          hdetails.failure⟩
  | restoreProxyFailureStatus restored now =>
      have hdetails := restored_classified hevent now
      exact allClassified_restoreStatus h
        ⟨hdetails.latency, hdetails.host, hdetails.ping, hdetails.checkFailure,
          hdetails.failure⟩
  | refreshHostDiagnostics stableID hostCheck pingCheck now =>
      rcases refreshHostDiagnostics_cases options pc stableID hostCheck
          pingCheck now with hsame | ⟨current, -, -, hstored⟩
      · simp only [step, hsame]
        exact h
      · simp only [step, hstored]
        exact allClassified_storeStatusDetailsMode h _
          (diagnosed_report_classified hevent.1 hevent.2) _ _

end

end XrayChecker.Checker

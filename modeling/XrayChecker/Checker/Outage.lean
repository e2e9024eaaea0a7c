import XrayChecker.Checker.Export

/-
The clocks of an outage.  Whatever order the writers of a status come in, its
timestamps fit its state, and reclassifying a failure never restarts the clock
of the whole outage; only a restored status replaces it.
-/

namespace XrayChecker.Checker

open Go ProxyChecker

/-- A stored status whose timestamps fit its state, by a given time. -/
structure WellTimed (details : ProxyStatusDetails) (now : Time) : Prop where
  set : details.status ≠ .unset
  online : details.online = true ↔ details.status = .online
  working : details.status = .online → details.downSince = 0 ∧
    details.proxyFailureSince = 0 ∧ details.failingSince = 0
  offline : details.status = .offline →
    details.downSince ≠ 0 ∧ details.proxyFailureSince = 0
  proxyFailure : details.status = .proxyFailure →
    details.proxyFailureSince ≠ 0 ∧ details.downSince = 0
  failing : details.status ≠ .online → details.failingSince ≠ 0 ∧
    details.failingSince ≤ now ∧
    (details.status = .offline → details.failingSince ≤ details.downSince) ∧
    (details.status = .proxyFailure →
      details.failingSince ≤ details.proxyFailureSince)

namespace WellTimed

variable {details : ProxyStatusDetails} {now later : Time}

theorem effectiveStatus_eq (h : WellTimed details now) :
    details.effectiveStatus = details.status := by
  rw [ProxyStatusDetails.effectiveStatus, if_pos h.set]

theorem mono (h : WellTimed details now) (hlater : now ≤ later) :
    WellTimed details later :=
  { h with
    failing := fun hstatus =>
      have hfailing := h.failing hstatus
      ⟨hfailing.1, hfailing.2.1.trans hlater, hfailing.2.2⟩ }

/-- The outage of a failing status starts where its clock says. -/
theorem serviceFailureSince_eq (h : WellTimed details now)
    (hstatus : details.status ≠ .online) :
    details.serviceFailureSince = details.failingSince := by
  have hzero : details.failingSince.isZero = false := by
    simpa [Time.isZero] using (h.failing hstatus).1
  simp [ProxyStatusDetails.serviceFailureSince, h.effectiveStatus_eq, hstatus,
    hzero]

theorem online_eq_false_iff (h : WellTimed details now) :
    details.online = false ↔ details.status ≠ .online := by
  rw [← Bool.not_eq_true, h.online]

end WellTimed

theorem settledStatus_of_online (previous : Option ProxyStatusDetails)
    {report : StatusReport} (h : report.online = true) :
    settledStatus previous report = .online := by
  cases previous <;> simp [settledStatus, classifyAvailabilityState, h]

/-- A failed report settles on one of the two failing states. -/
theorem settledStatus_of_failing (previous : Option ProxyStatusDetails)
    {report : StatusReport} (h : report.online = false) :
    settledStatus previous report = .offline ∨
      settledStatus previous report = .proxyFailure := by
  have hclassified : classifyAvailabilityState report.online report.hostCheck
      report.pingCheck = .offline ∨
      classifyAvailabilityState report.online report.hostCheck
        report.pingCheck = .proxyFailure := by
    simp only [classifyAvailabilityState, h, Bool.false_eq_true, ↓reduceIte]
    split
    · split <;> simp
    · simp
  unfold settledStatus
  split
  · split
    · exact Or.inl rfl
    · exact hclassified
  · exact hclassified

/-- The start of an interval that goes on if the previous status was in the
same state already. -/
def keptSince (previous : Option ProxyStatusDetails)
    (status : AvailabilityState) (since : ProxyStatusDetails → Time)
    (now : Time) : Time :=
  match previous with
  | none => now
  | some previous =>
      if previous.effectiveStatus = status ∧ since previous ≠ 0 then
        since previous
      else now

/-- The start of the outage a failed report belongs to. -/
def outageSince (previous : Option ProxyStatusDetails) (now : Time) : Time :=
  match previous with
  | none => now
  | some previous =>
      if previous.effectiveStatus ≠ .online ∧
          previous.serviceFailureSince ≠ 0 then
        previous.serviceFailureSince
      else now

section Next

variable (previous : Option ProxyStatusDetails) (report : StatusReport)
  (now : Time)

theorem nextStatusDetails_status :
    (nextStatusDetails previous report now).status =
      settledStatus previous report := by
  cases previous <;> cases h : report.online <;>
    simp [nextStatusDetails, carriedDetails, h]

theorem nextStatusDetails_downSince :
    (nextStatusDetails previous report now).downSince =
      if settledStatus previous report = .offline then
        keptSince previous .offline (·.downSince) now
      else 0 := by
  cases previous with
  | none =>
      cases h : report.online <;>
        simp [nextStatusDetails, carriedDetails, keptSince, h, Time.isZero]
  | some previous =>
      by_cases hsettled : settledStatus (some previous) report = .offline <;>
        by_cases hbefore : previous.effectiveStatus = .offline <;>
        by_cases hzero : previous.downSince = 0 <;>
        cases h : report.online <;>
        simp [nextStatusDetails, carriedDetails, keptSince, h, Time.isZero,
          hsettled, hbefore, hzero]

theorem nextStatusDetails_proxyFailureSince :
    (nextStatusDetails previous report now).proxyFailureSince =
      if settledStatus previous report = .proxyFailure then
        keptSince previous .proxyFailure (·.proxyFailureSince) now
      else 0 := by
  cases previous with
  | none =>
      cases h : report.online <;>
        simp [nextStatusDetails, carriedDetails, keptSince, h, Time.isZero]
  | some previous =>
      by_cases hsettled :
          settledStatus (some previous) report = .proxyFailure <;>
        by_cases hbefore : previous.effectiveStatus = .proxyFailure <;>
        by_cases hzero : previous.proxyFailureSince = 0 <;>
        cases h : report.online <;>
        simp [nextStatusDetails, carriedDetails, keptSince, h, Time.isZero,
          hsettled, hbefore, hzero]

theorem nextStatusDetails_failingSince :
    (nextStatusDetails previous report now).failingSince =
      if report.online then 0 else outageSince previous now := by
  cases previous with
  | none =>
      cases h : report.online <;>
        simp [nextStatusDetails, carriedDetails, outageSince, h, Time.isZero]
  | some previous =>
      by_cases hbefore : previous.effectiveStatus = .online <;>
        by_cases hzero : previous.serviceFailureSince = 0 <;>
        cases h : report.online <;>
        simp [nextStatusDetails, carriedDetails, outageSince, h, Time.isZero,
          hbefore, hzero]

end Next

section Preserved

variable {previous : Option ProxyStatusDetails} {clock now : Time}

theorem outageSince_ne_zero (hnow : now ≠ 0) : outageSince previous now ≠
    0 := by
  unfold outageSince
  split
  · exact hnow
  · split
    · rename_i hkept
      exact hkept.2
    · exact hnow

theorem keptSince_ne_zero (hnow : now ≠ 0) {status : AvailabilityState}
    {since : ProxyStatusDetails → Time} :
    keptSince previous status since now ≠ 0 := by
  unfold keptSince
  split
  · exact hnow
  · split
    · rename_i hkept
      exact hkept.2
    · exact hnow

/-- Between two failing statuses the outage goes on. -/
theorem outageSince_eq {details : ProxyStatusDetails}
    (h : WellTimed details clock) (hstatus : details.status ≠ .online) :
    outageSince (some details) now = details.failingSince := by
  have hfailing := (h.failing hstatus).1
  simp [outageSince, h.effectiveStatus_eq, h.serviceFailureSince_eq hstatus,
    hstatus, hfailing]

theorem outageSince_le (hprevious : ∀ details ∈ previous,
    WellTimed details clock) (hclock : clock ≤ now) :
    outageSince previous now ≤ now := by
  cases previous with
  | none => exact le_rfl
  | some details =>
      have hdetails := hprevious details rfl
      by_cases hstatus : details.status = .online
      · simp [outageSince, hdetails.effectiveStatus_eq, hstatus]
      · rw [outageSince_eq hdetails hstatus]
        exact (hdetails.failing hstatus).2.1.trans hclock

/-- The interval of a failing state starts within the outage. -/
theorem outageSince_le_keptSince (hprevious : ∀ details ∈ previous,
    WellTimed details clock) (hclock : clock ≤ now)
    {status : AvailabilityState} {since : ProxyStatusDetails → Time}
    (hfailing : status ≠ .online)
    (hsince : ∀ details ∈ previous, details.status = status →
      details.failingSince ≤ since details) :
    outageSince previous now ≤ keptSince previous status since now := by
  cases previous with
  | none => exact le_rfl
  | some details =>
      have hdetails := hprevious details rfl
      by_cases hsame : details.status = status ∧ since details ≠ 0
      · have hstatus : details.status ≠ .online := by
          rw [hsame.1]
          exact hfailing
        rw [outageSince_eq hdetails hstatus, keptSince,
          hdetails.effectiveStatus_eq, if_pos hsame]
        exact hsince details rfl hsame.1
      · have hkept : keptSince (some details) status since now = now := by
          rw [keptSince, hdetails.effectiveStatus_eq, if_neg hsame]
        rw [hkept]
        exact outageSince_le hprevious hclock

/-- A stored report keeps the timestamps fitting. -/
theorem wellTimed_next (hprevious : ∀ details ∈ previous,
    WellTimed details clock) (hclock : clock ≤ now) (hnow : now ≠ 0)
    (report : StatusReport) :
    WellTimed (nextStatusDetails previous report now) now := by
  have hstatus := nextStatusDetails_status previous report now
  have honline := online_nextStatusDetails previous report now
  have hdown := nextStatusDetails_downSince previous report now
  have hproxy := nextStatusDetails_proxyFailureSince previous report now
  have hfailing := nextStatusDetails_failingSince previous report now
  by_cases hreport : report.online = true
  · have hsettled := settledStatus_of_online previous hreport
    rw [hsettled] at hstatus hdown hproxy
    constructor <;> simp_all
  · have hreport : report.online = false := by simpa using hreport
    have hne : outageSince previous now ≠ 0 := outageSince_ne_zero hnow
    have hle := outageSince_le hprevious hclock
    simp only [hreport, Bool.false_eq_true, ↓reduceIte] at hfailing honline
    rcases settledStatus_of_failing previous hreport with hsettled | hsettled
    · have hkept : keptSince previous .offline (·.downSince) now ≠ 0 :=
        keptSince_ne_zero hnow
      have hwithin : outageSince previous now ≤
          keptSince previous .offline (·.downSince) now :=
        outageSince_le_keptSince hprevious hclock (by simp)
          fun details hdetails hstatus =>
            ((hprevious details hdetails).failing (by simp [hstatus])).2.2.1
              hstatus
      simp only [hsettled, ↓reduceIte, reduceCtorEq] at hstatus hdown hproxy
      constructor <;> simp_all
    · have hkept : keptSince previous .proxyFailure (·.proxyFailureSince) now ≠
          0 := keptSince_ne_zero hnow
      have hwithin : outageSince previous now ≤
          keptSince previous .proxyFailure (·.proxyFailureSince) now :=
        outageSince_le_keptSince hprevious hclock (by simp)
          fun details hdetails hstatus =>
            ((hprevious details hdetails).failing (by simp [hstatus])).2.2.2
              hstatus
      simp only [hsettled, ↓reduceIte, reduceCtorEq] at hstatus hdown hproxy
      constructor <;> simp_all

/-- The two states diagnostics can tell apart. -/
theorem classify_diagnosed (hostCheck : HostCheckDetails)
    (pingCheck : PingCheckDetails) :
    classifyAvailabilityState false (some hostCheck) (some pingCheck) =
        .offline ∨
      classifyAvailabilityState false (some hostCheck) (some pingCheck) =
        .proxyFailure := by
  simp only [classifyAvailabilityState, Bool.false_eq_true, ↓reduceIte]
  split <;> simp

theorem failingSince_diagnosed {details : ProxyStatusDetails}
    (h : WellTimed details clock) (hstatus : details.status ≠ .online)
    (hostCheck : HostCheckDetails) (pingCheck : PingCheckDetails)
    (readings : DiagnosticReadings) :
    (diagnosedDetails details hostCheck pingCheck readings).failingSince =
      details.failingSince := by
  have hfailing := (h.failing hstatus).1
  simp [diagnosedDetails, Time.isZero, hfailing]

/-- Diagnostics keep the timestamps of a failing status fitting. -/
theorem wellTimed_diagnosed {details : ProxyStatusDetails}
    (h : WellTimed details clock) (honline : details.online = false)
    {readings : DiagnosticReadings} (hclock : clock ≤ readings.sinceAt)
    (hsince : readings.sinceAt ≠ 0) (hostCheck : HostCheckDetails)
    (pingCheck : PingCheckDetails) :
    WellTimed (diagnosedDetails details hostCheck pingCheck readings)
      readings.sinceAt := by
  have hstatus := h.online_eq_false_iff.mp honline
  have hkept := failingSince_diagnosed h hstatus hostCheck pingCheck readings
  obtain ⟨hne, hle, hoffline, hproxy⟩ := h.failing hstatus
  have hnow : details.failingSince ≤ readings.sinceAt := hle.trans hclock
  have hfrom : ∀ since : Time,
      (since ≠ 0 → details.failingSince ≤ since) →
      details.failingSince ≤
        if since.isZero then readings.sinceAt else since := by
    intro since hkeeps
    split
    · exact hnow
    · rename_i hset
      exact hkeeps (by simpa [Time.isZero] using hset)
  have hset : ∀ since : Time,
      (if since.isZero then readings.sinceAt else since) ≠ 0 := by
    intro since
    split
    · exact hsince
    · rename_i hset
      simpa [Time.isZero] using hset
  have hstart : ∀ since : Time, since = details.downSince ∨
      since = details.proxyFailureSince → since ≠ 0 →
      details.failingSince ≤ since := by
    intro since hwhich hne'
    cases hwas : details.status with
    | unset => exact absurd hwas h.set
    | online => exact absurd hwas hstatus
    | offline =>
        rcases hwhich with rfl | rfl
        · exact hoffline hwas
        · exact absurd (h.offline hwas).2 hne'
    | proxyFailure =>
        rcases hwhich with rfl | rfl
        · exact absurd (h.proxyFailure hwas).2 hne'
        · exact hproxy hwas
  have hdownFrom := hfrom details.downSince (hstart _ (Or.inl rfl))
  have hproxyFrom := hfrom details.proxyFailureSince (hstart _ (Or.inr rfl))
  rcases classify_diagnosed hostCheck pingCheck with hnext | hnext
  · constructor <;> simp_all [diagnosedDetails]
  · constructor <;> simp_all [diagnosedDetails]

end Preserved

/-- The calls that write a status. -/
inductive StatusCall where
  | store (stableID : Text) (report : StatusReport) (allowMaintenance : Bool)
      (now : Time)
  | diagnose (stableID : Text) (hostCheck : HostCheckDetails)
      (pingCheck : PingCheckDetails) (readings : DiagnosticReadings)
  | refresh (stableID : Text) (hostCheck : HostCheckDetails)
      (pingCheck : PingCheckDetails) (now : Time)
  | restoreOffline (restored : Restored) (now : Time)
  | restoreProxyFailure (restored : Restored) (now : Time)

namespace StatusCall

def apply (options : Options) (pc : ProxyChecker) : StatusCall → ProxyChecker
  | .store stableID report allowMaintenance now =>
      pc.storeStatusDetailsMode stableID report allowMaintenance now
  | .diagnose stableID hostCheck pingCheck readings =>
      pc.storeOfflineDiagnostics stableID hostCheck pingCheck readings
  | .refresh stableID hostCheck pingCheck now =>
      (pc.refreshHostDiagnosticsByStableID options stableID hostCheck
        pingCheck now).1
  | .restoreOffline restored now => pc.restoreOfflineStatus options restored now
  | .restoreProxyFailure restored now =>
      pc.restoreProxyFailureStatus options restored now

/-- The last reading of the clock a call takes. -/
def finishedAt : StatusCall → Time
  | .store _ _ _ now => now
  | .diagnose _ _ _ readings => readings.sinceAt
  | .refresh _ _ _ now => now
  | .restoreOffline _ now => now
  | .restoreProxyFailure _ now => now

/-- The readings of a call follow `clock` and one another, none is the zero
time, and a restored timestamp is not in the future. -/
def InOrder (clock : Time) : StatusCall → Prop
  | .store _ _ _ now => clock ≤ now ∧ now ≠ 0
  | .diagnose _ _ _ readings =>
      clock ≤ readings.changedAt ∧ readings.changedAt ≤ readings.failingAt ∧
        readings.failingAt ≤ readings.sinceAt ∧ readings.changedAt ≠ 0
  | .refresh _ _ _ now => clock ≤ now ∧ now ≠ 0
  | .restoreOffline restored now =>
      clock ≤ now ∧ now ≠ 0 ∧ restored.since ≤ now
  | .restoreProxyFailure restored now =>
      clock ≤ now ∧ now ≠ 0 ∧ restored.since ≤ now

instance (clock : Time) (call : StatusCall) : Decidable (call.InOrder clock) :=
  match call with
  | .store _ _ _ _ => inferInstanceAs (Decidable (_ ∧ _))
  | .diagnose _ _ _ _ => inferInstanceAs (Decidable (_ ∧ _ ∧ _ ∧ _))
  | .refresh _ _ _ _ => inferInstanceAs (Decidable (_ ∧ _))
  | .restoreOffline _ _ => inferInstanceAs (Decidable (_ ∧ _ ∧ _))
  | .restoreProxyFailure _ _ => inferInstanceAs (Decidable (_ ∧ _ ∧ _))

/-- The call restores the status of the node. -/
def Restores (stableID : Text) : StatusCall → Prop
  | .restoreOffline restored _ => restored.stableID = stableID
  | .restoreProxyFailure restored _ => restored.stableID = stableID
  | _ => False

theorem le_finishedAt {clock : Time} {call : StatusCall}
    (h : call.InOrder clock) : clock ≤ call.finishedAt := by
  cases call with
  | store stableID report allowMaintenance now => exact h.1
  | diagnose stableID hostCheck pingCheck readings =>
      exact h.1.trans (h.2.1.trans h.2.2.1)
  | refresh stableID hostCheck pingCheck now => exact h.1
  | restoreOffline restored now => exact h.1
  | restoreProxyFailure restored now => exact h.1

end StatusCall

/-- What one call does to the status of a node: nothing, a report over the
previous status, diagnostics over a failing one, or a restored outage. -/
inductive Written (clock : Time) (call : StatusCall)
    (previous : Option ProxyStatusDetails) (stableID : Text) :
    Option ProxyStatusDetails → Prop where
  | kept : Written clock call previous stableID previous
  | reported (report : StatusReport) (now : Time)
      (hnow : call.finishedAt = now ∧ clock ≤ now ∧ now ≠ 0) :
      Written clock call previous stableID
        (some (nextStatusDetails previous report now))
  | diagnosed (details : ProxyStatusDetails) (hostCheck : HostCheckDetails)
      (pingCheck : PingCheckDetails) (readings : DiagnosticReadings)
      (hprevious : previous = some details) (honline : details.online = false)
      (hnow : call.finishedAt = readings.sinceAt ∧
        clock ≤ readings.sinceAt ∧ readings.sinceAt ≠ 0) :
      Written clock call previous stableID
        (some (diagnosedDetails details hostCheck pingCheck readings))
  | restored (details : ProxyStatusDetails)
      (htimed : WellTimed details call.finishedAt)
      (hrestores : call.Restores stableID) :
      Written clock call previous stableID (some details)

theorem written_store (pc : ProxyChecker) (call : StatusCall) {clock : Time}
    (stableID other : Text) (report : StatusReport) (allowMaintenance : Bool)
    {now : Time} (hnow : call.finishedAt = now ∧ clock ≤ now ∧ now ≠ 0) :
    Written clock call pc.statusDetails[other]? other
      (pc.storeStatusDetailsMode stableID report allowMaintenance
        now).statusDetails[other]? := by
  unfold storeStatusDetailsMode
  split
  · rw [GoMap.get_insert]
    split
    · rename_i hsame
      rw [hsame]
      exact .reported report now hnow
    · exact .kept
  · exact .kept

theorem written_restoreStatus (options : Options) (pc : ProxyChecker)
    (call : StatusCall) (clock : Time) (restored : Restored)
    {details : ProxyStatusDetails} (other : Text)
    (htimed : restored.since ≠ 0 → WellTimed details call.finishedAt)
    (hrestores : restored.stableID = other → call.Restores other) :
    Written clock call pc.statusDetails[other]? other
      (pc.restoreStatus options restored details).statusDetails[other]? := by
  unfold restoreStatus
  split
  · exact .kept
  · rename_i hset
    have hsince : restored.since ≠ 0 := by
      intro hzero
      simp [hzero, Time.isZero] at hset
    split
    · exact .kept
    · rw [GoMap.get_insert]
      split
      · rename_i hsame
        exact .restored details (htimed hsince) (hrestores hsame)
      · exact .kept

/-- Every call writes a node's status in one of these ways. -/
theorem written_apply (options : Options) (pc : ProxyChecker) {clock : Time}
    {call : StatusCall} (h : call.InOrder clock) (other : Text) :
    Written clock call pc.statusDetails[other]? other
      (call.apply options pc).statusDetails[other]? := by
  cases call with
  | store stableID report allowMaintenance now =>
      exact written_store pc _ stableID other report allowMaintenance ⟨rfl, h⟩
  | diagnose stableID hostCheck pingCheck readings =>
      obtain ⟨hfirst, hsecond, hthird, hzero⟩ := h
      simp only [StatusCall.apply, storeOfflineDiagnostics]
      split
      · exact .kept
      · rename_i current hcurrent
        split
        · exact .kept
        · rename_i honline
          rw [GoMap.get_insert]
          split
          · rename_i hsame
            rw [← hsame, hcurrent]
            refine .diagnosed current hostCheck pingCheck readings rfl
              (by simpa using honline) ⟨rfl, ?_, ?_⟩
            · exact hfirst.trans (hsecond.trans hthird)
            · intro hsince
              apply hzero
              exact Nat.le_zero.mp ((hsecond.trans hthird).trans hsince.le)
          · exact .kept
  | refresh stableID hostCheck pingCheck now =>
      simp only [StatusCall.apply]
      rcases refreshHostDiagnostics_cases options pc stableID hostCheck
        pingCheck now with hsame | ⟨_, -, -, hstored⟩
      · rw [hsame]
        exact .kept
      · rw [hstored]
        exact written_store pc _ stableID other _ false ⟨rfl, h⟩
  | restoreOffline restored now =>
      refine written_restoreStatus options pc _ clock restored other
        (fun hsince => ?_) id
      constructor <;> simp_all [Restored.details, StatusCall.InOrder,
        StatusCall.finishedAt]
  | restoreProxyFailure restored now =>
      refine written_restoreStatus options pc _ clock restored other
        (fun hsince => ?_) id
      constructor <;> simp_all [Restored.details, StatusCall.InOrder,
        StatusCall.finishedAt]

/-- The checker and the last reading of its clock. -/
structure Clocked where
  pc : ProxyChecker
  now : Time := 0

def callStep (options : Options) (s : Clocked) (call : StatusCall) : Clocked :=
  ⟨call.apply options s.pc, call.finishedAt⟩

/-- Every stored status is well timed. -/
def Timed (s : Clocked) : Prop :=
  ∀ (stableID : Text) (details : ProxyStatusDetails),
    s.pc.statusDetails[stableID]? = some details →
    WellTimed details s.now

variable {options : Options}

theorem timed_step {s : Clocked} {call : StatusCall} (h : Timed s)
    (horder : call.InOrder s.now) : Timed (callStep options s call) := by
  intro stableID details hdetails
  have hwritten := written_apply options s.pc horder stableID
  change (call.apply options s.pc).statusDetails[stableID]? =
    some details at hdetails
  rw [hdetails] at hwritten
  generalize hprevious : s.pc.statusDetails[stableID]? = previous at hwritten
  have htimed : ∀ before ∈ previous, WellTimed before s.now :=
    fun before hbefore => h stableID before (hprevious.trans hbefore)
  change WellTimed details call.finishedAt
  cases hwritten with
  | kept => exact (htimed details rfl).mono (StatusCall.le_finishedAt horder)
  | reported report now hnow =>
      rw [hnow.1]
      exact wellTimed_next htimed hnow.2.1 hnow.2.2 report
  | diagnosed before hostCheck pingCheck readings hbefore honline hnow =>
      rw [hnow.1]
      exact wellTimed_diagnosed (htimed before hbefore) honline hnow.2.1
        hnow.2.2 hostCheck pingCheck
  | restored _ htimed _ => exact htimed

namespace Sample

/-- A checker with one tracked node and no statuses. -/
def fresh : Clocked := ⟨{ proxies := [node [] "nl-1"] }, 0⟩

end Sample

end XrayChecker.Checker

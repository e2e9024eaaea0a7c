import XrayChecker.Checker.Failure
import XrayChecker.Models.ProxyConfig

/-
The availability status the checker keeps for every node, and the operations
that write it.
-/

namespace XrayChecker.Checker

open Go

/-- `AvailabilityState`; `unset` is the zero value of statuses that predate
the explicit three states. -/
inductive AvailabilityState where
  | unset
  | online
  | proxyFailure
  | offline
deriving DecidableEq

structure ProxyStatusDetails where
  online : Bool := false
  status : AvailabilityState := .unset
  latency : Int := 0
  checkedAt : Time := 0
  lastChangedAt : Time := 0
  downSince : Time := 0
  proxyFailureSince : Time := 0
  failingSince : Time := 0
  hostCheck : HostCheckDetails := {}
  pingCheck : PingCheckDetails := {}
  checkFailure : FailureDetails := {}
  failure : FailureDetails := {}
deriving DecidableEq

namespace ProxyStatusDetails

def effectiveStatus (details : ProxyStatusDetails) : AvailabilityState :=
  if details.status ≠ .unset then details.status
  else if details.online then .online
  else if !details.proxyFailureSince.isZero then .proxyFailure
  else .offline

theorem effectiveStatus_ne_unset (details : ProxyStatusDetails) :
    details.effectiveStatus ≠ .unset := by
  unfold effectiveStatus
  split
  · assumption
  · split
    · simp
    · split <;> simp

def isOffline (details : ProxyStatusDetails) : Bool :=
  details.effectiveStatus == .offline

def isProxyFailure (details : ProxyStatusDetails) : Bool :=
  details.effectiveStatus == .proxyFailure

/-- The start of the outage as service-level consumers count it: the first
failed check, however the failure was reclassified since. -/
def serviceFailureSince (details : ProxyStatusDetails) : Time :=
  if details.effectiveStatus = .online then 0
  else if !details.failingSince.isZero then details.failingSince
  else if details.isProxyFailure then details.proxyFailureSince
  else if details.isOffline then details.downSince
  else 0

end ProxyStatusDetails

/-- `classifyAvailabilityState`. -/
def classifyAvailabilityState (online : Bool)
    (hostCheck : Option HostCheckDetails)
    (pingCheck : Option PingCheckDetails) : AvailabilityState :=
  if online then .online
  else
    match hostCheck, pingCheck with
    | some host, some ping =>
        if host.checked && !host.online && ping.checked && !ping.online then
          .offline
        else .proxyFailure
    | _, _ => .proxyFailure

/-- One result to be stored: the arguments of `storeStatusDetailsLockedMode`
besides the node and the mode. -/
structure StatusReport where
  online : Bool
  latency : Int := 0
  hostCheck : Option HostCheckDetails := none
  pingCheck : Option PingCheckDetails := none
  failure : Option FailureDetails := none
deriving DecidableEq

/-- The status `storeStatusDetailsLockedMode` settles on.  A repeated proxy
failure without diagnostics does not prove that an offline host recovered. -/
def settledStatus (previous : Option ProxyStatusDetails)
    (report : StatusReport) : AvailabilityState :=
  let status :=
    classifyAvailabilityState report.online report.hostCheck report.pingCheck
  match previous with
  | some previous =>
      if !report.online && report.hostCheck.isNone &&
          report.pingCheck.isNone && previous.effectiveStatus == .offline then
        .offline
      else status
  | none => status

/-- What the new record takes over from the previous one. -/
def carriedDetails (previous : Option ProxyStatusDetails)
    (report : StatusReport) (status : AvailabilityState) (now : Time) :
    ProxyStatusDetails :=
  let details : ProxyStatusDetails :=
    { online := report.online, status := status, latency := report.latency
      checkedAt := now, lastChangedAt := now }
  match previous with
  | none => details
  | some previous =>
      { details with
        lastChangedAt :=
          if previous.effectiveStatus = status then previous.lastChangedAt
          else now
        hostCheck := if report.online then {} else previous.hostCheck
        pingCheck := if report.online then {} else previous.pingCheck
        checkFailure := if report.online then {} else previous.checkFailure
        failure := if report.online then {} else previous.failure
        downSince :=
          if status = .offline ∧ previous.effectiveStatus = .offline then
            previous.downSince
          else 0
        proxyFailureSince :=
          if status = .proxyFailure ∧
              previous.effectiveStatus = .proxyFailure then
            previous.proxyFailureSince
          else 0
        failingSince :=
          if !report.online ∧ previous.effectiveStatus ≠ .online then
            previous.serviceFailureSince
          else 0 }

/-- The record `storeStatusDetailsLockedMode` stores over `previous` at
`now`. -/
def nextStatusDetails (previous : Option ProxyStatusDetails)
    (report : StatusReport) (now : Time) : ProxyStatusDetails :=
  let status := settledStatus previous report
  let details := carriedDetails previous report status now
  let details :=
    { details with
      downSince :=
        if status = .offline ∧ details.downSince.isZero then now
        else details.downSince
      proxyFailureSince :=
        if status = .proxyFailure ∧ details.proxyFailureSince.isZero then now
        else details.proxyFailureSince
      failingSince :=
        if !report.online ∧ details.failingSince.isZero then now
        else details.failingSince }
  if report.online then details
  else
    let hostCheck := report.hostCheck.getD details.hostCheck
    let pingCheck := report.pingCheck.getD details.pingCheck
    let checkFailure := report.failure.getD details.checkFailure
    { details with
      hostCheck := hostCheck
      pingCheck := pingCheck
      checkFailure := checkFailure
      failure := diagnoseFailure checkFailure hostCheck pingCheck }

/-- The three clock readings of `storeOfflineDiagnostics`, in order. -/
structure DiagnosticReadings where
  changedAt : Time
  failingAt : Time
  sinceAt : Time

/-- The record `storeOfflineDiagnostics` stores over a failing one. -/
def diagnosedDetails (current : ProxyStatusDetails)
    (hostCheck : HostCheckDetails) (pingCheck : PingCheckDetails)
    (clock : DiagnosticReadings) : ProxyStatusDetails :=
  let status :=
    classifyAvailabilityState false (some hostCheck) (some pingCheck)
  let failingSince :=
    if current.failingSince.isZero then
      if current.serviceFailureSince.isZero then clock.failingAt
      else current.serviceFailureSince
    else current.failingSince
  { current with
    lastChangedAt :=
      if current.effectiveStatus ≠ status then clock.changedAt
      else current.lastChangedAt
    failingSince := failingSince
    status := status
    hostCheck := hostCheck
    pingCheck := pingCheck
    failure := diagnoseFailure current.checkFailure hostCheck pingCheck
    downSince :=
      if status = .offline then
        if current.downSince.isZero then clock.sinceAt else current.downSince
      else 0
    proxyFailureSince :=
      if status = .offline then 0
      else if current.proxyFailureSince.isZero then clock.sinceAt
      else current.proxyFailureSince }

end XrayChecker.Checker

import XrayChecker.NodeArchive.Types

/-
What the archive derives from one observation of a node: its record, with the
downtime accounting, and its availability samples.
-/

namespace XrayChecker.NodeArchive

open Go Checker

/-- The start of the downtime an offline status opens. -/
def openedSince (details : ProxyStatusDetails) (now : Time) : Time :=
  if details.downSince = 0 then now else details.downSince

namespace NodeRecord

variable (record : NodeRecord)

/-- `applyProxy`, for a node with its identity filled in. -/
def applyProxy (proxy : ProxyConfig) (now : Time) : NodeRecord :=
  { record with
    stableID :=
      if record.stableID = [] then proxy.stableID else record.stableID
    firstSeenAt :=
      if record.firstSeenAt.isZero then now else record.firstSeenAt
    lastSeenAt := now
    name := proxy.name
    subName := proxy.subName
    server := proxy.server
    port := proxy.port
    protocol := proxy.protocol
    active := true }

/-- `closeDowntime`. -/
def closeDowntime (closedAt : Time) : NodeRecord :=
  if record.currentDownSince.isZero then record
  else if closedAt < record.currentDownSince then
    { record with currentDownSince := 0 }
  else
    let durationSec : Int := wholeSeconds record.currentDownSince closedAt
    { record with
      totalDowntimeSec := record.totalDowntimeSec + durationSec
      longestDowntimeSec := max durationSec record.longestDowntimeSec
      currentDownSince := 0 }

/-- The seconds a close adds to the downtime. -/
def creditedSec (closedAt : Time) : Int :=
  if record.currentDownSince = 0 ∨ closedAt < record.currentDownSince then 0
  else wholeSeconds record.currentDownSince closedAt

/-- A close credits the open interval, if any, and leaves none open. -/
theorem closeDowntime_eq (closedAt : Time) :
    record.closeDowntime closedAt =
      { record with
        totalDowntimeSec := record.totalDowntimeSec + record.creditedSec
          closedAt
        longestDowntimeSec :=
          if record.currentDownSince = 0 ∨ closedAt < record.currentDownSince
          then record.longestDowntimeSec
          else max (record.creditedSec closedAt) record.longestDowntimeSec
        currentDownSince := 0 } := by
  by_cases hzero : record.currentDownSince = 0
  · cases record
    simp_all [closeDowntime, creditedSec, Time.isZero]
  · by_cases hearly : closedAt < record.currentDownSince
    · simp [closeDowntime, creditedSec, Time.isZero, hzero, hearly]
    · simp [closeDowntime, creditedSec, Time.isZero, hzero, hearly]

/-- `closeProxyFailure`. -/
def closeProxyFailure (closedAt : Time) : NodeRecord :=
  if record.currentProxyFailureSince.isZero then record
  else if closedAt < record.currentProxyFailureSince then
    { record with currentProxyFailureSince := 0 }
  else
    let durationSec : Int :=
      wholeSeconds record.currentProxyFailureSince closedAt
    { record with
      totalProxyFailureSec := record.totalProxyFailureSec + durationSec
      longestProxyFailureSec := max durationSec record.longestProxyFailureSec
      currentProxyFailureSince := 0 }

/-- Closing a proxy failure touches nothing of the downtime, nor what the
last recording found. -/
structure SameDowntime (record other : NodeRecord) : Prop where
  stableID : record.stableID = other.stableID
  active : record.active = other.active
  maintenance : record.maintenance = other.maintenance
  firstSeenAt : record.firstSeenAt = other.firstSeenAt
  totalDowntimeSec : record.totalDowntimeSec = other.totalDowntimeSec
  longestDowntimeSec : record.longestDowntimeSec = other.longestDowntimeSec
  currentDownSince : record.currentDownSince = other.currentDownSince
  lastOfflineAt : record.lastOfflineAt = other.lastOfflineAt
  lastStatusAt : record.lastStatusAt = other.lastStatusAt

theorem closeProxyFailure_same (closedAt : Time) :
    SameDowntime (record.closeProxyFailure closedAt) record := by
  unfold closeProxyFailure
  split
  · constructor <;> rfl
  · split <;> constructor <;> rfl

/-- The two closes that end every accounting of a node. -/
def closeAccounting (closedAt : Time) : NodeRecord :=
  (record.closeDowntime closedAt).closeProxyFailure closedAt

/-- `applyAvailability`. -/
def applyAvailability (details : ProxyStatusDetails)
    (now : Time) : NodeRecord :=
  let record := { record with lastStatusAt := now }
  match details.effectiveStatus with
  | .online => { record with lastOnlineAt := now }.closeAccounting now
  | .proxyFailure =>
      let record := record.closeDowntime now
      let failureSince :=
        if details.proxyFailureSince.isZero then now
        else details.proxyFailureSince
      let record := { record with lastProxyFailureAt := now }
      if record.currentProxyFailureSince.isZero then
        { record with
          currentProxyFailureSince := failureSince
          proxyFailureCount := record.proxyFailureCount + 1 }
      else record
  | _ =>
      let record := record.closeProxyFailure now
      let downSince :=
        if details.downSince.isZero then now else details.downSince
      let record := { record with lastOfflineAt := now }
      if record.currentDownSince.isZero then
        { record with
          currentDownSince := downSince
          incidentCount := record.incidentCount + 1 }
      else record

/-- What the loops over retired nodes make of a record. -/
def retire (now : Time) : NodeRecord :=
  { record with active := false, retiredAt := now, lastSeenAt := now
    }.closeAccounting now

namespace SameDowntime

variable {record other third : NodeRecord}

theorem trans (h : SameDowntime record other) (h' : SameDowntime other third) :
    SameDowntime record third where
  stableID := h.stableID.trans h'.stableID
  active := h.active.trans h'.active
  maintenance := h.maintenance.trans h'.maintenance
  firstSeenAt := h.firstSeenAt.trans h'.firstSeenAt
  totalDowntimeSec := h.totalDowntimeSec.trans h'.totalDowntimeSec
  longestDowntimeSec := h.longestDowntimeSec.trans h'.longestDowntimeSec
  currentDownSince := h.currentDownSince.trans h'.currentDownSince
  lastOfflineAt := h.lastOfflineAt.trans h'.lastOfflineAt
  lastStatusAt := h.lastStatusAt.trans h'.lastStatusAt

end SameDowntime

/-- An offline status keeps the downtime that is open, or opens one. -/
theorem applyAvailability_offline {details : ProxyStatusDetails}
    (h : details.isOffline = true) (now : Time) :
    SameDowntime (record.applyAvailability details now)
      { record with
        lastStatusAt := now
        lastOfflineAt := now
        currentDownSince :=
          if record.currentDownSince = 0 then openedSince details now
          else record.currentDownSince } := by
  have hstatus : details.effectiveStatus = .offline := by
    simpa [ProxyStatusDetails.isOffline] using h
  have hsame := closeProxyFailure_same { record with lastStatusAt := now } now
  simp only [applyAvailability, hstatus]
  by_cases hopen : record.currentDownSince = 0
  · have hzero := hsame.currentDownSince.trans hopen
    rw [if_pos (by simpa [Time.isZero] using hzero), if_pos hopen]
    constructor <;> simp [hsame.stableID, hsame.active, hsame.maintenance,
      hsame.firstSeenAt, hsame.totalDowntimeSec, hsame.longestDowntimeSec,
      hsame.lastStatusAt, openedSince, Time.isZero]
  · have hset := hsame.currentDownSince
    rw [if_neg (by simpa [Time.isZero, hset] using hopen), if_neg hopen]
    constructor <;> simp [hsame.stableID, hsame.active, hsame.maintenance,
      hsame.firstSeenAt, hsame.totalDowntimeSec, hsame.longestDowntimeSec,
      hsame.lastStatusAt, hset]

/-- Any other status closes the downtime. -/
theorem applyAvailability_up {details : ProxyStatusDetails}
    (h : details.isOffline = false) (now : Time) :
    SameDowntime (record.applyAvailability details now)
      ({ record with lastStatusAt := now }.closeDowntime now) := by
  have hstatus : details.effectiveStatus ≠ .offline := by
    simpa [ProxyStatusDetails.isOffline] using h
  have hset := details.effectiveStatus_ne_unset
  cases hcase : details.effectiveStatus with
  | unset => exact absurd hcase hset
  | offline => exact absurd hcase hstatus
  | online =>
      simp only [applyAvailability, hcase, closeAccounting]
      refine (closeProxyFailure_same _ now).trans ?_
      constructor <;> simp [closeDowntime_eq, creditedSec]
  | proxyFailure =>
      simp only [applyAvailability, hcase]
      split <;> constructor <;> simp [closeDowntime_eq, creditedSec]

@[simp] theorem applyAvailability_stableID (details : ProxyStatusDetails)
    (now : Time) :
    (record.applyAvailability details now).stableID = record.stableID := by
  cases hoffline : details.isOffline with
  | true => exact (record.applyAvailability_offline hoffline now).stableID
  | false =>
      rw [(record.applyAvailability_up hoffline now).stableID,
        closeDowntime_eq]

/-- What retiring a node makes of its record. -/
theorem retire_same (now : Time) :
    SameDowntime (record.retire now)
      ({ record with active := false }.closeDowntime now) := by
  refine (closeProxyFailure_same _ now).trans ?_
  constructor <;> simp [closeDowntime_eq, creditedSec]

end NodeRecord

/-- The text of an availability state, as samples keep it. -/
def stateText : AvailabilityState → Text
  | .unset => []
  | .online => "online"
  | .proxyFailure => "proxy_failure"
  | .offline => "offline"

/-- `normalizeAvailabilityHistoryRetentionDays`. -/
def normalizeAvailabilityHistoryRetentionDays (days : Int) : Int :=
  if days ≤ 0 then defaultAvailabilityHistoryRetentionDays
  else if days > maxAvailabilityHistoryRetentionDays then
    maxAvailabilityHistoryRetentionDays
  else days

/-- `availabilityHistoryCutoff`. -/
def availabilityHistoryCutoff (retentionDays : Int) (now : Time) : Time :=
  let days := normalizeAvailabilityHistoryRetentionDays retentionDays
  now - seconds (days.toNat * 86400)

/-- One sample as `normalizeAvailabilitySamples` keeps it. -/
def normalizeSample (sample : AvailabilitySample) : AvailabilitySample :=
  let status := trimSpace sample.status
  let status :=
    if status = stateText .online ∨ status = stateText .proxyFailure ∨
        status = stateText .offline then status
    else if sample.online then stateText .online
    else stateText .offline
  { sample with
    status := status
    online := status ≠ stateText .offline
    latencyMs :=
      if status ≠ stateText .online ∨ sample.latencyMs < 0 then 0
      else sample.latencyMs
    failureCode := trimSpace sample.failureCode
    failureSummary := trimSpace sample.failureSummary }

/-- The loop of `normalizeAvailabilitySamples`; `seen` holds the instants
already kept. -/
def retainedSamples (cutoff : Time) :
    List Time → List AvailabilitySample → List AvailabilitySample
  | _, [] => []
  | seen, sample :: rest =>
      if sample.checkedAt.isZero || sample.checkedAt < cutoff ||
          seen.elem sample.checkedAt then
        retainedSamples cutoff seen rest
      else
        normalizeSample sample ::
          retainedSamples cutoff (sample.checkedAt :: seen) rest

/-- `normalizeAvailabilitySamples`: newest first. -/
def normalizeAvailabilitySamples (entries : List AvailabilitySample)
    (now : Time) (retentionDays : Int) : List AvailabilitySample :=
  (retainedSamples (availabilityHistoryCutoff retentionDays now) []
    entries).insertionSort fun a b => b.checkedAt ≤ a.checkedAt

/-- The sample `recordAvailabilitySampleLocked` builds. -/
def sampleOf (details : ProxyStatusDetails) (maintenance : Bool) :
    AvailabilitySample :=
  { checkedAt := details.checkedAt
    online := !details.isOffline
    status := stateText details.effectiveStatus
    latencyMs :=
      if details.effectiveStatus = .online ∧ details.latency > 0 then
        details.latency / 1000000
      else 0
    maintenance := maintenance
    failureCode := trimSpace details.failure.code
    failureSummary := trimSpace details.failure.summary }

/-- The samples of a node; an absent key holds none. -/
def samplesOf (history : GoMap Text (List AvailabilitySample))
    (stableID : Text) : List AvailabilitySample :=
  (history[stableID]?).getD []

/-- `recordAvailabilitySampleLocked`, on the history alone. -/
def recordAvailabilitySample (retentionDays : Int)
    (history : GoMap Text (List AvailabilitySample)) (stableID : Text)
    (details : ProxyStatusDetails) (now : Time) (maintenance : Bool) :
    GoMap Text (List AvailabilitySample) × Bool :=
  let entries := samplesOf history stableID
  if details.checkedAt.isZero ||
      entries.any (·.checkedAt == details.checkedAt) then
    (history, false)
  else
    (history.insert stableID
      (normalizeAvailabilitySamples (sampleOf details maintenance :: entries)
        now retentionDays), true)

/-- What `pruneAvailabilityHistoryLocked` leaves under a key. -/
def prunedSamples (retentionDays : Int) (now : Time)
    (entries : List AvailabilitySample) : Option (List AvailabilitySample) :=
  let normalized := normalizeAvailabilitySamples entries now retentionDays
  if normalized = [] then
    if entries = [] then some entries else none
  else some normalized

/-- `pruneAvailabilityHistoryLocked`, on the history alone. -/
def pruneAvailabilityHistory (retentionDays : Int) (now : Time)
    (history : GoMap Text (List AvailabilitySample)) :
    GoMap Text (List AvailabilitySample) × Bool :=
  history.toList.foldl
    (fun pruned entry =>
      let normalized :=
        normalizeAvailabilitySamples entry.2 now retentionDays
      (pruned.1.set entry.1 (prunedSamples retentionDays now entry.2),
        pruned.2 || normalized.length != entry.2.length))
    (history, false)

/-- `normalizeAvailabilityHistory`. -/
def normalizeAvailabilityHistory (retentionDays : Int) (now : Time)
    (input : GoMap Text (List AvailabilitySample)) :
    GoMap Text (List AvailabilitySample) :=
  input.toList.foldl
    (fun result entry =>
      let stableID := trimSpace entry.1
      let normalized :=
        normalizeAvailabilitySamples entry.2 now retentionDays
      if stableID = [] ∨ normalized = [] then result
      else result.insert stableID normalized)
    ∅

end XrayChecker.NodeArchive

import XrayChecker.Go.Map
import XrayChecker.Go.Time
import XrayChecker.Models.ProxyConfig

/-
The measurements the speed-test manager keeps: the latest result and the
history of every node in memory, and the file both are written to.

Rates are exact numbers; the task and the observation an agent probe carries
are left out, and so is the summary of the last run.
-/

namespace XrayChecker.Speedtest

open Go

/-- `AgentDiagnostic`: the fields that are persisted, and the ones made for
the report copy, which JSON leaves out. -/
structure AgentDiagnostic where
  state : Text
  detail : Text := []
  sessionID : Text := []
  sessionState : Text := []
  trigger : Text := []
  summary : Text := []
  agentID : Text := []
  agentName : Text := []
  region : Text := []
  provider : Text := []
  requestedAt : Time := 0
  remoteStatus : Text := []
  failureCode : Text := []
  failureStage : Text := []
  directConnectivityChecked : Bool := false
  directConnectivityOnline : Bool := false
  alternativeProfile : Text := []
  alternativeStatus : Text := []
  mbps : Int := 0
  checkedAt : Time := 0
deriving DecidableEq

/-- What is left of a probe once it went through the file. -/
def AgentDiagnostic.persisted (probe : AgentDiagnostic) : AgentDiagnostic :=
  { state := probe.state
    detail := probe.detail
    sessionID := probe.sessionID
    sessionState := probe.sessionState
    trigger := probe.trigger
    summary := probe.summary
    agentID := probe.agentID
    agentName := probe.agentName
    region := probe.region
    provider := probe.provider
    requestedAt := probe.requestedAt }

structure Result where
  stableID : Text
  name : Text := []
  subName : Text := []
  protocol : Text := []
  url : Text := []
  primaryURL : Text := []
  primaryError : Text := []
  primaryTimedOut : Bool := false
  primaryMbps : Rat := 0
  fallbackAttempted : Bool := false
  fallbackAttempts : Int := 0
  fallbackExhausted : Bool := false
  fallbackUsed : Bool := false
  fallbackID : Text := []
  fallbackProvider : Text := []
  fallbackCity : Text := []
  fallbackCountryCode : Text := []
  telegramAlertSuppressed : Bool := false
  maintenanceProbe : Bool := false
  projectMaintenanceProbe : Bool := false
  downloadedBytes : Int := 0
  mbps : Rat := 0
  timedOut : Bool := false
  lowSpeedThresholdMbps : Rat := 0
  error : Text := []
  offline : Bool := false
  checkedAt : Time
  source : Text := []
  agentDiagnostic : Option AgentDiagnostic := none
deriving DecidableEq

def defaultHistoryRetentionDays : Int := 60
def maxHistoryRetentionDays : Int := 3650

def normalizeHistoryRetentionDays (value : Int) : Int :=
  if value ≤ 0 then defaultHistoryRetentionDays
  else if maxHistoryRetentionDays < value then maxHistoryRetentionDays
  else value

/-- `historyCutoff`. -/
def historyCutoff (historyRetentionDays : Int) (now : Time) : Int :=
  (now : Int) -
    normalizeHistoryRetentionDays historyRetentionDays * minutes (24 * 60)

/-- Whether a measurement is dated and not older than the cutoff. -/
def retained (cutoff : Int) (result : Result) : Bool :=
  !result.checkedAt.isZero && cutoff ≤ (result.checkedAt : Int)

def resultWithinRetention (result : Result) (historyRetentionDays : Int)
    (now : Time) : Bool :=
  retained (historyCutoff historyRetentionDays now) result

def retainResultHistory (entries : List Result) (cutoff : Int) : List Result :=
  entries.filter (retained cutoff)

/-- `resultStateFile`. -/
structure ResultStateFile where
  results : GoMap Text Result
  history : GoMap Text (List Result)

/-- The measurements in memory and the retention in force. -/
structure Manager where
  results : GoMap Text Result := ∅
  history : GoMap Text (List Result) := ∅
  probeResults : GoMap Text Result := ∅
  historyRetentionDays : Int := defaultHistoryRetentionDays

namespace Manager

/-- The locked part of `recordResult`. -/
def recordResult (m : Manager) (result : Result) (now : Time) : Manager :=
  if result.maintenanceProbe then
    { m with probeResults := m.probeResults.insert result.stableID result }
  else
    { m with
      probeResults := m.probeResults.erase result.stableID
      results := m.results.insert result.stableID result
      history := m.history.insert result.stableID
        (retainResultHistory
          (result :: (m.history[result.stableID]?).getD [])
          (historyCutoff m.historyRetentionDays now)) }

/-- A result with an agent probe attached. -/
def attached (probe : AgentDiagnostic) (result : Result) : Result :=
  { result with agentDiagnostic := some probe }

/-- The loop over the history: the first entry measured at the time gets the
probe. -/
def attachFirst (checkedAt : Time) (probe : AgentDiagnostic) :
    List Result → Option (List Result)
  | [] => none
  | entry :: rest =>
      if entry.checkedAt = checkedAt then some (attached probe entry :: rest)
      else (attachFirst checkedAt probe rest).map (entry :: ·)

/-- The latest result with the probe attached, if it was measured then. -/
def attachLatest (checkedAt : Time) (probe : AgentDiagnostic)
    (result : Result) : Option Result :=
  if result.checkedAt = checkedAt then some (attached probe result) else none

/-- The locked part of `RecordAgentProbe`, and whether anything was
recorded. -/
def recordAgentProbe (m : Manager) (stableID : Text) (checkedAt : Time)
    (probe : AgentDiagnostic) : Manager × Bool :=
  let stableID := trimSpace stableID
  if stableID = [] ∨ checkedAt.isZero then (m, false)
  else
    let latest := (m.results[stableID]?).bind (attachLatest checkedAt probe)
    let entries := (m.history[stableID]?).bind (attachFirst checkedAt probe)
    ({ m with
      results :=
        match latest with
        | some result => m.results.insert stableID result
        | none => m.results
      history :=
        match entries with
        | some entries => m.history.insert stableID entries
        | none => m.history },
      latest.isSome || entries.isSome)

/-- What is stored for a node: the latest result and the history. -/
structure NodeRecords where
  latest : Option Result
  history : Option (List Result)
deriving DecidableEq

def node (m : Manager) (stableID : Text) : NodeRecords :=
  ⟨m.results[stableID]?, m.history[stableID]?⟩

/-- The first locked part of `DeleteHistory`. -/
def removeHistory (m : Manager) (stableID : Text) : Manager :=
  { m with
    results := m.results.erase stableID
    history := m.history.erase stableID }

/-- The second locked part of `DeleteHistory`, where the write failed: what
the call found is put back. -/
def restoreHistory (m : Manager) (stableID : Text) (found : NodeRecords) :
    Manager :=
  { m with
    results :=
      match found.latest with
      | some latest => m.results.insert stableID latest
      | none => m.results
    history :=
      match found.history with
      | some history => m.history.insert stableID history
      | none => m.history }

/-- `recordResult` on what is stored for the node it measured. -/
def NodeRecords.recorded (records : NodeRecords) (historyRetentionDays : Int)
    (result : Result) (now : Time) : NodeRecords where
  latest := some result
  history := some (retainResultHistory (result :: records.history.getD [])
    (historyCutoff historyRetentionDays now))

/-- `RecordAgentProbe` on what is stored for the node it is about. -/
def NodeRecords.probed (records : NodeRecords) (checkedAt : Time)
    (probe : AgentDiagnostic) : NodeRecords where
  latest := ((records.latest.bind (attachLatest checkedAt probe)).or
    records.latest)
  history := ((records.history.bind (attachFirst checkedAt probe)).or
    records.history)

/-- What was found put back over what is there now. -/
def NodeRecords.restored (records found : NodeRecords) : NodeRecords where
  latest := found.latest.or records.latest
  history := found.history.or records.history

theorem node_recordResult (m : Manager) (result : Result) (now : Time)
    (stableID : Text) :
    (m.recordResult result now).node stableID =
      if result.maintenanceProbe = false ∧ result.stableID = stableID then
        (m.node stableID).recorded m.historyRetentionDays result now
      else m.node stableID := by
  unfold recordResult
  by_cases hprobe : result.maintenanceProbe = true
  · simp [hprobe, node]
  · by_cases hid : result.stableID = stableID
    · subst hid
      simp [hprobe, node, NodeRecords.recorded]
    · simp [hprobe, node, hid, GoMap.get_insert]

theorem node_recordAgentProbe (m : Manager) (stableID : Text)
    (checkedAt : Time) (probe : AgentDiagnostic) (other : Text) :
    (m.recordAgentProbe stableID checkedAt probe).1.node other =
      if trimSpace stableID ≠ [] ∧ checkedAt.isZero = false ∧
          trimSpace stableID = other then
        (m.node other).probed checkedAt probe
      else m.node other := by
  unfold recordAgentProbe
  by_cases hbad : trimSpace stableID = [] ∨ checkedAt.isZero = true
  · rw [if_pos hbad, if_neg]
    rintro ⟨hset, htime, -⟩
    rcases hbad with h | h
    · exact hset h
    · rw [htime] at h
      cases h
  · rw [if_neg hbad]
    push Not at hbad
    by_cases hid : trimSpace stableID = other
    · subst hid
      rw [if_pos ⟨hbad.1, by simpa using hbad.2, rfl⟩]
      simp only [node, NodeRecords.probed, NodeRecords.mk.injEq]
      constructor
      · split <;> simp [*]
      · split <;> simp [*]
    · rw [if_neg (by tauto)]
      simp only [node, NodeRecords.mk.injEq]
      constructor
      · split <;> simp [hid, GoMap.get_insert]
      · split <;> simp [hid, GoMap.get_insert]

theorem node_removeHistory (m : Manager) (stableID other : Text) :
    (m.removeHistory stableID).node other =
      if stableID = other then ⟨none, none⟩ else m.node other := by
  by_cases hid : stableID = other
  · simp [removeHistory, node, hid]
  · simp [removeHistory, node, hid, GoMap.get_erase]

theorem node_restoreHistory (m : Manager) (stableID : Text)
    (found : NodeRecords) (other : Text) :
    (m.restoreHistory stableID found).node other =
      if stableID = other then (m.node other).restored found
      else m.node other := by
  by_cases hid : stableID = other
  · subst hid
    simp only [restoreHistory, node, NodeRecords.restored, ↓reduceIte,
      NodeRecords.mk.injEq]
    constructor
    · split <;> simp [*]
    · split <;> simp [*]
  · simp only [restoreHistory, node, hid, ↓reduceIte, NodeRecords.mk.injEq]
    constructor
    · split <;> simp [hid, GoMap.get_insert]
    · split <;> simp [hid, GoMap.get_insert]

end Manager

end XrayChecker.Speedtest

import Mathlib.Data.Prod.Lex
import Mathlib.Data.Int.Order.Lemmas
import XrayChecker.Checker.Failure
import XrayChecker.Go.Distinct
import XrayChecker.Go.Stable
import XrayChecker.Go.Total
import XrayChecker.NodeArchive.Incidents
import XrayChecker.Speedtest.Results

/-
Merging a retired node into the active one that took its place: what becomes
of the node registry and of the stored speed-test results.
-/

namespace XrayChecker.Nodemerge

open Go NodeArchive

/-- The whole of `nodearchive.NodeRecord`. -/
structure NodeRecord extends NodeArchive.NodeRecord where
  groupName : Text := []
  claimedCountry : Text := []
  claimedCountryCode : Text := []
  geoIP : Text := []
  geoCountry : Text := []
  geoCountryCode : Text := []
  geoOrg : Text := []
  geoUpdatedAt : Time := 0
  geoError : Text := []
  ifconfigIP : Text := []
  ifconfigCountry : Text := []
  ifconfigCountryCode : Text := []
  ifconfigASN : Text := []
  ifconfigOrg : Text := []
  ifconfigUpdatedAt : Time := 0
  ifconfigError : Text := []
deriving DecidableEq

/-- The whole of `nodearchive.StateFile`. -/
structure StateFile where
  version : Int := 1
  updatedAt : Time := 0
  nodes : GoMap Text NodeRecord := ∅
  mergedNodes : GoMap Text (List Text) := ∅
  incidents : List IncidentRecord := []
  availabilityHistory : GoMap Text (List AvailabilitySample) := ∅

/-- The whole of `speedtest.Result`; of an agent probe, the task and the
observation are their JSON. -/
structure Result extends Speedtest.Result where
  statusCode : Int := 0
  requestedBytes : Int := 0
  durationMs : Int := 0
  ttfbMs : Int := 0
  hostCheck : Option Checker.HostCheckDetails := none
  pingCheck : Option Checker.PingCheckDetails := none
  probeTask : Option Text := none
  probeObservation : Option Text := none
deriving DecidableEq

/-- `speedResultState`; what the last run was is carried along. -/
structure SpeedResultState (Run : Type) where
  version : Int := 1
  updatedAt : Time := 0
  lastRun : Run
  results : GoMap Text Result := ∅
  history : GoMap Text (List Result) := ∅

def maxInt64 : Int := 2 ^ 63 - 1
def minInt64 : Int := -2 ^ 63

def addInt64 (first second : Int) : Except Text Int := do
  reject (0 < second && maxInt64 - second < first) "integer overflow"
  reject (second < 0 && first < minInt64 - second) "integer underflow"
  return first + second

/-- `addInt`; a sum below the least integer wraps around. -/
def addInt (first second : Int) : Except Text Int := do
  reject (0 < second && maxInt64 - second < first) "integer overflow"
  return Int.bmod (first + second) (2 ^ 64)

/-- `fmt.Errorf("...: %w", err)`. -/
def wrapped {A : Type} (context : Text) (answer : Except Text A) :
    Except Text A :=
  answer.mapError fun error => context ++ ": " ++ error

def normalizeIdentity (value : Text) : Text :=
  toLower (trimSpace value)

def validateIdentityMatch (source target : NodeRecord) : Except Text Unit := do
  reject (normalizeIdentity source.subName ≠ normalizeIdentity target.subName)
    "source and target subscriptions do not match"
  reject
    (normalizeIdentity source.protocol ≠ normalizeIdentity target.protocol)
    "source and target protocols do not match"
  reject (normalizeIdentity source.server ≠ normalizeIdentity target.server)
    "source and target servers do not match"

def earliestNonZero (first second : Time) : Time :=
  if first.isZero || (!second.isZero && second < first) then second else first

def latestTime (first second : Time) : Time :=
  if first < second then second else first

def uniqueSorted (values : List Text) (excluded : Text) : List Text :=
  sortStrings ((values.map trimSpace).filter fun value =>
    value ≠ [] ∧ value ≠ excluded).dedup

/-- `mergeGeoState`: what it makes of the target. -/
def mergeGeoState (target source : NodeRecord) : NodeRecord :=
  let target :=
    if target.claimedCountry = [] then
      { target with claimedCountry := source.claimedCountry }
    else target
  let target :=
    if target.claimedCountryCode = [] then
      { target with claimedCountryCode := source.claimedCountryCode }
    else target
  let target :=
    if target.geoUpdatedAt.isZero || target.geoUpdatedAt < source.geoUpdatedAt
    then
      { target with
        geoIP := source.geoIP
        geoCountry := source.geoCountry
        geoCountryCode := source.geoCountryCode
        geoOrg := source.geoOrg
        geoUpdatedAt := source.geoUpdatedAt
        geoError := source.geoError }
    else target
  if target.ifconfigUpdatedAt.isZero ||
      target.ifconfigUpdatedAt < source.ifconfigUpdatedAt then
    { target with
      ifconfigIP := source.ifconfigIP
      ifconfigCountry := source.ifconfigCountry
      ifconfigCountryCode := source.ifconfigCountryCode
      ifconfigASN := source.ifconfigASN
      ifconfigOrg := source.ifconfigOrg
      ifconfigUpdatedAt := source.ifconfigUpdatedAt
      ifconfigError := source.ifconfigError }
  else target

/-- One round of the loop of `rewriteIncident`. -/
def nameByID (sourceID targetID targetName : Text) (names : List Text)
    (namesByID : GoMap Text Text) (entry : Text × Nat) : GoMap Text Text :=
  let stableID := trimSpace entry.1
  if stableID = [] then namesByID
  else
    let name := (names[entry.2]?).getD []
    let name := if stableID = sourceID then targetName else name
    let stableID := if stableID = sourceID then targetID else stableID
    let name := if stableID = targetID ∧ name = [] then targetName else name
    if !namesByID.contains stableID || name ≠ [] then
      namesByID.insert stableID name
    else namesByID

def rewriteIncident (incident : IncidentRecord)
    (sourceID targetID targetName : Text) : IncidentRecord :=
  if incident.scope = nodeScope sourceID then
    { incident with
      scope := nodeScope targetID
      stableIDs := [targetID]
      nodeNames := [targetName]
      affectedCount := 1
      totalCount := 1 }
  else if incident.stableIDs = [] then incident
  else
    let namesByID := incident.stableIDs.zipIdx.foldl
      (nameByID sourceID targetID targetName incident.nodeNames) ∅
    let stableIDs := sortStrings namesByID.keys
    { incident with
      stableIDs := stableIDs
      nodeNames := stableIDs.map fun stableID => (namesByID[stableID]?).getD []
      affectedCount := stableIDs.length }

/-- `mergeAvailabilityHistory`. -/
def mergeAvailabilityHistory (first second : List AvailabilitySample) :
    List AvailabilitySample :=
  sortDesc (·.checkedAt)
    (distinctBy (fun sample => unixNano sample.checkedAt)
      ((first ++ second).filter fun sample => !sample.checkedAt.isZero))

/-- The counters of the target after the merge; what would overflow is
refused. -/
def mergeCounters (target source : NodeRecord) : Except Text NodeRecord := do
  let totalDowntimeSec ← wrapped "merge total downtime"
    (addInt64 target.totalDowntimeSec source.totalDowntimeSec)
  let totalProxyFailureSec ← wrapped "merge total proxy failure"
    (addInt64 target.totalProxyFailureSec source.totalProxyFailureSec)
  let incidentCount ← wrapped "merge incident count"
    (addInt target.incidentCount source.incidentCount)
  let proxyFailureCount ← wrapped "merge proxy failure count"
    (addInt target.proxyFailureCount source.proxyFailureCount)
  return { target with
    totalDowntimeSec := totalDowntimeSec
    totalProxyFailureSec := totalProxyFailureSec
    incidentCount := incidentCount
    proxyFailureCount := proxyFailureCount }

/-- The record of the target after the merge. -/
def mergedRecord (target source : NodeRecord) (targetID : Text) :
    NodeRecord :=
  let target :=
    { target with
      firstSeenAt := earliestNonZero target.firstSeenAt source.firstSeenAt
      lastSeenAt := latestTime target.lastSeenAt source.lastSeenAt
      lastOfflineAt := latestTime target.lastOfflineAt source.lastOfflineAt
      lastProxyFailureAt :=
        latestTime target.lastProxyFailureAt source.lastProxyFailureAt
      lastOnlineAt := latestTime target.lastOnlineAt source.lastOnlineAt
      lastStatusAt := latestTime target.lastStatusAt source.lastStatusAt
      longestDowntimeSec :=
        if target.longestDowntimeSec < source.longestDowntimeSec then
          source.longestDowntimeSec
        else target.longestDowntimeSec
      longestProxyFailureSec :=
        if target.longestProxyFailureSec < source.longestProxyFailureSec then
          source.longestProxyFailureSec
        else target.longestProxyFailureSec }
  { mergeGeoState target source with
    stableID := targetID
    active := true
    retiredAt := 0 }

/-- The registry once the record of the target is `target`. -/
def mergedState (state : StateFile) (sourceID targetID : Text)
    (target : NodeRecord) (now : Time) : StateFile :=
  let lineage := (state.mergedNodes[targetID]?).getD [] ++
    sourceID :: (state.mergedNodes[sourceID]?).getD []
  let availability := mergeAvailabilityHistory
    ((state.availabilityHistory[targetID]?).getD [])
    ((state.availabilityHistory[sourceID]?).getD [])
  { state with
    nodes := (state.nodes.insert targetID target).erase sourceID
    mergedNodes :=
      (state.mergedNodes.insert targetID (uniqueSorted lineage targetID)).erase
        sourceID
    incidents := state.incidents.map fun incident =>
      rewriteIncident incident sourceID targetID target.name
    availabilityHistory :=
      GoMap.set (state.availabilityHistory.erase sourceID) targetID
        (if availability = [] then none else some availability)
    updatedAt := now }

def mergeNodeState (state : StateFile) (sourceID targetID : Text)
    (now : Time) : Except Text StateFile :=
  match state.nodes[sourceID]?, state.nodes[targetID]? with
  | some source, some target => do
      reject (source.active || !target.active)
        "node merge requires a retired source and active target"
      validateIdentityMatch source target
      let target ← mergeCounters target source
      return mergedState state sourceID targetID
        (mergedRecord target source targetID) now
  | _, _ => .error "source and target nodes are required for merge"

section Speed

variable (encode : Result → Text)

/-- A measurement under the identity of the target. -/
def Result.under (entry : Result) (target : NodeRecord) : Result :=
  { entry with
    stableID := target.stableID
    name := target.name
    subName := target.subName
    protocol := target.protocol }

/-- What a measurement is sorted by, the greatest first: its time, and for one
time its encoding, the least first. -/
def historyKey (entry : Result) : Time ×ₗ Textᵒᵈ :=
  toLex (entry.checkedAt, OrderDual.toDual (encode entry))

/-- `mergeHistory`; `encode` is `json.Marshal`. -/
def mergeHistory (first second : List Result) (target : NodeRecord) :
    List Result :=
  sortDesc (historyKey encode)
    (distinctBy encode ((first ++ second).map (·.under target)))

/-- `mergeSpeedState`. -/
def mergeSpeedState {Run : Type} (state : SpeedResultState Run)
    (sourceID targetID : Text) (target : NodeRecord) (now : Time) :
    SpeedResultState Run :=
  let entries := (state.history[sourceID]?).getD [] ++
    (state.history[targetID]?).getD [] ++ (state.results[sourceID]?).toList ++
    (state.results[targetID]?).toList
  let merged := mergeHistory encode entries [] target
  { state with
    history := GoMap.set (state.history.erase sourceID) targetID
      (if merged = [] then none else some merged)
    results := GoMap.set (state.results.erase sourceID) targetID merged.head?
    updatedAt := now }

end Speed

end XrayChecker.Nodemerge

import XrayChecker.Checker.Store

/-
What the node archive keeps: one record per node, the incident journal, the
identities a node was merged from, and the availability samples.
-/

namespace XrayChecker.NodeArchive

open Go

def defaultAvailabilityHistoryRetentionDays : Int := 60
def maxAvailabilityHistoryRetentionDays : Int := 3650

def maxDisplayNameRunes : Nat := 64

def incidentKindNode : Text := "node"
def incidentKindMass : Text := "mass"
def incidentStatusActive : Text := "active"
def incidentStatusResolved : Text := "resolved"
def maxIncidentRecords : Nat := 1000

/-- `AvailabilitySample`: one availability check of a node. -/
structure AvailabilitySample where
  checkedAt : Time := 0
  online : Bool := false
  status : Text := []
  latencyMs : Int := 0
  maintenance : Bool := false
  failureCode : Text := []
  failureSummary : Text := []
deriving DecidableEq

structure IncidentRecord where
  id : Text := []
  kind : Text := []
  status : Text := []
  scope : Text := []
  subscription : Text := []
  stableIDs : List Text := []
  nodeNames : List Text := []
  affectedCount : Nat := 0
  totalCount : Nat := 0
  causeCode : Text := []
  causeSummary : Text := []
  causeDetail : Text := []
  startedAt : Time := 0
  updatedAt : Time := 0
  resolvedAt : Time := 0
  durationSec : Nat := 0
deriving DecidableEq

structure NodeRecord where
  stableID : Text := []
  name : Text := []
  displayName : Text := []
  subName : Text := []
  server : Text := []
  port : Int := 0
  protocol : Text := []
  active : Bool := false
  maintenance : Bool := false
  maintenanceSince : Time := 0
  firstSeenAt : Time := 0
  lastSeenAt : Time := 0
  retiredAt : Time := 0
  totalDowntimeSec : Int := 0
  incidentCount : Int := 0
  longestDowntimeSec : Int := 0
  currentDownSince : Time := 0
  lastOfflineAt : Time := 0
  totalProxyFailureSec : Int := 0
  proxyFailureCount : Int := 0
  longestProxyFailureSec : Int := 0
  currentProxyFailureSince : Time := 0
  lastProxyFailureAt : Time := 0
  lastOnlineAt : Time := 0
  lastStatusAt : Time := 0
deriving DecidableEq

structure Store where
  nodes : GoMap Text NodeRecord := ∅
  mergedNodes : GoMap Text (List Text) := ∅
  incidents : List IncidentRecord := []
  availabilityHistory : GoMap Text (List AvailabilitySample) := ∅
  availabilityHistoryRetentionDays : Int :=
    defaultAvailabilityHistoryRetentionDays

/-- `StateFile`: what `saveLocked` writes and `Load` reads. -/
structure StateFile where
  nodes : GoMap Text NodeRecord := ∅
  mergedNodes : GoMap Text (List Text) := ∅
  incidents : List IncidentRecord := []
  availabilityHistory : GoMap Text (List AvailabilitySample) := ∅

/-- `time.Duration(n) * time.Second`, in nanoseconds. -/
def seconds (n : Nat) : Nat :=
  n * 1000000000

/-- `int64(endedAt.Sub(startedAt).Seconds())` where the interval is not
negative: whole seconds. -/
def wholeSeconds (startedAt endedAt : Time) : Nat :=
  (endedAt - startedAt) / 1000000000

/-- `durationSeconds`. -/
def durationSeconds (startedAt endedAt : Time) : Nat :=
  if startedAt.isZero || endedAt < startedAt then 0
  else wholeSeconds startedAt endedAt

/-- `uniqueSortedStrings`. -/
def uniqueSortedStrings (values : List Text) : List Text :=
  sortStrings ((values.map trimSpace).filter (· ≠ [])).dedup

end XrayChecker.NodeArchive

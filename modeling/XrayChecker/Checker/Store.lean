import XrayChecker.Checker.Status

/-
The state of the checker: the tracked nodes, the two caches of their last
verdicts, the nodes in maintenance, the observation policies of the sources,
and the Prometheus series.
-/

namespace XrayChecker.Checker

open Go

/-- `observation.Policy`. -/
structure Policy where
  accountAvailability : Bool
  speedTest : Bool
  listed : Bool
deriving DecidableEq

/-- `observation.Full`. -/
def Policy.full : Policy := ⟨true, true, true⟩

inductive Gauge where
  | status
  | latency
deriving DecidableEq

/-- One `RecordProxyStatus` or `RecordProxyLatency` call. -/
structure SeriesSample where
  gauge : Gauge
  node : Text
  labels : List Text
  value : Int
deriving DecidableEq

/-- The two Prometheus gauges, keyed by their label values.  `samples` is the
history of the calls that recorded into them. -/
structure Registry where
  proxyStatus : GoMap (List Text) Int := ∅
  proxyLatency : GoMap (List Text) Int := ∅
  samples : List SeriesSample := []
deriving DecidableEq

namespace Registry

def record (registry : Registry) (sample : SeriesSample) : Registry :=
  match sample.gauge with
  | .status =>
      { registry with
        proxyStatus := registry.proxyStatus.insert sample.labels sample.value
        samples := registry.samples ++ [sample] }
  | .latency =>
      { registry with
        proxyLatency := registry.proxyLatency.insert sample.labels sample.value
        samples := registry.samples ++ [sample] }

/-- `DeleteProxyStatus` and `DeleteProxyLatency`. -/
def delete (registry : Registry) (labels : List Text) : Registry :=
  { registry with
    proxyStatus := registry.proxyStatus.erase labels
    proxyLatency := registry.proxyLatency.erase labels }

/-- Some series carries the labels. -/
def Exports (registry : Registry) (labels : List Text) : Prop :=
  labels ∈ registry.proxyStatus ∨ labels ∈ registry.proxyLatency

instance (registry : Registry) (labels : List Text) :
    Decidable (registry.Exports labels) :=
  inferInstanceAs (Decidable (_ ∨ _))

/-- The label values read back from a metric key. -/
def keyLabels (metricKey : Text) : Option (List Text) :=
  match metricKey.splitOn '|' with
  | protocol :: address :: name :: subName :: _ =>
      some [protocol, address, name, subName]
  | _ => none

/-- Both deletions, for the labels read back from a metric key. -/
def deleteKey (registry : Registry) (metricKey : Text) : Registry :=
  match keyLabels metricKey with
  | some labels => registry.delete labels
  | none => registry

end Registry

/-- What is fixed when the checker is built; `digest` stands for the first 16
hex digits of the SHA-256 sum. -/
structure Options where
  digest : Text → Text
  startPort : Int
  checkMethod : Text
  downloadURL : Text
  downloadMinSize : Int

structure ProxyChecker where
  proxies : List ProxyConfig := []
  currentIP : Text := []
  ipInitialized : Bool := false
  currentMetrics : GoMap Text Bool := ∅
  latencyMetrics : GoMap Text Int := ∅
  statusDetails : GoMap Text ProxyStatusDetails := ∅
  maintenance : GoMap Text Unit := ∅
  generation : Nat := 0
  projectMaintenance : Bool := false
  sourcePolicies : GoMap Text Policy := ∅
  sourceByStableID : GoMap Text Text := ∅
  registry : Registry := {}
deriving DecidableEq

/-- Why a reader has no status to return. -/
inductive ReadError where
  | maintenanceMode
  | proxyNotFound
  | metricNotFound
deriving DecidableEq

/-- The label values of a node's series. -/
def seriesLabels (proxy : ProxyConfig) : List Text :=
  [proxy.protocol, proxy.address, proxy.name, proxy.subName]

/-- Labels and identity joined. -/
def seriesKey (labels : List Text) (stableID : Text) : Text :=
  join (labels ++ [stableID]) "|"

/-- The key of a node in `currentMetrics` and `latencyMetrics`. -/
def metricKey (options : Options) (proxy : ProxyConfig) : Text :=
  seriesKey (seriesLabels proxy) (proxy.effectiveStableID options.digest)

namespace ProxyChecker

variable (options : Options) (pc : ProxyChecker)

/-- `ObservationPolicyFor`. -/
def observationPolicyFor (stableID : Text) : Policy :=
  let stableID := trimSpace stableID
  if stableID = [] then Policy.full
  else
    match pc.sourceByStableID[stableID]? with
    | none => Policy.full
    | some sourceID =>
        if sourceID = [] then Policy.full
        else (pc.sourcePolicies[sourceID]?).getD Policy.full

/-- `MonitoringEnabled`. -/
def monitoringEnabled (stableID : Text) : Bool :=
  let stableID := trimSpace stableID
  stableID ≠ [] && !pc.maintenance.contains stableID

/-- `AvailabilityAccounted`. -/
def availabilityAccounted (stableID : Text) : Bool :=
  pc.monitoringEnabled stableID &&
    (pc.observationPolicyFor stableID).accountAvailability

/-- `ListedPublicly`. -/
def listedPublicly (stableID : Text) : Bool :=
  (pc.observationPolicyFor stableID).listed

/-- `EnvironmentSourced`. -/
def environmentSourced (stableID : Text) : Bool :=
  let stableID := trimSpace stableID
  stableID = [] || (pc.sourceByStableID[stableID]?).getD [] = []

/-- `IncidentsAccounted`. -/
def incidentsAccounted (stableID : Text) : Bool :=
  pc.availabilityAccounted stableID && pc.environmentSourced stableID

/-- `SetSourcePolicies`. -/
def setSourcePolicies (policies : GoMap Text Policy) : ProxyChecker :=
  { pc with
    sourcePolicies :=
      policies.toList.foldl
        (fun copied entry =>
          let sourceID := trimSpace entry.1
          if sourceID = [] then copied else copied.insert sourceID entry.2)
        ∅ }

/-- `rebuildSourceIndex`. -/
def rebuildSourceIndex (proxies : List ProxyConfig) : ProxyChecker :=
  { pc with
    sourceByStableID :=
      proxies.foldl
        (fun index proxy =>
          let stableID := proxy.effectiveStableID options.digest
          if stableID = [] ∨ proxy.sourceID = [] then index
          else index.insert stableID proxy.sourceID)
        ∅ }

/-- `NewProxyChecker`. -/
def new (proxies : List ProxyConfig) : ProxyChecker :=
  ({ proxies := proxies } : ProxyChecker).rebuildSourceIndex options proxies

/-- `GetProxyByStableID`: the first node with the identity. -/
def getProxyByStableID (stableID : Text) : Option ProxyConfig :=
  pc.proxies.find?
    (fun proxy => proxy.effectiveStableID options.digest = stableID)

/-- `clearProxyMonitoringState`. -/
def clearProxyMonitoringState (stableID : Text) : ProxyChecker :=
  let removeMetric (key : Text) := hasSuffix key ('|' :: stableID)
  { pc with
    statusDetails := pc.statusDetails.erase stableID
    registry :=
      (pc.currentMetrics.keys.filter removeMetric).foldl Registry.deleteKey
        pc.registry
    currentMetrics := pc.currentMetrics.filter fun key _ => !removeMetric key
    latencyMetrics := pc.latencyMetrics.filter fun key _ => !removeMetric key }

/-- `ClearMetrics`. -/
def clearMetrics : ProxyChecker :=
  { pc with
    registry := pc.currentMetrics.keys.foldl Registry.deleteKey pc.registry
    currentMetrics := ∅
    latencyMetrics := ∅ }

/-- `setMaintenanceModeLocked`. -/
def setMaintenanceModeLocked (stableID : Text)
    (enabled : Bool) : ProxyChecker :=
  if pc.maintenance.contains stableID = enabled then pc
  else
    let pc :=
      { pc with
        maintenance :=
          if enabled then pc.maintenance.insert stableID ()
          else pc.maintenance.erase stableID }
    pc.clearProxyMonitoringState stableID

/-- `SetMaintenanceMode`; a refused call changes nothing. -/
def setMaintenanceMode (stableID : Text) (enabled : Bool) : ProxyChecker :=
  let stableID := trimSpace stableID
  if stableID = [] then pc
  else if (pc.getProxyByStableID options stableID).isNone then pc
  else pc.setMaintenanceModeLocked stableID enabled

/-- `ReplaceMaintenanceModes`. -/
def replaceMaintenanceModes (stableIDs : List Text) : ProxyChecker :=
  let wanted :=
    ((stableIDs.map trimSpace).filter (· ≠ [])).dedup
  let pc := (pc.maintenance.keys.filter (· ∉ wanted)).foldl
    (fun pc stableID => pc.setMaintenanceModeLocked stableID false) pc
  wanted.foldl
    (fun pc stableID => pc.setMaintenanceModeLocked stableID true) pc

/-- `ClearProjectMonitoringState`. -/
def clearProjectMonitoringState : ProxyChecker :=
  pc.proxies.foldl
    (fun pc proxy =>
      let stableID := proxy.effectiveStableID options.digest
      if stableID = [] then pc else pc.clearProxyMonitoringState stableID)
    pc

/-- `UpdateProxies`, with `pruneStatusDetails` and `pruneMaintenanceModes`. -/
def updateProxies (newProxies : List ProxyConfig) : ProxyChecker :=
  let active := newProxies.map (·.effectiveStableID options.digest)
  let pc := { pc with generation := pc.generation + 1 }
  let pc := pc.clearMetrics
  let pc :=
    { pc with
      statusDetails := pc.statusDetails.filter fun stableID _ =>
        stableID ∈ active
      maintenance := pc.maintenance.filter fun stableID _ =>
        stableID ∈ active
      proxies := newProxies }
  pc.rebuildSourceIndex options newProxies

/-- Whether `storeStatusDetailsLockedMode` stores anything. -/
def storable (stableID : Text) (allowMaintenance : Bool) : Bool :=
  stableID ≠ [] && (allowMaintenance || pc.monitoringEnabled stableID)

/-- `storeStatusDetailsLockedMode`. -/
def storeStatusDetailsMode (stableID : Text) (report : StatusReport)
    (allowMaintenance : Bool) (now : Time) : ProxyChecker :=
  if pc.storable stableID allowMaintenance then
    { pc with
      statusDetails := pc.statusDetails.insert stableID
        (nextStatusDetails pc.statusDetails[stableID]? report now) }
  else pc

/-- `storeOfflineDiagnostics`. -/
def storeOfflineDiagnostics (stableID : Text) (hostCheck : HostCheckDetails)
    (pingCheck : PingCheckDetails) (clock : DiagnosticReadings) :
      ProxyChecker :=
  match pc.statusDetails[stableID]? with
  | none => pc
  | some current =>
      if current.online then pc
      else
        { pc with
          statusDetails := pc.statusDetails.insert stableID
            (diagnosedDetails current hostCheck pingCheck clock) }

/-- The details `RefreshHostDiagnosticsByStableID` shows for a node that has
no status yet; they are not stored. -/
def unstoredDetails (hostCheck : HostCheckDetails)
    (pingCheck : PingCheckDetails) (now : Time) : ProxyStatusDetails :=
  let status :=
    classifyAvailabilityState false (some hostCheck) (some pingCheck)
  { status := status
    checkedAt := now
    lastChangedAt := now
    failingSince := now
    hostCheck := hostCheck
    pingCheck := pingCheck
    failure := diagnoseFailure {} hostCheck pingCheck
    downSince := if status = .offline then now else 0
    proxyFailureSince := if status = .offline then 0 else now }

/-- `RefreshHostDiagnosticsByStableID`. -/
def refreshHostDiagnosticsByStableID (stableID : Text)
    (hostCheck : HostCheckDetails) (pingCheck : PingCheckDetails)
    (now : Time) : ProxyChecker × Except ReadError ProxyStatusDetails :=
  if !pc.monitoringEnabled stableID then (pc, .error .maintenanceMode)
  else if (pc.getProxyByStableID options stableID).isNone then
    (pc, .error .proxyNotFound)
  else
    match pc.statusDetails[stableID]? with
    | none => (pc, .ok (unstoredDetails hostCheck pingCheck now))
    | some current =>
        if current.online then (pc, .ok current)
        else
          let pc :=
            pc.storeStatusDetailsMode stableID
              { online := false, hostCheck := some hostCheck
                pingCheck := some pingCheck }
              false now
          match pc.statusDetails[stableID]? with
          | none => (pc, .error .metricNotFound)
          | some updated => (pc, .ok updated)

/-- A status kept across a restart. -/
structure Restored where
  stableID : Text
  since : Time
  hostCheck : HostCheckDetails := {}
  pingCheck : PingCheckDetails := {}
  failure : FailureDetails := {}
deriving DecidableEq

/-- The failure of a restored status: the kept one, or a fresh diagnosis. -/
def Restored.effectiveFailure (restored : Restored) : FailureDetails :=
  if restored.failure.code = [] then
    diagnoseFailure {} restored.hostCheck restored.pingCheck
  else restored.failure

/-- The record a restored outage starts from. -/
def Restored.details (restored : Restored) (now : Time) : ProxyStatusDetails :=
  { checkedAt := now
    lastChangedAt := restored.since
    failingSince := restored.since
    hostCheck := restored.hostCheck
    pingCheck := restored.pingCheck
    checkFailure := restored.effectiveFailure
    failure := restored.effectiveFailure }

/-- The common part of the two restores. -/
def restoreStatus (restored : Restored) (details : ProxyStatusDetails) :
    ProxyChecker :=
  if restored.stableID = [] || restored.since.isZero ||
      !pc.monitoringEnabled restored.stableID then pc
  else
    match pc.getProxyByStableID options restored.stableID with
    | none => pc
    | some proxy =>
        { pc with
          statusDetails := pc.statusDetails.insert restored.stableID details
          currentMetrics :=
            pc.currentMetrics.insert (metricKey options proxy) false
          latencyMetrics :=
            pc.latencyMetrics.insert (metricKey options proxy) 0 }

/-- `RestoreOfflineStatus`. -/
def restoreOfflineStatus (restored : Restored) (now : Time) : ProxyChecker :=
  pc.restoreStatus options restored
    { restored.details now with
      status := .offline, downSince := restored.since }

/-- `RestoreProxyFailureStatus`. -/
def restoreProxyFailureStatus (restored : Restored)
    (now : Time) : ProxyChecker :=
  pc.restoreStatus options restored
    { restored.details now with
      status := .proxyFailure, proxyFailureSince := restored.since }

/-- The status both readers fall back to, `statusDetailsByStableID`. -/
def statusDetailsByStableID (stableID : Text) : Option ProxyStatusDetails :=
  if stableID = [] then none else pc.statusDetails[stableID]?

/-- `GetProxyStatusByStableID`: the online flag and the latency. -/
def getProxyStatusByStableID (stableID : Text) :
    Except ReadError (Bool × Int) :=
  if !pc.monitoringEnabled stableID then .error .maintenanceMode
  else
    match pc.getProxyByStableID options stableID with
    | none => .error .proxyNotFound
    | some proxy =>
        match pc.currentMetrics[metricKey options proxy]? with
        | some status =>
            .ok (status,
              (pc.latencyMetrics[metricKey options proxy]?).getD 0)
        | none =>
            match pc.statusDetailsByStableID stableID with
            | some details => .ok (details.online, details.latency)
            | none => .error .metricNotFound

/-- `GetProxyStatusDetailsIncludingMaintenance`: the last status of a node,
paused or not. -/
def getProxyStatusDetailsIncludingMaintenance (stableID : Text) :
    Except ReadError ProxyStatusDetails :=
  if (pc.getProxyByStableID options stableID).isNone then
    .error .proxyNotFound
  else
    match pc.statusDetails[stableID]? with
    | none => .error .metricNotFound
    | some details => .ok details

/-- `GetProxyStatusDetailsByStableID`. -/
def getProxyStatusDetailsByStableID (stableID : Text) :
    Except ReadError ProxyStatusDetails :=
  if !pc.monitoringEnabled stableID then .error .maintenanceMode
  else if (pc.getProxyByStableID options stableID).isNone then
    .error .proxyNotFound
  else
    match pc.statusDetails[stableID]? with
    | none => .error .metricNotFound
    | some details => .ok details

end ProxyChecker

end XrayChecker.Checker

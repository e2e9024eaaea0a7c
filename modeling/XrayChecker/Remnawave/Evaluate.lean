import XrayChecker.Remnawave.Config

/-
Which state a location is in for an audience: the hosts an internal squad
sees, the members on them folded by server, and the servers folded into the
location.
-/

namespace XrayChecker.Remnawave

open Go Checker

inductive GroupState where
  | groupHealthy
  | groupDown
  | groupPartial
  | groupPending
  | groupAmbiguous
  | groupMaintenance
deriving DecidableEq

structure GroupEvaluation where
  label : Text
  state : GroupState
deriving DecidableEq

/-- The nodes and what is known about them when a pass looks. -/
structure Fleet where
  proxyByStableID : GoMap Text ProxyConfig := ∅
  statuses : GoMap Text ProxyStatusDetails := ∅
  maintenance : GoMap Text Bool := ∅
  observations : GoMap Text Int := ∅
  checkEndpointIDs : GoMap Text Bool := ∅
  now : Time := 0

/-- The hosts an audience sees, and the hosts there are. -/
structure HostView where
  visibleHosts : GoMap Text Bool := ∅
  hostByUUID : GoMap Text Host := ∅

structure Aggregate where
  hasHealthy : Bool := false
  hasPending : Bool := false
  hasAmbiguous : Bool := false
  members : Nat := 0
  down : Nat := 0
  maintenanceDown : Nat := 0

/-- The state an aggregate reports, for a server over its transports and for a
location over its servers alike. -/
def stateOf (item : Aggregate) : GroupState :=
  if item.hasHealthy && 0 < item.down then .groupPartial
  else if item.hasHealthy then .groupHealthy
  else if item.hasAmbiguous then .groupAmbiguous
  else if item.hasPending || item.down < item.members then .groupPending
  else if item.maintenanceDown = item.members then .groupMaintenance
  else .groupDown

/-- A failing node is not yet counted as down: the outage is too young or not
confirmed often enough. -/
def unconfirmed (policy : Policy) (fleet : Fleet) (stableID : Text)
    (details : ProxyStatusDetails) : Bool :=
  details.serviceFailureSince.isZero ||
    fleet.now.sub details.serviceFailureSince < minutes policy.outageMinutes ||
    (fleet.observations[stableID]?.getD 0) < policy.minimumFailures

/-- One more member in the aggregate of its server. -/
def countMember (policy : Policy) (fleet : Fleet) (stableID : Text)
    (item : Aggregate) : Aggregate :=
  let item := { item with members := item.members + 1 }
  if fleet.checkEndpointIDs[stableID]?.getD false then
    { item with hasAmbiguous := true }
  else
    match fleet.statuses[stableID]? with
    | none => { item with hasPending := true }
    | some details =>
        if details.online then { item with hasHealthy := true }
        else if unconfirmed policy fleet stableID details then
          { item with hasPending := true }
        else
          { item with
            down := item.down + 1
            maintenanceDown :=
              if fleet.maintenance[stableID]?.getD false then
                item.maintenanceDown + 1
              else item.maintenanceDown }

/-- Members of one physical server are folded by address; a node without an
address stands alone. -/
def serverKey (proxy : ProxyConfig) (stableID : Text) : Text :=
  if toLower (trimSpace proxy.server) = [] then "stable:" ++ stableID
  else toLower (trimSpace proxy.server)

def foldMember (policy : Policy) (hosts : HostView) (fleet : Fleet)
    (servers : GoMap Text Aggregate) (member : Text × Text) :
    GoMap Text Aggregate :=
  match fleet.proxyByStableID[member.1]? with
  | none => servers
  | some proxy =>
      if !(hosts.visibleHosts[member.2]?.getD false) ||
          !hosts.hostByUUID.contains member.2 then servers
      else
        let key := serverKey proxy member.1
        servers.insert key
          (countMember policy fleet member.1 (servers[key]?.getD {}))

/-- A server that still answers on any transport counts as healthy. -/
def countServer (overall server : Aggregate) : Aggregate :=
  let overall := { overall with members := overall.members + 1 }
  match stateOf server with
  | .groupHealthy | .groupPartial => { overall with hasHealthy := true }
  | .groupAmbiguous => { overall with hasAmbiguous := true }
  | .groupPending => { overall with hasPending := true }
  | .groupMaintenance =>
      { overall with
        down := overall.down + 1
        maintenanceDown := overall.maintenanceDown + 1 }
  | .groupDown => { overall with down := overall.down + 1 }

def publicLocationLabel (location : AnnounceLocation) (locationKey : Text) :
    Text :=
  if trimSpace location.publicLabel ≠ [] then trimSpace location.publicLabel
  else if trimSpace locationKey ≠ [] ∧
      (validateDisplayText "public label" (trimSpace locationKey) 80).isOk then
    trimSpace locationKey
  else "Локация"

/-- One location as an audience sees it, unless it sees no server of it. -/
def evaluateLocation (policy : Policy) (hosts : HostView) (fleet : Fleet)
    (key : Text) (location : AnnounceLocation) : Option GroupEvaluation :=
  let servers := location.members.toList.foldl
    (foldMember policy hosts fleet) (∅ : GoMap Text Aggregate)
  if servers.isEmpty then none
  else
    some {
      label := publicLocationLabel location key
      state := stateOf (servers.values.foldl countServer {}) }

def evaluateLocations (locations : GoMap Text AnnounceLocation)
    (policy : Policy) (hosts : HostView) (fleet : Fleet) :
    GoMap Text GroupEvaluation :=
  locations.filterMap (evaluateLocation policy hosts fleet)

/-- `map[string]T` indexed by a field, the last item winning. -/
def indexBy {T : Type} (key : T → Text) (items : List T) : GoMap Text T :=
  items.foldl (fun acc item => acc.insert (key item) item) ∅

def visibleHostSet (squad : InternalSquad) (hosts : List Host) :
    GoMap Text Bool :=
  let inbounds := squad.inbounds.filter fun inbound => inbound != []
  hosts.foldl (fun result host =>
    if host.uuid == [] || host.isDisabled || host.isHidden ||
        !inbounds.elem host.configProfileInboundUUID then result
    else if host.visibleToInternalSquad squad.uuid then
      result.insert host.uuid true
    else result) ∅

/-- The network endpoint a node and a host share; empty when there is none. -/
def endpointKey (address : Text) (port : Int) : Text :=
  if toLower (trimSpace address) = [] ∨ port ≤ 0 then []
  else toLower (trimSpace address) ++ ':' :: itoaInt port

/-- The hosts by endpoint, and the endpoints several hosts share. -/
structure EndpointIndex where
  byEndpoint : GoMap Text Text := ∅
  ambiguous : GoMap Text Bool := ∅

def indexEndpoint (index : EndpointIndex) (host : Host) : EndpointIndex :=
  let key := endpointKey host.address host.port
  if key = [] then index
  else if index.byEndpoint.contains key then
    { index with ambiguous := index.ambiguous.insert key true }
  else { index with byEndpoint := index.byEndpoint.insert key host.uuid }

/-- The host of a member: the one configured, or the one at the node's
endpoint. -/
def resolveMemberHost (index : EndpointIndex)
    (proxyByStableID : GoMap Text ProxyConfig) (stableID hostUUID : Text) :
    Text :=
  if hostUUID ≠ [] then hostUUID
  else
    match proxyByStableID[stableID]? with
    | none => []
    | some proxy =>
        let endpoint := endpointKey proxy.server proxy.port
        if index.ambiguous.contains endpoint then []
        else index.byEndpoint[endpoint]?.getD []

def resolveMemberHosts (locations : GoMap Text AnnounceLocation)
    (proxyByStableID : GoMap Text ProxyConfig) (hosts : List Host) :
    GoMap Text AnnounceLocation :=
  let index := hosts.foldl indexEndpoint {}
  locations.map fun _ location =>
    { location with
      members := location.members.map (resolveMemberHost index
        proxyByStableID) }

def effectiveLocations (config : ConfigFile) :
    Except Text (GoMap Text AnnounceLocation) :=
  if !(config.locations.getD ∅).isEmpty || config.nodeMappings.isEmpty then
    .ok (config.locations.getD ∅)
  else locationsFromNodeMappings config.nodeMappings

@[simp] theorem getElem?_evaluateLocations
    (locations : GoMap Text AnnounceLocation) (policy : Policy)
    (hosts : HostView) (fleet : Fleet) (key : Text) :
    (evaluateLocations locations policy hosts fleet)[key]? =
      locations[key]?.bind (evaluateLocation policy hosts fleet key) := by
  rw [evaluateLocations, Std.ExtTreeMap.getElem?_filterMap']

end XrayChecker.Remnawave

import XrayChecker.NodeArchive.Availability

/-
The incident journal: outages of single nodes, and failures that hit many
nodes at once.
-/

namespace XrayChecker.NodeArchive

open Go Checker

/-- `time.Unix(0, 0)`, in nanoseconds since the zero instant. -/
def unixEpoch : Time := seconds 62135596800

/-- `t.UnixNano()`, for instants Go can express so (1678 to 2262). -/
def unixNano (t : Time) : Int :=
  t.sub unixEpoch

/-- `incidentID`. -/
def incidentID (kind scope : Text) (startedAt : Time) : Text :=
  kind ++ "-" ++ itoaInt (unixNano startedAt) ++ "-" ++
    replacer [(" ", "-"), (":", "-"), ("/", "-")] scope

/-- The scope of a node's own incidents. -/
def nodeScope (stableID : Text) : Text :=
  "node:" ++ stableID

namespace IncidentRecord

variable (incident : IncidentRecord)

/-- The incident is the open one of its kind and scope. -/
def IsOpen (kind scope : Text) : Prop :=
  incident.kind = kind ∧ incident.scope = scope ∧
    incident.status = incidentStatusActive

instance (kind scope : Text) : Decidable (incident.IsOpen kind scope) :=
  inferInstanceAs (Decidable (_ ∧ _))

/-- What `resolveIncidentLocked` writes. -/
def resolve (resolvedAt : Time) : IncidentRecord :=
  { incident with
    status := incidentStatusResolved
    resolvedAt := resolvedAt
    updatedAt := resolvedAt
    durationSec := durationSeconds incident.startedAt resolvedAt }

end IncidentRecord

/-- `findActiveIncidentLocked`: the last one. -/
def findActiveIncident (incidents : List IncidentRecord) (kind scope : Text) :
    Option Nat :=
  (List.range incidents.length).reverse.find? fun index =>
    incidents[index]?.any fun incident => incident.IsOpen kind scope

/-- `resolveIncidentLocked`. -/
def resolveIncident (incidents : List IncidentRecord) (index : Nat)
    (resolvedAt : Time) : List IncidentRecord :=
  incidents.modify index fun incident => incident.resolve resolvedAt

/-- The step the archive repeats wherever a node leaves the accounting: its
open incident, if there is one, is resolved. -/
def resolveNodeIncident (incidents : List IncidentRecord) (stableID : Text)
    (resolvedAt : Time) : List IncidentRecord × Bool :=
  match findActiveIncident incidents incidentKindNode (nodeScope stableID) with
  | none => (incidents, false)
  | some index => (resolveIncident incidents index resolvedAt, true)

/-- The failure an incident shows; one without a code is unknown. -/
def incidentFailure (failure : FailureDetails) : FailureDetails :=
  if failure.code = [] then
    { failure with
      code := failureCodeUnknown, summary := failureSummary failureCodeUnknown }
  else failure

/-- The incident `updateNodeIncidentLocked` opens. -/
def nodeIncident (proxy : ProxyConfig) (details : ProxyStatusDetails)
    (now : Time) : IncidentRecord :=
  let failure := incidentFailure details.failure
  let startedAt := if details.downSince.isZero then now else details.downSince
  { id := incidentID incidentKindNode proxy.stableID startedAt
    kind := incidentKindNode
    status := incidentStatusActive
    scope := nodeScope proxy.stableID
    subscription := proxy.subName
    stableIDs := [proxy.stableID]
    nodeNames := [proxy.name]
    affectedCount := 1
    totalCount := 1
    causeCode := failure.code
    causeSummary := failure.summary
    causeDetail := failure.detail
    startedAt := startedAt
    updatedAt := now }

/-- What `updateNodeIncidentLocked` writes into an open incident. -/
def IncidentRecord.continued (incident : IncidentRecord)
    (failure : FailureDetails) (now : Time) : IncidentRecord :=
  { incident with
    causeCode := failure.code
    causeSummary := failure.summary
    causeDetail := failure.detail
    updatedAt := now
    durationSec := durationSeconds incident.startedAt now }

/-- `updateNodeIncidentLocked`. -/
def updateNodeIncident (incidents : List IncidentRecord) (proxy : ProxyConfig)
    (details : ProxyStatusDetails) (now : Time) : List IncidentRecord × Bool :=
  if proxy.stableID = [] then (incidents, false)
  else if !details.isOffline then
    resolveNodeIncident incidents proxy.stableID now
  else
    match findActiveIncident incidents incidentKindNode
        (nodeScope proxy.stableID) with
    | none => (incidents ++ [nodeIncident proxy details now], true)
    | some index =>
        (incidents.modify index fun incident =>
          incident.continued (incidentFailure details.failure) now, true)

structure MassIncidentCandidate where
  scope : Text
  subscription : Text
  stableIDs : List Text
  nodeNames : List Text
  totalCount : Nat
  cause : FailureDetails

structure IncidentNodeFailure where
  proxy : ProxyConfig
  details : ProxyStatusDetails

/-- The code failures are grouped by. -/
def IncidentNodeFailure.causeCode (item : IncidentNodeFailure) : Text :=
  if item.details.failure.code = [] then failureCodeUnknown
  else item.details.failure.code

/-- `likelySharedCheckEndpoint`. -/
def likelySharedCheckEndpoint (code : Text)
    (failed : List IncidentNodeFailure) : Bool :=
  if code = failureCodeDNS ∨ code = failureCodeHTTPStatus ∨
      code = failureCodeProxyTimeout ∨ code = failureCodeTLS then
    failed.all (fun item => item.details.hostCheck.checked &&
      item.details.hostCheck.online) &&
      2 ≤ (failed.map (·.proxy.server)).dedup.length
  else false

/-- The cause code of `massCandidate`: the most frequent one among those
frequent enough, the first in order on a tie. -/
def selectCause (required : Nat) (failed : List IncidentNodeFailure) :
    Option Text :=
  let byCause (code : Text) := failed.filter (·.causeCode = code)
  (sortStrings (failed.map (·.causeCode)).dedup).foldl
    (fun selected code =>
      if (byCause code).length < required then selected
      else
        match selected with
        | none => some code
        | some best =>
            if (byCause code).length > (byCause best).length then some code
            else some best)
    none

/-- The cause shown for the failures of one code. -/
def massCause (scope code : Text) (selected : List IncidentNodeFailure) :
    FailureDetails :=
  let cause := (selected.head?.map (·.details.failure)).getD {}
  let cause := if cause.code = [] then { cause with code := code } else cause
  let cause :=
    if cause.summary = [] then
      { cause with summary := failureSummary cause.code }
    else cause
  if scope = "global" ∧ likelySharedCheckEndpoint code selected then
    { code := failureCodeCheckEndpoint
      summary := "Вероятен общий сбой проверочного endpoint"
      detail := "одинаковая ошибка проверки при доступных TCP-портах разных нод" }
  else cause

/-- `massCandidate`. -/
def massCandidate (scope subscription : Text) (active : List ProxyConfig)
    (failed : List IncidentNodeFailure) : Option MassIncidentCandidate :=
  if active = [] ∨ failed.isEmpty then none
  else
    (selectCause (max 3 ((active.length + 1) / 2)) failed).map fun code =>
      let selected :=
        (failed.filter (·.causeCode = code)).insertionSort fun a b =>
          a.proxy.stableID ≤ b.proxy.stableID
      { scope := scope
        subscription := subscription
        totalCount := active.length
        cause := massCause scope code selected
        stableIDs := selected.map (·.proxy.stableID)
        nodeNames := selected.map (·.proxy.name) }

/-- The scope of a subscription. -/
def subscriptionScope (subscription : Text) : Text :=
  if subscription = [] then "subscription:(unnamed)"
  else "subscription:" ++ subscription

/-- `correlateMassIncidents`. -/
def correlateMassIncidents (proxies : List ProxyConfig)
    (detailsByStableID : GoMap Text ProxyStatusDetails) :
    List MassIncidentCandidate :=
  let active := proxies.filter (·.stableID ≠ [])
  let failed := active.filterMap fun proxy =>
    match detailsByStableID[proxy.stableID]? with
    | some details => if details.online then none else some ⟨proxy, details⟩
    | none => none
  match massCandidate "global" [] active failed with
  | some candidate => [candidate]
  | none =>
      ((active.map (·.subName)).dedup.filterMap fun subscription =>
        massCandidate (subscriptionScope subscription) subscription
          (active.filter (·.subName = subscription))
          (failed.filter (·.proxy.subName = subscription))).insertionSort
        fun a b => a.scope ≤ b.scope

/-- The incident `updateMassIncidentsLocked` opens. -/
def massIncident (candidate : MassIncidentCandidate) (now : Time) :
    IncidentRecord :=
  { id := incidentID incidentKindMass candidate.scope now
    kind := incidentKindMass
    status := incidentStatusActive
    scope := candidate.scope
    subscription := candidate.subscription
    stableIDs := candidate.stableIDs
    nodeNames := candidate.nodeNames
    affectedCount := candidate.stableIDs.length
    totalCount := candidate.totalCount
    causeCode := candidate.cause.code
    causeSummary := candidate.cause.summary
    causeDetail := candidate.cause.detail
    startedAt := now
    updatedAt := now }

/-- What `updateMassIncidentsLocked` writes into an open incident. -/
def IncidentRecord.refreshed (incident : IncidentRecord)
    (candidate : MassIncidentCandidate) (now : Time) : IncidentRecord :=
  { incident with
    stableIDs := candidate.stableIDs
    nodeNames := candidate.nodeNames
    affectedCount := candidate.stableIDs.length
    totalCount := candidate.totalCount
    causeCode := candidate.cause.code
    causeSummary := candidate.cause.summary
    causeDetail := candidate.cause.detail
    updatedAt := now
    durationSec := durationSeconds incident.startedAt now }

/-- The loop of `updateMassIncidentsLocked` over the candidates. -/
def recordCandidate (now : Time) (incidents : List IncidentRecord)
    (candidate : MassIncidentCandidate) : List IncidentRecord :=
  match findActiveIncident incidents incidentKindMass candidate.scope with
  | none => incidents ++ [massIncident candidate now]
  | some index =>
      incidents.modify index fun incident => incident.refreshed candidate now

/-- The mass incident is over: no candidate has its scope. -/
def IncidentRecord.Ended (incident : IncidentRecord)
    (activeScopes : List Text) : Prop :=
  incident.kind = incidentKindMass ∧
    incident.status = incidentStatusActive ∧ incident.scope ∉ activeScopes

instance (incident : IncidentRecord) (activeScopes : List Text) :
    Decidable (incident.Ended activeScopes) :=
  inferInstanceAs (Decidable (_ ∧ _))

/-- `updateMassIncidentsLocked`. -/
def updateMassIncidents (incidents : List IncidentRecord)
    (proxies : List ProxyConfig)
    (detailsByStableID : GoMap Text ProxyStatusDetails) (now : Time) :
    List IncidentRecord × Bool :=
  let candidates := correlateMassIncidents proxies detailsByStableID
  let activeScopes := candidates.map (·.scope)
  let incidents := candidates.foldl (recordCandidate now) incidents
  (incidents.map fun incident =>
      if incident.Ended activeScopes then incident.resolve now else incident,
    !candidates.isEmpty ||
      incidents.any fun incident => incident.Ended activeScopes)

/-- `pruneIncidentsLocked`. -/
def pruneIncidents (incidents : List IncidentRecord) :
    List IncidentRecord × Bool :=
  if incidents.length ≤ maxIncidentRecords then (incidents, false)
  else
    let active := incidents.filter (·.status = incidentStatusActive)
    let resolved :=
      (incidents.filter (·.status ≠ incidentStatusActive)).insertionSort
        fun a b => b.startedAt ≤ a.startedAt
    (active ++ resolved.take (maxIncidentRecords - active.length), true)

/-- One entry as `normalizeIncidents` keeps it. -/
def normalizeIncident (incident : IncidentRecord) : IncidentRecord :=
  let causeCode :=
    if incident.causeCode = [] then failureCodeUnknown
    else incident.causeCode
  { incident with
    id := trimSpace incident.id
    kind := trimSpace incident.kind
    scope := trimSpace incident.scope
    status :=
      if incident.status ≠ incidentStatusActive ∧
          incident.status ≠ incidentStatusResolved then
        incidentStatusResolved
      else incident.status
    stableIDs := uniqueSortedStrings incident.stableIDs
    causeCode := causeCode
    causeSummary :=
      if incident.causeSummary = [] then failureSummary causeCode
      else incident.causeSummary }

/-- What an entry needs to be kept, besides a new identity. -/
def IncidentRecord.Wellformed (incident : IncidentRecord) : Prop :=
  incident.id ≠ [] ∧ incident.scope ≠ [] ∧ ¬incident.startedAt.isZero ∧
    (incident.kind = incidentKindNode ∨ incident.kind = incidentKindMass)

instance (incident : IncidentRecord) : Decidable incident.Wellformed :=
  inferInstanceAs (Decidable (_ ∧ _))

/-- The loop of `normalizeIncidents`; `seen` holds the identities kept. -/
def keptIncidents : List Text → List IncidentRecord → List IncidentRecord
  | _, [] => []
  | seen, incident :: rest =>
      let normalized := normalizeIncident incident
      if normalized.Wellformed ∧ normalized.id ∉ seen then
        normalized :: keptIncidents (normalized.id :: seen) rest
      else keptIncidents seen rest

/-- `normalizeIncidents`. -/
def normalizeIncidents (input : List IncidentRecord) : List IncidentRecord :=
  let result := keptIncidents [] input
  result.drop (result.length - maxIncidentRecords)

end XrayChecker.NodeArchive

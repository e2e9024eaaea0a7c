import XrayChecker.Remnawave.Squad

/-
The announce service: its state, the pass over all squads, the conflicts it
keeps track of, and what survives a restart.
-/

namespace XrayChecker.Remnawave

open Go Checker

/-- The incident fields the service looks at. -/
structure IncidentRecord where
  kind : Text
  status : Text
  causeCode : Text
  stableIDs : List Text

/-- `ProxySource`, as it answers during one pass. -/
structure ProxySource where
  proxies : List ProxyConfig := []
  statusDetails : Text → Option ProxyStatusDetails := fun _ => none
  monitoringEnabled : Text → Bool := fun _ => true
  environmentSourced : Text → Bool := fun _ => true

/-- The nodes of the deployment's own subscription. -/
def ownProxies (source : ProxySource) : List ProxyConfig :=
  source.proxies.filter fun proxy =>
    proxy.stableID != [] && source.environmentSourced proxy.stableID

def proxyStatuses (source : ProxySource) : GoMap Text ProxyStatusDetails :=
  (ownProxies source).foldl (fun statuses proxy =>
    match source.statusDetails proxy.stableID with
    | some details => statuses.insert proxy.stableID details
    | none => statuses) ∅

def proxyMaintenance (source : ProxySource) : GoMap Text Bool :=
  (ownProxies source).foldl (fun maintenance proxy =>
    maintenance.insert proxy.stableID
      (!source.monitoringEnabled proxy.stableID)) ∅

/-- The nodes of a mass incident that is caused by the check endpoint. -/
def activeCheckEndpointStableIDs (incidents : List IncidentRecord) :
    GoMap Text Bool :=
  incidents.foldl (fun result incident =>
    if incident.kind ≠ ("mass" : Text) ∨
        incident.status ≠ ("active" : Text) ∨
        incident.causeCode ≠ failureCodeCheckEndpoint then result
    else
      incident.stableIDs.foldl (fun result id => result.insert id true) result)
    ∅

structure ConflictState where
  name : Text
  kind : ConflictKind
  since : Time
  notified : Bool := false
deriving DecidableEq

/-- What the conflict notifier is told. -/
inductive ConflictNotice where
  | announceConflict (squadName reason : Text) (since : Time)
  | announceConflictResolved (squadName : Text) (since : Time)
deriving DecidableEq

def conflictAlertDelay : Int := minutes 10

def conflictReason : ConflictKind → Text
  | .duplicateHeaders =>
      "В responseHeadersAdd сквада несколько заголовков announce, " ++
        "различающихся только регистром. Оставьте один."
  | .unrecognized =>
      "Текст announce в панели многострочный и не совпадает ни с принятой " ++
        "базой, ни с текстом, который checker вернул сам. " ++
        "Примите его заново кнопкой Adopt current announce as base (если " ++
        "база уже принята — сначала Forget adopted base) или сделайте " ++
        "текст однострочным."
  | .changedOutside => []

structure Service where
  config : ConfigFile := defaultConfig
  runtime : RuntimeFile := defaultRuntime
  runtimeOK : Bool := true
  topology : Topology := {}
  status : ReconcileStatus := {}
  failureObservations : GoMap Text Int := ∅
  recoverySince : GoMap Text Time := ∅
  conflicts : GoMap Text ConflictState := ∅
  /-- The document at `runtimePath`. -/
  runtimeFile : Option RuntimeFile := none

/-- The answers the outside world gives during one pass. -/
structure PassInput where
  externalSquads : Except Text (List ExternalSquad)
  proxySource : ProxySource := {}
  incidents : List IncidentRecord := []
  now : Time
  updateExternalHeaders : Text → GoMap Text Text → Except Text Unit :=
    fun _ _ => .ok ()
  disk : Except Text Unit := .ok ()
  hasNotifier : Bool := false

/-- What the pass knows about the nodes. -/
def passFleet (s : Service) (input : PassInput) : Fleet where
  proxyByStableID :=
    indexBy ProxyConfig.stableID (ownProxies input.proxySource)
  statuses := proxyStatuses input.proxySource
  maintenance := proxyMaintenance input.proxySource
  observations := s.failureObservations
  checkEndpointIDs := activeCheckEndpointStableIDs input.incidents
  now := input.now

/-- What the loop over the desired announcements accumulates.  `requests` is
the sequence of panel updates it has asked for. -/
structure PassProgress where
  runtime : RuntimeFile
  externalByUUID : GoMap Text ExternalSquad
  conflicts : List SquadConflict := []
  squadConflicts : GoMap Text SquadConflict := ∅
  errorsSeen : List Text := []
  runtimeChanged : Bool := false
  requests : List (Text × GoMap Text Text) := []

/-- The outcome for one squad, put into the state of the loop. -/
def applyOutcome (progress : PassProgress) (squad : ExternalSquad)
    (externalUUID : Text) (outcome : SquadOutcome) : PassProgress where
  runtime :=
    { progress.runtime with
      managed := progress.runtime.managed.set externalUUID outcome.managed
      restored := progress.runtime.restored.set externalUUID outcome.restored }
  externalByUUID :=
    progress.externalByUUID.insert externalUUID
      { squad with responseHeadersAdd := outcome.headers }
  conflicts := progress.conflicts ++ outcome.conflict.toList
  squadConflicts :=
    match outcome.conflict with
    | some conflict => progress.squadConflicts.insert externalUUID conflict
    | none => progress.squadConflicts
  errorsSeen := progress.errorsSeen ++ outcome.error.toList
  runtimeChanged := progress.runtimeChanged || outcome.changed
  requests :=
    progress.requests ++
      (outcome.request.map fun headers => (externalUUID, headers)).toList

def reconcileStep (bases : GoMap Text Text)
    (update : Text → GoMap Text Text → Except Text Unit) (now : Time)
    (desired : GoMap Text DesiredAnnouncement) (progress : PassProgress)
    (externalUUID : Text) : PassProgress :=
  match progress.externalByUUID[externalUUID]? with
  | none =>
      { progress with
        errorsSeen := progress.errorsSeen ++
          ["external squad " ++ externalUUID ++ " no longer exists"] }
  | some squad =>
      applyOutcome progress squad externalUUID
        (reconcileSquad bases[externalUUID]? (update externalUUID) now
          (desired[externalUUID]?.getD {}) squad
          progress.runtime.managed[externalUUID]?
          progress.runtime.restored[externalUUID]?)

/-- The loop of `reconcileLocked` over the desired announcements. -/
def reconcileSquads (bases : GoMap Text Text)
    (update : Text → GoMap Text Text → Except Text Unit) (now : Time)
    (desired : GoMap Text DesiredAnnouncement) (progress : PassProgress) :
    PassProgress :=
  desired.keys.foldl (reconcileStep bases update now desired) progress

/-- A blocked squad is remembered from the pass on that met it first. -/
def rememberConflict (now : Time) (conflicts : GoMap Text ConflictState)
    (entry : Text × SquadConflict) : GoMap Text ConflictState :=
  if entry.2.kind = .changedOutside then conflicts
  else
    let state :=
      conflicts[entry.1]?.getD
        { name := entry.2.name, kind := entry.2.kind, since := now }
    conflicts.insert entry.1
      { state with name := entry.2.name, kind := entry.2.kind }

/-- The notice of a remembered conflict that has become due. -/
def dueConflict (now : Time) (state : ConflictState) : Bool :=
  !state.notified && conflictAlertDelay ≤ now.sub state.since

def trackConflicts (hasNotifier : Bool)
    (conflicts : GoMap Text ConflictState)
    (current : GoMap Text SquadConflict)
    (managed : GoMap Text ManagedAnnouncement)
    (desired : GoMap Text DesiredAnnouncement)
    (externalByUUID : GoMap Text ExternalSquad) (now : Time) :
    GoMap Text ConflictState × List ConflictNotice :=
  let remembered := current.toList.foldl (rememberConflict now) conflicts
  let blocked := fun externalUUID =>
    current.contains externalUUID ||
      (externalByUUID.contains externalUUID && desired.contains externalUUID &&
        !managed.contains externalUUID)
  let kept := remembered.filter fun externalUUID _ => blocked externalUUID
  let resolved := remembered.toList.filterMap fun entry =>
    if !blocked entry.1 && managed.contains entry.1 && entry.2.notified &&
        hasNotifier then
      some (ConflictNotice.announceConflictResolved entry.2.name entry.2.since)
    else none
  if !hasNotifier then (kept, resolved)
  else
    let due := kept.toList.filter fun entry => dueConflict now entry.2
    (kept.map fun _ state =>
        if dueConflict now state then { state with notified := true }
        else state,
      resolved ++ due.map fun entry =>
        .announceConflict entry.2.name (conflictReason entry.2.kind)
          entry.2.since)

def sortByName (squads : List ExternalSquad) : List ExternalSquad :=
  squads.insertionSort fun a b => toLower a.name ≤ toLower b.name

def announcementStatus (managed : GoMap Text ManagedAnnouncement)
    (bases : GoMap Text Text) (squad : ExternalSquad) :
    RemoteAnnouncementStatus :=
  let current := headerValue squad.responseHeadersAdd announceHeader
  let owned := managed[squad.uuid]?
  let ownsValue := owned.any fun record => current == .single record.value
  let holdsBase := owned.any fun record => record.basePresent
  let test := fun (p : Text → Bool) =>
    match current with
    | .single value => p value
    | _ => false
  { externalSquadUUID := squad.uuid
    externalSquadName := squad.name
    present := current != .absent
    managed := ownsValue
    preservesBase :=
      (owned.isNone && test isAppendableBaseAnnounce) || holdsBase
    baseAdopted := bases.contains squad.uuid
    adoptable :=
      test isManagedBaseAnnounce && !(ownsValue && !holdsBase)
    message :=
      if ownsValue then (owned.map ManagedAnnouncement.message).getD []
      else [] }

def announcementStatuses (external : List ExternalSquad)
    (managed : GoMap Text ManagedAnnouncement) (bases : GoMap Text Text) :
    List RemoteAnnouncementStatus :=
  let listed := (external.map (announcementStatus managed bases)).filter
    fun status =>
      status.present || managed.contains status.externalSquadUUID
  let missing := managed.toList.filter fun entry =>
    !external.any fun squad => squad.uuid == entry.1
  let orphans := missing.map fun entry =>
    { externalSquadUUID := entry.1
      managed := true
      preservesBase := entry.2.basePresent
      message := entry.2.message : RemoteAnnouncementStatus }
  (listed ++ orphans).insertionSort fun a b =>
    toLower a.externalSquadName ≤ toLower b.externalSquadName

/-- What one pass leaves behind.  `squadConflicts` are the conflicts it met, by
squad. -/
structure PassResult where
  service : Service
  error : Option Text := none
  squadConflicts : GoMap Text SquadConflict := ∅
  requests : List (Text × GoMap Text Text) := []
  notices : List ConflictNotice := []

/-- The status a completed pass publishes. -/
def passStatus (s : Service) (topology : Topology) (now : Time)
    (progress : PassProgress) : ReconcileStatus where
  lastTopologyAt := topology.loadedAt
  lastReconcileAt := now
  lastError := join progress.errorsSeen "; "
  conflicts := progress.conflicts.map SquadConflict.text
  announcements :=
    announcementStatuses (sortByName progress.externalByUUID.values)
      progress.runtime.managed s.config.announceBases

/-- The end of a pass: the ownership file is written if it changed, and the
new state is installed. -/
def finishPass (s : Service) (input : PassInput) (topology : Topology)
    (desired : DesiredProgress) (progress : PassProgress) : PassResult :=
  let tracked := trackConflicts input.hasNotifier s.conflicts
    progress.squadConflicts progress.runtime.managed desired.desired
    progress.externalByUUID input.now
  let s := { s with
    topology := topology
    runtime := progress.runtime
    recoverySince := desired.nextRecovery
    conflicts := tracked.1 }
  let settled := fun (s : Service) =>
    { service := { s with
        topology := { topology with
          externalSquads := sortByName progress.externalByUUID.values }
        status := passStatus s topology input.now progress }
      error :=
        if progress.errorsSeen = [] then none
        else some (join progress.errorsSeen "; ")
      squadConflicts := progress.squadConflicts
      requests := progress.requests
      notices := tracked.2 : PassResult }
  if !progress.runtimeChanged then settled s
  else
    match writeRuntimeFile input.disk progress.runtime input.now with
    | .error cause =>
        { service := s
          error := some
            ("persist Remnawave announce ownership after remote update: " ++
              cause)
          squadConflicts := progress.squadConflicts
          requests := progress.requests
          notices := tracked.2 }
    | .ok stored =>
        settled { s with
          runtime := { progress.runtime with updatedAt := input.now }
          runtimeFile := some stored }

/-- The loop of a pass that has its desired announcements. -/
def passProgress (s : Service) (input : PassInput)
    (squads : List ExternalSquad) (desired : DesiredProgress) : PassProgress :=
  reconcileSquads s.config.announceBases input.updateExternalHeaders input.now
    desired.desired
    { runtime := s.runtime
      externalByUUID := indexBy ExternalSquad.uuid (sortByName squads) }

/-- The desired announcements of a pass that was told `squads`. -/
def passDesired (s : Service) (input : PassInput)
    (squads : List ExternalSquad) : Except Text DesiredProgress :=
  computeDesiredAnnouncements s.config s.runtime
    { s.topology with externalSquads := sortByName squads }
    (passFleet s input) s.recoverySince

def reconcileLocked (s : Service) (input : PassInput) : PassResult :=
  match input.externalSquads with
  | .error cause =>
      { service := s
        error := some ("refresh Remnawave external squads: " ++ cause) }
  | .ok squads =>
      let topology := { s.topology with externalSquads := sortByName squads }
      match passDesired s input squads with
      | .error cause =>
          { service := { s with topology := topology }, error := some cause }
      | .ok desired =>
          finishPass s input topology desired
            (passProgress s input squads desired)

def invalidRuntimeText : Text :=
  "Remnawave ownership state is invalid; refusing remote writes"

def setLastError (s : Service) : Option Text → Service
  | none => s
  | some cause => { s with status := { s.status with lastError := cause } }

/-- `ReconcileNow` with the integration switched on. -/
def reconcileNow (s : Service) (input : PassInput) : PassResult :=
  if !s.runtimeOK then
    { service := setLastError s (some invalidRuntimeText)
      error := some invalidRuntimeText }
  else
    let result := reconcileLocked s input
    { result with service := setLastError result.service result.error }

/-- `LoadRuntime`. -/
def loadRuntime (s : Service) : Service :=
  match readRuntimeFile s.runtimeFile with
  | .error cause =>
      { s with
        runtimeOK := false
        status := { s.status with
          lastError := "Remnawave ownership state is invalid; " ++
            "remote writes are disabled: " ++ cause } }
  | .ok runtime => { s with runtime := runtime, runtimeOK := true }

/-- A new process: the configuration is the one last stored, the ownership
file is read, and everything kept in memory only is gone. -/
def restart (s : Service) : Service :=
  loadRuntime { config := s.config, runtimeFile := s.runtimeFile }

/-- `ObserveFullCheck`, for one node. -/
def observeNode (source : ProxySource) (observations : GoMap Text Int)
    (proxy : ProxyConfig) : GoMap Text Int :=
  match source.statusDetails proxy.stableID with
  | none => observations.erase proxy.stableID
  | some details =>
      if details.online then observations.erase proxy.stableID
      else
        observations.insert proxy.stableID
          (observations[proxy.stableID]?.getD 0 + 1)

def observeFullCheck (s : Service) (source : ProxySource) : Service :=
  let proxies := ownProxies source
  let observations :=
    proxies.foldl (observeNode source) s.failureObservations
  { s with
    failureObservations := observations.filter fun stableID _ =>
      proxies.any fun proxy => proxy.stableID == stableID }

end XrayChecker.Remnawave

import XrayChecker.NodeArchive.Incidents

/-
The operations of the node archive.  Every one takes the clock it reads and
whether the file can be written, and tells what it returned and what it wrote.
-/

namespace XrayChecker.NodeArchive

open Go Checker

/-- One result of a speed test, as far as the archive reads it. -/
structure SpeedResult where
  name : Text := []
  subName : Text := []
  protocol : Text := []
  checkedAt : Time := 0

/-- What a call returned, and the file it wrote. -/
structure Outcome where
  result : Except Text (Option NodeRecord)
  written : Option StateFile := none

/-- `normalizeMergedNodes`. -/
def normalizeMergedNodes (input : GoMap Text (List Text))
    (nodes : GoMap Text NodeRecord) : GoMap Text (List Text) :=
  input.toList.foldl
    (fun result entry =>
      let target := trimSpace entry.1
      let sources := uniqueSortedStrings (entry.2.filter fun source =>
        trimSpace source ≠ target)
      if target = [] ∨ !nodes.contains target ∨ sources = [] then result
      else result.insert target sources)
    ∅

namespace Store

variable (store : Store)

/-- The record of a node; the zero record when there is none. -/
def recordOf (stableID : Text) : NodeRecord :=
  (store.nodes[stableID]?).getD {}

/-- The file `saveLocked` writes. -/
def file : StateFile :=
  { nodes := store.nodes, mergedNodes := store.mergedNodes
    incidents := store.incidents
    availabilityHistory := store.availabilityHistory }

/-- The end of an operation that saves `store`: where `saveLocked` fails, the
memory is left as `failed`. -/
def save (failed : Store) (saveError : Option Text)
    (value : Option NodeRecord := none) : Store × Outcome :=
  match saveError with
  | none => (store, { result := .ok value, written := some store.file })
  | some error => (failed, { result := .error error })

/-- A refused call. -/
def refuse (message : Text) : Store × Outcome :=
  (store, { result := .error message })

/-- `Load`, of a file that could be read. -/
def load (file : StateFile) (now : Time) : Store :=
  let nodes := file.nodes.toList.foldl
    (fun nodes entry =>
      let stableID := trimSpace entry.1
      let stableID :=
        if stableID = [] then trimSpace entry.2.stableID else stableID
      if stableID = [] then nodes
      else nodes.insert stableID { entry.2 with stableID := stableID })
    (∅ : GoMap Text NodeRecord)
  { store with
    nodes := nodes
    mergedNodes := normalizeMergedNodes file.mergedNodes nodes
    incidents := normalizeIncidents file.incidents
    availabilityHistory :=
      normalizeAvailabilityHistory store.availabilityHistoryRetentionDays now
        file.availabilityHistory }

/-- `SetAvailabilityHistoryRetentionDays`. -/
def setAvailabilityHistoryRetentionDays (days : Int) (now : Time)
    (saveError : Option Text) : Store × Outcome :=
  let previousDays := store.availabilityHistoryRetentionDays
  let previousHistory := store.availabilityHistory
  let days := normalizeAvailabilityHistoryRetentionDays days
  let pruned := pruneAvailabilityHistory days now store.availabilityHistory
  let store :=
    { store with
      availabilityHistoryRetentionDays := days
      availabilityHistory := pruned.1 }
  if !pruned.2 then (store, { result := .ok none })
  else
    store.save
      { store with
        availabilityHistoryRetentionDays := previousDays
        availabilityHistory := previousHistory }
      saveError

/-- The first loop of `SyncProxies`. -/
def syncProxy (options : Options) (now : Time) (synced : Store × Bool)
    (proxy : ProxyConfig) : Store × Bool :=
  let store := synced.1
  let stableID := proxy.effectiveStableID options.digest
  if stableID = [] then synced
  else
    let previous := store.recordOf stableID
    let record :=
      { previous.applyProxy { proxy with stableID := stableID } now with
        active := true, retiredAt := 0 }
    if previous ≠ record then
      ({ store with nodes := store.nodes.insert stableID record }, true)
    else synced

/-- The second loop of `SyncProxies`: a node that left is retired and its
incident resolved. -/
def syncMissing (active : List Text) (now : Time) (synced : Store × Bool)
    (entry : Text × NodeRecord) : Store × Bool :=
  let store := synced.1
  if !entry.2.active || active.elem entry.1 then synced
  else
    let record := entry.2.retire now
    let resolved := resolveNodeIncident store.incidents entry.1 now
    ({ store with
        incidents := resolved.1
        nodes :=
          if entry.2 ≠ record then store.nodes.insert entry.1 record
          else store.nodes },
      synced.2 || resolved.2 || entry.2 ≠ record)

/-- `SyncProxies`. -/
def syncProxies (options : Options) (proxies : List ProxyConfig) (now : Time)
    (saveError : Option Text) : Store × Outcome :=
  let active := (proxies.map (·.effectiveStableID options.digest)).filter
    (· ≠ [])
  let synced := proxies.foldl (syncProxy options now) (store, false)
  let synced := synced.1.nodes.toList.foldl (syncMissing active now) synced
  if !synced.2 then (synced.1, { result := .ok none })
  else synced.1.save synced.1 saveError

/-- `ActiveMaintenanceStableIDs`. -/
def activeMaintenanceStableIDs : List Text :=
  (store.nodes.filter fun _ record => record.active && record.maintenance).keys

/-- `SetMaintenance`. -/
def setMaintenance (stableID : Text) (enabled : Bool) (now : Time)
    (saveError : Option Text) : Store × Outcome :=
  let stableID := trimSpace stableID
  if stableID = [] then store.refuse "stableId is required"
  else
    match store.nodes[stableID]? with
    | none => store.refuse "node not found"
    | some record =>
        if !record.active then
          store.refuse "maintenance mode is available only for active nodes"
        else if record.maintenance = enabled then
          (store, { result := .ok (some record) })
        else
          let previousRecord := record
          let previousIncidents := store.incidents
          let record := { record with maintenance := enabled }
          let record :=
            if enabled then
              { record with maintenanceSince := now }.closeAccounting now
            else { record with maintenanceSince := 0 }
          let store :=
            { store with
              nodes := store.nodes.insert stableID record
              incidents :=
                if enabled then
                  (resolveNodeIncident store.incidents stableID now).1
                else store.incidents }
          store.save
            { store with
              nodes := store.nodes.insert stableID previousRecord
              incidents := previousIncidents }
            saveError (some record)

/-- `SetDisplayName`. -/
def setDisplayName (stableID displayName : Text) (saveError : Option Text) :
    Store × Outcome :=
  let stableID := trimSpace stableID
  if stableID = [] then store.refuse "stableId is required"
  else
    let displayName := trimSpace displayName
    if maxDisplayNameRunes < runeCount displayName then
      store.refuse
        ("a node name is limited to " ++ itoa maxDisplayNameRunes ++
          " characters")
    else
      match store.nodes[stableID]? with
      | none => store.refuse "node not found"
      | some record =>
          if record.displayName = displayName then
            (store, { result := .ok (some record) })
          else
            let previous := record
            let record := { record with displayName := displayName }
            let store :=
              { store with nodes := store.nodes.insert stableID record }
            store.save
              { store with nodes := store.nodes.insert stableID previous }
              saveError (some record)

/-- `DisplayNames`. -/
def displayNames : GoMap Text Text :=
  (store.nodes.filter fun _ record => record.displayName ≠ []).map
    fun _ record => record.displayName

/-- `PauseProjectMonitoring`. -/
def pauseProjectMonitoring (now : Time) (saveError : Option Text) :
    Store × Outcome :=
  let previousNodes := store.nodes
  let previousIncidents := store.incidents
  let pause (record : NodeRecord) :=
    if record.active then record.closeAccounting now else record
  let changed :=
    store.nodes.toList.any (fun entry => entry.2 ≠ pause entry.2) ||
      store.incidents.any (·.status = incidentStatusActive)
  let store :=
    { store with
      nodes := store.nodes.map fun _ record => pause record
      incidents := store.incidents.map fun incident =>
        if incident.status = incidentStatusActive then incident.resolve now
        else incident }
  if !changed then (store, { result := .ok none })
  else
    store.save
      { store with nodes := previousNodes, incidents := previousIncidents }
      saveError

/-- What one speed test result adds to a record. -/
def syncSpeedResult (record : NodeRecord) (entry : SpeedResult) : NodeRecord :=
  { record with
    name := if record.name = [] then entry.name else record.name
    subName := if record.subName = [] then entry.subName else record.subName
    protocol :=
      if record.protocol = [] then entry.protocol else record.protocol
    firstSeenAt :=
      if entry.checkedAt.isZero then record.firstSeenAt
      else if record.firstSeenAt.isZero ||
          entry.checkedAt < record.firstSeenAt then entry.checkedAt
      else record.firstSeenAt
    lastSeenAt :=
      if entry.checkedAt.isZero then record.lastSeenAt
      else if record.lastSeenAt.isZero ||
          record.lastSeenAt < entry.checkedAt then entry.checkedAt
      else record.lastSeenAt }

/-- What `SyncSpeedHistory` makes of a record. -/
def syncSpeedRecord (stableID : Text) (entries : List SpeedResult)
    (now : Time) (record : NodeRecord) : NodeRecord :=
  let record :=
    if record.stableID = [] then
      { record with stableID := stableID, active := false }
    else record
  let record := entries.foldl syncSpeedResult record
  { record with
    firstSeenAt :=
      if record.firstSeenAt.isZero then now else record.firstSeenAt
    lastSeenAt := if record.lastSeenAt.isZero then now else record.lastSeenAt }

/-- `SyncSpeedHistory`. -/
def syncSpeedHistory (history : GoMap Text (List SpeedResult)) (now : Time)
    (saveError : Option Text) : Store × Outcome :=
  let synced := history.toList.foldl
    (fun (synced : Store × Bool) entry =>
      let store := synced.1
      let stableID := trimSpace entry.1
      if stableID = [] ∨ entry.2.isEmpty then synced
      else
        let previous := store.recordOf stableID
        let record := syncSpeedRecord stableID entry.2 now previous
        if previous ≠ record then
          ({ store with nodes := store.nodes.insert stableID record }, true)
        else synced)
    (store, false)
  if !synced.2 then (synced.1, { result := .ok none })
  else synced.1.save synced.1 saveError

/-- `RefreshGeo`, which writes the geo fields and saves. -/
def refreshGeo (saveError : Option Text) : Store × Outcome :=
  store.save store saveError

/-- The identities merged into a node; an absent key holds none. -/
def mergedOf (stableID : Text) : List Text :=
  (store.mergedNodes[stableID]?).getD []

/-- `ArchivedRecord`, and the checks `DeleteArchived` starts with. -/
def archivedRecord (stableID : Text) : Except Text NodeRecord :=
  let stableID := trimSpace stableID
  if stableID = [] then .error "stableId is required"
  else
    match store.nodes[stableID]? with
    | none => .error "node not found"
    | some record =>
        if record.active then
          .error
            "active nodes are managed by subscription and cannot be deleted"
        else .ok record

/-- `DeleteArchived`. -/
def deleteArchived (stableID : Text) (saveError : Option Text) :
    Store × Outcome :=
  match store.archivedRecord stableID with
  | .error message => store.refuse message
  | .ok record =>
      let stableID := trimSpace stableID
      let mergedFrom := store.mergedOf stableID
      let samples := samplesOf store.availabilityHistory stableID
      let store :=
        { store with
          nodes := store.nodes.erase stableID
          mergedNodes := store.mergedNodes.erase stableID
          availabilityHistory := store.availabilityHistory.erase stableID }
      store.save
        { store with
          nodes := store.nodes.insert stableID record
          mergedNodes :=
            if mergedFrom = [] then store.mergedNodes
            else store.mergedNodes.insert stableID mergedFrom
          availabilityHistory :=
            if samples = [] then store.availabilityHistory
            else store.availabilityHistory.insert stableID samples }
        saveError

/-- `RestoreArchivedState`. -/
def restoreArchivedState (record : NodeRecord)
    (availabilityHistory : List AvailabilitySample) (mergedFrom : List Text)
    (now : Time) (saveError : Option Text) : Store × Outcome :=
  let stableID := trimSpace record.stableID
  if stableID = [] then store.refuse "stableId is required"
  else if record.active then
    store.refuse "cannot restore an active record as archived"
  else
    let previous := store.nodes[stableID]?
    let previousMerged := store.mergedNodes[stableID]?
    let previousAvailability := store.availabilityHistory[stableID]?
    let restoredMerged := uniqueSortedStrings mergedFrom
    let store :=
      { store with
        nodes := store.nodes.insert stableID record
        mergedNodes :=
          if restoredMerged = [] then store.mergedNodes.erase stableID
          else store.mergedNodes.insert stableID restoredMerged
        availabilityHistory :=
          if availabilityHistory = [] then
            store.availabilityHistory.erase stableID
          else
            store.availabilityHistory.insert stableID
              (normalizeAvailabilitySamples availabilityHistory now
                store.availabilityHistoryRetentionDays) }
    store.save
      { store with
        nodes := store.nodes.set stableID previous
        mergedNodes := store.mergedNodes.set stableID previousMerged
        availabilityHistory :=
          store.availabilityHistory.set stableID previousAvailability }
      saveError

end Store

end XrayChecker.NodeArchive

import XrayChecker.NodeArchive.Store

/-
What the archive takes over from the checker after a check, and the runs of
the archive.
-/

namespace XrayChecker.NodeArchive

open Go Checker

/-- The state of `recordAvailability` inside its loop over the nodes. -/
structure Recording where
  store : Store
  changed : Bool := false
  detailsByStableID : GoMap Text ProxyStatusDetails := ∅
  incidentProxies : List ProxyConfig := []

/-- The record is written where the observation or the proxy changed it. -/
def Store.putRecord (store : Store) (stableID : Text)
    (previous record : NodeRecord) : Store × Bool :=
  if previous ≠ record ∨ store.recordOf stableID ≠ record then
    ({ store with nodes := store.nodes.insert stableID record }, true)
  else (store, false)

/-- A node in maintenance, or whose source is not watched for availability:
the accounting is closed, the sample kept. -/
def recordUnaccounted (options : Options) (pc : ProxyChecker)
    (recordHistory : Bool) (now : Time) (acc : Recording) (stableID : Text)
    (previous : NodeRecord) : Recording :=
  let store := acc.store
  let resolved := resolveNodeIncident store.incidents stableID now
  let sampled :=
    if recordHistory then
      match pc.getProxyStatusDetailsIncludingMaintenance options stableID with
      | .ok probe =>
          recordAvailabilitySample store.availabilityHistoryRetentionDays
            store.availabilityHistory stableID probe now true
      | .error _ => (store.availabilityHistory, false)
    else (store.availabilityHistory, false)
  let written :=
    { store with
      incidents := resolved.1
      availabilityHistory := sampled.1 }.putRecord stableID previous
        (previous.closeAccounting now)
  { acc with
    store := written.1
    changed := acc.changed || resolved.2 || sampled.2 || written.2 }

/-- A node that is accounted.  Only journalled nodes open incidents and count
for mass incidents. -/
def recordAccounted (options : Options) (pc : ProxyChecker)
    (recordHistory : Bool) (now : Time) (acc : Recording) (proxy : ProxyConfig)
    (previous : NodeRecord) : Recording :=
  let store := acc.store
  let stableID := proxy.stableID
  let journalled := pc.incidentsAccounted stableID
  let incidentProxies :=
    if journalled then acc.incidentProxies ++ [proxy]
    else acc.incidentProxies
  let left :=
    if journalled then (store.incidents, false)
    else resolveNodeIncident store.incidents stableID now
  match pc.getProxyStatusDetailsByStableID options stableID with
  | .error _ =>
      let written :=
        { store with incidents := left.1 }.putRecord stableID previous previous
      { acc with
        store := written.1
        changed := acc.changed || left.2 || written.2
        incidentProxies := incidentProxies }
  | .ok details =>
      let sampled :=
        if recordHistory then
          recordAvailabilitySample store.availabilityHistoryRetentionDays
            store.availabilityHistory stableID details now false
        else (store.availabilityHistory, false)
      let updated :=
        if journalled then updateNodeIncident left.1 proxy details now
        else (left.1, false)
      let written :=
        { store with
          incidents := updated.1
          availabilityHistory := sampled.1 }.putRecord stableID previous
            (previous.applyAvailability details now)
      { store := written.1
        changed :=
          acc.changed || left.2 || sampled.2 || updated.2 || written.2
        detailsByStableID := acc.detailsByStableID.insert stableID details
        incidentProxies := incidentProxies }

/-- The loop of `recordAvailability` over the nodes of the checker. -/
def recordProxy (options : Options) (pc : ProxyChecker) (recordHistory : Bool)
    (now : Time) (acc : Recording) (proxy : ProxyConfig) : Recording :=
  let stableID := proxy.effectiveStableID options.digest
  if stableID = [] then acc
  else
    let proxy := { proxy with stableID := stableID }
    let record := (acc.store.recordOf stableID).applyProxy proxy now
    if record.maintenance || !pc.availabilityAccounted stableID then
      recordUnaccounted options pc recordHistory now acc stableID record
    else recordAccounted options pc recordHistory now acc proxy record

/-- The last loop of `recordAvailability`: a node the checker does not know
is retired. -/
def retireMissing (active : List Text) (now : Time) (retired : Store × Bool)
    (entry : Text × NodeRecord) : Store × Bool :=
  let store := retired.1
  if !entry.2.active || active.elem entry.1 then retired
  else
    let record := entry.2.retire now
    if entry.2 ≠ record then
      ({ store with nodes := store.nodes.insert entry.1 record }, true)
    else retired

/-- The identities of the checker's nodes. -/
def trackedIDs (options : Options) (pc : ProxyChecker) : List Text :=
  (pc.proxies.map (·.effectiveStableID options.digest)).filter (· ≠ [])

/-- The journal after the loop over the nodes, and the pruning. -/
def Recording.finish (acc : Recording) (now : Time) : Store × Bool :=
  let store := acc.store
  let mass :=
    updateMassIncidents store.incidents acc.incidentProxies
      acc.detailsByStableID now
  let journal := pruneIncidents mass.1
  let history :=
    pruneAvailabilityHistory store.availabilityHistoryRetentionDays now
      store.availabilityHistory
  ({ store with
      incidents := journal.1
      availabilityHistory := history.1 },
    acc.changed || mass.2 || journal.2 || history.2)

/-- The memory after `recordAvailability`, and whether it is saved. -/
def Store.recorded (store : Store) (options : Options) (pc : ProxyChecker)
    (recordHistory : Bool) (now : Time) : Store × Bool :=
  let acc := pc.proxies.foldl (recordProxy options pc recordHistory now)
    { store := store }
  let recorded := acc.finish now
  recorded.1.nodes.toList.foldl
    (retireMissing (trackedIDs options pc) now) recorded

/-- `recordAvailability`: `RecordAvailability` keeps samples,
`ReconcileAvailabilityState` does not. -/
def Store.recordAvailability (store : Store) (options : Options)
    (pc : ProxyChecker) (recordHistory : Bool) (now : Time)
    (saveError : Option Text) : Store × Outcome :=
  let recorded := store.recorded options pc recordHistory now
  if !recorded.2 then (recorded.1, { result := .ok none })
  else recorded.1.save recorded.1 saveError

/-- A call of the archive that may change it, with the clock it reads. -/
inductive Call where
  | syncProxies (proxies : List ProxyConfig) (now : Time)
  | setMaintenance (stableID : Text) (enabled : Bool) (now : Time)
  | setDisplayName (stableID displayName : Text)
  | pauseProjectMonitoring (now : Time)
  | syncSpeedHistory (history : GoMap Text (List SpeedResult)) (now : Time)
  | recordAvailability (pc : ProxyChecker) (recordHistory : Bool) (now : Time)
  | setAvailabilityHistoryRetentionDays (days : Int) (now : Time)
  | refreshGeo
  | deleteArchived (stableID : Text)
  | restoreArchivedState (record : NodeRecord)
      (availabilityHistory : List AvailabilitySample) (mergedFrom : List Text)
      (now : Time)

/-- A call, and the error its save meets, if any. -/
structure Event where
  call : Call
  saveError : Option Text := none

/-- The state and the outcome of a call. -/
def Store.perform (options : Options) (store : Store) (event : Event) :
    Store × Outcome :=
  match event.call with
  | .syncProxies proxies now =>
      store.syncProxies options proxies now event.saveError
  | .setMaintenance stableID enabled now =>
      store.setMaintenance stableID enabled now event.saveError
  | .setDisplayName stableID displayName =>
      store.setDisplayName stableID displayName event.saveError
  | .pauseProjectMonitoring now =>
      store.pauseProjectMonitoring now event.saveError
  | .syncSpeedHistory history now =>
      store.syncSpeedHistory history now event.saveError
  | .recordAvailability pc recordHistory now =>
      store.recordAvailability options pc recordHistory now event.saveError
  | .setAvailabilityHistoryRetentionDays days now =>
      store.setAvailabilityHistoryRetentionDays days now event.saveError
  | .refreshGeo => store.refreshGeo event.saveError
  | .deleteArchived stableID => store.deleteArchived stableID event.saveError
  | .restoreArchivedState record availabilityHistory mergedFrom now =>
      store.restoreArchivedState record availabilityHistory mergedFrom now
        event.saveError

/-- One call against the archive. -/
def step (options : Options) (store : Store) (event : Event) : Store :=
  (store.perform options event).1

/-- What one recording makes of a node of the checker: its record and the
journal.  `record` is the record with the node's own data filled in. -/
inductive Observed (options : Options) (pc : ProxyChecker) (now : Time)
    (incidents : List IncidentRecord) (proxy : ProxyConfig)
    (record : NodeRecord) : NodeRecord → List IncidentRecord → Prop where
  | unaccounted
      (h : record.maintenance = true ∨
        pc.availabilityAccounted proxy.stableID = false) :
      Observed options pc now incidents proxy record
        (record.closeAccounting now)
        (resolveNodeIncident incidents proxy.stableID now).1
  | unread (error : ReadError) (hmonitored : record.maintenance = false)
      (haccounted : pc.availabilityAccounted proxy.stableID = true)
      (hdetails : pc.getProxyStatusDetailsByStableID options proxy.stableID =
        .error error) :
      Observed options pc now incidents proxy record record
        (if pc.incidentsAccounted proxy.stableID then incidents
        else (resolveNodeIncident incidents proxy.stableID now).1)
  | read (details : ProxyStatusDetails)
      (hmonitored : record.maintenance = false)
      (haccounted : pc.availabilityAccounted proxy.stableID = true)
      (hdetails : pc.getProxyStatusDetailsByStableID options proxy.stableID =
        .ok details) :
      Observed options pc now incidents proxy record
        (record.applyAvailability details now)
        (if pc.incidentsAccounted proxy.stableID then
          (updateNodeIncident incidents proxy details now).1
        else (resolveNodeIncident incidents proxy.stableID now).1)

section Observed

variable {options : Options} {pc : ProxyChecker} {now : Time}

theorem NodeRecord.applyProxy_stableID_ne (record : NodeRecord)
    {proxy : ProxyConfig} (h : proxy.stableID ≠ []) (now : Time) :
    (record.applyProxy proxy now).stableID ≠ [] := by
  simp only [NodeRecord.applyProxy]
  split
  · exact h
  · assumption

/-- A record that carries an identity is in the archive afterwards. -/
theorem Store.putRecord_nodes (store : Store) (stableID : Text)
    (previous : NodeRecord) {record : NodeRecord} (h : record.stableID ≠ [])
    (other : Text) :
    (store.putRecord stableID previous record).1.nodes[other]? =
      if stableID = other then some record else store.nodes[other]? := by
  unfold Store.putRecord
  split
  · exact GoMap.get_insert _ _ _ _
  · rename_i hsame
    split
    · rename_i hself
      have hrecord : store.recordOf stableID = record := by
        by_contra hne
        exact hsame (Or.inr hne)
      rw [← hself]
      unfold Store.recordOf at hrecord
      cases hentry : store.nodes[stableID]? with
      | none =>
          rw [hentry] at hrecord
          exact absurd (congrArg NodeRecord.stableID hrecord).symm h
      | some entry =>
          rw [hentry] at hrecord
          exact congrArg some hrecord
    · rfl

theorem Store.putRecord_incidents (store : Store) (stableID : Text)
    (previous record : NodeRecord) :
    (store.putRecord stableID previous record).1.incidents =
      store.incidents := by
  unfold Store.putRecord
  split <;> rfl

theorem recordUnaccounted_observed (recordHistory : Bool) (acc : Recording)
    {proxy : ProxyConfig} {record : NodeRecord} (hrecord : record.stableID ≠ [])
    (h : record.maintenance = true ∨
      pc.availabilityAccounted proxy.stableID = false) :
    ∃ written,
      Observed options pc now acc.store.incidents proxy record written
        (recordUnaccounted options pc recordHistory now acc proxy.stableID
          record).store.incidents ∧
      ∀ other,
        (recordUnaccounted options pc recordHistory now acc proxy.stableID
          record).store.nodes[other]? =
          if proxy.stableID = other then some written
          else acc.store.nodes[other]? := by
  refine ⟨record.closeAccounting now, ?_, ?_⟩
  · simp only [recordUnaccounted, Store.putRecord_incidents]
    exact .unaccounted h
  · intro other
    apply Store.putRecord_nodes
    rw [NodeRecord.closeAccounting,
      (NodeRecord.closeProxyFailure_same _ now).stableID,
      NodeRecord.closeDowntime_eq]
    exact hrecord

theorem recordAccounted_observed (recordHistory : Bool) (acc : Recording)
    {proxy : ProxyConfig} {record : NodeRecord} (hrecord : record.stableID ≠ [])
    (hmonitored : record.maintenance = false)
    (haccounted : pc.availabilityAccounted proxy.stableID = true) :
    ∃ written,
      Observed options pc now acc.store.incidents proxy record written
        (recordAccounted options pc recordHistory now acc proxy
          record).store.incidents ∧
      ∀ other,
        (recordAccounted options pc recordHistory now acc proxy
          record).store.nodes[other]? =
          if proxy.stableID = other then some written
          else acc.store.nodes[other]? := by
  simp only [recordAccounted]
  split
  · rename_i error hdetails
    refine ⟨record, ?_, ?_⟩
    · simp only [Store.putRecord_incidents, apply_ite Prod.fst]
      exact .unread error hmonitored haccounted hdetails
    · intro other
      exact Store.putRecord_nodes _ _ _ hrecord other
  · rename_i details hdetails
    refine ⟨record.applyAvailability details now, ?_, ?_⟩
    · simp only [Store.putRecord_incidents]
      cases hjournal : pc.incidentsAccounted proxy.stableID with
      | true =>
          have hread := @Observed.read options pc now acc.store.incidents proxy
            record details hmonitored haccounted hdetails
          simpa [hjournal] using hread
      | false =>
          have hread := @Observed.read options pc now acc.store.incidents proxy
            record details hmonitored haccounted hdetails
          simpa [hjournal] using hread
    · intro other
      apply Store.putRecord_nodes
      rw [NodeRecord.applyAvailability_stableID]
      exact hrecord

/-- The loop over the nodes of the checker, one node: the records of the
other nodes stay. -/
theorem recordProxy_observed (recordHistory : Bool) (acc : Recording)
    {proxy filled : ProxyConfig}
    (hfilled : filled =
      { proxy with stableID := proxy.effectiveStableID options.digest })
    (hnamed : filled.stableID ≠ []) :
    ∃ written,
      Observed options pc now acc.store.incidents filled
        ((acc.store.recordOf filled.stableID).applyProxy filled now) written
        (recordProxy options pc recordHistory now acc proxy).store.incidents ∧
      ∀ other,
        (recordProxy options pc recordHistory now acc
          proxy).store.nodes[other]? =
          if filled.stableID = other then some written
          else acc.store.nodes[other]? := by
  have hid : proxy.effectiveStableID options.digest = filled.stableID := by
    rw [hfilled]
  have hrecord :=
    (acc.store.recordOf filled.stableID).applyProxy_stableID_ne hnamed now
  simp only [recordProxy, hid, if_neg hnamed]
  rw [hid] at hfilled
  rw [← hfilled]
  split
  · rename_i hclosed
    exact recordUnaccounted_observed recordHistory acc hrecord
      (by simpa using hclosed)
  · rename_i hopen
    simp only [Bool.or_eq_true, Bool.not_eq_true', not_or,
      Bool.not_eq_true, Bool.not_eq_false] at hopen
    exact recordAccounted_observed recordHistory acc hrecord hopen.1 hopen.2

end Observed

end XrayChecker.NodeArchive

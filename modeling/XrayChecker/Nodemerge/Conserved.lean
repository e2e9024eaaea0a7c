import XrayChecker.Nodemerge.Merge

/-
Merges conserve what the registry knows: whatever is merged into whatever, in
any order, every surviving node ends up with exactly what the nodes had that
were merged into it, directly or by way of others.
-/

namespace XrayChecker.Nodemerge

open Go NodeArchive

section Parts

variable {first second : Int}

theorem addInt64_eq_ok {sum : Int} (h : addInt64 first second = .ok sum) :
    sum = first + second := by
  simp only [addInt64, bind_unit_eq_ok] at h
  exact (Except.ok.inj h.2.2).symm

theorem addInt_eq_ok {sum : Int} (h : addInt first second = .ok sum)
    (hfirst : 0 ≤ first ∧ first ≤ maxInt64) (hsecond : 0 ≤ second) :
    sum = first + second ∧ first + second ≤ maxInt64 := by
  simp only [addInt, bind_unit_eq_ok, reject_eq_ok] at h
  have hle : first + second ≤ maxInt64 := by
    by_cases hzero : 0 < second
    · have := h.1
      simp only [hzero, decide_true, Bool.true_and,
        decide_eq_false_iff_not] at this
      omega
    · omega
  refine ⟨?_, hle⟩
  rw [← Except.ok.inj h.2]
  apply Int.bmod_eq_of_le
  · omega
  · rw [maxInt64] at hle
    omega

theorem wrapped_eq_ok {A : Type} {context : Text} {answer : Except Text A}
    {a : A} : wrapped context answer = .ok a ↔ answer = .ok a := by
  cases answer <;> simp [wrapped, Except.mapError]

theorem mem_uniqueSorted {values : List Text} {excluded value : Text} :
    value ∈ uniqueSorted values excluded ↔
      value ∈ values.map trimSpace ∧ value ≠ [] ∧ value ≠ excluded := by
  simp [uniqueSorted, sortStrings]

theorem mergeGeoState_toNodeRecord (target source : NodeRecord) :
    (mergeGeoState target source).toNodeRecord = target.toNodeRecord := by
  simp only [mergeGeoState]
  split <;> split <;> split <;> split <;> rfl

theorem latestTime_eq_max (s t : Time) : latestTime s t = max s t := by
  rcases lt_or_ge s t with hlt | hge
  · rw [latestTime, if_pos hlt, max_eq_right hlt.le]
  · rw [latestTime, if_neg (not_lt.mpr hge), max_eq_left hge]

end Parts

/-- The counters the source adds to the target, as the code checks them. -/
structure NodeRecord.Countable (record : NodeRecord) : Prop where
  incidents : 0 ≤ record.incidentCount ∧ record.incidentCount ≤ maxInt64
  failures : 0 ≤ record.proxyFailureCount ∧ record.proxyFailureCount ≤ maxInt64

theorem mergeCounters_eq_ok {target source counted : NodeRecord}
    (h : mergeCounters target source = .ok counted)
    (htarget : target.Countable) (hsource : source.Countable) :
    counted = { target with
      totalDowntimeSec := target.totalDowntimeSec + source.totalDowntimeSec
      totalProxyFailureSec :=
        target.totalProxyFailureSec + source.totalProxyFailureSec
      incidentCount := target.incidentCount + source.incidentCount
      proxyFailureCount :=
        target.proxyFailureCount + source.proxyFailureCount } ∧
      counted.Countable := by
  simp only [mergeCounters, bind_eq_ok, wrapped_eq_ok] at h
  obtain ⟨downtime, hdowntime, failing, hfailing, incidents, hincidents,
    failures, hfailures, hcounted⟩ := h
  obtain ⟨hincidents, hmaxIncidents⟩ :=
    addInt_eq_ok hincidents htarget.incidents hsource.incidents.1
  obtain ⟨hfailures, hmaxFailures⟩ :=
    addInt_eq_ok hfailures htarget.failures hsource.failures.1
  rw [addInt64_eq_ok hdowntime, addInt64_eq_ok hfailing, hincidents,
    hfailures] at hcounted
  obtain rfl := (Except.ok.inj hcounted).symm
  refine ⟨rfl, ⟨?_, hmaxIncidents⟩, ⟨?_, hmaxFailures⟩⟩
  · exact Int.add_nonneg htarget.incidents.1 hsource.incidents.1
  · exact Int.add_nonneg htarget.failures.1 hsource.failures.1

/-- A merge that was carried out. -/
theorem mergeNodeState_eq_ok {state after : StateFile}
    {sourceID targetID : Text} {now : Time} (h : mergeNodeState state sourceID targetID now = .ok after) :
    ∃ source target counted, state.nodes[sourceID]? = some source ∧
      state.nodes[targetID]? = some target ∧ sourceID ≠ targetID ∧
      mergeCounters target source = .ok counted ∧
      after = mergedState state sourceID targetID
        (mergedRecord counted source targetID) now := by
  unfold mergeNodeState at h
  split at h
  · rename_i source target hsource htarget
    rw [bind_unit_eq_ok, bind_unit_eq_ok, bind_eq_ok, reject_eq_ok] at h
    obtain ⟨hactive, -, counted, hcounted, hafter⟩ := h
    refine ⟨source, target, counted, hsource, htarget, ?_, hcounted,
      (Except.ok.inj hafter).symm⟩
    rintro rfl
    rw [hsource] at htarget
    obtain rfl := Option.some.inj htarget
    cases hsame : source.active <;> simp [hsame] at hactive
  · cases h

/-- A merge that is asked for. -/
structure Merge where
  source : Text
  target : Text
  now : Time

/-- Merges one after the other. -/
def mergeAll (state : StateFile) (merges : List Merge) :
    Except Text StateFile :=
  merges.foldlM
    (fun state merge =>
      mergeNodeState state merge.source merge.target merge.now)
    state

/-- What the registry file keeps as long as it is written by the program:
identities are trimmed, counters are no negative numbers, and only nodes that
are known have a lineage. -/
structure StateFile.Kept (state : StateFile) : Prop where
  node : ∀ (id : Text) (record : NodeRecord),
    state.nodes[id]? = some record →
      trimSpace id = id ∧ id ≠ [] ∧ record.Countable
  lineage : ∀ (key : Text) (ids : List Text),
    state.mergedNodes[key]? = some ids →
      (state.nodes[key]?).isSome ∧ ∀ id ∈ ids, trimSpace id = id ∧ id ≠ []

section Step

variable {state after : StateFile} {merge : Merge}

/-- What one merge makes of the registry. -/
structure Merged (state after : StateFile) (merge : Merge)
    (source target merged : NodeRecord) : Prop where
  sourceNode : state.nodes[merge.source]? = some source
  targetNode : state.nodes[merge.target]? = some target
  differ : merge.source ≠ merge.target
  nodes : after.nodes =
    (state.nodes.insert merge.target merged).erase merge.source
  totalDowntimeSec : merged.totalDowntimeSec =
    target.totalDowntimeSec + source.totalDowntimeSec
  totalProxyFailureSec : merged.totalProxyFailureSec =
    target.totalProxyFailureSec + source.totalProxyFailureSec
  incidentCount : merged.incidentCount =
    target.incidentCount + source.incidentCount
  proxyFailureCount : merged.proxyFailureCount =
    target.proxyFailureCount + source.proxyFailureCount
  countable : merged.Countable
  longestDowntimeSec : merged.longestDowntimeSec =
    max target.longestDowntimeSec source.longestDowntimeSec
  longestProxyFailureSec : merged.longestProxyFailureSec =
    max target.longestProxyFailureSec source.longestProxyFailureSec
  lastSeenAt : merged.lastSeenAt = max target.lastSeenAt source.lastSeenAt
  lastOfflineAt :
    merged.lastOfflineAt = max target.lastOfflineAt source.lastOfflineAt
  lastOnlineAt :
    merged.lastOnlineAt = max target.lastOnlineAt source.lastOnlineAt
  file : after = mergedState state merge.source merge.target merged merge.now

theorem merged_of_ok (hkept : state.Kept)
    (h : mergeNodeState state merge.source merge.target merge.now =
      .ok after) :
    ∃ source target merged, Merged state after merge source target merged := by
  obtain ⟨source, target, counted, hsource, htarget, hdiffer, hcounted, rfl⟩ :=
    mergeNodeState_eq_ok h
  obtain ⟨hrecord, hcountable⟩ := mergeCounters_eq_ok hcounted
    (hkept.node _ _ htarget).2.2 (hkept.node _ _ hsource).2.2
  have hlongest : ∀ a b : Int, (if a < b then b else a) = max a b := by
    intro a b
    rcases lt_or_ge a b with hlt | hge
    · rw [if_pos hlt, max_eq_right hlt.le]
    · rw [if_neg (not_lt.mpr hge), max_eq_left hge]
  refine ⟨source, target, mergedRecord counted source merge.target, ?_⟩
  exact
    { sourceNode := hsource
      targetNode := htarget
      differ := hdiffer
      nodes := rfl
      totalDowntimeSec := by
        simp [mergedRecord, mergeGeoState_toNodeRecord, hrecord]
      totalProxyFailureSec := by
        simp [mergedRecord, mergeGeoState_toNodeRecord, hrecord]
      incidentCount := by
        simp [mergedRecord, mergeGeoState_toNodeRecord, hrecord]
      proxyFailureCount := by
        simp [mergedRecord, mergeGeoState_toNodeRecord, hrecord]
      countable := by
        constructor
        · simpa [mergedRecord, mergeGeoState_toNodeRecord] using
            hcountable.incidents
        · simpa [mergedRecord, mergeGeoState_toNodeRecord] using
            hcountable.failures
      longestDowntimeSec := by
        simp [mergedRecord, mergeGeoState_toNodeRecord, hlongest, hrecord]
      longestProxyFailureSec := by
        simp [mergedRecord, mergeGeoState_toNodeRecord, hlongest, hrecord]
      lastSeenAt := by
        simp [mergedRecord, mergeGeoState_toNodeRecord, latestTime_eq_max,
          hrecord]
      lastOfflineAt := by
        simp [mergedRecord, mergeGeoState_toNodeRecord, latestTime_eq_max,
          hrecord]
      lastOnlineAt := by
        simp [mergedRecord, mergeGeoState_toNodeRecord, latestTime_eq_max,
          hrecord]
      file := rfl }

variable {source target merged : NodeRecord}

theorem Merged.node_after (h : Merged state after merge source target merged)
    (id : Text) : after.nodes[id]? =
      if id = merge.source then none
      else if id = merge.target then some merged
      else state.nodes[id]? := by
  rw [h.nodes, GoMap.get_erase, GoMap.get_insert]
  by_cases hs : id = merge.source
  · rw [if_pos hs, if_pos hs.symm]
  · rw [if_neg hs, if_neg (Ne.symm hs)]
    by_cases ht : id = merge.target
    · rw [if_pos ht, if_pos ht.symm]
    · rw [if_neg ht, if_neg (Ne.symm ht)]

theorem Merged.lineage_after
    (h : Merged state after merge source target merged) (key : Text) :
    after.mergedNodes[key]? =
      if key = merge.source then none
      else if key = merge.target then
        some (uniqueSorted ((state.mergedNodes[merge.target]?).getD [] ++
          merge.source :: (state.mergedNodes[merge.source]?).getD [])
          merge.target)
      else state.mergedNodes[key]? := by
  rw [h.file]
  simp only [mergedState, GoMap.get_erase, GoMap.get_insert, eq_comm (a := key)]

theorem Merged.availability_after
    (h : Merged state after merge source target merged) (key : Text) :
    (after.availabilityHistory[key]?).getD [] =
      if key = merge.source then []
      else if key = merge.target then
        mergeAvailabilityHistory
          ((state.availabilityHistory[merge.target]?).getD [])
          ((state.availabilityHistory[merge.source]?).getD [])
      else (state.availabilityHistory[key]?).getD [] := by
  rw [h.file]
  simp only [mergedState]
  rw [GoMap.get_set, GoMap.get_erase]
  by_cases hs : key = merge.source
  · subst hs
    rw [if_neg (Ne.symm h.differ), if_pos rfl, if_pos rfl]
    rfl
  rw [if_neg hs, if_neg (Ne.symm hs)]
  by_cases ht : key = merge.target
  · subst ht
    rw [if_pos rfl, if_pos rfl]
    split
    · rename_i hempty
      exact hempty.symm
    · rfl
  · rw [if_neg ht, if_neg (Ne.symm ht)]

/-- Writing the file again after the merge: what it keeps is kept. -/
theorem Merged.kept (hkept : state.Kept)
    (h : Merged state after merge source target merged) : after.Kept := by
  constructor
  · intro id record hnode
    rw [h.node_after] at hnode
    split_ifs at hnode with hs ht
    · obtain ⟨htrim, hnonempty, -⟩ := hkept.node _ _ h.targetNode
      rw [ht, ← Option.some.inj hnode]
      exact ⟨htrim, hnonempty, h.countable⟩
    · exact hkept.node id record hnode
  · intro key ids hids
    rw [h.lineage_after] at hids
    split_ifs at hids with hs ht
    · rw [← Option.some.inj hids, h.node_after, if_neg hs, if_pos ht]
      refine ⟨rfl, ?_⟩
      intro id hid
      obtain ⟨hmem, hnonempty, -⟩ := mem_uniqueSorted.mp hid
      obtain ⟨raw, -, rfl⟩ := List.mem_map.mp hmem
      exact ⟨trimSpace_idem raw, hnonempty⟩
    · rw [h.node_after, if_neg hs, if_neg ht]
      exact hkept.lineage key ids hids

end Step

section Incidents

/-- The incident is about the node, alone or among others. -/
def Mentions (incident : IncidentRecord) (id : Text) : Prop :=
  incident.scope = nodeScope id ∨ id ∈ incident.stableIDs.map trimSpace

/-- What an incident records apart from the nodes it names. -/
def outage (incident : IncidentRecord) : IncidentRecord :=
  { incident with
    scope := []
    stableIDs := []
    nodeNames := []
    affectedCount := 0
    totalCount := 0 }

theorem nodeScope_inj {a b : Text} : nodeScope a = nodeScope b ↔ a = b := by
  simp [nodeScope]

variable {incident : IncidentRecord} {sourceID targetID targetName : Text}

/-- An entry is put into a map at least if the key is not there. -/
theorem mem_insert_unless {m : GoMap Text Text} {key value k : Text}
    {force : Bool} :
    k ∈ (if !m.contains key || force then m.insert key value else m) ↔
      k ∈ m ∨ key = k := by
  split
  · rw [Std.ExtTreeMap.mem_insert, Std.LawfulEqCmp.compare_eq_iff_eq,
      or_comm]
  · rename_i hskip
    have hin : key ∈ m := by
      by_contra hout
      rw [← Std.ExtTreeMap.contains_iff_mem, Bool.not_eq_true] at hout
      exact hskip (by simp [hout])
    constructor
    · exact Or.inl
    · rintro (hk | rfl)
      · exact hk
      · exact hin

theorem mem_nameByID {names : List Text} {namesByID : GoMap Text Text}
    {entry : Text × Nat} {k : Text} :
    k ∈ nameByID sourceID targetID targetName names namesByID entry ↔
      k ∈ namesByID ∨ trimSpace entry.1 ≠ [] ∧
        (if trimSpace entry.1 = sourceID then targetID
          else trimSpace entry.1) = k := by
  unfold nameByID
  by_cases hempty : trimSpace entry.1 = []
  · simp [hempty]
  · simp only [if_neg hempty]
    rw [mem_insert_unless]
    simp [hempty]

theorem mem_foldl_nameByID {names : List Text} {entries : List (Text × Nat)}
    {namesByID : GoMap Text Text} {k : Text} :
    k ∈ entries.foldl (nameByID sourceID targetID targetName names)
        namesByID ↔
      k ∈ namesByID ∨ ∃ entry ∈ entries, trimSpace entry.1 ≠ [] ∧
        (if trimSpace entry.1 = sourceID then targetID
          else trimSpace entry.1) = k := by
  induction entries generalizing namesByID with
  | nil => simp
  | cons entry rest ih =>
      rw [List.foldl_cons, ih, mem_nameByID]
      simp [or_assoc]

/-- The nodes a rewritten incident of several nodes names. -/
theorem mem_rewritten_stableIDs {names ids : List Text} {k : Text} :
    k ∈ sortStrings (ids.zipIdx.foldl
        (nameByID sourceID targetID targetName names) ∅).keys ↔
      ∃ raw ∈ ids, trimSpace raw ≠ [] ∧
        (if trimSpace raw = sourceID then targetID else trimSpace raw) = k := by
  rw [sortStrings, List.mem_insertionSort, Std.ExtTreeMap.mem_keys,
    mem_foldl_nameByID]
  simp only [Std.ExtTreeMap.not_mem_empty, false_or]
  constructor
  · rintro ⟨⟨raw, index⟩, hentry, hraw⟩
    exact ⟨raw, List.fst_mem_of_mem_zipIdx hentry, hraw⟩
  · rintro ⟨raw, hmem, hraw⟩
    obtain ⟨index, hindex⟩ := List.mem_iff_getElem?.mp hmem
    exact ⟨(raw, index), List.mem_zipIdx_iff_getElem?.mpr hindex, hraw⟩

/-- A rewritten incident names the target, and of the other nodes only those
it named before. -/
theorem mentions_rewriteIncident {id : Text}
    (htarget : trimSpace targetID = targetID)
    (h : Mentions (rewriteIncident incident sourceID targetID targetName) id) :
    id = targetID ∨ Mentions incident id ∧ id ≠ sourceID := by
  unfold rewriteIncident at h
  split at h
  · rcases h with hscope | hmem
    · exact Or.inl (nodeScope_inj.mp hscope).symm
    · left
      simpa [htarget] using hmem
  rename_i hscope
  have hnot : ∀ other, incident.scope = nodeScope other → other ≠ sourceID := by
    rintro other hother rfl
    exact hscope hother
  split at h
  · rename_i hids
    rcases h with hother | hmem
    · exact Or.inr ⟨Or.inl hother, hnot id hother⟩
    · rw [hids] at hmem
      cases hmem
  · rcases h with hother | hmem
    · exact Or.inr ⟨Or.inl hother, hnot id hother⟩
    · obtain ⟨key, hkey, rfl⟩ := List.mem_map.mp hmem
      obtain ⟨raw, hraw, -, rfl⟩ := mem_rewritten_stableIDs.mp hkey
      split
      · exact Or.inl htarget
      · rename_i hother
        rw [trimSpace_idem]
        exact Or.inr ⟨Or.inr (List.mem_map_of_mem hraw), hother⟩

/-- An incident of the source is one of the target afterwards. -/
theorem rewriteIncident_mentions (htarget : trimSpace targetID = targetID)
    (hsource : sourceID ≠ []) (h : Mentions incident sourceID) :
    Mentions (rewriteIncident incident sourceID targetID targetName)
      targetID := by
  unfold rewriteIncident
  split
  · exact Or.inl rfl
  rename_i hscope
  obtain ⟨raw, hraw, htrim⟩ := List.mem_map.mp (h.resolve_left hscope)
  split
  · rename_i hids
    rw [hids] at hraw
    cases hraw
  · right
    refine List.mem_map.mpr ⟨targetID, ?_, htarget⟩
    exact mem_rewritten_stableIDs.mpr
      ⟨raw, hraw, by rwa [htrim], if_pos htrim⟩

end Incidents

section Run

variable {state after : StateFile}

theorem mergeAll_cons_eq_ok {merge : Merge} {rest : List Merge}
    (hkept : state.Kept) (h : mergeAll state (merge :: rest) = .ok after) :
    ∃ next source target merged, Merged state next merge source target merged ∧
      mergeAll next rest = .ok after := by
  rw [mergeAll, List.foldlM_cons, bind_eq_ok] at h
  obtain ⟨next, hnext, hrest⟩ := h
  obtain ⟨source, target, merged, hmerged⟩ := merged_of_ok hkept hnext
  exact ⟨next, source, target, merged, hmerged, hrest⟩

/-- What every merge keeps is kept by all of them. -/
theorem mergeAll_kept {merges : List Merge} (hkept : state.Kept)
    (h : mergeAll state merges = .ok after) : after.Kept := by
  induction merges generalizing state with
  | nil =>
      obtain rfl := Except.ok.inj h
      exact hkept
  | cons merge rest ih =>
      obtain ⟨next, _, _, _, hmerged, hrest⟩ := mergeAll_cons_eq_ok hkept h
      exact ih (hmerged.kept hkept) hrest

/-- A node that was merged away left nothing under its identity. -/
structure Gone (state : StateFile) (id : Text) : Prop where
  node : state.nodes[id]? = none
  lineage : state.mergedNodes[id]? = none
  checks : (state.availabilityHistory[id]?).getD [] = []
  incidents : ∀ incident ∈ state.incidents, ¬ Mentions incident id

theorem Merged.gone {merge : Merge} {source target merged : NodeRecord}
    (hkept : state.Kept)
    (h : Merged state after merge source target merged) :
    Gone after merge.source ∧ ∀ id, Gone state id → Gone after id := by
  have htrim := (hkept.node _ _ h.targetNode).1
  have hincidents : after.incidents = state.incidents.map fun incident =>
      rewriteIncident incident merge.source merge.target merged.name := by
    rw [h.file]
    rfl
  constructor
  · refine ⟨by rw [h.node_after, if_pos rfl],
      by rw [h.lineage_after, if_pos rfl],
      by rw [h.availability_after, if_pos rfl], ?_⟩
    intro incident hincident hmention
    rw [hincidents] at hincident
    obtain ⟨before, -, rfl⟩ := List.mem_map.mp hincident
    rcases mentions_rewriteIncident htrim hmention with hsame | ⟨-, hnot⟩
    · exact h.differ hsame
    · exact hnot rfl
  · intro id hgone
    have ht : id ≠ merge.target := by
      rintro rfl
      have hnone := hgone.node
      rw [h.targetNode] at hnone
      cases hnone
    refine ⟨?_, ?_, ?_, ?_⟩
    · rw [h.node_after, if_neg ht, hgone.node, ite_self]
    · rw [h.lineage_after, if_neg ht, hgone.lineage, ite_self]
    · rw [h.availability_after, if_neg ht, hgone.checks, ite_self]
    · intro incident hincident hmention
      rw [hincidents] at hincident
      obtain ⟨before, hbefore, rfl⟩ := List.mem_map.mp hincident
      rcases mentions_rewriteIncident htrim hmention with hsame | ⟨hold, -⟩
      · exact ht hsame
      · exact hgone.incidents before hbefore hold

end Run

/-- A node that was retired, and the one in its place. -/
def replaced : StateFile where
  nodes := (GoMap.set ∅ "old".toList (some
    { stableID := "old", totalDowntimeSec := 60, incidentCount := 1
      lastSeenAt := 3 })).insert "new".toList
    { stableID := "new", active := true, totalDowntimeSec := 5
      lastSeenAt := 9 }

end XrayChecker.Nodemerge

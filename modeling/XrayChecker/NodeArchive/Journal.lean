import XrayChecker.NodeArchive.Record

/-
The open incidents of the journal.  Every operation is described by what it
does to the set of open kinds and scopes, and never opens one twice.
-/

namespace XrayChecker.NodeArchive

open Go Checker

/-- The journal has an open incident of the kind and scope. -/
def Opens (incidents : List IncidentRecord) (kind scope : Text) : Prop :=
  ∃ incident ∈ incidents, incident.IsOpen kind scope

/-- No kind and scope has two open incidents. -/
def OpenOnce (incidents : List IncidentRecord) : Prop :=
  incidents.Pairwise fun a b =>
    ∀ kind scope, a.IsOpen kind scope → ¬b.IsOpen kind scope

instance (incidents : List IncidentRecord) (kind scope : Text) :
    Decidable (Opens incidents kind scope) :=
  inferInstanceAs (Decidable (∃ _ ∈ _, _))

theorem nodeScope_injective {stableID other : Text}
    (h : nodeScope stableID = nodeScope other) : stableID = other :=
  List.append_cancel_left h

theorem IncidentRecord.not_isOpen_resolve (incident : IncidentRecord)
    (now : Time) (kind scope : Text) :
    ¬(incident.resolve now).IsOpen kind scope := by
  rintro ⟨-, -, hstatus⟩
  revert hstatus
  simp only [IncidentRecord.resolve]
  decide

/-- Keeping an incident up to date leaves it as open as it was. -/
theorem isOpen_continued (failure : FailureDetails) (now : Time)
    (incident : IncidentRecord) (kind scope : Text) :
    (incident.continued failure now).IsOpen kind scope ↔
      incident.IsOpen kind scope :=
  Iff.rfl

theorem isOpen_refreshed (candidate : MassIncidentCandidate) (now : Time)
    (incident : IncidentRecord) (kind scope : Text) :
    (incident.refreshed candidate now).IsOpen kind scope ↔
      incident.IsOpen kind scope :=
  Iff.rfl

section Find

variable {incidents : List IncidentRecord} {kind scope : Text} {index : Nat}

theorem findActiveIncident_eq_none :
    findActiveIncident incidents kind scope = none ↔
      ¬Opens incidents kind scope := by
  simp only [findActiveIncident, List.find?_eq_none, List.mem_reverse,
    List.mem_range, Opens, not_exists, not_and]
  constructor
  · intro hnone incident hincident hopen
    obtain ⟨index, hindex, rfl⟩ := List.mem_iff_getElem.mp hincident
    exact hnone index hindex (by simp [hindex, hopen])
  · intro hnone index hindex hfound
    exact hnone incidents[index] (List.getElem_mem hindex)
      (by simpa [hindex] using hfound)

theorem findActiveIncident_eq_some
    (h : findActiveIncident incidents kind scope = some index) :
    ∃ incident, incidents[index]? = some incident ∧
      incident.IsOpen kind scope := by
  have hfound := List.find?_some h
  simpa [Option.any_eq_true] using hfound

/-- Only the incident found is open. -/
theorem isOpen_only_found (honce : OpenOnce incidents)
    (h : findActiveIncident incidents kind scope = some index) {other : Nat}
    {incident : IncidentRecord} (hother : incidents[other]? = some incident)
    (hopen : incident.IsOpen kind scope) : other = index := by
  obtain ⟨found, hfound, hfoundOpen⟩ := findActiveIncident_eq_some h
  obtain ⟨hindex, rfl⟩ := List.getElem?_eq_some_iff.mp hfound
  obtain ⟨hlt, rfl⟩ := List.getElem?_eq_some_iff.mp hother
  rw [OpenOnce, List.pairwise_iff_getElem] at honce
  rcases Nat.lt_trichotomy other index with hbefore | hsame | hafter
  · exact absurd hfoundOpen (honce other index hlt hindex hbefore kind
        scope hopen)
  · exact hsame
  · exact absurd hopen (honce index other hindex hlt hafter kind scope
        hfoundOpen)

end Find

section Modify

variable {incidents : List IncidentRecord}
  {f : IncidentRecord → IncidentRecord}

/-- Rewriting incidents without opening any. -/
theorem openOnce_map
    (hf : ∀ incident kind scope, (f incident).IsOpen kind scope →
      incident.IsOpen kind scope)
    (h : OpenOnce incidents) : OpenOnce (incidents.map f) := by
  apply List.Pairwise.map f _ h
  intro a b hab kind scope ha hb
  exact hab kind scope (hf a kind scope ha) (hf b kind scope hb)

theorem mem_modify {index : Nat} {incident : IncidentRecord} :
    incident ∈ incidents.modify index f ↔
      ∃ other old, incidents[other]? = some old ∧
        incident = if index = other then f old else old := by
  simp only [List.mem_iff_getElem?, List.getElem?_modify]
  constructor
  · rintro ⟨other, hother⟩
    rw [Option.map_eq_map, Option.map_eq_some_iff] at hother
    obtain ⟨old, hold, rfl⟩ := hother
    exact ⟨other, old, hold, rfl⟩
  · rintro ⟨other, old, hold, rfl⟩
    exact ⟨other, by simp [hold]⟩

theorem openOnce_modify (index : Nat)
    (hf : ∀ incident kind scope, (f incident).IsOpen kind scope →
      incident.IsOpen kind scope)
    (h : OpenOnce incidents) : OpenOnce (incidents.modify index f) := by
  rw [OpenOnce, List.pairwise_iff_getElem] at h ⊢
  intro i j hi hj hij kind scope hopen hother
  simp only [List.length_modify] at hi hj
  refine h i j hi hj hij kind scope ?_ ?_
  · rw [List.getElem_modify] at hopen
    split at hopen
    · exact hf _ kind scope hopen
    · exact hopen
  · rw [List.getElem_modify] at hother
    split at hother
    · exact hf _ kind scope hother
    · exact hother

/-- Rewriting an incident that stays as open as it was. -/
theorem opens_modify (index : Nat)
    (hf : ∀ incident kind scope, (f incident).IsOpen kind scope ↔
      incident.IsOpen kind scope) (kind scope : Text) :
    Opens (incidents.modify index f) kind scope ↔
      Opens incidents kind scope := by
  constructor
  · rintro ⟨incident, hincident, hopen⟩
    obtain ⟨other, old, hold, rfl⟩ := mem_modify.mp hincident
    refine ⟨old, List.mem_of_getElem? hold, ?_⟩
    split at hopen
    · exact (hf old kind scope).mp hopen
    · exact hopen
  · rintro ⟨old, hold, hopen⟩
    obtain ⟨other, hother⟩ := List.mem_iff_getElem?.mp hold
    refine ⟨_, mem_modify.mpr ⟨other, old, hother, rfl⟩, ?_⟩
    split
    · exact (hf old kind scope).mpr hopen
    · exact hopen

theorem openOnce_append {incident : IncidentRecord}
    (h : OpenOnce incidents)
    (hnew : ∀ kind scope, incident.IsOpen kind scope →
      ¬Opens incidents kind scope) : OpenOnce (incidents ++ [incident]) := by
  rw [OpenOnce, List.pairwise_append]
  refine ⟨h, List.pairwise_singleton _ _, ?_⟩
  intro old hold other hother kind scope hopen hotherOpen
  rw [List.mem_singleton] at hother
  subst hother
  exact hnew kind scope hotherOpen ⟨old, hold, hopen⟩

end Modify

section Node

variable {incidents : List IncidentRecord} {stableID : Text} {now : Time}

theorem openOnce_resolveNodeIncident (h : OpenOnce incidents) :
    OpenOnce (resolveNodeIncident incidents stableID now).1 := by
  unfold resolveNodeIncident
  split
  · exact h
  · apply openOnce_modify _ _ h
    intro incident kind scope hopen
    exact absurd hopen (incident.not_isOpen_resolve now kind scope)

/-- Resolving closes the incident of the node and no other. -/
theorem opens_resolveNodeIncident (h : OpenOnce incidents) (kind scope : Text) :
    Opens (resolveNodeIncident incidents stableID now).1 kind scope ↔
      Opens incidents kind scope ∧
        ¬(kind = incidentKindNode ∧ scope = nodeScope stableID) := by
  unfold resolveNodeIncident
  split
  · rename_i hnone
    rw [findActiveIncident_eq_none] at hnone
    constructor
    · intro hopens
      refine ⟨hopens, ?_⟩
      rintro ⟨rfl, rfl⟩
      exact hnone hopens
    · exact And.left
  · rename_i index hindex
    constructor
    · rintro ⟨incident, hincident, hopen⟩
      obtain ⟨other, old, hold, rfl⟩ := mem_modify.mp hincident
      split at hopen
      · exact absurd hopen (old.not_isOpen_resolve now kind scope)
      · rename_i hne
        refine ⟨⟨old, List.mem_of_getElem? hold, hopen⟩, ?_⟩
        rintro ⟨rfl, rfl⟩
        exact hne (isOpen_only_found h hindex hold hopen).symm
    · rintro ⟨⟨old, hold, hopen⟩, hne⟩
      obtain ⟨other, hother⟩ := List.mem_iff_getElem?.mp hold
      refine ⟨_, mem_modify.mpr ⟨other, old, hother, rfl⟩, ?_⟩
      split
      · rename_i hsame
        subst hsame
        obtain ⟨found, hfound, hkind, hscope, -⟩ :=
          findActiveIncident_eq_some hindex
        rw [hother] at hfound
        cases hfound
        exact absurd ⟨hopen.1.symm.trans hkind, hopen.2.1.symm.trans hscope⟩ hne
      · exact hopen

theorem openOnce_updateNodeIncident {proxy : ProxyConfig}
    {details : ProxyStatusDetails} (h : OpenOnce incidents) :
    OpenOnce (updateNodeIncident incidents proxy details now).1 := by
  unfold updateNodeIncident
  split
  · exact h
  · split
    · exact openOnce_resolveNodeIncident h
    · split
      · rename_i hnone
        apply openOnce_append h
        rintro kind scope ⟨hkind, hscope, -⟩
        rw [← hkind, ← hscope]
        exact findActiveIncident_eq_none.mp hnone
      · rename_i index _
        apply openOnce_modify index _ h
        intro incident kind scope
        exact (isOpen_continued _ now incident kind scope).mp

/-- After an update the node has an open incident if and only if it is
offline; the other incidents are as before. -/
theorem opens_updateNodeIncident {proxy : ProxyConfig}
    {details : ProxyStatusDetails} (h : OpenOnce incidents)
    (hnamed : proxy.stableID ≠ []) (kind scope : Text) :
    Opens (updateNodeIncident incidents proxy details now).1 kind scope ↔
      if kind = incidentKindNode ∧ scope = nodeScope proxy.stableID then
        details.isOffline = true
      else Opens incidents kind scope := by
  unfold updateNodeIncident
  rw [if_neg hnamed]
  split
  · rename_i hup
    rw [opens_resolveNodeIncident h]
    split
    · rename_i hsame
      have hnot : ¬details.isOffline = true := by simpa using hup
      exact iff_of_false (fun hboth => hboth.2 hsame) hnot
    · rename_i hother
      simp [hother]
  · rename_i hdown
    have hoffline : details.isOffline = true := by simpa using hdown
    split
    · rename_i hnone
      simp only [Opens, List.mem_append, List.mem_singleton]
      constructor
      · rintro ⟨incident, hincident | rfl, hopen⟩
        · split
          · exact hoffline
          · exact ⟨incident, hincident, hopen⟩
        · split
          · exact hoffline
          · rename_i hother
            exact absurd ⟨hopen.1.symm, hopen.2.1.symm⟩ hother
      · intro hgoal
        split at hgoal
        · rename_i hsame
          exact ⟨_, Or.inr rfl, hsame.1.symm, hsame.2.symm, rfl⟩
        · obtain ⟨incident, hincident, hopen⟩ := hgoal
          exact ⟨incident, Or.inl hincident, hopen⟩
    · rename_i index hindex
      rw [opens_modify index (isOpen_continued _ now)]
      split
      · rename_i hsame
        obtain ⟨found, hfound, hopen⟩ := findActiveIncident_eq_some hindex
        rw [hsame.1, hsame.2]
        exact iff_of_true ⟨found, List.mem_of_getElem? hfound, hopen⟩ hoffline
      · exact Iff.rfl

end Node

section Mass

variable {incidents : List IncidentRecord} {now : Time}

theorem openOnce_recordCandidate (h : OpenOnce incidents)
    (candidate : MassIncidentCandidate) :
    OpenOnce (recordCandidate now incidents candidate) := by
  unfold recordCandidate
  split
  · rename_i hnone
    apply openOnce_append h
    rintro kind scope ⟨hkind, hscope, -⟩
    rw [← hkind, ← hscope]
    exact findActiveIncident_eq_none.mp hnone
  · rename_i index _
    apply openOnce_modify index _ h
    intro incident kind scope
    exact (isOpen_refreshed candidate now incident kind scope).mp

theorem opens_recordCandidate (candidate : MassIncidentCandidate)
    (scope : Text) :
    Opens (recordCandidate now incidents candidate) incidentKindNode scope ↔
      Opens incidents incidentKindNode scope := by
  unfold recordCandidate
  split
  · constructor
    · rintro ⟨incident, hincident, hopen⟩
      rcases List.mem_append.mp hincident with hold | hnew
      · exact ⟨incident, hold, hopen⟩
      · rw [List.mem_singleton.mp hnew] at hopen
        exact absurd hopen.1 (by decide : incidentKindMass ≠ incidentKindNode)
    · rintro ⟨incident, hincident, hopen⟩
      exact ⟨incident, List.mem_append_left _ hincident, hopen⟩
  · exact opens_modify _ (isOpen_refreshed candidate now) _ _

/-- The mass incidents of a recording leave those of single nodes alone. -/
theorem updateMassIncidents_node (h : OpenOnce incidents)
    (proxies : List ProxyConfig)
    (detailsByStableID : GoMap Text ProxyStatusDetails) :
    OpenOnce
        (updateMassIncidents incidents proxies detailsByStableID now).1 ∧
      ∀ scope,
        Opens (updateMassIncidents incidents proxies detailsByStableID now).1
            incidentKindNode scope ↔
          Opens incidents incidentKindNode scope := by
  have hloop : ∀ (candidates : List MassIncidentCandidate)
      (incidents : List IncidentRecord), OpenOnce incidents →
      OpenOnce (candidates.foldl (recordCandidate now) incidents) ∧
        ∀ scope,
          Opens (candidates.foldl (recordCandidate now) incidents)
              incidentKindNode scope ↔
            Opens incidents incidentKindNode scope := by
    intro candidates
    induction candidates with
    | nil => exact fun incidents h => ⟨h, fun _ => Iff.rfl⟩
    | cons candidate rest ih =>
        intro incidents h
        obtain ⟨honce, hopens⟩ :=
          ih _ (@openOnce_recordCandidate _ now h candidate)
        refine ⟨honce, fun scope => (hopens scope).trans ?_⟩
        exact opens_recordCandidate candidate scope
  obtain ⟨honce, hopens⟩ :=
    hloop (correlateMassIncidents proxies detailsByStableID) incidents h
  simp only [updateMassIncidents]
  constructor
  · apply openOnce_map _ honce
    intro incident kind scope hopen
    split at hopen
    · exact absurd hopen (incident.not_isOpen_resolve now kind scope)
    · exact hopen
  · intro scope
    rw [← hopens scope]
    constructor
    · rintro ⟨incident, hincident, hopen⟩
      obtain ⟨old, hold, rfl⟩ := List.mem_map.mp hincident
      split at hopen
      · exact absurd hopen (old.not_isOpen_resolve now _ scope)
      · exact ⟨old, hold, hopen⟩
    · rintro ⟨incident, hincident, hopen⟩
      refine ⟨_, List.mem_map_of_mem hincident, ?_⟩
      rw [if_neg]
      · exact hopen
      · rintro ⟨hkind, -⟩
        exact absurd (hopen.1.symm.trans hkind)
          (by decide : incidentKindNode ≠ incidentKindMass)

/-- Pruning keeps every open incident, and no incident appears. -/
theorem pruneIncidents_keeps (h : OpenOnce incidents) :
    OpenOnce (pruneIncidents incidents).1 ∧
      ∀ kind scope, Opens (pruneIncidents incidents).1 kind scope ↔
        Opens incidents kind scope := by
  have hresolved : ∀ incident : IncidentRecord,
      incident ∈ ((incidents.filter
          (·.status ≠ incidentStatusActive)).insertionSort
            fun a b => b.startedAt ≤ a.startedAt) →
      ∀ kind scope, ¬incident.IsOpen kind scope := by
    intro incident hincident kind scope hopen
    have hstatus := (List.mem_insertionSort _).mp hincident
    have hne := List.mem_filter.mp hstatus
    simp [hopen.2.2] at hne
  unfold pruneIncidents
  split
  · exact ⟨h, fun _ _ => Iff.rfl⟩
  · constructor
    · rw [OpenOnce, List.pairwise_append]
      refine ⟨h.sublist List.filter_sublist, ?_, ?_⟩
      · apply List.pairwise_of_forall_mem_list
        intro a ha b _ kind scope hopen
        exact absurd hopen (hresolved a (List.mem_of_mem_take ha) kind scope)
      · intro a _ b hb kind scope _
        exact hresolved b (List.mem_of_mem_take hb) kind scope
    · intro kind scope
      constructor
      · rintro ⟨incident, hincident, hopen⟩
        rcases List.mem_append.mp hincident with hactive | hrest
        · exact ⟨incident, List.mem_of_mem_filter hactive, hopen⟩
        · exact absurd hopen
            (hresolved incident (List.mem_of_mem_take hrest) kind scope)
      · rintro ⟨incident, hincident, hopen⟩
        refine ⟨incident, List.mem_append_left _ ?_, hopen⟩
        exact List.mem_filter.mpr ⟨hincident, by simp [hopen.2.2]⟩

end Mass

/-- The node was found offline when it was last recorded, and is still
accounted: it is in the subscription and not in maintenance. -/
structure NodeRecord.Failing (record : NodeRecord) : Prop where
  named : record.stableID ≠ []
  active : record.active = true
  monitored : record.maintenance = false
  down : record.currentDownSince ≠ 0
  offline : record.lastOfflineAt = record.lastStatusAt

namespace NodeRecord.Failing

variable {record other : NodeRecord}

theorem of_same (h : other.Failing) (hsame : SameDowntime record other) :
    record.Failing where
  named := hsame.stableID ▸ h.named
  active := hsame.active.trans h.active
  monitored := hsame.maintenance.trans h.monitored
  down := hsame.currentDownSince ▸ h.down
  offline :=
    hsame.lastOfflineAt.trans (h.offline.trans hsame.lastStatusAt.symm)

theorem applyProxy (h : record.Failing) (proxy : ProxyConfig) (now : Time) :
    (record.applyProxy proxy now).Failing := by
  constructor
  · simp [NodeRecord.applyProxy, h.named]
  · rfl
  · exact h.monitored
  · exact h.down
  · exact h.offline

theorem of_offline {details : ProxyStatusDetails}
    (hoffline : details.isOffline = true) {now : Time} (hnow : now ≠ 0)
    (hnamed : record.stableID ≠ []) (hactive : record.active = true)
    (hmonitored : record.maintenance = false) :
    (record.applyAvailability details now).Failing := by
  refine of_same ?_ (record.applyAvailability_offline hoffline now)
  refine ⟨hnamed, hactive, hmonitored, ?_, rfl⟩
  by_cases hopen : record.currentDownSince = 0
  · simp only [hopen, ↓reduceIte, openedSince]
    split
    · exact hnow
    · assumption
  · simp [hopen]

end NodeRecord.Failing

/-- The journal and the records agree: at most one incident is open for a
kind and scope, and an open incident of a node is that of a failing one. -/
structure Journal (store : Store) : Prop where
  once : OpenOnce store.incidents
  failing : ∀ scope, Opens store.incidents incidentKindNode scope →
    ∃ stableID record, scope = nodeScope stableID ∧
      store.nodes[stableID]? = some record ∧ record.Failing

namespace Journal

variable {store next : Store}

theorem record_failing (h : Journal store) {stableID : Text}
    (hopen : Opens store.incidents incidentKindNode (nodeScope stableID)) :
    ∃ record, store.nodes[stableID]? = some record ∧ record.Failing := by
  obtain ⟨other, record, hscope, hrecord, hfailing⟩ := h.failing _ hopen
  rw [nodeScope_injective hscope]
  exact ⟨record, hrecord, hfailing⟩

/-- A step that writes one node and its incident. -/
theorem at_node (h : Journal store) {stableID : Text}
    (honce : OpenOnce next.incidents)
    (hnodes : ∀ other, stableID ≠ other →
      next.nodes[other]? = store.nodes[other]?)
    (hopens : ∀ scope, scope ≠ nodeScope stableID →
      Opens next.incidents incidentKindNode scope →
      Opens store.incidents incidentKindNode scope)
    (hself : Opens next.incidents incidentKindNode (nodeScope stableID) →
      ∃ record, next.nodes[stableID]? = some record ∧ record.Failing) :
    Journal next := by
  refine ⟨honce, fun scope hopen => ?_⟩
  by_cases hscope : scope = nodeScope stableID
  · subst hscope
    obtain ⟨record, hrecord, hfailing⟩ := hself hopen
    exact ⟨stableID, record, rfl, hrecord, hfailing⟩
  · obtain ⟨other, record, rfl, hrecord, hfailing⟩ :=
      h.failing scope (hopens scope hscope hopen)
    refine ⟨other, record, rfl, ?_, hfailing⟩
    rw [hnodes other ?_]
    · exact hrecord
    · rintro rfl
      exact hscope rfl

/-- A step that leaves the journal as it is and every failing node failing. -/
theorem same_incidents (h : Journal store)
    (hincidents : next.incidents = store.incidents)
    (hkeeps : ∀ (stableID : Text) (record : NodeRecord),
      store.nodes[stableID]? = some record → record.Failing →
      ∃ record', next.nodes[stableID]? = some record' ∧
        NodeRecord.Failing record') :
    Journal next := by
  refine ⟨hincidents ▸ h.once, fun scope hopen => ?_⟩
  rw [hincidents] at hopen
  obtain ⟨stableID, record, rfl, hrecord, hfailing⟩ := h.failing scope hopen
  obtain ⟨record', hrecord', hfailing'⟩ :=
    hkeeps stableID record hrecord hfailing
  exact ⟨stableID, record', rfl, hrecord', hfailing'⟩

end Journal

section Recording

variable {options : Options} {pc : ProxyChecker} {now : Time}

/-- What a recording makes of one node keeps the journal right. -/
theorem Observed.journal {store next : Store} {proxy : ProxyConfig}
    {written : NodeRecord} (h : Journal store) (hnow : now ≠ 0)
    (hnamed : proxy.stableID ≠ [])
    (hobserved : Observed options pc now store.incidents proxy
      ((store.recordOf proxy.stableID).applyProxy proxy now) written
      next.incidents)
    (hnodes : ∀ other, next.nodes[other]? =
      if proxy.stableID = other then some written else store.nodes[other]?) :
    Journal next := by
  have hself : next.nodes[proxy.stableID]? = some written := by
    simpa using hnodes proxy.stableID
  have hother : ∀ other, proxy.stableID ≠ other →
      next.nodes[other]? = store.nodes[other]? := by
    intro other hne
    simpa [hne] using hnodes other
  have hresolve : next.incidents =
      (resolveNodeIncident store.incidents proxy.stableID now).1 →
      Journal next := by
    intro hincidents
    refine h.at_node (hincidents ▸ openOnce_resolveNodeIncident h.once) hother
      ?_ ?_
    · intro scope _ hopen
      rw [hincidents, opens_resolveNodeIncident h.once] at hopen
      exact hopen.1
    · intro hopen
      rw [hincidents, opens_resolveNodeIncident h.once] at hopen
      exact absurd ⟨rfl, rfl⟩ hopen.2
  generalize hincidents : next.incidents = incidents at hobserved
  cases hobserved with
  | unaccounted _ => exact hresolve hincidents
  | unread error hmonitored haccounted hdetails =>
      cases hjournal : pc.incidentsAccounted proxy.stableID with
      | false => exact hresolve (by simpa [hjournal] using hincidents)
      | true =>
          have hsame : next.incidents = store.incidents := by
            simpa [hjournal] using hincidents
          refine h.at_node (hsame ▸ h.once) hother ?_ ?_
          · intro scope _ hopen
            exact hsame ▸ hopen
          · intro hopen
            obtain ⟨record, hrecord, hfailing⟩ :=
              h.record_failing (hsame ▸ hopen)
            refine ⟨_, hself, ?_⟩
            simp only [Store.recordOf, hrecord, Option.getD_some]
            exact hfailing.applyProxy proxy now
  | read details hmonitored haccounted hdetails =>
      cases hjournal : pc.incidentsAccounted proxy.stableID with
      | false => exact hresolve (by simpa [hjournal] using hincidents)
      | true =>
          have hupdated : next.incidents =
              (updateNodeIncident store.incidents proxy details now).1 := by
            simpa [hjournal] using hincidents
          refine h.at_node (hupdated ▸ openOnce_updateNodeIncident h.once)
            hother ?_ ?_
          · intro scope hscope hopen
            rw [hupdated, opens_updateNodeIncident h.once hnamed] at hopen
            simpa [hscope] using hopen
          · intro hopen
            rw [hupdated, opens_updateNodeIncident h.once hnamed] at hopen
            refine ⟨_, hself, ?_⟩
            exact .of_offline (by simpa using hopen) hnow
              (NodeRecord.applyProxy_stableID_ne _ hnamed now) rfl hmonitored

/-- Nodes the checker does not track are untouched by the loop, and their
incidents are not opened. -/
structure Untracked (options : Options) (pc : ProxyChecker)
    (start : Store) (store : Store) : Prop where
  nodes : ∀ stableID, stableID ∉ trackedIDs options pc →
    store.nodes[stableID]? = start.nodes[stableID]?
  opens : ∀ stableID, stableID ∉ trackedIDs options pc →
    Opens store.incidents incidentKindNode (nodeScope stableID) →
    Opens start.incidents incidentKindNode (nodeScope stableID)

/-- A recording of one node opens no incident of another. -/
theorem Observed.opens_other {incidents after : List IncidentRecord}
    {proxy : ProxyConfig} {record written : NodeRecord}
    (honce : OpenOnce incidents) (hnamed : proxy.stableID ≠ [])
    (h : Observed options pc now incidents proxy record written after)
    {scope : Text} (hscope : scope ≠ nodeScope proxy.stableID)
    (hopen : Opens after incidentKindNode scope) :
    Opens incidents incidentKindNode scope := by
  have hresolve :
      Opens (resolveNodeIncident incidents proxy.stableID now).1
        incidentKindNode scope → Opens incidents incidentKindNode scope :=
    fun hopen => ((opens_resolveNodeIncident honce _ _).mp hopen).1
  cases h with
  | unaccounted _ => exact hresolve hopen
  | unread _ _ _ _ =>
      split at hopen
      · exact hopen
      · exact hresolve hopen
  | read details _ _ _ =>
      split at hopen
      · rw [opens_updateNodeIncident honce hnamed] at hopen
        simpa [hscope] using hopen
      · exact hresolve hopen

/-- The loop of a recording keeps the journal right. -/
theorem journal_loop {store : Store} (h : Journal store) (hnow : now ≠ 0)
    (recordHistory : Bool) :
    let acc := pc.proxies.foldl (recordProxy options pc recordHistory now)
      { store := store }
    Journal acc.store ∧ Untracked options pc store acc.store := by
  apply foldl_invariant (fun _ (acc : Recording) => Journal acc.store ∧
    Untracked options pc store acc.store) pc.proxies
  · exact ⟨h, ⟨fun _ _ => rfl, fun _ _ => id⟩⟩
  · rintro done proxy acc hproxy ⟨hjournal, huntracked⟩
    generalize hfilled : ({ proxy with
      stableID := proxy.effectiveStableID options.digest } : ProxyConfig) =
        filled
    by_cases hnamed : filled.stableID = []
    · have hempty : proxy.effectiveStableID options.digest = [] := by
        rw [← hnamed, ← hfilled]
      simp only [recordProxy, hempty, ↓reduceIte]
      exact ⟨hjournal, huntracked⟩
    · obtain ⟨written, hobserved, hnodes⟩ :=
        @recordProxy_observed options pc now recordHistory acc proxy filled
          hfilled.symm hnamed
      have htracked : filled.stableID ∈ trackedIDs options pc := by
        simp only [trackedIDs, List.mem_filter, List.mem_map]
        exact ⟨⟨proxy, hproxy, by rw [← hfilled]⟩, by simpa using hnamed⟩
      refine ⟨hobserved.journal hjournal hnow hnamed hnodes, ?_⟩
      constructor
      · intro stableID huntrackedID
        rw [hnodes, if_neg]
        · exact huntracked.nodes stableID huntrackedID
        · rintro rfl
          exact huntrackedID htracked
      · intro stableID huntrackedID hopen
        apply huntracked.opens stableID huntrackedID
        apply hobserved.opens_other hjournal.once hnamed _ hopen
        intro hscope
        rw [nodeScope_injective hscope] at huntrackedID
        exact huntrackedID htracked

/-- A recording retires no node whose incident is open: the checker knows
every node that has one. -/
def RetiresQuietly (options : Options) (store : Store) (pc : ProxyChecker) :
    Prop :=
  ∀ entry ∈ store.nodes.toList, entry.2.active = true →
    entry.1 ∉ trackedIDs options pc →
    ¬Opens store.incidents incidentKindNode (nodeScope entry.1)

instance (options : Options) (store : Store) (pc : ProxyChecker) :
    Decidable (RetiresQuietly options store pc) :=
  inferInstanceAs (Decidable (∀ _ ∈ _, _))

/-- The loop over the nodes that left, when none of them has an open
incident. -/
theorem journal_retire {store : Store} (h : Journal store) {active : List Text}
    (hquiet : ∀ stableID record, store.nodes[stableID]? = some record →
      record.active = true → stableID ∉ active →
      ¬Opens store.incidents incidentKindNode (nodeScope stableID))
    (changed : Bool) :
    Journal (store.nodes.toList.foldl (retireMissing active now)
      (store, changed)).1 := by
  refine (foldl_invariant (fun _ (retired : Store × Bool) =>
    Journal retired.1 ∧ retired.1.incidents = store.incidents)
    store.nodes.toList ⟨h, rfl⟩ ?_).1
  rintro done ⟨stableID, record⟩ retired hentry ⟨hjournal, hincidents⟩
  rw [Std.ExtTreeMap.mem_toList_iff_getElem?_eq_some] at hentry
  simp only [retireMissing]
  split
  · exact ⟨hjournal, hincidents⟩
  · rename_i hleft
    split
    · refine ⟨?_, hincidents⟩
      refine @Journal.at_node retired.1 _ hjournal stableID hjournal.once
        ?_ ?_ ?_
      · intro other hne
        exact (GoMap.get_insert _ stableID other _).trans (if_neg hne)
      · exact fun _ _ => id
      · intro hopen
        refine absurd ?_ (hquiet stableID record hentry ?_ ?_)
        · exact hincidents ▸ hopen
        · simp_all
        · simp_all
    · exact ⟨hjournal, hincidents⟩

/-- A recording that retires quietly keeps the journal right. -/
theorem journal_recordAvailability {store : Store} (h : Journal store)
    (hnow : now ≠ 0) (hquiet : RetiresQuietly options store pc)
    (recordHistory : Bool) :
    Journal (store.recorded options pc recordHistory now).1 := by
  obtain ⟨hloop, huntracked⟩ :=
    @journal_loop options pc now store h hnow recordHistory
  simp only [Store.recorded]
  generalize pc.proxies.foldl (recordProxy options pc recordHistory now)
    { store := store } = acc at hloop huntracked
  obtain ⟨hmass, hmassOpens⟩ :=
    @updateMassIncidents_node acc.store.incidents now hloop.once
      acc.incidentProxies acc.detailsByStableID
  obtain ⟨hpruned, hprunedOpens⟩ := pruneIncidents_keeps hmass
  have hopens : ∀ scope,
      Opens (acc.finish now).1.incidents incidentKindNode scope ↔
        Opens acc.store.incidents incidentKindNode scope :=
    fun scope => (hprunedOpens _ scope).trans (hmassOpens scope)
  have hfinished : Journal (acc.finish now).1 := by
    refine ⟨hpruned, fun scope hopen => ?_⟩
    exact hloop.failing scope ((hopens scope).mp hopen)
  apply journal_retire hfinished
  intro stableID record hrecord hactive huntrackedID hopen
  have hbefore : store.nodes[stableID]? = some record :=
    (huntracked.nodes stableID huntrackedID).symm.trans hrecord
  refine hquiet (stableID, record) ?_ hactive huntrackedID ?_
  · exact Std.ExtTreeMap.mem_toList_iff_getElem?_eq_some.mpr hbefore
  · exact huntracked.opens stableID huntrackedID ((hopens _).mp hopen)

end Recording

end XrayChecker.NodeArchive

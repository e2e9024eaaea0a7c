import XrayChecker.NodeArchive.DowntimeRuns
import XrayChecker.NodeArchive.Majorities
import XrayChecker.NodeArchive.OpenIncidents

/-
The open mass incidents after a recording, against the groups of nodes in
which a majority fails alike.
-/

namespace XrayChecker.NodeArchive

open Go Checker

/-- The open mass incidents of a scope. -/
def openMass (incidents : List IncidentRecord) (scope : Text) :
    List IncidentRecord :=
  incidents.filter fun incident => incident.IsOpen incidentKindMass scope

theorem mem_openMass {incidents : List IncidentRecord} {scope : Text}
    {incident : IncidentRecord} :
    incident ∈ openMass incidents scope ↔
      incident ∈ incidents ∧ incident.IsOpen incidentKindMass scope := by
  simp [openMass]

/-! ### Rewriting one incident of the journal -/

section Journal

variable {incidents : List IncidentRecord} {scope : Text} {now : Time}

/-- The incident found is the last open one of its kind and scope. -/
theorem findActiveIncident_split {kind : Text} {index : Nat}
    (h : findActiveIncident incidents kind scope = some index) :
    ∃ front incident back, incidents = front ++ incident :: back ∧
      front.length = index ∧ incident.IsOpen kind scope ∧
      ∀ later ∈ back, ¬later.IsOpen kind scope := by
  obtain ⟨incident, hincident, hopen⟩ := findActiveIncident_eq_some h
  obtain ⟨hindex, rfl⟩ := List.getElem?_eq_some_iff.mp hincident
  refine ⟨incidents.take index, incidents[index], incidents.drop (index + 1),
    ?_, ?_, hopen, ?_⟩
  · rw [← List.drop_eq_getElem_cons hindex, List.take_append_drop]
  · rw [List.length_take]
    omega
  · intro later hlater hlaterOpen
    obtain ⟨offset, hoffset, rfl⟩ := List.mem_iff_getElem.mp hlater
    rw [List.length_drop] at hoffset
    rw [findActiveIncident, List.find?_eq_some_iff_getElem] at h
    obtain ⟨-, place, hplace, hat, hbefore⟩ := h
    simp only [List.length_reverse, List.length_range] at hplace
    simp only [List.getElem_reverse, List.getElem_range, List.length_range]
      at hat
    -- The list of indexes is read from its end, so a later one comes first.
    have hearlier := hbefore (incidents.length - 1 - (index + 1 + offset))
      (by omega)
    simp only [List.getElem_reverse, List.getElem_range, List.length_range]
      at hearlier
    rw [show incidents.length - 1 -
        (incidents.length - 1 - (index + 1 + offset)) = index + 1 + offset by
      omega, List.getElem?_eq_getElem (by omega)] at hearlier
    rw [List.getElem_drop] at hlaterOpen
    simp [hlaterOpen] at hearlier

theorem modify_split {front back : List IncidentRecord}
    {incident : IncidentRecord} {f : IncidentRecord → IncidentRecord}
    {index : Nat} (hindex : front.length = index) :
    (front ++ incident :: back).modify index f =
      front ++ f incident :: back := by
  subst hindex
  induction front with
  | nil => rfl
  | cons head front ih => simpa using ih

/-- Rewriting an incident that is no open mass incident of the scope, and does
not become one. -/
theorem openMass_modify {kind found : Text} {index : Nat}
    {f : IncidentRecord → IncidentRecord}
    (h : findActiveIncident incidents kind found = some index)
    (hf : ∀ incident : IncidentRecord, incident.IsOpen kind found →
      ¬incident.IsOpen incidentKindMass scope ∧
        ¬(f incident).IsOpen incidentKindMass scope) :
    openMass (incidents.modify index f) scope = openMass incidents scope := by
  obtain ⟨front, incident, back, rfl, hlength, hopen, -⟩ :=
    findActiveIncident_split h
  rw [modify_split hlength, openMass, openMass, List.filter_append,
    List.filter_append, List.filter_cons_of_neg, List.filter_cons_of_neg]
  · simpa using (hf incident hopen).1
  · simpa using (hf incident hopen).2

theorem openMass_append_other {incident : IncidentRecord}
    (h : ¬incident.IsOpen incidentKindMass scope) :
    openMass (incidents ++ [incident]) scope = openMass incidents scope := by
  simp [openMass, h]

theorem IncidentRecord.not_isOpen_mass {incident : IncidentRecord}
    (h : incident.kind = incidentKindNode) :
    ¬incident.IsOpen incidentKindMass scope := by
  rintro ⟨hkind, -⟩
  exact absurd (h.symm.trans hkind) (by decide)

/-- The mass incidents are not touched by what happens to a node's own. -/
theorem openMass_resolveNodeIncident (stableID : Text) :
    openMass (resolveNodeIncident incidents stableID now).1 scope =
      openMass incidents scope := by
  unfold resolveNodeIncident
  split
  · rfl
  · rename_i index hindex
    apply openMass_modify hindex
    intro incident hopen
    exact ⟨incident.not_isOpen_mass hopen.1,
      incident.not_isOpen_resolve now _ _⟩

theorem openMass_updateNodeIncident (proxy : ProxyConfig)
    (details : ProxyStatusDetails) :
    openMass (updateNodeIncident incidents proxy details now).1 scope =
      openMass incidents scope := by
  unfold updateNodeIncident
  split
  · rfl
  · split
    · exact openMass_resolveNodeIncident proxy.stableID
    · split
      · exact openMass_append_other (IncidentRecord.not_isOpen_mass rfl)
      · rename_i index hindex
        apply openMass_modify hindex
        intro incident hopen
        exact ⟨incident.not_isOpen_mass hopen.1,
          IncidentRecord.not_isOpen_mass hopen.1⟩

end Journal

/-! ### The candidates of a recording -/

section Candidates

variable {incidents : List IncidentRecord} {scope : Text} {now : Time}
  {candidate : MassIncidentCandidate}

/-- What a candidate makes of the last open incident of its scope. -/
def takenUp (now : Time) (candidate : MassIncidentCandidate) :
    Option IncidentRecord → IncidentRecord
  | none => massIncident candidate now
  | some incident => incident.refreshed candidate now

theorem isOpen_massIncident :
    (massIncident candidate now).IsOpen incidentKindMass scope ↔
      candidate.scope = scope := by
  simp [IncidentRecord.IsOpen, massIncident]

/-- A candidate leaves the other scopes alone. -/
theorem openMass_recordCandidate_other (h : candidate.scope ≠ scope) :
    openMass (recordCandidate now incidents candidate) scope =
      openMass incidents scope := by
  unfold recordCandidate
  split
  · exact openMass_append_other fun hopen => h (isOpen_massIncident.mp hopen)
  · rename_i index hindex
    apply openMass_modify hindex
    intro incident hopen
    have hother : ¬incident.IsOpen incidentKindMass scope :=
      fun hscope => h (hopen.2.1.symm.trans hscope.2.1)
    exact ⟨hother, hother⟩

/-- A candidate takes up the last open incident of its scope, or opens one. -/
theorem openMass_recordCandidate_self :
    openMass (recordCandidate now incidents candidate) candidate.scope =
      (openMass incidents candidate.scope).dropLast ++
        [takenUp now candidate
          (openMass incidents candidate.scope).getLast?] := by
  unfold recordCandidate
  split
  · rename_i hnone
    have hempty : openMass incidents candidate.scope = [] := by
      rw [openMass, List.filter_eq_nil_iff]
      intro incident hincident hopen
      exact findActiveIncident_eq_none.mp hnone
        ⟨incident, hincident, by simpa using hopen⟩
    have hnew : (massIncident candidate now).IsOpen incidentKindMass
        candidate.scope := isOpen_massIncident.mpr rfl
    rw [openMass, List.filter_append, ← openMass, hempty]
    simp [hnew, takenUp]
  · rename_i index hindex
    obtain ⟨front, incident, back, rfl, hlength, hopen, hback⟩ :=
      findActiveIncident_split hindex
    have hrest : openMass back candidate.scope = [] := by
      rw [openMass, List.filter_eq_nil_iff]
      intro later hlater
      simpa using hback later hlater
    have hkept : (incident.refreshed candidate now).IsOpen incidentKindMass
        candidate.scope := hopen
    have hsplit : ∀ middle : IncidentRecord,
        middle.IsOpen incidentKindMass candidate.scope →
        openMass (front ++ middle :: back) candidate.scope =
          openMass front candidate.scope ++ [middle] := by
      intro middle hmiddle
      rw [openMass, List.filter_append, List.filter_cons_of_pos, ← openMass,
        ← openMass, hrest]
      simpa using hmiddle
    rw [modify_split hlength, hsplit _ hkept, hsplit _ hopen]
    simp [takenUp]

/-- Scopes no candidate has are left alone by the whole loop. -/
theorem openMass_candidates_other (candidates : List MassIncidentCandidate)
    (incidents : List IncidentRecord)
    (h : scope ∉ candidates.map (·.scope)) :
    openMass (candidates.foldl (recordCandidate now) incidents) scope =
      openMass incidents scope := by
  induction candidates generalizing incidents with
  | nil => rfl
  | cons first rest ih =>
      simp only [List.map_cons, List.mem_cons, not_or] at h
      rw [List.foldl_cons, ih _ h.2,
        openMass_recordCandidate_other (Ne.symm h.1)]

/-- With one candidate for each scope, every candidate takes up the last open
incident from before. -/
theorem openMass_candidates_self {candidates : List MassIncidentCandidate}
    (hdistinct : (candidates.map (·.scope)).Nodup)
    (hcandidate : candidate ∈ candidates) (incidents : List IncidentRecord) :
    openMass (candidates.foldl (recordCandidate now) incidents)
        candidate.scope =
      (openMass incidents candidate.scope).dropLast ++
        [takenUp now candidate
          (openMass incidents candidate.scope).getLast?] := by
  induction candidates generalizing incidents with
  | nil => exact absurd hcandidate (by simp)
  | cons first rest ih =>
      rw [List.map_cons, List.nodup_cons] at hdistinct
      rw [List.foldl_cons]
      rcases List.mem_cons.mp hcandidate with rfl | hrest
      · rw [openMass_candidates_other rest _ hdistinct.1,
          openMass_recordCandidate_self]
      · have hne : first.scope ≠ candidate.scope := by
          intro hsame
          exact hdistinct.1 (hsame ▸ List.mem_map_of_mem hrest)
        rw [ih hdistinct.2 hrest, openMass_recordCandidate_other hne]

/-- The loop closes nothing, and leaves an open incident for each scope. -/
theorem length_openMass_candidates (candidates : List MassIncidentCandidate)
    (incidents : List IncidentRecord) (scope : Text) :
    (openMass incidents scope).length ≤
      (openMass (candidates.foldl (recordCandidate now) incidents)
        scope).length := by
  induction candidates generalizing incidents with
  | nil => exact le_rfl
  | cons first rest ih =>
      refine le_trans ?_ (ih _)
      by_cases hscope : first.scope = scope
      · subst hscope
        rw [openMass_recordCandidate_self]
        simp only [List.length_append, List.length_dropLast,
          List.length_singleton]
        omega
      · rw [openMass_recordCandidate_other hscope]

/-- The last loop of `updateMassIncidentsLocked` closes what no candidate
has. -/
theorem openMass_ended (incidents : List IncidentRecord)
    (activeScopes : List Text) :
    openMass (incidents.map fun incident =>
        if incident.Ended activeScopes then incident.resolve now
        else incident) scope =
      if scope ∈ activeScopes then openMass incidents scope else [] := by
  induction incidents with
  | nil => simp [openMass]
  | cons incident rest ih =>
      simp only [openMass] at ih
      rw [List.map_cons, openMass, List.filter_cons, ih]
      by_cases hopen : incident.IsOpen incidentKindMass scope
      · by_cases hscope : scope ∈ activeScopes
        · have hkept : ¬incident.Ended activeScopes := by
            rintro ⟨-, -, hnot⟩
            exact hnot (hopen.2.1 ▸ hscope)
          simp [hkept, hopen, hscope, openMass]
        · have hended : incident.Ended activeScopes :=
            ⟨hopen.1, hopen.2.2, hopen.2.1 ▸ hscope⟩
          have hclosed := incident.not_isOpen_resolve now incidentKindMass scope
          simp [hended, hscope, hclosed]
      · by_cases hended : incident.Ended activeScopes
        · have hclosed := incident.not_isOpen_resolve now incidentKindMass scope
          simp [hended, hclosed, hopen, openMass]
        · simp [hended, hopen, openMass]

/-- Pruning leaves the open incidents as they are. -/
theorem openMass_pruneIncidents (incidents : List IncidentRecord) :
    openMass (pruneIncidents incidents).1 scope = openMass incidents scope := by
  unfold pruneIncidents
  split
  · rfl
  · have hactive : openMass (incidents.filter
        (·.status = incidentStatusActive)) scope = openMass incidents scope := by
      rw [openMass, List.filter_filter]
      apply List.filter_congr
      intro incident _
      by_cases hopen : incident.IsOpen incidentKindMass scope
      · simp [hopen, hopen.2.2]
      · simp [hopen]
    have hresolved : openMass (((incidents.filter
        (·.status ≠ incidentStatusActive)).insertionSort
          fun a b => b.startedAt ≤ a.startedAt).take (maxIncidentRecords -
            (incidents.filter (·.status = incidentStatusActive)).length))
        scope = [] := by
      rw [openMass, List.filter_eq_nil_iff]
      intro incident hincident hopen
      have hstatus := List.mem_filter.mp
        ((List.mem_insertionSort _).mp (List.mem_of_mem_take hincident))
      rw [decide_eq_true_eq] at hopen
      simp [hopen.2.2] at hstatus
    simp only
    rw [openMass, List.filter_append, ← openMass, ← openMass, hactive,
      hresolved, List.append_nil]

/-- Only a full journal forgets what it held. -/
theorem mem_pruneIncidents {incident : IncidentRecord}
    (h : incident ∈ incidents) :
    incident ∈ (pruneIncidents incidents).1 ∨
      maxIncidentRecords ≤ (pruneIncidents incidents).1.length := by
  unfold pruneIncidents
  split
  · exact Or.inl h
  · rename_i hfull
    right
    have hparts := List.length_eq_length_filter_add (l := incidents)
      fun incident => decide (incident.status = incidentStatusActive)
    simp only [List.length_append, List.length_take,
      List.length_insertionSort, ne_eq, decide_not]
    omega

end Candidates

/-! ### The nodes of a recording -/

/-- The status a recording reads for a node, if it can. -/
def statusOf (options : Options) (pc : ProxyChecker) (stableID : Text) :
    Option ProxyStatusDetails :=
  (pc.getProxyStatusDetailsByStableID options stableID).toOption

/-- The journal covers the node: it is not in maintenance, and its source is
one whose incidents count. -/
def Store.journals (store : Store) (pc : ProxyChecker) (stableID : Text) :
    Bool :=
  stableID ≠ [] && !(store.recordOf stableID).maintenance &&
    pc.incidentsAccounted stableID

/-- The nodes of the checker the journal covers. -/
def Store.journalled (store : Store) (options : Options) (pc : ProxyChecker) :
    List ProxyConfig :=
  (pc.proxies.map fun proxy =>
      { proxy with stableID := proxy.effectiveStableID options.digest }).filter
    fun proxy => store.journals pc proxy.stableID

section Recording

variable {options : Options} {pc : ProxyChecker} {now : Time}

/-- What the loop of a recording hands over to the correlation. -/
structure Handed (options : Options) (pc : ProxyChecker) (start : Store)
    (done : List ProxyConfig) (acc : Recording) : Prop where
  incidentProxies : acc.incidentProxies =
    (done.map fun proxy =>
      { proxy with stableID := proxy.effectiveStableID options.digest }).filter
      fun proxy => start.journals pc proxy.stableID
  details : ∀ stableID details, acc.detailsByStableID[stableID]? = some details →
    statusOf options pc stableID = some details
  read : ∀ proxy ∈ acc.incidentProxies, ∀ details,
    statusOf options pc proxy.stableID = some details →
    acc.detailsByStableID[proxy.stableID]? = some details
  openMass : ∀ scope,
    openMass acc.store.incidents scope = openMass start.incidents scope
  maintenance : ∀ stableID, (acc.store.recordOf stableID).maintenance =
    (start.recordOf stableID).maintenance

theorem Observed.openMass {incidents after : List IncidentRecord}
    {proxy : ProxyConfig} {record written : NodeRecord}
    (h : Observed options pc now incidents proxy record written after)
    (scope : Text) :
    openMass after scope = NodeArchive.openMass incidents scope := by
  cases h with
  | unaccounted _ => exact openMass_resolveNodeIncident _
  | unread _ _ _ _ =>
      split
      · rfl
      · exact openMass_resolveNodeIncident _
  | read details _ _ _ =>
      split
      · exact openMass_updateNodeIncident proxy details
      · exact openMass_resolveNodeIncident _

theorem ProxyChecker.availabilityAccounted_of_incidents {stableID : Text}
    (h : pc.incidentsAccounted stableID = true) :
    pc.availabilityAccounted stableID = true := by
  simp only [ProxyChecker.incidentsAccounted, Bool.and_eq_true] at h
  exact h.1

/-- The lists of a recording after one more node. -/
theorem recordProxy_lists (recordHistory : Bool) (acc : Recording)
    {proxy filled : ProxyConfig}
    (hfilled : filled =
      { proxy with stableID := proxy.effectiveStableID options.digest }) :
    let after := recordProxy options pc recordHistory now acc proxy
    after.incidentProxies =
        (if acc.store.journals pc filled.stableID then
          acc.incidentProxies ++ [filled] else acc.incidentProxies) ∧
      (after.detailsByStableID = acc.detailsByStableID ∧
          (acc.store.journals pc filled.stableID = true →
            statusOf options pc filled.stableID = none) ∨
        ∃ details, statusOf options pc filled.stableID = some details ∧
          after.detailsByStableID =
            acc.detailsByStableID.insert filled.stableID details) := by
  have hid : proxy.effectiveStableID options.digest = filled.stableID := by
    rw [hfilled]
  have hsame : ({ proxy with stableID := filled.stableID } : ProxyConfig) =
      filled := by
    rw [hfilled]
  have hkept : ((acc.store.recordOf filled.stableID).applyProxy filled
      now).maintenance = (acc.store.recordOf filled.stableID).maintenance := rfl
  intro after
  simp only [after, recordProxy, hid, hsame]
  by_cases hnamed : filled.stableID = []
  · simp [hnamed, Store.journals]
  · rw [if_neg hnamed, hkept]
    cases hpaused : (acc.store.recordOf filled.stableID).maintenance with
    | true => simp [recordUnaccounted, Store.journals, hpaused]
    | false =>
        cases haccounted : pc.availabilityAccounted filled.stableID with
        | false =>
            have hjournal : pc.incidentsAccounted filled.stableID = false := by
              simp [ProxyChecker.incidentsAccounted, haccounted]
            simp [recordUnaccounted, Store.journals, hjournal]
        | true =>
            cases hstatus :
                pc.getProxyStatusDetailsByStableID options filled.stableID with
            | error error =>
                simp [recordAccounted, Store.journals, statusOf, hstatus,
                  hnamed, hpaused, Except.toOption]
            | ok details =>
                simp [recordAccounted, Store.journals, statusOf, hstatus,
                  hnamed, hpaused, Except.toOption]

theorem handed_recordProxy {start : Store} {done : List ProxyConfig}
    {acc : Recording} (h : Handed options pc start done acc)
    (recordHistory : Bool) (proxy : ProxyConfig) :
    Handed options pc start (done ++ [proxy])
      (recordProxy options pc recordHistory now acc proxy) := by
  generalize hfilled : ({ proxy with
    stableID := proxy.effectiveStableID options.digest } : ProxyConfig) =
      filled
  obtain ⟨hlists, hmap⟩ := @recordProxy_lists options pc now recordHistory acc
    proxy filled hfilled.symm
  have hjournals : acc.store.journals pc filled.stableID =
      start.journals pc filled.stableID := by
    simp only [Store.journals, h.maintenance]
  have hproxies : (recordProxy options pc recordHistory now acc
      proxy).incidentProxies =
        ((done ++ [proxy]).map fun proxy =>
          { proxy with stableID :=
              proxy.effectiveStableID options.digest }).filter
          fun proxy => start.journals pc proxy.stableID := by
    rw [hlists, hjournals, List.map_append, List.filter_append,
      ← h.incidentProxies, List.map_singleton, hfilled]
    split
    · rename_i hcovered
      simp [hcovered]
    · rename_i hcovered
      simp [hcovered]
  have hmembers : ∀ other ∈ (recordProxy options pc recordHistory now acc
      proxy).incidentProxies, other ∈ acc.incidentProxies ∨
        other = filled ∧ acc.store.journals pc filled.stableID = true := by
    intro other hother
    rw [hlists] at hother
    split at hother
    · rename_i hcovered
      rcases List.mem_append.mp hother with hold | hnew
      · exact Or.inl hold
      · exact Or.inr ⟨List.mem_singleton.mp hnew, hcovered⟩
    · exact Or.inl hother
  have hstore : (∀ scope, openMass (recordProxy options pc recordHistory now
      acc proxy).store.incidents scope = openMass start.incidents scope) ∧
      ∀ stableID, ((recordProxy options pc recordHistory now acc
        proxy).store.recordOf stableID).maintenance =
          (start.recordOf stableID).maintenance := by
    by_cases hnamed : filled.stableID = []
    · have hid : proxy.effectiveStableID options.digest = [] := by
        rw [← hnamed, ← hfilled]
      simp only [recordProxy, hid, ↓reduceIte]
      exact ⟨h.openMass, h.maintenance⟩
    · obtain ⟨written, hobserved, hnodes⟩ :=
        @recordProxy_observed options pc now recordHistory acc proxy filled
          hfilled.symm hnamed
      refine ⟨fun scope => (hobserved.openMass scope).trans (h.openMass scope),
        fun stableID => ?_⟩
      rw [Store.recordOf, hnodes]
      split
      · rename_i hself
        rw [Option.getD_some, hobserved.downtime.2.1, ← hself]
        exact h.maintenance _
      · exact h.maintenance stableID
  refine ⟨hproxies, ?_, ?_, hstore.1, hstore.2⟩
  · intro stableID details hdetails
    rcases hmap with ⟨hsame, -⟩ | ⟨read, hread, hinserted⟩
    · exact h.details stableID details (hsame ▸ hdetails)
    · rw [hinserted, GoMap.get_insert] at hdetails
      split at hdetails
      · rename_i hself
        rw [← hself, hread, hdetails]
      · exact h.details stableID details hdetails
  · intro other hother details hdetails
    rcases hmap with ⟨hsame, hnone⟩ | ⟨read, hread, hinserted⟩
    · rw [hsame]
      rcases hmembers other hother with hold | ⟨rfl, hcovered⟩
      · exact h.read other hold details hdetails
      · rw [hnone hcovered] at hdetails
        exact absurd hdetails (by simp)
    · rw [hinserted, GoMap.get_insert]
      split
      · rename_i hself
        rw [← hself, hread] at hdetails
        exact hdetails
      · rename_i hne
        rcases hmembers other hother with hold | ⟨rfl, -⟩
        · exact h.read other hold details hdetails
        · exact absurd rfl hne

/-- The loop of a recording hands over the nodes the journal covers, with the
status each of them has. -/
theorem handed_loop (store : Store) (recordHistory : Bool) :
    Handed options pc store pc.proxies
      (pc.proxies.foldl (recordProxy options pc recordHistory now)
        { store := store }) := by
  apply foldl_invariant (Handed options pc store)
  · exact ⟨rfl, by simp, by simp, fun _ => rfl, fun _ => rfl⟩
  · intro done proxy acc _ hacc
    exact handed_recordProxy hacc recordHistory proxy

theorem retireMissing_incidents (active : List Text)
    (entries : List (Text × NodeRecord)) (retired : Store × Bool) :
    (entries.foldl (retireMissing active now) retired).1.incidents =
      retired.1.incidents := by
  induction entries generalizing retired with
  | nil => rfl
  | cons entry rest ih =>
      rw [List.foldl_cons, ih, retireMissing]
      split
      · rfl
      · simp only
        split <;> rfl

/-- The journal a recording leaves. -/
theorem recordAvailability_incidents (store : Store) (recordHistory : Bool)
    (saveError : Option Text) :
    let acc := pc.proxies.foldl (recordProxy options pc recordHistory now)
      { store := store }
    (store.recordAvailability options pc recordHistory now
        saveError).1.incidents =
      (pruneIncidents (updateMassIncidents acc.store.incidents
        acc.incidentProxies acc.detailsByStableID now).1).1 := by
  intro acc
  have hrecorded : (store.recorded options pc recordHistory now).1.incidents =
      (acc.finish now).1.incidents := by
    simp only [Store.recorded, retireMissing_incidents]
    rfl
  simp only [Store.recordAvailability]
  split
  · exact hrecorded
  · exact Store.save_cases (P := fun next => next.incidents = _) hrecorded
      hrecorded saveError none

end Recording

/-! ### The majorities -/

/-- The open mass incidents after a recording are those of the selected
targets, and each of the ones before is kept or resolved. -/
structure ExactMajorities (proxies : List ProxyConfig)
    (details : Text → Option ProxyStatusDetails)
    (before after : List IncidentRecord) (now : Time) : Prop where
  once : ∀ scope, (openMass after scope).length ≤ 1
  found : ∀ target : Target, target.Selected proxies details →
    ∃ incident ∈ openMass after target.scope,
      NamesMajority details (target.group proxies) incident.stableIDs
        incident.nodeNames
  explained : ∀ scope, ∀ incident ∈ openMass after scope,
    ∃! target : Target, target.Selected proxies details ∧
      target.scope = scope ∧
      NamesMajority details (target.group proxies) incident.stableIDs
        incident.nodeNames
  kept : ∀ target : Target, target.Selected proxies details →
    ∀ incident ∈ openMass before target.scope,
      ∃ later ∈ openMass after target.scope,
        later.id = incident.id ∧ later.startedAt = incident.startedAt
  ended : ∀ scope,
    (∀ target : Target, target.Selected proxies details →
      target.scope ≠ scope) →
    ∀ incident ∈ openMass before scope,
      incident.resolve now ∈ after ∨ maxIncidentRecords ≤ after.length

/-- Every selected target has a scope of its own: it is not the case that both
the nodes without a subscription and a subscription called "(unnamed)" are
selected, and no two incidents of a selected scope were open before. -/
def OwnScopes (proxies : List ProxyConfig)
    (details : Text → Option ProxyStatusDetails)
    (before : List IncidentRecord) : Prop :=
  ¬(Target.Selected proxies details (some []) ∧
      Target.Selected proxies details (some unnamedSubscription)) ∧
    ∀ target : Target, target.Selected proxies details →
      (openMass before target.scope).length ≤ 1

theorem OwnScopes.injective {proxies : List ProxyConfig}
    {details : Text → Option ProxyStatusDetails}
    {before : List IncidentRecord} (h : OwnScopes proxies details before)
    {target other : Target} (htarget : target.Selected proxies details)
    (hother : other.Selected proxies details)
    (hscope : target.scope = other.scope) : target = other := by
  rcases Target.eq_of_scope hscope with hsame | ⟨rfl, rfl⟩ | ⟨rfl, rfl⟩
  · exact hsame
  · exact absurd ⟨htarget, hother⟩ h.1
  · exact absurd ⟨hother, htarget⟩ h.1

section Correlated

variable {incidents : List IncidentRecord} {proxies : List ProxyConfig}
  {detailsByStableID : GoMap Text ProxyStatusDetails} {now : Time}

variable (incidents proxies detailsByStableID now) in
/-- The journal after the correlation and the pruning. -/
def correlated : List IncidentRecord :=
  (pruneIncidents
    (updateMassIncidents incidents proxies detailsByStableID now).1).1

theorem candidate_scopes {candidates : List MassIncidentCandidate}
    {targets : List Target}
    (h : List.Forall₂ (fun candidate target =>
      candidate.IsFor proxies detailsByStableID target) candidates targets) :
    candidates.map (·.scope) = targets.map Target.scope := by
  rw [← List.forall₂_eq_eq_eq, List.forall₂_map_left_iff,
    List.forall₂_map_right_iff]
  exact h.imp fun _ _ hfor => hfor.1

/-- The scopes of the candidates are those of the selected targets. -/
theorem mem_candidate_scopes {scope : Text} :
    scope ∈ (correlateMassIncidents proxies detailsByStableID).map (·.scope) ↔
      ∃ target : Target,
        target.Selected (namedNodes proxies) (detailsByStableID[·]?) ∧
          target.scope = scope := by
  obtain ⟨targets, candidates, -, hselected, hperm, hboth⟩ :=
    @correlateMassIncidents_selected proxies detailsByStableID
  rw [← (hperm.map _).mem_iff, candidate_scopes hboth, List.mem_map]
  simp only [hselected]

theorem exists_candidate {target : Target}
    (h : target.Selected (namedNodes proxies) (detailsByStableID[·]?)) :
    ∃ candidate ∈ correlateMassIncidents proxies detailsByStableID,
      candidate.IsFor proxies detailsByStableID target := by
  obtain ⟨targets, candidates, -, hselected, hperm, hboth⟩ :=
    @correlateMassIncidents_selected proxies detailsByStableID
  obtain ⟨candidate, hcandidate, hfor⟩ :=
    exists_of_mem_right hboth ((hselected target).mpr h)
  exact ⟨candidate, hperm.mem_iff.mp hcandidate, hfor⟩

theorem nodup_candidate_scopes
    (h : OwnScopes (namedNodes proxies) (detailsByStableID[·]?) incidents) :
    ((correlateMassIncidents proxies detailsByStableID).map
      (·.scope)).Nodup := by
  obtain ⟨targets, candidates, hnodup, hselected, hperm, hboth⟩ :=
    @correlateMassIncidents_selected proxies detailsByStableID
  rw [← (hperm.map _).nodup_iff, candidate_scopes hboth]
  apply hnodup.map_on
  intro target htarget other hother hscope
  exact h.injective ((hselected target).mp htarget)
    ((hselected other).mp hother) hscope

theorem openMass_correlated (scope : Text) :
    openMass (correlated incidents proxies detailsByStableID now) scope =
      if scope ∈ (correlateMassIncidents proxies detailsByStableID).map
          (·.scope) then
        openMass ((correlateMassIncidents proxies detailsByStableID).foldl
          (recordCandidate now) incidents) scope
      else [] := by
  rw [correlated, openMass_pruneIncidents]
  exact openMass_ended _ _

/-- Where every selected target has its own scope, its incident is the one
from before or a new one, with the nodes of the majority. -/
theorem openMass_selected
    (h : OwnScopes (namedNodes proxies) (detailsByStableID[·]?) incidents)
    {target : Target}
    (hselected : target.Selected (namedNodes proxies)
      (detailsByStableID[·]?)) :
    ∃ candidate : MassIncidentCandidate,
      candidate.IsFor proxies detailsByStableID target ∧
        openMass (correlated incidents proxies detailsByStableID now)
            target.scope =
          [takenUp now candidate (openMass incidents target.scope).getLast?] := by
  obtain ⟨candidate, hcandidate, hfor⟩ := exists_candidate hselected
  refine ⟨candidate, hfor, ?_⟩
  have hscope : target.scope ∈
      (correlateMassIncidents proxies detailsByStableID).map (·.scope) :=
    mem_candidate_scopes.mpr ⟨target, hselected, rfl⟩
  have hshort : (openMass incidents target.scope).dropLast = [] := by
    rw [← List.length_eq_zero_iff, List.length_dropLast]
    have hlength := h.2 target hselected
    omega
  rw [openMass_correlated, if_pos hscope, ← hfor.1,
    openMass_candidates_self (nodup_candidate_scopes h) hcandidate, hfor.1,
    hshort, List.nil_append]

@[simp] theorem takenUp_stableIDs (candidate : MassIncidentCandidate)
    (previous : Option IncidentRecord) :
    (takenUp now candidate previous).stableIDs = candidate.stableIDs := by
  cases previous <;> rfl

@[simp] theorem takenUp_nodeNames (candidate : MassIncidentCandidate)
    (previous : Option IncidentRecord) :
    (takenUp now candidate previous).nodeNames = candidate.nodeNames := by
  cases previous <;> rfl

theorem exactMajorities_of_ownScopes
    (h : OwnScopes (namedNodes proxies) (detailsByStableID[·]?) incidents) :
    ExactMajorities (namedNodes proxies) (detailsByStableID[·]?) incidents
      (correlated incidents proxies detailsByStableID now) now where
  once := by
    intro scope
    by_cases hscope : scope ∈
        (correlateMassIncidents proxies detailsByStableID).map (·.scope)
    · obtain ⟨target, hselected, rfl⟩ := mem_candidate_scopes.mp hscope
      obtain ⟨candidate, -, hopen⟩ := @openMass_selected _ _ _ now h _ hselected
      rw [hopen, List.length_singleton]
    · rw [openMass_correlated, if_neg hscope]
      exact Nat.zero_le _
  found := by
    intro target hselected
    obtain ⟨candidate, hfor, hopen⟩ :=
      @openMass_selected _ _ _ now h _ hselected
    refine ⟨_, hopen ▸ List.mem_singleton_self _, ?_⟩
    simpa using hfor.2
  explained := by
    intro scope incident hincident
    by_cases hscope : scope ∈
        (correlateMassIncidents proxies detailsByStableID).map (·.scope)
    · obtain ⟨target, hselected, rfl⟩ := mem_candidate_scopes.mp hscope
      obtain ⟨candidate, hfor, hopen⟩ :=
        @openMass_selected _ _ _ now h _ hselected
      rw [hopen, List.mem_singleton] at hincident
      refine ⟨target, ⟨hselected, rfl, ?_⟩, ?_⟩
      · rw [hincident]
        simpa using hfor.2
      · rintro other ⟨hother, hsame, -⟩
        exact h.injective hother hselected hsame
    · rw [openMass_correlated, if_neg hscope] at hincident
      exact absurd hincident (by simp)
  kept := by
    intro target hselected incident hincident
    obtain ⟨candidate, -, hopen⟩ := @openMass_selected _ _ _ now h _ hselected
    have honly : openMass incidents target.scope = [incident] := by
      have hlength := h.2 target hselected
      obtain ⟨other, hother⟩ := List.length_eq_one_iff.mp
        (le_antisymm hlength (List.length_pos_of_mem hincident))
      rw [hother, List.mem_singleton] at hincident
      rw [hother, hincident]
    refine ⟨_, hopen ▸ List.mem_singleton_self _, ?_⟩
    rw [honly]
    exact ⟨rfl, rfl⟩
  ended := by
    intro scope hnone incident hincident
    have hscope : scope ∉
        (correlateMassIncidents proxies detailsByStableID).map (·.scope) := by
      rw [mem_candidate_scopes]
      rintro ⟨target, hselected, hsame⟩
      exact hnone target hselected hsame
    apply mem_pruneIncidents
    rw [← @openMass_candidates_other _ now _ _ hscope, mem_openMass]
      at hincident
    simp only [updateMassIncidents, List.mem_map]
    refine ⟨incident, hincident.1, ?_⟩
    rw [if_pos ⟨hincident.2.1, hincident.2.2.2, hincident.2.2.1 ▸ hscope⟩]

/-- Two selected targets of one scope share an incident, and an incident left
over beside the one taken up stays open. -/
theorem ExactMajorities.ownScopes
    (h : ExactMajorities (namedNodes proxies) (detailsByStableID[·]?) incidents
      (correlated incidents proxies detailsByStableID now) now) :
    OwnScopes (namedNodes proxies) (detailsByStableID[·]?) incidents := by
  constructor
  · rintro ⟨hempty, hunnamed⟩
    obtain ⟨first, hfirst, hfirstNames⟩ := h.found _ hempty
    obtain ⟨second, hsecond, hsecondNames⟩ := h.found _ hunnamed
    have hscope : Target.scope (some unnamedSubscription) =
        Target.scope (some []) := by
      decide
    rw [hscope] at hsecond
    have hsame : first = second := by
      obtain ⟨only, honly⟩ := List.length_eq_one_iff.mp
        (le_antisymm (h.once _) (List.length_pos_of_mem hfirst))
      rw [honly, List.mem_singleton] at hfirst hsecond
      rw [hfirst, hsecond]
    subst hsame
    have hboth := (h.explained _ first hfirst).unique
      ⟨hempty, rfl, hfirstNames⟩ ⟨hunnamed, hscope, hsecondNames⟩
    exact absurd hboth (by decide)
  · intro target hselected
    have hscope : target.scope ∈
        (correlateMassIncidents proxies detailsByStableID).map (·.scope) :=
      mem_candidate_scopes.mpr ⟨target, hselected, rfl⟩
    have honce := h.once target.scope
    rw [openMass_correlated, if_pos hscope] at honce
    exact (length_openMass_candidates _ _ _).trans honce

end Correlated

/-! ### A recording -/

section Recorded

variable {proxies reordered : List ProxyConfig}
  {details status : Text → Option ProxyStatusDetails}
  {before after later : List IncidentRecord} {now : Time}

theorem ExactMajorities.of_status
    (hstatus : ∀ proxy ∈ proxies,
      details proxy.stableID = status proxy.stableID)
    (h : ExactMajorities proxies details before after now) :
    ExactMajorities proxies status before after now := by
  have hselected := @Target.selected_of_status details proxies status hstatus
  have hnames : ∀ (target : Target) (stableIDs nodeNames : List Text),
      NamesMajority details (target.group proxies) stableIDs nodeNames ↔
        NamesMajority status (target.group proxies) stableIDs nodeNames :=
    fun target stableIDs nodeNames => NamesMajority.of_status
      fun proxy hproxy => hstatus proxy (Target.group_subset hproxy)
  obtain ⟨honce, hfound, hexplained, hkept, hended⟩ := h
  simp only [hselected, hnames] at hfound hexplained hkept hended
  exact ⟨honce, hfound, hexplained, hkept, hended⟩

/-- Of the incidents before, only the open mass incidents count. -/
theorem ExactMajorities.of_openMass {earlier : List IncidentRecord}
    (hopen : ∀ scope, openMass earlier scope = openMass before scope)
    (h : ExactMajorities proxies details before after now) :
    ExactMajorities proxies details earlier after now where
  once := h.once
  found := h.found
  explained := h.explained
  kept := by simpa only [hopen] using h.kept
  ended := by simpa only [hopen] using h.ended

theorem OwnScopes.congr {earlier : List IncidentRecord}
    (hselected : ∀ target : Target, target.Selected proxies details ↔
      target.Selected reordered status)
    (hopen : ∀ scope, openMass earlier scope = openMass before scope) :
    OwnScopes proxies details before ↔
      OwnScopes reordered status earlier := by
  simp only [OwnScopes, hselected, hopen]

/-- The majority of a group has one list of identities. -/
theorem NamesMajority.unique {group : List ProxyConfig}
    {stableIDs nodeNames otherIDs otherNames : List Text}
    (h : NamesMajority details group stableIDs nodeNames)
    (hother : NamesMajority details group otherIDs otherNames) :
    stableIDs = otherIDs := by
  obtain ⟨code, nodes, hmost, hperm, hsorted, rfl, -⟩ := h
  obtain ⟨another, others, hmost', hperm', hsorted', rfl, -⟩ := hother
  have hcode : code = another := by
    rcases hmost.2 another with hless | ⟨-, hle⟩
    · rcases hmost'.2 code with hless' | ⟨hsame, -⟩
      · omega
      · omega
    · rcases hmost'.2 code with hless' | ⟨-, hge⟩
      · rcases hmost.2 another with hless'' | ⟨hsame, -⟩
        · omega
        · omega
      · exact le_antisymm hle hge
  subst hcode
  refine List.Perm.eq_of_pairwise' (r := (· ≤ ·)) ?_ ?_
    ((hperm.trans hperm'.symm).map _)
  · exact List.pairwise_map.mpr hsorted
  · exact List.pairwise_map.mpr hsorted'

/-- The same nodes in another order have the same open mass incidents. -/
theorem ExactMajorities.perm (hperm : reordered.Perm proxies)
    (h : ExactMajorities proxies details before after now)
    (hother : ExactMajorities reordered details before later now)
    {scope : Text} {stableIDs : List Text}
    (hopen : ∃ incident ∈ openMass after scope,
      incident.stableIDs = stableIDs) :
    ∃ incident ∈ openMass later scope, incident.stableIDs = stableIDs := by
  obtain ⟨incident, hincident, rfl⟩ := hopen
  obtain ⟨target, ⟨hselected, rfl, hnames⟩, -⟩ :=
    h.explained _ incident hincident
  obtain ⟨another, hanother, hnames'⟩ :=
    hother.found target ((Target.selected_congr hperm target).mpr hselected)
  exact ⟨another, hanother,
    (hnames'.perm (Target.group_perm hperm target)).unique hnames⟩

variable (options : Options) (store : Store) (pc : ProxyChecker)
  (recordHistory : Bool) (now : Time) (saveError : Option Text)

/-- The incidents after `recordAvailability`. -/
def recordedIncidents : List IncidentRecord :=
  (store.recordAvailability options pc recordHistory now saveError).1.incidents

/-- The open mass incidents after a recording are exactly the majorities among
the nodes the journal covers, in whatever order the checker has them. -/
def MassIncidentsExact : Prop :=
  ExactMajorities (store.journalled options pc) (statusOf options pc)
      store.incidents
      (recordedIncidents options store pc recordHistory now saveError) now ∧
    ∀ other : ProxyChecker,
      (store.journalled options other).Perm (store.journalled options pc) →
      (∀ proxy ∈ store.journalled options pc,
        statusOf options other proxy.stableID =
          statusOf options pc proxy.stableID) →
      ∀ scope stableIDs,
        (∃ incident ∈ openMass (recordedIncidents options store other
            recordHistory now saveError) scope,
          incident.stableIDs = stableIDs) ↔
        ∃ incident ∈ openMass (recordedIncidents options store pc
            recordHistory now saveError) scope,
          incident.stableIDs = stableIDs

variable {options store pc recordHistory now saveError}

/-- A recording correlates the nodes the journal covers. -/
theorem recorded_exactMajorities_iff :
    ExactMajorities (store.journalled options pc) (statusOf options pc)
        store.incidents
        (recordedIncidents options store pc recordHistory now saveError) now ↔
      OwnScopes (store.journalled options pc) (statusOf options pc)
        store.incidents := by
  have hhanded := @handed_loop options pc now store recordHistory
  have hincidents := @recordAvailability_incidents options pc now store
    recordHistory saveError
  revert hhanded hincidents
  generalize pc.proxies.foldl (recordProxy options pc recordHistory now)
    { store := store } = acc
  intro hhanded hincidents
  have hproxies : namedNodes acc.incidentProxies =
      store.journalled options pc := by
    rw [hhanded.incidentProxies]
    apply List.filter_eq_self.mpr
    intro proxy hproxy
    have hcovered := (List.mem_filter.mp hproxy).2
    simp only [Store.journals, Bool.and_eq_true] at hcovered
    exact hcovered.1.1
  have hstatus : ∀ proxy ∈ store.journalled options pc,
      acc.detailsByStableID[proxy.stableID]? =
        statusOf options pc proxy.stableID := by
    intro proxy hproxy
    rw [← hproxies] at hproxy
    have hread := hhanded.read proxy (List.mem_of_mem_filter hproxy)
    cases hknown : statusOf options pc proxy.stableID with
    | some details => exact hread details hknown
    | none =>
        cases hentry : acc.detailsByStableID[proxy.stableID]? with
        | none => rfl
        | some details =>
            have hsome := hhanded.details _ _ hentry
            rw [hknown] at hsome
            exact absurd hsome (by simp)
  have hown : OwnScopes (store.journalled options pc)
      (acc.detailsByStableID[·]?) acc.store.incidents ↔
        OwnScopes (store.journalled options pc) (statusOf options pc)
          store.incidents :=
    OwnScopes.congr (Target.selected_of_status hstatus)
      fun scope => (hhanded.openMass scope).symm
  rw [recordedIncidents, hincidents, ← hown, ← hproxies]
  constructor
  · intro h
    apply @ExactMajorities.ownScopes _ _ _ now
    refine (h.of_openMass hhanded.openMass).of_status ?_
    rw [hproxies]
    exact fun proxy hproxy => (hstatus proxy hproxy).symm
  · intro h
    refine (exactMajorities_of_ownScopes h).of_status ?_ |>.of_openMass
      fun scope => (hhanded.openMass scope).symm
    rw [hproxies]
    exact hstatus

/-- After a recording the open mass incidents are exactly the majorities if
and only if every selected target has a scope of its own. -/
theorem massIncidentsExact_iff (options : Options) (store : Store)
    (pc : ProxyChecker) (recordHistory : Bool) (now : Time)
    (saveError : Option Text) :
    MassIncidentsExact options store pc recordHistory now saveError ↔
      OwnScopes (store.journalled options pc) (statusOf options pc)
        store.incidents := by
  refine ⟨fun h => recorded_exactMajorities_iff.mp h.1, fun hown => ?_⟩
  refine ⟨recorded_exactMajorities_iff.mpr hown, ?_⟩
  intro other hperm hstatus scope stableIDs
  have hselected : ∀ target : Target,
      target.Selected (store.journalled options pc) (statusOf options pc) ↔
        target.Selected (store.journalled options other)
          (statusOf options other) := by
    intro target
    rw [← Target.selected_of_status hstatus, Target.selected_congr hperm]
  have hother : ExactMajorities (store.journalled options other)
      (statusOf options pc) store.incidents
      (recordedIncidents options store other recordHistory now saveError)
      now := by
    refine ExactMajorities.of_status ?_ (recorded_exactMajorities_iff.mpr
      ((OwnScopes.congr hselected fun _ => rfl).mp hown))
    exact fun proxy hproxy => hstatus proxy (hperm.mem_iff.mp hproxy)
  have hself := (@recorded_exactMajorities_iff options store pc recordHistory
    now saveError).mpr hown
  exact ⟨hother.perm hperm.symm hself, hself.perm hperm hother⟩

end Recorded

namespace Sample

open ProxyChecker Checker.Sample

/-- Three nodes without a subscription fail in one way, three of a
subscription called "(unnamed)" in another; a seventh is not measured yet. -/
def twoOutages : ProxyChecker :=
  let listed (subscription : Text) (stableID : Text) : ProxyConfig :=
    { node [] stableID with subName := subscription }
  let failing (code : Text) (details : GoMap Text ProxyStatusDetails)
      (stableID : Text) :=
    details.insert stableID
      { status := .offline, downSince := instant 1, checkedAt := instant 1
        failure := failureDetails code [] }
  { (new (optionsFor "status")
      ((["a1", "a2", "a3"].map (listed [])) ++
        (["b1", "b2", "b3"].map (listed unnamedSubscription)) ++
        [listed "nl" "c1"])) with
    statusDetails := ["b1", "b2", "b3"].foldl (failing failureCodeDNS)
      (["a1", "a2", "a3"].foldl (failing failureCodeTCPTimeout) ∅) }

/-- Both outages reach a majority, and share one incident. -/
theorem two_outages_share_incident :
    ¬MassIncidentsExact (optionsFor "status") {} twoOutages true (instant 2)
      none := by
  intro h
  exact (recorded_exactMajorities_iff.mp h.1).1 (by decide)

end Sample

end XrayChecker.NodeArchive

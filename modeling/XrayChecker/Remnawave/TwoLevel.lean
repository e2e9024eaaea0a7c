import XrayChecker.Remnawave.Desired
import XrayChecker.Remnawave.Tally

/-
What the states of the locations mean, whichever order the maps are iterated
in: members folded into servers, and servers into locations.
-/

namespace XrayChecker.Remnawave

open Go Checker

section Members

variable (policy : Policy) (fleet : Fleet)

/-- The node is under an active incident of the checking endpoint. -/
def UnderCheckEndpoint (stableID : Text) : Prop :=
  fleet.checkEndpointIDs[stableID]?.getD false

/-- The node is online and not under such an incident. -/
def OnlineMember (stableID : Text) : Prop :=
  ¬UnderCheckEndpoint fleet stableID ∧
    ∃ details, fleet.statuses[stableID]? = some details ∧ details.online

/-- The node has failed without a break for the outage period, often enough,
and is not under such an incident. -/
def ConfirmedFailing (stableID : Text) : Prop :=
  ¬UnderCheckEndpoint fleet stableID ∧
    ∃ details, fleet.statuses[stableID]? = some details ∧ ¬details.online ∧
      ¬details.serviceFailureSince.isZero ∧
      minutes policy.outageMinutes ≤
        fleet.now.sub details.serviceFailureSince ∧
      policy.minimumFailures ≤ fleet.observations[stableID]?.getD 0

def InMaintenance (stableID : Text) : Prop :=
  fleet.maintenance[stableID]?.getD false

/-- What a member is to its server. -/
def memberPart (stableID : Text) : Part :=
  if fleet.checkEndpointIDs[stableID]?.getD false then .ambiguous
  else
    match fleet.statuses[stableID]? with
    | none => .pending
    | some details =>
        if details.online then .healthy
        else if unconfirmed policy fleet stableID details then .pending
        else if fleet.maintenance[stableID]?.getD false then .maintenance
        else .down

theorem countMember_eq (stableID : Text) (item : Aggregate) :
    countMember policy fleet stableID item =
      count item (memberPart policy fleet stableID) := by
  rw [countMember, memberPart]
  cases fleet.statuses[stableID]? with
  | none =>
      dsimp only
      split <;> rfl
  | some details =>
      dsimp only
      split_ifs <;> rfl

theorem memberPart_eq_healthy (stableID : Text) :
    memberPart policy fleet stableID = .healthy ↔
      OnlineMember fleet stableID := by
  rw [memberPart, OnlineMember, UnderCheckEndpoint]
  cases fleet.statuses[stableID]? with
  | none =>
      dsimp only
      split <;> simp
  | some details =>
      dsimp only
      split_ifs <;> simp_all

theorem confirmed_iff (stableID : Text) (details : ProxyStatusDetails) :
    ¬unconfirmed policy fleet stableID details ↔
      ¬details.serviceFailureSince.isZero ∧
      minutes policy.outageMinutes ≤
        fleet.now.sub details.serviceFailureSince ∧
      policy.minimumFailures ≤ fleet.observations[stableID]?.getD 0 := by
  simp only [unconfirmed, Bool.or_eq_true, decide_eq_true_eq, not_or, not_lt,
    and_assoc]

theorem memberPart_failing (stableID : Text) :
    (memberPart policy fleet stableID).failing ↔
      ConfirmedFailing policy fleet stableID := by
  rw [memberPart, ConfirmedFailing, UnderCheckEndpoint]
  cases fleet.statuses[stableID]? with
  | none =>
      dsimp only
      split <;> simp [Part.failing]
  | some details =>
      have hconfirmed := confirmed_iff policy fleet stableID details
      simp only [Option.some.injEq, exists_eq_left', ← hconfirmed]
      split_ifs <;> simp_all [Part.failing]

theorem memberPart_eq_maintenance (stableID : Text) :
    memberPart policy fleet stableID = .maintenance ↔
      ConfirmedFailing policy fleet stableID ∧
        InMaintenance fleet stableID := by
  rw [← memberPart_failing, memberPart, InMaintenance]
  cases fleet.statuses[stableID]? with
  | none =>
      dsimp only
      split <;> simp [Part.failing]
  | some details =>
      dsimp only
      split_ifs <;> simp_all [Part.failing]

end Members

section Servers

variable (policy : Policy) (hosts : HostView) (fleet : Fleet)

/-- The server a member is counted on, where it is visible and known. -/
def memberServer (member : Text × Text) : Option Text :=
  match fleet.proxyByStableID[member.1]? with
  | none => none
  | some proxy =>
      if !(hosts.visibleHosts[member.2]?.getD false) ||
          !hosts.hostByUUID.contains member.2 then none
      else some (serverKey proxy member.1)

theorem foldMember_eq (servers : GoMap Text Aggregate)
    (member : Text × Text) :
    foldMember policy hosts fleet servers member =
      match memberServer hosts fleet member with
      | none => servers
      | some key =>
          servers.insert key (count (servers[key]?.getD {})
            (memberPart policy fleet member.1)) := by
  rw [foldMember, memberServer]
  cases fleet.proxyByStableID[member.1]? with
  | none => rfl
  | some proxy =>
      dsimp only
      split
      · rfl
      · dsimp only
        rw [countMember_eq]

/-- Two members can be folded in either order. -/
theorem foldMember_right_comm (servers : GoMap Text Aggregate)
    (member other : Text × Text) :
    foldMember policy hosts fleet
        (foldMember policy hosts fleet servers member) other =
      foldMember policy hosts fleet
        (foldMember policy hosts fleet servers other) member := by
  simp only [foldMember_eq]
  cases memberServer hosts fleet member with
  | none => rfl
  | some key =>
      cases memberServer hosts fleet other with
      | none => rfl
      | some key' =>
          dsimp only
          apply Std.ExtTreeMap.ext_getElem?
          intro j
          simp only [GoMap.get_insert]
          by_cases hsame : key = key'
          · subst hsame
            by_cases hj : key = j
            · simp [hj, count_right_comm]
            · simp [hj]
          · by_cases hj : key = j
            · subst hj
              simp [Ne.symm hsame]
            · by_cases hj' : key' = j
              · subst hj'
                simp [hsame]
              · simp [hj, hj']

/-- The parts counted on a server. -/
def serverParts (members : List (Text × Text)) (key : Text) : List Part :=
  (members.filter fun member => memberServer hosts fleet member = some key).map
    fun member => memberPart policy fleet member.1

theorem get_foldMember (members : List (Text × Text)) (key : Text) :
    (members.foldl (foldMember policy hosts fleet) ∅)[key]? =
      if serverParts policy hosts fleet members key = [] then none
      else some (tally (serverParts policy hosts fleet members key)) := by
  induction members using List.reverseRecOn with
  | nil => rfl
  | append_singleton members member ih =>
      rw [List.foldl_append, List.foldl_cons, List.foldl_nil, foldMember_eq]
      have hparts : serverParts policy hosts fleet (members ++ [member]) key =
          serverParts policy hosts fleet members key ++
            if memberServer hosts fleet member = some key then
              [memberPart policy fleet member.1]
            else [] := by
        rw [serverParts, List.filter_append, List.map_append, ← serverParts]
        by_cases h : memberServer hosts fleet member = some key <;> simp [h]
      rw [hparts]
      cases hserver : memberServer hosts fleet member with
      | none => simpa using ih
      | some key' =>
          dsimp only
          rw [GoMap.get_insert]
          by_cases hkey : key' = key
          · subst hkey
            rw [if_pos rfl, if_pos rfl, if_neg (by simp), ih, tally_concat]
            split
            next hnone => rw [hnone]; rfl
            · rfl
          · have hne : some key' ≠ some key := fun h => hkey (Option.some.inj h)
            rw [if_neg hkey, if_neg hne, List.append_nil]
            exact ih

end Servers

section Location

variable (policy : Policy) (hosts : HostView) (fleet : Fleet)

theorem values_eq_map_toList {V : Type} (m : GoMap Text V) :
    m.values = m.toList.map Prod.snd := by
  have hfold : m.values = m.foldr (fun _ v values => v :: values) [] := by
    obtain ⟨⟨q⟩⟩ := m
    exact Quotient.inductionOn q fun _ => rfl
  rw [hfold, Std.ExtTreeMap.foldr_eq_foldr_toList]
  induction m.toList with
  | nil => rfl
  | cons entry rest ih => simp [ih]

/-- The servers of a location. -/
def serversOf (members : List (Text × Text)) : GoMap Text Aggregate :=
  members.foldl (foldMember policy hosts fleet) ∅

theorem isEmpty_serversOf (members : List (Text × Text)) :
    (serversOf policy hosts fleet members).isEmpty ↔
      ∀ member ∈ members, memberServer hosts fleet member = none := by
  rw [Std.ExtTreeMap.isEmpty_iff]
  constructor
  · intro hempty member hmember
    by_contra hserver
    obtain ⟨key, hkey⟩ := Option.ne_none_iff_exists'.mp hserver
    have hget := get_foldMember policy hosts fleet members key
    have hmem : member ∈ members.filter
        fun member => memberServer hosts fleet member = some key :=
      List.mem_filter.mpr ⟨hmember, decide_eq_true hkey⟩
    have hne : serverParts policy hosts fleet members key ≠ [] := by
      rw [serverParts, ne_eq, List.map_eq_nil_iff]
      exact List.ne_nil_of_mem hmem
    rw [← serversOf, hempty, if_neg hne] at hget
    simp at hget
  · intro hnone
    apply Std.ExtTreeMap.ext_getElem?
    intro key
    have hnil : serverParts policy hosts fleet members key = [] := by
      rw [serverParts, List.map_eq_nil_iff, List.filter_eq_nil_iff]
      intro member hmember
      simp [hnone member hmember]
    rw [serversOf, get_foldMember, if_pos hnil]
    simp

/-- What the servers are to their location. -/
def locationParts (members : List (Text × Text)) : List Part :=
  (serversOf policy hosts fleet members).values.map
    fun server => serverPart (stateOf server)

theorem mem_locationParts (members : List (Text × Text)) (part : Part) :
    part ∈ locationParts policy hosts fleet members ↔
      ∃ key, serverParts policy hosts fleet members key ≠ [] ∧
        serverPart (stateOf
          (tally (serverParts policy hosts fleet members key))) = part := by
  rw [locationParts, values_eq_map_toList]
  simp only [List.map_map, List.mem_map, Function.comp_apply, Prod.exists,
    Std.ExtTreeMap.mem_toList_iff_getElem?_eq_some, serversOf, get_foldMember]
  constructor
  · rintro ⟨key, server, hget, rfl⟩
    split at hget
    · cases hget
    next hne =>
      obtain rfl := Option.some.inj hget
      exact ⟨key, hne, rfl⟩
  · rintro ⟨key, hne, rfl⟩
    exact ⟨key, _, if_neg hne, rfl⟩

end Location

section Orders

/-- The orders in which the loops of one call may go through their maps: the
locations, the members of each and the servers of each. -/
structure Orders (locations : GoMap Text AnnounceLocation) (policy : Policy)
    (hosts : HostView) (fleet : Fleet) where
  entries : List (Text × AnnounceLocation)
  members : Text × AnnounceLocation → List (Text × Text)
  servers : Text × AnnounceLocation → List Aggregate
  entries_perm : entries.Perm locations.toList
  members_perm : ∀ entry, (members entry).Perm entry.2.members.toList
  servers_perm : ∀ entry,
    (servers entry).Perm (serversOf policy hosts fleet (members entry)).values

variable {locations : GoMap Text AnnounceLocation} {policy : Policy}
  {hosts : HostView} {fleet : Fleet}

namespace Orders

/-- One iteration over the locations. -/
def group (orders : Orders locations policy hosts fleet)
    (entry : Text × AnnounceLocation) : Option GroupEvaluation :=
  if (serversOf policy hosts fleet (orders.members entry)).isEmpty then none
  else
    some {
      label := publicLocationLabel entry.2 entry.1
      state := stateOf ((orders.servers entry).foldl countServer {}) }

/-- `evaluateLocations` with its maps iterated in the given orders. -/
def evaluate (orders : Orders locations policy hosts fleet) :
    GoMap Text GroupEvaluation :=
  (orders.entries.filterMap fun entry =>
    (orders.group entry).map fun group => (entry.1, group)).foldl
      (fun result entry => result.insert entry.1 entry.2) ∅

theorem group_eq (orders : Orders locations policy hosts fleet)
    (entry : Text × AnnounceLocation) :
    orders.group entry =
      evaluateLocation policy hosts fleet entry.1 entry.2 := by
  have hservers : serversOf policy hosts fleet (orders.members entry) =
      serversOf policy hosts fleet entry.2.members.toList :=
    (orders.members_perm entry).foldl_eq' (fun member _ other _ servers =>
      foldMember_right_comm policy hosts fleet servers member other)
        (∅ : GoMap Text Aggregate)
  have hperm := orders.servers_perm entry
  rw [hservers] at hperm
  have hcount : (orders.servers entry).foldl countServer {} =
      (serversOf policy hosts fleet entry.2.members.toList).values.foldl
        countServer {} := by
    refine hperm.foldl_eq' (fun server _ other _ overall => ?_)
      ({} : Aggregate)
    rw [countServer_eq, countServer_eq, countServer_eq, countServer_eq,
      count_right_comm]
  rw [group, hservers, hcount]
  rfl

/-- The result is the same in every order. -/
theorem evaluate_eq (orders : Orders locations policy hosts fleet) :
    orders.evaluate = evaluateLocations locations policy hosts fleet := by
  apply Std.ExtTreeMap.ext_getElem?
  intro key
  apply Option.ext
  intro group
  have hmem : ∀ entry : Text × GroupEvaluation,
      entry ∈ (orders.entries.filterMap fun entry =>
        (orders.group entry).map fun group => (entry.1, group)) ↔
      ∃ location, locations[entry.1]? = some location ∧
        evaluateLocation policy hosts fleet entry.1 location =
          some entry.2 := by
    rintro ⟨key, group⟩
    simp only [List.mem_filterMap, Option.map_eq_some_iff, Prod.mk.injEq,
      Prod.exists, orders.entries_perm.mem_iff, group_eq,
      Std.ExtTreeMap.mem_toList_iff_getElem?_eq_some]
    constructor
    · rintro ⟨_, location, hget, _, hgroup, rfl, rfl⟩
      exact ⟨location, hget, hgroup⟩
    · rintro ⟨location, hget, hgroup⟩
      exact ⟨key, location, hget, group, hgroup, rfl, rfl⟩
  rw [evaluate, GoMap.get_foldl_insert, hmem, getElem?_evaluateLocations,
    Option.bind_eq_some_iff]
  intro entry hentry other hother hkey
  obtain ⟨location, hget, hgroup⟩ := (hmem entry).mp hentry
  obtain ⟨location', hget', hgroup'⟩ := (hmem other).mp hother
  rw [← hkey, hget] at hget'
  obtain rfl := Option.some.inj hget'
  rw [← hkey, hgroup] at hgroup'
  exact Option.some.inj hgroup'

end Orders

end Orders

section Topology

/-- A host an internal squad's subscribers see. -/
def VisibleHost (squad : InternalSquad) (host : Host) : Prop :=
  host.uuid ≠ [] ∧ host.isDisabled = false ∧ host.isHidden = false ∧
    host.configProfileInboundUUID ≠ [] ∧
    host.configProfileInboundUUID ∈ squad.inbounds ∧
    host.visibleToInternalSquad squad.uuid

/-- The only host at the node's endpoint. -/
def hostAtEndpoint (hosts : List Host) (proxy : ProxyConfig) : Text :=
  match hosts.filter fun host =>
      endpointKey host.address host.port =
        endpointKey proxy.server proxy.port with
  | [host] =>
      if endpointKey proxy.server proxy.port = [] then [] else host.uuid
  | _ => []

/-- The host a member is paired with: the one configured, or the only one at
the node's endpoint. -/
def pairedHost (hosts : List Host) (proxy : ProxyConfig) (hostUUID : Text) :
    Text :=
  if hostUUID ≠ [] then hostUUID else hostAtEndpoint hosts proxy

theorem get_visibleHostSet (squad : InternalSquad) (hosts : List Host)
    (uuid : Text) :
    (visibleHostSet squad hosts)[uuid]?.getD false ↔
      ∃ host ∈ hosts, host.uuid = uuid ∧ VisibleHost squad host := by
  rw [visibleHostSet]
  refine foldl_invariant (fun done (result : GoMap Text Bool) =>
    (result[uuid]?.getD false ↔
      ∃ host ∈ done, host.uuid = uuid ∧ VisibleHost squad host)) hosts ?_ ?_
  · simp
  intro done host result _ hresult
  have hshown : (host.uuid == [] || host.isDisabled || host.isHidden ||
      !(squad.inbounds.filter fun inbound => inbound != []).elem
        host.configProfileInboundUUID) = false ∧
      host.visibleToInternalSquad squad.uuid ↔ VisibleHost squad host := by
    simp only [VisibleHost, Bool.or_eq_false_iff, beq_eq_false_iff_ne,
      Bool.not_eq_false', List.elem_eq_mem, decide_eq_true_eq,
      List.mem_filter, bne_iff_ne]
    tauto
  have hsplit : (∃ other ∈ done ++ [host], other.uuid = uuid ∧
      VisibleHost squad other) ↔ (∃ other ∈ done, other.uuid = uuid ∧
        VisibleHost squad other) ∨ (host.uuid = uuid ∧
          VisibleHost squad host) := by
    simp only [List.mem_append, List.mem_singleton, or_and_right, exists_or,
      exists_eq_left]
  rw [hsplit, ← hresult, ← hshown]
  by_cases hskip : (host.uuid == [] || host.isDisabled || host.isHidden ||
      !(squad.inbounds.filter fun inbound => inbound != []).elem
        host.configProfileInboundUUID) = true
  · rw [if_pos hskip, hskip]
    simp
  · rw [if_neg hskip, Bool.eq_false_of_not_eq_true hskip]
    by_cases hvisible : host.visibleToInternalSquad squad.uuid = true
    · rw [if_pos hvisible, GoMap.get_insert]
      by_cases huuid : host.uuid = uuid
      · simp [huuid, hvisible]
      · simp [huuid]
    · rw [if_neg hvisible]
      simp [hvisible]

theorem contains_indexBy {T : Type} (key : T → Text) (items : List T)
    (uuid : Text) :
    (indexBy key items).contains uuid ↔ ∃ item ∈ items, key item = uuid := by
  rw [indexBy]
  refine foldl_invariant (fun done (result : GoMap Text T) =>
    (result.contains uuid ↔ ∃ item ∈ done, key item = uuid)) items
    (by simp) ?_
  intro done item result _ hresult
  rw [Std.ExtTreeMap.contains_insert, Bool.or_eq_true, hresult]
  simp only [Std.compare_beq_iff_eq, List.mem_append, List.mem_singleton,
    or_and_right, exists_or, exists_eq_left]
  exact or_comm

/-- What the index over the endpoints holds. -/
theorem get_indexEndpoint (hosts : List Host) (endpoint : Text)
    (h : endpoint ≠ []) :
    let index := hosts.foldl indexEndpoint {}
    let same := hosts.filter fun host =>
      endpointKey host.address host.port = endpoint
    index.byEndpoint[endpoint]? = same.head?.map Host.uuid ∧
      (index.ambiguous.contains endpoint ↔ 2 ≤ same.length) := by
  dsimp only
  refine foldl_invariant (fun done (index : EndpointIndex) =>
    index.byEndpoint[endpoint]? = (done.filter fun host =>
      endpointKey host.address host.port = endpoint).head?.map Host.uuid ∧
    (index.ambiguous.contains endpoint ↔ 2 ≤ (done.filter fun host =>
      endpointKey host.address host.port = endpoint).length)) hosts
    (by simp) ?_
  rintro done host ⟨byEndpoint, ambiguous⟩ _ ⟨hby, hambiguous⟩
  rw [List.filter_append, List.length_append, indexEndpoint]
  dsimp only at hby hambiguous ⊢
  by_cases hkey : endpointKey host.address host.port = endpoint
  · have hsingle : ([host].filter fun host =>
        endpointKey host.address host.port = endpoint) = [host] := by
      simp [hkey]
    rw [hsingle, hkey, if_neg h]
    generalize hsame : done.filter (fun host =>
      endpointKey host.address host.port = endpoint) = same at hby hambiguous ⊢
    cases same with
    | nil =>
        have hnone : byEndpoint.contains endpoint = false := by
          rw [Std.ExtTreeMap.contains_eq_isSome_getElem?, hby]
          rfl
        rw [hnone, if_neg Bool.false_ne_true]
        refine ⟨by simp, ?_⟩
        rw [hambiguous]
        simp
    | cons first others =>
        have hsome : byEndpoint.contains endpoint = true := by
          rw [Std.ExtTreeMap.contains_eq_isSome_getElem?, hby]
          rfl
        rw [hsome, if_pos rfl]
        refine ⟨by simpa using hby, ?_⟩
        simp
  · have hsingle : ([host].filter fun host =>
        endpointKey host.address host.port = endpoint) = [] := by
      simp [hkey]
    rw [hsingle, List.append_nil, List.length_nil, Nat.add_zero]
    split_ifs with hnil hfound
    · exact ⟨hby, hambiguous⟩
    · refine ⟨hby, ?_⟩
      rw [← hambiguous]
      simp [hkey]
    · refine ⟨?_, hambiguous⟩
      rw [← hby]
      simp [GoMap.get_insert, hkey]

theorem get_indexEndpoint_nil (hosts : List Host) :
    (hosts.foldl indexEndpoint {}).byEndpoint[([] : Text)]? = none := by
  refine foldl_invariant (fun _ (index : EndpointIndex) =>
    index.byEndpoint[([] : Text)]? = none) hosts ?_ ?_
  · simp
  intro done host index _ hindex
  rw [indexEndpoint]
  split_ifs with hnil hfound
  · exact hindex
  · exact hindex
  · rw [← hindex]
    simp [GoMap.get_insert, hnil]

/-- A member is paired as its configuration or its endpoint says. -/
theorem resolveMemberHost_eq (hosts : List Host)
    {proxies : GoMap Text ProxyConfig} {stableID : Text} {proxy : ProxyConfig}
    (h : proxies[stableID]? = some proxy) (hostUUID : Text) :
    resolveMemberHost (hosts.foldl indexEndpoint {}) proxies stableID
      hostUUID = pairedHost hosts proxy hostUUID := by
  rw [resolveMemberHost, pairedHost, h]
  dsimp only
  split
  · rfl
  · rw [hostAtEndpoint]
    by_cases hnil : endpointKey proxy.server proxy.port = []
    · rw [hnil, get_indexEndpoint_nil]
      split <;> split <;> simp
    · obtain ⟨hby, hambiguous⟩ := get_indexEndpoint hosts _ hnil
      generalize hsame : hosts.filter (fun host =>
        endpointKey host.address host.port =
          endpointKey proxy.server proxy.port) = same at hby hambiguous ⊢
      match same with
      | [] =>
          rw [if_neg (by rw [hambiguous]; simp), hby]
          rfl
      | [host] =>
          rw [if_neg (by rw [hambiguous]; simp), hby]
          exact (if_neg hnil).symm
      | _ :: _ :: _ => rw [if_pos (hambiguous.mpr (by simp))]

end Topology

section Claims

variable (policy : Policy) (topology : Topology)
  (locations : GoMap Text AnnounceLocation) (fleet : Fleet)
  (squad : InternalSquad) (key : Text)

/-- The node is a member of the location whose host the squad sees. -/
def Shown (stableID : Text) (proxy : ProxyConfig) : Prop :=
  ∃ location hostUUID, locations[key]? = some location ∧
    location.members[stableID]? = some hostUUID ∧
    fleet.proxyByStableID[stableID]? = some proxy ∧
    ∃ host ∈ topology.hosts,
      host.uuid = pairedHost topology.hosts proxy hostUUID ∧
      VisibleHost squad host

/-- Some member of the server is online. -/
def ServerUp (serverOf : ProxyConfig → Text → Text) (server : Text) : Prop :=
  ∃ stableID proxy, Shown topology locations fleet squad key stableID proxy ∧
    serverOf proxy stableID = server ∧ OnlineMember fleet stableID

/-- Every member of the server is confirmed failing, and it has some. -/
def ServerLost (serverOf : ProxyConfig → Text → Text) (server : Text) :
    Prop :=
  (∃ stableID proxy, Shown topology locations fleet squad key stableID proxy ∧
    serverOf proxy stableID = server) ∧
  ∀ stableID proxy, Shown topology locations fleet squad key stableID proxy →
    serverOf proxy stableID = server → ConfirmedFailing policy fleet stableID

/-- The states of a location as the two levels give them, its members grouped
by `serverOf`. -/
structure TwoLevel (serverOf : ProxyConfig → Text → Text)
    (result : Option GroupEvaluation) : Prop where
  absent : result = none ↔
    ¬∃ stableID proxy, Shown topology locations fleet squad key stableID proxy
  healthy : result.map GroupEvaluation.state = some .groupHealthy ↔
    (∃ server, ServerUp topology locations fleet squad key serverOf server) ∧
      ¬∃ server,
        ServerLost policy topology locations fleet squad key serverOf server
  partly : result.map GroupEvaluation.state = some .groupPartial ↔
    ∃ server other, server ≠ other ∧
      ServerUp topology locations fleet squad key serverOf server ∧
      ServerLost policy topology locations fleet squad key serverOf other
  lost : result.map GroupEvaluation.state = some .groupDown ∨
      result.map GroupEvaluation.state = some .groupMaintenance →
    ∀ stableID proxy,
      Shown topology locations fleet squad key stableID proxy →
        ConfirmedFailing policy fleet stableID
  maintenance : result.map GroupEvaluation.state = some .groupMaintenance ↔
    (∃ stableID proxy,
      Shown topology locations fleet squad key stableID proxy) ∧
    ∀ stableID proxy,
      Shown topology locations fleet squad key stableID proxy →
        ConfirmedFailing policy fleet stableID ∧ InMaintenance fleet stableID
  otherwise : result.map GroupEvaluation.state = some .groupPending ∨
      result.map GroupEvaluation.state = some .groupAmbiguous ↔
    (∃ stableID proxy,
      Shown topology locations fleet squad key stableID proxy) ∧
    (¬∃ server, ServerUp topology locations fleet squad key serverOf server) ∧
    ¬∀ stableID proxy,
      Shown topology locations fleet squad key stableID proxy →
        ConfirmedFailing policy fleet stableID

variable {policy topology locations fleet squad key}

/-- The view a squad has of the topology. -/
def hostView (topology : Topology) (squad : InternalSquad) : HostView where
  visibleHosts := visibleHostSet squad topology.hosts
  hostByUUID := indexBy Host.uuid topology.hosts

theorem memberServer_eq_some {member : Text × Text} {server : Text} :
    memberServer (hostView topology squad) fleet member = some server ↔
      ∃ proxy, fleet.proxyByStableID[member.1]? = some proxy ∧
        (∃ host ∈ topology.hosts, host.uuid = member.2 ∧
          VisibleHost squad host) ∧ serverKey proxy member.1 = server := by
  rw [memberServer]
  cases fleet.proxyByStableID[member.1]? with
  | none => simp
  | some proxy =>
      have hvisible := get_visibleHostSet squad topology.hosts member.2
      have hknown := contains_indexBy Host.uuid topology.hosts member.2
      simp only [Option.some.injEq, exists_eq_left', ← hvisible]
      split
      next hhidden =>
        rw [Bool.or_eq_true, Bool.not_eq_true', Bool.not_eq_true'] at hhidden
        refine ⟨fun h => (by cases h), ?_⟩
        rintro ⟨h, -⟩
        rcases hhidden with hnone | hnone
        · rw [show (visibleHostSet squad topology.hosts)[member.2]?.getD
            false = false from hnone] at h
          cases h
        · obtain ⟨host, hhost, huuid, -⟩ := hvisible.mp h
          rw [show (indexBy Host.uuid topology.hosts).contains member.2 =
            false from hnone] at hknown
          exact absurd (hknown.mpr ⟨host, hhost, huuid⟩) (by decide)
      next hshown =>
        rw [Bool.or_eq_true, not_or, Bool.not_eq_true', Bool.not_eq_false,
          hostView] at hshown
        constructor
        · intro h
          exact ⟨hshown.1, Option.some.inj h⟩
        · rintro ⟨-, rfl⟩
          rfl

/-- The parts of a server are what its members shown to the squad are. -/
theorem mem_serverParts {location : AnnounceLocation}
    (hlocation : locations[key]? = some location) (server : Text)
    (part : Part) :
    part ∈ serverParts policy (hostView topology squad) fleet
        (location.members.map (resolveMemberHost
          (topology.hosts.foldl indexEndpoint {})
          fleet.proxyByStableID)).toList server ↔
      ∃ stableID proxy,
        Shown topology locations fleet squad key stableID proxy ∧
        serverKey proxy stableID = server ∧
        memberPart policy fleet stableID = part := by
  simp only [serverParts, List.mem_map, List.mem_filter, decide_eq_true_eq,
    Prod.exists, memberServer_eq_some,
    Std.ExtTreeMap.mem_toList_iff_getElem?_eq_some,
    Std.ExtTreeMap.getElem?_map, Option.map_eq_some_iff]
  constructor
  · rintro ⟨stableID, uuid, ⟨⟨hostUUID, hmember, huuid⟩, proxy, hproxy,
      hhost, hserver⟩, hpart⟩
    rw [resolveMemberHost_eq topology.hosts hproxy] at huuid
    subst huuid
    exact ⟨stableID, proxy, ⟨location, hostUUID, hlocation, hmember, hproxy,
      hhost⟩, hserver, hpart⟩
  · rintro ⟨stableID, proxy, ⟨location', hostUUID, hlocation', hmember, hproxy,
      hhost⟩, hserver, hpart⟩
    rw [hlocation] at hlocation'
    obtain rfl := Option.some.inj hlocation'
    exact ⟨stableID, _, ⟨⟨hostUUID, hmember, rfl⟩, proxy, hproxy,
      resolveMemberHost_eq topology.hosts hproxy hostUUID ▸ hhost, hserver⟩,
      hpart⟩

/-- The members of a location with their hosts resolved. -/
def resolvedMembers (topology : Topology) (fleet : Fleet)
    (location : AnnounceLocation) : List (Text × Text) :=
  (location.members.map (resolveMemberHost
    (topology.hosts.foldl indexEndpoint {}) fleet.proxyByStableID)).toList

section Parts

variable {location : AnnounceLocation}

theorem serverParts_ne_nil (hlocation : locations[key]? = some location)
    (server : Text) :
    serverParts policy (hostView topology squad) fleet
        (resolvedMembers topology fleet location) server ≠ [] ↔
      ∃ stableID proxy,
        Shown topology locations fleet squad key stableID proxy ∧
        serverKey proxy stableID = server := by
  constructor
  · intro hne
    obtain ⟨part, hpart⟩ := List.exists_mem_of_ne_nil _ hne
    obtain ⟨stableID, proxy, hshown, hserver, -⟩ :=
      (mem_serverParts hlocation server part).mp hpart
    exact ⟨stableID, proxy, hshown, hserver⟩
  · rintro ⟨stableID, proxy, hshown, hserver⟩
    exact List.ne_nil_of_mem ((mem_serverParts hlocation server _).mpr
      ⟨stableID, proxy, hshown, hserver, rfl⟩)

theorem healthy_mem_locationParts
    (hlocation : locations[key]? = some location) :
    .healthy ∈ locationParts policy (hostView topology squad) fleet
        (resolvedMembers topology fleet location) ↔
      ∃ server, ServerUp topology locations fleet squad key serverKey
        server := by
  simp only [mem_locationParts, serverPart_eq_healthy, stateOf_up]
  refine exists_congr fun server => ?_
  rw [and_iff_right_of_imp fun h => List.ne_nil_of_mem h, resolvedMembers,
    mem_serverParts hlocation, ServerUp]
  simp only [memberPart_eq_healthy]

theorem failing_mem_locationParts
    (hlocation : locations[key]? = some location) :
    (∃ part ∈ locationParts policy (hostView topology squad) fleet
        (resolvedMembers topology fleet location), part.failing) ↔
      ∃ server, ServerLost policy topology locations fleet squad key serverKey
        server := by
  have hpart : ∀ server, (serverPart (stateOf (tally (serverParts policy
      (hostView topology squad) fleet (resolvedMembers topology fleet location)
        server)))).failing ↔ ∀ stableID proxy,
      Shown topology locations fleet squad key stableID proxy →
        serverKey proxy stableID = server →
          ConfirmedFailing policy fleet stableID := by
    intro server
    rw [serverPart_failing, stateOf_lost]
    simp only [resolvedMembers, mem_serverParts hlocation]
    constructor
    · intro h stableID proxy hshown hserver
      exact (memberPart_failing policy fleet stableID).mp
        (h _ ⟨stableID, proxy, hshown, hserver, rfl⟩)
    · rintro h _ ⟨stableID, proxy, hshown, hserver, rfl⟩
      exact (memberPart_failing policy fleet stableID).mpr
        (h stableID proxy hshown hserver)
  constructor
  · rintro ⟨_, hmem, hfailing⟩
    obtain ⟨server, hne, rfl⟩ := (mem_locationParts ..).mp hmem
    exact ⟨server, (serverParts_ne_nil hlocation server).mp hne,
      (hpart server).mp hfailing⟩
  · rintro ⟨server, hsome, hall⟩
    exact ⟨_, (mem_locationParts ..).mpr
      ⟨server, (serverParts_ne_nil hlocation server).mpr hsome, rfl⟩,
      (hpart server).mpr hall⟩

theorem all_failing_locationParts
    (hlocation : locations[key]? = some location) :
    (∀ part ∈ locationParts policy (hostView topology squad) fleet
        (resolvedMembers topology fleet location), part.failing) ↔
      ∀ stableID proxy,
        Shown topology locations fleet squad key stableID proxy →
          ConfirmedFailing policy fleet stableID := by
  constructor
  · intro h stableID proxy hshown
    have hmem := (mem_serverParts hlocation (serverKey proxy stableID)
      (memberPart policy fleet stableID)).mpr
        ⟨stableID, proxy, hshown, rfl, rfl⟩
    have hserver := h _ ((mem_locationParts ..).mpr
      ⟨serverKey proxy stableID, List.ne_nil_of_mem hmem, rfl⟩)
    rw [serverPart_failing, stateOf_lost] at hserver
    exact (memberPart_failing policy fleet stableID).mp (hserver _ hmem)
  · intro h part hpart
    obtain ⟨server, -, rfl⟩ := (mem_locationParts ..).mp hpart
    rw [serverPart_failing, stateOf_lost]
    intro part hpart
    obtain ⟨stableID, proxy, hshown, -, rfl⟩ :=
      (mem_serverParts hlocation server part).mp hpart
    exact (memberPart_failing policy fleet stableID).mpr
      (h stableID proxy hshown)

theorem all_maintenance_locationParts
    (hlocation : locations[key]? = some location) :
    (∀ part ∈ locationParts policy (hostView topology squad) fleet
        (resolvedMembers topology fleet location), part = .maintenance) ↔
      ∀ stableID proxy,
        Shown topology locations fleet squad key stableID proxy →
          ConfirmedFailing policy fleet stableID ∧
            InMaintenance fleet stableID := by
  constructor
  · intro h stableID proxy hshown
    have hmem := (mem_serverParts hlocation (serverKey proxy stableID)
      (memberPart policy fleet stableID)).mpr
        ⟨stableID, proxy, hshown, rfl, rfl⟩
    have hserver := h _ ((mem_locationParts ..).mpr
      ⟨serverKey proxy stableID, List.ne_nil_of_mem hmem, rfl⟩)
    rw [serverPart_eq_maintenance, stateOf_eq_groupMaintenance] at hserver
    exact (memberPart_eq_maintenance policy fleet stableID).mp
      (hserver _ hmem)
  · intro h part hpart
    obtain ⟨server, -, rfl⟩ := (mem_locationParts ..).mp hpart
    rw [serverPart_eq_maintenance, stateOf_eq_groupMaintenance]
    intro part hpart
    obtain ⟨stableID, proxy, hshown, -, rfl⟩ :=
      (mem_serverParts hlocation server part).mp hpart
    exact (memberPart_eq_maintenance policy fleet stableID).mpr
      (h stableID proxy hshown)

theorem isEmpty_serversOf_resolved
    (hlocation : locations[key]? = some location) :
    (serversOf policy (hostView topology squad) fleet
        (resolvedMembers topology fleet location)).isEmpty ↔
      ¬∃ stableID proxy,
        Shown topology locations fleet squad key stableID proxy := by
  rw [isEmpty_serversOf, ← not_iff_not, not_not]
  constructor
  · intro h
    simp only [not_forall] at h
    obtain ⟨member, hmember, hserver⟩ := h
    obtain ⟨server, hserver⟩ := Option.ne_none_iff_exists'.mp hserver
    have hmem : memberPart policy fleet member.1 ∈ serverParts policy
        (hostView topology squad) fleet
        (resolvedMembers topology fleet location) server :=
      List.mem_map_of_mem
        (List.mem_filter.mpr ⟨hmember, decide_eq_true hserver⟩)
    obtain ⟨stableID, proxy, hshown, -⟩ :=
      (mem_serverParts hlocation server _).mp hmem
    exact ⟨stableID, proxy, hshown⟩
  · rintro ⟨stableID, proxy, hshown⟩ hnone
    have hmem := (mem_serverParts hlocation (serverKey proxy stableID)
      (memberPart policy fleet stableID)).mpr
        ⟨stableID, proxy, hshown, rfl, rfl⟩
    obtain ⟨member, hmember, -⟩ := List.mem_map.mp hmem
    obtain ⟨hin, hserver⟩ := List.mem_filter.mp hmember
    rw [hnone member hin] at hserver
    exact absurd hserver (by simp)

end Parts

/-- No server is up and lost. -/
theorem not_up_and_lost {server : Text}
    (hup : ServerUp topology locations fleet squad key serverKey server)
    (hlost : ServerLost policy topology locations fleet squad key serverKey
      server) : False := by
  obtain ⟨stableID, proxy, hshown, hserver, -, details, hdetails, honline⟩ :=
    hup
  obtain ⟨-, details', hdetails', hoffline, -⟩ :=
    hlost.2 stableID proxy hshown hserver
  rw [hdetails] at hdetails'
  obtain rfl := Option.some.inj hdetails'
  exact hoffline honline

/-- Where the squad sees no member, the location is not evaluated. -/
theorem twoLevel_none
    (hnone : ¬∃ stableID proxy,
      Shown topology locations fleet squad key stableID proxy) :
    TwoLevel policy topology locations fleet squad key serverKey none where
  absent := iff_of_true rfl hnone
  healthy := by
    refine iff_of_false (by simp) ?_
    rintro ⟨⟨server, stableID, proxy, hshown, -⟩, -⟩
    exact hnone ⟨stableID, proxy, hshown⟩
  partly := by
    refine iff_of_false (by simp) ?_
    rintro ⟨server, other, -, ⟨stableID, proxy, hshown, -⟩, -⟩
    exact hnone ⟨stableID, proxy, hshown⟩
  lost := by simp
  maintenance := iff_of_false (by simp) fun h => hnone h.1
  otherwise := iff_of_false (by simp) fun h => hnone h.1

/-- A location as the code evaluates it is what its two levels make of it. -/
theorem twoLevel_evaluateLocation {location : AnnounceLocation}
    (hlocation : locations[key]? = some location) :
    TwoLevel policy topology locations fleet squad key serverKey
      (evaluateLocation policy (hostView topology squad) fleet key
        { location with
          members := location.members.map (resolveMemberHost
            (topology.hosts.foldl indexEndpoint {})
            fleet.proxyByStableID) }) := by
  have hempty := @isEmpty_serversOf_resolved policy topology locations fleet
    squad key location hlocation
  have hhealthy := @healthy_mem_locationParts policy topology locations fleet
    squad key location hlocation
  have hfailing := @failing_mem_locationParts policy topology locations fleet
    squad key location hlocation
  have hall := @all_failing_locationParts policy topology locations fleet
    squad key location hlocation
  have hmaintenance := @all_maintenance_locationParts policy topology
    locations fleet squad key location hlocation
  rw [evaluateLocation]
  dsimp only
  rw [foldl_countServer]
  change TwoLevel policy topology locations fleet squad key serverKey
    (if (serversOf policy (hostView topology squad) fleet
        (resolvedMembers topology fleet location)).isEmpty then none
      else some { label := _, state := stateOf (tally (locationParts policy
        (hostView topology squad) fleet
        (resolvedMembers topology fleet location))) })
  generalize locationParts policy (hostView topology squad) fleet
    (resolvedMembers topology fleet location) = parts at *
  split
  next hnone => exact twoLevel_none (hempty.mp hnone)
  next hsome =>
    have hshown : ∃ stableID proxy,
        Shown topology locations fleet squad key stableID proxy := by
      by_contra hnone
      exact hsome (hempty.mpr hnone)
    have hup := @stateOf_up parts
    have hlost := @stateOf_lost parts
    refine ⟨by simp [hshown], ?_, ?_, ?_, ?_, ?_⟩
    · rw [Option.map_some, Option.some.injEq, stateOf_eq_groupHealthy,
        hhealthy, hfailing]
    · rw [Option.map_some, Option.some.injEq, stateOf_eq_groupPartial,
        hhealthy, hfailing]
      constructor
      · rintro ⟨⟨server, hserver⟩, other, hother⟩
        refine ⟨server, other, ?_, hserver, hother⟩
        rintro rfl
        exact not_up_and_lost hserver hother
      · rintro ⟨server, other, -, hserver, hother⟩
        exact ⟨⟨server, hserver⟩, other, hother⟩
    · rw [Option.map_some, Option.some.injEq, Option.some.injEq, hlost, hall]
      exact id
    · rw [Option.map_some, Option.some.injEq, stateOf_eq_groupMaintenance,
        hmaintenance, and_iff_right hshown]
    · rw [Option.map_some, Option.some.injEq, Option.some.injEq,
        and_iff_right hshown, ← hall, ← hhealthy, ← hlost, ← hup]
      cases stateOf (tally parts) <;> simp

theorem groups_get (policy : Policy) (topology : Topology)
    (locations : GoMap Text AnnounceLocation) (fleet : Fleet)
    (squad : InternalSquad) (key : Text) :
    ((indexAudience topology locations fleet).groups policy fleet squad)[key]? =
      locations[key]?.bind fun location =>
        evaluateLocation policy (hostView topology squad) fleet key
          { location with
            members := location.members.map (resolveMemberHost
              (topology.hosts.foldl indexEndpoint {})
              fleet.proxyByStableID) } := by
  rw [Audience.groups, getElem?_evaluateLocations]
  change (resolveMemberHosts locations fleet.proxyByStableID
    topology.hosts)[key]?.bind _ = _
  rw [resolveMemberHosts, Std.ExtTreeMap.getElem?_map, Option.bind_map]
  rfl

/-- The state of every location is the two-level fold over its members, those
with an address grouped by it and the others standing alone, in whatever order
the maps are iterated. -/
theorem locations_twoLevel (policy : Policy) (topology : Topology)
    (locations : GoMap Text AnnounceLocation) (fleet : Fleet)
    (squad : InternalSquad) (key : Text) :
    TwoLevel policy topology locations fleet squad key serverKey
        ((indexAudience topology locations fleet).groups policy fleet
          squad)[key]? ∧
      ∀ orders : Orders (indexAudience topology locations fleet).locations
          policy (hostView topology squad) fleet,
        orders.evaluate =
          (indexAudience topology locations fleet).groups policy fleet
            squad := by
  refine ⟨?_, fun orders => orders.evaluate_eq⟩
  rw [groups_get]
  cases hlocation : locations[key]? with
  | some location => exact twoLevel_evaluateLocation hlocation
  | none =>
      refine twoLevel_none ?_
      rintro ⟨stableID, proxy, location, hostUUID, hget, -⟩
      rw [hlocation] at hget
      cases hget

end Claims

section Addressless

/-- Two nodes without an address, one online and one failing. -/
def addresslessFleet : Fleet where
  proxyByStableID :=
    ((∅ : GoMap Text ProxyConfig).insert "up" {}).insert "down" {}
  statuses := ((∅ : GoMap Text ProxyStatusDetails).insert "up"
    { online := true, status := .online }).insert "down"
      { status := .offline, failingSince := 1 }
  now := 2

def addresslessTopology : Topology where
  hosts := [{ uuid := "host", configProfileInboundUUID := "inbound" }]

def addresslessLocations : GoMap Text AnnounceLocation :=
  (∅ : GoMap Text AnnounceLocation).insert "location"
    { members :=
        ((∅ : GoMap Text Text).insert "up" "host").insert "down" "host" }

/-- Two nodes without an address are two servers, not one. -/
theorem addressless_not_one_server :
    ¬TwoLevel {} addresslessTopology addresslessLocations addresslessFleet
      { uuid := "squad", inbounds := ["inbound"] } "location"
      (fun proxy _ => toLower (trimSpace proxy.server))
      ((indexAudience addresslessTopology addresslessLocations
        addresslessFleet).groups {} addresslessFleet
          { uuid := "squad", inbounds := ["inbound"] })["location".toList]? := by
  intro h
  have hpartial : (((indexAudience addresslessTopology addresslessLocations
      addresslessFleet).groups {} addresslessFleet
        { uuid := "squad", inbounds := ["inbound"] })[
          "location".toList]?).map GroupEvaluation.state =
            some .groupPartial := by
    decide +kernel
  obtain ⟨server, other, hne, ⟨stableID, proxy, hshown, hserver, -⟩,
    ⟨stableID', proxy', hshown', hother⟩, -⟩ := h.partly.mp hpartial
  have hblank : ∀ (stableID : Text) (proxy : ProxyConfig),
      addresslessFleet.proxyByStableID[stableID]? = some proxy →
        proxy = {} := by
    intro stableID proxy hget
    rw [addresslessFleet] at hget
    simp only [GoMap.get_insert] at hget
    split_ifs at hget
    · exact (Option.some.inj hget).symm
    · exact (Option.some.inj hget).symm
    · simp at hget
  obtain ⟨_, _, -, -, hproxy, -⟩ := hshown
  obtain ⟨_, _, -, -, hproxy', -⟩ := hshown'
  rw [hblank stableID proxy hproxy] at hserver
  rw [hblank stableID' proxy' hproxy'] at hother
  exact hne (hserver.symm.trans hother)

end Addressless

end XrayChecker.Remnawave

import XrayChecker.Go.Map
import XrayChecker.Go.MostFrequent
import XrayChecker.Go.Paired
import XrayChecker.Telegram.Alerts

/-
Which of the due alerts are sent as one mass failure: the groups that
`partitionMassNodeDownAlerts` forms, and the alerts that remain.
-/

namespace XrayChecker.Telegram

open Go Checker

/-- The code alerts are grouped by. -/
def NodeDownAlert.causeCode (alert : NodeDownAlert) : Text :=
  if alert.state.failure.code = [] then failureCodeUnknown
  else alert.state.failure.code

/-- `telegramLikelySharedCheckEndpoint`. -/
def telegramLikelySharedCheckEndpoint (code : Text)
    (alerts : List NodeDownAlert) : Bool :=
  if code = failureCodeDNS ∨ code = failureCodeHTTPStatus ∨
      code = failureCodeProxyTimeout ∨ code = failureCodeTLS then
    alerts.all (fun alert => alert.state.hostCheck.checked &&
      alert.state.hostCheck.online) &&
      2 ≤ (alerts.map (·.proxy.server)).dedup.length
  else false

/-- The cause a group shows. -/
def groupCause (scope code : Text) (selected : List NodeDownAlert) :
    FailureDetails :=
  let cause := (selected.head?.map (·.state.failure)).getD {}
  let cause := if cause.code = [] then { cause with code := code } else cause
  let cause :=
    if cause.summary = [] then
      { cause with summary := failureSummary cause.code }
    else cause
  if scope = "global" ∧ telegramLikelySharedCheckEndpoint code selected then
    { code := failureCodeCheckEndpoint
      summary := "Вероятен общий сбой проверочного endpoint"
      detail := "одинаковая ошибка проверки при доступных TCP-портах разных нод" }
  else cause

/-- `buildMassNodeDownGroup`. -/
def buildMassNodeDownGroup (scope subscription : Text)
    (alerts : List NodeDownAlert) (total : Nat) :
    Option NodeDownIncidentGroup :=
  let required := max 3 ((total + 1) / 2)
  if total = 0 ∨ alerts.length < required then none
  else
    (mostFrequent required NodeDownAlert.causeCode alerts).map fun code =>
      let selected := (alerts.filter (·.causeCode = code)).insertionSort
        fun a b => a.proxy.name ≤ b.proxy.name
      { scope := scope
        subscription := subscription
        alerts := selected
        total := total
        cause := groupCause scope code selected }

/-- The nodes a failure could be reported of. -/
def alertable (proxies : List ProxyConfig) (monitored muted : GoMap Text Bool) :
    List ProxyConfig :=
  proxies.filter fun proxy =>
    !(muted[proxy.stableID]?).getD false &&
      (monitored.isEmpty || (monitored[proxy.stableID]?).getD false)

/-- The scope of the alerts of a subscription. -/
def subscriptionAlertScope (subscription : Text) : Text :=
  if subscription = [] then "subscription:(unnamed)"
  else "subscription:" ++ subscription

/-- The groups of `partitionMassNodeDownAlerts`. -/
def massNodeDownGroups (alerts : List NodeDownAlert)
    (alertable : List ProxyConfig) : List NodeDownIncidentGroup :=
  match buildMassNodeDownGroup "global" [] alerts alertable.length with
  | some group => [group]
  | none =>
      (sortStrings (alerts.map (·.proxy.subName)).dedup).filterMap
        fun subscription =>
          buildMassNodeDownGroup (subscriptionAlertScope subscription)
            subscription (alerts.filter (·.proxy.subName = subscription))
            (alertable.filter (·.subName = subscription)).length

/-- `partitionMassNodeDownAlerts`, of alerts that all have a node. -/
def partitionMassNodeDownAlerts (alerts : List NodeDownAlert)
    (proxies : List ProxyConfig) (monitored muted : GoMap Text Bool) :
    List NodeDownIncidentGroup × List NodeDownAlert :=
  let groups := massNodeDownGroups alerts (alertable proxies monitored muted)
  let grouped := (groups.flatMap (·.alerts)).map (·.proxy.stableID)
  (groups, alerts.filter fun alert => alert.proxy.stableID ∉ grouped)

/-! ### What a group is of -/

/-- What a group covers: all nodes, or those of a subscription. -/
abbrev AlertScope := Option Text

namespace AlertScope

/-- The due alerts of the scope. -/
def due (alerts : List NodeDownAlert) : AlertScope → List NodeDownAlert
  | none => alerts
  | some subscription => alerts.filter (·.proxy.subName = subscription)

/-- The nodes of the scope. -/
def nodes (alertable : List ProxyConfig) : AlertScope → List ProxyConfig
  | none => alertable
  | some subscription => alertable.filter (·.subName = subscription)

end AlertScope

/-- The group is the one of the scope. -/
def NodeDownIncidentGroup.IsOf (group : NodeDownIncidentGroup)
    (scope : AlertScope) : Prop :=
  match scope with
  | none => group.scope = ("global" : Text) ∧ group.subscription = []
  | some subscription =>
      group.scope = subscriptionAlertScope subscription ∧
        group.subscription = subscription

/-- The alerts a code is shared by. -/
def sharing (alerts : List NodeDownAlert) (code : Text) :
    List NodeDownAlert :=
  alerts.filter (·.causeCode = code)

/-- At least three of the alerts, and as many as half of the nodes, share a
failure code. -/
def SharesCode (alerts : List NodeDownAlert) (total : Nat) : Prop :=
  ∃ code, max 3 ((total + 1) / 2) ≤ (sharing alerts code).length

/-- A group is to be formed of the scope, where scopes with so many nodes are
admitted: globally first, else of a subscription. -/
def GroupFormed (admits : Nat → Prop) (alerts : List NodeDownAlert)
    (alertable : List ProxyConfig) : AlertScope → Prop
  | none => admits alertable.length ∧ SharesCode alerts alertable.length
  | some subscription =>
      ¬(admits alertable.length ∧ SharesCode alerts alertable.length) ∧
        admits (AlertScope.nodes alertable (some subscription)).length ∧
          SharesCode (AlertScope.due alerts (some subscription))
            (AlertScope.nodes alertable (some subscription)).length

/-- The groups of a partition: of exactly the scopes a group is to be formed
of, with one code each, and with the same members in any order of the alerts
and the nodes. -/
structure MassPartition (admits : Nat → Prop) (alerts : List NodeDownAlert)
    (proxies : List ProxyConfig) (monitored muted : GoMap Text Bool) :
    Prop where
  /-- Every alert is in one group, or remains. -/
  complete :
    let parts := partitionMassNodeDownAlerts alerts proxies monitored muted
    (parts.1.flatMap (·.alerts) ++ parts.2).Perm alerts
  formed : ∀ scope : AlertScope,
    (∃ group ∈ (partitionMassNodeDownAlerts alerts proxies monitored muted).1,
      group.IsOf scope) ↔
      GroupFormed admits alerts (alertable proxies monitored muted) scope
  inScope : ∀ group ∈
    (partitionMassNodeDownAlerts alerts proxies monitored muted).1,
    ∃ scope : AlertScope, group.IsOf scope ∧
      ∀ alert ∈ group.alerts, alert ∈ scope.due alerts
  once : ((partitionMassNodeDownAlerts alerts proxies monitored muted).1.map
    fun group => (group.scope, group.subscription)).Nodup
  oneCode : ∀ group ∈
    (partitionMassNodeDownAlerts alerts proxies monitored muted).1,
    ∃ code, ∀ alert ∈ group.alerts, alert.causeCode = code
  anyOrder : ∀ alerts' proxies', alerts'.Perm alerts → proxies'.Perm proxies →
    ∀ group ∈ (partitionMassNodeDownAlerts alerts proxies monitored muted).1,
      ∃ other ∈
        (partitionMassNodeDownAlerts alerts' proxies' monitored muted).1,
        other.scope = group.scope ∧ other.subscription = group.subscription ∧
          other.alerts.Perm group.alerts

section Groups

variable {alerts : List NodeDownAlert} {proxies nodes : List ProxyConfig}
  {monitored muted : GoMap Text Bool}

/-- The most frequent of the codes that enough alerts share. -/
def MostShared (alerts : List NodeDownAlert) (total : Nat) (code : Text) :
    Prop :=
  max 3 ((total + 1) / 2) ≤ (sharing alerts code).length ∧
    ∀ other,
      (sharing alerts other).length < (sharing alerts code).length ∨
        (sharing alerts other).length = (sharing alerts code).length ∧
          code ≤ other

/-- A group is formed where a code is shared, of the alerts with the most
shared one. -/
theorem buildMassNodeDownGroup_shared (scope subscription : Text)
    (alerts : List NodeDownAlert) (total : Nat) :
    match buildMassNodeDownGroup scope subscription alerts total with
    | none => ¬(0 < total ∧ SharesCode alerts total)
    | some group =>
        0 < total ∧ group.scope = scope ∧ group.subscription = subscription ∧
          ∃ code, MostShared alerts total code ∧
            group.alerts.Perm (sharing alerts code) := by
  have hchosen := @mostFrequent_spec _ (max 3 ((total + 1) / 2))
    NodeDownAlert.causeCode alerts (by omega)
  simp only [buildMassNodeDownGroup]
  by_cases hfew : total = 0 ∨ alerts.length < max 3 ((total + 1) / 2)
  · rw [if_pos hfew]
    rintro ⟨hsome, code, hshared⟩
    have hmembers : (sharing alerts code).length ≤ alerts.length :=
      List.length_filter_le _ _
    omega
  · rw [if_neg hfew]
    cases hselected : mostFrequent (max 3 ((total + 1) / 2))
        NodeDownAlert.causeCode alerts with
    | none =>
        simp only [hselected] at hchosen
        rintro ⟨-, code, hshared⟩
        exact absurd hshared (Nat.not_le.mpr (hchosen code))
    | some code =>
        simp only [hselected] at hchosen
        exact ⟨by omega, rfl, rfl, code, hchosen,
          List.perm_insertionSort _ _⟩

theorem MostShared.sharesCode {total : Nat} {code : Text}
    (h : MostShared alerts total code) : SharesCode alerts total :=
  ⟨code, h.1⟩

theorem MostShared.unique {total : Nat} {code other : Text}
    (h : MostShared alerts total code) (hother : MostShared alerts total other) :
    code = other := by
  rcases h.2 other with hless | ⟨hsame, hle⟩
  · rcases hother.2 code with hless' | ⟨hsame', -⟩
    · omega
    · omega
  · rcases hother.2 code with hless' | ⟨-, hge⟩
    · omega
    · exact le_antisymm hle hge

/-- The group of a scope, as it is formed. -/
def GroupOf (alerts : List NodeDownAlert) (nodes : List ProxyConfig)
    (group : NodeDownIncidentGroup) (scope : AlertScope) : Prop :=
  group.IsOf scope ∧ GroupFormed (0 < ·) alerts nodes scope ∧ ∃ code,
    MostShared (scope.due alerts) (scope.nodes nodes).length code ∧
      group.alerts.Perm (sharing (scope.due alerts) code)

/-- One group for each scope that a group is to be formed of. -/
theorem massNodeDownGroups_formed (alerts : List NodeDownAlert)
    (nodes : List ProxyConfig) :
    ∃ scopes : List AlertScope, scopes.Nodup ∧
      (∀ scope, scope ∈ scopes ↔
        GroupFormed (0 < ·) alerts nodes scope) ∧
      List.Forall₂ (GroupOf alerts nodes) (massNodeDownGroups alerts nodes)
        scopes := by
  have hall := buildMassNodeDownGroup_shared "global" [] alerts nodes.length
  rw [massNodeDownGroups]
  cases hglobal : buildMassNodeDownGroup "global" [] alerts nodes.length with
  | some group =>
      rw [hglobal] at hall
      obtain ⟨hsome, hscope, hsub, code, hmost, hperm⟩ := hall
      refine ⟨[none], List.nodup_singleton _, ?_, ?_⟩
      · rintro (- | subscription)
        · exact ⟨fun _ => ⟨hsome, hmost.sharesCode⟩,
            fun _ => List.mem_singleton_self _⟩
        · refine ⟨fun hmem => ?_, fun hformed => ?_⟩
          · cases List.mem_singleton.mp hmem
          · exact absurd ⟨hsome, hmost.sharesCode⟩ hformed.1
      · exact .cons ⟨⟨hscope, hsub⟩, ⟨hsome, hmost.sharesCode⟩, code, hmost,
          hperm⟩ .nil
  | none =>
      rw [hglobal] at hall
      generalize hfound : (fun subscription =>
        buildMassNodeDownGroup (subscriptionAlertScope subscription)
          subscription (alerts.filter (·.proxy.subName = subscription))
          (nodes.filter (·.subName = subscription)).length) = found
      have hspec : ∀ subscription,
          match found subscription with
          | none => ¬(0 < (AlertScope.nodes nodes (some subscription)).length ∧
              SharesCode (AlertScope.due alerts (some subscription))
                (AlertScope.nodes nodes (some subscription)).length)
          | some group =>
              0 < (AlertScope.nodes nodes (some subscription)).length ∧
                group.scope = subscriptionAlertScope subscription ∧
                group.subscription = subscription ∧ ∃ code,
                  MostShared (AlertScope.due alerts (some subscription))
                    (AlertScope.nodes nodes (some subscription)).length code ∧
                  group.alerts.Perm
                    (sharing (AlertScope.due alerts (some subscription))
                      code) := by
        intro subscription
        rw [← hfound]
        exact buildMassNodeDownGroup_shared _ _ _ _
      have hsome : ∀ subscription, (found subscription).isSome ↔
          0 < (AlertScope.nodes nodes (some subscription)).length ∧
            SharesCode (AlertScope.due alerts (some subscription))
              (AlertScope.nodes nodes (some subscription)).length := by
        intro subscription
        have hfoundSpec := hspec subscription
        cases hgroup : found subscription with
        | none =>
            rw [hgroup] at hfoundSpec
            simpa using hfoundSpec
        | some group =>
            rw [hgroup] at hfoundSpec
            obtain ⟨hnodes, -, -, code, hmost, -⟩ := hfoundSpec
            exact ⟨fun _ => ⟨hnodes, hmost.sharesCode⟩, fun _ => rfl⟩
      refine ⟨((sortStrings (alerts.map (·.proxy.subName)).dedup).filter
        fun subscription => (found subscription).isSome).map some, ?_, ?_, ?_⟩
      · refine (List.Nodup.filter _ ?_).map (Option.some_injective _)
        exact (List.perm_insertionSort _ _).nodup_iff.mpr (List.nodup_dedup _)
      · rintro (- | subscription)
        · simpa [GroupFormed] using hall
        · simp only [List.mem_map, Option.some.injEq, exists_eq_right,
            List.mem_filter, hsome, GroupFormed, hall, not_false_eq_true,
            true_and, and_iff_right_iff_imp, sortStrings,
            List.mem_insertionSort, List.mem_dedup]
          rintro ⟨-, code, hshared⟩
          have hsharing : 0 < (sharing (AlertScope.due alerts
              (some subscription)) code).length := by
            omega
          obtain ⟨alert, halert⟩ := List.exists_mem_of_length_pos hsharing
          have hdue := List.mem_of_mem_filter halert
          rw [AlertScope.due, List.mem_filter, decide_eq_true_eq] at hdue
          exact ⟨alert, hdue⟩
      · rw [List.forall₂_map_right_iff]
        apply forall₂_filterMap
        intro subscription group hgroup
        have hfoundSpec := hspec subscription
        rw [hgroup] at hfoundSpec
        obtain ⟨hnodes, hscope, hsub, code, hmost, hperm⟩ := hfoundSpec
        exact ⟨⟨hscope, hsub⟩, ⟨hall, hnodes, hmost.sharesCode⟩, code, hmost,
          hperm⟩

theorem NodeDownIncidentGroup.IsOf.unique {group : NodeDownIncidentGroup}
    {scope other : AlertScope} (h : group.IsOf scope)
    (hother : group.IsOf other) : scope = other := by
  have hglobal : ∀ subscription,
      subscriptionAlertScope subscription ≠ ("global" : Text) := by
    intro subscription hsame
    have hfirst := congrArg List.head? hsame
    rw [subscriptionAlertScope] at hfirst
    split at hfirst
    · simp at hfirst
    · simp at hfirst
  cases scope with
  | none =>
      cases other with
      | none => rfl
      | some subscription => exact absurd (hother.1 ▸ h.1) (hglobal _)
  | some subscription =>
      cases other with
      | none => exact absurd (h.1 ▸ hother.1) (hglobal _)
      | some subscription' => exact congrArg some (h.2 ▸ hother.2)

theorem NodeDownIncidentGroup.IsOf.labels {group other : NodeDownIncidentGroup}
    {scope : AlertScope} (h : group.IsOf scope) (hother : other.IsOf scope) :
    other.scope = group.scope ∧ other.subscription = group.subscription := by
  cases scope with
  | none => exact ⟨hother.1.trans h.1.symm, hother.2.trans h.2.symm⟩
  | some subscription =>
      exact ⟨hother.1.trans h.1.symm, hother.2.trans h.2.symm⟩

theorem NodeDownIncidentGroup.IsOf.of_labels
    {group other : NodeDownIncidentGroup} {scope : AlertScope}
    (h : group.IsOf scope)
    (hlabels : (group.scope, group.subscription) =
      (other.scope, other.subscription)) : other.IsOf scope := by
  obtain ⟨hscope, hsub⟩ := Prod.mk.inj hlabels
  cases scope with
  | none => exact ⟨hscope ▸ h.1, hsub ▸ h.2⟩
  | some subscription => exact ⟨hscope ▸ h.1, hsub ▸ h.2⟩

/-- A group belongs to a scope of its own. -/
theorem groupOf_of_mem {group : NodeDownIncidentGroup}
    (h : group ∈ massNodeDownGroups alerts nodes) :
    ∃ scope, GroupOf alerts nodes group scope := by
  obtain ⟨scopes, -, -, hall⟩ := massNodeDownGroups_formed alerts nodes
  obtain ⟨scope, -, hgroup⟩ := exists_of_mem_left hall h
  exact ⟨scope, hgroup⟩

/-- A scope a group is to be formed of has its group. -/
theorem exists_groupOf {scope : AlertScope}
    (h : GroupFormed (0 < ·) alerts nodes scope) :
    ∃ group ∈ massNodeDownGroups alerts nodes,
      GroupOf alerts nodes group scope := by
  obtain ⟨scopes, -, hscopes, hall⟩ := massNodeDownGroups_formed alerts nodes
  exact exists_of_mem_right hall ((hscopes scope).mpr h)

theorem GroupOf.mem_due {group : NodeDownIncidentGroup} {scope : AlertScope}
    (h : GroupOf alerts nodes group scope) {alert : NodeDownAlert}
    (halert : alert ∈ group.alerts) : alert ∈ scope.due alerts := by
  obtain ⟨-, -, code, -, hperm⟩ := h
  exact List.mem_of_mem_filter (hperm.mem_iff.mp halert)

theorem AlertScope.mem_of_mem_due {scope : AlertScope} {alert : NodeDownAlert}
    (h : alert ∈ scope.due alerts) : alert ∈ alerts := by
  cases scope with
  | none => exact h
  | some subscription => exact List.mem_of_mem_filter h

/-- Groups of different scopes have no alert in common. -/
theorem GroupOf.disjoint {group other : NodeDownIncidentGroup}
    {scope scope' : AlertScope} (h : GroupOf alerts nodes group scope)
    (hother : GroupOf alerts nodes other scope') (hne : scope ≠ scope') :
    List.Disjoint group.alerts other.alerts := by
  intro alert halert halert'
  have hdue := h.mem_due halert
  have hdue' := hother.mem_due halert'
  cases scope with
  | none =>
      cases scope' with
      | none => exact hne rfl
      | some subscription => exact hother.2.1.1 h.2.1
  | some subscription =>
      cases scope' with
      | none => exact h.2.1.1 hother.2.1
      | some subscription' =>
          rw [AlertScope.due, List.mem_filter, decide_eq_true_eq] at hdue hdue'
          exact hne (congrArg some (hdue.2.symm.trans hdue'.2))

/-- The members of all groups, with no alert twice. -/
theorem nodup_grouped (h : alerts.Nodup) :
    ((massNodeDownGroups alerts nodes).flatMap (·.alerts)).Nodup := by
  obtain ⟨scopes, hscopes, -, hall⟩ := massNodeDownGroups_formed alerts nodes
  rw [List.nodup_flatMap]
  refine ⟨?_, ?_⟩
  · intro group hgroup
    obtain ⟨scope, -, -, code, -, hperm⟩ := groupOf_of_mem hgroup
    rw [hperm.nodup_iff]
    refine List.Nodup.filter _ ?_
    cases scope with
    | none => exact h
    | some subscription => exact h.filter _
  · exact pairwise_left_of_nodup hall hscopes
      fun _ _ _ _ hgroup hother hne => hgroup.disjoint hother hne

theorem mem_grouped {alert : NodeDownAlert}
    (h : alert ∈ (massNodeDownGroups alerts nodes).flatMap (·.alerts)) :
    alert ∈ alerts := by
  obtain ⟨group, hgroup, halert⟩ := List.mem_flatMap.mp h
  obtain ⟨scope, hscope⟩ := groupOf_of_mem hgroup
  exact AlertScope.mem_of_mem_due (hscope.mem_due halert)

/-- The members of the groups are the alerts whose node is in a group. -/
theorem grouped_perm (h : (alerts.map (·.proxy.stableID)).Nodup) :
    ((massNodeDownGroups alerts nodes).flatMap (·.alerts)).Perm
      (alerts.filter fun alert => alert.proxy.stableID ∈
        ((massNodeDownGroups alerts nodes).flatMap (·.alerts)).map
          (·.proxy.stableID)) := by
  rw [List.perm_ext_iff_of_nodup (nodup_grouped (List.Nodup.of_map _ h))
    ((List.Nodup.of_map _ h).filter _)]
  intro alert
  rw [List.mem_filter, decide_eq_true_eq]
  refine ⟨fun hmem => ⟨mem_grouped hmem, List.mem_map_of_mem hmem⟩, ?_⟩
  rintro ⟨halert, hid⟩
  obtain ⟨member, hmember, hsame⟩ := List.mem_map.mp hid
  have hown := List.inj_on_of_nodup_map h (mem_grouped hmember) halert hsame
  exact hown ▸ hmember

/-! ### In any order -/

variable {alerts' : List NodeDownAlert} {nodes' : List ProxyConfig}

theorem AlertScope.due_perm (h : alerts.Perm alerts') (scope : AlertScope) :
    (scope.due alerts).Perm (scope.due alerts') := by
  cases scope with
  | none => exact h
  | some subscription => exact h.filter _

theorem AlertScope.nodes_length (h : nodes.Perm nodes') (scope : AlertScope) :
    (scope.nodes nodes).length = (scope.nodes nodes').length := by
  cases scope with
  | none => exact h.length_eq
  | some subscription => exact (h.filter _).length_eq

theorem SharesCode.perm {total : Nat} (h : SharesCode alerts total)
    (hperm : alerts.Perm alerts') : SharesCode alerts' total := by
  obtain ⟨code, hshared⟩ := h
  exact ⟨code, (hperm.filter _).length_eq ▸ hshared⟩

theorem MostShared.perm {total : Nat} {code : Text}
    (h : MostShared alerts total code) (hperm : alerts.Perm alerts') :
    MostShared alerts' total code := by
  have hsame : ∀ other,
      (sharing alerts other).length = (sharing alerts' other).length :=
    fun other => (hperm.filter _).length_eq
  simp only [MostShared, ← hsame]
  exact h

theorem GroupFormed.perm {scope : AlertScope}
    (h : GroupFormed (0 < ·) alerts nodes scope) (hperm : alerts.Perm alerts')
    (hnodes : nodes.Perm nodes') :
    GroupFormed (0 < ·) alerts' nodes' scope := by
  have htotal := hnodes.length_eq
  cases scope with
  | none =>
      exact ⟨htotal ▸ h.1, htotal ▸ h.2.perm hperm⟩
  | some subscription =>
      have hscope := AlertScope.nodes_length hnodes (some subscription)
      refine ⟨?_, hscope ▸ h.2.1,
        hscope ▸ h.2.2.perm (AlertScope.due_perm hperm (some subscription))⟩
      rintro ⟨hsome, hshared⟩
      exact h.1 ⟨htotal ▸ hsome, htotal ▸ hshared.perm hperm.symm⟩

/-- The groups do not depend on the order of the alerts and the nodes. -/
theorem massNodeDownGroups_perm (hperm : alerts.Perm alerts')
    (hnodes : nodes.Perm nodes') {group : NodeDownIncidentGroup}
    (h : group ∈ massNodeDownGroups alerts nodes) :
    ∃ other ∈ massNodeDownGroups alerts' nodes',
      other.scope = group.scope ∧ other.subscription = group.subscription ∧
        other.alerts.Perm group.alerts := by
  obtain ⟨scope, hscope, hformed, code, hmost, hmembers⟩ := groupOf_of_mem h
  obtain ⟨other, hother, hscope', -, code', hmost', hmembers'⟩ :=
    exists_groupOf (hformed.perm hperm hnodes)
  have hlabels := hscope.labels hscope'
  refine ⟨other, hother, hlabels.1, hlabels.2, ?_⟩
  have hdue := AlertScope.due_perm hperm scope
  have hsame : code = code' := by
    refine (hmost.perm hdue).unique ?_
    rw [AlertScope.nodes_length hnodes scope]
    exact hmost'
  rw [← hsame] at hmembers'
  exact hmembers'.trans ((hdue.filter _).symm.trans hmembers.symm)

/-- Every alert is in one group or remains, and a group is formed of exactly
the scopes with nodes, whose due alerts share a code often enough. -/
theorem partitionMassNodeDownAlerts_partition
    (hdistinct : (alerts.map (·.proxy.stableID)).Nodup) :
    MassPartition (0 < ·) alerts proxies monitored muted where
  complete := by
    have hgrouped := @grouped_perm alerts (alertable proxies monitored muted)
      hdistinct
    refine (hgrouped.append_right _).trans ?_
    have hsplit := List.filter_append_perm (fun alert : NodeDownAlert =>
      decide (alert.proxy.stableID ∈
        ((massNodeDownGroups alerts (alertable proxies monitored muted)).flatMap
          (·.alerts)).map (·.proxy.stableID))) alerts
    rw [partitionMassNodeDownAlerts]
    simp only [decide_not]
    exact hsplit
  formed scope := by
    constructor
    · rintro ⟨group, hgroup, hscope⟩
      obtain ⟨own, hown, hformed, -⟩ := groupOf_of_mem hgroup
      exact hown.unique hscope ▸ hformed
    · intro hformed
      obtain ⟨group, hgroup, hscope, -⟩ := exists_groupOf hformed
      exact ⟨group, hgroup, hscope⟩
  inScope group hgroup := by
    obtain ⟨scope, hscope⟩ := groupOf_of_mem hgroup
    exact ⟨scope, hscope.1, fun alert halert => hscope.mem_due halert⟩
  once := by
    obtain ⟨scopes, hscopes, -, hall⟩ := massNodeDownGroups_formed alerts
      (alertable proxies monitored muted)
    rw [List.nodup_iff_pairwise_ne, List.pairwise_map]
    refine pairwise_left_of_nodup hall hscopes ?_
    intro group other scope scope' hgroup hother hne hlabels
    exact hne ((hgroup.1.of_labels hlabels).unique hother.1)
  oneCode group hgroup := by
    obtain ⟨scope, -, -, code, -, hmembers⟩ := groupOf_of_mem hgroup
    refine ⟨code, fun alert halert => ?_⟩
    have hshared := hmembers.mem_iff.mp halert
    rw [sharing, List.mem_filter, decide_eq_true_eq] at hshared
    exact hshared.2
  anyOrder alerts' proxies' hperm hproxies group hgroup :=
    massNodeDownGroups_perm hperm.symm (hproxies.symm.filter _) hgroup

end Groups

namespace Sample

/-- A node of no subscription. -/
def massNode (stableID : Text) : ProxyConfig where
  stableID := stableID

def massAlert (stableID : Text) : NodeDownAlert where
  proxy := massNode stableID

def massAlerts : List NodeDownAlert :=
  [massAlert "a", massAlert "b", massAlert "c"]

def massNodes : List ProxyConfig :=
  massAlerts.map (·.proxy)

def massMuted : GoMap Text Bool :=
  (((∅ : GoMap Text Bool).insert "a" true).insert "b" true).insert "c" true

/-- Three alerts share a failure code, but with all nodes muted the scope has
none, and no group is formed. -/
theorem muted_scope_ungrouped :
    (massAlerts.map (·.proxy.stableID)).Nodup ∧
      ¬MassPartition (fun _ => True) massAlerts massNodes ∅ massMuted := by
  refine ⟨by decide, fun h => ?_⟩
  have hnodes : alertable massNodes ∅ massMuted = [] := by
    simp [alertable, massNodes, massAlerts, massAlert, massNode, massMuted,
      GoMap.get_insert]
  have hshared : SharesCode massAlerts 0 := ⟨failureCodeUnknown, by decide⟩
  have hformed := (h.formed none).mpr ⟨trivial, by rw [hnodes]; exact hshared⟩
  obtain ⟨group, hgroup, -⟩ := hformed
  rw [partitionMassNodeDownAlerts, hnodes] at hgroup
  have hnone : massNodeDownGroups massAlerts [] = [] := by decide
  rw [hnone] at hgroup
  cases hgroup

theorem partitionMassNodeDownAlerts_partition_three :
    MassPartition (0 < ·) massAlerts massNodes ∅ ∅ :=
  partitionMassNodeDownAlerts_partition (by decide)

end Sample

end XrayChecker.Telegram

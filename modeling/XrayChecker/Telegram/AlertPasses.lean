import XrayChecker.Telegram.AlertEpisodes

/-
The passes over the nodes and the runs of the service: whatever the statuses,
the mutes, the failed deliveries and the clearings in the middle of a pass, what
is delivered about a node comes in episodes.
-/

namespace XrayChecker.Telegram

open Go Checker Machine

section StatusPasses

variable {p : StatusPass} {s : AlertService} {log : List DeliveredAlert}

theorem loses_store {stableID other : Text} (state : AlertState)
    (hother : other ≠ stableID) : LosesAt s (s.store stableID state) other := by
  right
  rw [get_store, if_neg (Ne.symm hother)]

/-- The nodes whose recovery is planned, and those with a due alert. -/
def PassPlan.recovered (plan : PassPlan) : List Text :=
  plan.recoveries.flatMap (·.subjects)

def PassPlan.failed (plan : PassPlan) : List Text :=
  plan.due.map (·.stableID)

/-- What a pass has read of the nodes so far. -/
structure ReadSoFar (log : List DeliveredAlert) (done : List Text)
    (read : AlertService × PassPlan) : Prop where
  informed : Informed read.1 log
  waits : RecoveriesWait read.1 log read.2.recoveries
  recovered : read.2.recovered.Nodup
  failed : read.2.failed.Nodup
  apart : List.Disjoint read.2.recovered read.2.failed
  among : ∀ id, id ∈ read.2.recovered ∨ id ∈ read.2.failed → id ∈ done

theorem ReadSoFar.of_loses {done : List Text} {read : AlertService × PassPlan}
    {t : AlertService} (h : ReadSoFar log done read) (hloses : Loses read.1 t) :
    ReadSoFar log done (t, read.2) where
  informed := h.informed.of_loses hloses
  waits := h.waits.of_loses fun _ _ stableID _ => hloses stableID
  recovered := h.recovered
  failed := h.failed
  apart := h.apart
  among := h.among

theorem ReadSoFar.more {done : List Text} {read : AlertService × PassPlan}
    (h : ReadSoFar log done read) (stableID : Text) :
    ReadSoFar log (stableID :: done) read where
  informed := h.informed
  waits := h.waits
  recovered := h.recovered
  failed := h.failed
  apart := h.apart
  among id hid := List.mem_cons_of_mem _ (h.among id hid)

/-- The state of a node that has not been read yet is stored. -/
theorem ReadSoFar.store {done : List Text} {read : AlertService × PassPlan}
    {stableID : Text} {state : AlertState} (h : ReadSoFar log done read)
    (hnew : stableID ∉ done)
    (hstate : state = {} ∨ Agrees (newsAbout stableID log) state) :
    ReadSoFar log done (read.1.store stableID state, read.2) where
  informed := h.informed.store hstate
  waits := by
    apply h.waits.of_loses
    intro message hmessage other hother
    apply loses_store
    rintro rfl
    exact hnew (h.among _ (Or.inl
      (List.mem_flatMap.mpr ⟨message, hmessage, hother⟩)))
  recovered := h.recovered
  failed := h.failed
  apart := h.apart
  among := h.among

/-- An alert about a node that has not been read yet is planned. -/
theorem ReadSoFar.due {done refreshes : List Text} {t : AlertService}
    {plan : PassPlan} {proxy : ProxyConfig} (h : ReadSoFar log done (t, plan))
    (hnew : proxy.stableID ∉ done) :
    ReadSoFar log (proxy.stableID :: done)
      (t, { plan with refreshes, due := plan.due ++ [proxy] }) where
  informed := h.informed
  waits := h.waits
  recovered := h.recovered
  failed := by
    rw [PassPlan.failed, List.map_append, List.map_singleton,
      List.nodup_append']
    refine ⟨h.failed, List.nodup_singleton _, ?_⟩
    intro id hid hin
    rw [List.mem_singleton] at hin
    exact hnew (hin ▸ h.among id (Or.inr hid))
  apart := by
    intro id hid hin
    rw [PassPlan.failed, List.map_append, List.map_singleton, List.mem_append,
      List.mem_singleton] at hin
    rcases hin with hin | rfl
    · exact h.apart hid hin
    · exact hnew (h.among _ (Or.inl hid))
  among := by
    rintro id (hid | hid)
    · exact List.mem_cons_of_mem _ (h.among id (Or.inl hid))
    · rw [PassPlan.failed, List.map_append, List.map_singleton,
        List.mem_append, List.mem_singleton] at hid
      rcases hid with hid | rfl
      · exact List.mem_cons_of_mem _ (h.among id (Or.inr hid))
      · exact List.mem_cons_self

theorem ReadSoFar.planned {done refreshes : List Text} {t : AlertService}
    {plan : PassPlan} (h : ReadSoFar log done (t, plan)) :
    ReadSoFar log done (t, { plan with refreshes }) :=
  ⟨h.informed, h.waits, h.recovered, h.failed, h.apart, h.among⟩

/-- The recovery of a node that has not been read yet is planned. -/
theorem ReadSoFar.recovery {done : List Text} {t : AlertService}
    {plan : PassPlan} {stableID : Text} {recoveredAt : Time} {latency : Int}
    (h : ReadSoFar log done (t, plan)) (hnew : stableID ∉ done)
    (hwaits : Recovering t log stableID recoveredAt) :
    ReadSoFar log (stableID :: done)
      (t, { plan with
        recoveries := plan.recoveries ++
          [.recovery stableID recoveredAt latency] }) := by
  have hsubjects : ∀ id, id ∈ ({ plan with
      recoveries := plan.recoveries ++
        [.recovery stableID recoveredAt latency] } : PassPlan).recovered ↔
      id ∈ plan.recovered ∨ id = stableID := by
    intro id
    simp [PassPlan.recovered, NodeMessage.subjects]
  refine ⟨h.informed, ?_, ?_, h.failed, ?_, ?_⟩
  · intro message hmessage
    rcases List.mem_append.mp hmessage with hbefore | hlast
    · exact h.waits message hbefore
    · exact ⟨_, _, _, List.mem_singleton.mp hlast, hwaits⟩
  · rw [PassPlan.recovered, List.flatMap_append, List.nodup_append']
    refine ⟨h.recovered, by simp [NodeMessage.subjects], ?_⟩
    intro id hid hin
    have hsame : id = stableID := by simpa [NodeMessage.subjects] using hin
    exact hnew (hsame ▸ h.among id (Or.inl hid))
  · intro id hid hin
    rcases (hsubjects id).mp hid with hid | rfl
    · exact h.apart hid hin
    · exact hnew (h.among _ (Or.inr hin))
  · rintro id (hid | hid)
    · rcases (hsubjects id).mp hid with hid | rfl
      · exact List.mem_cons_of_mem _ (h.among id (Or.inl hid))
      · exact List.mem_cons_self
    · exact List.mem_cons_of_mem _ (h.among id (Or.inr hid))

theorem ReadSoFar.readStatus {done : List Text}
    {read : AlertService × PassPlan} {proxy : ProxyConfig}
    {details : ProxyStatusDetails}
    (h : ReadSoFar log done read) (hnew : proxy.stableID ∉ done)
    (hnamed : proxy.stableID ≠ []) (hnow : p.now ≠ 0) :
    ReadSoFar log (proxy.stableID :: done)
      (p.readStatus read.1 read.2 proxy details) := by
  unfold StatusPass.readStatus
  dsimp only
  split
  · -- a failing node: an alert may be due
    have hfails : Agrees (newsAbout proxy.stableID log)
        ((read.1.state proxy.stableID).failing details p.cfg
          (p.isMuted proxy.stableID) p.now) :=
      Agrees.failing (h.informed.read proxy.stableID)
    have hstored := h.store hnew (Or.inr hfails)
    by_cases hdue : ((read.1.state proxy.stableID).failing details p.cfg
        (p.isMuted proxy.stableID) p.now).isDue p.cfg
        (p.isMuted proxy.stableID) p.now = true
    · rw [if_pos hdue]
      exact hstored.due hnew
    · rw [if_neg hdue]
      exact (hstored.more _).planned
  · split
    · -- a node that is online again, and whose alert was sent
      rename_i hnotify
      obtain ⟨hagrees, hsent⟩ := h.informed.notifies hnotify
      obtain ⟨hrecovered, hpending, hset, hsome⟩ :=
        Agrees.recovering hagrees hsent details.latency hnow
      apply (h.store hnew (Or.inr hrecovered)).recovery hnew
      refine ⟨hnamed, hagrees.recovery_follows hsent, hset, ?_⟩
      intro stored hstored
      rw [get_store, if_pos rfl, if_neg hsome] at hstored
      cases hstored
      exact ⟨hpending, rfl⟩
    · exact (h.store hnew (Or.inl rfl)).more _

theorem ReadSoFar.readNode {done : List Text} {read : AlertService × PassPlan}
    {node : NodeReading} (h : ReadSoFar log done read)
    (hnew : node.proxy.stableID ∉ done) (hnamed : node.proxy.stableID ≠ [])
    (hnow : p.now ≠ 0) :
    ReadSoFar log (node.proxy.stableID :: done) (p.readNode read node) := by
  have hreached := h.of_loses (reach_loses p.toAlertSending
    (.reading node.proxy.stableID) read.1)
  have hlabelled : node.labelled.stableID ∉ done := hnew
  unfold StatusPass.readNode
  dsimp only
  split
  · split
    · exact hreached.readStatus hlabelled hnamed hnow
    · exact hreached.more _
  · exact hreached.more _

theorem ReadSoFar.readNodes {done : List Text} {nodes : List NodeReading}
    {read : AlertService × PassPlan} (h : ReadSoFar log done read)
    (hnodup : (nodes.map (·.proxy.stableID)).Nodup)
    (hnew : ∀ node ∈ nodes, node.proxy.stableID ∉ done)
    (hnamed : ∀ node ∈ nodes, node.proxy.stableID ≠ []) (hnow : p.now ≠ 0) :
    ∃ all, ReadSoFar log all (nodes.foldl p.readNode read) := by
  induction nodes generalizing done read with
  | nil => exact ⟨done, h⟩
  | cons node rest ih =>
      rw [List.map_cons, List.nodup_cons] at hnodup
      rw [List.forall_mem_cons] at hnew hnamed
      apply ih (h.readNode hnew.1 hnamed.1 hnow) hnodup.2 _ hnamed.2
      intro other hother hin
      rcases List.mem_cons.mp hin with hsame | hin
      · exact hnodup.1 (List.mem_map.mpr ⟨other, hother, hsame⟩)
      · exact hnew.2 other hother hin

/-- Reading the diagnostics again. -/
theorem ReadSoFar.refresh {done : List Text} {t : AlertService}
    {plan : PassPlan} (h : ReadSoFar log done (t, plan)) (stableID : Text) :
    ReadSoFar log done (p.refresh t stableID, plan) := by
  have hreached := h.of_loses (reach_loses p.toAlertSending
    (.refreshing stableID) t)
  unfold StatusPass.refresh
  dsimp only
  split
  · rename_i details _
    exact ⟨hreached.informed.updateAlertDiagnostics,
      hreached.waits.updateAlertDiagnostics, h.recovered, h.failed, h.apart,
      h.among⟩
  · exact hreached

theorem ReadSoFar.refreshAll {done : List Text} {t : AlertService}
    {plan : PassPlan} (h : ReadSoFar log done (t, plan)) (ids : List Text) :
    ReadSoFar log done (ids.foldl p.refresh t, plan) := by
  induction ids generalizing t with
  | nil => exact h
  | cons id rest ih => exact ih (h.refresh id)

/-- A due alert is decided on from the state of its node. -/
theorem Informed.pending {proxy : ProxyConfig} {alert : NodeDownAlert}
    (h : Informed s log)
    (halert : p.pendingNodeDownAlert s proxy = some alert) :
    alert.proxy.stableID = proxy.stableID ∧
      Decided p.toAlertSending s log alert := by
  unfold StatusPass.pendingNodeDownAlert at halert
  dsimp only at halert
  split at halert
  · cases halert
  rename_i hnamed
  split at halert
  · cases halert
  split at halert
  · cases halert
  rename_i hstate
  split at halert
  · cases halert
  rename_i hdue
  cases halert
  have hstored := get_of_state_ne hstate
  refine ⟨rfl, hnamed, s.state proxy.stableID, rfl, h.agrees _ _ hstored, ?_,
    ?_⟩
  · rw [not_or, not_or] at hdue
    exact not_lt.mp hdue.2.2
  · intro stored hin
    rw [hstored] at hin
    cases hin
    rfl

theorem Informed.decide (h : Informed s log) (due : List ProxyConfig) :
    Loses s (p.decide s due).1 ∧
      (∀ alert ∈ (p.decide s due).2,
        Decided p.toAlertSending (p.decide s due).1 log alert) ∧
      ((p.decide s due).2.map (·.proxy.stableID)).Sublist
        (due.map (·.stableID)) := by
  induction due generalizing s with
  | nil => exact ⟨Loses.refl s, fun _ hin => absurd hin List.not_mem_nil,
      List.Sublist.refl _⟩
  | cons proxy rest ih =>
      have hreach := reach_loses p.toAlertSending (.deciding proxy.stableID) s
      have hreached := h.of_loses hreach
      obtain ⟨hloses, hdecided, hsub⟩ := ih hreached
      unfold StatusPass.decide
      dsimp only
      refine ⟨hreach.trans hloses, ?_, ?_⟩
      · intro alert halert
        rcases List.mem_append.mp halert with hown | hrest
        · have hpending := hreached.pending (Option.mem_toList.mp hown)
          exact hpending.2.of_loses (hloses _)
        · exact hdecided alert hrest
      · cases hpending : p.pendingNodeDownAlert
            (p.reach (.deciding proxy.stableID) s) proxy with
        | none => exact hsub.cons _
        | some alert =>
            rw [Option.toList_some, List.singleton_append, List.map_cons,
              (hreached.pending hpending).1]
            exact hsub.cons_cons _

end StatusPasses

section Passes

variable {p : StatusPass} {s : AlertService} {log : List DeliveredAlert}

/-- The alerts of a pass, group by group and then one by one. -/
theorem subjects_messages (plan : PassPlan) (alerts : List NodeDownAlert) :
    (p.messages plan alerts).flatMap (·.subjects) =
      plan.recovered ++
        (((massNodeDownGroups alerts (alertable (p.nodes.map (·.proxy))
          p.active p.muted)).flatMap (·.alerts)).map (·.proxy.stableID) ++
        (partitionMassNodeDownAlerts alerts (p.nodes.map (·.proxy)) p.active
          p.muted).2.map (·.proxy.stableID)) := by
  unfold StatusPass.messages
  dsimp only
  rw [List.flatMap_append, List.flatMap_append, List.append_assoc]
  congr 1
  congr 1
  · rw [List.flatMap_map, List.map_flatMap]
    rfl
  · split
    · exact List.flatMap_singleton _ _
    · rw [List.flatMap_map]
      exact List.map_eq_flatMap.symm

/-- Every due alert is in one message. -/
theorem messages_nodup {plan : PassPlan} {alerts : List NodeDownAlert}
    (hrecovered : plan.recovered.Nodup)
    (halerts : (alerts.map (·.proxy.stableID)).Nodup)
    (hapart : ∀ id ∈ plan.recovered, id ∉ alerts.map (·.proxy.stableID)) :
    ((p.messages plan alerts).flatMap (·.subjects)).Nodup := by
  have hgrouped := @grouped_perm alerts
    (alertable (p.nodes.map (·.proxy)) p.active p.muted) halerts
  have hall : ((massNodeDownGroups alerts (alertable (p.nodes.map (·.proxy))
        p.active p.muted)).flatMap (·.alerts) ++
      (partitionMassNodeDownAlerts alerts (p.nodes.map (·.proxy)) p.active
        p.muted).2).Perm alerts := by
    refine (hgrouped.append_right _).trans ?_
    have hsplit := List.filter_append_perm (fun alert : NodeDownAlert =>
      decide (alert.proxy.stableID ∈
        ((massNodeDownGroups alerts (alertable (p.nodes.map (·.proxy))
          p.active p.muted)).flatMap (·.alerts)).map (·.proxy.stableID))) alerts
    rw [partitionMassNodeDownAlerts]
    simp only [decide_not]
    exact hsplit
  have hids := hall.map (·.proxy.stableID)
  rw [List.map_append] at hids
  rw [subjects_messages, List.nodup_append']
  refine ⟨hrecovered, hids.nodup_iff.mpr halerts, ?_⟩
  intro id hid hin
  exact hapart id hid (hids.mem_iff.mp hin)

theorem messages_alerts {plan : PassPlan} {alerts : List NodeDownAlert}
    {message : NodeMessage} (hmessage : message ∈ p.messages plan alerts) :
    message ∈ plan.recoveries ∨
      ((∀ alert ∈ message.alerts, alert ∈ alerts) ∧
        ∀ id recoveredAt latency,
          message ≠ .recovery id recoveredAt latency) := by
  have hremaining : ∀ alert ∈ (partitionMassNodeDownAlerts alerts
      (p.nodes.map (·.proxy)) p.active p.muted).2, alert ∈ alerts :=
    fun alert halert => List.mem_of_mem_filter halert
  unfold StatusPass.messages at hmessage
  dsimp only at hmessage
  rcases List.mem_append.mp hmessage with hmessage | hrest
  · rcases List.mem_append.mp hmessage with hrecovery | hmass
    · exact Or.inl hrecovery
    · obtain ⟨group, hgroup, rfl⟩ := List.mem_map.mp hmass
      refine Or.inr ⟨fun alert halert => ?_, fun _ _ _ hsame => by cases hsame⟩
      exact mem_grouped (List.mem_flatMap.mpr ⟨group, hgroup, halert⟩)
  · right
    split at hrest
    · rw [List.mem_singleton] at hrest
      subst hrest
      exact ⟨hremaining, fun _ _ _ hsame => by cases hsame⟩
    · obtain ⟨alert, halert, rfl⟩ := List.mem_map.mp hrest
      refine ⟨fun other hother => ?_, fun _ _ _ hsame => by cases hsame⟩
      rw [List.mem_singleton.mp hother]
      exact hremaining alert halert

/-- The end of a pass: what is decided on, and what is sent. -/
theorem ReadSoFar.send {done : List Text} {t : AlertService} {plan : PassPlan}
    (h : ReadSoFar log done (t, plan)) (hset : ∀ message, p.sentAt message ≠ 0)
    (hregular : p.cfg.Regular) :
    Informed (p.decide t plan.due).1 log ∧
      Informed
        (p.sendAll (p.decide t plan.due).1
          (p.messages plan (p.decide t plan.due).2)).1
        (log ++ (p.sendAll (p.decide t plan.due).1
          (p.messages plan (p.decide t plan.due).2)).2) := by
  obtain ⟨hloses, hdecided, hsub⟩ :=
    Informed.decide (p := p) h.informed plan.due
  generalize p.decide t plan.due = decided at hloses hdecided hsub ⊢
  have hfinal := h.informed.of_loses hloses
  refine ⟨hfinal, hfinal.sendAll ?_ ?_ hregular hset⟩
  · intro message hmessage
    rcases messages_alerts hmessage with hrecovery | ⟨halerts, hnot⟩
    · exact (h.waits.of_loses fun _ _ id _ => hloses id).canBeTold message
        hrecovery
    · exact ⟨fun alert halert => hdecided alert (halerts alert halert),
        fun id recoveredAt latency hsame =>
          absurd hsame (hnot id recoveredAt latency)⟩
  · apply messages_nodup h.recovered
    · exact hsub.nodup h.failed
    · intro id hid hin
      exact h.apart hid (hsub.subset hin)

theorem Informed.notifyNodeStatuses (h : Informed s log)
    (hnow : p.now ≠ 0) (hset : ∀ message, p.sentAt message ≠ 0)
    (hregular : p.cfg.Regular)
    (hnodup : (p.nodes.map (·.proxy.stableID)).Nodup)
    (hnamed : ∀ node ∈ p.nodes, node.proxy.stableID ≠ []) :
    Informed (s.notifyNodeStatuses p).1
      (log ++ (s.notifyNodeStatuses p).2) := by
  unfold AlertService.notifyNodeStatuses
  split
  · rw [List.append_nil]
    exact h
  have hstarted : Informed (s.started p.cfg p.now) log := by
    unfold AlertService.started
    split
    · exact h
    · exact ⟨h.told, h.agrees⟩
  have hactive := hstarted.of_loses (keepActive_loses _ p.active)
  have hbegin : ReadSoFar log []
      ((s.started p.cfg p.now).keepActive p.active, ({} : PassPlan)) := by
    refine ⟨hactive, ?_, List.nodup_nil, List.nodup_nil, ?_, ?_⟩
    · intro message hmessage
      cases hmessage
    · intro id hid
      cases hid
    · rintro id (hid | hid)
      · cases hid
      · cases hid
  obtain ⟨all, hread⟩ := hbegin.readNodes (p := p) hnodup
    (fun _ _ => List.not_mem_nil) hnamed hnow
  have hrefreshed := ReadSoFar.refreshAll (p := p) hread
    (p.nodes.foldl p.readNode
      ((s.started p.cfg p.now).keepActive p.active, {})).2.refreshes
  obtain ⟨hdecided, hsent⟩ := hrefreshed.send hset hregular
  dsimp only
  split
  · rw [List.append_nil]
    exact hdecided
  · exact hsent

end Passes

/-! ### What a pass never sends -/

section Justified

variable {p : StatusPass} {s : AlertService}

/-- The pass comes to the node and reads this of it. -/
def StatusPass.Reads (p : StatusPass) (stableID : Text)
    (details : ProxyStatusDetails) : Prop :=
  ∃ node ∈ p.nodes, node.proxy.stableID = stableID ∧
    node.stillActive = true ∧ node.details = some details

/-- A node that is not muted and fails in the pass. -/
structure FailsIn (p : StatusPass) (stableID : Text) : Prop where
  read : ∃ details, p.Reads stableID details ∧
    details.effectiveStatus ≠ .online
  unmuted : p.isMuted stableID = false

/-- A node that is not muted and is online in the pass. -/
structure OnlineIn (p : StatusPass) (stableID : Text) : Prop where
  read : ∃ details, p.Reads stableID details ∧
    details.effectiveStatus = .online
  unmuted : p.isMuted stableID = false
  notify : p.cfg.notifyRecovery = true

/-- What a plan holds is read in the pass. -/
structure PlanRead (p : StatusPass) (plan : PassPlan) : Prop where
  recoveries : ∀ message ∈ plan.recoveries,
    ∃ stableID recoveredAt latency,
      message = .recovery stableID recoveredAt latency ∧ OnlineIn p stableID
  due : ∀ proxy ∈ plan.due, FailsIn p proxy.stableID

theorem PlanRead.readStatus {plan : PassPlan} {proxy : ProxyConfig}
    {details : ProxyStatusDetails} (h : PlanRead p plan)
    (hread : p.Reads proxy.stableID details) :
    PlanRead p (p.readStatus s plan proxy details).2 := by
  unfold StatusPass.readStatus
  dsimp only
  split
  · rename_i hfails
    refine ⟨h.recoveries, ?_⟩
    intro other hother
    dsimp only at hother
    split at hother
    · rename_i hdue
      rcases List.mem_append.mp hother with hbefore | hlast
      · exact h.due other hbefore
      · rw [List.mem_singleton] at hlast
        subst hlast
        refine ⟨⟨details, hread, hfails⟩, ?_⟩
        simp only [AlertState.isDue, Bool.and_eq_true,
          Bool.not_eq_true'] at hdue
        exact hdue.1.1
    · exact h.due other hother
  · rename_i honline
    split
    · rename_i hnotify
      refine ⟨?_, h.due⟩
      intro message hmessage
      rcases List.mem_append.mp hmessage with hbefore | hlast
      · exact h.recoveries message hbefore
      · obtain ⟨hmuted, hon, -, -⟩ :=
          shouldNotifyNodeRecovery_eq_true.mp hnotify
        exact ⟨_, _, _, List.mem_singleton.mp hlast,
          ⟨details, hread, not_not.mp honline⟩, hmuted, hon⟩
    · exact h

theorem PlanRead.readNodes {nodes : List NodeReading}
    {read : AlertService × PassPlan} (h : PlanRead p read.2)
    (hnodes : ∀ node ∈ nodes, node ∈ p.nodes) :
    PlanRead p (nodes.foldl p.readNode read).2 := by
  induction nodes generalizing read with
  | nil => exact h
  | cons node rest ih =>
      rw [List.forall_mem_cons] at hnodes
      refine ih ?_ hnodes.2
      unfold StatusPass.readNode
      dsimp only
      split
      · rename_i details hdetails
        split
        · rename_i hactive
          have hread : p.Reads node.labelled.stableID details :=
            ⟨node, hnodes.1, rfl, hactive, hdetails⟩
          exact h.readStatus hread
        · exact h
      · exact h

/-- A node without a working tunnel. -/
def failingNode : NodeReading where
  proxy := { stableID := "n1", name := "Node" }
  details := some { status := .proxyFailure }

def everyMinute : NodeAlertConfig where
  alertCheckMinutes := 1
  alertReminderScheduleMinutes := [5]

/-- A pass in which everything goes through. -/
def failingPass (now : Time) : StatusPass where
  cfg := everyMinute
  now := now
  goesThrough := fun _ => true
  sentAt := fun _ => now + 1
  nodes := [failingNode]

end Justified

section RecoveryPasses

variable {p : RecoveryPass} {s : AlertService} {log : List DeliveredAlert}

/-- Only the nodes of the list are touched. -/
theorem prepareAll_other {ids : List Text} {id : Text} (hid : id ∉ ids) :
    LosesAt s (p.prepareAll s ids).1 id := by
  induction ids generalizing s with
  | nil => exact Or.inr rfl
  | cons head rest ih =>
      rw [List.mem_cons, not_or] at hid
      have hreach := reach_loses p.toAlertSending (.reading head) s id
      unfold RecoveryPass.prepareAll
      dsimp only
      split
      · split
        · refine hreach.trans (LosesAt.trans ?_ (ih hid.2))
          unfold RecoveryPass.prepareNodeRecovery
          dsimp only
          split
          · exact Or.inr rfl
          · split
            · exact Or.inr (by rw [GoMap.get_insert, if_neg (Ne.symm hid.1)])
            · exact Or.inr (by rw [GoMap.get_erase, if_neg (Ne.symm hid.1)])
        · exact hreach.trans (ih hid.2)
      · exact hreach.trans (ih hid.2)

/-- What is planned for a node that is online again. -/
theorem Informed.prepareNodeRecovery {stableID : Text}
    (details : ProxyStatusDetails) (h : Informed s log)
    (hnamed : stableID ≠ []) (hnow : p.now ≠ 0) :
    Informed (p.prepareNodeRecovery s stableID details).1 log ∧
      ((p.prepareNodeRecovery s stableID details).2 = [] ∨
        ∃ recoveredAt latency,
          (p.prepareNodeRecovery s stableID details).2 =
            [.recovery stableID recoveredAt latency] ∧
          Recovering (p.prepareNodeRecovery s stableID details).1 log stableID
            recoveredAt) := by
  have hseen : AlertState.orSet details.checkedAt p.now ≠ 0 := by
    unfold AlertState.orSet
    split
    · exact hnow
    · rename_i hset
      simpa [Time.isZero] using hset
  unfold RecoveryPass.prepareNodeRecovery
  dsimp only
  cases hstored : s.alerts[stableID]? with
  | none => exact ⟨h, Or.inl rfl⟩
  | some state =>
      have hread : s.state stableID = state := by
        rw [AlertService.state, hstored]
        rfl
      dsimp only
      split
      · rename_i hnotify
        rw [← hread] at hnotify
        obtain ⟨hagrees, hsent⟩ := h.notifies hnotify
        rw [hread] at hagrees hsent
        obtain ⟨hrecovered, hpending, hset, hsome⟩ :=
          Agrees.recovering hagrees hsent details.latency hseen
        refine ⟨⟨h.told, ?_⟩, Or.inr ⟨_, _, rfl, hnamed,
          hagrees.recovery_follows hsent, hset, ?_⟩⟩
        · intro other stored hin
          rw [GoMap.get_insert] at hin
          split at hin
          · rename_i hid
            cases hin
            rw [← hid]
            exact hrecovered
          · exact h.agrees other stored hin
        · intro stored hin
          rw [GoMap.get_insert, if_pos rfl] at hin
          cases hin
          exact ⟨hpending, rfl⟩
      · exact ⟨h.of_loses (clear_loses s (.node stableID)), Or.inl rfl⟩

theorem Informed.prepareAll {ids : List Text} (h : Informed s log)
    (hnodup : ids.Nodup) (hnamed : ∀ id ∈ ids, id ≠ []) (hnow : p.now ≠ 0) :
    Informed (p.prepareAll s ids).1 log ∧
      RecoveriesWait (p.prepareAll s ids).1 log (p.prepareAll s ids).2 ∧
      ((p.prepareAll s ids).2.flatMap (·.subjects)).Sublist ids := by
  induction ids generalizing s with
  | nil =>
      refine ⟨h, ?_, List.Sublist.refl _⟩
      intro message hmessage
      cases hmessage
  | cons id rest ih =>
      rw [List.nodup_cons] at hnodup
      rw [List.forall_mem_cons] at hnamed
      have hreached := h.of_loses (reach_loses p.toAlertSending (.reading id) s)
      have hskip := ih hreached hnodup.2 hnamed.2
      unfold RecoveryPass.prepareAll
      dsimp only
      split
      · rename_i details _
        split
        · obtain ⟨hinformed, hplanned⟩ :=
            hreached.prepareNodeRecovery details hnamed.1 hnow
          obtain ⟨hend, hwaits, hsub⟩ := ih hinformed hnodup.2 hnamed.2
          refine ⟨hend, ?_, ?_⟩
          · intro message hmessage
            rcases List.mem_append.mp hmessage with hown | hlater
            · rcases hplanned with hnone | ⟨recoveredAt, latency, hone, hrec⟩
              · rw [hnone] at hown
                cases hown
              · rw [hone, List.mem_singleton] at hown
                exact ⟨id, recoveredAt, latency, hown,
                  hrec.of_loses (prepareAll_other hnodup.1)⟩
            · exact hwaits message hlater
          · rcases hplanned with hnone | ⟨recoveredAt, latency, hone, -⟩
            · rw [hnone]
              exact hsub.cons _
            · rw [hone]
              exact hsub.cons_cons _
        · exact ⟨hskip.1, hskip.2.1, hskip.2.2.cons _⟩
      · exact ⟨hskip.1, hskip.2.1, hskip.2.2.cons _⟩

theorem Informed.notifyNodeRecoveries (h : Informed s log)
    (hnow : p.now ≠ 0) (hset : ∀ message, p.sentAt message ≠ 0)
    (hregular : p.cfg.Regular) :
    Informed (s.notifyNodeRecoveries p).1
      (log ++ (s.notifyNodeRecoveries p).2) := by
  unfold AlertService.notifyNodeRecoveries
  split
  · rw [List.append_nil]
    exact h
  have hnodup : (distinctBy id
      ((p.stableIDs.map trimSpace).filter (· ≠ []))).Nodup := by
    have := distinctBy_nodup id ((p.stableIDs.map trimSpace).filter (· ≠ []))
    rwa [List.map_id] at this
  have hnamed : ∀ stableID ∈ distinctBy id
      ((p.stableIDs.map trimSpace).filter (· ≠ [])), stableID ≠ [] := by
    intro stableID hin
    have hfiltered := (distinctBy_sublist id _).subset hin
    exact of_decide_eq_true (List.mem_filter.mp hfiltered).2
  obtain ⟨hend, hwaits, hsub⟩ := h.prepareAll (p := p) hnodup hnamed hnow
  dsimp only
  split
  · rw [List.append_nil]
    exact hend
  · exact hend.sendAll hwaits.canBeTold (hsub.nodup hnodup) hregular hset

end RecoveryPasses

section Runs

/-- What happens to the alerts of a running service. -/
inductive AlertEvent where
  | statuses (p : StatusPass)
  | recoveries (p : RecoveryPass)
  | cleared (clearing : Clearing)
  | refreshed (stableID : Text) (details : ProxyStatusDetails) (now : Time)

/-- The service, and what it has delivered. -/
structure AlertHistory where
  service : AlertService := {}
  log : List DeliveredAlert := []

namespace AlertHistory

def after (s : AlertHistory) (passed : AlertService × List DeliveredAlert) :
    AlertHistory where
  service := passed.1
  log := s.log ++ passed.2

def step (s : AlertHistory) : AlertEvent → AlertHistory
  | .statuses p => s.after (s.service.notifyNodeStatuses p)
  | .recoveries p => s.after (s.service.notifyNodeRecoveries p)
  | .cleared clearing => { s with service := s.service.clear clearing }
  | .refreshed stableID details now =>
      { s with
        service := s.service.updateAlertDiagnostics stableID details now }

/-- The clock is set, the durations do not wrap, and the nodes of a pass have
names of their own. -/
def Ordinary (_ : AlertHistory) : AlertEvent → Prop
  | .statuses p => p.now ≠ 0 ∧ (∀ message, p.sentAt message ≠ 0) ∧
      p.cfg.Regular ∧ (p.nodes.map (·.proxy.stableID)).Nodup ∧
      ∀ node ∈ p.nodes, node.proxy.stableID ≠ []
  | .recoveries p => p.now ≠ 0 ∧ (∀ message, p.sentAt message ≠ 0) ∧
      p.cfg.Regular
  | _ => True

theorem informed_step {s : AlertHistory} {event : AlertEvent}
    (h : Informed s.service s.log) (hevent : s.Ordinary event) :
    Informed (s.step event).service (s.step event).log := by
  cases event with
  | statuses p =>
      obtain ⟨hnow, hset, hregular, hnodup, hnamed⟩ := hevent
      exact h.notifyNodeStatuses hnow hset hregular hnodup hnamed
  | recoveries p =>
      obtain ⟨hnow, hset, hregular⟩ := hevent
      exact h.notifyNodeRecoveries hnow hset hregular
  | cleared clearing => exact h.of_loses (clear_loses _ clearing)
  | refreshed stableID details now => exact h.updateAlertDiagnostics

/-- What is delivered about a node comes in episodes: alerts numbered from one,
each reminder due after the alert before it, and a recovery right after an
alert. -/
theorem run_told {events : List AlertEvent}
    (hrun : Admissible step Ordinary {} events) (stableID : Text) :
    InEpisodes (newsAbout stableID (run step {} events).log) := by
  have hstart : Informed ({} : AlertHistory).service
      ({} : AlertHistory).log := by
    refine ⟨fun _ => InEpisodes.nil, ?_⟩
    intro id state hstate
    simp at hstate
  exact (run_invariant (fun s => Informed s.service s.log) hrun hstart
    fun _ _ h hevent => informed_step h hevent).told stableID

section Outage

theorem everyMinute_regular : everyMinute.Regular :=
  ⟨by decide, by decide⟩

def backOnline : RecoveryPass where
  cfg := everyMinute
  now := 1000000000000
  goesThrough := fun _ => true
  sentAt := fun _ => 1000000000001
  stableIDs := [" n1 ", "n1"]
  details := fun _ => some { online := true, status := .online }

/-- The node fails in four passes, and the third is before the reminder. -/
def outage : List AlertEvent :=
  [.statuses (failingPass 100000000000), .statuses (failingPass 200000000000),
    .statuses (failingPass 300000000000), .statuses (failingPass 600000000000),
    .recoveries backOnline]

theorem outage_ordinary : Admissible step Ordinary {} outage := by
  have hpass : ∀ (s : AlertHistory) (now : Time), now ≠ 0 →
      s.Ordinary (.statuses (failingPass now)) := fun s now hnow =>
    ⟨hnow, fun _ => Nat.succ_ne_zero now, everyMinute_regular,
      List.nodup_singleton _, List.forall_mem_singleton.mpr (by decide)⟩
  have hback : ∀ s : AlertHistory, s.Ordinary (.recoveries backOnline) :=
    fun _ => ⟨by decide, fun _ => Nat.succ_ne_zero 1000000000000,
      everyMinute_regular⟩
  simp only [outage, admissible_cons]
  exact ⟨hpass _ _ (by decide), hpass _ _ (by decide), hpass _ _ (by decide),
    hpass _ _ (by decide), hback _, admissible_nil _⟩

/-- Two alerts and the recovery are told. -/
theorem run_told_outage :
    (newsAbout "n1" (run step {} outage).log).map NodeNews.number =
        [some 1, some 2, none] ∧
      InEpisodes (newsAbout "n1" (run step {} outage).log) :=
  ⟨by decide +kernel, run_told outage_ordinary "n1"⟩

end Outage

end AlertHistory

end Runs

end XrayChecker.Telegram

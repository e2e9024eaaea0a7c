import XrayChecker.Machine.Run
import XrayChecker.Telegram.NodeAlerts

/-
What the operator is told about a node, over any run of the passes: alerts
numbered one after the other, each reminder no earlier than the schedule says
after the alert before it, and a recovery only right after an alert.

The messages about one node are its history.  The invariant ties the state kept
of the node to the last thing its history tells; a clearing loses the state,
and the history may then begin a new episode.
-/

namespace XrayChecker.Telegram

open Go Checker Machine

/-- What was delivered about one node. -/
inductive NodeNews where
  | alert (number : Nat) (cfg : NodeAlertConfig) (now sentAt : Time)
  | recovery

/-- The number of an alert. -/
def NodeNews.number : NodeNews → Option Nat
  | .alert number _ _ _ => some number
  | .recovery => none

/-- What a delivered message says about the node. -/
def DeliveredAlert.about (stableID : Text) (d : DeliveredAlert) :
    List NodeNews :=
  match d.message with
  | .recovery recovered _ _ =>
      if recovered = stableID then [.recovery] else []
  | message =>
      (message.alerts.filter (·.proxy.stableID = stableID)).map fun alert =>
        .alert alert.state.alertCount d.cfg d.now d.sentAt

/-- The history of the node. -/
def newsAbout (stableID : Text) (log : List DeliveredAlert) : List NodeNews :=
  log.flatMap (·.about stableID)

/-- The news may come after the history: a first alert any time, the next one
once its reminder is due, a recovery right after an alert. -/
inductive Follows (history : List NodeNews) : NodeNews → Prop where
  | first (cfg : NodeAlertConfig) (now sentAt : Time) :
      Follows history (.alert 1 cfg now sentAt)
  | next (number : Nat) (cfg before : NodeAlertConfig)
      (now sentAt decidedAt since : Time) :
      history.getLast? = some (.alert number before decidedAt since) →
      nextAlertAt since number before ≤ now →
      Follows history (.alert (number + 1) cfg now sentAt)
  | recovery (number : Nat) (cfg : NodeAlertConfig) (now sentAt : Time) :
      history.getLast? = some (.alert number cfg now sentAt) →
      Follows history .recovery

/-- Every piece of news may come after those before it. -/
inductive InEpisodes : List NodeNews → Prop where
  | nil : InEpisodes []
  | snoc (history : List NodeNews) (news : NodeNews) :
      InEpisodes history → Follows history news → InEpisodes (history ++ [news])

/-- The alert that was delivered last, and the state that it left. -/
structure LastAlert (history : List NodeNews) (state : AlertState)
    (cfg : NodeAlertConfig) (now : Time) : Prop where
  told : history.getLast? =
    some (.alert state.alertCount cfg now state.lastAlert)
  next : state.nextAlert = nextAlertAt state.lastAlert state.alertCount cfg
  set : state.nextAlert ≠ 0

/-- The state of a node agrees with the history of the node. -/
structure Agrees (history : List NodeNews) (state : AlertState) : Prop where
  wasDown : state.wasDown = true
  schedule : nodeDownAlertWasSent state = false ∨
    ∃ cfg now, LastAlert history state cfg now
  pending : state.recoveryPending = true →
    nodeDownAlertWasSent state = true ∧ state.recoveredAt ≠ 0

/-- The service agrees with what it has delivered. -/
structure Informed (s : AlertService) (log : List DeliveredAlert) : Prop where
  told : ∀ stableID, InEpisodes (newsAbout stableID log)
  agrees : ∀ stableID state, s.alerts[stableID]? = some state →
    Agrees (newsAbout stableID log) state

/-- Durations of the schedule that do not wrap around. -/
structure NodeAlertConfig.Regular (cfg : NodeAlertConfig) : Prop where
  schedule : ∀ minutes ∈ cfg.alertReminderScheduleMinutes,
    0 ≤ minutes ∧ minutes ≤ 153722867
  most : 0 ≤ cfg.alertMaxReminderMinutes ∧
    cfg.alertMaxReminderMinutes ≤ 153722867

section States

variable {history : List NodeNews} {state : AlertState} {cfg : NodeAlertConfig}
  {details : ProxyStatusDetails} {now sentAt : Time} {isMuted : Bool}

theorem nodeDownAlertWasSent_eq_false :
    nodeDownAlertWasSent state = false ↔
      state.alertCount = 0 ∧ state.lastAlert = 0 := by
  simp [nodeDownAlertWasSent, Time.isZero]

theorem shouldNotifyNodeRecovery_eq_true :
    shouldNotifyNodeRecovery state cfg isMuted = true ↔
      isMuted = false ∧ cfg.notifyRecovery = true ∧ state.wasDown = true ∧
        nodeDownAlertWasSent state = true := by
  unfold shouldNotifyNodeRecovery
  cases isMuted <;> cases cfg.notifyRecovery <;> cases state.wasDown <;> simp

/-- A reminder comes no earlier than the alert before it. -/
theorem NodeAlertConfig.Regular.le_nextAlertAt (hcfg : cfg.Regular)
    (since : Time) (number : Nat) : since ≤ nextAlertAt since number cfg := by
  have hminutes : 0 ≤ nextAlertIntervalMinutes number cfg ∧
      nextAlertIntervalMinutes number cfg ≤ 153722867 := by
    unfold nextAlertIntervalMinutes
    split
    · exact ⟨le_refl _, by decide⟩
    · cases hat : cfg.alertReminderScheduleMinutes[number - 1]? with
      | none => exact hcfg.most
      | some minutes => exact hcfg.schedule _ (List.mem_of_getElem? hat)
  have hduration : durationMinutes (nextAlertIntervalMinutes number cfg) =
      nextAlertIntervalMinutes number cfg * 60000000000 := by
    unfold durationMinutes
    rw [Int.bmod_eq_of_le] <;> omega
  have hnonneg := Int.natCast_nonneg since
  rw [nextAlertAt, hduration, Int.le_toNat] <;> omega

/-- Two states schedule the same alerts. -/
structure SameSchedule (state other : AlertState) : Prop where
  wasDown : other.wasDown = state.wasDown
  alertCount : other.alertCount = state.alertCount
  lastAlert : other.lastAlert = state.lastAlert
  nextAlert : other.nextAlert = state.nextAlert
  recoveryPending : other.recoveryPending = state.recoveryPending
  recoveredAt : other.recoveredAt = state.recoveredAt

theorem SameSchedule.wasSent {other : AlertState}
    (h : SameSchedule state other) :
    nodeDownAlertWasSent other = nodeDownAlertWasSent state := by
  rw [nodeDownAlertWasSent, nodeDownAlertWasSent, h.alertCount, h.lastAlert]

theorem Agrees.of_same {other : AlertState} (h : Agrees history state)
    (hsame : SameSchedule state other) : Agrees history other where
  wasDown := hsame.wasDown.trans h.wasDown
  schedule := by
    rw [hsame.wasSent]
    refine h.schedule.imp_right ?_
    rintro ⟨cfg, now, hlast⟩
    refine ⟨cfg, now, ?_, ?_, ?_⟩
    · rw [hsame.alertCount, hsame.lastAlert]
      exact hlast.told
    · rw [hsame.alertCount, hsame.lastAlert, hsame.nextAlert]
      exact hlast.next
    · rw [hsame.nextAlert]
      exact hlast.set
  pending := by
    rw [hsame.recoveryPending, hsame.wasSent, hsame.recoveredAt]
    exact h.pending

/-- Reading the diagnostics again changes the schedule of no alert. -/
theorem rediagnosed_same (state : AlertState) (details : ProxyStatusDetails)
    (now : Time) : SameSchedule state (state.rediagnosed details now) := by
  have hreclassified : SameSchedule state (state.reclassified details now) := by
    unfold AlertState.reclassified
    dsimp only
    split
    · split <;> exact ⟨rfl, rfl, rfl, rfl, rfl, rfl⟩
    · split <;> exact ⟨rfl, rfl, rfl, rfl, rfl, rfl⟩
  obtain ⟨hdown, hcount, hlast, hnext, hpending, hat⟩ := hreclassified
  exact ⟨hdown, hcount, hlast, hnext, hpending, hat⟩

/-- What a failing pass keeps. -/
theorem counted_schedule (state : AlertState) (details : ProxyStatusDetails)
    (now : Time) :
    SameSchedule
      { state with wasDown := true, recoveryPending := false, recoveredAt := 0 }
      (state.counted details now) := by
  unfold AlertState.counted AlertState.withIssueSince
  split <;> exact ⟨rfl, rfl, rfl, rfl, rfl, rfl⟩

/-- The first alert of an episode that fails anew. -/
theorem Agrees.counted (h : state = {} ∨ Agrees history state) :
    Agrees history (state.counted details now) := by
  apply Agrees.of_same _ (counted_schedule state details now)
  refine ⟨rfl, ?_, fun hpending => absurd hpending Bool.false_ne_true⟩
  rcases h with rfl | h
  · exact Or.inl rfl
  · refine h.schedule.imp_right ?_
    rintro ⟨cfg, decidedAt, htold, hnext, hset⟩
    exact ⟨cfg, decidedAt, htold, hnext, hset⟩

theorem Agrees.withSchedule (h : Agrees history state) :
    Agrees history (state.withSchedule cfg isMuted now) := by
  unfold AlertState.withSchedule
  split
  · rename_i hfirst
    refine ⟨h.wasDown, ?_, h.pending⟩
    rcases h.schedule with hnew | ⟨before, decidedAt, hlast⟩
    · exact Or.inl hnew
    · simp [Time.isZero, hlast.set] at hfirst
  · exact h

theorem Agrees.failing (h : state = {} ∨ Agrees history state) :
    Agrees history (state.failing details cfg isMuted now) :=
  (Agrees.counted h).withSchedule

theorem Agrees.recovered (h : Agrees history state) {latency : Int}
    (hsent : nodeDownAlertWasSent state = true) (hnow : now ≠ 0) :
    Agrees history (state.recovered latency now) := by
  unfold AlertState.recovered
  split
  · exact h
  · refine ⟨h.wasDown, ?_, fun _ => ⟨hsent, hnow⟩⟩
    refine h.schedule.imp_right ?_
    rintro ⟨before, decidedAt, htold, hnext, hset⟩
    exact ⟨before, decidedAt, htold, hnext, hset⟩

/-- A due alert may follow, and is the last one once it was sent. -/
theorem Agrees.alerted (h : Agrees history state) (hcfg : cfg.Regular)
    (hsentAt : sentAt ≠ 0) :
    Agrees (history ++ [.alert (state.alertCount + 1) cfg now sentAt])
      (state.alerted sentAt cfg) where
  wasDown := h.wasDown
  schedule := by
    refine Or.inr ⟨cfg, now, List.getLast?_concat, rfl, ?_⟩
    have hle := hcfg.le_nextAlertAt sentAt (state.alertCount + 1)
    exact Nat.ne_of_gt (lt_of_lt_of_le (Nat.pos_of_ne_zero hsentAt) hle)
  pending hpending :=
    ⟨by simp [nodeDownAlertWasSent, AlertState.alerted], (h.pending hpending).2⟩

theorem Agrees.follows (h : Agrees history state)
    (hdue : state.nextAlert ≤ now) :
    Follows history (.alert (state.alertCount + 1) cfg now sentAt) := by
  rcases h.schedule with hnew | ⟨before, decidedAt, hlast⟩
  · rw [(nodeDownAlertWasSent_eq_false.mp hnew).1]
    exact Follows.first cfg now sentAt
  · refine Follows.next _ cfg before now sentAt decidedAt state.lastAlert
      hlast.told ?_
    rw [← hlast.next]
    exact hdue

/-- A recovery follows an alert. -/
theorem Agrees.recovery_follows (h : Agrees history state)
    (hsent : nodeDownAlertWasSent state = true) :
    Follows history .recovery := by
  rcases h.schedule with hnew | ⟨before, decidedAt, hlast⟩
  · rw [hnew] at hsent
    cases hsent
  · exact Follows.recovery _ _ _ _ hlast.told

end States

section Services

variable {s t : AlertService} {log : List DeliveredAlert} {stableID : Text}

/-- The state of the node was lost at most. -/
def LosesAt (s t : AlertService) (stableID : Text) : Prop :=
  t.alerts[stableID]? = none ∨ t.alerts[stableID]? = s.alerts[stableID]?

/-- State was lost at most. -/
def Loses (s t : AlertService) : Prop :=
  ∀ stableID : Text, LosesAt s t stableID

theorem LosesAt.get {state : AlertState} (h : LosesAt s t stableID)
    (hstate : t.alerts[stableID]? = some state) :
    s.alerts[stableID]? = some state := by
  rcases h with hnone | hsame
  · rw [hnone] at hstate
    cases hstate
  · rw [← hsame, hstate]

theorem LosesAt.trans {u : AlertService} (h : LosesAt s t stableID)
    (h' : LosesAt t u stableID) : LosesAt s u stableID := by
  rcases h' with hnone | hsame
  · exact Or.inl hnone
  · rcases h with hnone | hbefore
    · exact Or.inl (hsame.trans hnone)
    · exact Or.inr (hsame.trans hbefore)

theorem Loses.refl (s : AlertService) : Loses s s :=
  fun _ => Or.inr rfl

theorem Loses.trans {u : AlertService} (h : Loses s t) (h' : Loses t u) :
    Loses s u :=
  fun stableID => (h stableID).trans (h' stableID)

theorem clear_loses (s : AlertService) (cleared : Clearing) :
    Loses s (s.clear cleared) := by
  intro stableID
  cases cleared with
  | node other =>
      rw [LosesAt, AlertService.clear, GoMap.get_erase]
      split
      · exact Or.inl rfl
      · exact Or.inr rfl
  | all => exact Or.inl (by simp [AlertService.clear])

theorem reach_loses (p : AlertSending) (point : PassPoint) (s : AlertService) :
    Loses s (p.reach point s) := by
  unfold AlertSending.reach
  induction p.cleared point generalizing s with
  | nil => exact Loses.refl s
  | cons cleared rest ih => exact (clear_loses s cleared).trans (ih _)

theorem keepActive_loses (s : AlertService) (active : GoMap Text Bool) :
    Loses s (s.keepActive active) := by
  intro stableID
  rw [LosesAt, AlertService.keepActive, Std.ExtTreeMap.getElem?_filter']
  cases s.alerts[stableID]? with
  | none => exact Or.inl rfl
  | some state =>
      by_cases hkept : (active[stableID]?).getD false = true
      · right
        simp [hkept]
      · left
        simp [hkept]

theorem Informed.of_loses (h : Informed s log) (hloses : Loses s t) :
    Informed t log where
  told := h.told
  agrees stableID _ hstate :=
    h.agrees stableID _ ((hloses stableID).get hstate)

/-- What a pass reads of a node. -/
theorem Informed.read (h : Informed s log) (stableID : Text) :
    s.state stableID = {} ∨
      Agrees (newsAbout stableID log) (s.state stableID) := by
  unfold AlertService.state
  cases hstate : s.alerts[stableID]? with
  | none => exact Or.inl rfl
  | some state => exact Or.inr (h.agrees stableID state hstate)

theorem get_of_state_ne (hstate : s.state stableID ≠ {}) :
    s.alerts[stableID]? = some (s.state stableID) := by
  unfold AlertService.state at hstate ⊢
  cases hget : s.alerts[stableID]? with
  | none =>
      rw [hget] at hstate
      exact absurd rfl hstate
  | some state => rfl

theorem get_store (s : AlertService) (stableID other : Text)
    (state : AlertState) :
    (s.store stableID state).alerts[other]? =
      if stableID = other then (if state = {} then none else some state)
      else s.alerts[other]? := by
  unfold AlertService.store
  by_cases hstate : state = {}
  · simp only [if_pos hstate, GoMap.get_erase]
  · simp only [if_neg hstate, GoMap.get_insert]

theorem Informed.store {state : AlertState} (h : Informed s log)
    (hstate : state = {} ∨ Agrees (newsAbout stableID log) state) :
    Informed (s.store stableID state) log where
  told := h.told
  agrees other stored hstored := by
    rw [get_store] at hstored
    by_cases hid : stableID = other
    · subst hid
      rw [if_pos rfl] at hstored
      by_cases hempty : state = {}
      · rw [if_pos hempty] at hstored
        cases hstored
      · rw [if_neg hempty] at hstored
        cases hstored
        exact hstate.resolve_left hempty
    · rw [if_neg hid] at hstored
      exact h.agrees other stored hstored

/-- The nodes a message is about. -/
def NodeMessage.subjects : NodeMessage → List Text
  | .recovery stableID _ _ => [stableID]
  | message => message.alerts.map (·.proxy.stableID)

/-- The recovery of the node can be told. -/
structure Recovering (s : AlertService) (log : List DeliveredAlert)
    (stableID : Text) (recoveredAt : Time) : Prop where
  named : stableID ≠ []
  follows : Follows (newsAbout stableID log) .recovery
  set : recoveredAt ≠ 0
  waits : ∀ state, s.alerts[stableID]? = some state →
    state.recoveryPending = true ∧ state.recoveredAt = recoveredAt

/-- The alert was decided on from the state that the node still has, if it has
any. -/
structure Decided (p : AlertSending) (s : AlertService)
    (log : List DeliveredAlert) (alert : NodeDownAlert) : Prop where
  named : alert.proxy.stableID ≠ []
  fixed : ∃ state, alert.state = (state.alerted p.now p.cfg).shown ∧
    Agrees (newsAbout alert.proxy.stableID log) state ∧
    state.nextAlert ≤ p.now ∧
    ∀ stored, s.alerts[alert.proxy.stableID]? = some stored → stored = state

/-- The message can be sent. -/
structure CanBeTold (p : AlertSending) (s : AlertService)
    (log : List DeliveredAlert) (message : NodeMessage) : Prop where
  alerts : ∀ alert ∈ message.alerts, Decided p s log alert
  recovery : ∀ stableID recoveredAt latency,
    message = .recovery stableID recoveredAt latency →
    Recovering s log stableID recoveredAt

theorem Recovering.of_loses {recoveredAt : Time}
    (h : Recovering s log stableID recoveredAt)
    (hloses : LosesAt s t stableID) :
    Recovering t log stableID recoveredAt where
  named := h.named
  follows := h.follows
  set := h.set
  waits state hstate := h.waits state (hloses.get hstate)

theorem Decided.of_loses {p : AlertSending} {alert : NodeDownAlert}
    (h : Decided p s log alert) (hloses : LosesAt s t alert.proxy.stableID) :
    Decided p t log alert where
  named := h.named
  fixed := by
    obtain ⟨state, hshown, hagrees, hdue, hfixed⟩ := h.fixed
    exact ⟨state, hshown, hagrees, hdue,
      fun stored hstored => hfixed stored (hloses.get hstored)⟩

theorem CanBeTold.of_loses {p : AlertSending} {message : NodeMessage}
    (h : CanBeTold p s log message) (hloses : Loses s t) :
    CanBeTold p t log message where
  alerts alert halert := (h.alerts alert halert).of_loses (hloses _)
  recovery stableID recoveredAt latency hrecovery :=
    (h.recovery stableID recoveredAt latency hrecovery).of_loses (hloses _)

theorem mem_subjects {message : NodeMessage} {alert : NodeDownAlert}
    (halert : alert ∈ message.alerts) :
    alert.proxy.stableID ∈ message.subjects := by
  cases message with
  | recovery stableID recoveredAt latency => cases halert
  | mass group => exact List.mem_map_of_mem halert
  | grouped alerts => exact List.mem_map_of_mem halert
  | single alert => exact List.mem_map_of_mem halert

end Services

section Sending

variable {s : AlertService} {log : List DeliveredAlert} {stableID : Text}
  {p : AlertSending} {message : NodeMessage}

theorem newsAbout_append (stableID : Text) (log sent : List DeliveredAlert) :
    newsAbout stableID (log ++ sent) =
      newsAbout stableID log ++ newsAbout stableID sent :=
  List.flatMap_append

/-- A message tells nothing of other nodes. -/
theorem about_other (d : DeliveredAlert)
    (hother : stableID ∉ d.message.subjects) : d.about stableID = [] := by
  have hnone : ∀ alerts : List NodeDownAlert,
      stableID ∉ alerts.map (·.proxy.stableID) →
      alerts.filter (·.proxy.stableID = stableID) = [] := by
    intro alerts hnot
    rw [List.filter_eq_nil_iff]
    intro alert halert hid
    exact hnot (List.mem_map.mpr ⟨alert, halert, of_decide_eq_true hid⟩)
  unfold DeliveredAlert.about
  unfold NodeMessage.subjects at hother
  cases hmessage : d.message with
  | recovery recovered recoveredAt latency =>
      rw [hmessage] at hother
      exact if_neg fun hid => hother (by simp [hid])
  | mass group =>
      rw [hmessage] at hother
      simp only [hnone _ hother, List.map_nil]
  | grouped alerts =>
      rw [hmessage] at hother
      simp only [hnone _ hother, List.map_nil]
  | single alert =>
      rw [hmessage] at hother
      simp only [hnone _ hother, List.map_nil]

/-- Of distinct nodes, one alert is about the node. -/
theorem filter_of_nodup {alerts : List NodeDownAlert} {alert : NodeDownAlert}
    (hnodup : (alerts.map (·.proxy.stableID)).Nodup)
    (halert : alert ∈ alerts) :
    alerts.filter (·.proxy.stableID = alert.proxy.stableID) = [alert] := by
  induction alerts with
  | nil => cases halert
  | cons head rest ih =>
      rw [List.map_cons, List.nodup_cons] at hnodup
      rcases List.mem_cons.mp halert with rfl | hrest
      · rw [List.filter_cons_of_pos (by simp)]
        congr 1
        rw [List.filter_eq_nil_iff]
        intro other hother hid
        exact hnodup.1 (List.mem_map.mpr
          ⟨other, hother, of_decide_eq_true hid⟩)
      · rw [List.filter_cons_of_neg, ih hnodup.2 hrest]
        intro hid
        exact hnodup.1 (List.mem_map.mpr
          ⟨alert, hrest, (of_decide_eq_true hid).symm⟩)

section Confirming

variable {alerts : List NodeDownAlert} {alert : NodeDownAlert} {sentAt : Time}
  {cfg : NodeAlertConfig}

theorem confirmDown_other (hother : stableID ≠ alert.proxy.stableID) :
    (s.confirmDown alert sentAt cfg).alerts[stableID]? =
      s.alerts[stableID]? := by
  unfold AlertService.confirmDown
  dsimp only
  split
  · rfl
  · split
    · rfl
    · rw [GoMap.get_insert, if_neg (Ne.symm hother)]

theorem confirmAll_other
    (hother : stableID ∉ alerts.map (·.proxy.stableID)) :
    (s.confirmNodeDownAlertsSent alerts sentAt cfg).alerts[stableID]? =
      s.alerts[stableID]? := by
  unfold AlertService.confirmNodeDownAlertsSent
  induction alerts generalizing s with
  | nil => rfl
  | cons head rest ih =>
      rw [List.map_cons, List.mem_cons, not_or] at hother
      rw [List.foldl_cons, ih hother.2, confirmDown_other hother.1]

/-- Confirming an alert whose node has the state it was decided from. -/
theorem confirmDown_self {state : AlertState} {decided : Time}
    (hnamed : alert.proxy.stableID ≠ []) (hdown : state.wasDown = true)
    (hshown : alert.state = (state.alerted decided cfg).shown)
    (hfixed : ∀ stored, s.alerts[alert.proxy.stableID]? = some stored →
      stored = state) :
    (s.confirmDown alert sentAt cfg).alerts[alert.proxy.stableID]? =
      (s.alerts[alert.proxy.stableID]?).map (·.alerted sentAt cfg) := by
  unfold AlertService.confirmDown AlertService.state
  cases hstored : s.alerts[alert.proxy.stableID]? with
  | none => simp [hnamed, hstored]
  | some stored =>
      rw [hfixed stored hstored]
      have hset : state ≠ {} := by
        rintro rfl
        cases hdown
      have hstatus : nodeAlertStatus state.shown =
          nodeAlertStatus alert.state := by
        rw [hshown]
        rfl
      simp [hnamed, hset, hdown, hstatus]

theorem confirmAll_self {state : AlertState} {decided : Time}
    (halert : alert ∈ alerts)
    (hnodup : (alerts.map (·.proxy.stableID)).Nodup)
    (hnamed : alert.proxy.stableID ≠ []) (hdown : state.wasDown = true)
    (hshown : alert.state = (state.alerted decided cfg).shown)
    (hfixed : ∀ stored, s.alerts[alert.proxy.stableID]? = some stored →
      stored = state) :
    (s.confirmNodeDownAlertsSent alerts sentAt
        cfg).alerts[alert.proxy.stableID]? =
      (s.alerts[alert.proxy.stableID]?).map (·.alerted sentAt cfg) := by
  induction alerts generalizing s with
  | nil => cases halert
  | cons head rest ih =>
      rw [List.map_cons, List.nodup_cons] at hnodup
      rcases List.mem_cons.mp halert with rfl | hrest
      · exact (confirmAll_other hnodup.1).trans
          (confirmDown_self hnamed hdown hshown hfixed)
      · have hother : alert.proxy.stableID ≠ head.proxy.stableID := by
          intro hid
          exact hnodup.1 (List.mem_map.mpr ⟨alert, hrest, hid⟩)
        have hsame := @confirmDown_other s alert.proxy.stableID head sentAt cfg
          hother
        rw [← hsame]
        exact ih hrest hnodup.2 (by rw [hsame]; exact hfixed)

end Confirming

end Sending

section Delivering

variable {s : AlertService} {log : List DeliveredAlert} {p : AlertSending}
  {message : NodeMessage}

/-- What a delivered message with alerts tells of a node. -/
theorem Informed.sent_alerts {alerts : List NodeDownAlert} {sentAt : Time}
    {d : DeliveredAlert} (h : Informed s log)
    (habout : ∀ stableID, d.about stableID =
      (alerts.filter (·.proxy.stableID = stableID)).map fun alert =>
        .alert alert.state.alertCount p.cfg p.now sentAt)
    (hdecided : ∀ alert ∈ alerts, Decided p s log alert)
    (hnodup : (alerts.map (·.proxy.stableID)).Nodup)
    (hregular : p.cfg.Regular) (hset : sentAt ≠ 0) :
    Informed (s.confirmNodeDownAlertsSent alerts sentAt p.cfg)
      (log ++ [d]) := by
  have hnews : ∀ stableID, newsAbout stableID (log ++ [d]) =
      newsAbout stableID log ++ d.about stableID := by
    intro stableID
    rw [newsAbout_append]
    simp [newsAbout]
  have hother : ∀ stableID, stableID ∉ alerts.map (·.proxy.stableID) →
      d.about stableID = [] := by
    intro stableID hnot
    rw [habout, List.map_eq_nil_iff, List.filter_eq_nil_iff]
    intro alert halert hid
    exact hnot (List.mem_map.mpr ⟨alert, halert, of_decide_eq_true hid⟩)
  have hself : ∀ alert ∈ alerts, d.about alert.proxy.stableID =
      [.alert alert.state.alertCount p.cfg p.now sentAt] := by
    intro alert halert
    rw [habout, filter_of_nodup hnodup halert]
    rfl
  constructor
  · intro stableID
    rw [hnews]
    by_cases hid : stableID ∈ alerts.map (·.proxy.stableID)
    · obtain ⟨alert, halert, rfl⟩ := List.mem_map.mp hid
      obtain ⟨state, hshown, hagrees, hdue, -⟩ := (hdecided alert halert).fixed
      rw [hself alert halert, hshown]
      exact InEpisodes.snoc _ _ (h.told _) (hagrees.follows hdue)
    · rw [hother stableID hid, List.append_nil]
      exact h.told stableID
  · intro stableID stored hstored
    rw [hnews]
    by_cases hid : stableID ∈ alerts.map (·.proxy.stableID)
    · obtain ⟨alert, halert, rfl⟩ := List.mem_map.mp hid
      obtain ⟨state, hshown, hagrees, hdue, hfixed⟩ :=
        (hdecided alert halert).fixed
      rw [confirmAll_self halert hnodup (hdecided alert halert).named
        hagrees.wasDown hshown hfixed] at hstored
      obtain ⟨before, hbefore, rfl⟩ := Option.map_eq_some_iff.mp hstored
      rw [hself alert halert, hshown, hfixed before hbefore]
      exact hagrees.alerted hregular hset
    · rw [hother stableID hid, List.append_nil]
      rw [confirmAll_other hid] at hstored
      exact h.agrees stableID stored hstored

theorem confirmRecovery_other {stableID other : Text} {recoveredAt : Time}
    (hother : other ≠ stableID) :
    (s.confirmNodeRecoverySent stableID recoveredAt).alerts[other]? =
      s.alerts[other]? := by
  unfold AlertService.confirmNodeRecoverySent
  split
  · rfl
  · split
    · rfl
    · split
      · rw [GoMap.get_erase, if_neg (Ne.symm hother)]
      · rfl

/-- A confirmed recovery ends the episode. -/
theorem confirmRecovery_self {stableID : Text} {recoveredAt : Time}
    (h : Recovering s log stableID recoveredAt) :
    (s.confirmNodeRecoverySent stableID recoveredAt).alerts[stableID]? =
      none := by
  unfold AlertService.confirmNodeRecoverySent
  rw [if_neg (by simp [h.named, Time.isZero, h.set])]
  cases hstored : s.alerts[stableID]? with
  | none => exact hstored
  | some state =>
      dsimp only
      rw [if_pos (h.waits state hstored), GoMap.get_erase, if_pos rfl]

theorem Informed.sent_recovery {stableID : Text} {recoveredAt : Time}
    {latency : Int} {d : DeliveredAlert} (h : Informed s log)
    (hmessage : d.message = .recovery stableID recoveredAt latency)
    (hrecovering : Recovering s log stableID recoveredAt) :
    Informed (s.confirmNodeRecoverySent stableID recoveredAt) (log ++ [d]) := by
  have hnews : ∀ other, newsAbout other (log ++ [d]) =
      newsAbout other log ++ if stableID = other then [.recovery] else [] := by
    intro other
    rw [newsAbout_append]
    simp [newsAbout, DeliveredAlert.about, hmessage]
  constructor
  · intro other
    rw [hnews]
    by_cases hid : stableID = other
    · subst hid
      rw [if_pos rfl]
      exact InEpisodes.snoc _ _ (h.told _) hrecovering.follows
    · rw [if_neg hid, List.append_nil]
      exact h.told other
  · intro other stored hstored
    rw [hnews]
    by_cases hid : stableID = other
    · subst hid
      rw [confirmRecovery_self hrecovering] at hstored
      cases hstored
    · rw [confirmRecovery_other (Ne.symm hid)] at hstored
      rw [if_neg hid, List.append_nil]
      exact h.agrees other stored hstored

theorem Informed.sent (h : Informed s log)
    (hmessage : CanBeTold p s log message)
    (hnodup : message.subjects.Nodup) (hregular : p.cfg.Regular)
    (hset : p.sentAt message ≠ 0) :
    Informed (p.confirm s message) (log ++ [p.delivery message]) := by
  cases message with
  | recovery stableID recoveredAt latency =>
      exact h.sent_recovery rfl (hmessage.recovery _ _ _ rfl)
  | mass group =>
      exact h.sent_alerts (fun _ => rfl) hmessage.alerts hnodup hregular hset
  | grouped alerts =>
      exact h.sent_alerts (fun _ => rfl) hmessage.alerts hnodup hregular hset
  | single alert =>
      exact h.sent_alerts (fun _ => rfl) hmessage.alerts hnodup hregular hset

/-- Sending touches the nodes of the message only. -/
theorem confirm_other {stableID : Text} (hother : stableID ∉ message.subjects) :
    (p.confirm s message).alerts[stableID]? = s.alerts[stableID]? := by
  cases message with
  | recovery recovered recoveredAt latency =>
      exact confirmRecovery_other fun hid =>
        hother (List.mem_singleton.mpr hid)
  | mass group => exact confirmAll_other hother
  | grouped alerts => exact confirmAll_other hother
  | single alert => exact confirmAll_other hother

theorem newsAbout_other {stableID : Text}
    (hother : stableID ∉ message.subjects) :
    newsAbout stableID (log ++ [p.delivery message]) =
      newsAbout stableID log := by
  rw [newsAbout_append]
  simp [newsAbout, about_other (p.delivery message) hother]

theorem CanBeTold.after {later : NodeMessage} (h : CanBeTold p s log later)
    (hdisjoint : List.Disjoint later.subjects message.subjects) :
    CanBeTold p (p.confirm s message) (log ++ [p.delivery message]) later := by
  constructor
  · intro alert halert
    have hother := hdisjoint (mem_subjects halert)
    have hsame := @confirm_other s p message _ hother
    obtain ⟨hnamed, state, hshown, hagrees, hdue, hfixed⟩ :=
      h.alerts alert halert
    refine ⟨hnamed, state, hshown, ?_, hdue, ?_⟩
    · rw [newsAbout_other hother]
      exact hagrees
    · rw [hsame]
      exact hfixed
  · intro stableID recoveredAt latency hlater
    have hother : stableID ∉ message.subjects := by
      apply hdisjoint
      rw [hlater]
      exact List.mem_singleton_self stableID
    have hrecovering := h.recovery stableID recoveredAt latency hlater
    refine ⟨hrecovering.named, ?_, hrecovering.set, ?_⟩
    · rw [newsAbout_other hother]
      exact hrecovering.follows
    · rw [confirm_other hother]
      exact hrecovering.waits

/-- The messages of a pass keep the service informed, whichever of them go
through and whatever is cleared between them. -/
theorem Informed.sendAll {messages : List NodeMessage} (h : Informed s log)
    (hall : ∀ message ∈ messages, CanBeTold p s log message)
    (hnodup : (messages.flatMap (·.subjects)).Nodup)
    (hregular : p.cfg.Regular) (hset : ∀ message, p.sentAt message ≠ 0) :
    Informed (p.sendAll s messages).1 (log ++ (p.sendAll s messages).2) := by
  induction messages generalizing s log with
  | nil => simpa [AlertSending.sendAll] using h
  | cons message rest ih =>
      rw [List.flatMap_cons, List.nodup_append'] at hnodup
      obtain ⟨hown, hrest, hdisjoint⟩ := hnodup
      rw [List.forall_mem_cons] at hall
      have hreach := reach_loses p (.sending message) s
      unfold AlertSending.sendAll
      dsimp only
      by_cases hthrough : p.goesThrough message = true
      · rw [if_pos hthrough]
        have hlost := hreach.trans (reach_loses p (.confirming message) _)
        have hsent := (h.of_loses hlost).sent (hall.1.of_loses hlost) hown
          hregular (hset message)
        have hthen := ih hsent (fun later hlater =>
          ((hall.2 later hlater).of_loses hlost).after fun id hid hin =>
            hdisjoint hin (List.mem_flatMap.mpr ⟨later, hlater, hid⟩)) hrest
        rw [List.append_assoc, List.singleton_append] at hthen
        exact hthen
      · rw [if_neg hthrough]
        exact ih (h.of_loses hreach)
          (fun later hlater => (hall.2 later hlater).of_loses hreach) hrest

end Delivering

section Reading

variable {s : AlertService} {log : List DeliveredAlert}

/-- The recoveries of a plan can be told. -/
def RecoveriesWait (s : AlertService) (log : List DeliveredAlert)
    (recoveries : List NodeMessage) : Prop :=
  ∀ message ∈ recoveries, ∃ stableID recoveredAt latency,
    message = .recovery stableID recoveredAt latency ∧
      Recovering s log stableID recoveredAt

theorem RecoveriesWait.of_loses {t : AlertService}
    {recoveries : List NodeMessage} (h : RecoveriesWait s log recoveries)
    (hloses : ∀ message ∈ recoveries, ∀ stableID ∈ message.subjects,
      LosesAt s t stableID) : RecoveriesWait t log recoveries := by
  intro message hmessage
  obtain ⟨stableID, recoveredAt, latency, rfl, hrecovering⟩ :=
    h message hmessage
  exact ⟨stableID, recoveredAt, latency, rfl, hrecovering.of_loses
    (hloses _ hmessage stableID (List.mem_singleton_self stableID))⟩

theorem RecoveriesWait.canBeTold {p : AlertSending}
    {recoveries : List NodeMessage} (h : RecoveriesWait s log recoveries) :
    ∀ message ∈ recoveries, CanBeTold p s log message := by
  intro message hmessage
  obtain ⟨stableID, recoveredAt, latency, rfl, hrecovering⟩ :=
    h message hmessage
  constructor
  · intro alert halert
    cases halert
  · intro other since later hsame
    cases hsame
    exact hrecovering

/-- A node whose recovery is told has state that agrees. -/
theorem Informed.notifies {stableID : Text} {cfg : NodeAlertConfig}
    {isMuted : Bool} (h : Informed s log)
    (hnotify : shouldNotifyNodeRecovery (s.state stableID) cfg isMuted = true) :
    Agrees (newsAbout stableID log) (s.state stableID) ∧
      nodeDownAlertWasSent (s.state stableID) = true := by
  have hsent := (shouldNotifyNodeRecovery_eq_true.mp hnotify).2.2.2
  refine ⟨(h.read stableID).resolve_left ?_, hsent⟩
  intro hnew
  rw [hnew] at hsent
  cases hsent

/-- The recovery of such a node waits to be told. -/
theorem Agrees.recovering {history : List NodeNews} {state : AlertState}
    (h : Agrees history state) (hsent : nodeDownAlertWasSent state = true)
    (latency : Int) {now : Time} (hnow : now ≠ 0) :
    Agrees history (state.recovered latency now) ∧
      (state.recovered latency now).recoveryPending = true ∧
      (state.recovered latency now).recoveredAt ≠ 0 ∧
      state.recovered latency now ≠ {} := by
  have hagrees : Agrees history (state.recovered latency now) :=
    Agrees.recovered h hsent hnow
  have hpending : (state.recovered latency now).recoveryPending = true := by
    unfold AlertState.recovered
    split
    · assumption
    · rfl
  refine ⟨hagrees, hpending, (hagrees.pending hpending).2, ?_⟩
  intro hnew
  rw [hnew] at hpending
  cases hpending

/-- What reading the diagnostics again leaves of a node. -/
theorem get_updateAlertDiagnostics {stableID other : Text}
    {details : ProxyStatusDetails} {now : Time} {stored : AlertState}
    (hstored : (s.updateAlertDiagnostics stableID details now).alerts[other]? =
      some stored) :
    ∃ before, s.alerts[other]? = some before ∧ SameSchedule before stored := by
  have hkept : ∀ {t : AlertService}, t.alerts[other]? = some stored →
      ∃ before, t.alerts[other]? = some before ∧ SameSchedule before stored :=
    fun hsame => ⟨stored, hsame, rfl, rfl, rfl, rfl, rfl, rfl⟩
  unfold AlertService.updateAlertDiagnostics at hstored
  dsimp only at hstored
  split at hstored
  · exact hkept hstored
  rename_i hstate
  split at hstored
  · exact hkept hstored
  rw [GoMap.get_insert] at hstored
  split at hstored
  · rename_i hid
    cases hstored
    refine ⟨s.state stableID, ?_, rediagnosed_same _ details now⟩
    rw [← hid]
    exact get_of_state_ne hstate
  · exact hkept hstored

theorem Informed.updateAlertDiagnostics {stableID : Text}
    {details : ProxyStatusDetails} {now : Time} (h : Informed s log) :
    Informed (s.updateAlertDiagnostics stableID details now) log where
  told := h.told
  agrees other stored hstored := by
    obtain ⟨before, hbefore, hsame⟩ := get_updateAlertDiagnostics hstored
    exact (h.agrees other before hbefore).of_same hsame

theorem RecoveriesWait.updateAlertDiagnostics {stableID : Text}
    {details : ProxyStatusDetails} {now : Time}
    {recoveries : List NodeMessage} (h : RecoveriesWait s log recoveries) :
    RecoveriesWait (s.updateAlertDiagnostics stableID details now) log
      recoveries := by
  intro message hmessage
  obtain ⟨recovered, recoveredAt, latency, hrecovery, hrecovering⟩ :=
    h message hmessage
  refine ⟨recovered, recoveredAt, latency, hrecovery, hrecovering.named,
    hrecovering.follows, hrecovering.set, ?_⟩
  intro stored hstored
  obtain ⟨before, hbefore, hsame⟩ := get_updateAlertDiagnostics hstored
  rw [hsame.recoveryPending, hsame.recoveredAt]
  exact hrecovering.waits before hbefore

end Reading

end XrayChecker.Telegram

import XrayChecker.Go.Distinct
import XrayChecker.Telegram.MassAlerts

/-
The alerts about nodes that are down and that have recovered: the state kept of
every node, and the two passes that decide what is sent.

What comes from outside a pass is read through its record: the statuses, the
mutes, whether a message could be sent and when that was known.  An operator's
maintenance switch can drop alert state in the middle of a pass; every other
writer of it holds the same lock as the passes.  Panel and agent evidence is
attached after the decisions and is left out, with the texts of the messages.
-/

namespace XrayChecker.Telegram

open Go Checker

/-- What of the normalised `Config` the node alerts depend on. -/
structure NodeAlertConfig where
  enabled : Bool := true
  chatID : Text := "1"
  nodeAlertsEnabled : Bool := true
  alertCheckMinutes : Int := 5
  alertAfterFailures : Nat := 2
  alertDiagnosticsMinutes : Int := 15
  alertReminderScheduleMinutes : List Int := [5, 15, 60]
  alertMaxReminderMinutes : Int := 180
  groupOfflineReminders : Bool := true
  notifyRecovery : Bool := true

/-- `nodeAlertState`. -/
structure AlertState where
  failCount : Nat := 0
  wasDown : Bool := false
  status : AvailabilityState := .unset
  downSince : Time := 0
  proxyFailureSince : Time := 0
  lastAlert : Time := 0
  alertCount : Nat := 0
  nextAlert : Time := 0
  lastDiagnostics : Time := 0
  hostCheck : HostCheckDetails := {}
  pingCheck : PingCheckDetails := {}
  failure : FailureDetails := {}
  recoveryPending : Bool := false
  recoveredAt : Time := 0
  recoveryLatency : Int := 0
deriving DecidableEq

/-- The fields the messages show. -/
def AlertState.shown (state : AlertState) : NodeAlertState where
  wasDown := state.wasDown
  status := state.status
  downSince := state.downSince
  proxyFailureSince := state.proxyFailureSince
  alertCount := state.alertCount
  nextAlert := state.nextAlert
  hostCheck := state.hostCheck
  pingCheck := state.pingCheck
  failure := state.failure

/-- `time.Duration(n) * time.Minute`, which wraps around. -/
def durationMinutes (n : Int) : Int :=
  Int.bmod (n * 60000000000) (2 ^ 64)

def nextAlertIntervalMinutes (alertCount : Nat) (cfg : NodeAlertConfig) : Int :=
  if alertCount = 0 then 0
  else
    (cfg.alertReminderScheduleMinutes[alertCount - 1]?).getD
      cfg.alertMaxReminderMinutes

def nextAlertAt (since : Time) (alertCount : Nat) (cfg : NodeAlertConfig) :
    Time :=
  ((since : Int) +
    durationMinutes (nextAlertIntervalMinutes alertCount cfg)).toNat

def latestDiagnosticsAt (current : Time) (hostCheck : HostCheckDetails)
    (pingCheck : PingCheckDetails) : Time :=
  let latest :=
    if hostCheck.checked ∧ current < hostCheck.checkedAt then
      hostCheck.checkedAt
    else current
  if pingCheck.checked ∧ latest < pingCheck.checkedAt then pingCheck.checkedAt
  else latest

def shouldRefreshNodeDiagnostics (state : AlertState) (cfg : NodeAlertConfig)
    (now : Time) : Bool :=
  if cfg.alertDiagnosticsMinutes ≤ 0 then false
  else if !state.hostCheck.checked || !state.pingCheck.checked then true
  else
    let last :=
      latestDiagnosticsAt state.lastDiagnostics state.hostCheck state.pingCheck
    last.isZero ||
      durationMinutes cfg.alertDiagnosticsMinutes ≤ now.sub last

def nodeDownAlertWasSent (state : AlertState) : Bool :=
  0 < state.alertCount || !state.lastAlert.isZero

def shouldNotifyNodeRecovery (state : AlertState) (cfg : NodeAlertConfig)
    (isMuted : Bool) : Bool :=
  if isMuted || !cfg.notifyRecovery || !state.wasDown then false
  else nodeDownAlertWasSent state

namespace AlertState

/-- The diagnostics that come with a status. -/
def withDiagnostics (state : AlertState) (details : ProxyStatusDetails) :
    AlertState :=
  let state :=
    { state with
      hostCheck :=
        if details.hostCheck.checked then details.hostCheck
        else state.hostCheck
      pingCheck :=
        if details.pingCheck.checked then details.pingCheck
        else state.pingCheck
      failure :=
        if details.failure.code ≠ [] then details.failure else state.failure }
  { state with
    lastDiagnostics :=
      latestDiagnosticsAt state.lastDiagnostics state.hostCheck
        state.pingCheck }

/-- The instant, or the other one where it is not set. -/
def orSet (t other : Time) : Time :=
  if t.isZero then other else t

/-- Since when the node has the status it has now. -/
def withIssueSince (state : AlertState) (details : ProxyStatusDetails)
    (now : Time) : AlertState :=
  if details.effectiveStatus = .offline then
    { state with
      proxyFailureSince := 0
      downSince := orSet state.downSince (orSet details.downSince now) }
  else
    { state with
      downSince := 0
      proxyFailureSince :=
        orSet state.proxyFailureSince (orSet details.proxyFailureSince now) }

/-- The first alert is due at once, unless one is remembered. -/
def withSchedule (state : AlertState) (cfg : NodeAlertConfig)
    (isMuted : Bool) (now : Time) : AlertState :=
  if !isMuted && cfg.alertAfterFailures ≤ state.failCount &&
      state.nextAlert.isZero then
    { state with
      nextAlert :=
        if state.lastAlert.isZero then now
        else nextAlertAt state.lastAlert state.alertCount cfg }
  else state

/-- A node that fails in a pass, before its reminder is scheduled. -/
def counted (state : AlertState) (details : ProxyStatusDetails) (now : Time) :
    AlertState :=
  ({ state with
      status := details.effectiveStatus
      recoveryPending := false
      recoveredAt := 0
      recoveryLatency := 0
      failCount := state.failCount + 1
      wasDown := true }.withDiagnostics details).withIssueSince details now

/-- What a pass makes of a node that fails. -/
def failing (state : AlertState) (details : ProxyStatusDetails)
    (cfg : NodeAlertConfig) (isMuted : Bool) (now : Time) : AlertState :=
  (state.counted details now).withSchedule cfg isMuted now

/-- A pass sends an alert about the node. -/
def isDue (state : AlertState) (cfg : NodeAlertConfig) (isMuted : Bool)
    (now : Time) : Bool :=
  !isMuted && cfg.alertAfterFailures ≤ state.failCount &&
    !(now < state.nextAlert)

/-- The recovery waits to be delivered. -/
def recovered (state : AlertState) (latency : Int) (now : Time) : AlertState :=
  if state.recoveryPending then state
  else
    { state with
      recoveryPending := true
      recoveredAt := now
      recoveryLatency := latency }

/-- The status read again. -/
def reclassified (state : AlertState) (details : ProxyStatusDetails)
    (now : Time) : AlertState :=
  let status := details.effectiveStatus
  if nodeAlertStatus state.shown ≠ .unset ∧
      nodeAlertStatus state.shown ≠ status then
    if status = .offline then
      { state with
        status
        proxyFailureSince := 0
        downSince := orSet details.downSince now }
    else
      { state with
        status
        downSince := 0
        proxyFailureSince := orSet details.proxyFailureSince now }
  else if state.status = .unset then { state with status }
  else state

/-- What `updateAlertDiagnostics` makes of a node that is not online. -/
def rediagnosed (state : AlertState) (details : ProxyStatusDetails)
    (now : Time) : AlertState :=
  (state.reclassified details now).withDiagnostics details

/-- The alert was sent. -/
def alerted (state : AlertState) (sentAt : Time) (cfg : NodeAlertConfig) :
    AlertState :=
  { state with
    lastAlert := sentAt
    alertCount := state.alertCount + 1
    nextAlert := nextAlertAt sentAt (state.alertCount + 1) cfg }

end AlertState

/-- `s.alerts` and `s.lastAlertRun`. -/
structure AlertService where
  alerts : GoMap Text AlertState := ∅
  lastAlertRun : Time := 0

/-- `ClearMonitoringState` and `ClearAllMonitoringState`. -/
inductive Clearing where
  | node (stableID : Text)
  | all
deriving DecidableEq

namespace AlertService

/-- `s.alerts[stableID]`. -/
def state (s : AlertService) (stableID : Text) : AlertState :=
  (s.alerts[stableID]?).getD {}

/-- The zero state is not stored. -/
def store (s : AlertService) (stableID : Text) (state : AlertState) :
    AlertService :=
  { s with
    alerts :=
      if state = {} then s.alerts.erase stableID
      else s.alerts.insert stableID state }

def clear (s : AlertService) : Clearing → AlertService
  | .node stableID => { s with alerts := s.alerts.erase stableID }
  | .all => {}

def updateAlertDiagnostics (s : AlertService) (stableID : Text)
    (details : ProxyStatusDetails) (now : Time) : AlertService :=
  let state := s.state stableID
  if state = {} then s
  else if details.effectiveStatus = .online then s
  else
    { s with
      alerts := s.alerts.insert stableID (state.rediagnosed details now) }

/-- One alert of `confirmNodeDownAlertsSent`. -/
def confirmDown (s : AlertService) (alert : NodeDownAlert) (sentAt : Time)
    (cfg : NodeAlertConfig) : AlertService :=
  let state := s.state alert.proxy.stableID
  if alert.proxy.stableID = [] then s
  else if state = {} ∨ state.wasDown = false ∨
      nodeAlertStatus state.shown ≠ nodeAlertStatus alert.state then s
  else
    { s with
      alerts := s.alerts.insert alert.proxy.stableID
        (state.alerted sentAt cfg) }

def confirmNodeDownAlertsSent (s : AlertService) (alerts : List NodeDownAlert)
    (sentAt : Time) (cfg : NodeAlertConfig) : AlertService :=
  alerts.foldl (fun s alert => s.confirmDown alert sentAt cfg) s

def confirmNodeRecoverySent (s : AlertService) (stableID : Text)
    (recoveredAt : Time) : AlertService :=
  if stableID = [] ∨ recoveredAt.isZero then s
  else
    match s.alerts[stableID]? with
    | none => s
    | some state =>
        if state.recoveryPending ∧ state.recoveredAt = recoveredAt then
          { s with alerts := s.alerts.erase stableID }
        else s

end AlertService

inductive NodeMessage where
  | recovery (stableID : Text) (recoveredAt : Time) (latency : Int)
  | mass (group : NodeDownIncidentGroup)
  | grouped (alerts : List NodeDownAlert)
  | single (alert : NodeDownAlert)

/-- The alerts a message is about. -/
def NodeMessage.alerts : NodeMessage → List NodeDownAlert
  | .recovery _ _ _ => []
  | .mass group => group.alerts
  | .grouped alerts => alerts
  | .single alert => [alert]

/-- A message that was sent: the configuration and the time it was decided
with, and when it was known to be sent. -/
structure DeliveredAlert where
  message : NodeMessage
  cfg : NodeAlertConfig
  now : Time
  sentAt : Time

/-- Where a pass leaves the state to others: before a node is read, before its
diagnostics or its due alert are looked at, and around a message. -/
inductive PassPoint where
  | reading (stableID : Text)
  | refreshing (stableID : Text)
  | deciding (stableID : Text)
  | sending (message : NodeMessage)
  | confirming (message : NodeMessage)

/-- What sending meets in a pass: whether a message goes through, when that is
known, and what is cleared meanwhile. -/
structure AlertSending where
  cfg : NodeAlertConfig
  now : Time
  goesThrough : NodeMessage → Bool
  sentAt : NodeMessage → Time
  cleared : PassPoint → List Clearing := fun _ => []

namespace AlertSending

/-- The state after what is cleared at a point. -/
def reach (p : AlertSending) (point : PassPoint) (s : AlertService) :
    AlertService :=
  (p.cleared point).foldl AlertService.clear s

/-- A message that went through is confirmed. -/
def confirm (p : AlertSending) (s : AlertService) : NodeMessage → AlertService
  | .recovery stableID recoveredAt _ =>
      s.confirmNodeRecoverySent stableID recoveredAt
  | message =>
      s.confirmNodeDownAlertsSent message.alerts (p.sentAt message) p.cfg

def delivery (p : AlertSending) (message : NodeMessage) : DeliveredAlert where
  message := message
  cfg := p.cfg
  now := p.now
  sentAt := p.sentAt message

/-- The messages one after the other, and those that went through. -/
def sendAll (p : AlertSending) (s : AlertService) :
    List NodeMessage → AlertService × List DeliveredAlert
  | [] => (s, [])
  | message :: rest =>
      let s := p.reach (.sending message) s
      if p.goesThrough message then
        let s := p.confirm (p.reach (.confirming message) s) message
        let sent := p.sendAll s rest
        (sent.1, p.delivery message :: sent.2)
      else p.sendAll s rest

end AlertSending

/-- What a pass over all nodes reads of one of them. -/
structure NodeReading where
  proxy : ProxyConfig
  label : Text := proxy.name
  /-- Accounted and spoken about when the pass begins, and when it comes to the
  node. -/
  active : Bool := true
  stillActive : Bool := true
  details : Option ProxyStatusDetails := none

/-- `s.labelled(proxy)`. -/
def NodeReading.labelled (node : NodeReading) : ProxyConfig :=
  { node.proxy with name := node.label }

/-- A pass of `NotifyNodeStatuses`. -/
structure StatusPass extends AlertSending where
  nodes : List NodeReading
  muted : GoMap Text Bool := ∅
  /-- What `refreshHostDiagnostics` brings, and when. -/
  refreshed : Text → Option ProxyStatusDetails := fun _ => none
  refreshedAt : Text → Time := fun _ => now
  /-- The status that `pendingNodeDownAlert` reads. -/
  again : Text → Option ProxyStatusDetails := fun _ => none
  maintenance : Bool := false
  /-- Maintenance that began while the pass waited for agents. -/
  maintenanceSince : Bool := false

/-- What a pass collects while it reads the nodes. -/
structure PassPlan where
  recoveries : List NodeMessage := []
  refreshes : List Text := []
  due : List ProxyConfig := []

namespace AlertService

/-- `shouldRunNodeAlertCheck`. -/
def shouldRunNodeAlertCheck (s : AlertService) (cfg : NodeAlertConfig)
    (now : Time) : Bool :=
  cfg.alertCheckMinutes ≤ 0 || s.lastAlertRun.isZero ||
    !(now.sub s.lastAlertRun < durationMinutes cfg.alertCheckMinutes)

/-- The instant of the pass is remembered. -/
def started (s : AlertService) (cfg : NodeAlertConfig) (now : Time) :
    AlertService :=
  if cfg.alertCheckMinutes ≤ 0 then s else { s with lastAlertRun := now }

/-- Only the active nodes keep their state. -/
def keepActive (s : AlertService) (active : GoMap Text Bool) : AlertService :=
  { s with alerts := s.alerts.filter fun id _ => (active[id]?).getD false }

end AlertService

namespace StatusPass

def isMuted (p : StatusPass) (stableID : Text) : Bool :=
  (p.muted[stableID]?).getD false

def active (p : StatusPass) : GoMap Text Bool :=
  p.nodes.foldl
    (fun active node =>
      if node.active then active.insert node.proxy.stableID true else active)
    ∅

/-- What the pass makes of a node it has read, and what it plans for it. -/
def readStatus (p : StatusPass) (s : AlertService) (plan : PassPlan)
    (proxy : ProxyConfig) (details : ProxyStatusDetails) :
    AlertService × PassPlan :=
  let state := s.state proxy.stableID
  let isMuted := p.isMuted proxy.stableID
  if details.effectiveStatus ≠ .online then
    let state := state.failing details p.cfg isMuted p.now
    (s.store proxy.stableID state,
      { plan with
        refreshes :=
          if shouldRefreshNodeDiagnostics
              (s.state proxy.stableID |>.counted details p.now) p.cfg p.now then
            plan.refreshes ++ [proxy.stableID]
          else plan.refreshes
        due :=
          if state.isDue p.cfg isMuted p.now then plan.due ++ [proxy]
          else plan.due })
  else if shouldNotifyNodeRecovery state p.cfg isMuted then
    let state := state.recovered details.latency p.now
    (s.store proxy.stableID state,
      { plan with
        recoveries := plan.recoveries ++
          [.recovery proxy.stableID state.recoveredAt state.recoveryLatency] })
  else (s.store proxy.stableID {}, plan)

def readNode (p : StatusPass) (read : AlertService × PassPlan)
    (node : NodeReading) : AlertService × PassPlan :=
  let s := p.reach (.reading node.proxy.stableID) read.1
  match node.details with
  | some details =>
      if node.stillActive then p.readStatus s read.2 node.labelled details
      else (s, read.2)
  | none => (s, read.2)

/-- One of the results of `refreshHostDiagnostics`. -/
def refresh (p : StatusPass) (s : AlertService) (stableID : Text) :
    AlertService :=
  let s := p.reach (.refreshing stableID) s
  match p.refreshed stableID with
  | some details =>
      s.updateAlertDiagnostics stableID details (p.refreshedAt stableID)
  | none => s

/-- `pendingNodeDownAlert`, without the evidence attached later. -/
def pendingNodeDownAlert (p : StatusPass) (s : AlertService)
    (proxy : ProxyConfig) : Option NodeDownAlert :=
  let state := s.state proxy.stableID
  if proxy.stableID = [] then none
  else if (p.again proxy.stableID).any (·.effectiveStatus = .online) then none
  else if state = {} then none
  else if state.failCount < p.cfg.alertAfterFailures ∨ state.nextAlert.isZero ∨
      p.now < state.nextAlert then none
  else some { proxy, state := (state.alerted p.now p.cfg).shown }

/-- The due alerts that are still to be sent. -/
def decide (p : StatusPass) (s : AlertService) :
    List ProxyConfig → AlertService × List NodeDownAlert
  | [] => (s, [])
  | proxy :: rest =>
      let s := p.reach (.deciding proxy.stableID) s
      let decided := p.decide s rest
      (decided.1, (p.pendingNodeDownAlert s proxy).toList ++ decided.2)

/-- The messages of the pass, in the order they are sent. -/
def messages (p : StatusPass) (plan : PassPlan)
    (downAlerts : List NodeDownAlert) : List NodeMessage :=
  let (groups, remaining) := partitionMassNodeDownAlerts downAlerts
    (p.nodes.map (·.proxy)) p.active p.muted
  plan.recoveries ++ groups.map .mass ++
    if p.cfg.groupOfflineReminders ∧ 1 < remaining.length then
      [.grouped remaining]
    else remaining.map .single

end StatusPass

/-- The node alerts are switched on. -/
def NodeAlertConfig.on (cfg : NodeAlertConfig) : Bool :=
  cfg.enabled && cfg.chatID ≠ [] && cfg.nodeAlertsEnabled

/-- `NotifyNodeStatuses`. -/
def AlertService.notifyNodeStatuses (s : AlertService) (p : StatusPass) :
    AlertService × List DeliveredAlert :=
  if p.maintenance || !p.cfg.on || !s.shouldRunNodeAlertCheck p.cfg p.now then
    (s, [])
  else
    let s := (s.started p.cfg p.now).keepActive p.active
    let (s, plan) := p.nodes.foldl p.readNode (s, {})
    let s := plan.refreshes.foldl p.refresh s
    let (s, downAlerts) := p.decide s plan.due
    if p.maintenanceSince then (s, [])
    else p.sendAll s (p.messages plan downAlerts)

/-- A pass of `NotifyNodeRecoveries`. -/
structure RecoveryPass extends AlertSending where
  stableIDs : List Text
  muted : GoMap Text Bool := ∅
  /-- What is read of a node that is known and spoken about. -/
  details : Text → Option ProxyStatusDetails
  maintenance : Bool := false
  maintenanceSince : Bool := false

namespace RecoveryPass

/-- `prepareNodeRecovery`. -/
def prepareNodeRecovery (p : RecoveryPass) (s : AlertService) (stableID : Text)
    (details : ProxyStatusDetails) : AlertService × List NodeMessage :=
  let recoveredAt := AlertState.orSet details.checkedAt p.now
  match s.alerts[stableID]? with
  | none => (s, [])
  | some state =>
      if shouldNotifyNodeRecovery state p.cfg
          ((p.muted[stableID]?).getD false) then
        let state := state.recovered details.latency recoveredAt
        ({ s with alerts := s.alerts.insert stableID state },
          [.recovery stableID state.recoveredAt state.recoveryLatency])
      else ({ s with alerts := s.alerts.erase stableID }, [])

/-- The nodes one after the other. -/
def prepareAll (p : RecoveryPass) (s : AlertService) :
    List Text → AlertService × List NodeMessage
  | [] => (s, [])
  | stableID :: rest =>
      let s := p.reach (.reading stableID) s
      match p.details stableID with
      | some details =>
          if details.online then
            let prepared := p.prepareNodeRecovery s stableID details
            let others := p.prepareAll prepared.1 rest
            (others.1, prepared.2 ++ others.2)
          else p.prepareAll s rest
      | none => p.prepareAll s rest

end RecoveryPass

/-- `NotifyNodeRecoveries`. -/
def AlertService.notifyNodeRecoveries (s : AlertService) (p : RecoveryPass) :
    AlertService × List DeliveredAlert :=
  if p.stableIDs = [] || p.maintenance || !p.cfg.on then (s, [])
  else
    let stableIDs := distinctBy id
      ((p.stableIDs.map trimSpace).filter (· ≠ []))
    let (s, recoveries) := p.prepareAll s stableIDs
    if p.maintenanceSince then (s, [])
    else p.sendAll s recoveries

end XrayChecker.Telegram

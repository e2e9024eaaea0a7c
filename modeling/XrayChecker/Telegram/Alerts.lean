import XrayChecker.Checker.Status
import XrayChecker.Speedtest.Results
import XrayChecker.Telegram.RichBody

/-
The compact HTML of the alerts: a node that is down, several of them, a mass
failure and a recovery.  The tables that the rich variants add are left out.
-/

namespace XrayChecker.Telegram

open Go Checker Speedtest

/-- The operator's zone: what an instant, its offset and its zone are written
as. -/
structure Location where
  format : Time → Text
  offset : Time → Text
  zone : Time → Text

/-- `NodeAlertState`, the fields the messages show. -/
structure NodeAlertState where
  wasDown : Bool := false
  status : AvailabilityState := .unset
  downSince : Time := 0
  proxyFailureSince : Time := 0
  alertCount : Nat := 0
  nextAlert : Time := 0
  hostCheck : HostCheckDetails := {}
  pingCheck : PingCheckDetails := {}
  failure : FailureDetails := {}

def nodeAlertStatus (state : NodeAlertState) : AvailabilityState :=
  if state.status ≠ .unset then state.status
  else if state.wasDown then .offline
  else .unset

def nodeAlertIssueSince (state : NodeAlertState) : Time :=
  if nodeAlertStatus state = .proxyFailure then state.proxyFailureSince
  else state.downSince

/-- `AgentDiagnostic` with the kind of its task, where it has one. -/
structure AgentAnswer where
  diagnostic : AgentDiagnostic
  taskKind : Option Text := none

/-- `paneltelemetry.View`; the load is there, with its two decimals, where it
is positive. -/
structure PanelView where
  link : Text
  message : Text := []
  usersOnline : Int := 0
  usersOnlineBefore : Option Int := none
  memoryUsedPercent : Int := 0
  load1 : Option Text := none
  cpus : Int := 0
  rxMbps : Int := 0
  txMbps : Int := 0
  xrayUptime : Option (Int × Text) := none

structure NodeDownAlert where
  proxy : ProxyConfig
  state : NodeAlertState := {}
  agent : Option AgentAnswer := none
  panel : Option PanelView := none

structure NodeDownIncidentGroup where
  scope : Text := []
  subscription : Text := []
  alerts : List NodeDownAlert := []
  total : Int := 0
  cause : FailureDetails := {}

section Times

/-- `formatDuration`, on nanoseconds. -/
def formatDuration (value : Int) : Text :=
  let totalMinutes := (if value < 0 then 0 else value) / 60000000000
  if totalMinutes ≤ 0 then "<1 мин"
  else
    let days := totalMinutes / 1440
    let hours := totalMinutes % 1440 / 60
    let minutes := totalMinutes % 60
    if 0 < days then
      itoaInt days ++ (" д " : Text) ++ itoaInt hours ++ (" ч " : Text) ++
        itoaInt minutes ++ (" мин" : Text)
    else if 0 < hours then
      itoaInt hours ++ (" ч " : Text) ++ itoaInt minutes ++ (" мин" : Text)
    else itoaInt minutes ++ (" мин" : Text)

variable (location : Location)

def formatCheckedAt (value : Time) : Text :=
  if value.isZero then "—" else location.format value

def messageTimezone (values : List Time) : Text :=
  let shown := values.filter fun value => !value.isZero
  let offsets := (shown.map location.offset).eraseDups
  let names := (shown.map location.zone).eraseDups
  if offsets = [] then []
  else
    ("Часовой пояс: " : Text) ++ join (sortStrings offsets) " / " ++
      (" (" : Text) ++ join (sortStrings names) " / " ++ (")." : Text)

end Times

section Evidence

/-- `fmt.Sprintf("%d ms", latency.Milliseconds())`. -/
def milliseconds (latency : Int) : Text :=
  itoaInt (latency / 1000000) ++ (" ms" : Text)

def formatTCPCheckHTML (hostCheck : HostCheckDetails) : Text :=
  if hostCheck.online then
    if 0 < hostCheck.latency then
      ("TCP 🟢 " : Text) ++ milliseconds hostCheck.latency
    else "TCP 🟢"
  else "TCP 🔴"

def formatPingCheckHTML (pingCheck : PingCheckDetails) : Text :=
  if pingCheck.online then
    if 0 < pingCheck.latency then
      ("Ping 🟢 " : Text) ++ milliseconds pingCheck.latency
    else "Ping 🟢"
  else "Ping 🔴"

def formatHostDiagnosticsHTML (hostCheck : HostCheckDetails)
    (pingCheck : PingCheckDetails) : Text :=
  join ((if hostCheck.checked then [formatTCPCheckHTML hostCheck] else []) ++
    if pingCheck.checked then [formatPingCheckHTML pingCheck] else []) " · "

/-- `"<b>%s</b>"` with an escaped text. -/
def bold (value : Text) : Text :=
  ("<b>" : Text) ++ htmlEscape value ++ ("</b>" : Text)

def formatFailureHTML (failure : FailureDetails) : Text :=
  if failure.code = [] ∧ failure.summary = [] then []
  else
    let summary :=
      if failure.summary = [] then failureSummary failure.code
      else failure.summary
    ("Причина: " : Text) ++ bold summary ++
      if failure.code = [] then []
      else (" · " : Text) ++ htmlCode failure.code

def localizedSpeedDiagnosticDetails : List (Text × Text) :=
  [("automation capacity is busy", "все слоты диагностики заняты"),
    ("no healthy idle diagnostic agent is connected",
      "нет свободного доступного агента"),
    ("only an agent on the node's own host is idle",
      "свободен только агент на самой ноде"),
    ("node address could not be resolved", "адрес ноды не разрешился в IP"),
    ("automatic diagnostics are paused by maintenance",
      "диагностика на паузе: обслуживание"),
    ("remote diagnostics are disabled", "диагностика агентами отключена"),
    ("automatic diagnostic could not be started",
      "не удалось запустить проверку"),
    ("diagnostic session is no longer available",
      "результат проверки больше недоступен"),
    ("no signed remote observation was received",
      "агент не прислал результат вовремя"),
    ("agent direct connectivity control failed",
      "у агента не прошла контрольная проверка интернета"),
    ("agent download observation has no throughput evidence",
      "агент не передал данные о скорости"),
    ("the agent measured a different speed-test server",
      "агент мерил другой сервер"),
    ("the agent rate is too close to the threshold to tell",
      "скорость агента на границе порога"),
    ("the agent was also below the threshold", "у агента тоже ниже порога"),
    ("the agent alternative tunnelled endpoint worked",
      "у агента сработал резервный endpoint")].map
    fun row => (String.toList row.1, String.toList row.2)

def localizedSpeedDiagnosticDetail (detail : Text) : Text :=
  match localizedSpeedDiagnosticDetails.find? fun row => row.1 = detail with
  | some row => row.2
  | none => "недостаточно данных для вывода"

def reasonAlternativeWorked : Text :=
  "the agent alternative tunnelled endpoint worked"

/-- `compactText`. -/
def compactText (value : Text) (maxRunes : Nat) : Text :=
  let value := join ((trimSpace value).splitOnP isSpace |>.filter (· ≠ [])) " "
  if maxRunes = 0 then []
  else if value.length ≤ maxRunes then value
  else if maxRunes = 1 then "…"
  else value.take (maxRunes - 1) ++ ("…" : Text)

/-- The answer of `formatAvailabilityAgentHTML`. -/
def agentVerdict (agent : AgentAnswer) : Text :=
  let offline := agent.taskKind = some "offline".toList
  let diagnostic := agent.diagnostic
  if diagnostic.state = "running" then "проверка идёт"
  else if diagnostic.state = "not_reproduced" then
    if diagnostic.detail = reasonAlternativeWorked ∧ offline then
      ("у него туннель работает через резервный endpoint" : Text) ++
        (" → нода жива, недоступна только с пути checker-а" : Text)
    else if diagnostic.detail = reasonAlternativeWorked then
      ("у него туннель работает через резервный endpoint" : Text) ++
        (" → отказал проверочный endpoint, не нода" : Text)
    else if offline then
      ("у него нода работает → недоступна только с пути checker-а" : Text) ++
        (": вероятна блокировка IP или маршрута" : Text)
    else
      "у него туннель работает → сбой на пути checker-а, а не в ноде"
  else if diagnostic.state = "reproduced" then
    if offline ∧ diagnostic.remoteStatus = "proxy_failure" then
      ("у него хост отвечает, но туннель не работает" : Text) ++
        (" → вероятно, упал сервис на ноде" : Text)
    else if offline then
      "недоступна и у него → вероятен отказ хоста или хостера"
    else
      "туннель не работает и у него → проблема в ноде или её конфигурации"
  else if diagnostic.state = "unreliable" ∨
      diagnostic.state = "unavailable" then
    localizedSpeedDiagnosticDetail diagnostic.detail
  else "результат неизвестен"

def formatAvailabilityAgentHTML (agent : Option AgentAnswer) : Text :=
  match agent with
  | none => []
  | some agent =>
      let trimmed := trimSpace agent.diagnostic.agentName
      let name := if trimmed = [] then agent.diagnostic.agentID else trimmed
      let label : Text :=
        if name = [] then "Агент"
        else ("Агент " : Text) ++ compactText name 48
      bold label ++ (": " : Text) ++ htmlEscape (agentVerdict agent)

def agentCheckedAt (agent : Option AgentAnswer) : Time :=
  match agent with
  | none => 0
  | some agent =>
      if agent.diagnostic.state = "running" then 0
      else agent.diagnostic.checkedAt

def formatNodeAgentDiagnosticHTML (location : Location)
    (agent : Option AgentAnswer) : Text :=
  let line := formatAvailabilityAgentHTML agent
  if line = [] then []
  else if (agentCheckedAt agent).isZero then line
  else
    line ++ (" · " : Text) ++
      htmlEscape (formatCheckedAt location (agentCheckedAt agent))

def formatUptime (value : Int × Text) : Text :=
  let unit : Text :=
    if value.2 = "min" then "мин"
    else if value.2 = "h" then "ч"
    else if value.2 = "d" then "д"
    else ""
  itoaInt value.1 ++ (" " : Text) ++ unit

/-- The link to the node, in words. -/
def panelLink (view : PanelView) : Text :=
  if view.link = "disabled" then "нода отключена в панели"
  else if view.link = "connecting" then "🟡 панель переподключается к ноде"
  else if view.link = "disconnected" then
    ("🔴 панель не видит ноду" : Text) ++
      if view.message = [] then []
      else (" (" : Text) ++ view.message ++ (")" : Text)
  else "🟢 связь есть"

/-- What `formatPanelStatusHTML` joins. -/
def panelParts (view : PanelView) : List Text :=
  [panelLink view,
    ("онлайн " : Text) ++ itoaInt view.usersOnline ++
      match view.usersOnlineBefore with
      | none => []
      | some before => (" (до сбоя " : Text) ++ itoaInt before ++ (")" : Text)]
  ++ (if 0 < view.memoryUsedPercent then
      [("память " : Text) ++ itoaInt view.memoryUsedPercent ++ ("%" : Text)]
    else [])
  ++ (match view.load1 with
    | none => []
    | some load =>
        [("load " : Text) ++ load ++
          if 0 < view.cpus then
            ("/" : Text) ++ itoaInt view.cpus ++ (" CPU" : Text)
          else []])
  ++ (if 0 < view.rxMbps ∨ 0 < view.txMbps then
      [("трафик ↓" : Text) ++ itoaInt view.rxMbps ++ (" ↑" : Text) ++
        itoaInt view.txMbps ++ (" Мбит/с" : Text)]
    else [])
  ++ (match view.xrayUptime with
    | none => []
    | some uptime => [("xray " : Text) ++ formatUptime uptime])

def formatPanelStatusHTML (panel : Option PanelView) : Text :=
  match panel with
  | none => []
  | some view =>
      ("<b>Панель</b>: " : Text) ++ htmlEscape (join (panelParts view) " · ")

end Evidence

section Messages

variable (location : Location)

/-- A line, where it is not empty. -/
def nonEmpty (line : Text) : List Text :=
  if line = [] then [] else [line]

/-- The heading of `formatNodeDown` behind the name. -/
def nodeDownTitle (state : NodeAlertState) : Text :=
  if nodeAlertStatus state = .proxyFailure then
    if 1 < state.alertCount then "Proxy failure продолжается"
    else "Proxy failure"
  else if 1 < state.alertCount then "всё ещё недоступна"
  else "недоступна"

def nodeDownMarker (state : NodeAlertState) : Text :=
  if nodeAlertStatus state = .proxyFailure then "🟡" else "🔴"

/-- The lines of `formatNodeDown` behind its heading. -/
def nodeDownLines (alert : NodeDownAlert) (now : Time) : List Text :=
  let state := alert.state
  let since := nodeAlertIssueSince state
  let durationLabel : Text :=
    if nodeAlertStatus state = .proxyFailure then "Proxy failure"
    else "Простой"
  let diagnostics :=
    formatHostDiagnosticsHTML state.hostCheck state.pingCheck
  (if since.isZero then []
    else
      [htmlEscape (messageTimezone location
          [since, agentCheckedAt alert.agent]),
        durationLabel ++ (": " : Text) ++
          bold (formatDuration (now.sub since)) ++ (" · с " : Text) ++
          htmlEscape (formatCheckedAt location since)]) ++
    nonEmpty (formatFailureHTML state.failure) ++
    [if diagnostics = [] then ("Диагностики пока нет" : Text)
      else diagnostics] ++
    nonEmpty (formatNodeAgentDiagnosticHTML location alert.agent) ++
    nonEmpty (formatPanelStatusHTML alert.panel) ++
    if 0 < state.nextAlert.sub now then
      [("Следующее напоминание через " : Text) ++
        bold (formatDuration (state.nextAlert.sub now))]
    else []

def formatNodeDown (alert : NodeDownAlert) (now : Time) : Text :=
  join ((nodeDownMarker alert.state ++ (" " : Text) ++ bold alert.proxy.name ++
      (" · " : Text) ++ htmlEscape (nodeDownTitle alert.state)) ::
    nodeDownLines location alert now) "\n"

/-- The duration shown in the lists. -/
def issueDuration (state : NodeAlertState) (now : Time) : Text :=
  let since := nodeAlertIssueSince state
  if since.isZero then "—" else formatDuration (now.sub since)

def durationLabel (state : NodeAlertState) : Text :=
  if nodeAlertStatus state = .proxyFailure then "proxy failure"
  else "простой"

/-- `formatMassNodeDownMessage`, before it is trimmed. -/
def massNodeDown (group : NodeDownIncidentGroup) (now : Time) : Text :=
  let scope : Text :=
    if group.subscription ≠ [] then ("подписка " : Text) ++ group.subscription
    else if hasPrefix group.scope "subscription:" then "подписка без имени"
    else "все подписки"
  let summary :=
    if group.cause.summary = [] then failureSummary group.cause.code
    else group.cause.summary
  join
    (["<b>🚨 Массовый сбой нод</b>".toList,
      ("Область: " : Text) ++ bold scope,
      ("Затронуто: <b>" : Text) ++ itoa group.alerts.length ++
        (" из " : Text) ++ itoaInt group.total ++ ("</b>" : Text),
      ("Причина: " : Text) ++ bold summary ++ (" · " : Text) ++
        htmlCode group.cause.code,
      []] ++
      group.alerts.map fun alert =>
        ("• " : Text) ++ nodeDownMarker alert.state ++ (" " : Text) ++
          bold alert.proxy.name ++ (" · " : Text) ++
          durationLabel alert.state ++ (" " : Text) ++
          htmlEscape (issueDuration alert.state now) ++
          (nonEmpty (formatNodeAgentDiagnosticHTML location alert.agent) ++
            nonEmpty (formatPanelStatusHTML alert.panel)).flatMap
              fun line => (" · " : Text) ++ line) "\n"

/-- `formatNodeDownGroup`, before it is trimmed. -/
def nodeDownGroup (alerts : List NodeDownAlert) (now : Time) : Text :=
  join
    ([("<b>⚠️ Проблемы у " : Text) ++ itoa alerts.length ++
        (" нод</b>" : Text), []] ++
      alerts.map fun alert =>
        let state := alert.state
        let diagnostics :=
          formatHostDiagnosticsHTML state.hostCheck state.pingCheck
        ("• " : Text) ++ bold alert.proxy.name ++ ("\n  " : Text) ++
          join ([durationLabel state ++ (" " : Text) ++
              htmlEscape (issueDuration state now)] ++
            (if state.failure.summary = [] then []
              else [("причина " : Text) ++ htmlEscape state.failure.summary])
            ++ [if diagnostics = [] then ("Диагностика: нет данных" : Text)
              else diagnostics] ++
            nonEmpty (formatNodeAgentDiagnosticHTML location alert.agent) ++
            nonEmpty (formatPanelStatusHTML alert.panel)) " · ") "\n"

def formatMassNodeDownMessage (group : NodeDownIncidentGroup) (now : Time) :
    Text :=
  trimHTMLMessage (massNodeDown location group now)

def formatNodeDownGroup (alerts : List NodeDownAlert) (now : Time) : Text :=
  trimHTMLMessage (nodeDownGroup location alerts now)

/-- The latency shown when a node is back. -/
def latencyText (latency : Int) : Text :=
  if 0 < latency then milliseconds latency else "—"

/-- What `formatNodeRecoveryMessage` writes behind the name. -/
def recoveryRest (latency : Int) (previous : NodeAlertState)
    (recoveredAt : Time) : List Text :=
  let since := nodeAlertIssueSince previous
  if nodeAlertStatus previous = .proxyFailure then
    [": proxy снова работает".toList,
      ("Proxy failure: " : Text) ++
        bold (if since.isZero then "—"
          else formatDuration (recoveredAt.sub since)) ++
        (" · задержка " : Text) ++ htmlEscape (latencyText latency)]
  else
    [" снова доступна".toList,
      ("Задержка: " : Text) ++ bold (latencyText latency)] ++
      if since.isZero then []
      else
        [("Простой: " : Text) ++
          bold (formatDuration (recoveredAt.sub since))]

/-- The compact HTML of `formatNodeRecoveryMessage`. -/
def formatNodeRecovery (proxy : ProxyConfig) (latency : Int)
    (previous : NodeAlertState) (recoveredAt : Time) : Text :=
  ("✅ " : Text) ++ bold proxy.name ++
    join (recoveryRest latency previous recoveredAt) "\n"

/-- The messages the alerts are sent as. -/
inductive AlertMessage
  | down (alert : NodeDownAlert) (now : Time)
  | group (alerts : List NodeDownAlert) (now : Time)
  | mass (group : NodeDownIncidentGroup) (now : Time)
  | recovery (proxy : ProxyConfig) (latency : Int) (previous : NodeAlertState)
      (recoveredAt : Time)

namespace AlertMessage

/-- The compact HTML, before it is trimmed. -/
def compact : AlertMessage → Text
  | .down alert now => formatNodeDown location alert now
  | .group alerts now => nodeDownGroup location alerts now
  | .mass incident now => massNodeDown location incident now
  | .recovery proxy latency previous recoveredAt =>
      formatNodeRecovery proxy latency previous recoveredAt

/-- The `HTML` of the message. -/
def html : AlertMessage → Text
  | .down alert now => formatNodeDown location alert now
  | .group alerts now => formatNodeDownGroup location alerts now
  | .mass incident now => formatMassNodeDownMessage location incident now
  | .recovery proxy latency previous recoveredAt =>
      formatNodeRecovery proxy latency previous recoveredAt

/-- The compact HTML that `sendHTMLToWithMarkup` sends. -/
def sent (message : AlertMessage) : Text :=
  trimHTMLMessage (html location message)

/-- The rich body, for the messages that have one. -/
def richBody : AlertMessage → Option Text
  | .down alert now => some (richAlertBody (formatNodeDown location alert now))
  | .group _ _ => none
  | .mass _ _ => none
  | .recovery proxy latency previous recoveredAt =>
      some (richAlertBody (formatNodeRecovery proxy latency previous
        recoveredAt))

end AlertMessage

end Messages

end XrayChecker.Telegram

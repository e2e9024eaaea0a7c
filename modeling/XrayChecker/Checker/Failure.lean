import XrayChecker.Go.Map
import XrayChecker.Go.Time

/-
Classification of a failed availability check: the stable failure codes, the
texts shown for them, and the diagnosis that combines the proxy check with the
direct host diagnostics.
-/

namespace XrayChecker.Checker

open Go

def failureCodeConfiguration : Text := "configuration"
def failureCodeDNS : Text := "dns"
def failureCodeTCPRefused : Text := "tcp_refused"
def failureCodeTCPTimeout : Text := "tcp_timeout"
def failureCodeHostUnreachable : Text := "host_unreachable"
def failureCodeProxyHandshake : Text := "proxy_handshake"
def failureCodeProxyTimeout : Text := "proxy_timeout"
def failureCodeProxyStreamClosed : Text := "proxy_stream_closed"
def failureCodeTLS : Text := "tls"
def failureCodeHTTPStatus : Text := "http_status"
def failureCodeSourceIPUnchanged : Text := "source_ip_unchanged"
def failureCodeDownloadIncomplete : Text := "download_incomplete"
def failureCodeCheckEndpoint : Text := "check_endpoint"
def failureCodeUnknown : Text := "unknown"

/-- A stable, user-facing classification of a failed proxy check. -/
structure FailureDetails where
  code : Text := []
  summary : Text := []
  detail : Text := []
deriving DecidableEq

structure HostCheckDetails where
  checked : Bool := false
  online : Bool := false
  latency : Int := 0
  checkedAt : Time := 0
  target : Text := []
  error : Text := []
deriving DecidableEq

structure PingCheckDetails where
  checked : Bool := false
  online : Bool := false
  latency : Int := 0
  checkedAt : Time := 0
  target : Text := []
  error : Text := []
deriving DecidableEq

/-- `FailureSummary`. -/
def failureSummary (code : Text) : Text :=
  if code = failureCodeConfiguration then "Ошибка конфигурации проверки"
  else if code = failureCodeDNS then "DNS не разрешил адрес"
  else if code = failureCodeTCPRefused then "TCP-порт отклоняет соединение"
  else if code = failureCodeTCPTimeout then "TCP-порт не отвечает"
  else if code = failureCodeHostUnreachable then "Хост или маршрут недоступен"
  else if code = failureCodeProxyHandshake then "Ошибка SOCKS/Xray соединения"
  else if code = failureCodeProxyTimeout then
    "Проверка через прокси превысила таймаут"
  else if code = failureCodeProxyStreamClosed then
    "Сервер закрыл соединение внутри туннеля"
  else if code = failureCodeTLS then "Ошибка TLS или сертификата"
  else if code = failureCodeHTTPStatus then
    "Проверочный URL вернул ошибочный HTTP-статус"
  else if code = failureCodeSourceIPUnchanged then
    "Трафик не вышел через прокси"
  else if code = failureCodeDownloadIncomplete then
    "Проверочная загрузка не завершилась"
  else if code = failureCodeCheckEndpoint then
    "Общий проверочный endpoint недоступен"
  else "Причина не определена"

/-- `strings.Fields`. -/
def fields (s : Text) : List Text :=
  (s.splitOnP isSpace).filter fun part => !part.isEmpty

/-- `compactFailureDetail`. -/
def compactFailureDetail (value : Text) : Text :=
  let compact := join (fields (trimSpace value)) " "
  if runeCount compact ≤ 240 then compact else compact.take 239 ++ "…"

/-- `joinFailureDetails`. -/
def joinFailureDetails (parts : List Text) : Text :=
  compactFailureDetail
    (join ((parts.map compactFailureDetail).filter fun part => !part.isEmpty)
      "; ")

/-- `failureDetails`. -/
def failureDetails (code detail : Text) : FailureDetails :=
  ⟨code, failureSummary code, compactFailureDetail detail⟩

/-- What the code reads of the error a proxy check returned: its text, what
`errors.As` and `errors.Is` find in its chain, and the inner text of a
`*url.Error`. -/
structure CheckError where
  text : Text
  isDNSError : Bool := false
  isTLSRecordHeaderError : Bool := false
  isDeadlineExceeded : Bool := false
  isTimeout : Bool := false
  urlErrorText : Option Text := none
  isEOF : Bool := false

/-- `failureFromError` of a non-nil error. -/
def failureFromError (err : CheckError) : FailureDetails :=
  let detail := compactFailureDetail err.text
  let lower := toLower detail
  if err.isDNSError || contains lower "no such host" ||
      contains lower "server misbehaving" then
    failureDetails failureCodeDNS detail
  else if err.isTLSRecordHeaderError || contains lower "tls" ||
      contains lower "certificate" || contains lower "x509" then
    failureDetails failureCodeTLS detail
  else if err.isDeadlineExceeded || err.isTimeout then
    failureDetails failureCodeProxyTimeout detail
  else
    let inner := match err.urlErrorText with
      | some text => toLower text
      | none => lower
    if contains inner "socks" || contains inner "proxyconnect" ||
        contains inner "proxy connect" then
      failureDetails failureCodeProxyHandshake detail
    else if contains inner "connection refused" then
      failureDetails failureCodeTCPRefused detail
    else if contains inner "network is unreachable" ||
        contains inner "no route to host" ||
        contains inner "host is unreachable" then
      failureDetails failureCodeHostUnreachable detail
    else if err.isEOF || inner = "eof" || contains inner "unexpected eof" ||
        contains inner "connection reset" || contains inner "broken pipe" then
      failureDetails failureCodeProxyStreamClosed detail
    else failureDetails failureCodeUnknown detail

/-- `failureFromCheckResult`. -/
def failureFromCheckResult (method message : Text) : FailureDetails :=
  let lower := toLower (trimSpace message)
  if method = "ip" then failureDetails failureCodeSourceIPUnchanged message
  else if method = "status" then failureDetails failureCodeHTTPStatus message
  else if method = "download" then
    if contains lower "http status" then
      failureDetails failureCodeHTTPStatus message
    else failureDetails failureCodeDownloadIncomplete message
  else failureDetails failureCodeUnknown message

/-- `failureFromHostCheck`. -/
def failureFromHostCheck (hostCheck : HostCheckDetails) : FailureDetails :=
  let detail := compactFailureDetail hostCheck.error
  let lower := toLower detail
  if contains lower "no such host" || contains lower "server misbehaving" ||
      contains lower "resolved to no" then
    failureDetails failureCodeDNS detail
  else if contains lower "connection refused" then
    failureDetails failureCodeTCPRefused detail
  else if contains lower "timeout" || contains lower "deadline exceeded" then
    failureDetails failureCodeTCPTimeout detail
  else failureDetails failureCodeHostUnreachable detail

/-- `DiagnoseFailure`. -/
def diagnoseFailure (checkFailure : FailureDetails)
    (hostCheck : HostCheckDetails) (pingCheck : PingCheckDetails) :
    FailureDetails :=
  if hostCheck.checked && !hostCheck.online then
    let hostFailure := failureFromHostCheck hostCheck
    if hostFailure.code = failureCodeDNS then hostFailure
    else if hostFailure.code = failureCodeTCPRefused then hostFailure
    else if hostFailure.code = failureCodeTCPTimeout && pingCheck.checked &&
        pingCheck.online then
      { hostFailure with
        summary := "Хост отвечает, но TCP-порт недоступен" }
    else if pingCheck.checked && !pingCheck.online then
      { code := failureCodeHostUnreachable
        summary := "Хост или маршрут недоступен"
        detail := joinFailureDetails [hostCheck.error, pingCheck.error] }
    else hostFailure
  else if checkFailure.code = [] then
    failureDetails failureCodeUnknown "proxy check failed"
  else checkFailure

end XrayChecker.Checker

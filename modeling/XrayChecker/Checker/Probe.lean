import XrayChecker.Checker.Store

/-
One availability check of one node: the three check methods on the answer of
the network, and what the check writes.
-/

namespace XrayChecker.Checker

open Go

/-- How one read of a download body ends. -/
inductive ReadEnd where
  | more
  | eof
  | failed (text : Text)
deriving DecidableEq

/-- An HTTP response through the proxy: its status, its body as `checkByIP`
reads it whole, and as `checkByDownload` reads it in pieces. -/
structure Response where
  statusCode : Int := 200
  body : Except CheckError Text := .ok []
  reads : List (Nat × ReadEnd) := []
  ttfb : Int := 0

/-- What became of the request of a check. -/
inductive Answer where
  | failed (err : CheckError)
  | response (response : Response)

/-- The four results of a check method. -/
structure CheckResult where
  success : Bool
  message : Text
  latency : Int
  err : Option CheckError

/-- `checkByIP`. -/
def checkByIP (currentIP : Text) : Answer → CheckResult
  | .failed err => ⟨false, [], 0, some err⟩
  | .response response =>
      match response.body with
      | .error err => ⟨false, [], response.ttfb, some err⟩
      | .ok proxyIP =>
          ⟨proxyIP ≠ currentIP,
            "Source IP: " ++ currentIP ++ " | Proxy IP: " ++ proxyIP,
            response.ttfb, none⟩

/-- `checkByGen`. -/
def checkByGen : Answer → CheckResult
  | .failed err => ⟨false, [], 0, some err⟩
  | .response response =>
      ⟨200 ≤ response.statusCode ∧ response.statusCode < 300,
        "Status: " ++ itoaInt response.statusCode, response.ttfb, none⟩

/-- The read loop of `checkByDownload`: the bytes read, or the message of a
failed read. -/
def downloadLoop (minSize : Int) : List (Nat × ReadEnd) → Nat →
    Except Text Nat
  | [], total => .ok total
  | (n, ending) :: rest, total =>
      let total := total + n
      if minSize ≤ total then .ok total
      else
        match ending with
        | .more => downloadLoop minSize rest total
        | .eof => .ok total
        | .failed text =>
            .error ("Download error after " ++ itoa total ++ " bytes: " ++ text)

/-- `checkByDownload`. -/
def checkByDownload (options : Options) : Answer → CheckResult
  | answer =>
      if options.downloadURL = [] then
        ⟨false, "Download URL not configured", 0,
          some { text := "download URL not configured" }⟩
      else
        match answer with
        | .failed err => ⟨false, [], 0, some err⟩
        | .response response =>
            if response.statusCode < 200 ∨ 300 ≤ response.statusCode then
              ⟨false, "HTTP status: " ++ itoaInt response.statusCode,
                response.ttfb, none⟩
            else
              match downloadLoop options.downloadMinSize response.reads 0 with
              | .error message => ⟨false, message, response.ttfb, none⟩
              | .ok total =>
                  ⟨options.downloadMinSize ≤ total,
                    "Downloaded: " ++ itoa total ++ " bytes (min: " ++
                      itoaInt options.downloadMinSize ++ ")",
                    response.ttfb, none⟩

/-- The check of the configured method, if it is a known one. -/
def checkByMethod (options : Options) (currentIP : Text) (answer : Answer) :
    Option CheckResult :=
  if options.checkMethod = "ip" then some (checkByIP currentIP answer)
  else if options.checkMethod = "status" then some (checkByGen answer)
  else if options.checkMethod = "download" then
    some (checkByDownload options answer)
  else none

/-- The places where a check asks its context whether the run was cancelled,
in the order in which it reaches them. -/
inductive Place where
  | atStart
  | afterProbe
  | atStatus
  | atLatency
  | never
deriving DecidableEq

def Place.rank : Place → Nat
  | .atStart => 0
  | .afterProbe => 1
  | .atStatus => 2
  | .atLatency => 3
  | .never => 4

/-- What one check meets outside: the answer of the network, the first place
that finds the run cancelled, the host diagnostics after a failure, and the
clock. -/
structure Probe where
  answer : Answer
  cancelled : Place := .never
  hostCheck : HostCheckDetails := {}
  pingCheck : PingCheckDetails := {}
  storedAt : Time := 0
  clock : DiagnosticReadings := ⟨0, 0, 0⟩

/-- Whether the check finds the run cancelled at a place: once cancelled, a
context stays cancelled. -/
def Probe.cancelledAt (probe : Probe) (place : Place) : Bool :=
  probe.cancelled.rank ≤ place.rank

/-- What a check finds out about its node. -/
inductive Outcome where
  | cancelled
  | failed (failure : FailureDetails)
  | succeeded (latency : Int)

/-- The error `url.Parse` reports for the local proxy address. -/
def invalidPortError (port : Int) : Text :=
  "parse \"socks5://127.0.0.1:" ++ itoaInt port ++ "\": invalid port \":" ++
    itoaInt port ++ "\" after host"

/-- The part of `checkProxyInternal` that decides. -/
def probeOutcome (options : Options) (currentIP : Text) (proxy : ProxyConfig)
    (probe : Probe) : Outcome :=
  let port := options.startPort + proxy.index
  if port < 0 then
    .failed (failureDetails failureCodeConfiguration (invalidPortError port))
  else
    match checkByMethod options currentIP probe.answer with
    | none =>
        .failed (failureDetails failureCodeConfiguration
          ("invalid check method: " ++ options.checkMethod))
    | some result =>
        if probe.cancelledAt .afterProbe then .cancelled
        else
          match result.err with
          | some err => .failed (failureFromError err)
          | none =>
              if result.success then .succeeded result.latency
              else
                .failed (failureFromCheckResult options.checkMethod
                  result.message)

namespace ProxyChecker

variable (options : Options) (pc : ProxyChecker)

/-- `isGenerationValid`; `none` stands for a check that does not ask. -/
def isGenerationValid (expectedGeneration : Option Nat) : Bool :=
  match expectedGeneration with
  | none => true
  | some expected => pc.generation = expected

/-- `metrics.RecordProxyStatus` for a node. -/
def recordStatus (proxy : ProxyConfig) (value : Int) : ProxyChecker :=
  { pc with
    registry := pc.registry.record
      ⟨.status, proxy.effectiveStableID options.digest, seriesLabels proxy,
        value⟩ }

/-- `metrics.RecordProxyLatency` for a node. -/
def recordLatency (proxy : ProxyConfig) (value : Int) : ProxyChecker :=
  { pc with
    registry := pc.registry.record
      ⟨.latency, proxy.effectiveStableID options.digest, seriesLabels proxy,
        value⟩ }

def storeCurrent (proxy : ProxyConfig) (online : Bool) : ProxyChecker :=
  { pc with
    currentMetrics :=
      pc.currentMetrics.insert (metricKey options proxy) online }

def storeLatency (proxy : ProxyConfig) (latency : Int) : ProxyChecker :=
  { pc with
    latencyMetrics :=
      pc.latencyMetrics.insert (metricKey options proxy) latency }

/-- `markUnavailableAndCollectDiagnosticsMode`. -/
def markUnavailableAndCollectDiagnostics (proxy : ProxyConfig)
    (allowMaintenance : Bool) (failure : FailureDetails) (probe : Probe) :
    ProxyChecker :=
  let stableID := proxy.effectiveStableID options.digest
  if pc.storable stableID allowMaintenance then
    let pc := pc.storeStatusDetailsMode stableID
      { online := false, failure := some failure } allowMaintenance
      probe.storedAt
    pc.storeOfflineDiagnostics stableID probe.hostCheck probe.pingCheck
      probe.clock
  else pc

/-- The metrics `setFailedStatus` writes. -/
def recordFailedStatus (proxy : ProxyConfig)
    (allowMaintenance exportMetrics : Bool) : ProxyChecker :=
  if allowMaintenance then pc
  else
    let pc := if exportMetrics then pc.recordStatus options proxy 0 else pc
    pc.storeCurrent options proxy false

/-- `setFailedStatus`. -/
def setFailedStatus (proxy : ProxyConfig) (expectedGeneration : Option Nat)
    (allowMaintenance exportMetrics : Bool) (failure : FailureDetails)
    (probe : Probe) : ProxyChecker :=
  if probe.cancelledAt .atStatus || !pc.isGenerationValid
    expectedGeneration then
    pc
  else
    let pc :=
      pc.recordFailedStatus options proxy allowMaintenance exportMetrics
    pc.markUnavailableAndCollectDiagnostics options proxy allowMaintenance
      failure probe

/-- `setFailedLatency`. -/
def setFailedLatency (proxy : ProxyConfig) (expectedGeneration : Option Nat)
    (allowMaintenance exportMetrics : Bool) (probe : Probe) : ProxyChecker :=
  if probe.cancelledAt .atLatency || !pc.isGenerationValid expectedGeneration ||
      allowMaintenance then pc
  else
    let pc := if exportMetrics then pc.recordLatency options proxy 0 else pc
    pc.storeLatency options proxy 0

/-- The success branch of `checkProxyInternal`. -/
def setSucceeded (proxy : ProxyConfig) (expectedGeneration : Option Nat)
    (allowMaintenance : Bool) (latency : Int) (now : Time) : ProxyChecker :=
  if !pc.isGenerationValid expectedGeneration then pc
  else
    let pc :=
      if allowMaintenance then pc
      else
        let pc := pc.recordStatus options proxy 1
        let pc := pc.recordLatency options proxy latency
        let pc := pc.storeLatency options proxy latency
        pc.storeCurrent options proxy true
    pc.storeStatusDetailsMode (proxy.effectiveStableID options.digest)
      { online := true, latency := latency } allowMaintenance now

/-- Whether a check gets past its first two guards. -/
def admits (proxy : ProxyConfig) (allowMaintenance : Bool) (probe : Probe) :
    Bool :=
  (allowMaintenance ||
    pc.monitoringEnabled (proxy.effectiveStableID options.digest)) &&
    !probe.cancelledAt .atStart

/-- `checkProxyInternal`. -/
def checkProxyInternal (proxy : ProxyConfig) (expectedGeneration : Option Nat)
    (allowMaintenance : Bool) (probe : Probe) : ProxyChecker :=
  if !pc.admits options proxy allowMaintenance probe then pc
  else
    let exportMetrics := !allowMaintenance &&
      pc.listedPublicly (proxy.effectiveStableID options.digest)
    match probeOutcome options pc.currentIP proxy probe with
    | .cancelled => pc
    | .failed failure =>
        let pc := pc.setFailedStatus options proxy expectedGeneration
          allowMaintenance exportMetrics failure probe
        pc.setFailedLatency options proxy expectedGeneration allowMaintenance
          exportMetrics probe
    | .succeeded latency =>
        pc.setSucceeded options proxy expectedGeneration allowMaintenance
          latency probe.storedAt

end ProxyChecker

end XrayChecker.Checker

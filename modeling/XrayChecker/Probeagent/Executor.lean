import XrayChecker.Diagnostics.Validate
import XrayChecker.Probeagent.Protocol

/-
The executor of an agent: how one job becomes one observation.  What the
clock, the machine and the network answer is handed in, one outcome for each
place that asks.  The evidence an observation does not keep (throughput, the
latency series, what the handshake negotiated) and the agent's own log are
left out.
-/

namespace XrayChecker.Probeagent

open Go Diagnostics

/-- A duration in nanoseconds as `Milliseconds` rounds it. -/
def millis (duration : Nat) : Int :=
  ((duration / 1000000 : Nat) : Int)

/-- What the executor reads of an error of the network. -/
structure NetError where
  text : Text
  deadlineExceeded : Bool := false
  eof : Bool := false

/-- The body of a response: read up to 64 KiB, copied up to a size, or read
piece by piece until a deadline. -/
structure ResponseBody where
  text : Except NetError Text
  copied : Int → Int × Option NetError
  pieces : List (Nat × Option NetError)

/-- What one HTTP request comes to, with the time to its first byte. -/
inductive Exchange where
  | malformed
  | failed (error : NetError) (ttfb : Nat)
  | answered (statusCode : Int) (ttfb : Nat) (body : ResponseBody)

/-- What the requests of one probe through the tunnel come to: the request to
an endpoint, and each sample with the time it starts at and takes. -/
structure Tunnel where
  get : Text → Exchange
  sample : Nat → Exchange
  sampleAt : Nat → Time
  elapsed : Nat → Nat

/-- One `ExecutorConfig` after `NewExecutor`, without the limits that only
bound how long the network is waited for. -/
structure Executor where
  ipCheckURL : Text
  statusCheckURL : Text
  downloadURL : Text
  downloadMinSize : Int
  latencySamples : Nat
  resolveSpeedServer : Text → Option Text

/-- The sections of an Xray config the agent looks at. -/
structure ExecutionDocument where
  inbounds : List (Text × Int × Text)
  outbounds : List Text
  routing : Bytes

/-- What the executor takes from the standard library without looking inside:
the digest of a config, the JSON of a config with nothing after it, the tests
on `url.Parse`, and `net.ParseIP`. -/
structure Platform where
  configFingerprint : Bytes → Text
  decodeExecutionConfig : Bytes → Option ExecutionDocument
  validEndpointURL : Text → Bool
  isIPLiteral : Text → Bool

/-- What one resolver answers, and how long it takes. -/
structure Lookup where
  addresses : Option (List Text)
  elapsed : Nat

/-- The outcomes a run of the executor meets.  `cancelled` is when the client
ends the context it hands over, if it does. -/
structure Outcomes where
  startedAt : Time
  validatedAt : Time
  finishedAt : Time
  cancelled : Option Time
  direct : Exchange
  directElapsed : Nat
  configWritten : Bool
  xrayStarts : Bool
  tunnel : Tunnel
  alternative : Tunnel
  tcpDial : Option NetError
  tcpElapsed : Nat
  pingReplies : Option (List (Nat × Bool))
  tlsDial : Option NetError
  tlsHandshake : Option NetError
  tlsElapsed : Nat
  systemLookup : Lookup
  resolverLookup : Lookup

/-- The context of a job is done at its deadline, or with the client. -/
def Outcomes.contextDone (world : Outcomes) (assignment : JobAssignment)
    (now : Time) : Bool :=
  assignment.job.expiresAt ≤ now || world.cancelled.any (· ≤ now)

/-- `validateAssignment`. -/
def validateAssignment (assignment : JobAssignment) (now : Time) : Bool :=
  let job := assignment.job
  !(job.schemaVersion ≠ jobSchemaVersion || job.jobID = [] ||
      job.sessionID = [] || job.agentID = [] || job.nonce = [] ||
      job.stableID = []) &&
    !(job.expiresAt ≤ now || assignment.socksPort < 1024 ||
      assignment.socksPort > 65535 || trimSpace assignment.targetHost = [] ||
      assignment.targetPort < 1 || assignment.targetPort > 65535) &&
    !(assignment.xrayConfig.length = 0 ||
      assignment.xrayConfig.length > maxExecutionConfigBytes)

def allowedTargetProtocol (protocol : Text) : Bool :=
  [("vless" : Text), "vmess", "trojan", "shadowsocks"].elem protocol

/-- `validateXrayExecutionConfig`. -/
def validateXrayExecutionConfig (platform : Platform) (data : Bytes)
    (socksPort : Int) : Bool :=
  match platform.decodeExecutionConfig data with
  | none => false
  | some document =>
      document.inbounds =
          [(("127.0.0.1" : Text), socksPort, ("socks" : Text))] &&
        document.routing.length ≠ 0 &&
        match document.outbounds with
        | [direct, block, target] =>
            direct = ("freedom" : Text) && block = ("blackhole" : Text) &&
              allowedTargetProtocol target
        | _ => false

/-- `classifyProxyError`. -/
def classifyProxyError (error : NetError) : FailureEvidence :=
  let text := toLower error.text
  let code : Text :=
    if error.deadlineExceeded || contains text "timeout" then "proxy_timeout"
    else if contains text "no such host" then "dns"
    else if contains text "connection refused" then "tcp_refused"
    else if contains text "tls" || contains text "x509" ||
        contains text "certificate" then "tls"
    else if contains text "socks" || contains text "proxyconnect" then
      "proxy_handshake"
    else "unknown"
  { code := code, stage := .proxy }

/-- `tcpFailureCode`, which `tcpEvidence` spells out. -/
def tcpFailureCode (error : NetError) : Text :=
  let message := toLower error.text
  if contains message "refused" then "tcp_refused"
  else if contains message "no such host" then "dns"
  else "tcp_timeout"

/-- `tlsFailureCode`. -/
def tlsFailureCode (error : NetError) : Text :=
  let message := toLower error.text
  if contains message "reset" then "tls_reset"
  else if contains message "timeout" || contains message "deadline" then
    "tls_timeout"
  else if contains message "eof" then "tls_eof"
  else if contains message "handshake failure" || contains message "alert" then
    "tls_alert"
  else "tls_failed"

def statusOK (statusCode : Int) : Bool :=
  !(statusCode < 200 || statusCode ≥ 300)

/-- `directConnectivity`: the evidence, and the body of the answer. -/
def directConnectivity (world : Outcomes) : CheckEvidence × Text :=
  let latency := millis world.directElapsed
  match world.direct with
  | .malformed => ({ checked := true, failureCode := "check_endpoint" }, [])
  | .failed _ _ =>
      ({ checked := true, latencyMillis := latency
         failureCode := "check_endpoint" }, [])
  | .answered statusCode _ body =>
      match body.text with
      | .error _ =>
          ({ checked := true, latencyMillis := latency
             failureCode := "check_endpoint" }, [])
      | .ok text =>
          if !statusOK statusCode then
            ({ checked := true, latencyMillis := latency
               failureCode := "check_endpoint" }, [])
          else
            ({ checked := true, online := true, latencyMillis := latency },
              text)

/-- `tcpEvidence`. -/
def tcpEvidence (world : Outcomes) : CheckEvidence :=
  match world.tcpDial with
  | none =>
      { checked := true, online := true
        latencyMillis := millis world.tcpElapsed }
  | some error =>
      { checked := true, latencyMillis := millis world.tcpElapsed
        failureCode := tcpFailureCode error }

/-- The loop of `pingEvidence` over the addresses. -/
def pingAddresses (evidence : CheckEvidence) :
    List (Nat × Bool) → CheckEvidence
  | [] => evidence
  | (latency, answered) :: rest =>
      let evidence := { evidence with latencyMillis := millis latency }
      if answered then { evidence with online := true, failureCode := [] }
      else pingAddresses evidence rest

/-- `pingEvidence`. -/
def pingEvidence (world : Outcomes) : CheckEvidence :=
  let evidence : CheckEvidence :=
    { checked := true, failureCode := "host_unreachable" }
  match world.pingReplies with
  | none | some [] => { evidence with failureCode := "dns" }
  | some replies => pingAddresses evidence replies

structure ProxyCheckResult where
  status : ProbeStatus
  latency : Nat := 0
  failure : FailureEvidence := {}
  speedServerID : Text := []

def configurationResult : ProxyCheckResult :=
  { status := .proxyFailure
    failure := { code := "configuration", stage := .configuration } }

/-- A probe that failed after a while. -/
def failedResult (latency : Nat) (failure : FailureEvidence) :
    ProxyCheckResult :=
  { status := .proxyFailure, latency := latency, failure := failure }

namespace Executor

variable (e : Executor)

/-- The end of a download through the tunnel. -/
def transferred (profile : TestProfile) (ttfb : Nat) (body : ResponseBody) :
    ProxyCheckResult :=
  let target :=
    (profileDownloadBytes profile.downloadBytes).getD e.downloadMinSize
  let (read, error) := body.copied target
  match error.filter (!·.eof) with
  | some error => failedResult ttfb (classifyProxyError error)
  | none =>
      if read < min target e.downloadMinSize then
        failedResult ttfb { code := "download_incomplete", stage := .endpoint }
      else { status := .online, latency := ttfb }

/-- The request of `proxyCheck` and what its answer is worth. -/
def fetch (tunnel : Tunnel) (profile : TestProfile)
    (endpoint directBody : Text) : ProxyCheckResult :=
  match tunnel.get endpoint with
  | .malformed => configurationResult
  | .failed error ttfb => failedResult ttfb (classifyProxyError error)
  | .answered statusCode ttfb body =>
      if !statusOK statusCode then
        failedResult ttfb { code := "http_status", stage := .endpoint }
      else if profile.method = .download then e.transferred profile ttfb body
      else
        match body.text with
        | .error error => failedResult ttfb (classifyProxyError error)
        | .ok text =>
            if profile.method = .ip ∧
                trimSpace text = trimSpace directBody then
              failedResult ttfb
                { code := "source_ip_unchanged", stage := .proxy }
            else { status := .online, latency := ttfb }

/-- The URL a download measures, and the catalogue server it belongs to. -/
def downloadEndpoint (platform : Platform) (profile : TestProfile) :
    Text × Text :=
  let serverID := trimSpace profile.serverID
  if serverID = [] then (e.downloadURL, [])
  else
    match e.resolveSpeedServer serverID with
    | none => (e.downloadURL, [])
    | some url =>
        if platform.validEndpointURL url then (url, serverID)
        else (e.downloadURL, [])

/-- The endpoint of a profile that asks for one, and its catalogue server. -/
def endpointFor (platform : Platform) (profile : TestProfile) :
    Option (Text × Text) :=
  if profile.id = profileIP then
    if profile.method ≠ .ip then none else some (e.ipCheckURL, [])
  else if profile.id = profileStatus then
    if profile.method ≠ .status then none else some (e.statusCheckURL, [])
  else if profile.id = profileDownload then
    if profile.method ≠ .download then none
    else some (e.downloadEndpoint platform profile)
  else none

/-- `singleLatencySample`. -/
def singleLatencySample (tunnel : Tunnel) (index : Nat) :
    Nat × FailureEvidence :=
  match tunnel.sample index with
  | .malformed => (0, { code := "configuration", stage := .configuration })
  | .failed error _ => (0, classifyProxyError error)
  | .answered statusCode ttfb _ =>
      if !statusOK statusCode then
        (0, { code := "http_status", stage := .endpoint })
      else (if ttfb = 0 then tunnel.elapsed index else ttfb, {})

/-- The successful samples so far, and the last failure. -/
structure LatencySeries where
  samples : List Nat := []
  lastFailure : FailureEvidence := {}

/-- The loop of `latencyProfile`; `done` is whether the context is over when a
sample is to start. -/
def latencyLoop (tunnel : Tunnel) (done : Nat → Bool) :
    Nat → Nat → LatencySeries → LatencySeries
  | 0, _, series => series
  | remaining + 1, index, series =>
      if done index then series
      else
        match singleLatencySample tunnel index with
        | (latency, failure) =>
            if failure.code ≠ [] then
              latencyLoop tunnel done remaining (index + 1)
                { series with lastFailure := failure }
            else
              latencyLoop tunnel done remaining (index + 1)
                { series with samples := series.samples ++ [latency] }

/-- `percentileMillis` at one half. -/
def medianMillis (sorted : List Nat) : Int :=
  millis (sorted.getD ((sorted.length - 1) / 2) 0)

/-- `latencyProfile`. -/
def latencyProfile (tunnel : Tunnel) (done : Nat → Bool) : ProxyCheckResult :=
  let series := latencyLoop tunnel done e.latencySamples 0 {}
  let median :=
    (medianMillis (series.samples.insertionSort (· ≤ ·))).toNat * 1000000
  if series.samples = [] then
    failedResult 0
      (if series.lastFailure.code = [] then
        { code := "proxy_timeout", stage := .proxy }
      else series.lastFailure)
  else if series.samples.length < e.latencySamples then
    failedResult median series.lastFailure
  else { status := .online, latency := median }

/-- The reading loop of `stabilityProbe`: the bytes read, and the error that
ended it. -/
def drain : List (Nat × Option NetError) → Nat × Option NetError
  | [] => (0, none)
  | (count, some error) :: _ => (count, some error)
  | (count, none) :: rest => (count + (drain rest).1, (drain rest).2)

/-- `stabilityProbe`. -/
def stabilityProbe (tunnel : Tunnel) : ProxyCheckResult :=
  match tunnel.get e.downloadURL with
  | .malformed => configurationResult
  | .failed error ttfb => failedResult ttfb (classifyProxyError error)
  | .answered statusCode ttfb body =>
      if !statusOK statusCode then
        failedResult ttfb { code := "http_status", stage := .endpoint }
      else
        let (bytes, error) := drain body.pieces
        match error.filter (!·.eof) with
        | some error => failedResult ttfb (classifyProxyError error)
        | none =>
            if bytes = 0 then
              failedResult ttfb
                { code := "download_incomplete", stage := .endpoint }
            else { status := .online, latency := ttfb }

/-- `proxyCheck`. -/
def proxyCheck (platform : Platform) (tunnel : Tunnel) (done : Nat → Bool)
    (profile : TestProfile) (directBody : Text) : ProxyCheckResult :=
  if profile.id = profileLatency then
    if profile.method ≠ .latency then configurationResult
    else e.latencyProfile tunnel done
  else if profile.id = profileStability then
    if profile.method ≠ .stability then configurationResult
    else e.stabilityProbe tunnel
  else
    match e.endpointFor platform profile with
    | none => configurationResult
    | some (endpoint, serverID) =>
        { e.fetch tunnel profile endpoint directBody with
          speedServerID := serverID }

end Executor

structure TLSEvidence where
  handshake : Bool := false
  latencyMillis : Int
  failureCode : Text := []

/-- `tlsProbe`. -/
def tlsProbe (world : Outcomes) : TLSEvidence :=
  let latency := millis world.tlsElapsed
  match world.tlsDial with
  | some error =>
      { latencyMillis := latency, failureCode := tcpFailureCode error }
  | none =>
      match world.tlsHandshake with
      | some error =>
          { latencyMillis := latency, failureCode := tlsFailureCode error }
      | none => { handshake := true, latencyMillis := latency }

/-- The answer of one resolver. -/
structure DNSResolverEvidence where
  addresses : List Text := []
  latencyMillis : Int

structure DNSEvidence where
  literal : Bool := false
  resolvers : List DNSResolverEvidence := []
  mismatch : Bool := false

def sharesAddress (left right : List Text) : Bool :=
  right.any fun address => left.elem address

/-- What `dnsProbe` keeps of one resolver. -/
def Lookup.evidence (lookup : Lookup) : DNSResolverEvidence :=
  { addresses := sortStrings (lookup.addresses.getD [])
    latencyMillis := millis lookup.elapsed }

/-- `dnsProbe`. -/
def dnsProbe (platform : Platform) (world : Outcomes) (host : Text) :
    DNSEvidence :=
  if platform.isIPLiteral (trimSpace host) then { literal := true }
  else
    let resolvers :=
      [world.systemLookup.evidence, world.resolverLookup.evidence]
    let answers := (resolvers.map (·.addresses)).filter (!·.isEmpty)
    { resolvers := resolvers
      mismatch :=
        match answers with
        | left :: right :: _ => !sharesAddress left right
        | _ => false }

/-- The TLS branch of `runTransportProbe`. -/
def runTLSProbe (world : Outcomes) (observation : Observation) : Observation :=
  let tcp := tcpEvidence world
  let evidence := tlsProbe world
  let observation :=
    { observation with tcp := tcp, latencyMillis := evidence.latencyMillis }
  if evidence.handshake then { observation with status := .online }
  else if tcp.checked && !tcp.online then
    { observation with
      status := .offline
      failure := { code := evidence.failureCode, stage := .tcp } }
  else
    { observation with
      failure := { code := evidence.failureCode, stage := .tls } }

/-- The DNS branch of `runTransportProbe`. -/
def runDNSProbe (platform : Platform) (world : Outcomes)
    (assignment : JobAssignment) (observation : Observation) : Observation :=
  let evidence := dnsProbe platform world assignment.targetHost
  if evidence.literal then
    { observation with
      status := .unknown
      failure := { code := "dns_literal_address", stage := .dns } }
  else
    match evidence.resolvers.find? (!·.addresses.isEmpty) with
    | none =>
        { observation with
          status := .offline
          failure := { code := "dns", stage := .dns } }
    | some resolver =>
        let observation :=
          { observation with latencyMillis := resolver.latencyMillis }
        if evidence.mismatch then
          { observation with
            status := .proxyFailure
            failure := { code := "dns_mismatch", stage := .dns } }
        else { observation with status := .online }

/-- `configurationFailure`. -/
def configurationFailure (observation : Observation) : Observation :=
  { observation with
    failure := { code := "configuration", stage := .configuration } }

/-- `runTransportProbe`. -/
def runTransportProbe (platform : Platform) (world : Outcomes)
    (assignment : JobAssignment) (descriptor : ProfileDescriptor)
    (observation : Observation) : Observation :=
  match descriptor.method with
  | .tls => runTLSProbe world observation
  | .dns => runDNSProbe platform world assignment observation
  | _ => configurationFailure observation

/-- The observation `Execute` begins with. -/
def startedObservation (world : Outcomes) (assignment : JobAssignment) :
    Observation :=
  { schemaVersion := observationSchemaVersion
    agentID := assignment.job.agentID
    sessionID := assignment.job.sessionID
    jobID := assignment.job.jobID
    nonce := assignment.job.nonce
    stableID := assignment.job.stableID
    configGeneration := assignment.job.configGeneration
    configFingerprint := assignment.job.configFingerprint
    checkedAt := world.startedAt
    endpointProfile := assignment.job.profile.id
    status := .proxyFailure }

/-- The host checks `Execute` ends with. -/
def hostChecked (world : Outcomes) (observation : Observation) : Observation :=
  let tcp := tcpEvidence world
  let ping := pingEvidence world
  { observation with
    tcp := tcp
    ping := ping
    status :=
      if tcp.checked && !tcp.online && ping.checked && !ping.online then
        .offline
      else observation.status }

namespace Executor

variable (e : Executor)

/-- The three checks before anything is asked of the network. -/
def takes (platform : Platform) (world : Outcomes)
    (assignment : JobAssignment) :
    Bool :=
  validateAssignment assignment world.validatedAt &&
    platform.configFingerprint assignment.xrayConfig =
      assignment.job.configFingerprint &&
    validateXrayExecutionConfig platform assignment.xrayConfig
      assignment.socksPort

/-- The retry against the alternative endpoint, where there is one. -/
def alternativeCheck (platform : Platform) (world : Outcomes)
    (assignment : JobAssignment) (directBody : Text) :
    Option AlternativeEndpointObservation :=
  let alternativeID := trimSpace assignment.job.profile.alternativeProfileID
  if alternativeID = [] then none
  else
    match profileByID alternativeID with
    | none => none
    | some alternative =>
        if !alternative.tunnelled then none
        else
          let done := fun index : Nat =>
            world.contextDone assignment (world.alternative.sampleAt index)
          let result := e.proxyCheck platform world.alternative done
            (alternative.testProfileFor []) directBody
          some
            { profileID := alternative.id
              status := result.status
              latencyMillis := millis result.latency
              failure := result.failure }

/-- The part of `Execute` behind a started Xray. -/
def measured (platform : Platform) (world : Outcomes)
    (assignment : JobAssignment)
    (directBody : Text) (observation : Observation) : Observation :=
  let done := fun index : Nat =>
    world.contextDone assignment (world.tunnel.sampleAt index)
  let result := e.proxyCheck platform world.tunnel done assignment.job.profile
    directBody
  let observation :=
    { observation with
      status := result.status
      latencyMillis := millis result.latency
      failure := result.failure
      speedServerID := result.speedServerID }
  if result.status = .online then observation
  else
    match e.alternativeCheck platform world assignment directBody with
    | none => hostChecked world observation
    | some alternative =>
        let observation :=
          { observation with alternativeEndpoint := some alternative }
        if alternative.status = .online then observation
        else hostChecked world observation

/-- The part of `Execute` that starts Xray. -/
def throughTunnel (platform : Platform) (world : Outcomes)
    (assignment : JobAssignment) (directBody : Text)
    (observation : Observation) : Observation :=
  if !world.configWritten then configurationFailure observation
  else if !world.xrayStarts then
    { observation with
      failure := { code := "configuration", stage := .xrayStart } }
  else e.measured platform world assignment directBody observation

/-- The body of `Execute`, before the duration is filled in. -/
def observe (platform : Platform) (world : Outcomes)
    (assignment : JobAssignment) :
    Observation :=
  let observation := startedObservation world assignment
  if !takes platform world assignment then configurationFailure observation
  else
    match profileByID assignment.job.profile.id with
    | none => configurationFailure observation
    | some descriptor =>
        if descriptor.method ≠ assignment.job.profile.method then
          configurationFailure observation
        else
          let (evidence, directBody) := directConnectivity world
          let observation := { observation with directConnectivity := evidence }
          if !descriptor.tunnelled then
            runTransportProbe platform world assignment descriptor observation
          else e.throughTunnel platform world assignment directBody observation

/-- `Execute`. -/
def execute (platform : Platform) (world : Outcomes)
    (assignment : JobAssignment) :
    Observation :=
  { e.observe platform world assignment with
    durationMillis :=
      max 0 ((world.finishedAt.sub world.startedAt).tdiv 1000000) }

end Executor

/-- What a client puts on an observation before it posts it. -/
structure Client where
  agentID : Text
  agentVersion : Text
  sign : Observation → Bytes

/-- The observation the client of `pollAndExecute` posts. -/
def Client.complete (client : Client) (observation : Observation) :
    Observation :=
  let observation :=
    { observation with
      agentID := client.agentID
      agentVersion := client.agentVersion }
  { observation with signature := client.sign observation }

end XrayChecker.Probeagent

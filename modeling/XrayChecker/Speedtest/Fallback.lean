import Mathlib.Data.List.Sort
import XrayChecker.Speedtest.Results

/-
The reserve endpoints of a country and their health: which ones a node is
measured against when its own measurement fails or is slow, and what keeps one
out for a while.
-/

namespace XrayChecker.Speedtest

open Go

def fallbackProbeMaxBytes : Int := 64 * 1024
def fallbackProbeTimeoutSec : Int := 8
def maxFallbackAttempts : Nat := 2
def fallbackNodeCooldown : Int := minutes 10
def fallbackGlobalCooldown : Int := minutes 30
def fallbackFailureWindow : Int := minutes 5
def fallbackGlobalFailureCount : Nat := 3
def fallbackGlobalFailureNodes : Nat := 2

def manualSource : Text := "manual"
def telegramSource : Text := "telegram"
def scheduleSource : Text := "schedule"
def confirmationRetrySource : Text := "speed-retry"

/-- `usesSequencedFallback`. -/
def usesSequencedFallback (source : Text) : Bool :=
  source = manualSource || source = telegramSource ||
    source = confirmationRetrySource

structure TestConfig where
  url : Text
  maxBytes : Int
  timeoutSec : Int
  concurrency : Nat
deriving DecidableEq

structure FallbackEndpoint where
  id : Text
  provider : Text := []
  city : Text := []
  url : Text
  priority : Int := 0
  enabled : Option Bool := none
deriving DecidableEq

def FallbackEndpoint.isEnabled (e : FallbackEndpoint) : Bool :=
  e.enabled.getD true

structure FallbackEndpointHealth where
  successes : Nat := 0
  failures : Nat := 0
  consecutiveFailures : Nat := 0
  lastSuccessAt : Time := 0
  lastFailureAt : Time := 0
  cooldownUntil : Time := 0
  recentFailures : GoMap Text Time := ∅

def recentlyFailed (now failedAt : Time) : Bool :=
  (now : Int) - fallbackFailureWindow ≤ failedAt

/-- The health of an endpoint after a failure. -/
def FallbackEndpointHealth.failed (endpoint : FallbackEndpointHealth)
    (stableID : Text) (now : Time) : FallbackEndpointHealth :=
  let recent : GoMap Text Time :=
    (endpoint.recentFailures.filter fun _ failedAt =>
      recentlyFailed now failedAt).insert stableID now
  { endpoint with
    failures := endpoint.failures + 1
    consecutiveFailures := endpoint.consecutiveFailures + 1
    lastFailureAt := now
    recentFailures := recent
    cooldownUntil :=
      if fallbackGlobalFailureCount ≤ endpoint.consecutiveFailures + 1 ∧
          fallbackGlobalFailureNodes ≤ recent.size then
        ((now : Int) + fallbackGlobalCooldown).toNat
      else endpoint.cooldownUntil }

structure FallbackNodeHealth where
  lastSuccessAt : Time := 0
  lastFailureAt : Time := 0
  cooldownUntil : Time := 0
deriving DecidableEq

structure FallbackHealthState where
  endpoints : GoMap Text FallbackEndpointHealth := ∅
  nodes : GoMap Text (GoMap Text FallbackNodeHealth) := ∅

/-- `fallbackReliability`. -/
def fallbackReliability (health : FallbackEndpointHealth) : Rat :=
  let total := health.successes + health.failures
  if total = 0 then 0 else (health.successes : Rat) / total

namespace FallbackHealthState

variable (health : FallbackHealthState)

def endpoint (endpointID : Text) : FallbackEndpointHealth :=
  (health.endpoints[endpointID]?).getD {}

def node (stableID endpointID : Text) : FallbackNodeHealth :=
  (((health.nodes[stableID]?).getD ∅)[endpointID]?).getD {}

/-- An endpoint is out for a node, or for all of them. -/
def cooling (stableID endpointID : Text) (now : Time) : Bool :=
  now < (health.endpoint endpointID).cooldownUntil ||
    now < (health.node stableID endpointID).cooldownUntil

/-- The order in which a node tries the endpoints. -/
def less (stableID : Text) (left right : FallbackEndpoint) : Bool :=
  let leftNode := health.node stableID left.id
  let rightNode := health.node stableID right.id
  let leftGlobal := health.endpoint left.id
  let rightGlobal := health.endpoint right.id
  if leftNode.lastSuccessAt ≠ rightNode.lastSuccessAt then
    rightNode.lastSuccessAt < leftNode.lastSuccessAt
  else if (0 < leftGlobal.successes) ≠ (0 < rightGlobal.successes) then
    0 < leftGlobal.successes
  else if fallbackReliability leftGlobal ≠ fallbackReliability rightGlobal then
    fallbackReliability rightGlobal < fallbackReliability leftGlobal
  else if leftGlobal.lastSuccessAt ≠ rightGlobal.lastSuccessAt then
    rightGlobal.lastSuccessAt < leftGlobal.lastSuccessAt
  else if left.priority ≠ right.priority then left.priority < right.priority
  else left.id < right.id

/-- `fallbackCandidates`, of the endpoints of the country. -/
def candidates (endpoints : List FallbackEndpoint)
    (stableID primaryURL : Text) (now : Time) : List FallbackEndpoint :=
  (endpoints.filter fun endpoint =>
    endpoint.isEnabled && endpoint.url ≠ trimSpace primaryURL &&
      !health.cooling stableID endpoint.id now).insertionSort
    fun left right => !health.less stableID right left

/-- `recordFallbackFailure`. -/
def recordFallbackFailure (stableID endpointID : Text) (now : Time) :
    FallbackHealthState :=
  { endpoints := health.endpoints.insert endpointID
      ((health.endpoint endpointID).failed stableID now)
    nodes := health.nodes.insert stableID
      (((health.nodes[stableID]?).getD ∅).insert endpointID
        { health.node stableID endpointID with
          lastFailureAt := now
          cooldownUntil := ((now : Int) + fallbackNodeCooldown).toNat }) }

/-- `recordFallbackSuccess`. -/
def recordFallbackSuccess (stableID endpointID : Text) (now : Time) :
    FallbackHealthState :=
  { endpoints := health.endpoints.insert endpointID
      { health.endpoint endpointID with
        successes := (health.endpoint endpointID).successes + 1
        consecutiveFailures := 0
        lastSuccessAt := now
        cooldownUntil := 0
        recentFailures := ∅ }
    nodes := health.nodes.insert stableID
      (((health.nodes[stableID]?).getD ∅).insert endpointID
        { health.node stableID endpointID with
          lastSuccessAt := now
          cooldownUntil := 0 }) }

end FallbackHealthState

/-- What an attempt measures, and the threshold that judges it. -/
structure Attempt where
  downloadedBytes : Int := 0
  mbps : Rat := 0
  timedOut : Bool := false
  error : Text := []
  checkedAt : Time
  threshold : Rat := 0
deriving DecidableEq

/-- The result of `executeTestAttempt`. -/
def Attempt.result (attempt : Attempt) (proxy : ProxyConfig)
    (config : TestConfig) (source : Text) : Result :=
  { stableID := proxy.stableID
    name := proxy.name
    subName := proxy.subName
    protocol := proxy.protocol
    url := config.url
    downloadedBytes := attempt.downloadedBytes
    mbps := attempt.mbps
    timedOut := attempt.timedOut
    lowSpeedThresholdMbps := attempt.threshold
    error := attempt.error
    checkedAt := attempt.checkedAt
    source := source }

/-- `successfulSpeedResult`. -/
def successfulSpeedResult (result : Result) : Bool :=
  !result.offline && result.error = [] && !result.timedOut &&
    0 < result.downloadedBytes

/-- `shouldAttemptFallback`. -/
def shouldAttemptFallback (primary : Result) (threshold : Rat) : Bool :=
  !primary.offline &&
    (primary.error ≠ [] || primary.timedOut ||
      (0 < threshold && primary.mbps < threshold))

/-- The small transfer that comes before a measurement against an endpoint. -/
def TestConfig.probe (config : TestConfig) (endpoint : FallbackEndpoint) :
    TestConfig :=
  { config with
    url := endpoint.url
    maxBytes := fallbackProbeMaxBytes
    timeoutSec :=
      if config.timeoutSec ≤ 0 ∨ fallbackProbeTimeoutSec < config.timeoutSec
      then fallbackProbeTimeoutSec
      else config.timeoutSec }

/-- A node between the start and the end of the loop over the endpoints. -/
structure Trying where
  primary : Result
  config : TestConfig
  country : Text
  threshold : Rat
  endpoint : FallbackEndpoint
  rest : List FallbackEndpoint
  attempted : Nat
  /-- The probe succeeded, and the measurement is in flight. -/
  transferring : Bool := false
deriving DecidableEq

namespace Trying

variable (trying : Trying)

/-- The configuration of the attempt in flight. -/
def attemptConfig : TestConfig :=
  if trying.transferring then
    { trying.config with url := trying.endpoint.url }
  else trying.config.probe trying.endpoint

/-- The primary measurement when no endpoint is left. -/
def exhausted : Result :=
  { trying.primary with
    primaryMbps := trying.primary.mbps
    fallbackAttempted := true
    fallbackAttempts := trying.attempted
    fallbackExhausted := true }

/-- A measurement against an endpoint in place of the primary one. -/
def replaced (result : Result) : Result :=
  { result with
    fallbackUsed := true
    fallbackID := trying.endpoint.id
    fallbackProvider := trying.endpoint.provider
    fallbackCity := trying.endpoint.city
    fallbackCountryCode := trying.country
    primaryURL := trying.primary.url
    primaryError := trying.primary.error
    primaryTimedOut := trying.primary.timedOut
    primaryMbps := trying.primary.mbps
    fallbackAttempted := true
    fallbackAttempts := trying.attempted
    telegramAlertSuppressed :=
      trying.threshold ≤ 0 || trying.threshold ≤ result.mbps }

/-- The next endpoint, if there is one. -/
def next : Option Trying :=
  match trying.rest with
  | [] => none
  | endpoint :: rest =>
      some { trying with
        endpoint := endpoint
        rest := rest
        attempted := trying.attempted + 1
        transferring := false }

end Trying

/-- The start of `testFallbackForPrimary`: the first endpoint to try, if
any. -/
def startFallback (health : FallbackHealthState)
    (catalog : GoMap Text (List FallbackEndpoint)) (stableID : Text)
    (config : TestConfig) (primary : Result) (country : Text)
    (threshold : Rat) (now : Time) : Option Trying :=
  if !shouldAttemptFallback primary threshold then none
  else if country = [] then none
  else
    match (health.candidates ((catalog[country]?).getD []) stableID config.url
        now).take maxFallbackAttempts with
    | [] => none
    | endpoint :: rest =>
        some
          { primary := primary
            config := config
            country := country
            threshold := threshold
            endpoint := endpoint
            rest := rest
            attempted := 1 }

end XrayChecker.Speedtest

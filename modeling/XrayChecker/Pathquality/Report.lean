import XrayChecker.Go.Tally
import XrayChecker.Go.UrlQuery
import XrayChecker.Go.Zone
import XrayChecker.Speedtest.Fallback

/-
When the path to each node degrades: the measurements filed by hour of day and
by the clients' peak hours.

Rates and shares are exact numbers.
-/

namespace XrayChecker.Pathquality

open Go Speedtest

structure Options where
  fromTime : Time := 0
  toTime : Time := 0
  location : Option Location := none
  peakLocation : Option Location := none
  peakStart : Int
  peakEnd : Int
  threshold : Rat := 0

structure NodeInput where
  stableID : Text
  name : Text := []
  subscription : Text := []
  environment : Bool := false
  results : List Result := []

/-- One hour of the day. -/
structure Cell where
  hour : Fin 24
  runs : Nat := 0
  bad : Nat := 0
  medianMbps : Rat := 0
deriving DecidableEq

/-- `Share`. -/
def Cell.share (c : Cell) : Rat :=
  if c.runs = 0 then 0 else c.bad / c.runs

/-- The peak, or the rest of the day. -/
structure Window where
  runs : Nat := 0
  bad : Nat := 0
  badShare : Rat := 0
  medianMbps : Rat := 0
deriving DecidableEq

/-- `share`. -/
def Window.share (window : Window) : Rat :=
  if window.runs = 0 then 0 else window.bad / window.runs

/-- Counters by name; `nil` until the first one counts. -/
abbrev Counters := Option (GoMap Text Nat)

structure NodeReport where
  stableID : Text
  name : Text
  subscription : Text
  environment : Bool
  hours : Fin 24 → Cell
  peak : Window
  offPeak : Window
  worstHour : Int
  verdicts : Counters
  servers : Counters

structure Report where
  fromTime : Time
  toTime : Time
  timeZone : Text
  peakZone : Text
  peakStart : Int
  peakEnd : Int
  nodes : List NodeReport
  fleet : Fin 24 → Cell
  excluded : Nat

/-- `options.Location`, with its default. -/
def Options.zone (options : Options) : Location :=
  options.location.getD Location.utc

/-- `options.PeakLocation`, with its default. -/
def Options.peakZone (options : Options) : Location :=
  options.peakLocation.getD options.zone

/-- `Bad`. -/
def isBad (result : Result) (fallbackThreshold : Rat) : Bool :=
  let threshold :=
    if result.lowSpeedThresholdMbps ≤ 0 then fallbackThreshold
    else result.lowSpeedThresholdMbps
  result.offline || result.error ≠ [] || result.timedOut ||
    (0 < threshold && result.mbps < threshold)

def inRange (checkedAt : Time) (options : Options) : Bool :=
  if !options.fromTime.isZero && checkedAt < options.fromTime then false
  else if !options.toTime.isZero && !(checkedAt < options.toTime) then false
  else true

def included (result : Result) (options : Options) : Bool :=
  if result.checkedAt.isZero || !inRange result.checkedAt options then false
  else if result.maintenanceProbe || result.projectMaintenanceProbe then false
  else result.source ≠ confirmationRetrySource

def inPeak (hour start stop : Int) : Bool :=
  if start = stop then false
  else if start < stop then start ≤ hour && hour < stop
  else start ≤ hour || hour < stop

def successfulRate (result : Result) : Option Rat :=
  if result.offline || result.error ≠ [] || result.mbps ≤ 0 then none
  else some result.mbps

def agentDiagnosticRunning : Text := "running".toList

/-- The verdict of the agent probe that a measurement is counted under. -/
def verdictOf (result : Result) : Option Text :=
  match result.agentDiagnostic with
  | none => none
  | some probe =>
      if probe.state ≠ [] ∧ probe.state ≠ agentDiagnosticRunning then
        some probe.state
      else none

/-- One more for a name. -/
def increment (counters : Counters) (name : Text) : Counters :=
  let counts := counters.getD ∅
  some (counts.insert name ((counts[name]?).getD 0 + 1))

def Cell.count (cell : Cell) (bad : Bool) : Cell :=
  { cell with runs := cell.runs + 1, bad := cell.bad + bad.toNat }

def Window.count (window : Window) (bad : Bool) : Window :=
  { window with runs := window.runs + 1, bad := window.bad + bad.toNat }

def newHours (hour : Fin 24) : Cell where
  hour := hour

def noRates (_ : Fin 24) : List Rat := []

/-- What `Build` gathers over all nodes. -/
structure FleetState where
  fleet : Fin 24 → Cell := newHours
  fleetRates : Fin 24 → List Rat := noRates
  excluded : Nat := 0

/-- And what it gathers of one node. -/
structure RowState extends FleetState where
  hours : Fin 24 → Cell := newHours
  rates : Fin 24 → List Rat := noRates
  peak : Window := {}
  offPeak : Window := {}
  peakRates : List Rat := []
  offRates : List Rat := []
  verdicts : Counters := none
  servers : Counters := none

/-- The cell of one hour, and the others as they are. -/
def setAt {T : Type} (table : Fin 24 → T) (hour : Fin 24) (change : T → T) :
    Fin 24 → T :=
  fun h => if h = hour then change (table h) else table h

section Build

/- `ipLiteral` stands for the addresses `netip.ParseAddr` takes, other than
IPv4. -/
variable (ipLiteral : Bytes → Bool) (options : Options)

def urlHost (raw : Text) : Text :=
  match parseUrl ipLiteral (encode (trimSpace raw)) with
  | none => []
  | some parsed => toLower (runes parsed.hostname)

/-- The server a measurement is counted under. -/
def serverOf (result : Result) : Option Text :=
  if urlHost ipLiteral result.url = [] then none
  else some (urlHost ipLiteral result.url)

def peakHour (result : Result) : Bool :=
  inPeak (options.peakZone.hour result.checkedAt).val options.peakStart
    options.peakEnd

/-- The loop over the results of a node. -/
def fileResult (state : RowState) (result : Result) : RowState :=
  if !included result options then
    if result.source = confirmationRetrySource &&
        inRange result.checkedAt options then
      { state with excluded := state.excluded + 1 }
    else state
  else
    let bad := isBad result options.threshold
    let hour := options.zone.hour result.checkedAt
    let rate := (successfulRate result).toList
    let state :=
      { state with
        hours := setAt state.hours hour (·.count bad)
        fleet := setAt state.fleet hour (·.count bad)
        rates := setAt state.rates hour (· ++ rate)
        fleetRates := setAt state.fleetRates hour (· ++ rate) }
    let state :=
      if peakHour options result then
        { state with
          peak := state.peak.count bad, peakRates := state.peakRates ++ rate }
      else
        { state with
          offPeak := state.offPeak.count bad
          offRates := state.offRates ++ rate }
    { state with
      verdicts := (verdictOf result).elim state.verdicts
        (increment state.verdicts)
      servers := (serverOf ipLiteral result).elim state.servers
        (increment state.servers) }

/-- The hours with the medians of their rates. -/
def finishHours (cells : Fin 24 → Cell) (rates : Fin 24 → List Rat)
    (hour : Fin 24) : Cell :=
  { cells hour with medianMbps := median (rates hour) }

def Window.finish (window : Window) (rates : List Rat) : Window :=
  { window with medianMbps := median rates, badShare := window.share }

/-- The hour of the highest bad share among those that ran twice, or `-1`. -/
def worstHour (hours : Fin 24 → Cell) : Int :=
  match firstBest (fun h => 2 ≤ (hours h).runs) (fun h => (hours h).share)
      (List.finRange 24) with
  | none => -1
  | some worst => if (hours worst).bad = 0 then -1 else worst.val

def finishRow (node : NodeInput) (state : RowState) : NodeReport :=
  let hours := finishHours state.hours state.rates
  { stableID := node.stableID
    name := node.name
    subscription := node.subscription
    environment := node.environment
    hours := hours
    peak := state.peak.finish state.peakRates
    offPeak := state.offPeak.finish state.offRates
    worstHour := worstHour hours
    verdicts := state.verdicts
    servers := state.servers }

/-- The loop over the nodes: the rows so far, and the fleet. -/
def fileNode (acc : List NodeReport × FleetState) (node : NodeInput) :
    List NodeReport × FleetState :=
  let state := node.results.foldl (fileResult ipLiteral options)
    { toFleetState := acc.2 }
  (acc.1 ++ [finishRow node state], state.toFleetState)

def build (nodes : List NodeInput) : Report :=
  let acc := nodes.foldl (fileNode ipLiteral options) ([], {})
  { fromTime := options.fromTime
    toTime := options.toTime
    timeZone := options.zone.name
    peakZone := options.peakZone.name
    peakStart := options.peakStart
    peakEnd := options.peakEnd
    nodes := acc.1
    fleet := finishHours acc.2.fleet acc.2.fleetRates
    excluded := acc.2.excluded }

end Build

end XrayChecker.Pathquality

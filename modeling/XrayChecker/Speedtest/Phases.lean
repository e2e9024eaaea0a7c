import XrayChecker.Machine.Run
import XrayChecker.Speedtest.Fallback

/-
One speed-test run: the goroutine of every selected node, the slots they wait
for, the channel they answer on, and the loop that records what arrives.  A
manual run measures all nodes before it tries reserve endpoints; a scheduled
one does both in the goroutine of the node.
-/

namespace XrayChecker.Speedtest

open Go

/-- Where a node of the run is. -/
inductive Stage where
  /-- Its goroutine waits for a slot. -/
  | waiting
  /-- The run was cancelled before it had one, or the node is offline. -/
  | skipped
  | measuring (config : TestConfig)
  /-- Measured by a goroutine that goes on to the reserve endpoints. -/
  | measured (config : TestConfig) (primary : Result)
  /-- In the channel of the primary results. -/
  | sent (config : TestConfig) (primary : Result)
  /-- In the fallback queue, and from the second phase on waiting for a
  slot. -/
  | queued (config : TestConfig) (primary : Result)
  | trying (trying : Trying)
  /-- In the channel of the final results. -/
  | settled (result : Result)
  | recorded (result : Result)
  /-- Received, and left out because the run was cancelled. -/
  | dropped
deriving DecidableEq

namespace Stage

/-- The goroutine holds a slot. -/
def busy : Stage → Bool
  | .measuring _ | .measured _ _ | .trying _ => true
  | _ => false

/-- The first phase is over for the node. -/
def primaryOver : Stage → Bool
  | .waiting | .measuring _ | .sent _ _ => false
  | _ => true

/-- Nothing is left to do. -/
def isOver : Stage → Bool
  | .skipped | .recorded _ | .dropped => true
  | _ => false

end Stage

/-- What a run is started with. -/
structure Setup where
  proxies : List ProxyConfig
  config : TestConfig
  source : Text
  maintenanceProbes : GoMap Text Bool := ∅
  projectMaintenanceProbe : Bool := false
  catalog : GoMap Text (List FallbackEndpoint) := ∅

/-- An entry of the results of a run, with the node it is of and the time of
its recording. -/
structure RunResult where
  index : Nat
  result : Result
  recordedAt : Time
deriving DecidableEq

structure SpeedRun where
  stages : List Stage
  cancelled : Bool := false
  manager : Manager := {}
  health : FallbackHealthState := {}
  runResults : List RunResult := []

namespace Setup

variable (setup : Setup)

/-- The run before any goroutine got a slot. -/
def start (manager : Manager) (health : FallbackHealthState) : SpeedRun :=
  { stages := setup.proxies.map fun _ => .waiting
    manager := manager
    health := health }

/-- The result with its maintenance marks. -/
def marked (result : Result) : Result :=
  { result with
    maintenanceProbe := (setup.maintenanceProbes[result.stableID]?).getD false
    projectMaintenanceProbe := setup.projectMaintenanceProbe }

end Setup

namespace SpeedRun

/-- A slot is free. -/
def HasSlot (setup : Setup) (w : SpeedRun) : Prop :=
  w.stages.countP (·.busy) < setup.config.concurrency

instance (setup : Setup) (w : SpeedRun) : Decidable (w.HasSlot setup) :=
  inferInstanceAs (Decidable (_ < _))

def setStage (w : SpeedRun) (index : Nat) (stage : Stage) : SpeedRun :=
  { w with stages := w.stages.set index stage }

/-- `recordResult`. -/
def recordResult (setup : Setup) (w : SpeedRun) (index : Nat)
    (result : Result) (now : Time) : SpeedRun :=
  if w.cancelled ∧ result.error ≠ [] then w.setStage index .dropped
  else
    { w.setStage index (.recorded result) with
      manager := w.manager.recordResult (setup.marked result) now
      runResults := w.runResults ++
        [{ index := index, result := setup.marked result
           recordedAt := now }] }

/-- The goroutine of a node gets its first slot. -/
def acquire (setup : Setup) (w : SpeedRun) (index : Nat)
    (config : TestConfig) (ready : Bool) : SpeedRun :=
  match w.stages[index]? with
  | some .waiting =>
      if ¬ w.HasSlot setup then w
      else if w.cancelled || !ready then w.setStage index .skipped
      else w.setStage index (.measuring config)
  | _ => w

/-- An attempt is over. -/
def finish (setup : Setup) (w : SpeedRun) (index : Nat) (attempt : Attempt)
    (now : Time) : SpeedRun :=
  match setup.proxies[index]?, w.stages[index]? with
  | some proxy, some (.measuring config) =>
      let primary := attempt.result proxy config setup.source
      w.setStage index
        (if usesSequencedFallback setup.source then .sent config primary
        else .measured config primary)
  | some proxy, some (.trying trying) =>
      let result := attempt.result proxy trying.attemptConfig setup.source
      if !successfulSpeedResult result then
        { w.setStage index
            (match trying.next with
            | some next => .trying next
            | none => .settled trying.exhausted) with
          health := w.health.recordFallbackFailure proxy.stableID
            trying.endpoint.id now }
      else if !trying.transferring then
        w.setStage index (.trying { trying with transferring := true })
      else
        { w.setStage index (.settled (trying.replaced result)) with
          health := w.health.recordFallbackSuccess proxy.stableID
            trying.endpoint.id now }
  | _, _ => w

/-- The recording loop takes a result from its channel. -/
def receive (setup : Setup) (w : SpeedRun) (index : Nat) (threshold : Rat)
    (now : Time) : SpeedRun :=
  match w.stages[index]? with
  | some (.sent config primary) =>
      if !w.cancelled && shouldAttemptFallback primary threshold then
        w.setStage index (.queued config primary)
      else w.recordResult setup index primary now
  | some (.settled result) => w.recordResult setup index result now
  | _ => w

/-- The stage after the start of `testFallbackForPrimary`. -/
def tried (setup : Setup) (w : SpeedRun) (stableID : Text)
    (config : TestConfig) (primary : Result) (country : Text)
    (threshold : Rat) (now : Time) : Stage :=
  match startFallback w.health setup.catalog stableID config primary country
      threshold now with
  | some trying => .trying trying
  | none => .settled primary

/-- The goroutine of a measured node turns to the reserve endpoints; in a
manual run it is a new one, which starts when all nodes are measured. -/
def enter (setup : Setup) (w : SpeedRun) (index : Nat) (country : Text)
    (threshold : Rat) (now : Time) : SpeedRun :=
  match setup.proxies[index]?, w.stages[index]? with
  | some proxy, some (.measured config primary) =>
      w.setStage index (w.tried setup proxy.stableID config primary country
        threshold now)
  | some proxy, some (.queued config primary) =>
      if ¬ (w.HasSlot setup ∧ w.stages.all (·.primaryOver)) then w
      else if w.cancelled then w.setStage index (.settled primary)
      else
        w.setStage index (w.tried setup proxy.stableID config primary country
          threshold now)
  | _, _ => w

inductive Event where
  | acquire (index : Nat) (config : TestConfig) (ready : Bool)
  | finish (index : Nat) (attempt : Attempt) (now : Time)
  | receive (index : Nat) (threshold : Rat) (now : Time)
  | enter (index : Nat) (country : Text) (threshold : Rat) (now : Time)
  | cancel

def step (setup : Setup) (w : SpeedRun) : Event → SpeedRun
  | .acquire index config ready => w.acquire setup index config ready
  | .finish index attempt now => w.finish setup index attempt now
  | .receive index threshold now => w.receive setup index threshold now
  | .enter index country threshold now =>
      w.enter setup index country threshold now
  | .cancel => { w with cancelled := true }

/-- Every goroutine is through and both channels are empty. -/
def Over (w : SpeedRun) : Prop :=
  ∀ stage ∈ w.stages, stage.isOver = true

end SpeedRun

end XrayChecker.Speedtest

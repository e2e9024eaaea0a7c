import XrayChecker.Checker.Probe
import XrayChecker.Machine.Run

/-
The availability runs: which nodes a run checks and in which mode, the first
pass of host diagnostics, and the checks themselves.  The events of the
checker are these runs and everything else that writes its state.
-/

namespace XrayChecker.Checker

open Go

/-- `availabilityCheckCandidate`. -/
structure Candidate where
  proxy : ProxyConfig
  wasUnavailable : Bool := false
  probeOnly : Bool := false

/-- The host diagnostics of the first pass, and whether the run was already
cancelled before and after them. -/
structure Diagnosis where
  cancelledBefore : Bool := false
  cancelledAfter : Bool := false
  hostCheck : HostCheckDetails := {}
  pingCheck : PingCheckDetails := {}
  storedAt : Time := 0

/-- What one run meets outside.  The orders are those in which the workers'
jobs take effect; a job that is missing was never reached. -/
structure Surroundings where
  cancelled : Bool := false
  ownIP : Except Text Text := .ok []
  diagnosed : List Nat := []
  diagnoses : Nat → Diagnosis := fun _ => {}
  cancelledBetween : Bool := false
  probed : List Nat := []
  probes : Nat → Probe

/-- Why a run ended early. -/
inductive RunError where
  | projectMaintenance
  | cancelled
  | ownIP (text : Text)
  | selectAtLeastOne
  | maintenanceMode (stableIDs : List Text)
  | notFound (stableIDs : List Text)
  | configurationChanged (stableIDs : List Text)
deriving DecidableEq

/-- A run ready for its checks: the state before them, the generation they
expect, and the checks in the order in which they take effect. -/
structure Run where
  pc : ProxyChecker
  expectedGeneration : Option Nat := none
  jobs : List (Candidate × Probe) := []
  error : Option RunError := none

/-- The jobs the workers reach. -/
def reached (candidates : List Candidate) (order : List Nat)
    (probes : Nat → Probe) : List (Candidate × Probe) :=
  order.filterMap fun index =>
    candidates[index]?.map fun candidate => (candidate, probes index)

namespace ProxyChecker

variable (options : Options) (pc : ProxyChecker)

/-- `GetCurrentIP`. -/
def getCurrentIP (answer : Except Text Text) : Except Text ProxyChecker :=
  if pc.ipInitialized && pc.currentIP ≠ [] then .ok pc
  else
    match answer with
    | .error text => .error text
    | .ok ip => .ok { pc with currentIP := ip, ipInitialized := true }

/-- The state with the own address, where the check method needs it. -/
def withCurrentIP (needed : Bool) (answer : Except Text Text) :
    Except Text ProxyChecker :=
  if needed && options.checkMethod = "ip" then pc.getCurrentIP answer
  else .ok pc

/-- The guards of `withCheckRun` before the run itself. -/
def withCheckRun (allowProjectMaintenance : Bool) (around : Surroundings)
    (start : ProxyChecker → Run) : Run :=
  if !allowProjectMaintenance && pc.projectMaintenance then
    { pc := pc, error := some .projectMaintenance }
  else if around.cancelled then { pc := pc, error := some .cancelled }
  else start pc

/-- A tracked node as a candidate, its identity filled in. -/
def candidate (proxy : ProxyConfig) : Candidate :=
  let stableID := proxy.effectiveStableID options.digest
  { proxy := { proxy with stableID := stableID }
    wasUnavailable :=
      match pc.statusDetailsByStableID stableID with
      | some details => !details.online
      | none => false
    probeOnly := !pc.availabilityAccounted stableID }

/-- `CheckProxy`. -/
def checkProxy (proxy : ProxyConfig) (around : Surroundings) : Run :=
  pc.withCheckRun false around fun pc =>
    if !pc.monitoringEnabled (proxy.effectiveStableID options.digest) then
      { pc := pc }
    else
      match pc.withCurrentIP options true around.ownIP with
      | .error _ => { pc := pc }
      | .ok pc =>
          { pc := pc
            jobs := [({ proxy := proxy }, around.probes 0)] }

/-- `CheckAllProxies`. -/
def checkAllProxies (around : Surroundings) : Run :=
  pc.withCheckRun false around fun pc =>
    match pc.withCurrentIP options true around.ownIP with
    | .error text => { pc := pc, error := some (.ownIP text) }
    | .ok pc =>
        { pc := pc
          expectedGeneration := some pc.generation
          jobs :=
            reached (pc.proxies.map (pc.candidate options)) around.probed
              around.probes }

/-- The requested identities: trimmed, not empty, each once. -/
def requestedIDs (stableIDs : List Text) : List Text :=
  ((stableIDs.map trimSpace).filter (· ≠ [])).eraseDups

/-- The tracked nodes `availabilityCheckCandidates` goes through, in list
order. -/
def orderedCandidates (requested : List Text)
    (unavailableOnly allowMaintenance : Bool) : List Candidate :=
  (pc.proxies.map (pc.candidate options)).filter fun candidate =>
    (requested = [] || candidate.proxy.stableID ∈ requested) &&
      (allowMaintenance || pc.monitoringEnabled candidate.proxy.stableID) &&
      (!unavailableOnly || candidate.wasUnavailable)

/-- `availabilityCheckCandidates`. -/
def availabilityCheckCandidates (stableIDs : List Text)
    (unavailableOnly allowMaintenance : Bool) :
    Except RunError (List Candidate) :=
  let requested := requestedIDs stableIDs
  if !unavailableOnly && requested = [] then .error .selectAtLeastOne
  else
    let ordered :=
      pc.orderedCandidates options requested unavailableOnly allowMaintenance
    if unavailableOnly then .ok ordered
    else
      let byStableID (stableID : Text) :=
        ordered.reverse.find? (·.proxy.stableID = stableID)
      let missing := requested.filter fun stableID =>
        (byStableID stableID).isNone
      if missing = [] then .ok (requested.filterMap byStableID)
      else
        let tracked (stableID : Text) :=
          (pc.getProxyByStableID options stableID).isSome
        let paused := missing.filter fun stableID =>
          tracked stableID && !allowMaintenance &&
            !pc.monitoringEnabled stableID
        if paused ≠ [] then .error (.maintenanceMode paused)
        else .error (.notFound (missing.filter fun id => !tracked id))

/-- The first pass: the state, the jobs that need a proxy check, and the nodes
whose configuration changed meanwhile. -/
structure FirstPass where
  pc : ProxyChecker
  needsProxyCheck : List Nat := []
  changed : List Text := []

/-- One job of the first pass. -/
def diagnoseCandidate (generation : Nat) (candidates : List Candidate)
    (diagnoses : Nat → Diagnosis) (pass : FirstPass) (index : Nat) :
    FirstPass :=
  match candidates[index]? with
  | none => pass
  | some candidate =>
      let diagnosis := diagnoses index
      if diagnosis.cancelledBefore then pass
      else if !candidate.wasUnavailable then
        { pass with needsProxyCheck := index :: pass.needsProxyCheck }
      else if diagnosis.cancelledAfter then pass
      else if pass.pc.generation ≠ generation then
        { pass with changed := candidate.proxy.stableID :: pass.changed }
      else
        { pass with
          pc := pass.pc.storeStatusDetailsMode candidate.proxy.stableID
            { online := false, hostCheck := some diagnosis.hostCheck
              pingCheck := some diagnosis.pingCheck }
            candidate.probeOnly diagnosis.storedAt
          needsProxyCheck :=
            if diagnosis.hostCheck.online then index :: pass.needsProxyCheck
            else pass.needsProxyCheck }

def firstPass (generation : Nat) (candidates : List Candidate)
    (around : Surroundings) : FirstPass :=
  around.diagnosed.foldl
    (diagnoseCandidate generation candidates around.diagnoses) { pc := pc }

/-- `checkAvailabilityCandidates`. -/
def checkAvailabilityCandidates (candidates : List Candidate)
    (generation : Nat) (around : Surroundings) : Run :=
  let pass := pc.firstPass generation candidates around
  if around.cancelledBetween then
    { pc := pass.pc, error := some .cancelled }
  else if pass.changed ≠ [] then
    { pc := pass.pc, error := some (.configurationChanged pass.changed) }
  else
    match pass.pc.withCurrentIP options (pass.needsProxyCheck ≠ [])
        around.ownIP with
    | .error text => { pc := pass.pc, error := some (.ownIP text) }
    | .ok pc =>
        { pc := pc
          expectedGeneration := some generation
          jobs :=
            reached candidates
              (around.probed.filter (· ∈ pass.needsProxyCheck))
              around.probes }

/-- The body of the two runs over selected nodes. -/
def checkCandidates (stableIDs : List Text)
    (unavailableOnly allowMaintenance : Bool) (around : Surroundings) : Run :=
  match pc.availabilityCheckCandidates options stableIDs unavailableOnly
      allowMaintenance with
  | .error error => { pc := pc, error := some error }
  | .ok candidates =>
      pc.checkAvailabilityCandidates options candidates pc.generation around

/-- `CheckUnavailableProxies`. -/
def checkUnavailableProxies (around : Surroundings) : Run :=
  pc.withCheckRun false around fun pc =>
    pc.checkCandidates options [] true false around

/-- `CheckProxiesByStableIDs`, and with `allowMaintenance`
`CheckProxiesByStableIDsIncludingMaintenance`. -/
def checkProxiesByStableIDs (stableIDs : List Text) (allowMaintenance : Bool)
    (around : Surroundings) : Run :=
  pc.withCheckRun allowMaintenance around fun pc =>
    pc.checkCandidates options stableIDs false allowMaintenance around

end ProxyChecker

/-- The checks of a run, one after another. -/
def Run.finish (options : Options) (run : Run) : ProxyChecker :=
  run.jobs.foldl
    (fun pc job =>
      pc.checkProxyInternal options job.1.proxy run.expectedGeneration
        job.1.probeOnly job.2)
    run.pc

/-- The availability runs. -/
inductive RunKind where
  | one (proxy : ProxyConfig)
  | all
  | unavailable
  | selected (stableIDs : List Text) (allowMaintenance : Bool)

/-- A run up to its checks. -/
def RunKind.start (options : Options) (pc : ProxyChecker)
    (around : Surroundings) : RunKind → Run
  | .one proxy => pc.checkProxy options proxy around
  | .all => pc.checkAllProxies options around
  | .unavailable => pc.checkUnavailableProxies options around
  | .selected stableIDs allowMaintenance =>
      pc.checkProxiesByStableIDs options stableIDs allowMaintenance around

/-- Everything that writes the state of the checker. -/
inductive Event where
  | check (kind : RunKind) (around : Surroundings)
  | setSourcePolicies (policies : GoMap Text Policy)
  | setMaintenanceMode (stableID : Text) (enabled : Bool)
  | replaceMaintenanceModes (stableIDs : List Text)
  | setProjectMaintenance (enabled : Bool)
  | clearProjectMonitoringState
  | updateProxies (proxies : List ProxyConfig)
  | restoreOfflineStatus (restored : ProxyChecker.Restored) (now : Time)
  | restoreProxyFailureStatus (restored : ProxyChecker.Restored) (now : Time)
  | refreshHostDiagnostics (stableID : Text) (hostCheck : HostCheckDetails)
      (pingCheck : PingCheckDetails) (now : Time)

/-- The state after an event. -/
def step (options : Options) (pc : ProxyChecker) : Event → ProxyChecker
  | .check kind around => (kind.start options pc around).finish options
  | .setSourcePolicies policies => pc.setSourcePolicies policies
  | .setMaintenanceMode stableID enabled =>
      pc.setMaintenanceMode options stableID enabled
  | .replaceMaintenanceModes stableIDs => pc.replaceMaintenanceModes stableIDs
  | .setProjectMaintenance enabled => { pc with projectMaintenance := enabled }
  | .clearProjectMonitoringState => pc.clearProjectMonitoringState options
  | .updateProxies proxies => pc.updateProxies options proxies
  | .restoreOfflineStatus restored now =>
      pc.restoreOfflineStatus options restored now
  | .restoreProxyFailureStatus restored now =>
      pc.restoreProxyFailureStatus options restored now
  | .refreshHostDiagnostics stableID hostCheck pingCheck now =>
      (pc.refreshHostDiagnosticsByStableID options stableID hostCheck
        pingCheck now).1

end XrayChecker.Checker

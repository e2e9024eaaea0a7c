import XrayChecker.Go.Map
import XrayChecker.Telegram.SpeedResults

/-
The automatic diagnostics of bad speed measurements: which measurements ask
for an agent, how the coordinator starts a session for a node or hands out the
one it still has, and what a handle reads as.
-/

namespace XrayChecker.Agentautomation

open Go Speedtest

/-- One node's claim on a diagnostic slot. -/
structure StartRequest where
  stableID : Text
  kind : Text := "speed_fallback"
  profileID : Text := "download"
  source : Text := []
  outcome : AutomationOutcome
  threshold : Rat
  observedMbps : Rat
  measuredBytes : Int
  fallbackAttempts : Int
  shortfall : Rat := 0
  speedServerID : Text := []
  notBefore : Time := 0
deriving DecidableEq

/-- What a consumer of the coordinator holds for a node. -/
structure Handle where
  stableID : Text
  sessionID : Text := []
  state : Text
  detail : Text := []
  outcome : AutomationOutcome
  threshold : Rat
  startedAt : Time
  request : StartRequest
  retry : Option StartRequest := none
deriving DecidableEq

/-- The observation of an agent, as far as verdict and annotation read it. -/
structure SessionAnswer where
  agentID : Text
  status : Text
  failureCode : Text := []
  failureStage : Text := []
  directConnectivityChecked : Bool := false
  directConnectivityOnline : Bool := false
  alternative : Option (Text × Text) := none
  mbps : Option Int := none
  speedServerID : Text := []
  latencyMillis : Int := 0
  checkedAt : Time := 0
  reliable : Bool
deriving DecidableEq

/-- What the session controller tells of a session. -/
structure SessionView where
  trigger : Text
  state : Text
  terminal : Bool
  summary : Text := []
  requestedAgents : List Text := []
  /-- The last observation. -/
  answer : Option SessionAnswer := none
deriving DecidableEq

/-- The coordinator's entries, one for each node. -/
abbrev Entries := GoMap Text Handle

/-- What it reads of the session controller. -/
abbrev Sessions := GoMap Text SessionView

structure Config where
  cooldown : Int
  maxConcurrent : Nat
  pollInterval : Nat

/-- The errors of `CreateAutomatic`. -/
inductive CreateError where
  | unavailableAgent
  | onlyNodeHostAgent
  | nodeAddressUnresolved
  | automaticPaused
  | disabled
  | other
deriving DecidableEq

def refusalDetail : CreateError → Text × Bool
  | .unavailableAgent => ("no healthy idle diagnostic agent is connected", true)
  | .onlyNodeHostAgent => ("only an agent on the node's own host is idle", true)
  | .nodeAddressUnresolved => ("node address could not be resolved", false)
  | .automaticPaused => ("automatic diagnostics are paused by maintenance", false)
  | .disabled => ("remote diagnostics are disabled", false)
  | .other => ("automatic diagnostic could not be started", false)

/-- The candidate of one measurement; `serverForURL` is the catalogue look-up
`SpeedServerForURL`. -/
def candidate (serverForURL : Text → Option Text) (source : Text)
    (threshold : Rat) (result : Result) : Option StartRequest :=
  let effective := effectiveThreshold result threshold
  (speedAutomationOutcome result effective).map fun outcome =>
    { stableID := trimSpace result.stableID
      source := source
      outcome := outcome
      threshold := effective
      observedMbps := result.mbps
      measuredBytes := result.downloadedBytes
      fallbackAttempts := result.fallbackAttempts
      shortfall :=
        if outcome = .lowSpeed ∧ 0 < effective then
          (effective - result.mbps) / effective
        else 0
      speedServerID := (serverForURL result.url).getD [] }

/-- The order of the slots: the deepest shortfall first. -/
def StartRequest.first (left right : StartRequest) : Bool :=
  if left.shortfall ≠ right.shortfall then right.shortfall < left.shortfall
  else left.stableID ≤ right.stableID

/-- The loop of `speedAutomationCandidates`: the first bad measurement of each
node; nodes of panel sources are no candidates. -/
def candidateLoop (find : Result → Option StartRequest)
    (environmentSourced : Text → Bool) :
    List Text → List Result → List StartRequest
  | _, [] => []
  | seen, result :: rest =>
      match find result with
      | none => candidateLoop find environmentSourced seen rest
      | some found =>
          if found.stableID ∈ seen then
            candidateLoop find environmentSourced seen rest
          else
            let later := candidateLoop find environmentSourced
              (found.stableID :: seen) rest
            if environmentSourced found.stableID then found :: later
            else later

/-- The candidates in the order of the slots. -/
def speedAutomationCandidates (serverForURL : Text → Option Text)
    (results : List Result) (source : Text) (threshold : Rat)
    (environmentSourced : Text → Bool) : List StartRequest :=
  let source :=
    if trimSpace source = [] then ("unknown" : Text) else trimSpace source
  (candidateLoop (candidate serverForURL source threshold) environmentSourced
    [] results).insertionSort fun left right => left.first right

/-- `inFlightLocked`. -/
def inFlight (sessions : Sessions) (handle : Handle) : Bool :=
  handle.sessionID ≠ [] && sessions[handle.sessionID]?.any (!·.terminal)

/-- `abandonedLocked`: the session ended without an answer. -/
def abandoned (sessions : Sessions) (handle : Handle) : Bool :=
  handle.sessionID ≠ [] && sessions[handle.sessionID]?.any (fun view =>
    view.terminal && view.answer.isNone)

/-- `pruneLocked`. -/
def prune (config : Config) (sessions : Sessions) (now : Time)
    (entries : Entries) : Entries :=
  entries.filter fun _ handle =>
    !abandoned sessions handle &&
      (now.sub handle.startedAt < config.cooldown || inFlight sessions handle)

/-- What a start finds: the availability sessions in flight, and what
`CreateAutomatic` answers. -/
structure StartSurroundings where
  availability : Nat
  created : Except CreateError (Text × SessionView)

/-- `activeLocked`. -/
def active (sessions : Sessions) (availability : Nat) (entries : Entries) :
    Nat :=
  (entries.toList.filter fun entry => inFlight sessions entry.2).length +
    availability

/-- A handle without a session. -/
def unavailableHandle (request : StartRequest) (now : Time) (detail : Text) :
    Handle :=
  { stableID := request.stableID
    state := "unavailable"
    detail := detail
    outcome := request.outcome
    threshold := request.threshold
    startedAt := now
    request := request }

def deferredHandle (config : Config) (request : StartRequest) (now : Time)
    (detail : Text) : Handle :=
  let request := { request with notBefore := now + config.pollInterval * 10 }
  { unavailableHandle request now detail with retry := some request }

/-- The handle of a session just created. -/
def createdHandle (request : StartRequest) (now : Time) (sessionID : Text) :
    Handle :=
  { unavailableHandle request now [] with
    sessionID := sessionID
    state := "running" }

def startSpeed (config : Config) (sessions : Sessions) (entries : Entries)
    (now : Time) (found : StartSurroundings) (request : StartRequest) :
    Entries × Handle :=
  let entries := prune config sessions now entries
  match entries[request.stableID]? with
  | some existing => (entries, existing)
  | none =>
      if config.maxConcurrent ≤ active sessions found.availability entries then
        (entries,
          deferredHandle config request now "automation capacity is busy")
      else
        match found.created with
        | .error error =>
            let (detail, transient) := refusalDetail error
            (entries,
              if transient then deferredHandle config request now detail
              else unavailableHandle request now detail)
        | .ok (sessionID, _) =>
            let handle := createdHandle request now sessionID
            (entries.insert request.stableID handle, handle)

/-- The job as the record describes it. -/
structure ProbeTask where
  profileID : Text
  kind : Text
  outcome : AutomationOutcome
  source : Text
  thresholdMbps : Rat
  observedMbps : Rat
  measuredBytes : Int
  fallbackAttempts : Int
  speedServerID : Text
deriving DecidableEq

def requestTask (request : StartRequest) : Option ProbeTask :=
  if trimSpace request.stableID = [] then none
  else some
    { profileID := request.profileID
      kind := request.kind
      outcome := request.outcome
      source := request.source
      thresholdMbps := request.threshold
      observedMbps := request.observedMbps
      measuredBytes := request.measuredBytes
      fallbackAttempts := request.fallbackAttempts
      speedServerID := request.speedServerID }

/-- `JudgeSpeed`: the verdict and its reason. -/
def judgeSpeed (handle : Handle) (answer : SessionAnswer) : Text × Text :=
  if !answer.reliable then
    ("unreliable", "agent direct connectivity control failed")
  else if answer.alternative.any (fun other => other.2 = ("online" : Text)) then
    ("not_reproduced", "the agent alternative tunnelled endpoint worked")
  else if answer.status ≠ ("online" : Text) then ("reproduced", [])
  else if handle.threshold ≤ 0 then ("not_reproduced", [])
  else
    match answer.mbps with
    | none =>
        if handle.outcome = .lowSpeed then
          ("unreliable",
            "agent download observation has no throughput evidence")
        else ("not_reproduced", [])
    | some mbps =>
        let agent : Rat := mbps
        if handle.outcome = .lowSpeed ∧
            3 * max handle.request.observedMbps 1 < agent then
          ("path_limited",
            if agent < handle.threshold then
              "the agent was also below the threshold"
            else [])
        else if handle.threshold ≤ agent then ("not_reproduced", [])
        else if handle.threshold < agent + 1 then
          ("inconclusive", "the agent rate is too close to the threshold to tell")
        else if handle.request.speedServerID = [] ∨
            answer.speedServerID ≠ handle.request.speedServerID then
          ("inconclusive", "the agent measured a different speed-test server")
        else ("reproduced", [])

/-- `AgentDiagnostic` with the task and the observation beside it. -/
structure Annotation extends AgentDiagnostic where
  task : Option ProbeTask := none
  observation : Option SessionAnswer := none
deriving DecidableEq

/-- The display name, region and provider of an agent. -/
abbrev AgentNames := Text × Text × Text

/-- `annotation` of a speed handle; `agents` is the registry look-up. -/
def annotation (agents : Text → Option AgentNames) (sessions : Sessions)
    (handle : Handle) : Annotation :=
  let start : Annotation :=
    { state := handle.state
      sessionID := handle.sessionID
      detail := handle.detail
      requestedAt := handle.startedAt
      task := requestTask handle.request }
  if handle.sessionID = [] then start
  else
    match sessions[handle.sessionID]? with
    | none =>
        { start with
          state := "unavailable"
          detail := "diagnostic session is no longer available" }
    | some view =>
        let agentID :=
          match view.answer with
          | some answer =>
              if answer.agentID ≠ [] then answer.agentID
              else view.requestedAgents.head?.getD []
          | none => view.requestedAgents.head?.getD []
        let names := (if agentID = [] then none else agents agentID).getD
          ([], [], [])
        let known : Annotation :=
          { start with
            trigger := view.trigger
            sessionState := view.state
            summary := view.summary
            agentID := agentID
            agentName := names.1
            region := names.2.1
            provider := names.2.2 }
        match view.answer with
        | none =>
            if view.terminal then
              { known with
                state := "unavailable"
                detail := "no signed remote observation was received" }
            else { known with state := "running" }
        | some answer =>
            let verdict := judgeSpeed handle answer
            { known with
              state := verdict.1
              detail := verdict.2
              remoteStatus := answer.status
              failureCode := answer.failureCode
              failureStage := answer.failureStage
              directConnectivityChecked := answer.directConnectivityChecked
              directConnectivityOnline := answer.directConnectivityOnline
              alternativeProfile := (answer.alternative.map Prod.fst).getD []
              alternativeStatus := (answer.alternative.map Prod.snd).getD []
              mbps := answer.mbps.getD 0
              checkedAt := answer.checkedAt
              observation := some answer }

variable {config : Config} {sessions : Sessions} {entries : Entries}
  {now : Time} {found : StartSurroundings} {request : StartRequest}

/-- A start hands out the entry of the node, or a handle without a session, or
a new session that becomes the entry. -/
theorem startSpeed_cases :
    (∃ existing,
      (prune config sessions now entries)[request.stableID]? =
        some existing ∧
      startSpeed config sessions entries now found request =
        (prune config sessions now entries, existing)) ∨
    (∃ handle, handle.sessionID = [] ∧
      (∀ retry, handle.retry = some retry →
        retry.stableID = request.stableID) ∧
      startSpeed config sessions entries now found request =
        (prune config sessions now entries, handle)) ∨
    ∃ sessionID view handle, found.created = .ok (sessionID, view) ∧
      handle.sessionID = sessionID ∧ handle.retry = none ∧
      startSpeed config sessions entries now found request =
        ((prune config sessions now entries).insert request.stableID
          handle, handle) := by
  have hdeferred : ∀ detail retry,
      (deferredHandle config request now detail).retry = some retry →
        retry.stableID = request.stableID := by
    intro detail retry hretry
    rw [← Option.some.inj hretry]
  unfold startSpeed
  cases hentry : (prune config sessions now entries)[request.stableID]? with
  | some existing => exact Or.inl ⟨existing, rfl, by simp only [hentry]⟩
  | none =>
      right
      simp only [hentry]
      split
      · exact Or.inl ⟨_, rfl, hdeferred _, rfl⟩
      · cases hcreated : found.created with
        | error error =>
            left
            refine ⟨_, ?_, ?_, rfl⟩
            · split <;> rfl
            · split
              · exact hdeferred _
              · nofun
        | ok created =>
            exact Or.inr ⟨created.1, created.2, _, rfl, rfl, rfl, rfl⟩

/-- An annotation names the session of its handle. -/
@[simp] theorem annotation_sessionID (agents : Text → Option AgentNames)
    (handle : Handle) :
    ( annotation agents sessions handle).sessionID = handle.sessionID := by
  unfold annotation
  simp only
  split
  · rfl
  · split
    · rfl
    · split
      · split <;> rfl
      · rfl

theorem get_prune {stableID : Text} {handle : Handle}
    (h : (prune config sessions now entries)[stableID]? = some handle) :
    entries[stableID]? = some handle := by
  rw [prune, Std.ExtTreeMap.getElem?_filter', Option.filter_eq_some_iff] at h
  exact h.1

/-- A candidate is a measurement of the report. -/
theorem mem_candidateLoop {find : Result → Option StartRequest}
    {environmentSourced : Text → Bool} {seen : List Text}
    {results : List Result} {request : StartRequest}
    (h : request ∈ candidateLoop find environmentSourced seen results) :
    ∃ result ∈ results, find result = some request := by
  induction results generalizing seen with
  | nil => cases h
  | cons result rest ih =>
      have hlater : ∀ seen,
          request ∈ candidateLoop find environmentSourced seen rest →
            ∃ other ∈ result :: rest, find other = some request := by
        intro seen hmem
        obtain ⟨other, hother, hfind⟩ := ih hmem
        exact ⟨other, List.mem_cons_of_mem _ hother, hfind⟩
      rw [candidateLoop] at h
      cases hfind : find result with
      | none =>
          simp only [hfind] at h
          exact hlater _ h
      | some found =>
          simp only [hfind] at h
          split at h
          · exact hlater _ h
          · split at h
            · rcases List.mem_cons.mp h with rfl | hmem
              · exact ⟨result, List.mem_cons_self, hfind⟩
              · exact hlater _ hmem
            · exact hlater _ h

end XrayChecker.Agentautomation

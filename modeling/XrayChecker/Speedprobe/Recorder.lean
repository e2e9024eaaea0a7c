import XrayChecker.Agentautomation.Coordinator
import XrayChecker.Machine.Run

/-
The recorder that keeps the agent probe of a bad measurement: it asks the
coordinator for a handle of each candidate of a run, writes what the handles
read as beside the measurements, waits for the answers, writes them again and
journals the verdicts.
-/

namespace XrayChecker.Speedprobe

open Go Machine Speedtest Agentautomation

/-- What a finished run reports; it measured every node at most once. -/
structure RunReport where
  source : Text
  results : List Result
  trimmed : ∀ result ∈ results, trimSpace result.stableID = result.stableID
  distinct : (results.map Result.stableID).Nodup

/-- The lines of the verdict journal the recorder writes. -/
structure VerdictEntry where
  atTime : Time
  source : Text := "speed"
  trigger : Text
  stableID : Text
  node : Text
  sessionID : Text
  agentID : Text
  agentName : Text
  region : Text
  provider : Text
  verdict : Text
  detail : Text
  localMbps : Rat
  localAt : Time
  task : Option ProbeTask
  observation : Option SessionAnswer
deriving DecidableEq

/-- One iteration of `measuredAt`. -/
def measureStep (handles : GoMap Text Handle) (measured : GoMap Text Time)
    (result : Result) : GoMap Text Time :=
  if handles[result.stableID]?.isNone ∨ measured[result.stableID]?.isSome ∨
      result.checkedAt.isZero then measured
  else measured.insert result.stableID result.checkedAt

/-- `measuredAt`. -/
def measuredAt (results : List Result) (handles : GoMap Text Handle) :
    GoMap Text Time :=
  results.foldl (measureStep handles) ∅

/-- A call of `RecordAgentProbe`. -/
structure ProbeWrite where
  stableID : Text
  checkedAt : Time
  probe : Annotation
deriving DecidableEq

/-- What `record` carries: what is on record, and the calls made. -/
structure Recording where
  current : GoMap Text Annotation
  calls : List ProbeWrite := []

/-- One iteration of `record`; `stored` tells which calls found their
measurement. -/
def recordStep (measured : GoMap Text Time) (stored : Text → Bool)
    (acc : Recording) (found : Text × Annotation) : Recording :=
  match measured[found.1]? with
  | none => acc
  | some checkedAt =>
      if acc.current[found.1]? = some found.2 then acc
      else
        { current :=
            if stored found.1 then acc.current.insert found.1 found.2
            else acc.current
          calls := acc.calls ++ [⟨found.1, checkedAt, found.2⟩] }

/-- `record`. -/
def record (measured : GoMap Text Time) (stored : Text → Bool)
    (probes : List (Text × Annotation)) (written : GoMap Text Annotation) :
    Recording :=
  probes.foldl (recordStep measured stored) { current := written }

/-- The line of one probe, unless it is still running. -/
def verdictEntry (results : List Result) (now : Time)
    (found : Text × Annotation) : Option VerdictEntry :=
  let probe := found.2
  if probe.state = ("running" : Text) then none
  else
    let result := results.find? (·.stableID = found.1)
    some
      { atTime := now
        trigger :=
          if probe.trigger = [] then "auto_speed_fallback" else probe.trigger
        stableID := found.1
        node := (result.map Result.name).getD []
        sessionID := probe.sessionID
        agentID := probe.agentID
        agentName := probe.agentName
        region := probe.region
        provider := probe.provider
        verdict := probe.state
        detail := probe.detail
        localMbps := (result.map Result.mbps).getD 0
        localAt := (result.map Result.checkedAt).getD 0
        task := probe.task
        observation := probe.observation }

/-- `journalVerdicts`. -/
def journalVerdicts (results : List Result) (now : Time)
    (probes : List (Text × Annotation)) : List VerdictEntry :=
  probes.filterMap (verdictEntry results now)

/-- `Annotations`. -/
def annotations (agents : Text → Option AgentNames) (sessions : Sessions)
    (handles : GoMap Text Handle) : List (Text × Annotation) :=
  handles.toList.map fun entry =>
    (entry.1, annotation agents sessions entry.2)

/-- Where `RunSpeedProbes` of a run stands. -/
inductive Follow where
  /-- `StartSpeedDiagnostics`: candidates still to start, handles so far. -/
  | starting (todo : List StartRequest) (handles : GoMap Text Handle)
  /-- `Await`, with what was written before. -/
  | waiting (measured : GoMap Text Time) (written : GoMap Text Annotation)
      (current : GoMap Text Handle)

def Follow.handles : Follow → GoMap Text Handle
  | .starting _ handles => handles
  | .waiting _ _ current => current

/-- The coordinator, the runs, their recorders, and what was written. -/
structure World where
  now : Time
  sessions : Sessions
  entries : Entries
  reports : GoMap Nat RunReport
  follows : GoMap Nat Follow
  /-- The runs whose recorder was started. -/
  probed : List Nat
  attached : List ProbeWrite
  journal : List VerdictEntry
  /-- The run and the node each session was created for. -/
  createdFor : GoMap Text (Nat × Text)

inductive Event where
  /-- A speed-test run is over. -/
  | finish (run : Nat) (report : RunReport)
  /-- `RunSpeedProbes`. -/
  | probe (run : Nat) (threshold : Rat) (environmentSourced : Text → Bool)
  /-- It starts the next candidate. -/
  | startNext (run : Nat) (found : StartSurroundings)
  /-- It writes the probes for the first time. -/
  | firstRecord (run : Nat) (stored : Text → Bool)
  /-- `resumeDeferred` starts a refused candidate again. -/
  | resume (run : Nat) (stableID : Text) (found : StartSurroundings)
  /-- `Await` returns, at its deadline or with every answer. -/
  | complete (run : Nat) (deadline : Bool) (stored : Text → Bool)
  /-- The alert path starts a candidate of the run, or starts it again. -/
  | alert (run : Nat) (threshold : Rat) (environmentSourced : Text → Bool)
      (stableID : Text) (notBefore : Time) (found : StartSurroundings)
  /-- A session moves on. -/
  | session (sessionID : Text) (view : SessionView)
  | evict (sessionID : Text)
  | tick (duration : Nat)

section

variable (config : Config) (serverForURL : Text → Option Text)
  (agents : Text → Option AgentNames)

/-- The candidates of a run. -/
def RunReport.candidates (report : RunReport) (threshold : Rat)
    (environmentSourced : Text → Bool) : List StartRequest :=
  speedAutomationCandidates serverForURL report.results report.source threshold
    environmentSourced

namespace World

/-- A start for a run: the coordinator, the session controller and the handle;
a session seen for the first time was created for this measurement. -/
def start (w : World) (run : Nat) (found : StartSurroundings)
    (request : StartRequest) : World × Handle :=
  let started :=
    startSpeed config w.sessions w.entries w.now found request
  let handle := started.2
  let isNew := handle.sessionID ≠ [] && w.createdFor[handle.sessionID]?.isNone
  ({ w with
      entries := started.1
      sessions :=
        match found.created with
        | .ok (sessionID, view) =>
            if isNew then w.sessions.insert sessionID view else w.sessions
        | .error _ => w.sessions
      createdFor :=
        if isNew then
          w.createdFor.insert handle.sessionID (run, request.stableID)
        else w.createdFor },
    handle)

/-- The recorder of the run goes on, or is done. -/
def follow (w : World) (run : Nat) (next : Option Follow) : World :=
  { w with follows := w.follows.set run next }

/-- `hasDeferred`, or a probe that is still running. -/
def pending (w : World) (current : GoMap Text Handle) : Bool :=
  current.toList.any (fun entry => entry.2.retry.isSome) ||
    (annotations agents w.sessions current).any (fun found =>
      found.2.state = ("running" : Text))

def step (w : World) : Event → World
  | .finish run report =>
      if w.reports[run]?.isSome then w
      else { w with reports := w.reports.insert run report }
  | .probe run threshold environmentSourced =>
      match w.reports[run]? with
      | none => w
      | some report =>
          if run ∈ w.probed then w
          else
            let todo := report.candidates serverForURL threshold
              environmentSourced
            { w with probed := run :: w.probed }.follow run
              (if todo = [] then none else some (.starting todo ∅))
  | .startNext run found =>
      match w.follows[run]? with
      | some (.starting (request :: todo) handles) =>
          let started := w.start config run found request
          started.1.follow run
            (some (.starting todo
              (handles.insert request.stableID started.2)))
      | _ => w
  | .firstRecord run stored =>
      match w.follows[run]?, w.reports[run]? with
      | some (.starting [] handles), some report =>
          let measured := measuredAt report.results handles
          if measured.isEmpty then w.follow run none
          else
            let recorded := record measured stored
              (annotations agents w.sessions handles) ∅
            { w with attached := w.attached ++ recorded.calls }.follow run
              (some (.waiting measured recorded.current handles))
      | _, _ => w
  | .resume run stableID found =>
      match w.follows[run]? with
      | some (.waiting measured written current) =>
          match (current[stableID]?).bind Handle.retry with
          | none => w
          | some request =>
              if w.now < request.notBefore then w
              else
                let started := w.start config run found request
                started.1.follow run
                  (some (.waiting measured written
                    (current.insert request.stableID started.2)))
      | _ => w
  | .complete run deadline stored =>
      match w.follows[run]?, w.reports[run]? with
      | some (.waiting measured written current), some report =>
          if !deadline && w.pending agents current then w
          else
            let final := annotations agents w.sessions current
            let recorded := record measured stored final written
            { w with
              attached := w.attached ++ recorded.calls
              journal :=
                w.journal ++ journalVerdicts report.results w.now final
            }.follow run none
      | _, _ => w
  | .alert run threshold environmentSourced stableID notBefore found =>
      match w.reports[run]? with
      | none => w
      | some report =>
          match (report.candidates serverForURL threshold
              environmentSourced).find? (·.stableID = stableID) with
          | none => w
          | some request =>
              (w.start config run found
                { request with notBefore := notBefore }).1
  | .session sessionID view =>
      { w with sessions := w.sessions.insert sessionID view }
  | .evict sessionID => { w with sessions := w.sessions.erase sessionID }
  | .tick duration => { w with now := w.now + duration }

end World

end

end XrayChecker.Speedprobe

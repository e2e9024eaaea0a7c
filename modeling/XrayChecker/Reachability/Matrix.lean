import XrayChecker.Diagnostics.Types

/-
The reachability matrix: the last comparable answer of each agent for each
node, and the findings that are read off its rows.
-/

namespace XrayChecker.Reachability

open Go Diagnostics

def stateVersion : Int := 1

/-- `Verdict`; `other` is any text that is none of the constants. -/
inductive Verdict where
  | unknown
  | agreedUp
  | agreedDown
  | agentOnlyFailure
  | localOnlyFailure
  | other (value : Text)
deriving DecidableEq

structure Cell where
  agentID : Text
  verdict : Verdict := .unknown
  agentStatus : ProbeStatus := .other []
  localStatus : ProbeStatus
  checkedAt : Time
  localCheckedAt : Time
  latencyMillis : Int := 0
  failureCode : Text := []
  failureStage : FailureStage := .absent
  tcpReached : Bool := false
  detail : Text := []
  since : Time := 0
  streak : Int := 0
  unreachable : Bool := false
  stale : Bool := false
  generation : Int := 0
deriving DecidableEq

def detailNoObservation : Text := "agent returned no observation"
def detailAgentOffline : Text :=
  "agent lost its own connectivity during the probe"
def detailLocalUnknown : Text := "controller had no recent result to compare"
def detailSessionExpired : Text :=
  "diagnostic job expired before the agent answered"
def detailCancelled : Text := "diagnostic session was cancelled"

/-- `observationFor`: the newest observation of the agent. -/
def observationFor (session : DiagnosticSession) (agentID : Text) :
    Option AcceptedObservation :=
  session.agentObservations.reverse.find? (·.observation.agentID = agentID)

def detailForMissing : SessionState → Text
  | .expired => detailSessionExpired
  | .cancelled => detailCancelled
  | _ => detailNoObservation

/-- The verdict of a comparison both sides of which can be relied upon. -/
def compared (localUp agentUp : Bool) : Verdict :=
  match localUp, agentUp with
  | true, true => .agreedUp
  | false, false => .agreedDown
  | true, false => .agentOnlyFailure
  | false, true => .localOnlyFailure

/-- `CellFor`. -/
def cellFor (session : DiagnosticSession) (agentID : Text) (now : Time) :
    Cell :=
  let agentID := trimSpace agentID
  let cell : Cell :=
    { agentID := agentID
      localStatus := session.localResultSnapshot.status
      localCheckedAt := session.localResultSnapshot.checkedAt
      checkedAt := now }
  match observationFor session agentID with
  | none => { cell with detail := detailForMissing session.state }
  | some accepted =>
      let observation := accepted.observation
      let cell : Cell :=
        { cell with
          agentStatus := observation.status
          checkedAt := observation.checkedAt
          latencyMillis := observation.latencyMillis
          tcpReached := observation.tcp.checked && observation.tcp.online
          failureCode := trimSpace observation.failure.code
          failureStage := observation.failure.stage }
      if !accepted.reliable then { cell with detail := detailAgentOffline }
      else if cell.localStatus = .other [] ∨ cell.localStatus = .unknown then
        { cell with detail := detailLocalUnknown }
      else
        { cell with
          verdict := compared (cell.localStatus = .online)
            (cell.agentStatus = .online) }

structure StateFile where
  version : Int
  updatedAt : Time
  lastSweepAt : Time
  sweepGeneration : Int
  nodes : GoMap Text (GoMap Text Cell)
  names : GoMap Text Text

structure Matrix where
  cells : GoMap Text (GoMap Text Cell) := ∅
  names : GoMap Text Text := ∅
  lastSweepAt : Time := 0
  sweepGeneration : Int := 0

def knownVerdict : Verdict → Bool
  | .other _ => false
  | _ => true

namespace Matrix

/-- The cells of one row of the file that survive. -/
def loadRow (row : GoMap Text Cell) : GoMap Text Cell :=
  row.toList.foldl (fun kept entry =>
    let agentID := trimSpace entry.1
    if agentID = [] ∨ !knownVerdict entry.2.verdict then kept
    else kept.insert agentID { entry.2 with agentID := agentID }) ∅

/-- `Load`, of a file that could be read. -/
def load (state : StateFile) : Except Text Matrix :=
  if state.version ≠ stateVersion then
    .error ("unsupported reachability state version "
      ++ itoaInt state.version)
  else
    let cells := state.nodes.toList.foldl (fun cells entry =>
      let stableID := trimSpace entry.1
      let kept := loadRow entry.2
      if stableID = [] ∨ kept.isEmpty then cells
      else cells.insert stableID kept) (∅ : GoMap Text (GoMap Text Cell))
    .ok
      { cells := cells
        names := state.names.toList.foldl (fun names entry =>
          if cells.contains (trimSpace entry.1) then
            names.insert (trimSpace entry.1) entry.2
          else names) ∅
        lastSweepAt := state.lastSweepAt
        sweepGeneration := state.sweepGeneration }

/-- The cell `Record` stores over the previous one of the pair. -/
def recorded (previous : Option Cell) (cell : Cell) : Cell :=
  match previous with
  | none => { cell with since := cell.checkedAt, streak := 1 }
  | some previous =>
      if previous.verdict = cell.verdict ∧ previous.since.isZero = false then
        { cell with
          since := previous.since
          streak :=
            if previous.localCheckedAt < cell.localCheckedAt then
              previous.streak + 1
            else previous.streak }
      else { cell with since := cell.checkedAt, streak := 1 }

/-- `Record`. -/
def record (m : Matrix) (stableID : Text) (cell : Cell) (now : Time) :
    Matrix :=
  let stableID := trimSpace stableID
  let cell := { cell with agentID := trimSpace cell.agentID }
  if stableID = [] ∨ cell.agentID = [] then m
  else
    let cell :=
      { cell with
        checkedAt := if cell.checkedAt.isZero then now else cell.checkedAt
        generation := m.sweepGeneration }
    let row := (m.cells[stableID]?).getD ∅
    { m with
      cells := m.cells.insert stableID
        (row.insert cell.agentID (recorded row[cell.agentID]? cell)) }

/-- `BeginSweep`. -/
def beginSweep (m : Matrix) : Matrix :=
  { m with sweepGeneration := m.sweepGeneration + 1 }

/-- `Retain`. -/
def retain (m : Matrix) (nodes : GoMap Text Text) (agents : Text → Bool) :
    Matrix :=
  { m with
    cells := m.cells.filterMap fun stableID row =>
      let row := row.filter fun agentID _ => agents agentID
      if !nodes.contains stableID ∨ row.isEmpty then none else some row
    names := nodes }

/-- `MarkSweep`. -/
def markSweep (m : Matrix) (at' : Time) : Matrix :=
  { m with lastSweepAt := at' }

/-- `Save`, where the write succeeds. -/
def save (m : Matrix) (now : Time) : StateFile where
  version := stateVersion
  updatedAt := now
  lastSweepAt := m.lastSweepAt
  sweepGeneration := m.sweepGeneration
  nodes := m.cells
  names := m.names.filter fun stableID name =>
    name ≠ [] && m.cells.contains stableID

end Matrix

structure NodeRow where
  stableID : Text
  name : Text := []
  cells : List Cell
  alive : Bool := false
  localUnreachable : Bool := false
  localSince : Time := 0
  localStreak : Int := 0

/-- Whether a cell says anything about now. -/
def Cell.counted (cell : Cell) : Bool :=
  cell.verdict ≠ .unknown && !cell.stale

/-- Whether the checker reached the node of a row. -/
def localUp (row : NodeRow) : Bool :=
  (row.cells.filter Cell.counted).any (·.localStatus = .online)

/-- Whether some vantage point reached the node of a row. -/
def reached (row : NodeRow) : Bool :=
  localUp row || (row.cells.filter Cell.counted).any (·.agentStatus = .online)

/-- The cells that show the checker cut off. -/
def blind (row : NodeRow) : List Cell :=
  if localUp row then [] else row.cells.filter Cell.counted

/-- A cell of a row some vantage point reached. -/
def exposed (cell : Cell) : Cell :=
  if cell.counted then
    { cell with unreachable := cell.agentStatus ≠ .online }
  else cell

/-- `deriveRow`. -/
def deriveRow (row : NodeRow) : NodeRow :=
  if !reached row then row
  else
    { row with
      alive := true
      cells := row.cells.map exposed
      localUnreachable := !(blind row).isEmpty
      localStreak := (blind row).foldl (fun streak cell =>
        if streak < cell.streak then cell.streak else streak) row.localStreak
      localSince := (blind row).foldl (fun since cell =>
        if since.isZero || cell.since < since then cell.since else since)
        row.localSince }

def confirmSweeps : Int := 2

/-- `Confirmed`. -/
def Cell.confirmed (cell : Cell) : Bool :=
  cell.unreachable && confirmSweeps ≤ cell.streak

structure Finding where
  stableID : Text
  name : Text
  agentID : Text := []
  isLocal : Bool := false
  status : ProbeStatus
  failureCode : Text := []
  failureStage : FailureStage := .absent
  tcpReached : Bool := false
  since : Time
  streak : Int
  confirmed : Bool

/-- The order of `Findings`. -/
def Finding.before (a b : Finding) : Bool :=
  if a.confirmed ≠ b.confirmed then a.confirmed
  else if a.since ≠ b.since then b.since < a.since
  else if a.stableID ≠ b.stableID then a.stableID < b.stableID
  else a.agentID < b.agentID

/-- `localStatusOf`. -/
def localStatusOf (row : NodeRow) : ProbeStatus :=
  match row.cells.find? Cell.counted with
  | some cell => cell.localStatus
  | none => .unknown

/-- The finding about the checker. -/
def localFinding (row : NodeRow) : Finding :=
  { stableID := row.stableID
    name := row.name
    isLocal := true
    status := localStatusOf row
    since := row.localSince
    streak := row.localStreak
    confirmed := confirmSweeps ≤ row.localStreak }

/-- The finding about an agent. -/
def agentFinding (row : NodeRow) (cell : Cell) : Finding :=
  { stableID := row.stableID
    name := row.name
    agentID := cell.agentID
    status := cell.agentStatus
    failureCode := cell.failureCode
    failureStage := cell.failureStage
    tcpReached := cell.tcpReached
    since := cell.since
    streak := cell.streak
    confirmed := cell.confirmed }

/-- What one row contributes to `Findings`. -/
def rowFindings (row : NodeRow) : List Finding :=
  if !row.alive then []
  else
    (if row.localUnreachable then [localFinding row] else []) ++
      (row.cells.filter (·.unreachable)).map (agentFinding row)

namespace Matrix

/-- A cell with the mark of the last full pass. -/
def marked (m : Matrix) (cell : Cell) : Cell :=
  { cell with
    stale := 0 < m.sweepGeneration && cell.generation ≠ m.sweepGeneration }

/-- A row before `deriveRow`. -/
def rawRow (m : Matrix) (entry : Text × GoMap Text Cell) : NodeRow :=
  { stableID := entry.1
    name := (m.names[entry.1]?).getD []
    cells := (entry.2.toList.map fun cell => m.marked cell.2).insertionSort
      fun a b => a.agentID ≤ b.agentID }

/-- `Rows`. -/
def rows (m : Matrix) : List NodeRow :=
  m.cells.toList.map fun entry => deriveRow (m.rawRow entry)

/-- `Findings`. -/
def findings (m : Matrix) : List Finding :=
  (m.rows.flatMap rowFindings).insertionSort fun a b => !b.before a

end Matrix

end XrayChecker.Reachability

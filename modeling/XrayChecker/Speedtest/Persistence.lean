import Mathlib.Data.List.Sort
import XrayChecker.Speedtest.Results

/-
The result file: what `persistResults` writes and what `loadResults` makes of
it.  JSON keeps every field of a measurement but the report half of an agent
probe.
-/

namespace XrayChecker.Speedtest

open Go

/-- A measurement as it comes out of the file again. -/
def Result.persisted (result : Result) : Result :=
  { result with
    agentDiagnostic := result.agentDiagnostic.map AgentDiagnostic.persisted }

/-- `normalizeResult`. -/
def normalizeResult (stableID : Text) (proxy : Option ProxyConfig)
    (result : Result) : Result :=
  match proxy with
  | none => { result with stableID := stableID }
  | some proxy =>
      { result with
        stableID := stableID
        name := proxy.name
        subName := proxy.subName
        protocol := proxy.protocol }

/-- `sort.Slice` by descending time; Go fixes no order among equal times. -/
def sortNewest (entries : List Result) : List Result :=
  entries.insertionSort fun a b => b.checkedAt ≤ a.checkedAt

/-- `normalizeResultHistory`. -/
def normalizeResultHistory (stableID : Text) (proxy : Option ProxyConfig)
    (entries : List Result) (historyRetentionDays : Int) (now : Time) :
    List Result :=
  retainResultHistory
    (sortNewest (entries.map (normalizeResult stableID proxy)))
    (historyCutoff historyRetentionDays now)

namespace Manager

/-- `resultStateLocked`. -/
def resultState (m : Manager) (now : Time) : ResultStateFile where
  results := m.results.map fun _ result => result.persisted
  history := m.history.filterMap fun _ entries =>
    let kept := retainResultHistory entries
      (historyCutoff m.historyRetentionDays now)
    if kept = [] then none else some (kept.map Result.persisted)

/-- `saveResults` where the write succeeds: a state that holds nothing removes
the file. -/
def saveResults (state : ResultStateFile) : Option ResultStateFile :=
  if state.results.isEmpty && state.history.isEmpty then none else some state

/-- The latest results and the histories `loadResults` builds. -/
structure Loading where
  results : GoMap Text Result := ∅
  history : GoMap Text (List Result) := ∅

/-- What is being built for a node. -/
def Loading.node (loading : Loading) (stableID : Text) : NodeRecords :=
  ⟨loading.results[stableID]?, loading.history[stableID]?⟩

section

variable (active : GoMap Text ProxyConfig) (historyRetentionDays : Int)
  (now : Time) (state : ResultStateFile)

/-- One iteration over the histories of the file. -/
def loadHistory (loading : Loading) (key : Text) : Loading :=
  let stableID := trimSpace key
  if stableID = [] then loading
  else
    match normalizeResultHistory stableID active[stableID]?
        ((state.history[key]?).getD []) historyRetentionDays now with
    | [] => loading
    | newest :: older =>
        { results := loading.results.insert stableID newest
          history := loading.history.insert stableID (newest :: older) }

/-- Whether a latest result of the file is newer than what its history gave. -/
def newer (current : Option Result) (result : Result) : Bool :=
  match current with
  | none => true
  | some current => decide (current.checkedAt < result.checkedAt)

/-- One iteration over the latest results of the file. -/
def loadLatest (loading : Loading) (key : Text) : Loading :=
  let stableID := trimSpace key
  match state.results[key]? with
  | none => loading
  | some result =>
      if stableID = [] then loading
      else
        let result := normalizeResult stableID active[stableID]? result
        if !newer loading.results[stableID]? result then loading
        else
          { results := loading.results.insert stableID result
            history :=
              if resultWithinRetention result historyRetentionDays now then
                loading.history.insert stableID
                  (normalizeResultHistory stableID active[stableID]?
                    (result :: (loading.history[stableID]?).getD [])
                    historyRetentionDays now)
              else loading.history }

/-- The two loops of `loadResults`. -/
def loading : Loading :=
  state.results.keys.foldl
    (loadLatest active historyRetentionDays now state)
    (state.history.keys.foldl
      (loadHistory active historyRetentionDays now state) {})

end

/-- `loadResults` into a manager that was just built. -/
def loadResults (m : Manager) (active : GoMap Text ProxyConfig) (now : Time)
    (file : Option ResultStateFile) : Manager :=
  match file with
  | none => m
  | some state =>
      let loaded := loading active m.historyRetentionDays now state
      { m with results := loaded.results, history := loaded.history }

/-- `ResultHistory`. -/
def resultHistory (m : Manager) (stableID : Text) (now : Time) : List Result :=
  retainResultHistory ((m.history[stableID]?).getD [])
    (historyCutoff m.historyRetentionDays now)

/-- One entry of the loop of `pruneHistoryLocked`. -/
def prunedEntry (historyRetentionDays : Int) (now : Time)
    (entries : List Result) : Option (List Result) :=
  let kept := retainResultHistory entries
    (historyCutoff historyRetentionDays now)
  if kept.length = entries.length then some entries
  else if kept = [] then none
  else some kept

/-- `pruneHistoryLocked`; whether anything was pruned decides whether the file
is written. -/
def pruneHistory (m : Manager) (historyRetentionDays : Int) (now : Time) :
    Manager × Bool :=
  ({ m with
      history := m.history.filterMap fun _ entries =>
        prunedEntry historyRetentionDays now entries },
    m.history.toList.any fun entry =>
      decide ((retainResultHistory entry.2
        (historyCutoff historyRetentionDays now)).length ≠ entry.2.length))

end Manager

end XrayChecker.Speedtest

import XrayChecker.Go.Map
import XrayChecker.Go.Text
import XrayChecker.Go.Time
import XrayChecker.Machine.Run

/-
The mutes of the bot.  A countdown sits in a map of the service, one for each
node; a mute without end sits in three lists of the configuration, which every
caller copies, changes, writes to its file and puts back.  A call is what it
still has to do, and any number of calls are under way at once.
-/

namespace XrayChecker.Telegram

open Go Machine

inductive MuteScope where
  | all
  | alerts
  | speed
deriving DecidableEq

def normalizeMuteScope (scope : Text) : Option MuteScope :=
  let scope := toLower (trimSpace scope)
  if scope = "all" then some .all
  else if scope = "alerts" then some .alerts
  else if scope = "speed" then some .speed
  else none

/-- What can be silenced: the two scopes a mute is asked for. -/
inductive Topic where
  | alerts
  | speed
deriving DecidableEq

/-- `muteScopeCovers`. -/
def MuteScope.covers : MuteScope → Topic → Bool
  | .all, _ => true
  | .alerts, .alerts => true
  | .speed, .speed => true
  | _, _ => false

structure NodeMute where
  scope : MuteScope
  endsAt : Time
deriving DecidableEq

def normalizeNodeIDs (values : List Text) : List Text :=
  sortStrings ((values.map trimSpace).filter (· ≠ [])).dedup

def appendNodeID (values : List Text) (stableID : Text) : List Text :=
  if stableID ∈ values then values else values ++ [stableID]

def removeNodeID (values : List Text) (stableID : Text) : List Text :=
  values.filter (· ≠ stableID)

def mutedNodeSet (values : List Text) : List Text :=
  (values.map trimSpace).filter (· ≠ [])

/-- `activeMutedNodeIDs`, given the nodes of the proxy list. -/
def activeMutedNodeIDs (proxies values : List Text) : List Text :=
  if proxies = [] then normalizeNodeIDs values
  else (normalizeNodeIDs values).filter (· ∈ proxies)

/-- The mute lists of the configuration. -/
structure MuteLists where
  mutedNodeIDs : List Text := []
  mutedAlertNodeIDs : List Text := []
  mutedSpeedNodeIDs : List Text := []
deriving DecidableEq

namespace MuteLists

/-- One change made to all three lists. -/
def map (f : List Text → List Text) (cfg : MuteLists) : MuteLists :=
  ⟨f cfg.mutedNodeIDs, f cfg.mutedAlertNodeIDs, f cfg.mutedSpeedNodeIDs⟩

/-- The lists of `Config.Normalize`. -/
def normalize (cfg : MuteLists) : MuteLists :=
  cfg.map normalizeNodeIDs

/-- The switch of `muteNodePermanently`. -/
def add (cfg : MuteLists) (stableID : Text) : MuteScope → MuteLists
  | .all => { cfg with mutedNodeIDs := appendNodeID cfg.mutedNodeIDs stableID }
  | .alerts =>
      { cfg with
        mutedAlertNodeIDs := appendNodeID cfg.mutedAlertNodeIDs stableID }
  | .speed =>
      { cfg with
        mutedSpeedNodeIDs := appendNodeID cfg.mutedSpeedNodeIDs stableID }

/-- `mutedAlertNodeSet` and `mutedSpeedNodeSet`. -/
def mutedSet (cfg : MuteLists) : Topic → List Text
  | .alerts => mutedNodeSet (cfg.mutedNodeIDs ++ cfg.mutedAlertNodeIDs)
  | .speed => mutedNodeSet (cfg.mutedNodeIDs ++ cfg.mutedSpeedNodeIDs)

end MuteLists

/-- A change to the configuration: `muteNodePermanently`, the second half of
`unmuteNode`, the first half of `PruneInactiveMutedNodes`. -/
inductive ConfigEdit where
  | mute (stableID : Text) (scope : MuteScope)
  | unmute (stableID : Text) (hadTemporary : Bool)
  | prune
deriving DecidableEq

/-- What a call still has to do. -/
inductive MuteCall where
  /-- `muteNodeFor`: put the countdown into the map. -/
  | muteFor (stableID : Text) (scope : MuteScope) (duration : Nat)
  /-- Copy the configuration. -/
  | reading (edit : ConfigEdit)
  /-- Change the copy. -/
  | deciding (edit : ConfigEdit) (base : MuteLists)
  /-- Write the changed copy to the file. -/
  | writing (edit : ConfigEdit) (next : MuteLists)
  /-- Put the changed copy in force. -/
  | setting (edit : ConfigEdit) (next : MuteLists)
  /-- `muteNodePermanently`: drop the countdown. -/
  | countdown (stableID : Text)
  /-- `unmuteNode`: drop the countdown. -/
  | lifting (stableID : Text)
  /-- `PruneInactiveMutedNodes`: collect the active nodes. -/
  | collecting
  /-- `PruneInactiveMutedNodes`: drop the countdowns of the others. -/
  | sweeping (active : List Text)
  /-- `saveAlertState`, the last thing a call does. -/
  | saving
deriving DecidableEq

/-- The copy with the change, if that is one, at the proxy list of the
moment. -/
def ConfigEdit.next (proxies : List Text) (cfg : MuteLists) :
    ConfigEdit → Option MuteLists
  | .mute stableID scope => some (cfg.add stableID scope).normalize
  | .unmute stableID _ =>
      let changed := cfg.map (removeNodeID · stableID)
      if changed = cfg then none else some changed
  | .prune =>
      let pruned := cfg.normalize.map (activeMutedNodeIDs proxies)
      if pruned = cfg.normalize then none else some pruned

/-- What follows on the change. -/
def ConfigEdit.rest : ConfigEdit → Option MuteCall
  | .mute stableID _ => some (.countdown stableID)
  | .unmute _ hadTemporary => if hadTemporary then some .saving else none
  | .prune => some .collecting

/-- How a write ends.  A torn one leaves a file that cannot be read. -/
inductive FileWrite where
  | written
  | refused
  | torn
deriving DecidableEq

/-- The mutes of the service, the two files they are kept in, what the checker
knows of the nodes, and the calls under way. -/
structure MuteService where
  config : MuteLists
  configFile : Option MuteLists
  mutes : GoMap Text NodeMute
  alertFile : Option (GoMap Text NodeMute)
  proxies : List Text
  paused : List Text
  /-- Nodes whose source asks for no verdict. -/
  unaccounted : List Text
  now : Time
  calls : GoMap Nat MuteCall

namespace MuteService

/-- `AvailabilityAccounted`, for a node of the proxy list. -/
def accounted (s : MuteService) (stableID : Text) : Bool :=
  stableID ∈ s.proxies && stableID ∉ s.paused && stableID ∉ s.unaccounted

/-- `alertMuteSet` and `speedMuteSet`. -/
def muteSet (s : MuteService) (topic : Topic) (stableID : Text) : Bool :=
  stableID ∈ s.config.mutedSet topic ||
    s.mutes[stableID]?.any (fun mute =>
      s.now < mute.endsAt && mute.scope.covers topic)

/-- What `saveAlertState` writes of the countdowns, and what `loadAlertState`
takes back of them. -/
def persistable (s : MuteService) (mutes : GoMap Text NodeMute) :
    GoMap Text NodeMute :=
  mutes.filter fun stableID mute => s.accounted stableID && s.now < mute.endsAt

/-- `saveAlertState`. -/
def saveAlertState (s : MuteService) : FileWrite → MuteService
  | .written => { s with alertFile := some (s.persistable s.mutes) }
  | .refused => s
  | .torn => { s with alertFile := none }

/-- The call goes on, or returns. -/
def goOn (s : MuteService) (key : Nat) (rest : Option MuteCall) :
    MuteService :=
  { s with calls := s.calls.set key rest }

/-- A countdown the sweep of `PruneInactiveMutedNodes` leaves. -/
def unswept (s : MuteService) (active : List Text) (stableID : Text)
    (mute : NodeMute) : Bool :=
  stableID ∈ active && s.now < mute.endsAt

/-- The next step of a call. -/
def callStep (s : MuteService) (key : Nat) (write : FileWrite) :
    MuteCall → MuteService
  | .muteFor stableID scope duration =>
      { s with mutes := s.mutes.insert stableID ⟨scope, s.now + duration⟩ }.goOn
        key (some .saving)
  | .reading edit => s.goOn key (some (.deciding edit s.config))
  | .deciding edit base =>
      s.goOn key (match edit.next s.proxies base with
        | some next => some (.writing edit next)
        | none => edit.rest)
  | .writing edit next =>
      match write with
      | .written =>
          { s with configFile := some next }.goOn key
            (some (.setting edit next))
      | .refused => s.goOn key none
      | .torn => { s with configFile := none }.goOn key none
  | .setting edit next =>
      { s with config := next.normalize }.goOn key edit.rest
  | .countdown stableID =>
      { s with mutes := s.mutes.erase stableID }.goOn key
        (if s.mutes[stableID]?.isSome then some .saving else none)
  | .lifting stableID =>
      { s with mutes := s.mutes.erase stableID }.goOn key
        (some (.reading (.unmute stableID s.mutes[stableID]?.isSome)))
  | .collecting =>
      s.goOn key (some (.sweeping (s.proxies.filter (· ∉ s.paused))))
  | .sweeping active =>
      { s with mutes := s.mutes.filter (s.unswept active) }.goOn key
        (if s.mutes.all (s.unswept active) then none else some .saving)
  | .saving => (s.saveAlertState write).goOn key none

end MuteService

/-- What the bot and the refresh ask for. -/
inductive MuteRequest where
  | muteNodeFor (stableID scope : Text) (duration : Int)
  | unmuteNode (stableID : Text)
  | pruneInactiveMutedNodes

/-- The call of a request; a malformed one returns at once. -/
def MuteRequest.call : MuteRequest → Option MuteCall
  | .muteNodeFor stableID scope duration =>
      let stableID := trimSpace stableID
      match normalizeMuteScope scope with
      | none => none
      | some scope =>
          if stableID = [] then none
          else if duration ≤ 0 then some (.reading (.mute stableID scope))
          else some (.muteFor stableID scope duration.toNat)
  | .unmuteNode stableID =>
      let stableID := trimSpace stableID
      if stableID = [] then none else some (.lifting stableID)
  | .pruneInactiveMutedNodes => some (.reading .prune)

inductive MuteEvent where
  | request (key : Nat) (request : MuteRequest)
  | advance (key : Nat) (write : FileWrite)
  /-- Any other `saveAlertState`: alert passes, `ClearMonitoringState` and
  `ClearAllMonitoringState`. -/
  | save (write : FileWrite)
  | maintenance (stableID : Text) (enabled : Bool)
  | refresh (proxies unaccounted : List Text)
  | tick (duration : Nat)
  | restart

namespace MuteService

/-- One step of the service. -/
def step (s : MuteService) : MuteEvent → MuteService
  | .request key request =>
      match s.calls[key]? with
      | some _ => s
      | none => s.goOn key request.call
  | .advance key write =>
      match s.calls[key]? with
      | some call => s.callStep key write call
      | none => s
  | .save write => s.saveAlertState write
  | .maintenance stableID enabled =>
      { s with paused :=
          if enabled then stableID :: s.paused
          else s.paused.filter (· ≠ stableID) }
  | .refresh proxies unaccounted =>
      { s with proxies := proxies, unaccounted := unaccounted }
  | .tick duration => { s with now := s.now + duration }
  | .restart =>
      { s with
        config := (s.configFile.getD {}).normalize
        mutes := s.persistable (s.alertFile.getD ∅)
        calls := ∅ }

end MuteService

end XrayChecker.Telegram

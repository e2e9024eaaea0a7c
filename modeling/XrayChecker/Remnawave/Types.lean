import XrayChecker.Checker.Status

/-
The data of the announce integration: the operator's settings, the ownership
state kept between runs, and the part of the panel the checker reads.  A nil
map and an empty one behave alike wherever the source does not compare the map
with nil; the two fields it does compare are optional here.
-/

namespace XrayChecker.Remnawave

open Go

def configVersion : Int := 6
def runtimeVersion : Int := 4

def announceHeader : Text := "announce"
def announceValuePrefix : Text := "rwEncodeBase64:"
def defaultOutageMinutes : Int := 15
def defaultMinFailures : Int := 3
def defaultRecoveryMins : Int := 5
def maxMessageRunes : Nat := 240
def maxBaseAnnounceBytes : Nat := 16 * 1024

structure MessageScenario where
  enabled : Bool := false
  template : Text := []
deriving DecidableEq

structure MessageScenarios where
  singleLocation : MessageScenario := {}
  multipleLocations : MessageScenario := {}
  allLocations : MessageScenario := {}
  partialSingleLocation : MessageScenario := {}
  partialMultipleLocations : MessageScenario := {}
  maintenanceSingleLocation : MessageScenario := {}
  maintenanceMultipleLocations : MessageScenario := {}
  healthy : MessageScenario := {}
  partialFallback : Text := []
  partialAvailabilityFallback : Text := []
  maintenanceFallback : Text := []
  maintenanceMixedFallback : Text := []
deriving DecidableEq

/-- When the integration may publish a subscription announce. -/
structure Policy where
  enabled : Bool := false
  outageMinutes : Int := 0
  minimumFailures : Int := 0
  recoveryMinutes : Int := 0
  messages : MessageScenarios := {}
  normalMessage : Text := []
deriving DecidableEq

structure SquadPair where
  internalSquadUUID : Text := []
  externalSquadUUID : Text := []
  monitoringOnly : Bool := false
deriving DecidableEq

/-- The server-first shape of older settings. -/
structure NodeMapping where
  hostUUID : Text := []
  groupKey : Text := []
  publicLabel : Text := []
deriving DecidableEq

/-- A location to be announced: its members by StableID, each with the UUID of
the host it runs on. -/
structure AnnounceLocation where
  publicLabel : Text := []
  members : GoMap Text Text := ∅
deriving DecidableEq

structure ConfigFile where
  version : Int := 0
  updatedAt : Time := 0
  policy : Policy := {}
  squadPairs : List SquadPair := []
  locations : Option (GoMap Text AnnounceLocation) := none
  nodeMappings : GoMap Text NodeMapping := ∅
  announceBases : GoMap Text Text := ∅
deriving DecidableEq

structure Settings where
  policy : Policy := {}
  squadPairs : List SquadPair := []
  locations : Option (GoMap Text AnnounceLocation) := none
  nodeMappings : Option (GoMap Text NodeMapping) := none
deriving DecidableEq

/-- An announce value the checker wrote and owns. -/
structure ManagedAnnouncement where
  value : Text := []
  message : Text := []
  basePresent : Bool := false
  baseValue : Text := []
  groups : GoMap Text Text := ∅
  partialGroups : GoMap Text Text := ∅
  maintenanceGroups : GoMap Text Text := ∅
  updatedAt : Time := 0
deriving DecidableEq

structure RuntimeFile where
  version : Int := 0
  updatedAt : Time := 0
  managed : GoMap Text ManagedAnnouncement := ∅
  restored : GoMap Text Text := ∅
deriving DecidableEq

def internalSquadsModeExclude : Text := "EXCLUDE"
def internalSquadsModeAllowOnly : Text := "ALLOW_ONLY"

structure HostInternalSquads where
  mode : Text := []
  squads : List Text := []

structure Host where
  uuid : Text := []
  remark : Text := []
  address : Text := []
  port : Int := 0
  isDisabled : Bool := false
  isHidden : Bool := false
  configProfileInboundUUID : Text := []
  internalSquads : HostInternalSquads := {}
  excludedInternalSquads : List Text := []

structure InternalSquad where
  uuid : Text := []
  name : Text := []
  inbounds : List Text := []

structure ExternalSquad where
  uuid : Text := []
  name : Text := []
  responseHeadersAdd : GoMap Text Text := ∅
deriving DecidableEq

structure Topology where
  loadedAt : Time := 0
  hosts : List Host := []
  internalSquads : List InternalSquad := []
  externalSquads : List ExternalSquad := []

structure RemoteAnnouncementStatus where
  externalSquadUUID : Text
  externalSquadName : Text := []
  present : Bool := false
  managed : Bool := false
  preservesBase : Bool := false
  baseAdopted : Bool := false
  adoptable : Bool := false
  message : Text := []
deriving DecidableEq

structure ReconcileStatus where
  lastTopologyAt : Time := 0
  lastReconcileAt : Time := 0
  lastError : Text := []
  conflicts : List Text := []
  announcements : List RemoteAnnouncementStatus := []

/-- `stringMapEqual`: as many entries, and every entry on the left is found on
the right, a missing one counting as empty. -/
def stringMapEqual (left right : GoMap Text Text) : Bool :=
  left.size == right.size &&
    left.toList.all fun entry => right[entry.1]?.getD [] == entry.2

/-- A host is visible to a squad when being listed matches the mode.  Panels
that send no mode mean their exclusion list, and an unknown mode is read as
exclusion. -/
def Host.visibleToInternalSquad (h : Host) (squadUUID : Text) : Bool :=
  let mode :=
    if h.internalSquads.mode = [] then internalSquadsModeExclude
    else h.internalSquads.mode
  let squads :=
    if h.internalSquads.mode = [] then h.excludedInternalSquads
    else h.internalSquads.squads
  squads.elem squadUUID == (mode == internalSquadsModeAllowOnly)

end XrayChecker.Remnawave

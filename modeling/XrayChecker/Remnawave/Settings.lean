import XrayChecker.Remnawave.Config

/-
The operator's settings: the projection of the stored configuration that the
admin sees, and the two actions that store a new configuration.
-/

namespace XrayChecker.Remnawave

open Go

/-- The server-first shape of one member. -/
def memberMapping (locationKey : Text) (location : AnnounceLocation)
    (hostUUID : Text) : NodeMapping where
  hostUUID := hostUUID
  groupKey := locationKey
  publicLabel := location.publicLabel

def nodeMappingsFromLocations (locations : GoMap Text AnnounceLocation) :
    GoMap Text NodeMapping :=
  locations.toList.foldl (fun result entry =>
    entry.2.members.toList.foldl (fun result member =>
      result.insert member.1 (memberMapping entry.1 entry.2 member.2))
      result) ∅

/-- `configSettings`: the settings `Snapshot` shows. -/
def configSettings (config : ConfigFile) : Settings :=
  let locations := config.locations.getD ∅
  let locations :=
    if locations.isEmpty && !config.nodeMappings.isEmpty then
      match locationsFromNodeMappings config.nodeMappings with
      | .ok migrated => migrated
      | .error _ => locations
    else locations
  { policy := config.policy
    squadPairs := config.squadPairs
    locations := some locations
    nodeMappings := some (nodeMappingsFromLocations locations) }

/-- The settings as a client reads them: an empty `nodeMappings` is left out
of the JSON document. -/
def Settings.transmitted (settings : Settings) : Settings :=
  { settings with
    nodeMappings := settings.nodeMappings.filter fun mappings =>
      !mappings.isEmpty }

def announceLocationsEqual (left right : GoMap Text AnnounceLocation) : Bool :=
  left.size == right.size &&
    left.toList.all fun entry =>
      match right[entry.1]? with
      | none => false
      | some location =>
          entry.2.publicLabel == location.publicLabel &&
            stringMapEqual entry.2.members location.members

def canonicalSettingsLocations (settings : Settings) :
    Except Text (GoMap Text AnnounceLocation) :=
  match settings.locations, settings.nodeMappings with
  | none, none => .error "locations is required"
  | none, some mappings => locationsFromNodeMappings mappings
  | some locations, none => normalizeLocationMap locations
  | some locations, some mappings => do
      let locations ← normalizeLocationMap locations
      let legacy ← locationsFromNodeMappings mappings
      reject (!announceLocationsEqual locations legacy)
        ("locations and deprecated nodeMappings describe different " ++
          "announce locations")
      return locations

/-- The policy an older client means: scenarios it does not know are taken
from the current configuration. -/
def preserveScenarios (current : MessageScenarios) (policy : Policy) :
    Policy :=
  if messageScenariosMissing policy.messages then
    let messages := normalizeMessageScenarios current
    let legacyNormalMessage := trimSpace policy.normalMessage
    { policy with
      messages :=
        { messages with
          healthy :=
            if legacyNormalMessage = [] then
              { messages.healthy with enabled := false }
            else ⟨true, legacyNormalMessage⟩ }
      normalMessage := [] }
  else
    let messages :=
      if partialAvailabilityScenariosMissing policy.messages then
        { policy.messages with
          partialSingleLocation := current.partialSingleLocation
          partialMultipleLocations := current.partialMultipleLocations
          partialAvailabilityFallback := current.partialAvailabilityFallback }
      else policy.messages
    let messages :=
      if maintenanceScenariosMissing messages then
        { messages with
          maintenanceSingleLocation := current.maintenanceSingleLocation
          maintenanceMultipleLocations := current.maintenanceMultipleLocations
          maintenanceFallback := current.maintenanceFallback
          maintenanceMixedFallback := current.maintenanceMixedFallback }
      else messages
    { policy with messages := messages }

/-- What a save leaves: the configuration in memory and the document on
disk. -/
structure SavedConfig where
  config : ConfigFile
  stored : ConfigFile

/-- `UpdateSettings` over the current configuration. -/
def updateSettings (current : ConfigFile) (disk : Except Text Unit)
    (settings : Settings) (now : Time) : Except Text SavedConfig := do
  let policy := preserveScenarios current.policy.messages settings.policy
  let locations ← canonicalSettingsLocations settings
  let config ← normalizeConfig
    { version := configVersion
      policy := policy
      squadPairs := settings.squadPairs
      locations := some locations
      announceBases := current.announceBases }
  validateConfig config
  let stored ← writeConfigFile disk config now
  return { config := { config with updatedAt := now }, stored := stored }

end XrayChecker.Remnawave

import XrayChecker.Remnawave.Messages

/-
The settings file: migration of older shapes, normalisation, validation, and
the writer that applies both.
-/

namespace XrayChecker.Remnawave

open Go

def defaultPolicy : Policy where
  outageMinutes := defaultOutageMinutes
  minimumFailures := defaultMinFailures
  recoveryMinutes := defaultRecoveryMins
  messages := defaultMessageScenarios

def defaultConfig : ConfigFile where
  version := configVersion
  policy := defaultPolicy
  locations := some ∅

/-- `int` fields that a file may leave out. -/
def orDefault (value fallback : Int) : Int :=
  if value = 0 then fallback else value

/-- The part of `normalizeConfig` that concerns the policy. -/
def normalizePolicy (sourceVersion : Int) (policy : Policy) : Policy :=
  let legacyNormalMessage := trimSpace policy.normalMessage
  let messagesWereMissing := messageScenariosMissing policy.messages
  let messages := normalizeMessageScenarios policy.messages
  { enabled := policy.enabled
    outageMinutes := orDefault policy.outageMinutes defaultOutageMinutes
    minimumFailures := orDefault policy.minimumFailures defaultMinFailures
    recoveryMinutes := orDefault policy.recoveryMinutes defaultRecoveryMins
    messages :=
      if legacyNormalMessage ≠ [] ∧
          (sourceVersion < 2 ∨ messagesWereMissing) then
        { messages with healthy := ⟨true, legacyNormalMessage⟩ }
      else messages
    normalMessage := [] }

def normalizePair (pair : SquadPair) : SquadPair :=
  { pair with
    internalSquadUUID := trimSpace pair.internalSquadUUID
    externalSquadUUID := trimSpace pair.externalSquadUUID }

def lessFolded (left right : Text) : Bool :=
  if toLower left = toLower right then left < right
  else toLower left < toLower right

/-- What `locationsFromNodeMappings` accumulates. -/
structure MigratedLocations where
  locations : GoMap Text AnnounceLocation := ∅
  explicitLabels : GoMap Text Text := ∅

def migrateNodeMapping (acc : MigratedLocations)
    (entry : Text × NodeMapping) : Except Text MigratedLocations := do
  let hostUUID := trimSpace entry.2.hostUUID
  let groupKey := trimSpace entry.2.groupKey
  let publicLabel := trimSpace entry.2.publicLabel
  let locationKey := if groupKey = [] then hostUUID else groupKey
  let explicit := decide (groupKey ≠ [] ∧ publicLabel ≠ [])
  reject (explicit &&
      acc.explicitLabels[locationKey]?.any (fun label => label != publicLabel))
    ("redundancy group " ++ locationKey ++ " has conflicting public labels")
  let location := acc.locations[locationKey]?.getD {}
  let label :=
    if publicLabel ≠ [] ∧ (location.publicLabel = [] ∨
        lessFolded publicLabel location.publicLabel) then publicLabel
    else location.publicLabel
  return {
    locations := acc.locations.insert locationKey
      { publicLabel := label
        members := location.members.insert entry.1 hostUUID }
    explicitLabels :=
      if explicit then acc.explicitLabels.insert locationKey publicLabel
      else acc.explicitLabels }

def locationsFromNodeMappings (mappings : GoMap Text NodeMapping) :
    Except Text (GoMap Text AnnounceLocation) := do
  let migrated ← mappings.toList.foldlM migrateNodeMapping {}
  return migrated.locations

def normalizeLocation (location : AnnounceLocation) : AnnounceLocation where
  publicLabel := trimSpace location.publicLabel
  members := location.members.map fun _ hostUUID => trimSpace hostUUID

def normalizeLocationEntry (result : GoMap Text AnnounceLocation)
    (entry : Text × AnnounceLocation) :
    Except Text (GoMap Text AnnounceLocation) := do
  reject (result.contains (trimSpace entry.1))
    ("locations contains duplicate key after trimming: " ++
      trimSpace entry.1)
  return result.insert (trimSpace entry.1) (normalizeLocation entry.2)

def normalizeLocationMap (input : GoMap Text AnnounceLocation) :
    Except Text (GoMap Text AnnounceLocation) :=
  input.toList.foldlM normalizeLocationEntry ∅

/-- The locations of a settings file before they are normalised: the ones it
has, or the ones its legacy mappings stand for. -/
def configLocations (config : ConfigFile) :
    Except Text (GoMap Text AnnounceLocation) :=
  if config.nodeMappings.isEmpty then
    .ok (config.locations.getD ∅)
  else do
    reject config.locations.isSome
      "Remnawave config contains both locations and legacy nodeMappings"
    locationsFromNodeMappings config.nodeMappings

def normalizeConfig (config : ConfigFile) : Except Text ConfigFile := do
  let locations ← configLocations config
  let locations ← normalizeLocationMap locations
  return { config with
    version :=
      if 0 ≤ config.version ∧ config.version < configVersion then
        configVersion
      else config.version
    policy := normalizePolicy config.version config.policy
    squadPairs := config.squadPairs.map normalizePair
    locations := some locations
    nodeMappings := ∅ }

def validateAnnounceBase (entry : Text × Text) : Except Text Unit := do
  reject (invalidIdentifier entry.1)
    "announceBases contains an invalid external squad UUID"
  reject (!isManagedBaseAnnounce entry.2)
    ("announceBases[" ++ entry.1 ++
      "] is not a value this checker can build on")

def validatePolicy (policy : Policy) : Except Text Unit := do
  reject (policy.outageMinutes < 1 || 24 * 60 < policy.outageMinutes)
    "outageMinutes must be between 1 and 1440"
  reject (policy.minimumFailures < 2 || 100 < policy.minimumFailures)
    "minimumFailures must be between 2 and 100"
  reject (policy.recoveryMinutes < 1 || 24 * 60 < policy.recoveryMinutes)
    "recoveryMinutes must be between 1 and 1440"
  validateDisplayText "normalMessage" policy.normalMessage maxMessageRunes
  validateMessageScenarios policy.messages

/-- The squads `validateConfig` has met in earlier pairs. -/
structure PairsSeen where
  internalSeen : GoMap Text Bool := ∅
  externalTargets : GoMap Text Bool := ∅

def validatePair (seen : PairsSeen) (item : SquadPair × Nat) :
    Except Text PairsSeen := do
  let pair := item.1
  reject (pair.internalSquadUUID == [] || pair.externalSquadUUID == [])
    ("squadPairs[" ++ itoa item.2 ++ "] requires both squad UUIDs")
  reject (invalidIdentifier pair.internalSquadUUID ||
      invalidIdentifier pair.externalSquadUUID)
    ("squadPairs[" ++ itoa item.2 ++ "] contains an invalid squad UUID")
  reject (seen.internalSeen.contains pair.internalSquadUUID)
    ("internal squad " ++ pair.internalSquadUUID ++
      " is mapped more than once")
  reject (!pair.monitoringOnly &&
      seen.externalTargets.contains pair.externalSquadUUID)
    ("external squad " ++ pair.externalSquadUUID ++
      " is targeted more than once")
  return {
    internalSeen := seen.internalSeen.insert pair.internalSquadUUID true
    externalTargets :=
      if pair.monitoringOnly then seen.externalTargets
      else seen.externalTargets.insert pair.externalSquadUUID true }

/-- One member of a location, against the StableIDs of all members before it,
which are kept under their lower-case form. -/
def validateMember (locationKey : Text) (stableIDs : GoMap Text Text)
    (member : Text × Text) : Except Text (GoMap Text Text) := do
  reject (member.1 == [] || 512 < byteLen member.1 ||
      containsAny member.1 "\r\n")
    ("locations[" ++ locationKey ++
      "].members contains an invalid StableID")
  match stableIDs[toLower member.1]? with
  | some previous =>
      if previous ≠ member.1 then
        throw ("locations contains case-insensitive StableID collision: " ++
          previous ++ " and " ++ member.1)
      else
        throw ("StableID " ++ member.1 ++
          " belongs to more than one announce location")
  | none => pure ()
  reject (member.2 != [] && invalidIdentifier member.2)
    ("locations[" ++ locationKey ++ "].members[" ++ member.1 ++
      "] has an invalid host UUID")
  return stableIDs.insert (toLower member.1) member.1

def validateLocation (stableIDs : GoMap Text Text)
    (entry : Text × AnnounceLocation) : Except Text (GoMap Text Text) := do
  reject (entry.1 == [] || 128 < byteLen entry.1 || containsAny entry.1 "\r\n")
    "locations contains an invalid location key"
  validateDisplayText ("locations[" ++ entry.1 ++ "].publicLabel")
    entry.2.publicLabel 80
  reject entry.2.members.isEmpty
    ("locations[" ++ entry.1 ++ "] requires at least one member")
  entry.2.members.toList.foldlM (validateMember entry.1) stableIDs

def validateConfig (config : ConfigFile) : Except Text Unit := do
  reject (config.version != configVersion)
    ("unsupported Remnawave config version " ++ itoaInt config.version)
  checkAll validateAnnounceBase config.announceBases.toList
  validatePolicy config.policy
  let _ ← config.squadPairs.zipIdx.foldlM validatePair {}
  let _ ← (config.locations.getD ∅).toList.foldlM validateLocation ∅
  return ()

/-- `DecodeConfig` on a document that parses. -/
def decodeConfig (document : ConfigFile) : Except Text ConfigFile := do
  let config ← normalizeConfig document
  validateConfig config
  return config

/-- `writeConfigFile`: the document it writes; `disk` is the outcome of
`writeJSONAtomic`. -/
def writeConfigFile (disk : Except Text Unit) (config : ConfigFile)
    (now : Time) : Except Text ConfigFile := do
  let config ← normalizeConfig
    { config with version := configVersion, updatedAt := now }
  validateConfig config
  disk
  return config

/-- The checks `validateConfig` makes, one by one. -/
structure ValidConfig (config : ConfigFile) : Prop where
  version : config.version = configVersion
  bases : ∀ entry ∈ config.announceBases.toList,
    validateAnnounceBase entry = .ok ()
  policy : validatePolicy config.policy = .ok ()
  pairs : ∃ seen,
    config.squadPairs.zipIdx.foldlM validatePair ({} : PairsSeen) = .ok seen
  locations : ∃ stableIDs,
    (config.locations.getD ∅).toList.foldlM validateLocation ∅ = .ok stableIDs

theorem validateConfig_eq_ok {config : ConfigFile} {u : Unit} :
    validateConfig config = .ok u ↔ ValidConfig config := by
  rw [validateConfig, bind_unit_eq_ok, reject_eq_ok, bind_unit_eq_ok,
    checkAll_eq_ok, bind_unit_eq_ok, bind_eq_ok]
  constructor
  · rintro ⟨hversion, hbases, hpolicy, seen, hpairs, h⟩
    rw [bind_eq_ok] at h
    obtain ⟨stableIDs, hlocations, -⟩ := h
    exact ⟨by simpa using hversion, hbases, hpolicy, ⟨seen, hpairs⟩,
      ⟨stableIDs, hlocations⟩⟩
  · rintro ⟨hversion, hbases, hpolicy, ⟨seen, hpairs⟩, ⟨stableIDs, hlocations⟩⟩
    refine ⟨by simp [hversion], hbases, hpolicy, seen, hpairs, ?_⟩
    rw [bind_eq_ok]
    exact ⟨stableIDs, hlocations, rfl⟩

namespace ValidConfig

variable {config : ConfigFile}

/-- An adopted base is a text the checker can build on. -/
theorem adopted_base (h : ValidConfig config) {externalUUID base : Text}
    (hbase : config.announceBases[externalUUID]? = some base) :
    isManagedBaseAnnounce base = true := by
  have hentry := h.bases (externalUUID, base)
    (Std.ExtTreeMap.mem_toList_iff_getElem?_eq_some.mpr hbase)
  rw [validateAnnounceBase, bind_unit_eq_ok, reject_eq_ok] at hentry
  simpa using hentry.2

end ValidConfig

theorem validatePair_eq_ok {seen seen' : PairsSeen} {item : SquadPair × Nat}
    (h : validatePair seen item = .ok seen') :
    invalidIdentifier item.1.externalSquadUUID = false ∧
      (item.1.monitoringOnly = false →
        item.1.externalSquadUUID ∉ seen.externalTargets) ∧
      seen'.externalTargets =
        if item.1.monitoringOnly then seen.externalTargets
        else seen.externalTargets.insert item.1.externalSquadUUID true := by
  simp only [validatePair, bind_unit_eq_ok, reject_eq_ok] at h
  obtain ⟨-, hvalid, -, hfresh, h⟩ := h
  obtain rfl := Except.ok.inj h
  rw [Bool.or_eq_false_iff] at hvalid
  refine ⟨hvalid.2, fun hactive => ?_, rfl⟩
  rw [← Std.ExtTreeMap.contains_iff_mem, Bool.not_eq_true]
  simpa [hactive] using hfresh

/-- The external squads that a configuration announces to. -/
def announceTargets (pairs : List SquadPair) : List Text :=
  (pairs.filter fun pair => !pair.monitoringOnly).map
    SquadPair.externalSquadUUID

namespace ValidConfig

variable {config : ConfigFile}

theorem pairs_spec (h : ValidConfig config) :
    (∀ pair ∈ config.squadPairs,
        invalidIdentifier pair.externalSquadUUID = false) ∧
      (announceTargets config.squadPairs).Nodup := by
  obtain ⟨seen, hpairs⟩ := h.pairs
  have hloop := foldlM_invariant
    (fun done (seen : PairsSeen) =>
      (∀ pair ∈ done.map Prod.fst,
        invalidIdentifier pair.externalSquadUUID = false) ∧
      (announceTargets (done.map Prod.fst)).Nodup ∧
      ∀ u, u ∈ seen.externalTargets ↔ u ∈ announceTargets (done.map Prod.fst))
    hpairs ⟨by simp, List.nodup_nil, by simp [announceTargets]⟩ ?_
  · rw [List.zipIdx_map_fst] at hloop
    exact ⟨hloop.1, hloop.2.1⟩
  · rintro done item seen seen' - ⟨hvalid, hnodup, hseen⟩ hstep
    obtain ⟨hitem, hfresh, htargets⟩ := validatePair_eq_ok hstep
    have hgrow : announceTargets ((done ++ [item]).map Prod.fst) =
        announceTargets (done.map Prod.fst) ++
          (if item.1.monitoringOnly then []
          else [item.1.externalSquadUUID]) := by
      cases hmonitoring : item.1.monitoringOnly <;>
        simp [announceTargets, hmonitoring]
    rw [hgrow, htargets]
    refine ⟨?_, ?_, ?_⟩
    · intro pair hpair
      rw [List.map_append, List.mem_append] at hpair
      rcases hpair with hold | hnew
      · exact hvalid pair hold
      · obtain rfl : pair = item.1 := by simpa using hnew
        exact hitem
    · cases hmonitoring : item.1.monitoringOnly with
      | true => simpa using hnodup
      | false =>
          rw [if_neg Bool.false_ne_true, List.nodup_append]
          refine ⟨hnodup, List.nodup_singleton _, ?_⟩
          intro u hu v hv
          obtain rfl := List.mem_singleton.mp hv
          rintro rfl
          exact hfresh hmonitoring ((hseen _).mpr hu)
    · intro u
      cases hmonitoring : item.1.monitoringOnly with
      | true => simpa using hseen u
      | false =>
          rw [if_neg Bool.false_ne_true, if_neg Bool.false_ne_true,
            Std.ExtTreeMap.mem_insert, List.mem_append, List.mem_singleton,
            ← hseen u, Std.LawfulEqCmp.compare_eq_iff_eq]
          constructor
          · rintro (rfl | hold)
            · exact .inr rfl
            · exact .inl hold
          · rintro (hold | rfl)
            · exact .inr hold
            · exact .inl rfl

end ValidConfig

end XrayChecker.Remnawave

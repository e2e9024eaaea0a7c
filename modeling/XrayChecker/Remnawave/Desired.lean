import XrayChecker.Remnawave.Evaluate
import XrayChecker.Remnawave.Runtime

/-
What every external squad should announce: the states of its locations, held
back by the recovery clock of the locations already announced, and the text
they make together.
-/

namespace XrayChecker.Remnawave

open Go Checker

structure DesiredAnnouncement where
  message : Text := []
  knownHealthyMessage : Text := []
  groups : GoMap Text Text := ∅
  partialGroups : GoMap Text Text := ∅
  maintenanceGroups : GoMap Text Text := ∅
deriving DecidableEq

/-- Which of the three lists an ownership record has a location in. -/
def previousGroupState (previous : ManagedAnnouncement) (key : Text) :
    Option GroupState :=
  if previous.groups.contains key then some .groupDown
  else if previous.partialGroups.contains key then some .groupPartial
  else if previous.maintenanceGroups.contains key then some .groupMaintenance
  else none

/-- What a pass decides about one location: the list it goes on, if any, and
the recovery clock kept running for it. -/
structure GroupDecision where
  listed : Option GroupState := none
  recovering : Option Time := none
deriving DecidableEq

/-- One iteration over the evaluated locations; `since` is the recovery clock
found running. -/
def decideGroup (policy : Policy) (now : Time)
    (previousState : Option GroupState) (since : Option Time)
    (state : GroupState) : GroupDecision :=
  if state = .groupDown then { listed := some .groupDown }
  else if state = .groupMaintenance then { listed := some .groupMaintenance }
  else if state = .groupPartial ∧ previousState ≠ some .groupDown ∧
      previousState ≠ some .groupMaintenance then
    { listed := some .groupPartial }
  else
    match previousState with
    | none => {}
    | some previousState =>
        if state = .groupHealthy ∨ state = .groupPartial then
          let since := since.getD now
          if now.sub since < minutes policy.recoveryMinutes then
            { listed := some previousState, recovering := some since }
          else if state = .groupPartial then
            { listed := some .groupPartial }
          else {}
        else { listed := some previousState }

/-- The key of a location's recovery clock for a squad. -/
def recoveryKey (externalUUID key : Text) : Text :=
  externalUUID ++ '\x00' :: key

/-- The decision of a pass about one evaluated location. -/
def decideLocation (policy : Policy) (now : Time)
    (recoverySince : GoMap Text Time) (externalUUID : Text)
    (previous : ManagedAnnouncement) (key : Text) (group : GroupEvaluation) :
    GroupDecision :=
  decideGroup policy now (previousGroupState previous key)
    recoverySince[recoveryKey externalUUID key]? group.state

/-- The labels of the locations that go on one list. -/
def listedLabels (decide : Text → GroupEvaluation → GroupDecision)
    (groups : GoMap Text GroupEvaluation) (list : GroupState) :
    GoMap Text Text :=
  groups.filterMap fun key group =>
    if (decide key group).listed = some list then some group.label else none

/-- The text for one list of locations, none when the list is empty. -/
def unlessEmpty (groups : GoMap Text Text) (message : Except Text Text) :
    Except Text Text :=
  if 0 < groups.size then message else .ok []

/-- The text for the locations on the three lists. -/
def announceMessage (messages : MessageScenarios)
    (previous : ManagedAnnouncement) (healthy : Text)
    (announced partialGroups maintenanceGroups : GoMap Text Text)
    (allHealthy : Bool) (total : Nat) : Except Text Text :=
  if 0 < announced.size ∨ 0 < maintenanceGroups.size then do
    let outage ←
      unlessEmpty announced (outageMessage messages announced total)
    let maintenanceText ←
      unlessEmpty maintenanceGroups
        (maintenanceMessage messages maintenanceGroups total)
    combineOutageAndMaintenanceMessages messages outage maintenanceText
      announced.size maintenanceGroups.size total
  else if 0 < partialGroups.size then
    partialAvailabilityMessage messages partialGroups total
  else if allHealthy ∨ (previous.groups.size = 0 ∧
      previous.partialGroups.size = 0 ∧
      previous.maintenanceGroups.size = 0 ∧ previous.message = healthy) then
    .ok healthy
  else .ok []

/-- The announcement of a squad that sees the evaluated locations. -/
def announceGroups (policy : Policy) (previous : ManagedAnnouncement)
    (groups : GoMap Text GroupEvaluation)
    (decide : Text → GroupEvaluation → GroupDecision) :
    Except Text DesiredAnnouncement := do
  let announced := listedLabels decide groups .groupDown
  let partialGroups := listedLabels decide groups .groupPartial
  let maintenanceGroups := listedLabels decide groups .groupMaintenance
  let allHealthy := groups.values.all fun group => group.state == .groupHealthy
  let healthy ← healthyMessage policy.messages groups.size
  let message ← announceMessage policy.messages previous healthy announced
    partialGroups maintenanceGroups allHealthy groups.size
  return {
    message := message
    knownHealthyMessage := healthy
    groups := announced
    partialGroups := partialGroups
    maintenanceGroups := maintenanceGroups }

/-- The announcement of a squad, which is empty when it sees no location. -/
def announceSquad (policy : Policy) (previous : ManagedAnnouncement)
    (groups : GoMap Text GroupEvaluation)
    (decide : Text → GroupEvaluation → GroupDecision) :
    Except Text DesiredAnnouncement :=
  if groups.isEmpty then .ok {}
  else announceGroups policy previous groups decide

/-- What `computeDesiredAnnouncements` accumulates over the squad pairs. -/
structure DesiredProgress where
  desired : GoMap Text DesiredAnnouncement := ∅
  nextRecovery : GoMap Text Time := ∅
deriving DecidableEq

/-- The topology and the locations as one pass indexes them. -/
structure Audience where
  internalByUUID : GoMap Text InternalSquad
  externalByUUID : GoMap Text ExternalSquad
  hostByUUID : GoMap Text Host
  hosts : List Host
  locations : GoMap Text AnnounceLocation

/-- The locations one internal squad sees, evaluated. -/
def Audience.groups (audience : Audience) (policy : Policy) (fleet : Fleet)
    (squad : InternalSquad) : GoMap Text GroupEvaluation :=
  evaluateLocations audience.locations policy
    { visibleHosts := visibleHostSet squad audience.hosts
      hostByUUID := audience.hostByUUID } fleet

/-- The clocks that go on running for the evaluated locations of a squad. -/
def keepRecovery (externalUUID : Text)
    (decide : Text → GroupEvaluation → GroupDecision)
    (groups : GoMap Text GroupEvaluation) (nextRecovery : GoMap Text Time) :
    GoMap Text Time :=
  groups.toList.foldl (fun next entry =>
    match (decide entry.1 entry.2).recovering with
    | some since => next.insert (recoveryKey externalUUID entry.1) since
    | none => next) nextRecovery

/-- One iteration of `computeDesiredAnnouncements` over the squad pairs. -/
def desirePair (policy : Policy) (runtime : RuntimeFile) (audience : Audience)
    (fleet : Fleet) (recoverySince : GoMap Text Time)
    (progress : DesiredProgress) (pair : SquadPair) :
    Except Text DesiredProgress :=
  let externalUUID := pair.externalSquadUUID
  if pair.monitoringOnly then .ok progress
  else
    match audience.internalByUUID[pair.internalSquadUUID]? with
    | none =>
        .error ("configured internal squad " ++ pair.internalSquadUUID ++
          " no longer exists")
    | some internal => do
        reject (!audience.externalByUUID.contains externalUUID)
          ("configured external squad " ++ externalUUID ++
            " no longer exists")
        let groups := audience.groups policy fleet internal
        let previous := runtime.managed[externalUUID]?.getD {}
        let decide := decideLocation policy fleet.now recoverySince
          externalUUID previous
        let announcement ← announceSquad policy previous groups decide
        return {
          desired := progress.desired.insert externalUUID announcement
          nextRecovery :=
            keepRecovery externalUUID decide groups progress.nextRecovery }

/-- The indexes a pass builds over the topology, and the locations with their
hosts resolved. -/
def indexAudience (topology : Topology)
    (locations : GoMap Text AnnounceLocation) (fleet : Fleet) : Audience where
  internalByUUID := indexBy InternalSquad.uuid topology.internalSquads
  externalByUUID := indexBy ExternalSquad.uuid topology.externalSquads
  hostByUUID := indexBy Host.uuid topology.hosts
  hosts := topology.hosts
  locations :=
    resolveMemberHosts locations fleet.proxyByStableID topology.hosts

def computeDesiredAnnouncements (config : ConfigFile) (runtime : RuntimeFile)
    (topology : Topology) (fleet : Fleet) (recoverySince : GoMap Text Time) :
    Except Text DesiredProgress := do
  let desired : GoMap Text DesiredAnnouncement :=
    runtime.managed.map fun _ _ => {}
  if !config.policy.enabled then return { desired := desired }
  else
    reject (!config.squadPairs.isEmpty && topology.loadedAt.isZero)
      "Remnawave topology has not been loaded"
    let locations ← effectiveLocations config
    config.squadPairs.foldlM
      (desirePair config.policy runtime (indexAudience topology locations fleet)
        fleet recoverySince)
      { desired := desired }

theorem unlessEmpty_publishable {groups : GoMap Text Text}
    {made : Except Text Text} {message : Text}
    (hmade : made = .ok message → Publishable message)
    (h : unlessEmpty groups made = .ok message) : Publishable message := by
  unfold unlessEmpty at h
  split_ifs at h
  · exact hmade h
  · obtain rfl := Except.ok.inj h
    exact displayable_nil _

theorem announceMessage_publishable {messages : MessageScenarios}
    {previous : ManagedAnnouncement} {healthy message : Text}
    {announced partialGroups maintenanceGroups : GoMap Text Text}
    {allHealthy : Bool} {total : Nat} (hhealthy : Publishable healthy)
    (h : announceMessage messages previous healthy announced partialGroups
      maintenanceGroups allHealthy total = .ok message) :
    Publishable message := by
  unfold announceMessage at h
  split_ifs at h
  · rw [bind_eq_ok] at h
    obtain ⟨outage, houtage, h⟩ := h
    rw [bind_eq_ok] at h
    obtain ⟨maintenance, hmaintenance, h⟩ := h
    exact combineOutageAndMaintenanceMessages_publishable
      (unlessEmpty_publishable outageMessage_publishable houtage)
      (unlessEmpty_publishable locationsMessage_publishable hmaintenance) h
  · exact locationsMessage_publishable h
  · obtain rfl := Except.ok.inj h
    exact hhealthy
  · obtain rfl := Except.ok.inj h
    exact displayable_nil _

/-- What `announceGroups` returns, taken apart. -/
theorem announceGroups_eq_ok {policy : Policy}
    {previous : ManagedAnnouncement} {groups : GoMap Text GroupEvaluation}
    {decide : Text → GroupEvaluation → GroupDecision}
    {announcement : DesiredAnnouncement}
    (h : announceGroups policy previous groups decide = .ok announcement) :
    healthyMessage policy.messages groups.size =
        .ok announcement.knownHealthyMessage ∧
      announceMessage policy.messages previous
        announcement.knownHealthyMessage announcement.groups
        announcement.partialGroups announcement.maintenanceGroups
        (groups.values.all fun group => group.state == .groupHealthy)
        groups.size = .ok announcement.message ∧
      announcement.groups = listedLabels decide groups .groupDown ∧
      announcement.partialGroups =
        listedLabels decide groups .groupPartial ∧
      announcement.maintenanceGroups =
        listedLabels decide groups .groupMaintenance := by
  unfold announceGroups at h
  dsimp only at h
  rw [bind_eq_ok] at h
  obtain ⟨healthy, hhealthy, h⟩ := h
  rw [bind_eq_ok] at h
  obtain ⟨message, hmessage, h⟩ := h
  obtain rfl := Except.ok.inj h
  exact ⟨hhealthy, hmessage, rfl, rfl, rfl⟩

/-- What one squad pair contributes. -/
inductive PairCase (policy : Policy) (runtime : RuntimeFile)
    (audience : Audience) (fleet : Fleet) (recoverySince : GoMap Text Time)
    (progress : DesiredProgress) (pair : SquadPair)
    (result : DesiredProgress) : Prop where
  | monitoring (hpair : pair.monitoringOnly = true)
      (hresult : result = progress)
  | desired (squad : InternalSquad) (announcement : DesiredAnnouncement)
      (hpair : pair.monitoringOnly = false)
      (hinternal :
        audience.internalByUUID[pair.internalSquadUUID]? = some squad)
      (hexternal : pair.externalSquadUUID ∈ audience.externalByUUID)
      (hannouncement :
        (audience.groups policy fleet squad).isEmpty = true ∧
            announcement = {} ∨
          (audience.groups policy fleet squad).isEmpty = false ∧
            announceGroups policy
              (runtime.managed[pair.externalSquadUUID]?.getD {})
              (audience.groups policy fleet squad)
              (decideLocation policy fleet.now recoverySince
                pair.externalSquadUUID
                (runtime.managed[pair.externalSquadUUID]?.getD {})) =
              .ok announcement)
      (hdesired : result.desired =
        progress.desired.insert pair.externalSquadUUID announcement)
      (hrecovery : result.nextRecovery =
        keepRecovery pair.externalSquadUUID
          (decideLocation policy fleet.now recoverySince
            pair.externalSquadUUID
            (runtime.managed[pair.externalSquadUUID]?.getD {}))
          (audience.groups policy fleet squad) progress.nextRecovery)

theorem desirePair_cases {policy : Policy} {runtime : RuntimeFile}
    {audience : Audience} {fleet : Fleet} {recoverySince : GoMap Text Time}
    {progress result : DesiredProgress} {pair : SquadPair}
    (h : desirePair policy runtime audience fleet recoverySince progress pair =
      .ok result) :
    PairCase policy runtime audience fleet recoverySince progress pair
      result := by
  unfold desirePair at h
  dsimp only at h
  split_ifs at h with hpair
  · exact .monitoring hpair (Except.ok.inj h).symm
  · split at h
    · cases h
    · rename_i squad hsquad
      rw [bind_unit_eq_ok, reject_eq_ok, bind_eq_ok] at h
      obtain ⟨hexternal, announcement, hannouncement, h⟩ := h
      obtain rfl := Except.ok.inj h
      refine .desired squad announcement (by simpa using hpair) hsquad
        (by simpa using hexternal) ?_ rfl rfl
      unfold announceSquad at hannouncement
      split_ifs at hannouncement with hempty
      · exact .inl ⟨hempty, (Except.ok.inj hannouncement).symm⟩
      · exact .inr ⟨by simpa using hempty, hannouncement⟩

/-- What `computeDesiredAnnouncements` returns, taken apart. -/
theorem computeDesiredAnnouncements_eq_ok {config : ConfigFile}
    {runtime : RuntimeFile} {topology : Topology} {fleet : Fleet}
    {recoverySince : GoMap Text Time} {result : DesiredProgress}
    (h : computeDesiredAnnouncements config runtime topology fleet
      recoverySince = .ok result) :
    (config.policy.enabled = false ∧
        result = { desired := runtime.managed.map fun _ _ => {} }) ∨
      ∃ locations, effectiveLocations config = .ok locations ∧
        config.policy.enabled = true ∧
        config.squadPairs.foldlM
          (desirePair config.policy runtime
            (indexAudience topology locations fleet) fleet recoverySince)
          { desired := runtime.managed.map fun _ _ => {} } = .ok result := by
  unfold computeDesiredAnnouncements at h
  dsimp only at h
  split_ifs at h with henabled
  · exact .inl ⟨by simpa using henabled, (Except.ok.inj h).symm⟩
  · rw [bind_unit_eq_ok, bind_eq_ok] at h
    obtain ⟨-, locations, hlocations, h⟩ := h
    exact .inr ⟨locations, hlocations, by simpa using henabled, h⟩

/-- A pair of a configuration whose squad is to be announced. -/
def ActivePair (config : ConfigFile) (externalUUID : Text) : Prop :=
  ∃ pair ∈ config.squadPairs, pair.monitoringOnly = false ∧
    pair.externalSquadUUID = externalUUID

/-- What holds of the empty announcement and of every announcement made for a
configured squad holds of all desired announcements. -/
theorem desired_forall {config : ConfigFile} {runtime : RuntimeFile}
    {topology : Topology} {fleet : Fleet} {recoverySince : GoMap Text Time}
    {result : DesiredProgress} (P : Text → DesiredAnnouncement → Prop)
    (h : computeDesiredAnnouncements config runtime topology fleet
      recoverySince = .ok result)
    (hmanaged : ∀ u ∈ runtime.managed, P u {})
    (hpair : ∀ u, ActivePair config u → P u {})
    (hgroups : ∀ u previous groups decide announcement,
      ActivePair config u →
      announceGroups config.policy previous groups decide = .ok announcement →
      P u announcement) :
    ∀ u announcement, result.desired[u]? = some announcement →
      P u announcement := by
  have hstart : ∀ u announcement,
      (runtime.managed.map fun _ _ => ({} : DesiredAnnouncement))[u]? =
        some announcement → P u announcement := by
    intro u announcement hu
    rw [Std.ExtTreeMap.getElem?_map] at hu
    cases hmem : runtime.managed[u]? with
    | none => simp [hmem] at hu
    | some managed =>
        simp only [hmem, Option.map_some, Option.some.injEq] at hu
        obtain rfl := hu
        exact hmanaged u
          (Std.ExtTreeMap.mem_iff_isSome_getElem?.mpr (by rw [hmem]; rfl))
  rcases computeDesiredAnnouncements_eq_ok h with
    ⟨-, rfl⟩ | ⟨locations, -, -, hloop⟩
  · exact hstart
  · refine foldlM_invariant (fun _ (progress : DesiredProgress) =>
      ∀ u announcement, progress.desired[u]? = some announcement →
        P u announcement) hloop hstart ?_
    intro _ pair progress progress' hmem hprogress hstep
    cases desirePair_cases hstep with
    | monitoring _ hresult =>
        rw [hresult]
        exact hprogress
    | desired squad announcement hactive _ _ hannouncement hdesired _ =>
        intro u found hfound
        rw [hdesired, GoMap.get_insert] at hfound
        split_ifs at hfound with hu
        · obtain rfl := Option.some.inj hfound
          have hconfigured : ActivePair config u := ⟨pair, hmem, hactive, hu⟩
          rcases hannouncement with ⟨-, rfl⟩ | ⟨-, hannouncement⟩
          · exact hpair u hconfigured
          · exact hgroups u _ _ _ _ hconfigured hannouncement
        · exact hprogress u found hfound

/-- Every text a pass wants to publish may be published. -/
theorem desired_publishable {config : ConfigFile} {runtime : RuntimeFile}
    {topology : Topology} {fleet : Fleet} {recoverySince : GoMap Text Time}
    {result : DesiredProgress}
    (h : computeDesiredAnnouncements config runtime topology fleet
      recoverySince = .ok result) {u : Text} {target : DesiredAnnouncement}
    (htarget : result.desired[u]? = some target) :
    Publishable target.message ∧ Publishable target.knownHealthyMessage := by
  refine desired_forall (fun _ announcement =>
    Publishable announcement.message ∧
      Publishable announcement.knownHealthyMessage) h
    (fun _ _ => ⟨displayable_nil _, displayable_nil _⟩)
    (fun _ _ => ⟨displayable_nil _, displayable_nil _⟩) ?_ u target htarget
  intro _ previous groups decide announcement _ hannouncement
  obtain ⟨hhealthy, hmessage, -⟩ := announceGroups_eq_ok hannouncement
  have hfits := healthyMessage_publishable hhealthy
  exact ⟨announceMessage_publishable hfits hmessage, hfits⟩

end XrayChecker.Remnawave

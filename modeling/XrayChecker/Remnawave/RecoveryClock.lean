import XrayChecker.Remnawave.Deployment

/-
The recovery clocks of the announced locations: what a completed pass decides
for one squad, how it carries a clock over to the next pass, and which history
of passes a running clock stands for.
-/

namespace XrayChecker.Remnawave

open Go Checker Machine

/-- The pair through which an external squad is announced to. -/
def announcedPair (pairs : List SquadPair) (externalUUID : Text) :
    Option SquadPair :=
  pairs.find? fun pair =>
    !pair.monitoringOnly && pair.externalSquadUUID == externalUUID

/-- The locations evaluated for a pair, none without a pair. -/
def audienceGroups (audience : Audience) (policy : Policy) (fleet : Fleet)
    (pair : Option SquadPair) : GoMap Text GroupEvaluation :=
  match pair.bind fun pair =>
      audience.internalByUUID[pair.internalSquadUUID]? with
  | some squad => audience.groups policy fleet squad
  | none => ∅

/-- The key of a clock tells the squad and the location, as long as no squad
UUID holds the separator. -/
theorem recoveryKey_inj {u u' key key' : Text} (hu : '\x00' ∉ u)
    (hu' : '\x00' ∉ u') (h : recoveryKey u key = recoveryKey u' key') :
    u = u' ∧ key = key' := by
  induction u generalizing u' with
  | nil =>
      cases u' with
      | nil => exact ⟨rfl, (List.cons.inj h).2⟩
      | cons c rest =>
          rw [← (List.cons.inj h).1] at hu'
          exact absurd List.mem_cons_self hu'
  | cons c rest ih =>
      cases u' with
      | nil =>
          rw [(List.cons.inj h).1] at hu
          exact absurd List.mem_cons_self hu
      | cons c' rest' =>
          obtain ⟨hhead, htail⟩ := List.cons.inj h
          obtain ⟨hrest, hkey⟩ := ih (fun hmem => hu (.tail _ hmem))
            (fun hmem => hu' (.tail _ hmem)) htail
          exact ⟨by rw [hhead, hrest], hkey⟩

theorem recoveryKey_injective (u : Text) {key key' : Text}
    (h : recoveryKey u key = recoveryKey u key') : key = key' := by
  simpa [recoveryKey] using h

/-- The clocks of a squad are those its locations keep running, and the clocks
of other squads stay as they are. -/
theorem getElem?_keepRecovery {u : Text}
    (decide : Text → GroupEvaluation → GroupDecision)
    (groups : GoMap Text GroupEvaluation) {next : GoMap Text Time}
    (hnone : ∀ key, next[recoveryKey u key]? = none) :
    (∀ key, (keepRecovery u decide groups next)[recoveryKey u key]? =
        groups[key]?.bind fun group => (decide key group).recovering) ∧
      ∀ k, (∀ key, k ≠ recoveryKey u key) →
        (keepRecovery u decide groups next)[k]? = next[k]? := by
  suffices hloop : (∀ e ∈ groups.toList, groups[e.1]? = some e.2) ∧
      (∀ key since, (keepRecovery u decide groups next)[recoveryKey u key]? =
        some since ↔ ∃ group, (key, group) ∈ groups.toList ∧
          (decide key group).recovering = some since) ∧
      ∀ k, (∀ key, k ≠ recoveryKey u key) →
        (keepRecovery u decide groups next)[k]? = next[k]? by
    refine ⟨fun key => Option.ext fun since => ?_, hloop.2.2⟩
    rw [hloop.2.1, Option.bind_eq_some_iff]
    simp only [Std.ExtTreeMap.mem_toList_iff_getElem?_eq_some]
  refine foldl_invariant (fun done (acc : GoMap Text Time) =>
    (∀ e ∈ done, groups[e.1]? = some e.2) ∧
    (∀ key since, acc[recoveryKey u key]? = some since ↔
      ∃ group, (key, group) ∈ done ∧
        (decide key group).recovering = some since) ∧
    ∀ k, (∀ key, k ≠ recoveryKey u key) → acc[k]? = next[k]?)
    groups.toList ⟨by simp, by simp [hnone], fun _ _ => rfl⟩ ?_
  rintro done ⟨key, group⟩ acc hitem ⟨hdone, hacc, hother⟩
  rw [Std.ExtTreeMap.mem_toList_iff_getElem?_eq_some] at hitem
  refine ⟨?_, fun key' since => ?_, fun k hk => ?_⟩
  · intro e he
    rcases List.mem_append.mp he with hold | hnew
    · exact hdone e hold
    · rw [List.mem_singleton.mp hnew]
      exact hitem
  · have hsame : (∃ other, (key', other) ∈ done ++ [(key, group)] ∧
        (decide key' other).recovering = some since) ↔
        if key = key' then (decide key group).recovering = some since
        else acc[recoveryKey u key']? = some since := by
      split_ifs with hkey
      · subst hkey
        constructor
        · rintro ⟨other, hmem, hother⟩
          rcases List.mem_append.mp hmem with hold | hnew
          · obtain rfl := Option.some.inj ((hdone _ hold).symm.trans hitem)
            exact hother
          · obtain ⟨-, rfl⟩ := Prod.mk.inj (List.mem_singleton.mp hnew)
            exact hother
        · intro hgroup
          exact ⟨group, by simp, hgroup⟩
      · rw [hacc]
        simp [Ne.symm hkey]
    rw [hsame]
    dsimp only
    cases hrecovering : (decide key group).recovering with
    | none =>
        split_ifs with hkey
        · subst hkey
          dsimp only
          rw [hacc]
          simp only [iff_false, not_exists, not_and]
          intro other hmem
          obtain rfl := Option.some.inj ((hdone _ hmem).symm.trans hitem)
          rw [hrecovering]
          simp
        · rfl
    | some kept =>
        dsimp only
        rw [GoMap.get_insert]
        split_ifs with hkeys hkey hkey
        · rfl
        · exact absurd (recoveryKey_injective u hkeys) hkey
        · exact absurd (congrArg (recoveryKey u) hkey) hkeys
        · rfl
  · dsimp only
    cases (decide key group).recovering with
    | none => exact hother k hk
    | some kept =>
        dsimp only
        rw [GoMap.get_insert, if_neg (Ne.symm (hk key))]
        exact hother k hk

theorem announcedPair_eq_none {pairs : List SquadPair} {u : Text} :
    announcedPair pairs u = none ↔ u ∉ announceTargets pairs := by
  simp only [announcedPair, List.find?_eq_none, announceTargets, List.mem_map,
    List.mem_filter, Bool.and_eq_true, Bool.not_eq_true',
    beq_iff_eq, not_exists, not_and, and_imp]

theorem announcedPair_isSome {pairs : List SquadPair} {u : Text} :
    (announcedPair pairs u).isSome = true ↔ u ∈ announceTargets pairs := by
  rw [← not_iff_not, Bool.not_eq_true, Option.isSome_eq_false_iff,
    Option.isNone_iff_eq_none]
  exact announcedPair_eq_none

/-- The three lists of an announcement are what was decided about the evaluated
locations. -/
structure ListedBy (decide : Text → GroupEvaluation → GroupDecision)
    (groups : GoMap Text GroupEvaluation)
    (announcement : DesiredAnnouncement) : Prop where
  down : announcement.groups = listedLabels decide groups .groupDown
  partialAvailability :
    announcement.partialGroups = listedLabels decide groups .groupPartial
  maintenance : announcement.maintenanceGroups =
    listedLabels decide groups .groupMaintenance

theorem listedLabels_empty (decide : Text → GroupEvaluation → GroupDecision)
    (list : GroupState) : listedLabels decide ∅ list = ∅ := by
  apply Std.ExtTreeMap.ext_getElem?
  intro key
  simp [listedLabels]

/-- A squad that sees no location has nothing listed. -/
theorem listedBy_of_isEmpty {decide : Text → GroupEvaluation → GroupDecision}
    {groups : GoMap Text GroupEvaluation} (h : groups.isEmpty = true) :
    ListedBy decide groups {} := by
  rw [Std.ExtTreeMap.isEmpty_iff] at h
  rw [h]
  exact ⟨(listedLabels_empty _ _).symm, (listedLabels_empty _ _).symm,
    (listedLabels_empty _ _).symm⟩

section Pairs

variable {policy : Policy} {runtime : RuntimeFile} {audience : Audience}
    {fleet : Fleet} {recoverySince : GoMap Text Time}

/-- What the loop over the squad pairs has done for one squad. -/
structure PairsDone (policy : Policy) (runtime : RuntimeFile)
    (audience : Audience) (fleet : Fleet) (recoverySince : GoMap Text Time)
    (done : List SquadPair) (progress : DesiredProgress) (u : Text) :
    Prop where
  recovery : '\x00' ∉ u → ∀ key : Text,
    progress.nextRecovery[recoveryKey u key]? =
      (audienceGroups audience policy fleet (announcedPair done u))[key]?.bind
        fun group => (decideLocation policy fleet.now recoverySince u
          (runtime.managed[u]?.getD {}) key group).recovering
  listed : ∀ target, progress.desired[u]? = some target →
    ListedBy (decideLocation policy fleet.now recoverySince u
      (runtime.managed[u]?.getD {}))
      (audienceGroups audience policy fleet (announcedPair done u)) target
  found : (announcedPair done u).isSome = true →
    u ∈ progress.desired ∧ u ∈ audience.externalByUUID

/-- One iteration settles the squad of its pair and leaves the others. -/
theorem PairsDone.step {done : List SquadPair} {pair : SquadPair}
    {progress progress' : DesiredProgress}
    (hnul : pair.monitoringOnly = false → '\x00' ∉ pair.externalSquadUUID)
    (hfresh : pair.monitoringOnly = false →
      announcedPair done pair.externalSquadUUID = none)
    (h : ∀ u, PairsDone policy runtime audience fleet recoverySince done
      progress u)
    (hstep : desirePair policy runtime audience fleet recoverySince progress
      pair = .ok progress') (u : Text) :
    PairsDone policy runtime audience fleet recoverySince (done ++ [pair])
      progress' u := by
  have hgrow : announcedPair (done ++ [pair]) u = (announcedPair done u).or
      (if pair.monitoringOnly = false ∧ pair.externalSquadUUID = u then
        some pair else none) := by
    rw [announcedPair, List.find?_append, List.find?_singleton]
    simp [announcedPair]
  cases desirePair_cases hstep with
  | monitoring hpair hresult =>
      rw [hresult]
      have hsame : announcedPair (done ++ [pair]) u = announcedPair done u := by
        rw [hgrow, if_neg (by simp [hpair]), Option.or_none]
      constructor
      · rw [hsame]
        exact (h u).recovery
      · rw [hsame]
        exact (h u).listed
      · rw [hsame]
        exact (h u).found
  | desired squad announcement hpair hinternal hexternal hannouncement
      hdesired hrecovery =>
      have hnone : announcedPair done pair.externalSquadUUID = none :=
        hfresh hpair
      have hbefore (key : Text) :
          progress.nextRecovery[recoveryKey pair.externalSquadUUID key]? =
            none := by
        rw [(h _).recovery (hnul hpair), hnone]
        simp [audienceGroups]
      obtain ⟨hown, hother⟩ := getElem?_keepRecovery
        (decideLocation policy fleet.now recoverySince pair.externalSquadUUID
          (runtime.managed[pair.externalSquadUUID]?.getD {}))
        (audience.groups policy fleet squad) hbefore
      by_cases hu : pair.externalSquadUUID = u
      · subst hu
        have hgroups : audienceGroups audience policy fleet
            (announcedPair (done ++ [pair]) pair.externalSquadUUID) =
              audience.groups policy fleet squad := by
          rw [hgrow, hnone, if_pos ⟨hpair, rfl⟩, Option.none_or]
          simp [audienceGroups, hinternal]
        constructor
        · intro _ key
          rw [hrecovery, hgroups]
          exact hown key
        · intro target htarget
          rw [hdesired, GoMap.get_insert, if_pos rfl] at htarget
          obtain rfl := Option.some.inj htarget
          rw [hgroups]
          rcases hannouncement with ⟨hempty, rfl⟩ | ⟨-, hannouncement⟩
          · exact listedBy_of_isEmpty hempty
          · obtain ⟨-, -, hgroups, hpartly, hmaintenance⟩ :=
              announceGroups_eq_ok hannouncement
            exact ⟨hgroups, hpartly, hmaintenance⟩
        · intro _
          rw [hdesired]
          exact ⟨Std.ExtTreeMap.mem_insert_self, hexternal⟩
      · have hsame : announcedPair (done ++ [pair]) u =
            announcedPair done u := by
          rw [hgrow, if_neg (fun hboth => hu hboth.2), Option.or_none]
        constructor
        · intro hclean key
          rw [hrecovery, hsame, hother, (h u).recovery hclean]
          intro key' hkey
          exact hu (recoveryKey_inj (hnul hpair) hclean hkey.symm).1
        · rw [hsame, hdesired, GoMap.get_insert, if_neg hu]
          exact (h u).listed
        · rw [hsame, hdesired, Std.ExtTreeMap.mem_insert]
          exact fun hsome =>
            ⟨.inr ((h u).found hsome).1, ((h u).found hsome).2⟩

theorem pairsDone {pairs : List SquadPair}
    {start : GoMap Text DesiredAnnouncement} {result : DesiredProgress}
    (hnul : ∀ u ∈ announceTargets pairs, '\x00' ∉ u)
    (hnodup : (announceTargets pairs).Nodup)
    (hstart : ∀ (u : Text) (target : DesiredAnnouncement),
      start[u]? = some target → target = {})
    (hrun : pairs.foldlM
      (desirePair policy runtime audience fleet recoverySince)
      { desired := start } = .ok result) (u : Text) :
    PairsDone policy runtime audience fleet recoverySince pairs result u := by
  refine foldlM_prefix_invariant (fun done progress => ∀ u,
    PairsDone policy runtime audience fleet recoverySince done progress u)
    hrun ?_ ?_ u
  · intro u
    refine ⟨fun _ key => ?_, fun target htarget => ?_,
      fun hnone => nomatch hnone⟩
    · simp [announcedPair, audienceGroups]
    · rw [hstart u target htarget]
      exact listedBy_of_isEmpty rfl
  · intro done pair rest progress progress' hpairs hdone hstep
    have htargets : announceTargets pairs = announceTargets done ++
        announceTargets (pair :: rest) := by
      rw [hpairs]
      simp [announceTargets]
    have htarget (hpair : pair.monitoringOnly = false) :
        pair.externalSquadUUID ∈ announceTargets (pair :: rest) := by
      simp [announceTargets, hpair]
    refine PairsDone.step (fun hpair => ?_) (fun hpair => ?_) hdone hstep
    · refine hnul _ ?_
      rw [htargets]
      exact List.mem_append_right _ (htarget hpair)
    · rw [announcedPair_eq_none]
      intro hold
      rw [htargets, List.nodup_append] at hnodup
      exact hnodup.2.2 _ hold _ (htarget hpair) rfl

end Pairs

/-- No squad to be announced has the separator of the clock keys in its
UUID. -/
def SeparableTargets (config : ConfigFile) : Prop :=
  ∀ u ∈ announceTargets config.squadPairs, '\x00' ∉ u

instance (config : ConfigFile) : Decidable (SeparableTargets config) :=
  inferInstanceAs
    (Decidable (∀ u ∈ announceTargets config.squadPairs, '\x00' ∉ u))

/-- The locations a pass evaluates for a squad. -/
def passGroups (s : Service) (input : PassInput)
    (squads : List ExternalSquad) (externalUUID : Text) :
    GoMap Text GroupEvaluation :=
  match effectiveLocations s.config with
  | .error _ => ∅
  | .ok locations =>
      if s.config.policy.enabled then
        audienceGroups
          (indexAudience { s.topology with externalSquads := sortByName squads }
            locations (passFleet s input))
          s.config.policy (passFleet s input)
          (announcedPair s.config.squadPairs externalUUID)
      else ∅

/-- What a pass decides about the locations of a squad. -/
def passDecision (s : Service) (input : PassInput) (externalUUID : Text) :
    Text → GroupEvaluation → GroupDecision :=
  decideLocation s.config.policy input.now s.recoverySince externalUUID
    (s.runtime.managed[externalUUID]?.getD {})

/-- A pass that gets as far as the panel updates. -/
def Completed (s : Service) (input : PassInput)
    (squads : List ExternalSquad) (desired : DesiredProgress) : Prop :=
  s.runtimeOK = true ∧ input.externalSquads = .ok squads ∧
    passDesired s input squads = .ok desired

theorem Completed.unique {s : Service} {input : PassInput}
    {squads squads' : List ExternalSquad} {desired desired' : DesiredProgress}
    (h : Completed s input squads desired)
    (h' : Completed s input squads' desired') :
    squads' = squads ∧ desired' = desired := by
  obtain ⟨-, hsquads, hdesired⟩ := h
  obtain ⟨-, hsquads', hdesired'⟩ := h'
  rw [hsquads] at hsquads'
  obtain rfl := Except.ok.inj hsquads'
  rw [hdesired] at hdesired'
  exact ⟨rfl, (Except.ok.inj hdesired').symm⟩

/-- A completed pass evaluates a location for a squad. -/
def Sees (s : Service) (input : PassInput) (externalUUID key : Text)
    (group : GroupEvaluation) : Prop :=
  ∃ squads desired, Completed s input squads desired ∧
    (passGroups s input squads externalUUID)[key]? = some group

theorem mem_announceTargets_of_passGroups {s : Service} {input : PassInput}
    {squads : List ExternalSquad} {u key : Text} {group : GroupEvaluation}
    (h : (passGroups s input squads u)[key]? = some group) :
    s.config.policy.enabled = true ∧
      u ∈ announceTargets s.config.squadPairs := by
  unfold passGroups at h
  split at h
  · simp at h
  · split_ifs at h with henabled
    · refine ⟨henabled, announcedPair_isSome.mp ?_⟩
      cases hpair : announcedPair s.config.squadPairs u with
      | none => simp [hpair, audienceGroups] at h
      | some pair => rfl
    · simp at h

/-- A completed pass, for one squad: the clocks it leaves running, and the
lists of its announcement. -/
theorem Completed.pairsDone {s : Service} {input : PassInput}
    {squads : List ExternalSquad} {desired : DesiredProgress}
    (h : Completed s input squads desired) (hconfig : ValidConfig s.config)
    (hseparable : SeparableTargets s.config) (u : Text) :
    ('\x00' ∉ u → ∀ key : Text, desired.nextRecovery[recoveryKey u key]? =
      (passGroups s input squads u)[key]?.bind fun group =>
        (passDecision s input u key group).recovering) ∧
      (∀ target, desired.desired[u]? = some target →
        ListedBy (passDecision s input u) (passGroups s input squads u)
          target) ∧
      ((passGroups s input squads u).isEmpty = false →
        ∃ target squad, Reached s input u target squad) := by
  have hmanaged (u : Text) (target : DesiredAnnouncement)
      (h : (s.runtime.managed.map fun _ _ => ({} : DesiredAnnouncement))[u]? =
        some target) : target = {} := by
    rw [Std.ExtTreeMap.getElem?_map, Option.map_eq_some_iff] at h
    obtain ⟨_, -, rfl⟩ := h
    rfl
  rcases computeDesiredAnnouncements_eq_ok h.2.2 with
    ⟨hdisabled, rfl⟩ | ⟨locations, hlocations, henabled, hloop⟩
  · have hnone : passGroups s input squads u = ∅ := by
      unfold passGroups
      split
      · rfl
      · simp [hdisabled]
    rw [hnone]
    refine ⟨by simp, fun target htarget => ?_, by simp⟩
    rw [hmanaged u target htarget]
    exact listedBy_of_isEmpty rfl
  · have hgroups : passGroups s input squads u =
        audienceGroups
          (indexAudience { s.topology with externalSquads := sortByName squads }
            locations (passFleet s input))
          s.config.policy (passFleet s input)
          (announcedPair s.config.squadPairs u) := by
      rw [passGroups, hlocations]
      exact if_pos henabled
    have hdone := Remnawave.pairsDone hseparable hconfig.pairs_spec.2 hmanaged
      hloop u
    rw [hgroups]
    refine ⟨hdone.recovery, hdone.listed, fun hnonempty => ?_⟩
    have hpair : (announcedPair s.config.squadPairs u).isSome = true := by
      cases hpair : announcedPair s.config.squadPairs u with
      | none => simp [hpair, audienceGroups] at hnonempty
      | some pair => rfl
    obtain ⟨htarget, hsquad⟩ := hdone.found hpair
    rw [Std.ExtTreeMap.mem_iff_isSome_getElem?, Option.isSome_iff_exists]
      at htarget hsquad
    obtain ⟨target, htarget⟩ := htarget
    obtain ⟨squad, hsquad⟩ := hsquad
    exact ⟨target, squad, h.1, squads, desired, h.2.1, h.2.2, htarget, hsquad⟩

/-- The states of a location that let its recovery go on. -/
def GroupState.recovers : GroupState → Bool
  | .groupHealthy => true
  | .groupPartial => true
  | _ => false

/-- How bad the list is that a location is announced on. -/
def severity : Option GroupState → Nat
  | some .groupDown => 2
  | some .groupMaintenance => 2
  | some .groupPartial => 1
  | _ => 0

/-- The list a squad's ownership record has a location on. -/
def Service.recordedState (s : Service) (externalUUID key : Text) :
    Option GroupState :=
  previousGroupState (s.runtime.managed[externalUUID]?.getD {}) key

/-- The list an announcement has a location on. -/
def DesiredAnnouncement.state (target : DesiredAnnouncement) (key : Text) :
    Option GroupState :=
  if target.groups.contains key then some .groupDown
  else if target.partialGroups.contains key then some .groupPartial
  else if target.maintenanceGroups.contains key then some .groupMaintenance
  else none

/-- Everything a pass can decide about one location. -/
inductive DecisionCase (policy : Policy) (now : Time)
    (previous : Option GroupState) (running : Option Time)
    (state : GroupState) : GroupDecision → Prop where
  | down (hstate : state = .groupDown) :
      DecisionCase _ _ _ _ _ { listed := some .groupDown }
  | maintenance (hstate : state = .groupMaintenance) :
      DecisionCase _ _ _ _ _ { listed := some .groupMaintenance }
  | partialAvailability (hstate : state = .groupPartial)
      (hdown : previous ≠ some .groupDown)
      (hmaintenance : previous ≠ some .groupMaintenance) :
      DecisionCase _ _ _ _ _ { listed := some .groupPartial }
  | unlisted (hprevious : previous = none) : DecisionCase _ _ _ _ _ {}
  | held (before : GroupState) (hprevious : previous = some before)
      (hstate : state.recovers = true)
      (hearly :
        now.sub (running.getD now) < minutes policy.recoveryMinutes) :
      DecisionCase _ _ _ _ _
        { listed := some before, recovering := some (running.getD now) }
  | eased (before : GroupState) (hprevious : previous = some before)
      (hstate : state = .groupPartial)
      (helapsed :
        minutes policy.recoveryMinutes ≤ now.sub (running.getD now)) :
      DecisionCase _ _ _ _ _ { listed := some .groupPartial }
  | recovered (before : GroupState) (hprevious : previous = some before)
      (hstate : state = .groupHealthy)
      (helapsed :
        minutes policy.recoveryMinutes ≤ now.sub (running.getD now)) :
      DecisionCase _ _ _ _ _ {}
  | kept (before : GroupState) (hprevious : previous = some before)
      (hstate : state.recovers = false) :
      DecisionCase _ _ _ _ _ { listed := some before }

theorem decideGroup_cases (policy : Policy) (now : Time)
    (previous : Option GroupState) (running : Option Time)
    (state : GroupState) :
    DecisionCase policy now previous running state
      (decideGroup policy now previous running state) := by
  unfold decideGroup
  split
  · rename_i hstate
    exact .down hstate
  · rename_i hdown
    split
    · rename_i hstate
      exact .maintenance hstate
    · rename_i hmaintenance
      split
      · rename_i hpartly
        exact .partialAvailability hpartly.1 hpartly.2.1 hpartly.2.2
      · cases previous with
        | none => exact .unlisted rfl
        | some before =>
            dsimp only
            split
            · rename_i hstate
              split
              · rename_i hearly
                refine .held before rfl ?_ hearly
                rcases hstate with rfl | rfl <;> rfl
              · rename_i helapsed
                rcases hstate with rfl | rfl
                · exact .recovered before rfl rfl (not_lt.mp helapsed)
                · exact .eased before rfl rfl (not_lt.mp helapsed)
            · rename_i hstate
              refine .kept before rfl ?_
              cases state <;> simp_all [GroupState.recovers]

/-- A clock that a decision keeps was running, or starts with the pass, and the
location is recovering. -/
theorem decideGroup_recovering {policy : Policy} {now since : Time}
    {previous : Option GroupState} {running : Option Time}
    {state : GroupState}
    (h : (decideGroup policy now previous running state).recovering =
      some since) :
    state.recovers = true ∧ since = running.getD now := by
  generalize hdecision : decideGroup policy now previous running state =
    decision at h
  have hcase := decideGroup_cases policy now previous running state
  rw [hdecision] at hcase
  cases hcase with
  | held before _ hstate _ => exact ⟨hstate, (Option.some.inj h).symm⟩
  | down _ => cases h
  | maintenance _ => cases h
  | partialAvailability _ _ _ => cases h
  | unlisted _ => cases h
  | eased _ _ _ _ => cases h
  | recovered _ _ _ _ => cases h
  | kept _ _ _ => cases h

/-- A decision betters a location only when it recovers and its clock has run
out. -/
theorem decideGroup_betters {policy : Policy} {now : Time}
    {previous : Option GroupState} {running : Option Time}
    {state : GroupState} (hpolicy : 0 < minutes policy.recoveryMinutes)
    (h : severity (decideGroup policy now previous running state).listed <
      severity previous) :
    state.recovers = true ∧ ∃ since, running = some since ∧
      minutes policy.recoveryMinutes ≤ now.sub since := by
  have hworst (list : Option GroupState) : severity list ≤ 2 := by
    unfold severity
    split <;> omega
  have hclock (helapsed :
      minutes policy.recoveryMinutes ≤ now.sub (running.getD now)) :
      ∃ since, running = some since ∧
        minutes policy.recoveryMinutes ≤ now.sub since := by
    cases running with
    | none =>
        rw [Option.getD_none, Time.sub, sub_self] at helapsed
        omega
    | some since => exact ⟨since, rfl, helapsed⟩
  generalize hdecision : decideGroup policy now previous running state =
    decision at h
  have hcase := decideGroup_cases policy now previous running state
  rw [hdecision] at hcase
  cases hcase with
  | down _ => exact absurd h (not_lt.mpr (hworst previous))
  | maintenance _ => exact absurd h (not_lt.mpr (hworst previous))
  | partialAvailability _ hdown hmaintenance =>
      refine absurd h (not_lt.mpr ?_)
      cases previous with
      | none => exact Nat.zero_le _
      | some before => cases before <;> simp_all [severity]
  | unlisted hprevious =>
      rw [hprevious] at h
      exact absurd h (Nat.lt_irrefl _)
  | held before hprevious _ _ =>
      rw [hprevious] at h
      exact absurd h (Nat.lt_irrefl _)
  | kept before hprevious _ =>
      rw [hprevious] at h
      exact absurd h (Nat.lt_irrefl _)
  | eased before _ hstate helapsed =>
      exact ⟨by rw [hstate]; rfl, hclock helapsed⟩
  | recovered before _ hstate helapsed =>
      exact ⟨by rw [hstate]; rfl, hclock helapsed⟩

/-- A decision puts a location on one of the three lists or on none. -/
theorem decideGroup_listed {policy : Policy} {now : Time}
    {previous : ManagedAnnouncement} {key : Text} {running : Option Time}
    {state list : GroupState}
    (h : (decideGroup policy now (previousGroupState previous key) running
      state).listed = some list) :
    list = .groupDown ∨ list = .groupPartial ∨ list = .groupMaintenance := by
  have hbefore (before : GroupState)
      (hprevious : previousGroupState previous key = some before) :
      before = .groupDown ∨ before = .groupPartial ∨
        before = .groupMaintenance := by
    unfold previousGroupState at hprevious
    split_ifs at hprevious <;> simp_all
  generalize hdecision : decideGroup policy now
    (previousGroupState previous key) running state = decision at h
  have hcase := decideGroup_cases policy now
    (previousGroupState previous key) running state
  rw [hdecision] at hcase
  cases hcase with
  | down _ => exact .inl (Option.some.inj h).symm
  | maintenance _ => exact .inr (.inr (Option.some.inj h).symm)
  | partialAvailability _ _ _ => exact .inr (.inl (Option.some.inj h).symm)
  | eased _ _ _ _ => exact .inr (.inl (Option.some.inj h).symm)
  | unlisted _ => cases h
  | recovered _ _ _ _ => cases h
  | held before hprevious _ _ =>
      obtain rfl := Option.some.inj h
      exact hbefore _ hprevious
  | kept before hprevious _ =>
      obtain rfl := Option.some.inj h
      exact hbefore _ hprevious

/-- An announcement has a location where the decision put it. -/
theorem ListedBy.state {s : Service} {input : PassInput} {u : Text}
    {groups : GoMap Text GroupEvaluation} {target : DesiredAnnouncement}
    (h : ListedBy (passDecision s input u) groups target) (key : Text) :
    target.state key =
      groups[key]?.bind fun group => (passDecision s input u key
        group).listed :=
    by
  have hlist (list : GroupState) :
      (listedLabels (passDecision s input u) groups list).contains key =
        groups[key]?.any fun group =>
          (passDecision s input u key group).listed = some list := by
    rw [listedLabels, Std.ExtTreeMap.contains_eq_isSome_getElem?,
      Std.ExtTreeMap.getElem?_filterMap']
    cases groups[key]? with
    | none => rfl
    | some group =>
        simp only [Option.bind_some, Option.any_some]
        split <;> simp_all
  rw [DesiredAnnouncement.state, h.down, h.partialAvailability, h.maintenance,
    hlist, hlist, hlist]
  cases groups[key]? with
  | none => rfl
  | some group =>
      simp only [Option.any_some, Option.bind_some, decide_eq_true_eq]
      cases hlisted : (passDecision s input u key group).listed with
      | none => rfl
      | some list =>
          rcases decideGroup_listed hlisted with rfl | rfl | rfl <;> rfl

/-- A completed pass finds a location healthy, or healthy in part. -/
def SeesRecovering (s : Service) (input : PassInput)
    (externalUUID key : Text) : Prop :=
  ∃ group, Sees s input externalUUID key group ∧ group.state.recovers = true

/-- A step is not a completed pass that finds the location otherwise. -/
def KeepsRecovering (externalUUID key : Text) (taken : Service × Event) :
    Prop :=
  ∀ input, taken.2 = .reconcile input →
    (∃ squads desired, Completed taken.1 input squads desired) →
      SeesRecovering taken.1 input externalUUID key

/-- The steps of a run show a location recovering since an instant: a completed
pass saw it recovering then, and so did every completed pass after it. -/
def RecoveringSince (past : List (Service × Event)) (externalUUID key : Text)
    (since : Time) : Prop :=
  ∃ before s input after, past = before ++ (s, .reconcile input) :: after ∧
    input.now = since ∧ SeesRecovering s input externalUUID key ∧
    ∀ taken ∈ after, KeepsRecovering externalUUID key taken

theorem RecoveringSince.snoc {past : List (Service × Event)} {u key : Text}
    {since : Time} (h : RecoveringSince past u key since)
    {taken : Service × Event} (hstep : KeepsRecovering u key taken) :
    RecoveringSince (past ++ [taken]) u key since := by
  obtain ⟨before, s, input, after, hpast, hsince, hsees, hafter⟩ := h
  refine ⟨before, s, input, after ++ [taken], by simp [hpast], hsince, hsees,
    ?_⟩
  intro other hother
  rcases List.mem_append.mp hother with hold | hnew
  · exact hafter other hold
  · rw [List.mem_singleton.mp hnew]
    exact hstep

/-- The recovery clocks of a service, against the run that led to it. -/
structure ClocksTell (past : List (Service × Event)) (s : Service) : Prop where
  sound : s.Sound
  separable : SeparableTargets s.config
  clocks : ∀ u key : Text, '\x00' ∉ u → ∀ since,
    s.recoverySince[recoveryKey u key]? = some since →
      RecoveringSince past u key since

/-- Settings that are saved name squads that can be told apart. -/
def Event.Separable : Event → Prop
  | .configure config => SeparableTargets config
  | _ => True

theorem restart_recoverySince (s : Service) : (restart s).recoverySince =
    ∅ := by
  unfold restart loadRuntime
  split <;> rfl

theorem recoveryMinutes_pos {s : Service} (h : s.Sound) :
    0 < minutes s.config.policy.recoveryMinutes := by
  have hpolicy := (validateConfig_eq_ok.mp h.config).policy
  simp only [validatePolicy, bind_unit_eq_ok, reject_eq_ok,
    Bool.or_eq_false_iff, decide_eq_false_iff_not] at hpolicy
  exact minutes_pos (by omega)

/-- A clock that a completed pass leaves running was found running or starts
with the pass, and the pass saw the location recovering. -/
theorem reconcileNow_recoverySince {s : Service} {input : PassInput}
    (hsound : s.Sound) (hseparable : SeparableTargets s.config)
    {u : Text} (hu : '\x00' ∉ u) {squads : List ExternalSquad}
    {desired : DesiredProgress} (hcompleted : Completed s input squads desired)
    (key : Text) :
    (reconcileNow s input).service.recoverySince[recoveryKey u key]? =
      (passGroups s input squads u)[key]?.bind fun group =>
        (passDecision s input u key group).recovering := by
  cases reconcileNow_cases s input with
  | skipped hwhy =>
      obtain ⟨hready, hsquads, hdesired⟩ := hcompleted
      rcases hwhy with hbad | ⟨cause, hcause⟩ | ⟨others, cause, hothers, hcause⟩
      · rw [hready] at hbad
        cases hbad
      · rw [hsquads] at hcause
        cases hcause
      · rw [hsquads] at hothers
        obtain rfl := Except.ok.inj hothers
        rw [hdesired] at hcause
        cases hcause
  | completed squads' desired' hready hsquads hdesired _ _ _ hrecovery =>
      obtain ⟨rfl, rfl⟩ :=
        hcompleted.unique ⟨hready, hsquads, hdesired⟩
      rw [hrecovery]
      exact (hcompleted.pairsDone (validateConfig_eq_ok.mp hsound.config)
        hseparable u).1 hu key

/-- Step lemma: every event keeps the clocks truthful. -/
theorem ClocksTell.next {past : List (Service × Event)} {s : Service}
    (h : ClocksTell past s) {e : Event} (hformed : e.WellFormed)
    (hseparable : e.Separable) :
    ClocksTell (past ++ [(s, e)]) (s.next e) := by
  have hsound : (s.next e).Sound := h.sound.next hformed
  have hquiet (hnopass : ∀ input, e ≠ .reconcile input)
      (hclocks : (s.next e).recoverySince = s.recoverySince) :
      ∀ u key : Text, '\x00' ∉ u → ∀ since,
        (s.next e).recoverySince[recoveryKey u key]? = some since →
          RecoveringSince (past ++ [(s, e)]) u key since := by
    intro u key hu since hsince
    rw [hclocks] at hsince
    exact (h.clocks u key hu since hsince).snoc
      fun input he => absurd he (hnopass input)
  have hcleared (hclocks : (s.next e).recoverySince = ∅) :
      ∀ u key : Text, '\x00' ∉ u → ∀ since,
        (s.next e).recoverySince[recoveryKey u key]? = some since →
          RecoveringSince (past ++ [(s, e)]) u key since := by
    intro u key _ since hsince
    rw [hclocks] at hsince
    simp at hsince
  cases e with
  | configure config =>
      exact ⟨hsound, hseparable, hquiet (fun _ he => nomatch he) rfl⟩
  | refresh topology =>
      exact ⟨hsound, h.separable, hquiet (fun _ he => nomatch he) rfl⟩
  | observe source =>
      exact ⟨hsound, h.separable, hquiet (fun _ he => nomatch he) rfl⟩
  | restart =>
      refine ⟨hsound, ?_, hcleared (restart_recoverySince s)⟩
      change SeparableTargets (Remnawave.restart s).config
      rw [restart_config]
      exact h.separable
  | lose =>
      refine ⟨hsound, ?_, hcleared (restart_recoverySince _)⟩
      change SeparableTargets (Remnawave.restart _).config
      rw [restart_config]
      exact h.separable
  | reconcile input =>
      refine ⟨hsound, ?_, ?_⟩
      · change SeparableTargets (reconcileNow s input).service.config
        rw [reconcileNow_config]
        exact h.separable
      · intro u key hu since hsince
        change (reconcileNow s input).service.recoverySince[_]? = _ at hsince
        by_cases hdone : ∃ squads desired, Completed s input squads desired
        · obtain ⟨squads, desired, hcompleted⟩ := hdone
          rw [reconcileNow_recoverySince h.sound h.separable hu hcompleted,
            Option.bind_eq_some_iff] at hsince
          obtain ⟨group, hgroup, hrecovering⟩ := hsince
          obtain ⟨hstate, hclock⟩ := decideGroup_recovering hrecovering
          have hsees : SeesRecovering s input u key :=
            ⟨group, ⟨squads, desired, hcompleted, hgroup⟩, hstate⟩
          cases hrunning : s.recoverySince[recoveryKey u key]? with
          | none =>
              rw [hrunning, Option.getD_none] at hclock
              exact ⟨past, s, input, [], rfl, hclock.symm, hsees,
                fun _ hnone => nomatch hnone⟩
          | some running =>
              rw [hrunning, Option.getD_some] at hclock
              rw [hclock]
              refine (h.clocks u key hu running hrunning).snoc ?_
              intro input' hinput'
              obtain rfl := Event.reconcile.inj hinput'
              exact fun _ => hsees
        · have hkept : (reconcileNow s input).service.recoverySince =
              s.recoverySince := by
            cases reconcileNow_cases s input with
            | skipped _ _ _ hrecovery => exact hrecovery
            | completed squads desired hready hsquads hdesired =>
                exact absurd ⟨squads, desired, hready, hsquads, hdesired⟩ hdone
          rw [hkept] at hsince
          refine (h.clocks u key hu since hsince).snoc ?_
          intro input' hinput' hcompleted
          obtain rfl := Event.reconcile.inj hinput'
          exact absurd hcompleted hdone

/-- Run lemma: in a service that started without clocks, every running clock
tells since when the passes have seen its location recovering. -/
theorem clocksTell_run {start : Service} {events : List Event}
    (hsound : start.Sound) (hseparable : SeparableTargets start.config)
    (hclocks : start.recoverySince = ∅)
    (hrun : Admissible Service.next
      (fun _ e => e.WellFormed ∧ e.Separable) start events) :
    ClocksTell (steps Service.next start events)
      (run Service.next start events) := by
  refine history_invariant ClocksTell hrun
    ⟨hsound, hseparable, fun u key _ since hsince => ?_⟩
    fun past s e h he => h.next he.1 he.2
  rw [hclocks] at hsince
  simp at hsince

end XrayChecker.Remnawave

import XrayChecker.Go.Submap
import XrayChecker.Remnawave.Deployment

/-
The notices about squads the checker cannot write to.  A blocking episode of a
squad starts with its first blocking conflict and ends when the squad is
managed again, leaves the configured pairs or leaves the panel.  The passes are
compared with it squad by squad.
-/

namespace XrayChecker.Remnawave

open Go Machine

section Track

variable (hasNotifier : Bool) (conflicts : GoMap Text ConflictState)
    (current : GoMap Text SquadConflict)
    (managed : GoMap Text ManagedAnnouncement)
    (desired : GoMap Text DesiredAnnouncement)
    (externalByUUID : GoMap Text ExternalSquad) (now : Time)

/-- The remembered conflicts after the loop over the current ones. -/
def rememberedConflicts : GoMap Text ConflictState :=
  current.toList.foldl (rememberConflict now) conflicts

/-- Whether the second loop leaves a remembered conflict alone. -/
def stillBlocked (externalUUID : Text) : Bool :=
  current.contains externalUUID ||
    (externalByUUID.contains externalUUID && desired.contains externalUUID &&
      !managed.contains externalUUID)

/-- The notice about one remembered conflict, if there is one. -/
def squadNotice (externalUUID : Text) (state : ConflictState) :
    Option ConflictNotice :=
  if !hasNotifier then none
  else if stillBlocked current managed desired externalByUUID externalUUID then
    if dueConflict now state then
      some (.announceConflict state.name (conflictReason state.kind)
        state.since)
    else none
  else if managed.contains externalUUID && state.notified then
    some (.announceConflictResolved state.name state.since)
  else none

/-- The notices `trackConflicts` sends, each with its squad: first of the
conflicts that are resolved, then of the ones that have become due. -/
def squadNotices : List (Text × ConflictNotice) :=
  let remembered := rememberedConflicts conflicts current now
  let notice := fun (entry : Text × ConflictState) =>
    (squadNotice hasNotifier current managed desired externalByUUID now entry.1
      entry.2).map fun notice => (entry.1, notice)
  let blocked := fun (entry : Text × ConflictState) =>
    stillBlocked current managed desired externalByUUID entry.1
  (remembered.toList.filter fun entry => !blocked entry).filterMap notice ++
    (remembered.toList.filter blocked).filterMap notice

/-- The notices about one squad. -/
def noticesFor (externalUUID : Text) (notices : List (Text × ConflictNotice)) :
    List ConflictNotice :=
  notices.filterMap fun notice =>
    if notice.1 = externalUUID then some notice.2 else none

theorem trackConflicts_notices :
    (trackConflicts hasNotifier conflicts current managed desired
        externalByUUID now).2 =
      (squadNotices hasNotifier conflicts current managed desired
        externalByUUID now).map Prod.snd := by
  have hresolved (entries : List (Text × ConflictState)) :
      (entries.filterMap fun entry =>
        if !stillBlocked current managed desired externalByUUID entry.1 &&
            managed.contains entry.1 && entry.2.notified && hasNotifier then
          some (ConflictNotice.announceConflictResolved entry.2.name
            entry.2.since)
        else none) =
      ((entries.filter fun entry => !stillBlocked current managed desired
        externalByUUID entry.1).filterMap fun entry =>
          (squadNotice hasNotifier current managed desired externalByUUID now
            entry.1 entry.2).map fun notice => (entry.1, notice)).map
        Prod.snd := by
    rw [List.map_filterMap, List.filterMap_filter]
    refine List.filterMap_congr fun entry _ => ?_
    rw [squadNotice]
    cases stillBlocked current managed desired externalByUUID entry.1 <;>
      cases hasNotifier <;> cases managed.contains entry.1 <;>
        cases entry.2.notified <;> rfl
  have hdue (entries : List (Text × ConflictState)) :
      (if !hasNotifier then []
      else ((entries.filter fun entry => stillBlocked current managed desired
          externalByUUID entry.1).filter fun entry =>
            dueConflict now entry.2).map fun entry =>
        ConflictNotice.announceConflict entry.2.name
          (conflictReason entry.2.kind) entry.2.since) =
      ((entries.filter fun entry => stillBlocked current managed desired
        externalByUUID entry.1).filterMap fun entry =>
          (squadNotice hasNotifier current managed desired externalByUUID now
            entry.1 entry.2).map fun notice => (entry.1, notice)).map
        Prod.snd := by
    induction entries with
    | nil => cases hasNotifier <;> rfl
    | cons entry entries ih =>
        cases hblocked : stillBlocked current managed desired externalByUUID
          entry.1 with
        | false => simpa [List.filter_cons, hblocked] using ih
        | true =>
            cases hasNotifier <;> cases hentry : dueConflict now entry.2 <;>
              simp_all [squadNotice]
  have hall := congrArg₂ (· ++ ·)
    (hresolved (rememberedConflicts conflicts current now).toList)
    (hdue (rememberedConflicts conflicts current now).toList)
  rw [squadNotices, List.map_append, ← hall]
  unfold trackConflicts
  cases hasNotifier with
  | false => exact (List.append_nil _).symm
  | true =>
      simp only [Bool.not_true, Bool.false_eq_true, if_false,
        Std.ExtTreeMap.toList_filter]
      rfl

/-- The conflicts remembered at one squad. -/
theorem rememberedConflicts_get (externalUUID : Text) :
    (rememberedConflicts conflicts current now)[externalUUID]? =
      match current[externalUUID]? with
      | none => conflicts[externalUUID]?
      | some conflict =>
          (rememberConflict now conflicts
            (externalUUID, conflict))[externalUUID]? := by
  have hother (entries : List (Text × SquadConflict))
      (hentries : ∀ entry ∈ entries, entry.1 ≠ externalUUID)
      (conflicts : GoMap Text ConflictState) :
      (entries.foldl (rememberConflict now) conflicts)[externalUUID]? =
        conflicts[externalUUID]? := by
    induction entries generalizing conflicts with
    | nil => rfl
    | cons entry entries ih =>
        rw [List.foldl_cons, ih fun other hmem =>
          hentries other (List.mem_cons_of_mem _ hmem), rememberConflict]
        split
        · rfl
        · rw [GoMap.get_insert, if_neg (hentries entry List.mem_cons_self)]
  have hsame (conflicts other : GoMap Text ConflictState)
      (h : conflicts[externalUUID]? = other[externalUUID]?)
      (conflict : SquadConflict) :
      (rememberConflict now conflicts (externalUUID, conflict))[externalUUID]? =
        (rememberConflict now other
          (externalUUID, conflict))[externalUUID]? := by
    unfold rememberConflict
    split
    · exact h
    · rw [GoMap.get_insert, GoMap.get_insert, if_pos rfl, if_pos rfl, h]
  rw [rememberedConflicts]
  cases hfound : current[externalUUID]? with
  | none =>
      refine hother _ (fun entry hentry heq => ?_) conflicts
      have hget := Std.ExtTreeMap.mem_toList_iff_getElem?_eq_some.mp hentry
      rw [heq, hfound] at hget
      cases hget
  | some conflict =>
      obtain ⟨front, back, hsplit, hfront, hback⟩ :=
        GoMap.toList_split current hfound
      rw [hsplit, List.foldl_append, List.foldl_cons, hother back hback]
      exact hsame _ _ (hother front hfront conflicts) conflict

/-- What the pass leaves remembered at one squad. -/
theorem trackConflicts_get (externalUUID : Text) :
    (trackConflicts hasNotifier conflicts current managed desired
        externalByUUID now).1[externalUUID]? =
      if stillBlocked current managed desired externalByUUID externalUUID then
        ((rememberedConflicts conflicts current now)[externalUUID]?).map
          fun state =>
            if hasNotifier && dueConflict now state then
              { state with notified := true }
            else state
      else none := by
  have hkept : ((rememberedConflicts conflicts current now).filter
      fun externalUUID _ => stillBlocked current managed desired
        externalByUUID externalUUID)[externalUUID]? =
      if stillBlocked current managed desired externalByUUID externalUUID then
        (rememberedConflicts conflicts current now)[externalUUID]?
      else none := by
    rw [Std.ExtTreeMap.getElem?_filter']
    cases (rememberedConflicts conflicts current now)[externalUUID]? with
    | none => split <;> rfl
    | some state =>
        cases stillBlocked current managed desired externalByUUID externalUUID
          <;> rfl
  unfold trackConflicts
  cases hasNotifier with
  | false =>
      refine hkept.trans ?_
      split
      · simp only [Bool.false_and, Bool.false_eq_true, if_false,
          Option.map_id']
      · rfl
  | true =>
      simp only [Bool.not_true, Bool.false_eq_true, if_false, Bool.true_and]
      rw [Std.ExtTreeMap.getElem?_map]
      change Option.map _ (((rememberedConflicts conflicts current now).filter
        fun externalUUID _ => stillBlocked current managed desired
          externalByUUID externalUUID)[externalUUID]?) = _
      rw [hkept]
      split <;> rfl

/-- The notice of a pass about one squad. -/
theorem noticesFor_squadNotices (externalUUID : Text) :
    noticesFor externalUUID (squadNotices hasNotifier conflicts current
        managed desired externalByUUID now) =
      (((rememberedConflicts conflicts current now)[externalUUID]?).bind
        (squadNotice hasNotifier current managed desired externalByUUID now
          externalUUID)).toList := by
  have hpart (entries : List (Text × ConflictState)) :
      noticesFor externalUUID (entries.filterMap fun entry =>
          (squadNotice hasNotifier current managed desired externalByUUID now
            entry.1 entry.2).map fun notice => (entry.1, notice)) =
        entries.filterMap fun entry =>
          if entry.1 = externalUUID then
            squadNotice hasNotifier current managed desired externalByUUID now
              externalUUID entry.2
          else none := by
    rw [noticesFor, List.filterMap_filterMap]
    refine List.filterMap_congr fun entry _ => ?_
    by_cases hentry : entry.1 = externalUUID
    · rw [if_pos hentry, ← hentry]
      cases squadNotice hasNotifier current managed desired externalByUUID now
        entry.1 entry.2 with
      | none => rfl
      | some notice => simp
    · rw [if_neg hentry]
      cases squadNotice hasNotifier current managed desired externalByUUID now
        entry.1 entry.2 with
      | none => rfl
      | some notice => simp [hentry]
  let about := fun (entry : Text × ConflictState) =>
    if entry.1 = externalUUID then
      squadNotice hasNotifier current managed desired externalByUUID now
        externalUUID entry.2
    else none
  have htaken (entries : List (Text × ConflictState))
      (p : Text × ConflictState → Bool)
      (hp : ∀ entry, entry.1 = externalUUID → p entry = true) :
      (entries.filter p).filterMap about = entries.filterMap about := by
    rw [List.filterMap_filter]
    refine List.filterMap_congr fun entry _ => ?_
    by_cases hentry : entry.1 = externalUUID
    · rw [if_pos (hp entry hentry)]
    · simp only [about, if_neg hentry, ite_self]
  have hleft (entries : List (Text × ConflictState))
      (p : Text × ConflictState → Bool)
      (hp : ∀ entry, entry.1 = externalUUID → p entry = false) :
      (entries.filter p).filterMap about = [] := by
    rw [List.filterMap_eq_nil_iff]
    intro entry hentry
    have hkept := (List.mem_filter.mp hentry).2
    refine if_neg fun heq => ?_
    rw [hp entry heq] at hkept
    cases hkept
  rw [← GoMap.filterMap_key, squadNotices]
  change noticesFor externalUUID (_ ++ _) = List.filterMap about _
  rw [noticesFor, List.filterMap_append, ← noticesFor, ← noticesFor, hpart,
    hpart]
  change List.filterMap about _ ++ List.filterMap about _ = _
  cases hblocked : stillBlocked current managed desired externalByUUID
      externalUUID with
  | true =>
      rw [hleft _ _ fun entry hentry => by simp only [hentry, hblocked]; rfl,
        htaken _ _ fun entry hentry => by simp only [hentry, hblocked]]
      rfl
  | false =>
      rw [htaken _ _ fun entry hentry => by simp only [hentry, hblocked]; rfl,
        hleft _ _ fun entry hentry => by simp only [hentry, hblocked]]
      exact List.append_nil _

end Track

/-- What a pass that comes as far as `trackConflicts` was told: the squads of
the panel and the desired announcements. -/
def judged (s : Service) (input : PassInput) :
    Option (List ExternalSquad × DesiredProgress) :=
  if !s.runtimeOK then none
  else
    match input.externalSquads with
    | .error _ => none
    | .ok squads =>
        match passDesired s input squads with
        | .error _ => none
        | .ok desired => some (squads, desired)

/-- The notices of a pass, each with its squad. -/
def passNotices (s : Service) (input : PassInput) :
    List (Text × ConflictNotice) :=
  match judged s input with
  | none => []
  | some (squads, desired) =>
      let progress := passProgress s input squads desired
      squadNotices input.hasNotifier s.conflicts progress.squadConflicts
        progress.runtime.managed desired.desired progress.externalByUUID
        input.now

/-- What a pass makes of the remembered conflicts, and what it tells. -/
inductive TrackCase (s : Service) (input : PassInput) (result : PassResult) :
    Prop where
  | skipped (hjudged : judged s input = none)
      (hconflicts : result.service.conflicts = s.conflicts)
      (hruntime : result.service.runtime = s.runtime)
      (hnotices : result.notices = [])
  | tracked (squads : List ExternalSquad) (desired : DesiredProgress)
      (hjudged : judged s input = some (squads, desired))
      (hdesired : passDesired s input squads = .ok desired)
      (hconflicts : result.service.conflicts =
        (trackConflicts input.hasNotifier s.conflicts
          (passProgress s input squads desired).squadConflicts
          (passProgress s input squads desired).runtime.managed
          desired.desired (passProgress s input squads desired).externalByUUID
          input.now).1)
      (hmanaged : result.service.runtime.managed =
        (passProgress s input squads desired).runtime.managed)
      (hcurrent : result.squadConflicts =
        (passProgress s input squads desired).squadConflicts)
      (hnotices : result.notices =
        (trackConflicts input.hasNotifier s.conflicts
          (passProgress s input squads desired).squadConflicts
          (passProgress s input squads desired).runtime.managed
          desired.desired (passProgress s input squads desired).externalByUUID
          input.now).2)

theorem setLastError_conflicts (s : Service) (cause : Option Text) :
    (setLastError s cause).conflicts = s.conflicts := by
  cases cause <;> rfl

theorem reconcileNow_track (s : Service) (input : PassInput) :
    TrackCase s input (reconcileNow s input) := by
  unfold reconcileNow
  split
  · rename_i hok
    exact .skipped (if_pos hok) rfl rfl rfl
  · rename_i hok
    have hfields := setLastError_fields (reconcileLocked s input).service
      (reconcileLocked s input).error
    have hkept := setLastError_conflicts (reconcileLocked s input).service
      (reconcileLocked s input).error
    cases hsquads : input.externalSquads with
    | error cause =>
        have hlocked : reconcileLocked s input =
            { service := s
              error := some ("refresh Remnawave external squads: " ++
                cause) } := by
          simp [reconcileLocked, hsquads]
        rw [hlocked] at hfields hkept ⊢
        refine .skipped ?_ hkept hfields.1 rfl
        rw [judged, if_neg hok, hsquads]
    | ok squads =>
        cases hdesired : passDesired s input squads with
        | error cause =>
            have hlocked : reconcileLocked s input =
                { service := { s with topology :=
                    { s.topology with externalSquads := sortByName squads } }
                  error := some cause } := by
              simp [reconcileLocked, hsquads, hdesired]
            rw [hlocked] at hfields hkept ⊢
            refine .skipped ?_ hkept hfields.1 rfl
            simp only [judged, if_neg hok, hsquads, hdesired]
        | ok desired =>
            have hjudged : judged s input = some (squads, desired) := by
              simp only [judged, if_neg hok, hsquads, hdesired]
            have hlocked : reconcileLocked s input = finishPass s input
                { s.topology with externalSquads := sortByName squads } desired
                (passProgress s input squads desired) := by
              simp [reconcileLocked, hsquads, hdesired]
            rw [hlocked] at hfields hkept ⊢
            unfold finishPass at hfields hkept ⊢
            dsimp only at hfields hkept ⊢
            split at hfields
            · rename_i hchanged
              rw [if_pos hchanged] at hkept ⊢
              exact .tracked squads desired hjudged hdesired hkept
                (by rw [hfields.1]) rfl rfl
            · rename_i hchanged
              rw [if_neg hchanged] at hkept ⊢
              split at hfields
              · rename_i cause hwrite
                rw [hwrite] at hkept
                exact .tracked squads desired hjudged hdesired hkept
                  (by rw [hfields.1]) rfl rfl
              · rename_i stored hwrite
                rw [hwrite] at hkept
                exact .tracked squads desired hjudged hdesired hkept
                  (by rw [hfields.1]) rfl rfl

theorem passNotices_eq (s : Service) (input : PassInput) :
    (reconcileNow s input).notices = (passNotices s input).map Prod.snd := by
  unfold passNotices
  cases reconcileNow_track s input with
  | skipped hjudged _ _ hnotices => rw [hjudged, hnotices, List.map_nil]
  | tracked squads desired hjudged _ _ _ _ hnotices =>
      rw [hjudged, hnotices, trackConflicts_notices]

/-- A pass wants something of the squads that are managed and, with the policy
enabled, of the squads of the active pairs. -/
theorem mem_desired {config : ConfigFile} {runtime : RuntimeFile}
    {topology : Topology} {fleet : Fleet} {recoverySince : GoMap Text Time}
    {result : DesiredProgress}
    (h : computeDesiredAnnouncements config runtime topology fleet
      recoverySince = .ok result) (externalUUID : Text) :
    externalUUID ∈ result.desired ↔ externalUUID ∈ runtime.managed ∨
      config.policy.enabled = true ∧ ActivePair config externalUUID := by
  have hstart : externalUUID ∈ (runtime.managed.map
      fun _ _ => ({} : DesiredAnnouncement)) ↔
      externalUUID ∈ runtime.managed := Std.ExtTreeMap.mem_map
  rcases computeDesiredAnnouncements_eq_ok h with
    ⟨hdisabled, rfl⟩ | ⟨locations, -, henabled, hloop⟩
  · rw [hstart, hdisabled]
    simp
  · rw [henabled]
    refine (foldlM_invariant (fun done (progress : DesiredProgress) =>
      externalUUID ∈ progress.desired ↔ externalUUID ∈ runtime.managed ∨
        ∃ pair ∈ done, pair.monitoringOnly = false ∧
          pair.externalSquadUUID = externalUUID) hloop ?_ ?_).trans ?_
    · rw [hstart]
      simp
    · intro done pair progress next _ hprogress hstep
      cases desirePair_cases hstep with
      | monitoring hmonitoring hresult =>
          rw [hresult, hprogress]
          simp [hmonitoring]
      | desired squad announcement hactive _ _ _ hdesired _ =>
          rw [hdesired, Std.ExtTreeMap.mem_insert, hprogress,
            Std.LawfulEqOrd.compare_eq_iff_eq]
          simp only [List.mem_append, List.mem_singleton, or_and_right,
            exists_or, exists_eq_left, hactive, true_and]
          rw [or_comm, or_assoc]
    · simp [ActivePair]

/-- The loop over the squads finds each squad of the panel. -/
theorem mem_passProgress (s : Service) (input : PassInput)
    (squads : List ExternalSquad) (desired : DesiredProgress)
    (externalUUID : Text) :
    (passProgress s input squads desired).externalByUUID.contains
        externalUUID = true ↔
      ∃ squad ∈ squads, squad.uuid = externalUUID := by
  have hview := congrArg SquadView.squad (view_reconcileSquads
    s.config.announceBases input.updateExternalHeaders input.now
    desired.desired
    { runtime := s.runtime
      externalByUUID := indexBy ExternalSquad.uuid (sortByName squads) }
    externalUUID)
  have hindex : (indexBy ExternalSquad.uuid
      (sortByName squads))[externalUUID]?.isSome = true ↔
      ∃ squad ∈ squads, squad.uuid = externalUUID := by
    rw [← Std.ExtTreeMap.mem_iff_isSome_getElem?, mem_indexBy]
    simp only [mem_sortByName]
  rw [Std.ExtTreeMap.contains_eq_isSome_getElem?, ← hindex]
  change (PassProgress.view (passProgress s input squads desired)
    externalUUID).squad.isSome = true ↔ _
  rw [show (PassProgress.view (passProgress s input squads desired)
    externalUUID).squad = _ from hview]
  split
  · cases hsquad : (indexBy ExternalSquad.uuid
        (sortByName squads))[externalUUID]? with
    | none => rw [SquadView.reconciled_of_none _ _ _ _ hsquad]; exact
        iff_of_eq (congrArg (Option.isSome · = true) hsquad)
    | some squad =>
        rw [SquadView.reconciled_of_some _ _ _ _ hsquad]
        exact ⟨fun _ => rfl, fun _ => rfl⟩
  · exact Iff.rfl

/-- A squad with a conflict is not managed. -/
theorem reconcileSquad_conflict {adopted : Option Text}
    {update : GoMap Text Text → Except Text Unit} {now : Time}
    {target : DesiredAnnouncement} {squad : ExternalSquad}
    {previous : Option ManagedAnnouncement} {restored : Option Text}
    {conflict : SquadConflict}
    (h : (reconcileSquad adopted update now target squad previous
      restored).conflict = some conflict) :
    (reconcileSquad adopted update now target squad previous
      restored).managed = none := by
  have hsent (squad : ExternalSquad) (base : AnnounceBase)
      (outcome : SquadOutcome) (hnone : outcome.conflict = none) :
      (sendSquad update now target squad base outcome).conflict = none := by
    unfold sendSquad
    dsimp only
    split
    · exact hnone
    · split <;> exact hnone
  unfold reconcileSquad at h ⊢
  dsimp only at h ⊢
  split at h
  · rfl
  · split at h
    · rename_i hchanged
      rw [if_pos hchanged]
    · split at h
      · unfold refreshSquad at h
        split at h <;> cases h
      · rw [hsent _ _ _ rfl] at h
        cases h
  · split at h
    · cases h
    · rw [hsent _ _ _ rfl] at h
      cases h
  · split at h
    · cases h
    · rename_i hmessage
      rw [if_neg hmessage]
      split at h
      · rw [hsent _ _ _ rfl] at h
        cases h
      · rfl

theorem conflict_unmanaged {s : Service} {input : PassInput}
    {externalUUID : Text} {conflict : SquadConflict}
    (h : (reconcileNow s input).squadConflicts[externalUUID]? =
      some conflict) :
    (reconcileNow s input).service.runtime.managed[externalUUID]? = none := by
  cases reconcileNow_squad s input externalUUID with
  | untouched _ _ _ _ hconflict =>
      rw [hconflict] at h
      cases h
  | reconciled target squad outcome _ houtcome hmanaged _ _ hconflict =>
      rw [hmanaged, houtcome]
      rw [hconflict, houtcome] at h
      exact reconcileSquad_conflict h

instance (config : ConfigFile) (externalUUID : Text) :
    Decidable (ActivePair config externalUUID) :=
  inferInstanceAs (Decidable (∃ pair ∈ config.squadPairs, _ ∧ _))

/-- A blocking episode of a squad: since when it lasts, and how often it has
been announced. -/
structure Episode where
  since : Time
  announced : Nat := 0
deriving DecidableEq

def ConflictNotice.announces : ConflictNotice → Bool
  | .announceConflict .. => true
  | .announceConflictResolved .. => false

/-- The squad is managed again, or has left the configured pairs or the
panel. -/
def episodeOver (config : ConfigFile)
    (managed : GoMap Text ManagedAnnouncement) (squads : List ExternalSquad)
    (externalUUID : Text) : Bool :=
  managed.contains externalUUID || !decide (ActivePair config externalUUID) ||
    !squads.any fun squad => squad.uuid == externalUUID

/-- The course of an episode over a pass.  A pass that fails before it comes to
the conflicts is no evidence. -/
def episodeAfter (externalUUID : Text) (s : Service) (input : PassInput)
    (episode : Option Episode) : Option Episode :=
  match judged s input with
  | none => episode
  | some (squads, _) =>
      let result := reconcileNow s input
      let conflict : Option SquadConflict :=
        result.squadConflicts[externalUUID]?
      let running : Option Episode :=
        match conflict with
        | some conflict =>
            if conflict.kind = .changedOutside then episode
            else some (episode.getD { since := input.now })
        | none =>
            if episodeOver s.config result.service.runtime.managed squads
                externalUUID then none
            else episode
      running.map fun episode =>
        { episode with
          announced := episode.announced +
            (noticesFor externalUUID (passNotices s input)).countP
              ConflictNotice.announces }

/-- The service and the episode of the squad watched. -/
structure Watched where
  service : Service
  episode : Option Episode := none

def Watched.next (externalUUID : Text) (w : Watched) (e : Event) :
    Watched where
  service := w.service.next e
  episode :=
    match e with
    | .reconcile input => episodeAfter externalUUID w.service input w.episode
    | _ => w.episode

/-- A pass with the policy switched off meets a remembered squad that is still
configured and still in the panel. -/
def Forgets (s : Service) (input : PassInput) : Prop :=
  s.config.policy.enabled = false ∧ ∃ externalUUID, s.conflicts.contains
    externalUUID = true ∧ ActivePair s.config externalUUID ∧
    ∃ squads, input.externalSquads = .ok squads ∧
      ∃ squad ∈ squads, squad.uuid = externalUUID

/-- The events of one process, as long as no pass forgets a squad. -/
def Remembers (w : Watched) : Event → Prop
  | .reconcile input => ¬Forgets w.service input
  | .restart => False
  | .lose => False
  | _ => True

/-- What a remembered conflict knows of its episode. -/
def ConflictState.episode (state : ConflictState) : Episode :=
  ⟨state.since, state.notified.toNat⟩

/-- The remembered conflict of the squad is its episode. -/
structure Tracks (externalUUID : Text) (w : Watched) : Prop where
  episode : w.episode =
    (w.service.conflicts[externalUUID]?).map ConflictState.episode
  unmanaged : ∀ state, w.service.conflicts[externalUUID]? = some state →
    w.service.runtime.managed[externalUUID]? = none

/-- One pass, seen from one squad: `remembered` is what the first loop leaves
remembered of it, and `blocked` whether the second loop leaves it alone. -/
structure SquadTrack (externalUUID : Text) (w : Watched) (input : PassInput)
    (remembered : Option ConflictState) (blocked : Bool) : Prop where
  fresh : blocked = false →
    remembered = w.service.conflicts[externalUUID]?
  kept : (reconcileNow w.service input).service.conflicts[externalUUID]? =
    if blocked then remembered.map fun state =>
      if input.hasNotifier && dueConflict input.now state then
        { state with notified := true }
      else state
    else none
  running : episodeAfter externalUUID w.service input w.episode =
    if blocked then remembered.map fun state =>
      { state.episode with
        announced := state.episode.announced +
          (noticesFor externalUUID (passNotices w.service input)).countP
            ConflictNotice.announces }
    else none
  notices : noticesFor externalUUID (passNotices w.service input) =
    (remembered.bind fun state =>
      if !input.hasNotifier then none
      else if blocked then
        if dueConflict input.now state then
          some (.announceConflict state.name (conflictReason state.kind)
            state.since)
        else none
      else if (reconcileNow w.service input).service.runtime.managed.contains
          externalUUID && state.notified then
        some (.announceConflictResolved state.name state.since)
      else none).toList
  unmanaged : blocked = true →
    (reconcileNow w.service input).service.runtime.managed[externalUUID]? =
      none

theorem judged_squads {s : Service} {input : PassInput}
    {squads : List ExternalSquad} {desired : DesiredProgress}
    (h : judged s input = some (squads, desired)) :
    input.externalSquads = .ok squads := by
  unfold judged at h
  split at h
  · cases h
  · split at h
    · cases h
    · rename_i told htold
      split at h
      · cases h
      · cases h
        exact htold

theorem stillBlocked_eq {externalUUID : Text} {w : Watched} {input : PassInput}
    (h : Tracks externalUUID w) (hremembers : ¬Forgets w.service input)
    {squads : List ExternalSquad} {desired : DesiredProgress}
    (hsome : judged w.service input = some (squads, desired))
    (hdesired : passDesired w.service input squads = .ok desired)
    (hnone : (passProgress w.service input squads
      desired).squadConflicts[externalUUID]? = none)
    {state : ConflictState}
    (hstate : w.service.conflicts[externalUUID]? = some state) :
    stillBlocked (passProgress w.service input squads desired).squadConflicts
        (passProgress w.service input squads desired).runtime.managed
        desired.desired
        (passProgress w.service input squads desired).externalByUUID
        externalUUID =
      !episodeOver w.service.config
        (passProgress w.service input squads desired).runtime.managed squads
        externalUUID := by
  have hunmanaged : externalUUID ∉ w.service.runtime.managed := by
    rw [Std.ExtTreeMap.mem_iff_isSome_getElem?, h.unmanaged state hstate]
    exact Bool.false_ne_true
  have hwanted : desired.desired.contains externalUUID = true ↔
      w.service.config.policy.enabled = true ∧
        ActivePair w.service.config externalUUID := by
    rw [← Std.ExtTreeMap.mem_iff_contains, mem_desired hdesired]
    exact or_iff_right hunmanaged
  have hpanel := mem_passProgress w.service input squads desired externalUUID
  have htold : (squads.any fun squad => squad.uuid == externalUUID) = true ↔
      ∃ squad ∈ squads, squad.uuid = externalUUID := by
    simp only [List.any_eq_true, beq_iff_eq]
  have henabled : ActivePair w.service.config externalUUID →
      (∃ squad ∈ squads, squad.uuid = externalUUID) →
        w.service.config.policy.enabled = true := by
    intro hactive hsquad
    by_contra hdisabled
    refine hremembers ⟨Bool.eq_false_iff.mpr hdisabled, externalUUID, ?_,
      hactive, squads, judged_squads hsome, hsquad⟩
    rw [Std.ExtTreeMap.contains_eq_isSome_getElem?, hstate]
    rfl
  rw [Bool.eq_iff_iff, stillBlocked, episodeOver,
    Std.ExtTreeMap.contains_eq_isSome_getElem?, hnone]
  simp only [Option.isSome_none, Bool.false_or, Bool.and_eq_true, hpanel,
    hwanted, Bool.not_eq_true', Bool.or_eq_false_iff, Bool.not_eq_false',
    decide_eq_true_eq, htold]
  constructor
  · rintro ⟨⟨hsquad, -, hactive⟩, hleft⟩
    exact ⟨⟨hleft, hactive⟩, hsquad⟩
  · rintro ⟨⟨hleft, hactive⟩, hsquad⟩
    exact ⟨⟨hsquad, henabled hactive hsquad, hactive⟩, hleft⟩

/-- With nothing remembered of it a squad has no episode, and a remembered one
stays blocked exactly as long as its episode is not over. -/
theorem Tracks.running {externalUUID : Text} {w : Watched} {input : PassInput}
    (h : Tracks externalUUID w) (hremembers : ¬Forgets w.service input)
    {squads : List ExternalSquad} {desired : DesiredProgress}
    (hsome : judged w.service input = some (squads, desired))
    (hdesired : passDesired w.service input squads = .ok desired)
    (hmanaged : (reconcileNow w.service input).service.runtime.managed =
      (passProgress w.service input squads desired).runtime.managed)
    (hcurrent : (reconcileNow w.service input).squadConflicts =
      (passProgress w.service input squads desired).squadConflicts) :
    episodeAfter externalUUID w.service input w.episode =
      if stillBlocked
          (passProgress w.service input squads desired).squadConflicts
          (passProgress w.service input squads desired).runtime.managed
          desired.desired
          (passProgress w.service input squads desired).externalByUUID
          externalUUID then
        ((rememberedConflicts w.service.conflicts
          (passProgress w.service input squads desired).squadConflicts
          input.now)[externalUUID]?).map fun state =>
            { state.episode with
              announced := state.episode.announced +
                (noticesFor externalUUID
                  (passNotices w.service input)).countP
                  ConflictNotice.announces }
      else none := by
  simp only [episodeAfter, hsome]
  rw [rememberedConflicts_get, hcurrent, hmanaged, h.episode]
  cases hfound : (passProgress w.service input squads
      desired).squadConflicts[externalUUID]? with
  | some conflict =>
      have hblocked : stillBlocked
          (passProgress w.service input squads desired).squadConflicts
          (passProgress w.service input squads desired).runtime.managed
          desired.desired
          (passProgress w.service input squads desired).externalByUUID
          externalUUID = true := by
        rw [stillBlocked, Std.ExtTreeMap.contains_eq_isSome_getElem?, hfound]
        rfl
      rw [if_pos hblocked]
      simp only [rememberConflict]
      split
      · rw [Option.map_map]
        rfl
      · rw [GoMap.get_insert, if_pos rfl]
        cases w.service.conflicts[externalUUID]? <;> rfl
  | none =>
      cases hstate : w.service.conflicts[externalUUID]? with
      | none =>
          simp only [Option.map_none, ite_self]
      | some state =>
          rw [stillBlocked_eq h hremembers hsome hdesired hfound hstate]
          cases episodeOver w.service.config
            (passProgress w.service input squads desired).runtime.managed squads
            externalUUID <;> rfl

theorem Tracks.squadTrack {externalUUID : Text} {w : Watched} {input : PassInput}
    (h : Tracks externalUUID w) (hremembers : ¬Forgets w.service input)
    (hjudged : judged w.service input ≠ none) :
    ∃ remembered blocked,
      SquadTrack externalUUID w input remembered blocked := by
  cases reconcileNow_track w.service input with
  | skipped hnone => exact absurd hnone hjudged
  | tracked squads desired hsome hdesired hconflicts hmanaged hcurrent _ =>
      let progress := passProgress w.service input squads desired
      refine ⟨(rememberedConflicts w.service.conflicts progress.squadConflicts
        input.now)[externalUUID]?, stillBlocked progress.squadConflicts
          progress.runtime.managed desired.desired progress.externalByUUID
          externalUUID, ?_, ?_, ?_, ?_, ?_⟩
      · intro hblocked
        rw [rememberedConflicts_get]
        cases hfound : progress.squadConflicts[externalUUID]? with
        | none => rfl
        | some conflict =>
            rw [stillBlocked, Std.ExtTreeMap.contains_eq_isSome_getElem?,
              hfound] at hblocked
            cases hblocked
      · rw [hconflicts, trackConflicts_get]
      · exact h.running hremembers hsome hdesired hmanaged hcurrent
      · simp only [passNotices, hsome]
        rw [noticesFor_squadNotices, hmanaged]
        rfl
      · intro hblocked
        cases hfound : progress.squadConflicts[externalUUID]? with
        | none =>
            rw [stillBlocked, Std.ExtTreeMap.contains_eq_isSome_getElem?,
              hfound] at hblocked
            rw [hmanaged]
            simp only [Option.isSome_none, Bool.false_or, Bool.and_eq_true,
              Bool.not_eq_true'] at hblocked
            have hcontains := hblocked.2
            rwa [Std.ExtTreeMap.contains_eq_isSome_getElem?,
              Option.isSome_eq_false_iff, Option.isNone_iff_eq_none]
              at hcontains
        | some conflict =>
            exact conflict_unmanaged (by rw [hcurrent]; exact hfound)

/-- What the passes of a run tell about a squad. -/
structure Told (externalUUID : Text) (w : Watched) (input : PassInput) :
    Prop where
  announced : ∀ name reason since,
    ConflictNotice.announceConflict name reason since ∈
      noticesFor externalUUID (passNotices w.service input) →
    (w.next externalUUID (.reconcile input)).episode = some ⟨since, 1⟩ ∧
      conflictAlertDelay ≤ input.now.sub since
  resolved : ∀ name since,
    ConflictNotice.announceConflictResolved name since ∈
      noticesFor externalUUID (passNotices w.service input) →
    w.episode = some ⟨since, 1⟩ ∧
      (w.next externalUUID (.reconcile input)).episode = none ∧
      (w.next externalUUID (.reconcile
        input)).service.runtime.managed.contains externalUUID = true

theorem noticesFor_skipped {externalUUID : Text} {s : Service}
    {input : PassInput} (h : judged s input = none) :
    noticesFor externalUUID (passNotices s input) = [] := by
  rw [passNotices, h]
  rfl

/-- Step lemma: a pass that forgets no squad keeps the remembered conflicts in
step with the episodes, and tells what the episodes call for. -/
theorem Tracks.reconcile {externalUUID : Text} {w : Watched}
    {input : PassInput} (h : Tracks externalUUID w)
    (hremembers : ¬Forgets w.service input) :
    Tracks externalUUID (w.next externalUUID (.reconcile input)) ∧
      Told externalUUID w input := by
  by_cases hjudged : judged w.service input = none
  · have hsilent : noticesFor externalUUID (passNotices w.service input) = [] :=
      noticesFor_skipped hjudged
    cases reconcileNow_track w.service input with
    | tracked _ _ hsome =>
        rw [hjudged] at hsome
        cases hsome
    | skipped _ hconflicts hruntime _ =>
        refine ⟨⟨?_, ?_⟩, ?_, ?_⟩
        · change episodeAfter externalUUID w.service input w.episode =
            ((reconcileNow w.service
              input).service.conflicts[externalUUID]?).map _
          rw [hconflicts, episodeAfter, hjudged]
          exact h.episode
        · change ∀ state, (reconcileNow w.service
            input).service.conflicts[externalUUID]? = some state →
              (reconcileNow w.service
                input).service.runtime.managed[externalUUID]? = none
          rw [hconflicts, hruntime]
          exact h.unmanaged
        · intro name reason since hmem
          rw [hsilent] at hmem
          cases hmem
        · intro name since hmem
          rw [hsilent] at hmem
          cases hmem
  · obtain ⟨remembered, blocked, htrack⟩ := h.squadTrack hremembers hjudged
    have hrunning := htrack.running
    have hnotices := htrack.notices
    have hkept := htrack.kept
    rw [hnotices] at hrunning
    cases blocked with
    | false =>
        have hfresh := htrack.fresh rfl
        refine ⟨⟨hrunning.trans ?_, ?_⟩, ?_, ?_⟩
        · exact (congrArg (Option.map ConflictState.episode) hkept).symm
        · intro state hstate
          cases hkept.symm.trans hstate
        · intro name reason since hmem
          rw [hnotices] at hmem
          cases remembered with
          | none => cases hmem
          | some state =>
              simp only [Option.bind_some, Bool.false_eq_true, if_false] at hmem
              split at hmem
              · cases hmem
              · split at hmem <;> simp at hmem
        · intro name since hmem
          rw [hnotices] at hmem
          cases remembered with
          | none => cases hmem
          | some state =>
              simp only [Option.bind_some, Bool.false_eq_true, if_false] at hmem
              split at hmem
              · cases hmem
              · split at hmem
                · rename_i hmanaged
                  rw [Bool.and_eq_true] at hmanaged
                  rw [Option.toList_some, List.mem_singleton,
                    ConflictNotice.announceConflictResolved.injEq] at hmem
                  refine ⟨?_, hrunning, hmanaged.1⟩
                  rw [h.episode, ← hfresh, Option.map_some,
                    ConflictState.episode, hmanaged.2, hmem.2]
                  rfl
                · cases hmem
    | true =>
        have hunmanaged := htrack.unmanaged rfl
        cases remembered with
        | none =>
            rw [Option.bind_none, Option.toList_none] at hnotices
            refine ⟨⟨hrunning.trans ?_, fun _ _ => hunmanaged⟩, ?_, ?_⟩
            · exact (congrArg (Option.map ConflictState.episode) hkept).symm
            · intro name reason since hmem
              rw [hnotices] at hmem
              cases hmem
            · intro name since hmem
              rw [hnotices] at hmem
              cases hmem
        | some state =>
            cases hsends : input.hasNotifier && dueConflict input.now state with
            | false =>
                have hsilent : noticesFor externalUUID
                    (passNotices w.service input) = [] := by
                  rw [hnotices, Option.bind_some]
                  rw [Bool.and_eq_false_iff] at hsends
                  rcases hsends with hsends | hsends
                  · rw [hsends]
                    rfl
                  · rw [hsends]
                    cases input.hasNotifier <;> rfl
                rw [← hnotices, hsilent] at hrunning
                rw [if_pos rfl, Option.map_some, hsends] at hkept
                refine ⟨⟨hrunning.trans ?_, fun _ _ => hunmanaged⟩, ?_, ?_⟩
                · exact (congrArg (Option.map ConflictState.episode) hkept).symm
                · intro name reason since hmem
                  rw [hsilent] at hmem
                  cases hmem
                · intro name since hmem
                  rw [hsilent] at hmem
                  cases hmem
            | true =>
                obtain ⟨hnotifier, hdue⟩ := Bool.and_eq_true_iff.mp hsends
                have htold : noticesFor externalUUID
                    (passNotices w.service input) =
                    [.announceConflict state.name (conflictReason state.kind)
                      state.since] := by
                  rw [hnotices, Option.bind_some, hnotifier, hdue]
                  rfl
                rw [dueConflict, Bool.and_eq_true, Bool.not_eq_true',
                  decide_eq_true_eq] at hdue
                rw [← hnotices, htold] at hrunning
                rw [if_pos rfl, Option.map_some, hsends] at hkept
                have hepisode : (w.next externalUUID
                    (.reconcile input)).episode = some ⟨state.since, 1⟩ := by
                  refine hrunning.trans ?_
                  rw [if_pos rfl, Option.map_some, ConflictState.episode,
                    hdue.1]
                  rfl
                refine ⟨⟨hepisode.trans ?_, fun _ _ => hunmanaged⟩, ?_, ?_⟩
                · exact (congrArg (Option.map ConflictState.episode) hkept).symm
                · intro name reason since hmem
                  rw [htold, List.mem_singleton,
                    ConflictNotice.announceConflict.injEq] at hmem
                  rw [hmem.2.2]
                  exact ⟨hepisode, hdue.2⟩
                · intro name since hmem
                  rw [htold, List.mem_singleton] at hmem
                  cases hmem

theorem Tracks.next {externalUUID : Text} {w : Watched} {e : Event}
    (h : Tracks externalUUID w) (hremembers : Remembers w e) :
    Tracks externalUUID (w.next externalUUID e) := by
  cases e with
  | configure config => exact ⟨h.episode, h.unmanaged⟩
  | refresh topology => exact ⟨h.episode, h.unmanaged⟩
  | observe source => exact ⟨h.episode, h.unmanaged⟩
  | reconcile input => exact (h.reconcile hremembers).1
  | restart => exact absurd hremembers id
  | lose => exact absurd hremembers id

/-- Run theorem: as long as no pass with the policy switched off meets a
remembered squad, a squad is announced once in an episode at most, when the
episode has lasted for the delay, and resolved only after that, when it is
managed again. -/
theorem conflict_notices (externalUUID : Text) (start : Service)
    (hstart : start.conflicts = ∅) (events : List Event)
    (hrun : Admissible (Watched.next externalUUID) Remembers ⟨start, none⟩
      events) :
    let w := run (Watched.next externalUUID) ⟨start, none⟩ events
    (∀ episode, w.episode = some episode → episode.announced ≤ 1) ∧
      w.episode.map Episode.since =
        (w.service.conflicts[externalUUID]?).map ConflictState.since ∧
      ∀ input, ¬Forgets w.service input →
        (reconcileNow w.service input).notices =
            (passNotices w.service input).map Prod.snd ∧
          Told externalUUID w input := by
  have htracks := run_invariant (Tracks externalUUID) hrun
    ⟨by rw [hstart]; simp, by rw [hstart]; simp⟩
    fun w e hw he => hw.next he
  refine ⟨?_, ?_, ?_⟩
  · intro episode hepisode
    rw [htracks.episode] at hepisode
    obtain ⟨state, -, rfl⟩ := Option.map_eq_some_iff.mp hepisode
    exact Bool.toNat_le state.notified
  · rw [htracks.episode, Option.map_map]
    rfl
  · intro input hremembers
    exact ⟨passNotices_eq _ input, (htracks.reconcile hremembers).2⟩

namespace Sample

/-- A pass that finds two announce headers at the squad. -/
def blockedPass (now : Time) : Event :=
  .reconcile { pass up ((announce "A").insert "Announce" "B") now with
    hasNotifier := true }

def tenMinutes : Time := 600000000000

/-- The squad is blocked for ten minutes. -/
def blocked : List Event :=
  [blockedPass 1, blockedPass (1 + tenMinutes)]

theorem conflict_notices_blocked :
    (run (Watched.next "e") ⟨service, none⟩ blocked).episode = some ⟨1, 1⟩ ∧
      ∀ episode, (run (Watched.next "e") ⟨service, none⟩ blocked).episode =
        some episode → episode.announced ≤ 1 := by
  refine ⟨by decide +kernel, (conflict_notices "e" service rfl blocked ?_).1⟩
  rw [blocked, admissible_cons, admissible_cons]
  refine ⟨?_, ?_, admissible_nil _⟩
  · rintro ⟨hdisabled, -⟩
    cases hdisabled
  · rintro ⟨hdisabled, -⟩
    change (reconcileNow service _).service.config.policy.enabled = false
      at hdisabled
    rw [reconcileNow_config] at hdisabled
    cases hdisabled

/-- While the squad is blocked, the policy is switched off for one pass. -/
def switchedOff : List Event :=
  blocked ++
    [.configure { config with policy := { config.policy with enabled := false } },
      blockedPass (2 + tenMinutes), .configure config,
      blockedPass (3 + tenMinutes), blockedPass (3 + 2 * tenMinutes)]

/-- The squad was never managed and stayed configured and in the panel, and is
announced twice. -/
theorem conflict_announced_twice :
    (run (Watched.next "e") ⟨service, none⟩ switchedOff).episode =
      some ⟨1, 2⟩ := by
  decide +kernel

end Sample

end XrayChecker.Remnawave

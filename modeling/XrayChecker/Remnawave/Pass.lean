import XrayChecker.Remnawave.Service
import XrayChecker.Machine.Run

/-
What one pass does, seen from one external squad: the loop touches a squad
only in the iteration of its own UUID, so its part of the result is the
outcome of that iteration.
-/

namespace XrayChecker.Remnawave

open Go

/-- The part of the loop state that concerns one squad. -/
structure SquadView where
  squad : Option ExternalSquad
  managed : Option ManagedAnnouncement
  restored : Option Text
  conflict : Option SquadConflict
  requests : List (GoMap Text Text)

/-- The headers asked for one squad, in order. -/
def requestsFor (externalUUID : Text)
    (requests : List (Text × GoMap Text Text)) : List (GoMap Text Text) :=
  requests.filterMap fun request =>
    if request.1 = externalUUID then some request.2 else none

def PassProgress.view (progress : PassProgress) (externalUUID : Text) :
    SquadView where
  squad := progress.externalByUUID[externalUUID]?
  managed := progress.runtime.managed[externalUUID]?
  restored := progress.runtime.restored[externalUUID]?
  conflict := progress.squadConflicts[externalUUID]?
  requests := requestsFor externalUUID progress.requests

/-- The outcome for a squad, put into its part of the loop state. -/
def SquadView.after (before : SquadView) (squad : ExternalSquad)
    (outcome : SquadOutcome) : SquadView where
  squad := some { squad with responseHeadersAdd := outcome.headers }
  managed := outcome.managed
  restored := outcome.restored
  conflict := outcome.conflict.or before.conflict
  requests := before.requests ++ outcome.request.toList

/-- One iteration, seen from its own squad. -/
def SquadView.reconciled (bases : GoMap Text Text)
    (update : Text → GoMap Text Text → Except Text Unit) (now : Time)
    (desired : GoMap Text DesiredAnnouncement) (externalUUID : Text)
    (before : SquadView) : SquadView :=
  match before.squad with
  | none => before
  | some squad =>
      before.after squad
        (reconcileSquad bases[externalUUID]? (update externalUUID) now
          (desired[externalUUID]?.getD {}) squad before.managed
          before.restored)

@[simp] theorem requestsFor_append (externalUUID : Text)
    (front back : List (Text × GoMap Text Text)) :
    requestsFor externalUUID (front ++ back) =
      requestsFor externalUUID front ++ requestsFor externalUUID back :=
  List.filterMap_append

/-- An outcome that reports no change keeps the records it was given. -/
def SquadOutcome.Reports (previous : Option ManagedAnnouncement)
    (restored : Option Text) (outcome : SquadOutcome) : Prop :=
  outcome.changed = false →
    outcome.managed = previous ∧ outcome.restored = restored

namespace SquadOutcome

variable {previous : Option ManagedAnnouncement} {restored : Option Text}
    {start : SquadOutcome}

theorem reports_sendSquad (hstart : start.Reports previous restored)
    (send : GoMap Text Text → Except Text Unit) (now : Time)
    (target : DesiredAnnouncement) (squad : ExternalSquad)
    (base : AnnounceBase) :
    (sendSquad send now target squad base start).Reports previous restored := by
  unfold sendSquad
  dsimp only
  cases send (headersToSend squad.responseHeadersAdd base target.message) with
  | error cause => exact hstart
  | ok u =>
      dsimp only
      split <;> exact fun hchanged => nomatch hchanged

theorem reports_refreshSquad (hstart : start.Reports previous restored)
    (now : Time) (target : DesiredAnnouncement) (p : ManagedAnnouncement) :
    (refreshSquad now target p start).Reports previous restored := by
  unfold refreshSquad
  split
  · exact hstart
  · exact fun hchanged => nomatch hchanged

theorem reports_reconcileSquad (adopted : Option Text)
    (send : GoMap Text Text → Except Text Unit) (now : Time)
    (target : DesiredAnnouncement) (squad : ExternalSquad) :
    (reconcileSquad adopted send now target squad previous restored).Reports
      previous restored := by
  have hstart (headers : GoMap Text Text) (conflict : Option SquadConflict) :
      ({ managed := previous
         restored := rememberedText squad previous restored
         changed := rememberedText squad previous restored != restored
         headers := headers, conflict := conflict } : SquadOutcome).Reports
        previous restored :=
    fun hchanged => ⟨rfl, bne_eq_false_iff_eq.mp hchanged⟩
  unfold reconcileSquad
  dsimp only
  split
  · intro hchanged
    obtain ⟨hremembered, hprevious⟩ := Bool.or_eq_false_iff.mp hchanged
    rw [Option.isSome_eq_false_iff, Option.isNone_iff_eq_none] at hprevious
    exact ⟨hprevious.symm, bne_eq_false_iff_eq.mp hremembered⟩
  · split
    · exact fun hchanged => nomatch hchanged
    · split
      · exact reports_refreshSquad (hstart _ _) _ _ _
      · exact reports_sendSquad (hstart _ _) _ _ _ _ _
  · split
    · exact hstart _ _
    · exact reports_sendSquad (hstart _ _) _ _ _ _ _
  · split
    · exact hstart _ _
    · split
      · exact reports_sendSquad (hstart _ _) _ _ _ _ _
      · exact hstart _ _

end SquadOutcome

section Loop

variable (bases : GoMap Text Text)
    (update : Text → GoMap Text Text → Except Text Unit) (now : Time)
    (desired : GoMap Text DesiredAnnouncement)

theorem view_applyOutcome_self (progress : PassProgress)
    (squad : ExternalSquad) (externalUUID : Text) (outcome : SquadOutcome) :
    (applyOutcome progress squad externalUUID outcome).view externalUUID =
      (progress.view externalUUID).after squad outcome := by
  obtain ⟨managed, restored, changed, request, headers, conflict, error⟩ :=
    outcome
  cases conflict <;> cases request <;>
    simp [PassProgress.view, SquadView.after, applyOutcome, requestsFor]

theorem view_applyOutcome_of_ne (progress : PassProgress)
    (squad : ExternalSquad) {externalUUID other : Text}
    (h : other ≠ externalUUID) (outcome : SquadOutcome) :
    (applyOutcome progress squad externalUUID outcome).view other =
      progress.view other := by
  obtain ⟨managed, restored, changed, request, headers, conflict, error⟩ :=
    outcome
  cases conflict <;> cases request <;>
    simp [PassProgress.view, applyOutcome, requestsFor,
      GoMap.get_set_of_ne _ h.symm, GoMap.get_insert, h.symm]

theorem view_reconcileStep_self (progress : PassProgress)
    (externalUUID : Text) :
    (reconcileStep bases update now desired progress externalUUID).view
        externalUUID =
      (progress.view externalUUID).reconciled bases update now desired
        externalUUID := by
  unfold reconcileStep SquadView.reconciled
  cases hsquad : progress.externalByUUID[externalUUID]? with
  | none => simp [PassProgress.view, hsquad]
  | some squad =>
      rw [view_applyOutcome_self]
      simp [PassProgress.view, hsquad]

theorem view_reconcileStep_of_ne (progress : PassProgress)
    (externalUUID other : Text) (h : other ≠ externalUUID) :
    (reconcileStep bases update now desired progress externalUUID).view other =
      progress.view other := by
  unfold reconcileStep
  cases progress.externalByUUID[externalUUID]? with
  | none => rfl
  | some squad => exact view_applyOutcome_of_ne progress squad h _

theorem view_reconcileSquads (progress : PassProgress) (externalUUID : Text) :
    (reconcileSquads bases update now desired progress).view externalUUID =
      if externalUUID ∈ desired then
        (progress.view externalUUID).reconciled bases update now desired
          externalUUID
      else progress.view externalUUID := by
  rw [reconcileSquads, foldl_at PassProgress.view
    (reconcileStep bases update now desired)
    (SquadView.reconciled bases update now desired)
    (fun progress u _ =>
      view_reconcileStep_self bases update now desired progress u)
    (fun progress u _ other h =>
      view_reconcileStep_of_ne bases update now desired progress u other h)
    Std.ExtTreeMap.nodup_keys progress externalUUID]
  simp only [Std.ExtTreeMap.mem_keys]

theorem SquadView.reconciled_of_none {externalUUID : Text}
    {before : SquadView} (h : before.squad = none) :
    before.reconciled bases update now desired externalUUID = before := by
  simp [SquadView.reconciled, h]

theorem SquadView.reconciled_of_some {externalUUID : Text}
    {before : SquadView} {squad : ExternalSquad} (h : before.squad =
      some squad) :
    before.reconciled bases update now desired externalUUID =
      before.after squad
        (reconcileSquad bases[externalUUID]? (update externalUUID) now
          (desired[externalUUID]?.getD {}) squad before.managed
          before.restored) := by
  simp [SquadView.reconciled, h]

/-- A loop that reports no change leaves the ownership records alone. -/
theorem reconcileSquads_unchanged (start : PassProgress)
    (h : (reconcileSquads bases update now desired start).runtimeChanged =
      false) :
    (reconcileSquads bases update now desired start).runtime =
      start.runtime := by
  refine foldl_invariant
    (fun _ (progress : PassProgress) => progress.runtimeChanged = false →
      progress.runtime = start.runtime) desired.keys (fun _ => rfl) ?_ h
  intro _ externalUUID progress _ hprogress hchanged
  unfold reconcileStep at hchanged ⊢
  cases hsquad : progress.externalByUUID[externalUUID]? with
  | none =>
      simp only [hsquad] at hchanged ⊢
      exact hprogress hchanged
  | some squad =>
      simp only [hsquad, applyOutcome] at hchanged ⊢
      obtain ⟨hbefore, houtcome⟩ := Bool.or_eq_false_iff.mp hchanged
      obtain ⟨hmanaged, hrestored⟩ :=
        SquadOutcome.reports_reconcileSquad _ _ _ _ _ houtcome
      rw [hmanaged, hrestored, GoMap.set_get, GoMap.set_get]
      exact hprogress hbefore

end Loop

theorem getElem?_indexBy {T : Type} {key : T → Text} {items : List T}
    {k : Text} {item : T} (h : (indexBy key items)[k]? = some item) :
    item ∈ items ∧ key item = k := by
  refine foldl_invariant
    (fun done (acc : GoMap Text T) => ∀ j x, acc[j]? = some x →
      x ∈ done ∧ key x = j) items (by simp) ?_ k item h
  intro done item acc _ hacc j x hx
  rw [GoMap.get_insert] at hx
  split at hx
  · rename_i hkey
    obtain rfl := Option.some.inj hx
    exact ⟨by simp, hkey⟩
  · obtain ⟨hmem, hj⟩ := hacc j x hx
    exact ⟨List.mem_append_left _ hmem, hj⟩

theorem mem_indexBy {T : Type} {key : T → Text} {items : List T} {k : Text} :
    k ∈ indexBy key items ↔ ∃ item ∈ items, key item = k := by
  constructor
  · intro hmem
    rw [Std.ExtTreeMap.mem_iff_isSome_getElem?,
      Option.isSome_iff_exists] at hmem
    obtain ⟨item, hitem⟩ := hmem
    exact ⟨item, getElem?_indexBy hitem⟩
  · rintro ⟨item, hitem, rfl⟩
    refine foldl_invariant
      (fun done (acc : GoMap Text T) => ∀ x ∈ done, key x ∈ acc) items
      (by simp) ?_ item hitem
    intro done item acc _ hacc x hx
    rcases List.mem_append.mp hx with hold | hnew
    · exact Std.ExtTreeMap.mem_insert.mpr (.inr (hacc x hold))
    · rw [List.mem_singleton.mp hnew]
      exact Std.ExtTreeMap.mem_insert_self

theorem mem_sortByName {squads : List ExternalSquad} {squad : ExternalSquad} :
    squad ∈ sortByName squads ↔ squad ∈ squads := by
  rw [sortByName, List.mem_insertionSort]

/-- The two ownership maps agree. -/
def SameRecords (a b : RuntimeFile) : Prop :=
  a.managed = b.managed ∧ a.restored = b.restored

theorem SameRecords.rfl {a : RuntimeFile} : SameRecords a a :=
  ⟨Eq.refl _, Eq.refl _⟩

/-- The ownership file holds what the service has in memory. -/
def Service.Persisted (s : Service) : Prop :=
  SameRecords (s.runtimeFile.getD defaultRuntime) s.runtime

theorem writeRuntimeFile_eq_ok {disk : Except Text Unit}
    {runtime stored : RuntimeFile} {now : Time}
    (h : writeRuntimeFile disk runtime now = .ok stored) :
    stored = stampRuntime runtime now ∧
      validateRuntime stored = .ok () ∧ disk = .ok () := by
  simp only [writeRuntimeFile, bind_unit_eq_ok] at h
  obtain ⟨hvalid, hdisk, hstored⟩ := h
  obtain rfl := Except.ok.inj hstored
  exact ⟨rfl, hvalid, hdisk⟩

/-- Everything a pass can do to the service. -/
inductive PassCase (s : Service) (input : PassInput) (result : PassResult) :
    Prop where
  | skipped
      (hwhy : s.runtimeOK = false ∨
        (∃ cause, input.externalSquads = .error cause) ∨
        ∃ squads cause, input.externalSquads = .ok squads ∧
          passDesired s input squads = .error cause)
      (hruntime : result.service.runtime = s.runtime)
      (hfile : result.service.runtimeFile = s.runtimeFile)
      (hrecovery : result.service.recoverySince = s.recoverySince)
      (hok : result.service.runtimeOK = s.runtimeOK)
      (hrequests : result.requests = [])
      (hconflicts : result.squadConflicts = ∅)
  | completed (squads : List ExternalSquad) (desired : DesiredProgress)
      (hready : s.runtimeOK = true)
      (hsquads : input.externalSquads = .ok squads)
      (hdesired : passDesired s input squads = .ok desired)
      (hruntime : SameRecords result.service.runtime
        (passProgress s input squads desired).runtime)
      (hversion : result.service.runtime.version =
        (passProgress s input squads desired).runtime.version)
      (hfile : result.service.runtimeFile = s.runtimeFile ∧
          ((passProgress s input squads desired).runtimeChanged = false ∨
            ∃ cause, writeRuntimeFile input.disk
              (passProgress s input squads desired).runtime input.now =
                .error cause) ∨
        ∃ stored, result.service.runtimeFile = some stored ∧
          writeRuntimeFile input.disk
            (passProgress s input squads desired).runtime input.now =
              .ok stored)
      (hrecovery : result.service.recoverySince = desired.nextRecovery)
      (hok : result.service.runtimeOK = true)
      (hrequests : result.requests =
        (passProgress s input squads desired).requests)
      (hconflicts : result.squadConflicts =
        (passProgress s input squads desired).squadConflicts)

theorem setLastError_fields (s : Service) (cause : Option Text) :
    (setLastError s cause).runtime = s.runtime ∧
      (setLastError s cause).runtimeFile = s.runtimeFile ∧
      (setLastError s cause).recoverySince = s.recoverySince ∧
      (setLastError s cause).runtimeOK = s.runtimeOK ∧
      (setLastError s cause).config = s.config := by
  cases cause <;> exact ⟨rfl, rfl, rfl, rfl, rfl⟩

theorem reconcileNow_cases (s : Service) (input : PassInput) :
    PassCase s input (reconcileNow s input) := by
  unfold reconcileNow
  split
  · rename_i hok
    exact .skipped (.inl (by simpa using hok)) rfl rfl rfl rfl rfl rfl
  · rename_i hok
    obtain ⟨hruntime, hfile, hrecovery, hkept, -⟩ := setLastError_fields
      (reconcileLocked s input).service (reconcileLocked s input).error
    cases hsquads : input.externalSquads with
    | error cause =>
        have hlocked : reconcileLocked s input =
            { service := s
              error := some ("refresh Remnawave external squads: " ++ cause) } := by
          simp [reconcileLocked, hsquads]
        rw [hlocked] at hruntime hfile hrecovery hkept ⊢
        exact .skipped (.inr (.inl ⟨cause, hsquads⟩)) hruntime hfile hrecovery
          hkept rfl rfl
    | ok squads =>
        cases hdesired : passDesired s input squads with
        | error cause =>
            have hlocked : reconcileLocked s input =
                { service := { s with topology :=
                    { s.topology with externalSquads := sortByName squads } }
                  error := some cause } := by
              simp [reconcileLocked, hsquads, hdesired]
            rw [hlocked] at hruntime hfile hrecovery hkept ⊢
            exact .skipped (.inr (.inr ⟨squads, cause, hsquads, hdesired⟩))
              hruntime hfile hrecovery hkept rfl rfl
        | ok desired =>
            have hlocked : reconcileLocked s input = finishPass s input
                { s.topology with externalSquads := sortByName squads } desired
                (passProgress s input squads desired) := by
              simp [reconcileLocked, hsquads, hdesired]
            have hready : s.runtimeOK = true := by simpa using hok
            unfold finishPass at hlocked
            dsimp only at hlocked
            split at hlocked
            · rename_i hchanged
              rw [hlocked] at hruntime hfile hrecovery hkept ⊢
              refine .completed squads desired hready hsquads hdesired ?_ ?_
                ?_ hrecovery (hkept.trans hready) rfl rfl
              · rw [hruntime]
                exact SameRecords.rfl
              · rw [hruntime]
              · exact .inl ⟨hfile, .inl (by simpa using hchanged)⟩
            · split at hlocked
              · rename_i cause hwrite
                rw [hlocked] at hruntime hfile hrecovery hkept ⊢
                refine .completed squads desired hready hsquads hdesired ?_ ?_
                  ?_ hrecovery (hkept.trans hready) rfl rfl
                · rw [hruntime]
                  exact SameRecords.rfl
                · rw [hruntime]
                · exact .inl ⟨hfile, .inr ⟨cause, hwrite⟩⟩
              · rename_i stored hwrite
                rw [hlocked] at hruntime hfile hrecovery hkept ⊢
                refine .completed squads desired hready hsquads hdesired ?_ ?_
                  ?_ hrecovery (hkept.trans hready) rfl rfl
                · rw [hruntime]
                  exact SameRecords.rfl
                · rw [hruntime]
                · exact .inr ⟨stored, hfile, hwrite⟩

/-- A squad is reached by a pass that knows what to announce there and finds
the squad in the panel. -/
def Reached (s : Service) (input : PassInput) (externalUUID : Text)
    (target : DesiredAnnouncement) (squad : ExternalSquad) : Prop :=
  s.runtimeOK = true ∧ ∃ squads desired,
    input.externalSquads = .ok squads ∧
      passDesired s input squads = .ok desired ∧
      desired.desired[externalUUID]? = some target ∧
      (indexBy ExternalSquad.uuid (sortByName squads))[externalUUID]? =
        some squad

theorem Reached.mem {s : Service} {input : PassInput} {externalUUID : Text}
    {target : DesiredAnnouncement} {squad : ExternalSquad}
    (h : Reached s input externalUUID target squad) :
    ∃ squads, input.externalSquads = .ok squads ∧ squad ∈ squads ∧
      squad.uuid = externalUUID := by
  obtain ⟨-, squads, desired, hsquads, -, -, hsquad⟩ := h
  obtain ⟨hmem, huuid⟩ := getElem?_indexBy hsquad
  exact ⟨squads, hsquads, mem_sortByName.mp hmem, huuid⟩

/-- Everything a pass can do to one squad. -/
inductive SquadPass (s : Service) (input : PassInput) (result : PassResult)
    (externalUUID : Text) : Prop where
  | untouched
      (hwhy : ∀ target squad, ¬ Reached s input externalUUID target squad)
      (hmanaged : result.service.runtime.managed[externalUUID]? =
        s.runtime.managed[externalUUID]?)
      (hrestored : result.service.runtime.restored[externalUUID]? =
        s.runtime.restored[externalUUID]?)
      (hrequests : requestsFor externalUUID result.requests = [])
      (hconflict : result.squadConflicts[externalUUID]? = none)
  | reconciled (target : DesiredAnnouncement) (squad : ExternalSquad)
      (outcome : SquadOutcome)
      (hreached : Reached s input externalUUID target squad)
      (houtcome : outcome = reconcileSquad
        s.config.announceBases[externalUUID]?
        (input.updateExternalHeaders externalUUID) input.now target squad
        s.runtime.managed[externalUUID]? s.runtime.restored[externalUUID]?)
      (hmanaged : result.service.runtime.managed[externalUUID]? =
        outcome.managed)
      (hrestored : result.service.runtime.restored[externalUUID]? =
        outcome.restored)
      (hrequests : requestsFor externalUUID result.requests =
        outcome.request.toList)
      (hconflict : result.squadConflicts[externalUUID]? = outcome.conflict)

theorem reconcileNow_squad (s : Service) (input : PassInput)
    (externalUUID : Text) :
    SquadPass s input (reconcileNow s input) externalUUID := by
  cases reconcileNow_cases s input with
  | skipped hwhy hruntime hfile hrecovery hok hrequests hconflicts =>
      refine .untouched ?_ (by rw [hruntime]) (by rw [hruntime])
        (by rw [hrequests]; rfl) (by rw [hconflicts]; simp)
      rintro target squad ⟨hready, squads, desired, hsquads, hdesired, -⟩
      rcases hwhy with hbad | ⟨cause, hcause⟩ | ⟨others, cause, hothers, hcause⟩
      · rw [hready] at hbad
        cases hbad
      · rw [hsquads] at hcause
        cases hcause
      · rw [hsquads] at hothers
        obtain rfl := Except.ok.inj hothers
        rw [hdesired] at hcause
        cases hcause
  | completed squads desired hready hsquads hdesired hruntime hversion hfile
      hrecovery hok hrequests hconflicts =>
      have hview := view_reconcileSquads s.config.announceBases
        input.updateExternalHeaders input.now desired.desired
        { runtime := s.runtime
          externalByUUID :=
            indexBy ExternalSquad.uuid (sortByName squads) } externalUUID
      change (passProgress s input squads desired).view externalUUID = _
        at hview
      have hunreached
          (hnone : desired.desired[externalUUID]? = none ∨
            (indexBy ExternalSquad.uuid (sortByName squads))[externalUUID]? =
              none) :
          ∀ target squad, ¬ Reached s input externalUUID target squad := by
        rintro target squad ⟨-, others, found, hothers, hfound, htarget, hsquad⟩
        rw [hsquads] at hothers
        obtain rfl := Except.ok.inj hothers
        rw [hdesired] at hfound
        obtain rfl := Except.ok.inj hfound
        rcases hnone with hnone | hnone
        · rw [htarget] at hnone
          cases hnone
        · rw [hsquad] at hnone
          cases hnone
      have hmanaged := congrArg (·[externalUUID]?) hruntime.1
      have hrestored := congrArg (·[externalUUID]?) hruntime.2
      have hconflict := congrArg (·[externalUUID]?) hconflicts
      have hsent := congrArg (requestsFor externalUUID) hrequests
      cases htarget : desired.desired[externalUUID]? with
      | none =>
          have hnotmem : externalUUID ∉ desired.desired := by
            rw [Std.ExtTreeMap.mem_iff_isSome_getElem?, htarget]
            simp
          rw [if_neg hnotmem] at hview
          exact .untouched (hunreached (.inl htarget))
            (hmanaged.trans (congrArg SquadView.managed hview))
            (hrestored.trans (congrArg SquadView.restored hview))
            (hsent.trans (congrArg SquadView.requests hview))
            (hconflict.trans ((congrArg SquadView.conflict hview).trans
              (by simp [PassProgress.view])))
      | some target =>
          have hmem : externalUUID ∈ desired.desired := by
            rw [Std.ExtTreeMap.mem_iff_isSome_getElem?, htarget]
            rfl
          rw [if_pos hmem] at hview
          cases hsquad :
              (indexBy ExternalSquad.uuid
                (sortByName squads))[externalUUID]? with
          | none =>
              rw [SquadView.reconciled_of_none _ _ _ _ hsquad] at hview
              exact .untouched (hunreached (.inr hsquad))
                (hmanaged.trans (congrArg SquadView.managed hview))
                (hrestored.trans (congrArg SquadView.restored hview))
                (hsent.trans (congrArg SquadView.requests hview))
                (hconflict.trans ((congrArg SquadView.conflict hview).trans
                  (by simp [PassProgress.view])))
          | some squad =>
              rw [SquadView.reconciled_of_some _ _ _ _ hsquad, htarget,
                Option.getD_some] at hview
              refine .reconciled target squad _
                ⟨hready, squads, desired, hsquads, hdesired, htarget, hsquad⟩
                rfl (hmanaged.trans (congrArg SquadView.managed hview))
                (hrestored.trans (congrArg SquadView.restored hview))
                (hsent.trans (congrArg SquadView.requests hview)) ?_
              refine hconflict.trans
                ((congrArg SquadView.conflict hview).trans ?_)
              simp [SquadView.after, PassProgress.view]

end XrayChecker.Remnawave

import XrayChecker.Remnawave.RecoveryClock
import XrayChecker.Remnawave.StatusLine

/-
Recovery hysteresis.  A location that the ownership record of a squad has on a
list moves to a better one only at a pass whose running clock has run out, and
that clock stands for an unbroken stretch of passes that saw it recovering.
-/

namespace XrayChecker.Remnawave

open Go Machine

/-- The clock reading of a pass. -/
def Event.passTime : Event → Option Time
  | .reconcile input => some input.now
  | _ => none

/-- The clock never runs backwards between passes. -/
def MonotoneClock (events : List Event) : Prop :=
  (events.filterMap Event.passTime).Pairwise (· ≤ ·)

instance (events : List Event) : Decidable (MonotoneClock events) :=
  inferInstanceAs
    (Decidable ((events.filterMap Event.passTime).Pairwise (· ≤ ·)))

/-- Before an instant there is only one kind of completed pass within the
recovery time: one that saw the location recovering. -/
def RecoveringFor (past : List (Service × Event)) (externalUUID key : Text)
    (now : Time) (recovery : Int) : Prop :=
  (∃ since, RecoveringSince past externalUUID key since ∧
      recovery ≤ now.sub since) ∧
    ∀ taken ∈ past, ∀ input, taken.2 = .reconcile input →
      now.sub input.now < recovery → KeepsRecovering externalUUID key taken

/-- What can become of the list a squad's record has a location on: nothing,
the record is gone, or it is the list of the pass's announcement. -/
inductive RecordAfter (s : Service) (input : PassInput) (result : Service)
    (externalUUID key : Text) : Prop where
  | same (h : result.recordedState externalUUID key =
      s.recordedState externalUUID key)
  | dropped (h : result.runtime.managed[externalUUID]? = none)
  | announced (target : DesiredAnnouncement) (squad : ExternalSquad)
      (hreached : Reached s input externalUUID target squad)
      (h : result.recordedState externalUUID key = target.state key)

/-- A clock that has run out stands for the whole recovery time. -/
theorem RecoveringSince.recoveringFor {start : Service} {events : List Event}
    {input : PassInput} {u key : Text} {since : Time} {recovery : Int}
    (hmonotone : MonotoneClock (events ++ [.reconcile input]))
    (h : RecoveringSince (steps Service.next start events) u key since)
    (helapsed : recovery ≤ input.now.sub since) :
    RecoveringFor (steps Service.next start events) u key input.now
      recovery := by
  refine ⟨⟨since, h, helapsed⟩, ?_⟩
  obtain ⟨before, s, first, after, hpast, hsince, hsees, hafter⟩ := h
  intro taken htaken earlier hearlier hrecent
  have hlate : since < earlier.now :=
    Time.lt_of_sub_lt_sub (hrecent.trans_le helapsed)
  rw [hpast, List.mem_append, List.mem_cons] at htaken
  rcases htaken with hbefore | rfl | htaken
  · have hevents : events =
        before.map Prod.snd ++ .reconcile first :: after.map Prod.snd := by
      have hsteps : (steps Service.next start events).map Prod.snd = events :=
        map_snd_steps start events
      rw [← hsteps, hpast, List.map_append, List.map_cons]
    rw [MonotoneClock, hevents, List.append_assoc, List.filterMap_append,
      List.pairwise_append] at hmonotone
    have hsooner : earlier.now ≤ first.now :=
      hmonotone.2.2 earlier.now
        (List.mem_filterMap.mpr ⟨.reconcile earlier,
          List.mem_map.mpr ⟨taken, hbefore, hearlier⟩, rfl⟩)
        first.now
        (List.mem_filterMap.mpr ⟨.reconcile first, by simp, rfl⟩)
    exact absurd hlate (not_lt.mpr (hsince ▸ hsooner))
  · obtain rfl := Event.reconcile.inj hearlier
    exact absurd hlate (not_lt.mpr hsince.le)
  · exact hafter taken htaken

/-- Step lemma: a better list is announced only after the recovery time. -/
theorem announced_betters {past : List (Service × Event)} {s : Service}
    (h : ClocksTell past s) {input : PassInput} {u key : Text}
    {squads : List ExternalSquad} {desired : DesiredProgress}
    {target : DesiredAnnouncement} {group : GroupEvaluation}
    (hcompleted : Completed s input squads desired)
    (htarget : desired.desired[u]? = some target)
    (hgroup : (passGroups s input squads u)[key]? = some group)
    (hbetter : severity (target.state key) < severity (s.recordedState u key)) :
    group.state.recovers = true ∧ ∃ since, RecoveringSince past u key since ∧
      minutes s.config.policy.recoveryMinutes ≤ input.now.sub since := by
  have hconfig := validateConfig_eq_ok.mp h.sound.config
  have hlisted :=
    (hcompleted.pairsDone hconfig h.separable u).2.1 target htarget
  rw [hlisted.state, hgroup, Option.bind_some] at hbetter
  obtain ⟨hstate, since, hrunning, helapsed⟩ :=
    decideGroup_betters (recoveryMinutes_pos h.sound) hbetter
  have hclean : '\x00' ∉ u :=
    h.separable u (mem_announceTargets_of_passGroups hgroup).2
  exact ⟨hstate, since, h.clocks u key hclean since hrunning, helapsed⟩

/-- What a pass makes of the record of a squad, and why it leaves it as it
is when it does. -/
inductive ManagedAfter (s : Service) (input : PassInput) (result : PassResult)
    (externalUUID : Text) : Prop where
  | untouched
      (hwhy : ∀ target squad, ¬ Reached s input externalUUID target squad)
      (hmanaged : result.service.runtime.managed[externalUUID]? =
        s.runtime.managed[externalUUID]?)
  | failed (sent : GoMap Text Text)
      (hsent : sent ∈ requestsFor externalUUID result.requests)
      (hupdate : ∀ u, input.updateExternalHeaders externalUUID sent ≠ .ok u)
      (hmanaged : result.service.runtime.managed[externalUUID]? =
        s.runtime.managed[externalUUID]?)
  | described (target : DesiredAnnouncement) (squad : ExternalSquad)
      (p : ManagedAnnouncement)
      (hreached : Reached s input externalUUID target squad)
      (hprevious : s.runtime.managed[externalUUID]? = some p)
      (hdescribes : describes p target = true)
      (hmanaged : result.service.runtime.managed[externalUUID]? =
        s.runtime.managed[externalUUID]?)
  | dropped
      (hmanaged : result.service.runtime.managed[externalUUID]? = none)
  | announced (target : DesiredAnnouncement) (squad : ExternalSquad)
      (record : ManagedAnnouncement)
      (hreached : Reached s input externalUUID target squad)
      (hmanaged : result.service.runtime.managed[externalUUID]? = some record)
      (hgroups : record.groups = target.groups)
      (hpartly : record.partialGroups = target.partialGroups)
      (hmaintenance : record.maintenanceGroups = target.maintenanceGroups)

theorem managedAfter (s : Service) (input : PassInput) (u : Text) :
    ManagedAfter s input (reconcileNow s input) u := by
  cases reconcileNow_squad s input u with
  | untouched hwhy hmanaged => exact .untouched hwhy hmanaged
  | reconciled target squad outcome hreached houtcome hmanaged _ hrequests =>
      have hsent {base : AnnounceBase} {start : SquadOutcome}
          (hstart : start.managed = s.runtime.managed[u]?)
          (hsend : outcome = sendSquad (input.updateExternalHeaders u)
            input.now target squad base start) :
          ManagedAfter s input (reconcileNow s input) u := by
        rw [hsend] at hmanaged hrequests
        cases sendSquad_cases (input.updateExternalHeaders u) input.now target
          squad base start with
        | failed hupdate hkept =>
            refine .failed _ ?_ hupdate (hmanaged.trans (hkept.trans hstart))
            rw [hrequests, sendSquad_request]
            exact List.mem_singleton_self _
        | withdrawn _ hgone => exact .dropped (hmanaged.trans hgone)
        | published _ hrecord =>
            exact .announced target squad _ hreached (hmanaged.trans hrecord)
              rfl rfl rfl
      have hcase := reconcileSquad_cases s.config.announceBases[u]?
        (input.updateExternalHeaders u) input.now target squad
        s.runtime.managed[u]? s.runtime.restored[u]?
      rw [← houtcome] at hcase
      cases hcase with
      | duplicate _ hgone => exact .dropped (hmanaged.trans hgone)
      | changedOutside _ _ _ hgone => exact .dropped (hmanaged.trans hgone)
      | refreshed p q hprevious _ _ _ hrecord hkept =>
          rcases hrecord with ⟨rfl, hdescribes⟩ | rfl
          · exact .described target squad _ hreached hprevious hdescribes
              ((hmanaged.trans hkept).trans hprevious.symm)
          · exact .announced target squad _ hreached (hmanaged.trans hkept)
              rfl rfl rfl
      | rewritten p start hprevious _ hstart hsend =>
          exact hsent (hstart.1.trans hprevious.symm) hsend
      | idle _ _ hgone => exact .dropped (hmanaged.trans hgone)
      | claimed base start hprevious _ hstart hsend =>
          exact hsent (hstart.1.trans hprevious.symm) hsend
      | unrecognized _ _ _ _ _ hgone => exact .dropped (hmanaged.trans hgone)

theorem recordedState_of_managed {s result : Service} {u : Text}
    (h : result.runtime.managed[u]? = s.runtime.managed[u]?) (key : Text) :
    result.recordedState u key = s.recordedState u key := by
  rw [Service.recordedState, h]
  rfl

theorem recordedState_of_lists {result : Service} {u : Text}
    {record : ManagedAnnouncement} {target : DesiredAnnouncement}
    (h : result.runtime.managed[u]? = some record)
    (hgroups : record.groups = target.groups)
    (hpartly : record.partialGroups = target.partialGroups)
    (hmaintenance : record.maintenanceGroups = target.maintenanceGroups)
    (key : Text) : result.recordedState u key = target.state key := by
  rw [Service.recordedState, h, Option.getD_some, previousGroupState, hgroups,
    hpartly, hmaintenance]
  rfl

/-- Step lemma: a record only takes over what the pass announces. -/
theorem recordAfter (s : Service) (input : PassInput) (u key : Text) :
    RecordAfter s input (reconcileNow s input).service u key := by
  cases managedAfter s input u with
  | untouched _ hmanaged =>
      exact .same (recordedState_of_managed hmanaged key)
  | failed _ _ _ hmanaged =>
      exact .same (recordedState_of_managed hmanaged key)
  | described _ _ _ _ _ _ hmanaged =>
      exact .same (recordedState_of_managed hmanaged key)
  | dropped hmanaged => exact .dropped hmanaged
  | announced target squad record hreached hmanaged hgroups hpartly
      hmaintenance =>
      exact .announced target squad hreached (recordedState_of_lists hmanaged
        hgroups hpartly hmaintenance key)

/-- Run theorem: over any run with a clock that does not run backwards, a pass
announces a recorded location on a better list, or on none, only when every
completed pass of the preceding recovery time saw it recovering; a completed
pass that sees it otherwise stops its clock; and the record only ever takes
over what a pass announces. -/
theorem recovery_never_shortened (start : Service) (hsound : start.Sound)
    (hseparable : SeparableTargets start.config)
    (hclocks : start.recoverySince = ∅) (events : List Event)
    (hrun : Admissible Service.next
      (fun _ e => e.WellFormed ∧ e.Separable) start events)
    (input : PassInput)
    (hmonotone : MonotoneClock (events ++ [.reconcile input]))
    (externalUUID key : Text) :
    let s := run Service.next start events
    let past := steps Service.next start events
    (∀ squads desired target group, Completed s input squads desired →
      desired.desired[externalUUID]? = some target →
      (passGroups s input squads externalUUID)[key]? = some group →
      severity (target.state key) <
        severity (s.recordedState externalUUID key) →
        group.state.recovers = true ∧
          RecoveringFor past externalUUID key input.now
            (minutes s.config.policy.recoveryMinutes)) ∧
      (∀ group, Sees s input externalUUID key group →
        group.state.recovers = false →
        (reconcileNow s input).service.recoverySince[
          recoveryKey externalUUID key]? = none) ∧
      RecordAfter s input (reconcileNow s input).service externalUUID key := by
  intro s past
  have htell : ClocksTell past s :=
    clocksTell_run hsound hseparable hclocks hrun
  refine ⟨?_, ?_, recordAfter s input externalUUID key⟩
  · intro squads desired target group hcompleted htarget hgroup hbetter
    obtain ⟨hstate, since, hsince, helapsed⟩ :=
      announced_betters htell hcompleted htarget hgroup hbetter
    exact ⟨hstate, hsince.recoveringFor hmonotone helapsed⟩
  · rintro group ⟨squads, desired, hcompleted, hgroup⟩ hstate
    have hclean : '\x00' ∉ externalUUID := htell.separable externalUUID
      (mem_announceTargets_of_passGroups hgroup).2
    rw [reconcileNow_recoverySince htell.sound htell.separable hclean
      hcompleted, hgroup, Option.bind_some]
    cases hkept : (passDecision s input externalUUID key group).recovering with
    | none => rfl
    | some since =>
        rw [(decideGroup_recovering hkept).1] at hstate
        cases hstate

/-- A pass takes a recorded location off its list although a pass within the
recovery time, completed or not, evaluated it otherwise than recovering. -/
def ShortensRecovery (start : Service) (events : List Event) (input : PassInput)
    (squads : List ExternalSquad) (externalUUID key : Text) : Prop :=
  ∃ desired target group,
    Completed (run Service.next start events) input squads desired ∧
      desired.desired[externalUUID]? = some target ∧
      (passGroups (run Service.next start events) input squads
        externalUUID)[key]? = some group ∧
      severity (target.state key) < severity
        ((run Service.next start events).recordedState externalUUID key) ∧
      ∃ taken ∈ steps Service.next start events, ∃ earlier others seen,
        taken.2 = .reconcile earlier ∧ earlier.externalSquads = .ok others ∧
          input.now.sub earlier.now <
            minutes (run Service.next start
              events).config.policy.recoveryMinutes
          ∧ (passGroups taken.1 earlier others externalUUID)[key]? =
            some seen ∧ seen.state.recovers = false

namespace Sample

def second : Time := 1000000000

/-- The sample squad and one that sees nothing. -/
def twoSquads : Service :=
  { service with
    config := { config with squadPairs :=
      [{ internalSquadUUID := "i", externalSquadUUID := "e" },
        { internalSquadUUID := "j", externalSquadUUID := "f" }] }
    topology := { service.topology with
      internalSquads := [{ uuid := "i", inbounds := ["b"] }, { uuid := "j" }] } }

def squadsShowing (headers : GoMap Text Text) : List ExternalSquad :=
  [{ uuid := "e", name := "E", responseHeadersAdd := headers },
    { uuid := "f", name := "F" }]

def twoSquadsPass (details : Option Checker.ProxyStatusDetails)
    (headers : GoMap Text Text) (now : Time) : PassInput where
  externalSquads := .ok (squadsShowing headers)
  proxySource := {
    proxies := [{ stableID := "n", server := "s", port := 1 }]
    statusDetails := fun _ => details }
  now := now

/-- The outage is announced and ends; then one pass is aborted by the missing
second internal squad while the node has no status. -/
def abortedPass : List Event :=
  [ .reconcile (twoSquadsPass (some down) ∅ late),
    .reconcile (twoSquadsPass (some up) (announce "rwEncodeBase64:D")
      (late + second)),
    .refresh { twoSquads.topology with
      internalSquads := [{ uuid := "i", inbounds := ["b"] }] },
    .reconcile (twoSquadsPass none (announce "rwEncodeBase64:D")
      (late + 31 * second)),
    .refresh twoSquads.topology ]

def lastPass : PassInput :=
  twoSquadsPass (some up) (announce "rwEncodeBase64:D") (late + 61 * second)

/-- A location whose key starts like the rest of the other squad's UUID. -/
def likeOther : Text := "f\x00L"

/-- Two squads and two locations that share a clock key. -/
def sharedKey : Service :=
  { service with
    config := { config with
      squadPairs :=
        [{ internalSquadUUID := "i", externalSquadUUID := "e" },
          { internalSquadUUID := "j", externalSquadUUID := "e\x00f" }]
      locations := some (((∅ : GoMap Text AnnounceLocation).insert likeOther
        { publicLabel := "N", members := (∅ : GoMap Text Text).insert "n" "h" }
        ).insert "L"
        { publicLabel := "L"
          members := (∅ : GoMap Text Text).insert "m" "g" }) }
    topology := {
      loadedAt := 1
      hosts := [{ uuid := "h", configProfileInboundUUID := "b" },
        { uuid := "g", configProfileInboundUUID := "c" }]
      internalSquads := [{ uuid := "i", inbounds := ["b"] },
        { uuid := "j", inbounds := ["c"] }] }
    failureObservations :=
      ((∅ : GoMap Text Int).insert "n" 2).insert "m" 2 }

def sharedKeySquads (headers : GoMap Text Text) : List ExternalSquad :=
  [{ uuid := "e", name := "E", responseHeadersAdd := headers },
    { uuid := "e\x00f", name := "F", responseHeadersAdd := headers }]

def sharedKeyPass (first other : Checker.ProxyStatusDetails)
    (headers : GoMap Text Text) (now : Time) : PassInput where
  externalSquads := .ok (sharedKeySquads headers)
  proxySource := {
    proxies := [{ stableID := "n", server := "s", port := 1 },
      { stableID := "m", server := "t", port := 1 }]
    statusDetails := fun stableID =>
      some (if stableID = ("n" : Text) then first else other) }
  now := now

/-- Both outages are announced, and only the other squad's location recovers. -/
def otherRecovers : List Event :=
  [ .reconcile (sharedKeyPass down down ∅ late),
    .reconcile (sharedKeyPass down up (announce "rwEncodeBase64:D")
      (late + second)),
    .reconcile (sharedKeyPass down up (announce "rwEncodeBase64:D")
      (late + 31 * second)) ]

def bothHealthy (other : Text) (target : DesiredAnnouncement) :
    DesiredProgress where
  desired := ((∅ : GoMap Text DesiredAnnouncement).insert "e"
    { message := "ok", knownHealthyMessage := "ok" }).insert other target

/-- A pass that was aborted does not stop the clocks, and two squads can share
one. -/
theorem recovery_shortened :
    (twoSquads.Sound ∧ SeparableTargets twoSquads.config ∧
      twoSquads.recoverySince = ∅ ∧
      MonotoneClock (abortedPass ++ [.reconcile lastPass]) ∧
      ShortensRecovery twoSquads abortedPass lastPass
        (squadsShowing (announce "rwEncodeBase64:D")) "e" "L") ∧
    sharedKey.Sound ∧ sharedKey.recoverySince = ∅ ∧
      MonotoneClock (otherRecovers ++ [.reconcile (sharedKeyPass up up
        (announce "rwEncodeBase64:D") (late + 61 * second))]) ∧
      ShortensRecovery sharedKey otherRecovers
        (sharedKeyPass up up (announce "rwEncodeBase64:D")
          (late + 61 * second))
        (sharedKeySquads (announce "rwEncodeBase64:D")) "e" likeOther := by
  refine ⟨⟨⟨by decide, by decide, fun _ h => nomatch h⟩,
    by decide, rfl, by decide, ?_⟩,
    ⟨by decide, by decide, fun _ h => nomatch h⟩, rfl,
    by decide, ?_⟩
  · refine ⟨bothHealthy "f" {}, { message := "ok", knownHealthyMessage := "ok" }, ⟨"L", .groupHealthy⟩,
      ⟨by decide +kernel, rfl, by decide +kernel⟩, by decide +kernel,
      by decide +kernel, by decide +kernel, _,
      .tail _ (.tail _ (.tail _ (.head _))), _, _, ⟨"L", .groupPending⟩, rfl,
      rfl, by decide +kernel, by decide +kernel, rfl⟩
  · refine ⟨bothHealthy "e\x00f"
        { message := "ok", knownHealthyMessage := "ok" },
      { message := "ok", knownHealthyMessage := "ok" }, ⟨"N", .groupHealthy⟩,
      ⟨by decide +kernel, rfl, by decide +kernel⟩, by decide +kernel,
      by decide +kernel, by decide +kernel, _,
      .tail _ (.tail _ (.head _)), _, _, ⟨"N", .groupDown⟩, rfl,
      rfl, by decide +kernel, by decide +kernel, rfl⟩

/-- The outage is announced, ends, and stays over. -/
def recoveredOutage : List Event :=
  [ .reconcile (pass down ∅ late),
    .reconcile (pass up (announce "rwEncodeBase64:D") (late + second)),
    .reconcile (pass up (announce "rwEncodeBase64:D") (late + 31 * second)) ]

theorem recovery_never_shortened_sample :
    RecoveringFor (steps Service.next service recoveredOutage) "e" "L"
      (late + 61 * second)
      (minutes (run Service.next service
        recoveredOutage).config.policy.recoveryMinutes) :=
  ((recovery_never_shortened service
    ⟨by decide, by decide, fun _ h => nomatch h⟩
    (by decide) rfl recoveredOutage
    (admissible_cons.mpr ⟨⟨trivial, trivial⟩, admissible_cons.mpr
      ⟨⟨trivial, trivial⟩, admissible_cons.mpr
        ⟨⟨trivial, trivial⟩, admissible_nil _⟩⟩⟩)
    (pass up (announce "rwEncodeBase64:D") (late + 61 * second))
    (by decide) "e" "L").1
    [{ uuid := "e", name := "E"
       responseHeadersAdd := announce "rwEncodeBase64:D" }]
    healthyDesired { message := "ok", knownHealthyMessage := "ok" }
    ⟨"L", .groupHealthy⟩ ⟨by decide +kernel, rfl, by decide +kernel⟩
    (by decide +kernel) (by decide +kernel) (by decide +kernel)).2

end Sample

end XrayChecker.Remnawave

import XrayChecker.Remnawave.Hysteresis

/-
When the recovery clock survives a failed panel update.  A clock is kept while
it runs, so a location is withdrawn on time as long as no update fails at a
pass that finds the clock run out: such a pass drops the clock, but the record
stays, and the next pass starts over.
-/

namespace XrayChecker.Remnawave

open Go Machine

/-- Every location a record lists has a label. -/
def ManagedAnnouncement.Labelled (record : ManagedAnnouncement) : Prop :=
  ∀ key label : Text, record.groups[key]? = some label ∨
    record.partialGroups[key]? = some label ∨
    record.maintenanceGroups[key]? = some label → label ≠ []

def RuntimeFile.Labelled (runtime : RuntimeFile) : Prop :=
  ∀ (u : Text) (record : ManagedAnnouncement),
    runtime.managed[u]? = some record → record.Labelled

/-- Every location that is on record, in memory or on disk, has a label. -/
structure Service.Labelled (s : Service) : Prop where
  runtime : s.runtime.Labelled
  file : ∀ document, s.runtimeFile = some document → document.Labelled

theorem publicLocationLabel_ne_nil (location : AnnounceLocation)
    (key : Text) : publicLocationLabel location key ≠ [] := by
  unfold publicLocationLabel
  split_ifs with hlabel hkey
  · exact hlabel
  · exact hkey.1
  · decide

theorem passGroups_label {s : Service} {input : PassInput}
    {squads : List ExternalSquad} {u key : Text} {group : GroupEvaluation}
    (h : (passGroups s input squads u)[key]? = some group) :
    group.label ≠ [] := by
  unfold passGroups at h
  split at h
  · simp at h
  · split_ifs at h
    · unfold audienceGroups at h
      split at h
      · rw [Audience.groups, getElem?_evaluateLocations,
          Option.bind_eq_some_iff] at h
        obtain ⟨location, -, hevaluated⟩ := h
        unfold evaluateLocation at hevaluated
        dsimp only at hevaluated
        split_ifs at hevaluated
        obtain rfl := Option.some.inj hevaluated
        exact publicLocationLabel_ne_nil location key
      · simp at h
    · simp at h

/-- A listed location has the label it was evaluated with. -/
theorem ListedBy.labelled {s : Service} {input : PassInput}
    {squads : List ExternalSquad} {u : Text}
    {decide : Text → GroupEvaluation → GroupDecision}
    {target : DesiredAnnouncement} {record : ManagedAnnouncement}
    (h : ListedBy decide (passGroups s input squads u) target)
    (hgroups : record.groups = target.groups)
    (hpartly : record.partialGroups = target.partialGroups)
    (hmaintenance : record.maintenanceGroups = target.maintenanceGroups) :
    record.Labelled := by
  have hlist (list : GroupState) (key label : Text)
      (hlabel : (listedLabels decide (passGroups s input squads u)
        list)[key]? = some label) : label ≠ [] := by
    rw [listedLabels, Std.ExtTreeMap.getElem?_filterMap',
      Option.bind_eq_some_iff] at hlabel
    obtain ⟨group, hgroup, hlabel⟩ := hlabel
    split_ifs at hlabel
    obtain rfl := Option.some.inj hlabel
    exact passGroups_label hgroup
  intro key label hlabel
  rw [hgroups, hpartly, hmaintenance, h.down, h.partialAvailability,
    h.maintenance] at hlabel
  rcases hlabel with hlabel | hlabel | hlabel <;>
    exact hlist _ key label hlabel

namespace Service.Labelled

variable {s : Service}

theorem restart (h : s.Labelled) (hsound : s.Sound) :
    (Remnawave.restart s).Labelled := by
  refine ⟨?_, by rw [restart_runtimeFile]; exact h.file⟩
  cases hfile : s.runtimeFile with
  | none =>
      rw [(restart_of_missing hfile).1]
      intro u record hrecord
      simp [defaultRuntime] at hrecord
  | some document =>
      rw [(restart_of_valid hfile (hsound.file document hfile)).2]
      exact h.file document hfile

theorem reconcileNow (h : s.Labelled) (hsound : s.Sound)
    (hseparable : SeparableTargets s.config) (input : PassInput) :
    (Remnawave.reconcileNow s input).service.Labelled := by
  have hruntime : (Remnawave.reconcileNow s
    input).service.runtime.Labelled := by
    intro u record hrecord
    cases managedAfter s input u with
    | untouched _ hmanaged => exact h.runtime u record (hmanaged ▸ hrecord)
    | failed _ _ _ hmanaged => exact h.runtime u record (hmanaged ▸ hrecord)
    | described _ _ _ _ _ _ hmanaged =>
        exact h.runtime u record (hmanaged ▸ hrecord)
    | dropped hmanaged =>
        rw [hmanaged] at hrecord
        cases hrecord
    | announced target squad built hreached hmanaged hgroups hpartly
        hmaintenance =>
        rw [hmanaged] at hrecord
        obtain rfl := Option.some.inj hrecord
        obtain ⟨hready, squads, desired, hsquads, hdesired, htarget, -⟩ :=
          hreached
        have hcompleted : Completed s input squads desired :=
          ⟨hready, hsquads, hdesired⟩
        exact ((hcompleted.pairsDone (validateConfig_eq_ok.mp hsound.config)
          hseparable u).2.1 target htarget).labelled hgroups hpartly
            hmaintenance
  refine ⟨hruntime, fun document hdocument => ?_⟩
  cases reconcileNow_cases s input with
  | skipped _ _ hfile =>
      rw [hfile] at hdocument
      exact h.file document hdocument
  | completed squads desired _ _ _ hrecords _ hfile =>
      rcases hfile with ⟨hfile, -⟩ | ⟨stored, hfile, hwrite⟩
      · rw [hfile] at hdocument
        exact h.file document hdocument
      · rw [hfile] at hdocument
        obtain rfl := Option.some.inj hdocument
        rw [(writeRuntimeFile_eq_ok hwrite).1]
        intro u record hrecord
        refine hruntime u record ?_
        rw [hrecords.1]
        exact hrecord

theorem next (h : s.Labelled) (hsound : s.Sound)
    (hseparable : SeparableTargets s.config) (e : Event) :
    (s.next e).Labelled := by
  cases e with
  | configure config => exact ⟨h.runtime, h.file⟩
  | refresh topology => exact ⟨h.runtime, h.file⟩
  | observe source => exact ⟨h.runtime, h.file⟩
  | reconcile input => exact h.reconcileNow hsound hseparable input
  | restart => exact h.restart hsound
  | lose =>
      exact Service.Labelled.restart
        ⟨h.runtime, fun document hdocument => nomatch hdocument⟩
        ⟨hsound.config, hsound.runtime,
          fun document hdocument => nomatch hdocument⟩

end Service.Labelled

theorem stringMapEqual_getElem? {left right : GoMap Text Text}
    (h : stringMapEqual left right = true) {key label : Text}
    (hkey : left[key]? = some label) (hlabel : label ≠ []) :
    right[key]? = some label := by
  rw [stringMapEqual, Bool.and_eq_true, List.all_eq_true] at h
  have hentry := h.2 (key, label)
    (Std.ExtTreeMap.mem_toList_iff_getElem?_eq_some.mpr hkey)
  rw [beq_iff_eq] at hentry
  cases hright : right[key]? with
  | none =>
      rw [hright, Option.getD_none] at hentry
      exact absurd hentry.symm hlabel
  | some other =>
      rw [hright, Option.getD_some] at hentry
      rw [hentry]

/-- A record that already says what the target says lists no location that the
target does not list. -/
theorem describes_state {p : ManagedAnnouncement}
    {target : DesiredAnnouncement} (hlabelled : p.Labelled)
    (h : describes p target = true) {key : Text}
    (htarget : target.state key = none) : previousGroupState p key = none := by
  simp only [describes, Bool.and_eq_true] at h
  obtain ⟨⟨⟨-, hgroups⟩, hpartly⟩, hmaintenance⟩ := h
  have hmissing (left right : GoMap Text Text)
      (hsame : stringMapEqual left right = true)
      (hleft : ∀ label : Text, left[key]? = some label → label ≠ [])
      (hright : right.contains key = false) : left.contains key = false := by
    rw [Std.ExtTreeMap.contains_eq_isSome_getElem?,
      Option.isSome_eq_false_iff, Option.isNone_iff_eq_none] at hright ⊢
    cases hfound : left[key]? with
    | none => rfl
    | some label =>
        rw [stringMapEqual_getElem? hsame hfound (hleft label hfound)] at hright
        cases hright
  unfold DesiredAnnouncement.state at htarget
  split_ifs at htarget with hnotdown hnotpartly hnotmaintenance
  rw [previousGroupState,
    hmissing _ _ hgroups (fun label hlabel =>
      hlabelled key label (.inl hlabel)) (Bool.eq_false_iff.mpr hnotdown),
    hmissing _ _ hpartly (fun label hlabel =>
      hlabelled key label (.inr (.inl hlabel)))
        (Bool.eq_false_iff.mpr hnotpartly),
    hmissing _ _ hmaintenance (fun label hlabel =>
      hlabelled key label (.inr (.inr hlabel)))
        (Bool.eq_false_iff.mpr hnotmaintenance)]
  rfl

/-- A completed pass finds a location healthy. -/
def SeesHealthy (s : Service) (input : PassInput)
    (squads : List ExternalSquad) (externalUUID key : Text) : Prop :=
  ∃ label, (passGroups s input squads externalUUID)[key]? =
    some ⟨label, .groupHealthy⟩

/-- The location is still on record and its recovery clock has run out. -/
def RunOut (s : Service) (now : Time) (externalUUID key : Text) : Prop :=
  s.recordedState externalUUID key ≠ none ∧
    ∃ since, s.recoverySince[recoveryKey externalUUID key]? = some since ∧
      minutes s.config.policy.recoveryMinutes ≤ now.sub since

/-- No update of the squad fails at a pass that finds the clock run out. -/
def UpdatesInTime (s : Service) (input : PassInput)
    (externalUUID key : Text) : Prop :=
  RunOut s input.now externalUUID key →
    ∀ sent ∈ requestsFor externalUUID (reconcileNow s input).requests,
      ∃ u, input.updateExternalHeaders externalUUID sent = .ok u

/-- While a location stays healthy, only passes, checks and refreshes of the
topology happen. -/
def StaysHealthy (externalUUID key : Text) (s : Service) : Event → Prop
  | .reconcile input => ∀ squads desired, Completed s input squads desired →
      SeesHealthy s input squads externalUUID key
  | .refresh _ => True
  | .observe _ => True
  | _ => False

/-- The condition of the run theorem on one step. -/
def InTime (externalUUID key : Text) (s : Service) : Event → Prop
  | .reconcile input => UpdatesInTime s input externalUUID key
  | _ => True

/-- A service whose records and settings can be relied on. -/
structure Service.Reliable (s : Service) : Prop where
  sound : s.Sound
  separable : SeparableTargets s.config
  labelled : s.Labelled

theorem Service.Reliable.next {s : Service} (h : s.Reliable) {e : Event}
    (hformed : e.WellFormed) (hseparable : e.Separable) :
    (s.next e).Reliable := by
  refine ⟨h.sound.next hformed, ?_, h.labelled.next h.sound h.separable e⟩
  cases e with
  | configure config => exact hseparable
  | refresh topology => exact h.separable
  | observe source => exact h.separable
  | reconcile input =>
      change SeparableTargets (reconcileNow s input).service.config
      rw [reconcileNow_config]
      exact h.separable
  | restart =>
      change SeparableTargets (Remnawave.restart s).config
      rw [restart_config]
      exact h.separable
  | lose =>
      change SeparableTargets (Remnawave.restart _).config
      rw [restart_config]
      exact h.separable

/-- The location is off the record, or its clock has been running since some
instant or longer. -/
structure Clocked (externalUUID key : Text) (t : Time) (s : Service) :
    Prop where
  reliable : s.Reliable
  clock : s.recordedState externalUUID key = none ∨
    ∃ since ≤ t,
      s.recoverySince[recoveryKey externalUUID key]? = some since

section Pass

variable {s : Service} {input : PassInput} {u key : Text}
    {squads : List ExternalSquad} {desired : DesiredProgress}

theorem Reached.target_unique {target target' : DesiredAnnouncement}
    {squad : ExternalSquad} (h : Reached s input u target' squad)
    (hcompleted : Completed s input squads desired)
    (htarget : desired.desired[u]? = some target) : target' = target := by
  obtain ⟨hready, others, found, hothers, hfound, htarget', -⟩ := h
  obtain ⟨rfl, rfl⟩ := hcompleted.unique ⟨hready, hothers, hfound⟩
  rw [htarget] at htarget'
  exact (Option.some.inj htarget').symm

/-- A pass that evaluates a location of a squad announces to the squad. -/
theorem SeesHealthy.reached (hhealthy : SeesHealthy s input squads u key)
    (h : s.Reliable) (hcompleted : Completed s input squads desired) :
    ∃ target squad, Reached s input u target squad ∧
      desired.desired[u]? = some target := by
  obtain ⟨label, hgroup⟩ := hhealthy
  have hnonempty : (passGroups s input squads u).isEmpty = false := by
    rw [Std.ExtTreeMap.isEmpty_eq_false_iff]
    intro hempty
    rw [hempty] at hgroup
    simp at hgroup
  obtain ⟨target, squad, hreached⟩ := (hcompleted.pairsDone
    (validateConfig_eq_ok.mp h.sound.config) h.separable u).2.2 hnonempty
  refine ⟨target, squad, hreached, ?_⟩
  obtain ⟨hready, others, found, hothers, hfound, htarget, -⟩ := hreached
  obtain ⟨rfl, rfl⟩ := hcompleted.unique ⟨hready, hothers, hfound⟩
  exact htarget

/-- What a completed pass makes of a healthy location: it announces it as
before under a running clock, or not at all once the clock has run out. -/
theorem healthy_pass (h : s.Reliable)
    (hcompleted : Completed s input squads desired)
    (hhealthy : SeesHealthy s input squads u key)
    {target : DesiredAnnouncement}
    (htarget : desired.desired[u]? = some target) :
    (s.recordedState u key = none ∧ target.state key = none) ∨
      (RunOut s input.now u key ∧ target.state key = none) ∨
      (s.recordedState u key ≠ none ∧
        input.now.sub ((s.recoverySince[recoveryKey u key]?).getD input.now) <
          minutes s.config.policy.recoveryMinutes ∧
        (reconcileNow s input).service.recoverySince[recoveryKey u key]? =
          some ((s.recoverySince[recoveryKey u key]?).getD input.now)) := by
  obtain ⟨label, hgroup⟩ := hhealthy
  have hclean : '\x00' ∉ u :=
    h.separable u (mem_announceTargets_of_passGroups hgroup).2
  have hstate := ((hcompleted.pairsDone
    (validateConfig_eq_ok.mp h.sound.config) h.separable u).2.1 target
      htarget).state key
  have hrecovery := reconcileNow_recoverySince h.sound h.separable hclean
    hcompleted key
  rw [hgroup, Option.bind_some] at hstate hrecovery
  have hcase : DecisionCase s.config.policy input.now (s.recordedState u key)
      s.recoverySince[recoveryKey u key]? .groupHealthy
      (passDecision s input u key ⟨label, .groupHealthy⟩) :=
    decideGroup_cases _ _ _ _ _
  generalize passDecision s input u key ⟨label, .groupHealthy⟩ = decision
    at hstate hrecovery hcase
  cases hcase with
  | down hdown => cases hdown
  | maintenance hmaintenance => cases hmaintenance
  | partialAvailability hpartly _ _ => cases hpartly
  | unlisted hprevious => exact .inl ⟨hprevious, hstate⟩
  | held before hprevious _ hearly =>
      exact .inr (.inr ⟨by rw [hprevious]; simp, hearly, hrecovery⟩)
  | eased before _ hpartly _ => cases hpartly
  | kept before _ hkept => cases hkept
  | recovered before hprevious _ helapsed =>
      refine .inr (.inl ⟨⟨by rw [hprevious]; simp, ?_⟩, hstate⟩)
      cases hrunning : s.recoverySince[recoveryKey u key]? with
      | none =>
          rw [hrunning, Option.getD_none, Time.sub, sub_self] at helapsed
          have := recoveryMinutes_pos h.sound
          omega
      | some since =>
          rw [hrunning, Option.getD_some] at helapsed
          exact ⟨since, rfl, helapsed⟩

/-- A pass that announces a location no more leaves it off the record, unless
an update failed. -/
theorem unlisted_after (h : s.Reliable)
    (hcompleted : Completed s input squads desired)
    (hhealthy : SeesHealthy s input squads u key)
    {target : DesiredAnnouncement}
    (htarget : desired.desired[u]? = some target)
    (hstate : target.state key = none)
    (hupdates : s.recordedState u key = none ∨
      ∀ sent ∈ requestsFor u (reconcileNow s input).requests,
        ∃ v, input.updateExternalHeaders u sent = .ok v) :
    (reconcileNow s input).service.recordedState u key = none := by
  cases managedAfter s input u with
  | untouched hwhy _ =>
      obtain ⟨found, squad, hreached, -⟩ := hhealthy.reached h hcompleted
      exact absurd hreached (hwhy found squad)
  | failed sent hsent hupdate hmanaged =>
      rw [recordedState_of_managed hmanaged]
      rcases hupdates with hnone | hall
      · exact hnone
      · obtain ⟨v, hv⟩ := hall sent hsent
        exact absurd hv (hupdate v)
  | described found squad p hreached hprevious hdescribes hmanaged =>
      obtain rfl := hreached.target_unique hcompleted htarget
      rw [recordedState_of_managed hmanaged, Service.recordedState, hprevious]
      exact describes_state (h.labelled.runtime u p hprevious) hdescribes hstate
  | dropped hmanaged =>
      rw [Service.recordedState, hmanaged]
      simp [previousGroupState]
  | announced found squad record hreached hmanaged hgroups hpartly
      hmaintenance =>
      obtain rfl := hreached.target_unique hcompleted htarget
      rw [recordedState_of_lists hmanaged hgroups hpartly hmaintenance]
      exact hstate

/-- Step lemma: a pass over a healthy location keeps the clock running or takes
the location off the record. -/
theorem Clocked.of_pass {t : Time} (h : s.Reliable)
    (hcompleted : Completed s input squads desired)
    (hhealthy : SeesHealthy s input squads u key)
    (hclock : s.recordedState u key = none ∨
      (s.recoverySince[recoveryKey u key]?).getD input.now ≤ t)
    (hupdates : UpdatesInTime s input u key) :
    Clocked u key t (reconcileNow s input).service := by
  refine ⟨h.next (e := .reconcile input) trivial trivial, ?_⟩
  obtain ⟨target, -, -, htarget⟩ := hhealthy.reached h hcompleted
  rcases healthy_pass h hcompleted hhealthy htarget with
    ⟨hnone, hstate⟩ | ⟨hrunout, hstate⟩ | ⟨hlisted, -, hkept⟩
  · exact .inl (unlisted_after h hcompleted hhealthy htarget hstate
      (.inl hnone))
  · exact .inl (unlisted_after h hcompleted hhealthy htarget hstate
      (.inr (hupdates hrunout)))
  · exact .inr ⟨_, hclock.resolve_left hlisted, hkept⟩

/-- Once the clock has been running for the recovery time, the location is
announced no more. -/
theorem Clocked.announced {t : Time} (h : Clocked u key t s)
    (hcompleted : Completed s input squads desired)
    (hhealthy : SeesHealthy s input squads u key)
    {target : DesiredAnnouncement}
    (htarget : desired.desired[u]? = some target)
    (helapsed : minutes s.config.policy.recoveryMinutes ≤ input.now.sub t) :
    target.state key = none := by
  rcases healthy_pass h.reliable hcompleted hhealthy htarget with
    ⟨-, hstate⟩ | ⟨-, hstate⟩ | ⟨hlisted, hearly, -⟩
  · exact hstate
  · exact hstate
  · obtain ⟨since, hsince, hrunning⟩ := h.clock.resolve_left hlisted
    rw [hrunning, Option.getD_some] at hearly
    exact absurd (Time.lt_of_sub_lt_sub (hearly.trans_le helapsed))
      (not_lt.mpr hsince)

end Pass

/-- Step lemma: nothing that happens while the location stays healthy loses its
clock. -/
theorem Clocked.next {u key : Text} {t : Time} {s : Service}
    (h : Clocked u key t s) {e : Event} (hhealthy : StaysHealthy u key s e)
    (hupdates : InTime u key s e) : Clocked u key t (s.next e) := by
  cases e with
  | configure config => exact absurd hhealthy id
  | restart => exact absurd hhealthy id
  | lose => exact absurd hhealthy id
  | refresh topology =>
      exact ⟨h.reliable.next (e := .refresh topology) trivial trivial, h.clock⟩
  | observe source =>
      exact ⟨h.reliable.next (e := .observe source) trivial trivial, h.clock⟩
  | reconcile input =>
      by_cases hdone : ∃ squads desired, Completed s input squads desired
      · obtain ⟨squads, desired, hcompleted⟩ := hdone
        refine Clocked.of_pass h.reliable hcompleted
          (hhealthy squads desired hcompleted) ?_ hupdates
        rcases h.clock with hnone | ⟨since, hsince, hrunning⟩
        · exact .inl hnone
        · rw [hrunning, Option.getD_some]
          exact .inr hsince
      · refine ⟨h.reliable.next (e := .reconcile input) trivial trivial, ?_⟩
        cases reconcileNow_cases s input with
        | skipped _ hruntime _ hrecovery =>
            change (reconcileNow s input).service.recordedState u key = none ∨
              ∃ since ≤ t, (reconcileNow s input).service.recoverySince[
                recoveryKey u key]? = some since
            rw [recordedState_of_managed (s := s) (by rw [hruntime]), hrecovery]
            exact h.clock
        | completed squads desired hready hsquads hdesired =>
            exact absurd ⟨squads, desired, hready, hsquads, hdesired⟩ hdone

/-- A clock that runs when a pass starts has not been started in the future. -/
theorem ClocksTell.clock_le {start : Service} {prior rest : List Event}
    {first : PassInput} {u key : Text}
    (htell : ClocksTell (steps Service.next start prior)
      (run Service.next start prior))
    (hclean : '\x00' ∉ u)
    (hmonotone : MonotoneClock (prior ++ .reconcile first :: rest)) :
    ((run Service.next start prior).recoverySince[
      recoveryKey u key]?).getD first.now ≤ first.now := by
  cases hrunning : (run Service.next start prior).recoverySince[
      recoveryKey u key]? with
  | none => exact Nat.le_refl _
  | some since =>
      obtain ⟨before, s, input, after, hpast, hsince, -⟩ :=
        htell.clocks u key hclean since hrunning
      have hmem : Event.reconcile input ∈ prior := by
        have hsteps : (steps Service.next start prior).map Prod.snd = prior :=
          map_snd_steps start prior
        rw [← hsteps, hpast]
        simp
      rw [MonotoneClock, List.filterMap_append, List.pairwise_append]
        at hmonotone
      rw [Option.getD_some, ← hsince]
      exact hmonotone.2.2 input.now
        (List.mem_filterMap.mpr ⟨_, hmem, rfl⟩) first.now
        (List.mem_filterMap.mpr ⟨.reconcile first, by simp, rfl⟩)

/-- Run theorem: from a pass that finds the location healthy on, as long as it
stays healthy and no update of the squad fails at a pass that finds its clock
run out, every completed pass at or after the recovery time announces the
location no more. -/
theorem recovered_location_withdrawn (start : Service)
    (hreliable : start.Reliable) (hclocks : start.recoverySince = ∅)
    (prior : List Event)
    (hprior : Admissible Service.next
      (fun _ e => e.WellFormed ∧ e.Separable) start prior)
    (externalUUID key : Text) (first : PassInput) (rest : List Event)
    (hmonotone : MonotoneClock (prior ++ .reconcile first :: rest))
    (hfirst : ∃ squads desired,
      Completed (run Service.next start prior) first squads desired)
    (hrun : Admissible Service.next
      (fun s e => StaysHealthy externalUUID key s e ∧
        InTime externalUUID key s e)
      (run Service.next start prior) (.reconcile first :: rest)) :
    ∀ taken ∈ steps Service.next (run Service.next start prior)
        (.reconcile first :: rest),
      ∀ input squads desired target, taken.2 = .reconcile input →
        Completed taken.1 input squads desired →
        desired.desired[externalUUID]? = some target →
        minutes taken.1.config.policy.recoveryMinutes ≤
          input.now.sub first.now →
        target.state key = none := by
  have htell := clocksTell_run hreliable.sound hreliable.separable hclocks
    hprior
  have hstart : (run Service.next start prior).Reliable :=
    run_invariant Service.Reliable hprior hreliable
      fun s e hs he => hs.next he.1 he.2
  obtain ⟨squads, desired, hcompleted⟩ := hfirst
  have hallowed := (admissible_cons.mp hrun).1
  have hhealthy := hallowed.1 squads desired hcompleted
  have hclean : '\x00' ∉ externalUUID := by
    obtain ⟨label, hgroup⟩ := hhealthy
    exact hstart.separable _ (mem_announceTargets_of_passGroups hgroup).2
  have hclocked : Clocked externalUUID key first.now
      (reconcileNow (run Service.next start prior) first).service :=
    Clocked.of_pass hstart hcompleted hhealthy
      (.inr (htell.clock_le hclean hmonotone)) hallowed.2
  intro taken htaken input squads' desired' target hinput hdone htarget helapsed
  rcases List.mem_cons.mp htaken with rfl | hlater
  · obtain rfl := Event.reconcile.inj hinput
    rw [Time.sub, sub_self] at helapsed
    exact absurd helapsed (not_le.mpr (recoveryMinutes_pos hstart.sound))
  · have hinv := steps_invariant (Clocked externalUUID key first.now)
      (admissible_cons.mp hrun).2 hclocked
      (fun s e hs he => hs.next he.1 he.2) taken hlater
    have hstays := (admissible_cons.mp hrun).2 taken hlater
    rw [hinput] at hstays
    exact hinv.announced hdone (hstays.1 squads' desired' hdone) htarget
      helapsed

theorem staysHealthy_reconcile {s : Service} {input : PassInput}
    {squads : List ExternalSquad} {u key : Text}
    (hsquads : input.externalSquads = .ok squads)
    (h : SeesHealthy s input squads u key) :
    StaysHealthy u key s (.reconcile input) := by
  rintro others desired ⟨-, hothers, -⟩
  rw [hsquads] at hothers
  obtain rfl := Except.ok.inj hothers
  exact h

namespace Sample

/-- The node is up while the panel shows the outage. -/
def upAt (now : Time) : PassInput :=
  pass up (announce "rwEncodeBase64:D") now

def panelDown : Except Text Unit := .error "panel is down"

/-- The pass that finds the clock run out cannot update the panel. -/
def failingPass : PassInput :=
  { upAt (late + 61 * second) with
    updateExternalHeaders := fun _ _ => panelDown }

def showingOutage : List ExternalSquad :=
  [{ uuid := "e", name := "E"
     responseHeadersAdd := announce "rwEncodeBase64:D" }]

def outageTarget : DesiredAnnouncement where
  message := "D"
  knownHealthyMessage := "ok"
  groups := (∅ : GoMap Text Text).insert "L" "L"

/-- What a pass announces that holds the recovered location back. -/
def heldBack (since : Time) : DesiredProgress where
  desired := (∅ : GoMap Text DesiredAnnouncement).insert "e" outageTarget
  nextRecovery := (∅ : GoMap Text Time).insert (recoveryKey "e" "L") since

theorem service_reliable : service.Reliable :=
  ⟨⟨by decide, by decide, fun _ h => nomatch h⟩,
    by decide,
    fun u record hrecord => by simp [service, defaultRuntime] at hrecord,
    fun _ h => nomatch h⟩

/-- One failed update at the end of the recovery time makes the next pass list
the location again, two seconds after it was due to go. -/
theorem recovery_clock_restarts :
    MonotoneClock [.reconcile (pass down ∅ late),
      .reconcile (upAt (late + second)), .reconcile failingPass,
      .reconcile (upAt (late + 63 * second))] ∧
    Admissible Service.next (StaysHealthy "e" "L")
      (run Service.next service [.reconcile (pass down ∅ late)])
      [.reconcile (upAt (late + second)), .reconcile failingPass,
        .reconcile (upAt (late + 63 * second))] ∧
    ∃ target, Completed
        (run Service.next service [.reconcile (pass down ∅ late),
          .reconcile (upAt (late + second)), .reconcile failingPass])
        (upAt (late + 63 * second)) showingOutage
        (heldBack (late + 63 * second)) ∧
      (heldBack (late + 63 * second)).desired[("e" : Text)]? = some target ∧
      minutes config.policy.recoveryMinutes ≤
        (late + 63 * second).sub (late + second) ∧
      target.state "L" = some .groupDown := by
  refine ⟨by decide, ?_, outageTarget,
    ⟨by decide +kernel, rfl, by decide +kernel⟩, by decide +kernel,
    by decide, by decide⟩
  exact admissible_cons.mpr
    ⟨staysHealthy_reconcile rfl ⟨"L", by decide_cbv⟩,
      admissible_cons.mpr
        ⟨staysHealthy_reconcile rfl ⟨"L", by decide +kernel⟩,
          admissible_cons.mpr
            ⟨staysHealthy_reconcile rfl ⟨"L", by decide +kernel⟩,
              admissible_nil _⟩⟩⟩

/-- What a pass announces that finds everything healthy. -/
def healthyTarget : DesiredAnnouncement where
  message := "ok"
  knownHealthyMessage := "ok"

theorem recovered_location_withdrawn_sample :
    healthyTarget.state "L" = none :=
  recovered_location_withdrawn service service_reliable rfl
    [.reconcile (pass down ∅ late)]
    (admissible_cons.mpr ⟨⟨trivial, trivial⟩, admissible_nil _⟩) "e" "L"
    (upAt (late + second)) [.reconcile (upAt (late + 61 * second))]
    (by decide)
    ⟨showingOutage, heldBack (late + second), by decide_cbv, rfl,
      by decide_cbv⟩
    (admissible_cons.mpr
      ⟨⟨staysHealthy_reconcile rfl ⟨"L", by decide_cbv⟩,
        fun _ _ _ => ⟨(), rfl⟩⟩,
        admissible_cons.mpr
          ⟨⟨staysHealthy_reconcile rfl ⟨"L", by decide +kernel⟩,
            fun _ _ _ => ⟨(), rfl⟩⟩, admissible_nil _⟩⟩)
    _ (.tail _ (.head _)) (upAt (late + 61 * second)) showingOutage
    healthyDesired healthyTarget rfl ⟨by decide +kernel, rfl, by decide +kernel⟩
    (by decide +kernel) (by decide +kernel)

end Sample

end XrayChecker.Remnawave

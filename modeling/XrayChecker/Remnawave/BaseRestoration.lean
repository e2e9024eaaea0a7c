import XrayChecker.Remnawave.Deployment

/-
The operator's announce text comes back as it was.  Along a run in which only
the checker writes the headers of a squad and its updates succeed, the announce
header is the operator's text under the message the checker shows, and the
text alone when it shows none.
-/

namespace XrayChecker.Remnawave

open Go Machine

/-- The operator text found before the first pass: none, or one line the
checker may append to. -/
structure AnnounceBase.Appendable (base : AnnounceBase) : Prop where
  present : base.present = true → isAppendableBaseAnnounce base.value = true
  absent : base.present = false → base.value = []

/-- The base an adoption must not stand for: a text that the operator's one
goes on from. -/
def Shortens (base : AnnounceBase) (adopted : Text) : Prop :=
  base.present = true ∧ hasPrefix base.value adopted = true ∧
    adopted ≠ base.value

/-- The operator's text is not the announce value of a message by itself. -/
def NotMessage (base : AnnounceBase) (target : DesiredAnnouncement) : Prop :=
  base.present = true →
    base.value ≠ announceValuePrefix ++ target.message ∧
      base.value ≠ announceValuePrefix ++ target.knownHealthyMessage

/-- The message shown by a squad's ownership record. -/
def shownMessage (managed : Option ManagedAnnouncement) : Text :=
  (managed.map ManagedAnnouncement.message).getD []

/-- The record of a squad is about the operator's text. -/
def BuildsOn (base : AnnounceBase) (managed : Option ManagedAnnouncement) :
    Prop :=
  ∀ m, managed = some m →
    AnnounceBase.mk m.basePresent m.baseValue = base

/-- The base a message is shown over, when the operator's own text is met. -/
theorem takeOver_original {base found : AnnounceBase}
    {adopted remembered : Option Text} {target : DesiredAnnouncement}
    (happendable : base.Appendable) (hpresent : base.present = true)
    (hadopted : ∀ b, adopted = some b → ¬ Shortens base b)
    (hmessage : NotMessage base target)
    (h : takeOver adopted remembered target base.value = some found) :
    found = base := by
  have hself : (⟨true, base.value⟩ : AnnounceBase) = base := by
    rw [← hpresent]
  cases takeOver_cases h with
  | adopted b hb hstarts =>
      have hsame : b = base.value := by
        by_contra hne
        exact hadopted b hb ⟨hpresent, hstarts, hne⟩
      rw [hsame]
      exact hself
  | restored _ => exact hself
  | known known hknown =>
      exfalso
      obtain ⟨message, hmem, hne, hvalue, hcase⟩ :=
        splitKnownManagedAnnounce_sound hknown
      rcases hcase with rfl | ⟨htrue, -⟩
      · rw [composeManagedAnnounce_none hne] at hvalue
        simp only [List.mem_cons, List.not_mem_nil, or_false] at hmem
        rcases hmem with rfl | rfl
        · exact (hmessage hpresent).1 hvalue
        · exact (hmessage hpresent).2 hvalue
      · rw [htrue, composeManagedAnnounce_base hne] at hvalue
        refine (isAppendableBaseAnnounce_iff.mp
          (happendable.present hpresent)).2 ?_
        rw [hvalue]
        simp
  | appendable _ _ => exact hself

/-- The operator's own text is always taken over. -/
theorem takeOver_appendable {adopted remembered : Option Text}
    {target : DesiredAnnouncement} {value : Text}
    (happendable : isAppendableBaseAnnounce value = true) :
    takeOver adopted remembered target value ≠ none := by
  unfold takeOver
  split
  · simp
  · split
    · simp
    · split
      · simp
      · simp

theorem published_nil (base : AnnounceBase) :
    base.published [] = base.header := rfl

theorem published_of_ne_nil (base : AnnounceBase) {message : Text}
    (h : message ≠ []) :
    base.published message =
      .single (composeManagedAnnounce base.present base.value message) := by
  rw [AnnounceBase.published, if_neg h]

/-- What one iteration leaves in the panel and in the record of its squad. -/
structure Restores (base : AnnounceBase) (target : DesiredAnnouncement)
    (headers : GoMap Text Text) (outcome : SquadOutcome) : Prop where
  conflict : outcome.conflict = none
  header : headerValue (outcome.request.getD headers) announceHeader =
    base.published target.message
  shown : shownMessage outcome.managed = target.message
  record : BuildsOn base outcome.managed

theorem restores_sendSquad {base : AnnounceBase}
    {send : GoMap Text Text → Except Text Unit} {now : Time}
    {target : DesiredAnnouncement} {squad : ExternalSquad}
    {start : SquadOutcome} (hsend : ∀ sent, send sent = .ok ())
    (hconflict : start.conflict = none) :
    Restores base target squad.responseHeadersAdd
      (sendSquad send now target squad base start) := by
  have hheader := headerValue_headersToSend squad.responseHeadersAdd base
    target.message
  cases sendSquad_cases send now target squad base start with
  | failed hupdate => exact absurd (hsend _) (hupdate ())
  | withdrawn hmessage hmanaged _ =>
      refine ⟨by simpa using hconflict, by simpa using hheader, ?_, ?_⟩
      · rw [hmanaged, hmessage]
        rfl
      · rw [hmanaged]
        exact fun m hm => nomatch hm
  | published hmessage hmanaged _ =>
      refine ⟨by simpa using hconflict, by simpa using hheader, ?_, ?_⟩
      · rw [hmanaged]
        rfl
      · rw [hmanaged]
        intro m hm
        obtain rfl := Option.some.inj hm
        rfl

/-- Step lemma: one iteration over a squad that shows the operator's text, or
the text under the recorded message, makes it show the target's message. -/
theorem reconcileSquad_restores {externalUUID : Text} {base : AnnounceBase}
    {adopted : Option Text} {send : GoMap Text Text → Except Text Unit}
    {now : Time} {target : DesiredAnnouncement} {squad : ExternalSquad}
    {previous : Option ManagedAnnouncement} {restored : Option Text}
    (happendable : base.Appendable)
    (hadopted : previous = none → target.message ≠ [] →
      ∀ b, adopted = some b → ¬ Shortens base b)
    (hmessage : NotMessage base target) (hsend : ∀ sent, send sent = .ok ())
    (hvalid : ∀ m, previous = some m → ValidManaged externalUUID m)
    (hheader : headerValue squad.responseHeadersAdd announceHeader =
      base.published (shownMessage previous))
    (hrecord : BuildsOn base previous) :
    Restores base target squad.responseHeadersAdd
      (reconcileSquad adopted send now target squad previous restored) := by
  have hshown (p : ManagedAnnouncement) (hprevious : previous = some p) :
      headerValue squad.responseHeadersAdd announceHeader =
        .single p.value := by
    have hp := hvalid p hprevious
    have hbase := hrecord p hprevious
    rw [hheader, hprevious, shownMessage, Option.map_some, Option.getD_some,
      published_of_ne_nil _ hp.message, hp.value, ← hbase]
  cases reconcileSquad_cases adopted send now target squad previous
    restored with
  | duplicate hcurrent =>
      rw [hheader] at hcurrent
      unfold AnnounceBase.published AnnounceBase.header at hcurrent
      split_ifs at hcurrent
  | changedOutside p hprevious hcurrent =>
      exact absurd (hshown p hprevious) hcurrent
  | refreshed p q hprevious hcurrent hne hvalue hq hmanaged _ hrequest
        hconflict =>
      have hbase := hrecord p hprevious
      refine ⟨hconflict, ?_, ?_, ?_⟩
      · rw [hrequest, Option.getD_none, hcurrent, hvalue,
          published_of_ne_nil _ hne, ← hbase]
      · rw [hmanaged]
        rcases hq with ⟨rfl, hdescribes⟩ | rfl
        · simp only [describes, Bool.and_eq_true, beq_iff_eq] at hdescribes
          exact hdescribes.1.1.1
        · rfl
      · rw [hmanaged]
        intro m hm
        obtain rfl := Option.some.inj hm
        rcases hq with ⟨rfl, -⟩ | rfl <;> exact hbase
  | rewritten p start hprevious _ hstart houtcome =>
      rw [houtcome, hrecord p hprevious]
      exact restores_sendSquad hsend hstart.2.2.1
  | idle hprevious hnone hmanaged _ hrequest hconflict =>
      refine ⟨hconflict, ?_, ?_, ?_⟩
      · rw [hrequest, Option.getD_none, hheader, hprevious, hnone]
        rfl
      · rw [hmanaged, hnone]
        rfl
      · rw [hmanaged]
        exact fun m hm => nomatch hm
  | claimed found start hprevious hfound hstart houtcome =>
      have hoperator : headerValue squad.responseHeadersAdd announceHeader =
          base.header := by
        rw [hheader, hprevious]
        rfl
      have hfoundBase : found = base := by
        cases hfound with
        | absent hcurrent _ =>
            cases hpresent : base.present with
            | true =>
                rw [hoperator, AnnounceBase.header, hpresent,
                  if_pos rfl] at hcurrent
                cases hcurrent
            | false =>
                rw [← happendable.absent hpresent, ← hpresent]
        | taken value hcurrent hne htaken =>
            cases hpresent : base.present with
            | true =>
                rw [hoperator, AnnounceBase.header, hpresent,
                  if_pos rfl] at hcurrent
                obtain rfl := HeaderLookup.single.inj hcurrent
                exact takeOver_original happendable hpresent
                  (hadopted hprevious hne) hmessage htaken
            | false =>
                rw [hoperator, AnnounceBase.header, hpresent,
                  if_neg Bool.false_ne_true] at hcurrent
                cases hcurrent
      rw [houtcome, hfoundBase]
      exact restores_sendSquad hsend hstart.2.2.1
  | unrecognized value hprevious hcurrent _ hrefused =>
      exfalso
      rw [hheader, hprevious] at hcurrent
      change base.header = .single value at hcurrent
      cases hpresent : base.present with
      | true =>
          rw [AnnounceBase.header, hpresent, if_pos rfl] at hcurrent
          obtain rfl := HeaderLookup.single.inj hcurrent
          exact takeOver_appendable (happendable.present hpresent) hrefused
      | false =>
          rw [AnnounceBase.header, hpresent,
            if_neg Bool.false_ne_true] at hcurrent
          cases hcurrent

/-- The steps of a run in which the checker is alone with the squad and every
write succeeds. -/
def Undisturbed (externalUUID : Text) (base : AnnounceBase) (w : World) :
    Event → Prop
  | .configure config => validateConfig config = .ok ()
  | .reconcile input =>
      ShowsHeaders externalUUID w.headers input ∧
        (∀ sent, input.updateExternalHeaders externalUUID sent = .ok ()) ∧
        input.disk = .ok () ∧
        ∀ target squad, Reached w.service input externalUUID target squad →
          NotMessage base target
  | .lose => False
  | _ => True

/-- A pass that publishes over the operator's text does not find a shorter
text adopted that the operator's one goes on from. -/
def NoShorterAdoption (externalUUID : Text) (base : AnnounceBase) (w : World) :
    Event → Prop
  | .reconcile input =>
      ∀ target squad, Reached w.service input externalUUID target squad →
        w.service.runtime.managed[externalUUID]? = none →
          target.message ≠ [] →
            ∀ b, w.service.config.announceBases[externalUUID]? = some b →
              ¬ Shortens base b
  | _ => True

/-- The steps the restoration is proved for. -/
def LeftAlone (externalUUID : Text) (base : AnnounceBase) (w : World)
    (e : Event) : Prop :=
  Undisturbed externalUUID base w e ∧ NoShorterAdoption externalUUID base w e

/-- What holds of the panel and of the records all along such a run. -/
structure Carried (externalUUID : Text) (base : AnnounceBase) (w : World) :
    Prop where
  sound : w.service.Sound
  persisted : w.service.Persisted
  header : headerValue w.headers announceHeader =
    base.published (shownMessage w.service.runtime.managed[externalUUID]?)
  record : BuildsOn base w.service.runtime.managed[externalUUID]?

/-- The headers a pass leaves in the panel when every update succeeds. -/
theorem headersAfter_toList {send : GoMap Text Text → Except Text Unit}
    (hsend : ∀ sent, send sent = .ok ()) (request : Option (GoMap Text Text))
    (headers : GoMap Text Text) :
    headersAfter send request.toList headers = request.getD headers := by
  cases request with
  | none => rfl
  | some sent => simp [headersAfter, hsend]

namespace Carried

variable {externalUUID : Text} {base : AnnounceBase} {w : World}

/-- What a pass does to a squad that is left alone. -/
theorem pass (happendable : base.Appendable)
    (h : Carried externalUUID base w) {input : PassInput}
    (hallowed : LeftAlone externalUUID base w (.reconcile input)) :
    (reconcileNow w.service input).squadConflicts[externalUUID]? = none ∧
      (∀ target squad, Reached w.service input externalUUID target squad →
        headerValue (w.next externalUUID (.reconcile input)).headers
          announceHeader = base.published target.message) ∧
      Carried externalUUID base (w.next externalUUID (.reconcile input)) := by
  obtain ⟨⟨hshows, hsend, hdisk, hmessage⟩, hadopted⟩ := hallowed
  have hsound := h.sound.reconcileNow input
  have hpersisted := h.persisted.reconcileNow h.sound hdisk
  cases reconcileNow_squad w.service input externalUUID with
  | untouched hwhy hmanaged _ hrequests hconflict =>
      have hheaders : (w.next externalUUID (.reconcile input)).headers =
          w.headers := by
        change headersAfter _ (requestsFor externalUUID _) _ = _
        rw [hrequests]
        rfl
      refine ⟨hconflict, fun target squad hreached =>
        absurd hreached (hwhy target squad), hsound, hpersisted, ?_, ?_⟩
      · rw [hheaders]
        change _ = base.published (shownMessage
          (reconcileNow w.service input).service.runtime.managed[externalUUID]?)
        rw [hmanaged]
        exact h.header
      · change BuildsOn base
          (reconcileNow w.service input).service.runtime.managed[externalUUID]?
        rw [hmanaged]
        exact h.record
  | reconciled target squad outcome hreached houtcome hmanaged _ hrequests
      hconflict =>
      obtain ⟨squads, hsquads, hmem, huuid⟩ := hreached.mem
      have hsquad := hshows squads hsquads squad hmem huuid
      have hvalid : ∀ m,
          w.service.runtime.managed[externalUUID]? = some m →
            ValidManaged externalUUID m :=
        ((validateRuntime_eq_ok.mp h.sound.runtime).2 externalUUID).1
      have hrestores :
          Restores base target squad.responseHeadersAdd outcome := by
        rw [houtcome]
        exact reconcileSquad_restores happendable
          (hadopted target squad hreached) (hmessage target squad hreached)
          hsend hvalid (by rw [hsquad]; exact h.header) h.record
      have hheader : headerValue
          (w.next externalUUID (.reconcile input)).headers announceHeader =
            base.published target.message := by
        change headerValue (headersAfter _ (requestsFor externalUUID _) _) _ = _
        rw [hrequests, headersAfter_toList hsend, ← hsquad]
        exact hrestores.header
      refine ⟨hconflict.trans hrestores.conflict, ?_, hsound, hpersisted, ?_,
        ?_⟩
      · intro other again hother
        obtain ⟨-, squads', desired, hsquads', hdesired, htarget, -⟩ := hreached
        obtain ⟨-, others, found, hothers, hfound, hother, -⟩ := hother
        rw [hsquads'] at hothers
        obtain rfl := Except.ok.inj hothers
        rw [hdesired] at hfound
        obtain rfl := Except.ok.inj hfound
        rw [htarget] at hother
        obtain rfl := Option.some.inj hother
        exact hheader
      · rw [hheader]
        change _ = base.published (shownMessage
          (reconcileNow w.service input).service.runtime.managed[externalUUID]?)
        rw [hmanaged, hrestores.shown]
      · change BuildsOn base
          (reconcileNow w.service input).service.runtime.managed[externalUUID]?
        rw [hmanaged]
        exact hrestores.record

theorem next (happendable : base.Appendable) (h : Carried externalUUID base w)
    {e : Event} (hallowed : LeftAlone externalUUID base w e) :
    Carried externalUUID base (w.next externalUUID e) := by
  cases e with
  | configure config =>
      exact ⟨h.sound.next (e := .configure config) hallowed.1, h.persisted,
        h.header, h.record⟩
  | refresh topology =>
      exact ⟨h.sound.next (e := .refresh topology) trivial, h.persisted,
        h.header, h.record⟩
  | observe source =>
      exact ⟨h.sound.next (e := .observe source) trivial, h.persisted,
        h.header, h.record⟩
  | reconcile input => exact (h.pass happendable hallowed).2.2
  | restart =>
      obtain ⟨hpersisted, hsame, -⟩ := h.persisted.restart h.sound
      refine ⟨h.sound.restart, hpersisted, ?_, ?_⟩
      · change headerValue w.headers announceHeader =
          base.published (shownMessage
            (restart w.service).runtime.managed[externalUUID]?)
        rw [hsame]
        exact h.header
      · change BuildsOn base (restart w.service).runtime.managed[externalUUID]?
        rw [hsame]
        exact h.record
  | lose => exact absurd hallowed.1 id

end Carried

/-- Run theorem: as long as no pass that publishes finds an adopted base that
stops short of the operator's text, the header is that text under the message shown, byte for
byte, and no pass reports a conflict for the squad. -/
theorem announce_base_restored (externalUUID : Text) (base : AnnounceBase)
    (happendable : base.Appendable) (start : World)
    (hsound : start.service.Sound) (hpersisted : start.service.Persisted)
    (hfresh : start.service.runtime.managed[externalUUID]? = none)
    (hheader : headerValue start.headers announceHeader = base.header)
    (events : List Event)
    (hrun : Admissible (World.next externalUUID) (LeftAlone externalUUID base)
      start events) :
    headerValue (run (World.next externalUUID) start events).headers
        announceHeader =
      base.published (shownMessage (run (World.next externalUUID) start
        events).service.runtime.managed[externalUUID]?) ∧
      ∀ input, LeftAlone externalUUID base
        (run (World.next externalUUID) start events) (.reconcile input) →
        (reconcileNow (run (World.next externalUUID) start events).service
            input).squadConflicts[externalUUID]? = none ∧
          ∀ target squad,
            Reached (run (World.next externalUUID) start events).service input
              externalUUID target squad →
            headerValue ((run (World.next externalUUID) start events).next
              externalUUID (.reconcile input)).headers announceHeader =
                base.published target.message := by
  have hcarried := run_invariant (Carried externalUUID base) hrun
    ⟨hsound, hpersisted, by rw [hfresh]; exact hheader,
      by rw [hfresh]; exact fun m hm => nomatch hm⟩
    (fun w e hw he => hw.next happendable he)
  refine ⟨hcarried.header, fun input hallowed => ?_⟩
  obtain ⟨hconflict, hshown, -⟩ := hcarried.pass happendable hallowed
  exact ⟨hconflict, hshown⟩

namespace Sample

/-- The operator's text of the sample squad. -/
def operatorBase : AnnounceBase := ⟨true, "rwEncodeBase64:AB"⟩

/-- The sample deployment with a base adopted for the squad. -/
def world (bases : GoMap Text Text) : World where
  service := { service with config := { config with announceBases := bases } }
  headers := announce "rwEncodeBase64:AB"

/-- The bases that stop short of the operator's text. -/
def shorterBases : GoMap Text Text :=
  (∅ : GoMap Text Text).insert "e" "rwEncodeBase64:A"

def healthyPass : PassInput := pass up (announce "rwEncodeBase64:AB") 1

theorem operatorBase_appendable : operatorBase.Appendable :=
  ⟨fun _ => by decide, fun h => nomatch h⟩

theorem healthyPass_undisturbed {bases : GoMap Text Text}
    (hdesired : passDesired (world bases).service healthyPass
      [{ uuid := "e", name := "E",
         responseHeadersAdd := announce "rwEncodeBase64:AB" }] =
        .ok healthyDesired) :
    Undisturbed "e" operatorBase (world bases) (.reconcile healthyPass) := by
  refine ⟨?_, fun _ => rfl, rfl, ?_⟩
  · intro squads hsquads squad hsquad _
    obtain rfl := Except.ok.inj hsquads
    rw [List.mem_singleton.mp hsquad]
    rfl
  · rintro target squad ⟨-, squads, desired, hsquads, hfound, htarget, -⟩
    obtain rfl := Except.ok.inj hsquads
    rw [hdesired] at hfound
    obtain rfl := Except.ok.inj hfound
    have hmessages : target.message = "ok" ∧
        target.knownHealthyMessage = "ok" := by
      have hentry : healthyDesired.desired[("e" : Text)]? =
          some { message := "ok", knownHealthyMessage := "ok" } := by
        decide
      rw [hentry] at htarget
      obtain rfl := Option.some.inj htarget
      exact ⟨rfl, rfl⟩
    intro _
    rw [hmessages.1, hmessages.2]
    decide

/-- With a shorter base adopted, the first pass cuts the operator's text. -/
theorem announce_base_cut :
    operatorBase.Appendable ∧ (world shorterBases).service.Sound ∧
      (world shorterBases).service.Persisted ∧
      (world shorterBases).service.runtime.managed[("e" : Text)]? = none ∧
      headerValue (world shorterBases).headers announceHeader =
        operatorBase.header ∧
      Admissible (World.next "e") (Undisturbed "e" operatorBase)
        (world shorterBases) [.reconcile healthyPass] ∧
      headerValue (run (World.next "e") (world shorterBases)
        [.reconcile healthyPass]).headers announceHeader ≠
          operatorBase.published (shownMessage (run (World.next "e")
            (world shorterBases)
            [.reconcile healthyPass]).service.runtime.managed[("e" : Text)]?)
    := by
  refine ⟨operatorBase_appendable,
    ⟨by decide, by decide, fun _ h => nomatch h⟩,
    SameRecords.rfl, by decide, by decide, ?_,
    by decide_cbv⟩
  exact admissible_cons.mpr
    ⟨healthyPass_undisturbed (by decide_cbv), admissible_nil _⟩

theorem announce_base_restored_healthy :
    headerValue (run (World.next "e") (world ∅)
        [.reconcile healthyPass]).headers announceHeader =
      operatorBase.published (shownMessage (run (World.next "e") (world ∅)
        [.reconcile healthyPass]).service.runtime.managed[("e" : Text)]?) :=
  (announce_base_restored "e" operatorBase operatorBase_appendable (world ∅)
    ⟨by decide, by decide, fun _ h => nomatch h⟩
    SameRecords.rfl (by decide) (by decide)
    [.reconcile healthyPass]
    (admissible_cons.mpr
      ⟨⟨healthyPass_undisturbed (by decide_cbv),
        fun _ _ _ _ _ b hb => by simp [world] at hb⟩,
        admissible_nil _⟩)).1

end Sample

end XrayChecker.Remnawave

import XrayChecker.Remnawave.BaseRestoration

/-
A status line stays out of the operator's text.  The ownership file may be
lost before any pass and any panel update or file write may fail; as long as
the checker can tell its own stale line from the operator's text, every record
is about that text and the panel shows it under at most one status line.
-/

namespace XrayChecker.Remnawave

open Go Machine

/-- The steps of a run in which nobody but the checker edits the squad. -/
def Unedited (externalUUID : Text) (w : World) : Event → Prop
  | .configure config => validateConfig config = .ok ()
  | .reconcile input => ShowsHeaders externalUUID w.headers input
  | _ => True

/-- What a pass with a message needs so that it can tell a stale status line
from the operator's text: the text is adopted; or nothing is adopted and the
text is one line that is no message by itself; or there is no text, and a
value found without an owner is one of the messages the pass knows. -/
inductive Tellable (base : AnnounceBase) (adopted : Option Text)
    (target : DesiredAnnouncement) (current : HeaderLookup) : Prop where
  | adopted (hpresent : base.present = true)
      (hadopted : adopted = some base.value)
  | oneLine (hpresent : base.present = true) (hadopted : adopted = none)
      (hline : '\n' ∉ base.value) (hmessage : NotMessage base target)
  | nothing (habsent : base = {}) (hadopted : adopted = none)
      (hknown : ∀ value, current = .single value →
        value = announceValuePrefix ++ target.message ∨
          target.knownHealthyMessage ≠ [] ∧
            value = announceValuePrefix ++ target.knownHealthyMessage)

/-- At every pass that has a message for a squad without a record, the pass
can tell status lines apart. -/
def TellsStatus (externalUUID : Text) (base : AnnounceBase) (w : World) :
    Event → Prop
  | .reconcile input =>
      ∀ target squad, Reached w.service input externalUUID target squad →
        w.service.runtime.managed[externalUUID]? = none →
          target.message ≠ [] →
            Tellable base w.service.config.announceBases[externalUUID]? target
              (headerValue w.headers announceHeader)
  | _ => True

/-- An announce value that is the operator's text under at most one line. -/
def OneStatus (base : AnnounceBase) (current : HeaderLookup) : Prop :=
  ∃ message, '\n' ∉ message ∧ current = base.published message

/-- Records that speak of the operator's text only. -/
structure OperatorRecords (base : AnnounceBase)
    (managed : Option ManagedAnnouncement) (restored : Option Text) : Prop where
  managed : BuildsOn base managed
  restored : ∀ text, restored = some text →
    base.present = true ∧ text = base.value

theorem present_eq {base : AnnounceBase} (hpresent : base.present = true) :
    (⟨true, base.value⟩ : AnnounceBase) = base := by
  rw [← hpresent]

/-- The two shapes of a value over an operator text that exists. -/
theorem oneStatus_present {base : AnnounceBase} {value : Text}
    (hpresent : base.present = true) (h : OneStatus base (.single value)) :
    value = base.value ∨
      ∃ shown, '\n' ∉ shown ∧ value = base.value ++ '\n' :: shown := by
  obtain ⟨shown, hshown, hvalue⟩ := h
  by_cases hempty : shown = []
  · rw [hempty, published_nil, AnnounceBase.header, hpresent,
      if_pos rfl] at hvalue
    exact .inl (HeaderLookup.single.inj hvalue)
  · rw [published_of_ne_nil _ hempty, hpresent,
      composeManagedAnnounce_base hempty] at hvalue
    exact .inr ⟨shown, hshown, HeaderLookup.single.inj hvalue⟩

/-- A message without an operator text has no line break. -/
theorem bareMessage_not_mem_newline {message : Text} (h : '\n' ∉ message) :
    '\n' ∉ announceValuePrefix ++ message := by
  intro hmem
  rcases List.mem_append.mp hmem with hhead | htail
  · exact absurd hhead (by decide)
  · exact h htail

section TakeOver

variable {base found : AnnounceBase} {adopted remembered : Option Text}
    {target : DesiredAnnouncement} {value : Text}

theorem takeOver_adopted (hpresent : base.present = true)
    (hadopted : adopted = some base.value)
    (hcurrent : OneStatus base (.single value))
    (h : takeOver adopted remembered target value = some found) :
    found = base := by
  have hstarts : hasPrefix value base.value = true := by
    rcases oneStatus_present hpresent hcurrent with rfl | ⟨shown, -, rfl⟩
    · exact hasPrefix_iff.mpr ⟨[], (List.append_nil _).symm⟩
    · exact hasPrefix_append _ _
  have htaken : takeOver adopted remembered target value =
      some ⟨true, base.value⟩ := by
    simp [takeOver, hadopted, Option.filter, hstarts]
  rw [h] at htaken
  rw [Option.some.inj htaken]
  exact present_eq hpresent

/-- A recognised message over a one-line text gives that text back. -/
theorem splitKnown_oneLine {known : Bool × Text}
    (hpresent : base.present = true) (hbase : '\n' ∉ base.value)
    (hnotMessage : NotMessage base target)
    (hline : '\n' ∉ target.message)
    (hhealthy : '\n' ∉ target.knownHealthyMessage)
    (hcurrent : OneStatus base (.single value))
    (hknown : splitKnownManagedAnnounce value
      [target.message, target.knownHealthyMessage] = some known) :
    known = (true, base.value) := by
  obtain ⟨message, hmem, hne, hcomposed, hcase⟩ :=
    splitKnownManagedAnnounce_sound hknown
  have hmessage : '\n' ∉ message ∧ base.value ≠ announceValuePrefix ++
    message := by
    simp only [List.mem_cons, List.not_mem_nil, or_false] at hmem
    rcases hmem with rfl | rfl
    · exact ⟨hline, (hnotMessage hpresent).1⟩
    · exact ⟨hhealthy, (hnotMessage hpresent).2⟩
  rcases hcase with rfl | ⟨htrue, -⟩
  · rw [composeManagedAnnounce_none hne] at hcomposed
    rcases oneStatus_present hpresent hcurrent with rfl | ⟨shown, -, rfl⟩
    · exact absurd hcomposed hmessage.2
    · exact absurd (by rw [← hcomposed]; simp)
        (bareMessage_not_mem_newline hmessage.1)
  · rw [htrue, composeManagedAnnounce_base hne] at hcomposed
    rcases oneStatus_present hpresent hcurrent with rfl | ⟨shown, hshown, rfl⟩
    · exact absurd (by rw [hcomposed]; simp) hbase
    · exact Prod.ext htrue (append_line_inj hshown hmessage.1 hcomposed).1.symm

theorem takeOver_oneLine (hpresent : base.present = true)
    (hadopted : adopted = none) (hbase : '\n' ∉ base.value)
    (hnotMessage : NotMessage base target)
    (hline : '\n' ∉ target.message)
    (hhealthy : '\n' ∉ target.knownHealthyMessage)
    (hcurrent : OneStatus base (.single value))
    (hremembered : ∀ text, remembered = some text → text = base.value)
    (h : takeOver adopted remembered target value = some found) :
    found = base := by
  cases takeOver_cases h with
  | adopted b hb _ =>
      rw [hadopted] at hb
      cases hb
  | restored hrestored =>
      rw [hremembered value hrestored]
      exact present_eq hpresent
  | known known hknown =>
      rw [splitKnown_oneLine hpresent hbase hnotMessage hline hhealthy hcurrent
        hknown]
      exact present_eq hpresent
  | appendable happendable _ =>
      rcases oneStatus_present hpresent hcurrent with rfl | ⟨shown, -, rfl⟩
      · exact present_eq hpresent
      · exact absurd (by simp) (isAppendableBaseAnnounce_iff.mp happendable).2

/-- A bare status line is recognised as one of the messages the pass knows. -/
theorem splitKnown_bare (hmessage : target.message ≠ [])
    (hhealthy : '\n' ∉ target.knownHealthyMessage)
    (hvalue : value = announceValuePrefix ++ target.message ∨
      target.knownHealthyMessage ≠ [] ∧
        value = announceValuePrefix ++ target.knownHealthyMessage) :
    splitKnownManagedAnnounce value
      [target.message, target.knownHealthyMessage] = some (false, []) := by
  rw [splitKnownManagedAnnounce, if_neg hmessage]
  by_cases hfirst : value = announceValuePrefix ++ target.message
  · rw [if_pos hfirst]
  · obtain ⟨hne, hsame⟩ := hvalue.resolve_left hfirst
    have hsuffix : hasSuffix value ('\n' :: target.message) = false := by
      rw [← Bool.not_eq_true]
      intro hends
      obtain ⟨front, hfront⟩ := hasSuffix_iff.mp hends
      exact bareMessage_not_mem_newline hhealthy
        (by rw [← hsame, hfront]; simp)
    rw [if_neg hfirst, hsuffix, Bool.false_and, if_neg Bool.false_ne_true,
      splitKnownManagedAnnounce, if_neg hne, if_pos hsame]

/-- A value found without an owner is taken over as the operator's text. -/
theorem takeOver_operator (hcurrent : OneStatus base (.single value))
    (hremembered : ∀ text, remembered = some text →
      base.present = true ∧ text = base.value)
    (hmessage : target.message ≠ []) (hline : '\n' ∉ target.message)
    (hhealthy : '\n' ∉ target.knownHealthyMessage)
    (htell : Tellable base adopted target (.single value))
    (h : takeOver adopted remembered target value = some found) :
    found = base := by
  cases htell with
  | adopted hpresent hadopted =>
      exact takeOver_adopted hpresent hadopted hcurrent h
  | oneLine hpresent hadopted hbase hnotMessage =>
      exact takeOver_oneLine hpresent hadopted hbase hnotMessage hline hhealthy
        hcurrent (fun text htext => (hremembered text htext).2) h
  | nothing habsent hadopted hknown =>
      have hforgotten : remembered ≠ some value := by
        intro hremember
        have hpresent := (hremembered value hremember).1
        rw [habsent] at hpresent
        cases hpresent
      have hrecognised := splitKnown_bare hmessage hhealthy (hknown value rfl)
      have htaken : takeOver adopted remembered target value =
          some ⟨false, []⟩ := by
        simp [takeOver, hadopted, Option.filter, hforgotten, hrecognised]
      rw [h] at htaken
      rw [Option.some.inj htaken, habsent]

end TakeOver

/-- An update is about the operator's text, whatever its outcome. -/
theorem sendSquad_operator {base : AnnounceBase}
    {send : GoMap Text Text → Except Text Unit} {now : Time}
    {target : DesiredAnnouncement} {squad : ExternalSquad}
    {start : SquadOutcome} (hline : '\n' ∉ target.message)
    (hstart : OperatorRecords base start.managed start.restored) :
    OperatorRecords base
        (sendSquad send now target squad base start).managed
        (sendSquad send now target squad base start).restored ∧
      ∀ sent, (sendSquad send now target squad base start).request =
          some sent →
        OneStatus base (headerValue sent announceHeader) := by
  refine ⟨?_, ?_⟩
  · cases sendSquad_cases send now target squad base start with
    | failed _ hmanaged hrestored =>
        rw [hmanaged, hrestored]
        exact hstart
    | withdrawn _ hmanaged hrestored =>
        rw [hmanaged, hrestored]
        refine ⟨fun m hm => (nomatch hm), fun text htext => ?_⟩
        split_ifs at htext with hpresent
        · exact ⟨hpresent, (Option.some.inj htext).symm⟩
        · exact hstart.restored text htext
    | published _ hmanaged hrestored =>
        rw [hmanaged, hrestored]
        refine ⟨fun m hm => ?_, fun text htext => nomatch htext⟩
        obtain rfl := Option.some.inj hm
        rfl
  · intro sent hsent
    rw [sendSquad_request] at hsent
    obtain rfl := Option.some.inj hsent
    exact ⟨target.message, hline, headerValue_headersToSend _ _ _⟩

/-- Step lemma: one iteration keeps the records and the panel value about the
operator's text. -/
theorem reconcileSquad_operator {base : AnnounceBase} {adopted : Option Text}
    {send : GoMap Text Text → Except Text Unit} {now : Time}
    {target : DesiredAnnouncement} {squad : ExternalSquad}
    {previous : Option ManagedAnnouncement} {restored : Option Text}
    (habsent : base.present = false → base.value = [])
    (hline : '\n' ∉ target.message)
    (hhealthy : '\n' ∉ target.knownHealthyMessage)
    (htell : previous = none → target.message ≠ [] →
      Tellable base adopted target
        (headerValue squad.responseHeadersAdd announceHeader))
    (hcurrent :
      OneStatus base (headerValue squad.responseHeadersAdd announceHeader))
    (hrecords : OperatorRecords base previous restored) :
    OperatorRecords base
        (reconcileSquad adopted send now target squad previous
          restored).managed
        (reconcileSquad adopted send now target squad previous
          restored).restored ∧
      ∀ sent, (reconcileSquad adopted send now target squad previous
          restored).request = some sent →
        OneStatus base (headerValue sent announceHeader) := by
  have hremembered (p : Option ManagedAnnouncement) :
      ∀ text, rememberedText squad p restored = some text →
        base.present = true ∧ text = base.value := fun text htext =>
    hrecords.restored text (Option.filter_eq_some_iff.mp htext).1
  cases reconcileSquad_cases adopted send now target squad previous
    restored with
  | duplicate _ hmanaged hrestored hrequest =>
      rw [hmanaged, hrestored, hrequest]
      exact ⟨⟨fun m hm => (nomatch hm), fun text htext => nomatch htext⟩,
        fun sent hsent => nomatch hsent⟩
  | changedOutside p _ _ hmanaged hrestored hrequest =>
      rw [hmanaged, hrestored, hrequest]
      exact ⟨⟨fun m hm => (nomatch hm), fun text htext => nomatch htext⟩,
        fun sent hsent => nomatch hsent⟩
  | refreshed p q hprevious _ _ _ hq hmanaged hrestored hrequest =>
      rw [hmanaged, hrestored, hrequest]
      refine ⟨⟨fun m hm => ?_, fun text htext => nomatch htext⟩,
        fun sent hsent => nomatch hsent⟩
      obtain rfl := Option.some.inj hm
      rcases hq with ⟨rfl, -⟩ | rfl
      · exact hrecords.managed _ hprevious
      · exact (hrecords.managed p hprevious :)
  | rewritten p start hprevious _ hstart houtcome =>
      rw [houtcome, hrecords.managed p hprevious]
      refine sendSquad_operator hline ⟨?_, ?_⟩
      · rw [hstart.1, ← hprevious]
        exact hrecords.managed
      · rw [hstart.2.1]
        exact fun text htext => nomatch htext
  | idle _ _ hmanaged hrestored hrequest =>
      rw [hmanaged, hrestored, hrequest]
      exact ⟨⟨fun m hm => (nomatch hm), hremembered none⟩,
        fun sent hsent => nomatch hsent⟩
  | claimed found start hprevious hfound hstart houtcome =>
      have hsame : found = base := by
        cases hfound with
        | absent hnone _ =>
            rw [hnone] at hcurrent
            obtain ⟨shown, -, hshown⟩ := hcurrent
            unfold AnnounceBase.published AnnounceBase.header at hshown
            split_ifs at hshown with hempty hpresent
            have hmissing : base.present = false := by simpa using hpresent
            rw [← habsent hmissing, ← hmissing]
        | taken value hvalue hne htaken =>
            rw [hvalue] at hcurrent
            have htell := htell hprevious hne
            rw [hvalue] at htell
            exact takeOver_operator hcurrent (hremembered none) hne hline
              hhealthy htell htaken
      rw [houtcome, hsame]
      refine sendSquad_operator hline ⟨?_, ?_⟩
      · rw [hstart.1]
        exact fun m hm => nomatch hm
      · rw [hstart.2.1]
        exact hremembered none
  | unrecognized value _ _ _ _ hmanaged hrestored hrequest =>
      rw [hmanaged, hrestored, hrequest]
      exact ⟨⟨fun m hm => (nomatch hm), hremembered none⟩,
        fun sent hsent => nomatch hsent⟩

/-- What holds all along a run in which status lines can be told apart. -/
structure StatusFree (externalUUID : Text) (base : AnnounceBase) (w : World) :
    Prop where
  header : OneStatus base (headerValue w.headers announceHeader)
  memory : OperatorRecords base w.service.runtime.managed[externalUUID]?
    w.service.runtime.restored[externalUUID]?
  file : ∀ document, w.service.runtimeFile = some document →
    OperatorRecords base document.managed[externalUUID]?
      document.restored[externalUUID]?

/-- A restart has the records of the file, or none. -/
theorem restart_records (s : Service) :
    (restart s).runtime = defaultRuntime ∨
      ∃ document, s.runtimeFile = some document ∧
        SameRecords (restart s).runtime document := by
  unfold restart loadRuntime
  dsimp only
  cases hread : readRuntimeFile s.runtimeFile with
  | error cause => exact .inl rfl
  | ok runtime =>
      cases hfile : s.runtimeFile with
      | none =>
          rw [hfile] at hread
          exact .inl (Except.ok.inj hread).symm
      | some document =>
          rw [hfile, readRuntimeFile, bind_unit_eq_ok] at hread
          obtain rfl := Except.ok.inj hread.2
          exact .inr ⟨document, rfl, SameRecords.rfl⟩

/-- What the panel holds after a request is what was sent or what was there. -/
theorem headersAfter_cases (send : GoMap Text Text → Except Text Unit)
    (request : Option (GoMap Text Text)) (headers : GoMap Text Text) :
    headersAfter send request.toList headers = headers ∨
      ∃ sent, request = some sent ∧
        headersAfter send request.toList headers = sent := by
  cases request with
  | none => exact .inl rfl
  | some sent =>
      cases hsend : send sent with
      | error cause => exact .inl (by simp [headersAfter, hsend])
      | ok u => exact .inr ⟨sent, rfl, by simp [headersAfter, hsend]⟩

/-- The texts of a reached squad are one line each. -/
theorem Reached.oneLine {s : Service} {input : PassInput} {externalUUID : Text}
    {target : DesiredAnnouncement} {squad : ExternalSquad}
    (h : Reached s input externalUUID target squad) :
    '\n' ∉ target.message ∧ '\n' ∉ target.knownHealthyMessage := by
  obtain ⟨-, squads, desired, -, hdesired, htarget, -⟩ := h
  obtain ⟨hmessage, hhealthy⟩ := desired_publishable hdesired htarget
  exact ⟨hmessage.not_mem_newline, hhealthy.not_mem_newline⟩

/-- The records on disk after a pass are those from before, or the ones the
service has in memory now. -/
theorem reconcileNow_file (s : Service) (input : PassInput) :
    (reconcileNow s input).service.runtimeFile = s.runtimeFile ∨
      ∃ stored, (reconcileNow s input).service.runtimeFile = some stored ∧
        SameRecords stored (reconcileNow s input).service.runtime := by
  cases reconcileNow_cases s input with
  | skipped _ _ hfile => exact .inl hfile
  | completed squads desired _ _ _ hruntime _ hfile =>
      rcases hfile with ⟨hfile, -⟩ | ⟨stored, hfile, hwrite⟩
      · exact .inl hfile
      · refine .inr ⟨stored, hfile, ?_⟩
        rw [(writeRuntimeFile_eq_ok hwrite).1]
        exact ⟨hruntime.1.symm, hruntime.2.symm⟩

namespace StatusFree

variable {externalUUID : Text} {base : AnnounceBase} {w : World}

/-- Records read back after a restart. -/
theorem restarted {s : Service}
    (hfile : ∀ document, s.runtimeFile = some document →
      OperatorRecords base document.managed[externalUUID]?
        document.restored[externalUUID]?) :
    OperatorRecords base (restart s).runtime.managed[externalUUID]?
      (restart s).runtime.restored[externalUUID]? := by
  rcases restart_records s with hnone | ⟨document, hdocument, hsame⟩
  · rw [hnone]
    exact ⟨fun m hm => by simp [defaultRuntime] at hm,
      fun text htext => by simp [defaultRuntime] at htext⟩
  · rw [hsame.1, hsame.2]
    exact hfile document hdocument

theorem reconcile (habsent : base.present = false → base.value = [])
    (h : StatusFree externalUUID base w) {input : PassInput}
    (hshows : ShowsHeaders externalUUID w.headers input)
    (htell : TellsStatus externalUUID base w (.reconcile input)) :
    StatusFree externalUUID base
      (w.next externalUUID (.reconcile input)) := by
  have hmemory : OperatorRecords base
        (reconcileNow w.service input).service.runtime.managed[externalUUID]?
        (reconcileNow w.service input).service.runtime.restored[externalUUID]? ∧
      OneStatus base (headerValue
        (w.next externalUUID (.reconcile input)).headers announceHeader) := by
    cases reconcileNow_squad w.service input externalUUID with
    | untouched _ hmanaged hrestored hrequests _ =>
        rw [hmanaged, hrestored]
        refine ⟨h.memory, ?_⟩
        change OneStatus base (headerValue
          (headersAfter _ (requestsFor externalUUID _) _) _)
        rw [hrequests]
        exact h.header
    | reconciled target squad outcome hreached houtcome hmanaged hrestored
        hrequests _ =>
        obtain ⟨squads, hsquads, hmem, huuid⟩ := hreached.mem
        have hsquad := hshows squads hsquads squad hmem huuid
        obtain ⟨hline, hhealthy⟩ := hreached.oneLine
        have hstep : OperatorRecords base outcome.managed outcome.restored ∧
            ∀ sent, outcome.request = some sent →
              OneStatus base (headerValue sent announceHeader) := by
          rw [houtcome]
          exact reconcileSquad_operator habsent hline hhealthy
            (by rw [hsquad]; exact htell target squad hreached)
            (by rw [hsquad]; exact h.header) h.memory
        rw [hmanaged, hrestored]
        refine ⟨hstep.1, ?_⟩
        change OneStatus base (headerValue
          (headersAfter _ (requestsFor externalUUID _) _) _)
        rw [hrequests]
        rcases headersAfter_cases (input.updateExternalHeaders externalUUID)
          outcome.request w.headers with hkept | ⟨sent, hsent, hnew⟩
        · rw [hkept]
          exact h.header
        · rw [hnew]
          exact hstep.2 sent hsent
  refine ⟨hmemory.2, hmemory.1, fun document hdocument => ?_⟩
  rcases reconcileNow_file w.service input with hfile | ⟨stored, hfile, hsame⟩
  · exact h.file document (hfile.symm.trans hdocument)
  · obtain rfl := Option.some.inj (hfile.symm.trans hdocument)
    rw [hsame.1, hsame.2]
    exact hmemory.1

theorem next (habsent : base.present = false → base.value = [])
    (h : StatusFree externalUUID base w) {e : Event}
    (hunedited : Unedited externalUUID w e)
    (htell : TellsStatus externalUUID base w e) :
    StatusFree externalUUID base (w.next externalUUID e) := by
  cases e with
  | configure config => exact ⟨h.header, h.memory, h.file⟩
  | refresh topology => exact ⟨h.header, h.memory, h.file⟩
  | observe source => exact ⟨h.header, h.memory, h.file⟩
  | reconcile input => exact h.reconcile habsent hunedited htell
  | restart =>
      refine ⟨h.header, restarted h.file, ?_⟩
      change ∀ document, (restart w.service).runtimeFile = some document → _
      rw [restart_runtimeFile]
      exact h.file
  | lose =>
      have hmissing : (restart
          { w.service with runtimeFile := none }).runtimeFile = none :=
        restart_runtimeFile _
      refine ⟨h.header,
        restarted fun document hdocument => (nomatch hdocument), ?_⟩
      intro document hdocument
      exact nomatch hmissing.symm.trans hdocument

end StatusFree

/-- Run theorem: however often the ownership file is lost and whatever updates
and writes fail, the records speak of the operator's text only, and the panel
holds that text under at most one status line. -/
theorem status_line_never_in_base (externalUUID : Text) (base : AnnounceBase)
    (habsent : base.present = false → base.value = []) (start : World)
    (hheader : headerValue start.headers announceHeader = base.header)
    (hmemory : OperatorRecords base
      start.service.runtime.managed[externalUUID]?
      start.service.runtime.restored[externalUUID]?)
    (hfile : ∀ document, start.service.runtimeFile = some document →
      OperatorRecords base document.managed[externalUUID]?
        document.restored[externalUUID]?)
    (events : List Event)
    (hrun : Admissible (World.next externalUUID)
      (fun w e => Unedited externalUUID w e ∧ TellsStatus externalUUID base w e)
      start events) :
    let reached := run (World.next externalUUID) start events
    OneStatus base (headerValue reached.headers announceHeader) ∧
      OperatorRecords base
        reached.service.runtime.managed[externalUUID]?
        reached.service.runtime.restored[externalUUID]? ∧
      ∀ document, reached.service.runtimeFile = some document →
        OperatorRecords base document.managed[externalUUID]?
          document.restored[externalUUID]? := by
  have hfree := run_invariant (StatusFree externalUUID base) hrun
    ⟨⟨[], by simp, hheader⟩, hmemory, hfile⟩
    (fun w e hw he => hw.next habsent he.1 he.2)
  exact ⟨hfree.header, hfree.memory, hfree.file⟩

namespace Sample

theorem unedited_pass {externalUUID : Text} {w : World}
    {details : Checker.ProxyStatusDetails} {headers : GoMap Text Text}
    {now : Time} (h : w.headers = headers) :
    Unedited externalUUID w (.reconcile (pass details headers now)) := by
  intro squads hsquads squad hsquad _
  obtain rfl := Except.ok.inj hsquads
  rw [List.mem_singleton.mp hsquad, h]

/-- The outage of the sample node has lasted long enough. -/
def late : Time := 200000000000

/-- A squad without an announce is told of the outage, the ownership file is
lost, and the next message meets the old one. -/
def lostOwner : List Event :=
  [ .reconcile (pass down ∅ late), .lose, .refresh service.topology,
    .reconcile (pass up (announce "rwEncodeBase64:D") late) ]

/-- An operator's text that reads like the healthy message, then an outage. -/
def messageLike : List Event :=
  [ .reconcile (pass up (announce "rwEncodeBase64:ok") late),
    .reconcile (pass down (announce "rwEncodeBase64:ok") late) ]

theorem status_line_in_base :
    (Admissible (World.next "e") (Unedited "e") ⟨service, ∅⟩ lostOwner ∧
      ((run (World.next "e") ⟨service, ∅⟩ (lostOwner.take 1)).headers,
        shownMessage (run (World.next "e") ⟨service, ∅⟩
          (lostOwner.take 1)).service.runtime.managed[("e" : Text)]?) =
        (announce "rwEncodeBase64:D", ("D" : Text)) ∧
      (run (World.next "e") ⟨service, ∅⟩
          lostOwner).service.runtime.managed[("e" : Text)]?.map
            ManagedAnnouncement.baseValue = some "rwEncodeBase64:D".toList) ∧
    Admissible (World.next "e") (Unedited "e")
        ⟨service, announce "rwEncodeBase64:ok"⟩ messageLike ∧
      ¬ OneStatus ⟨true, "rwEncodeBase64:ok"⟩
        (headerValue (run (World.next "e")
          ⟨service, announce "rwEncodeBase64:ok"⟩ messageLike).headers
            announceHeader) := by
  refine ⟨⟨?_, by decide +kernel, by decide +kernel⟩, ?_, ?_⟩
  · exact admissible_cons.mpr ⟨unedited_pass rfl, admissible_cons.mpr
      ⟨trivial, admissible_cons.mpr ⟨trivial, admissible_cons.mpr
        ⟨unedited_pass (by decide_cbv), admissible_nil _⟩⟩⟩⟩
  · exact admissible_cons.mpr ⟨unedited_pass rfl, admissible_cons.mpr
      ⟨unedited_pass (by decide_cbv), admissible_nil _⟩⟩
  · have hfinal : headerValue (run (World.next "e")
        ⟨service, announce "rwEncodeBase64:ok"⟩ messageLike).headers
          announceHeader = .single "rwEncodeBase64:D" := by
      decide +kernel
    rw [hfinal]
    intro hone
    rcases oneStatus_present rfl hone with hsame | ⟨shown, -, hsame⟩
    · exact absurd hsame (by decide)
    · exact absurd (congrArg (fun text => text.take 16) hsame) (by simp)

theorem status_line_never_in_base_healthy :
    OneStatus operatorBase (headerValue (run (World.next "e") (world ∅)
        [.reconcile healthyPass]).headers announceHeader) ∧
      OperatorRecords operatorBase
        (run (World.next "e") (world ∅)
          [.reconcile healthyPass]).service.runtime.managed[("e" : Text)]?
        (run (World.next "e") (world ∅)
          [.reconcile healthyPass]).service.runtime.restored[("e" : Text)]? ∧
      ∀ document, (run (World.next "e") (world ∅)
          [.reconcile healthyPass]).service.runtimeFile = some document →
        OperatorRecords operatorBase document.managed[("e" : Text)]?
          document.restored[("e" : Text)]? :=
  status_line_never_in_base "e" operatorBase (fun h => nomatch h) (world ∅)
    (by decide)
    ⟨fun m hm => by simp [world, service, defaultRuntime] at hm,
      fun text htext => by simp [world, service, defaultRuntime] at htext⟩
    (fun _ h => nomatch h) [.reconcile healthyPass]
    (admissible_cons.mpr
      ⟨⟨unedited_pass rfl, fun target squad hreached _ _ =>
        .oneLine rfl (by simp [world]) (by decide)
          ((healthyPass_undisturbed (by decide_cbv)).2.2.2 target squad
            hreached)⟩,
        admissible_nil _⟩)

end Sample

end XrayChecker.Remnawave

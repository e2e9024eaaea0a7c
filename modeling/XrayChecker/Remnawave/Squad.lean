import XrayChecker.Remnawave.Desired

/-
One external squad in one pass: whose text its announce header holds, what is
written over it, and what the ownership file remembers afterwards.
-/

namespace XrayChecker.Remnawave

open Go

/-- What `headerValue` finds under a name compared without case. -/
inductive HeaderLookup where
  | absent
  | single (value : Text)
  | duplicate
deriving DecidableEq

def headerValue (headers : GoMap Text Text) (name : Text) : HeaderLookup :=
  match headers.toList.filter fun entry => equalFold entry.1 name with
  | [] => .absent
  | [entry] => .single entry.2
  | _ => .duplicate

def withoutHeader (headers : GoMap Text Text) (name : Text) :
    GoMap Text Text :=
  headers.filter fun key _ => !equalFold key name

inductive ConflictKind where
  | duplicateHeaders
  | changedOutside
  | unrecognized
deriving DecidableEq

structure SquadConflict where
  name : Text
  kind : ConflictKind
  text : Text
deriving DecidableEq

def duplicateHeadersText (name : Text) : Text :=
  name ++ ": multiple case-insensitive announce headers were left untouched"

def changedOutsideText (name : Text) : Text :=
  name ++ ": managed announce was changed or removed outside xray-checker " ++
    "and was left untouched"

def unrecognizedText (name : Text) : Text :=
  name ++ ": existing announce is neither an appendable single-line " ++
    "rwEncodeBase64 value nor a recognized managed suffix and was left " ++
    "untouched"

/-- The operator text under an announce value, if there is any. -/
structure AnnounceBase where
  present : Bool := false
  value : Text := []
deriving DecidableEq

/-- The takeover of a value the checker does not manage: the base it is to be
rebuilt on, or nothing when the value must be left alone.  `adopted` is the
base the operator pointed at and `remembered` the text the checker put back
itself. -/
def takeOver (adopted remembered : Option Text) (target : DesiredAnnouncement)
    (currentValue : Text) : Option AnnounceBase :=
  match adopted.filter fun base => hasPrefix currentValue base with
  | some base => some ⟨true, base⟩
  | none =>
      if remembered = some currentValue then some ⟨true, currentValue⟩
      else
        match splitKnownManagedAnnounce currentValue
            [target.message, target.knownHealthyMessage] with
        | some known => some ⟨known.1, known.2⟩
        | none =>
            if isAppendableBaseAnnounce currentValue then
              some ⟨true, currentValue⟩
            else none

/-- What one iteration over the desired announcements does to its squad. -/
structure SquadOutcome where
  managed : Option ManagedAnnouncement
  restored : Option Text
  changed : Bool := false
  request : Option (GoMap Text Text) := none
  headers : GoMap Text Text
  conflict : Option SquadConflict := none
  error : Option Text := none

/-- A managed entry already says what the target says. -/
def describes (previous : ManagedAnnouncement) (target : DesiredAnnouncement) :
    Bool :=
  previous.message == target.message &&
    stringMapEqual previous.groups target.groups &&
    stringMapEqual previous.partialGroups target.partialGroups &&
    stringMapEqual previous.maintenanceGroups target.maintenanceGroups

/-- An owned value that need not change: only the record is brought up to
date. -/
def refreshSquad (now : Time) (target : DesiredAnnouncement)
    (previous : ManagedAnnouncement) (outcome : SquadOutcome) :
    SquadOutcome :=
  if describes previous target then outcome
  else
    { outcome with
      changed := true
      managed := some { previous with
        message := target.message
        groups := target.groups
        partialGroups := target.partialGroups
        maintenanceGroups := target.maintenanceGroups
        updatedAt := now } }

/-- The header map sent for a squad. -/
def headersToSend (headers : GoMap Text Text) (base : AnnounceBase)
    (message : Text) : GoMap Text Text :=
  let headers := withoutHeader headers announceHeader
  if message ≠ [] then
    headers.insert announceHeader
      (composeManagedAnnounce base.present base.value message)
  else if base.present then headers.insert announceHeader base.value
  else headers

/-- The panel update of a squad and, if it succeeds, the new record. -/
def sendSquad (update : GoMap Text Text → Except Text Unit) (now : Time)
    (target : DesiredAnnouncement) (squad : ExternalSquad)
    (base : AnnounceBase) (outcome : SquadOutcome) : SquadOutcome :=
  let headers := headersToSend squad.responseHeadersAdd base target.message
  let outcome := { outcome with request := some headers }
  match update headers with
  | .error cause =>
      { outcome with
        error := some ("update " ++ squad.name ++ ": " ++ cause) }
  | .ok _ =>
      if target.message = [] then
        { outcome with
          headers := headers
          changed := true
          managed := none
          restored :=
            if base.present then some base.value else outcome.restored }
      else
        { outcome with
          headers := headers
          changed := true
          restored := none
          managed := some {
            value :=
              composeManagedAnnounce base.present base.value target.message
            message := target.message
            basePresent := base.present
            baseValue := base.value
            groups := target.groups
            partialGroups := target.partialGroups
            maintenanceGroups := target.maintenanceGroups
            updatedAt := now } }

/-- The text the checker put back in a squad it does not manage, as long as the
panel still shows exactly that. -/
def rememberedText (squad : ExternalSquad)
    (previous : Option ManagedAnnouncement) (restored : Option Text) :
    Option Text :=
  restored.filter fun text => previous.isNone &&
    headerValue squad.responseHeadersAdd announceHeader == .single text

/-- One iteration of `reconcileLocked` over the desired announcements, for a
squad the panel has.  `previous` and `restored` are what the ownership file
holds for it, and `adopted` is the base the configuration holds. -/
def reconcileSquad (adopted : Option Text)
    (update : GoMap Text Text → Except Text Unit) (now : Time)
    (target : DesiredAnnouncement) (squad : ExternalSquad)
    (previous : Option ManagedAnnouncement) (restored : Option Text) :
    SquadOutcome :=
  let current := headerValue squad.responseHeadersAdd announceHeader
  let remembered := rememberedText squad previous restored
  let outcome : SquadOutcome :=
    { managed := previous, restored := remembered
      changed := remembered != restored, headers := squad.responseHeadersAdd }
  match current, previous with
  | .duplicate, _ =>
      { outcome with
        managed := none
        changed := outcome.changed || previous.isSome
        conflict := some
          ⟨squad.name, .duplicateHeaders, duplicateHeadersText squad.name⟩ }
  | current, some previous =>
      if current ≠ .single previous.value then
        { outcome with
          managed := none
          changed := true
          conflict := some
            ⟨squad.name, .changedOutside, changedOutsideText squad.name⟩ }
      else
        let base : AnnounceBase := ⟨previous.basePresent, previous.baseValue⟩
        if target.message ≠ [] ∧
            previous.value = composeManagedAnnounce base.present base.value
              target.message then
          refreshSquad now target previous outcome
        else sendSquad update now target squad base outcome
  | .absent, none =>
      if target.message = [] then outcome
      else sendSquad update now target squad {} outcome
  | .single currentValue, none =>
      if target.message = [] then outcome
      else
        match takeOver adopted remembered target currentValue with
        | some base => sendSquad update now target squad base outcome
        | none =>
            { outcome with
              conflict := some
                ⟨squad.name, .unrecognized, unrecognizedText squad.name⟩ }

/-- The header an operator text makes by itself. -/
def AnnounceBase.header (base : AnnounceBase) : HeaderLookup :=
  if base.present then .single base.value else .absent

/-- The header that shows a message over an operator text. -/
def AnnounceBase.published (base : AnnounceBase) (message : Text) :
    HeaderLookup :=
  if message = [] then base.header
  else .single (composeManagedAnnounce base.present base.value message)

theorem headerValue_eq_single {headers : GoMap Text Text} {name key : Text}
    {value : Text} (hkey : headers[key]? = some value)
    (hfold : equalFold key name = true)
    (hunique : ∀ other, equalFold other name = true → other ∈ headers →
      other = key) :
    headerValue headers name = .single value := by
  have hmem (entry : Text × Text) :
      entry ∈ (headers.toList.filter fun e => equalFold e.1 name) ↔
        entry = (key, value) := by
    rw [List.mem_filter, Std.ExtTreeMap.mem_toList_iff_getElem?_eq_some]
    constructor
    · rintro ⟨hentry, hname⟩
      have hsame := hunique entry.1 hname
        (Std.ExtTreeMap.mem_iff_isSome_getElem?.mpr (by rw [hentry]; rfl))
      rw [hsame, hkey] at hentry
      exact Prod.ext hsame (Option.some.inj hentry).symm
    · rintro rfl
      exact ⟨hkey, hfold⟩
  have hnodup : (headers.toList.filter fun e => equalFold e.1 name).Nodup := by
    have hkeys := Std.ExtTreeMap.nodup_keys (t := headers)
    rw [← Std.ExtTreeMap.map_fst_toList_eq_keys] at hkeys
    exact (List.Nodup.of_map _ hkeys).filter _
  rw [headerValue]
  match hlist : headers.toList.filter fun e => equalFold e.1 name with
  | [] =>
      have := (hmem (key, value)).mpr rfl
      rw [hlist] at this
      cases this
  | [entry] =>
      obtain rfl := (hmem entry).mp
        (by rw [hlist]; exact List.mem_singleton_self _)
      rw [hlist]
  | first :: second :: rest =>
      rw [hlist] at hnodup hmem
      have hfirst := (hmem first).mp (by simp)
      have hsecond := (hmem second).mp (by simp)
      simp [hfirst, hsecond] at hnodup

theorem headerValue_eq_absent {headers : GoMap Text Text} {name : Text}
    (h : ∀ key, equalFold key name = true → key ∉ headers) :
    headerValue headers name = .absent := by
  have hnone :
      (headers.toList.filter fun e => equalFold e.1 name) = [] := by
    rw [List.filter_eq_nil_iff]
    intro entry hentry hname
    rw [Std.ExtTreeMap.mem_toList_iff_getElem?_eq_some] at hentry
    exact h entry.1 hname
      (Std.ExtTreeMap.mem_iff_isSome_getElem?.mpr (by rw [hentry]; rfl))
  rw [headerValue, hnone]

theorem getElem?_withoutHeader (headers : GoMap Text Text) (name key : Text) :
    (withoutHeader headers name)[key]? =
      if equalFold key name then none else headers[key]? := by
  rw [withoutHeader, Std.ExtTreeMap.getElem?_filter']
  cases headers[key]? <;> cases equalFold key name <;> rfl

theorem equalFold_announceHeader :
    equalFold announceHeader announceHeader = true := by decide

theorem headerValue_insert (headers : GoMap Text Text) (value : Text) :
    headerValue ((withoutHeader headers announceHeader).insert announceHeader
      value) announceHeader = .single value := by
  refine headerValue_eq_single Std.ExtTreeMap.getElem?_insert_self
    equalFold_announceHeader ?_
  intro other hother hmem
  by_contra hne
  rw [Std.ExtTreeMap.mem_iff_isSome_getElem?, GoMap.get_insert,
    if_neg (Ne.symm hne), getElem?_withoutHeader, if_pos hother] at hmem
  cases hmem

/-- What was sent is read back. -/
theorem headerValue_headersToSend (headers : GoMap Text Text)
    (base : AnnounceBase) (message : Text) :
    headerValue (headersToSend headers base message) announceHeader =
      base.published message := by
  unfold headersToSend AnnounceBase.published AnnounceBase.header
  by_cases hmessage : message = []
  · by_cases hpresent : base.present = true
    · simp [hmessage, hpresent, headerValue_insert]
    · simp only [hmessage, ne_eq, not_true_eq_false, ↓reduceIte, hpresent,
        Bool.false_eq_true]
      apply headerValue_eq_absent
      intro key hkey hmem
      rw [Std.ExtTreeMap.mem_iff_isSome_getElem?, getElem?_withoutHeader,
        if_pos hkey] at hmem
      cases hmem
  · simp [hmessage, headerValue_insert]

/-- The four ways to take a value over.  Each rule is tried only when the ones
before it do not apply. -/
inductive TakeOverCase (adopted remembered : Option Text)
    (target : DesiredAnnouncement) (value : Text) : AnnounceBase → Prop where
  | adopted (base : Text) (hadopted : adopted = some base)
      (hstarts : hasPrefix value base = true) : TakeOverCase _ _ _ _
        ⟨true, base⟩
  | restored (hrestored : remembered = some value) :
      TakeOverCase _ _ _ _ ⟨true, value⟩
  | known (known : Bool × Text)
      (hknown : splitKnownManagedAnnounce value
        [target.message, target.knownHealthyMessage] = some known) :
      TakeOverCase _ _ _ _ ⟨known.1, known.2⟩
  | appendable (happendable : isAppendableBaseAnnounce value = true)
      (hunknown : splitKnownManagedAnnounce value
        [target.message, target.knownHealthyMessage] = none) :
      TakeOverCase _ _ _ _ ⟨true, value⟩

theorem takeOver_cases {adopted remembered : Option Text}
    {target : DesiredAnnouncement} {value : Text} {base : AnnounceBase}
    (h : takeOver adopted remembered target value = some base) :
    TakeOverCase adopted remembered target value base := by
  unfold takeOver at h
  split at h
  · rename_i b hb
    obtain ⟨hadopted, hstarts⟩ := Option.filter_eq_some_iff.mp hb
    obtain rfl := Option.some.inj h
    exact .adopted b hadopted hstarts
  · split at h
    · rename_i hsame
      obtain rfl := Option.some.inj h
      exact .restored hsame
    · split at h
      · rename_i known hknown
        obtain rfl := Option.some.inj h
        exact .known known hknown
      · rename_i hunknown
        split at h
        · rename_i happendable
          obtain rfl := Option.some.inj h
          exact .appendable happendable hunknown
        · cases h

/-- A header that was taken over, or was absent, under the base it is rebuilt
on. -/
inductive FoundBase (adopted remembered : Option Text)
    (target : DesiredAnnouncement) (squad : ExternalSquad) :
    AnnounceBase → Prop where
  | absent
      (hcurrent : headerValue squad.responseHeadersAdd announceHeader = .absent)
      (hmessage : target.message ≠ []) : FoundBase _ _ _ _ {}
  | taken (value : Text) {base : AnnounceBase}
      (hcurrent :
        headerValue squad.responseHeadersAdd announceHeader = .single value)
      (hmessage : target.message ≠ [])
      (htaken : takeOver adopted remembered target value = some base) :
      FoundBase _ _ _ _ base

@[simp] theorem rememberedText_some (squad : ExternalSquad)
    (previous : ManagedAnnouncement) (restored : Option Text) :
    rememberedText squad (some previous) restored = none := by
  cases restored <;> simp [rememberedText, Option.filter]

/-- Everything one iteration can do to its squad. -/
inductive SquadCase (adopted : Option Text)
    (update : GoMap Text Text → Except Text Unit) (now : Time)
    (target : DesiredAnnouncement) (squad : ExternalSquad)
    (previous : Option ManagedAnnouncement) (restored : Option Text)
    (outcome : SquadOutcome) : Prop where
  | duplicate
      (hcurrent :
        headerValue squad.responseHeadersAdd announceHeader = .duplicate)
      (hmanaged : outcome.managed = none) (hrestored : outcome.restored = none)
      (hrequest : outcome.request = none)
      (hconflict : ∃ c, outcome.conflict = some c)
  | changedOutside (p : ManagedAnnouncement) (hprevious : previous = some p)
      (hcurrent :
        headerValue squad.responseHeadersAdd announceHeader ≠ .single p.value)
      (hmanaged : outcome.managed = none) (hrestored : outcome.restored = none)
      (hrequest : outcome.request = none)
      (hconflict : ∃ c, outcome.conflict = some c)
  | refreshed (p q : ManagedAnnouncement) (hprevious : previous = some p)
      (hcurrent :
        headerValue squad.responseHeadersAdd announceHeader = .single p.value)
      (hmessage : target.message ≠ [])
      (hvalue : p.value =
        composeManagedAnnounce p.basePresent p.baseValue target.message)
      (hrecord : q = p ∧ describes p target = true ∨
        q = { p with
          message := target.message
          groups := target.groups
          partialGroups := target.partialGroups
          maintenanceGroups := target.maintenanceGroups
          updatedAt := now })
      (hmanaged : outcome.managed = some q)
      (hrestored : outcome.restored = none)
      (hrequest : outcome.request = none) (hconflict : outcome.conflict = none)
  | rewritten (p : ManagedAnnouncement) (start : SquadOutcome)
      (hprevious : previous = some p)
      (hcurrent :
        headerValue squad.responseHeadersAdd announceHeader = .single p.value)
      (hstart : start.managed = some p ∧ start.restored = none ∧
        start.conflict = none ∧ start.headers = squad.responseHeadersAdd)
      (houtcome : outcome = sendSquad update now target squad
        ⟨p.basePresent, p.baseValue⟩ start)
  | idle (hprevious : previous = none) (hmessage : target.message = [])
      (hmanaged : outcome.managed = none)
      (hrestored : outcome.restored = rememberedText squad none restored)
      (hrequest : outcome.request = none) (hconflict : outcome.conflict = none)
  | claimed (base : AnnounceBase) (start : SquadOutcome)
      (hprevious : previous = none)
      (hfound : FoundBase adopted (rememberedText squad none restored) target
        squad base)
      (hstart : start.managed = none ∧
        start.restored = rememberedText squad none restored ∧
        start.conflict = none ∧ start.headers = squad.responseHeadersAdd)
      (houtcome : outcome = sendSquad update now target squad base start)
  | unrecognized (value : Text) (hprevious : previous = none)
      (hcurrent :
        headerValue squad.responseHeadersAdd announceHeader = .single value)
      (hmessage : target.message ≠ [])
      (hrefused : takeOver adopted (rememberedText squad none restored) target
        value = none)
      (hmanaged : outcome.managed = none)
      (hrestored : outcome.restored = rememberedText squad none restored)
      (hrequest : outcome.request = none)
      (hconflict : ∃ c, outcome.conflict = some c)

theorem reconcileSquad_cases (adopted : Option Text)
    (update : GoMap Text Text → Except Text Unit) (now : Time)
    (target : DesiredAnnouncement) (squad : ExternalSquad)
    (previous : Option ManagedAnnouncement) (restored : Option Text) :
    SquadCase adopted update now target squad previous restored
      (reconcileSquad adopted update now target squad previous restored) := by
  unfold reconcileSquad
  dsimp only
  cases hcurrent : headerValue squad.responseHeadersAdd announceHeader with
  | duplicate =>
      refine .duplicate hcurrent rfl ?_ rfl ⟨_, rfl⟩
      change rememberedText squad previous restored = none
      cases restored <;> simp [rememberedText, Option.filter, hcurrent]
  | absent =>
      cases previous with
      | some p =>
          exact .changedOutside p rfl (by simp [hcurrent]) rfl
            (rememberedText_some _ _ _) rfl ⟨_, rfl⟩
      | none =>
          simp only
          split
          · rename_i hmessage
            exact .idle rfl hmessage rfl rfl rfl rfl
          · rename_i hmessage
            exact .claimed {} _ rfl (.absent hcurrent hmessage)
              ⟨rfl, rfl, rfl, rfl⟩ rfl
  | single value =>
      cases previous with
      | some p =>
          simp only
          split
          · rename_i hne
            exact .changedOutside p rfl (by rw [hcurrent]; exact hne) rfl
              (rememberedText_some _ _ _) rfl ⟨_, rfl⟩
          · rename_i heq
            have hsame : headerValue squad.responseHeadersAdd announceHeader =
                .single p.value := by
              rw [hcurrent]
              exact not_not.mp heq
            split
            · rename_i hkeep
              rw [refreshSquad]
              split
              · rename_i hdescribes
                exact .refreshed p p rfl hsame hkeep.1 hkeep.2
                  (.inl ⟨rfl, hdescribes⟩) rfl (rememberedText_some _ _ _) rfl
                  rfl
              · exact .refreshed p _ rfl hsame hkeep.1 hkeep.2 (.inr rfl) rfl
                  (rememberedText_some _ _ _) rfl rfl
            · exact .rewritten p _ rfl hsame
                ⟨rfl, rememberedText_some _ _ _, rfl, rfl⟩ rfl
      | none =>
          simp only
          split
          · rename_i hmessage
            exact .idle rfl hmessage rfl rfl rfl rfl
          · rename_i hmessage
            split
            · rename_i base htaken
              exact .claimed base _ rfl (.taken value hcurrent hmessage htaken)
                ⟨rfl, rfl, rfl, rfl⟩ rfl
            · rename_i hrefused
              exact .unrecognized value rfl hcurrent hmessage hrefused rfl rfl
                rfl ⟨_, rfl⟩

section Send

variable (update : GoMap Text Text → Except Text Unit) (now : Time)
    (target : DesiredAnnouncement) (squad : ExternalSquad)
    (base : AnnounceBase) (start : SquadOutcome)

@[simp] theorem sendSquad_request :
    (sendSquad update now target squad base start).request =
      some (headersToSend squad.responseHeadersAdd base target.message) := by
  unfold sendSquad
  dsimp only
  cases update (headersToSend squad.responseHeadersAdd base target.message) with
  | error cause => rfl
  | ok u =>
      dsimp only
      split <;> rfl

@[simp] theorem sendSquad_conflict :
    (sendSquad update now target squad base start).conflict =
      start.conflict := by
  unfold sendSquad
  dsimp only
  cases update (headersToSend squad.responseHeadersAdd base target.message) with
  | error cause => rfl
  | ok u =>
      dsimp only
      split <;> rfl

/-- The record of a squad after its panel update. -/
inductive SendCase : SquadOutcome → Prop where
  | failed (outcome : SquadOutcome)
      (hupdate : ∀ u, update
        (headersToSend squad.responseHeadersAdd base target.message) ≠ .ok u)
      (hmanaged : outcome.managed = start.managed)
      (hrestored : outcome.restored = start.restored) : SendCase outcome
  | withdrawn (outcome : SquadOutcome) (hmessage : target.message = [])
      (hmanaged : outcome.managed = none)
      (hrestored : outcome.restored =
        if base.present then some base.value else start.restored) :
      SendCase outcome
  | published (outcome : SquadOutcome) (hmessage : target.message ≠ [])
      (hmanaged : outcome.managed = some {
        value :=
          composeManagedAnnounce base.present base.value target.message
        message := target.message
        basePresent := base.present
        baseValue := base.value
        groups := target.groups
        partialGroups := target.partialGroups
        maintenanceGroups := target.maintenanceGroups
        updatedAt := now })
      (hrestored : outcome.restored = none) : SendCase outcome

theorem sendSquad_cases :
    SendCase update now target squad base start
      (sendSquad update now target squad base start) := by
  unfold sendSquad
  dsimp only
  cases hupdate :
      update (headersToSend squad.responseHeadersAdd base target.message) with
  | error cause =>
      exact .failed _ (fun u => by rw [hupdate]; simp) rfl rfl
  | ok u =>
      dsimp only
      split
      · rename_i hmessage
        exact .withdrawn _ hmessage rfl rfl
      · rename_i hmessage
        exact .published _ hmessage rfl rfl

end Send

end XrayChecker.Remnawave

import XrayChecker.Telegram.Digest

/-
One digest per slot, in every run whose sends are answered and whose restarts
find the state file as it was last meant to be.
-/

namespace XrayChecker.Telegram

open Go

/-- What is seen can be told from an answer, and from one that was lost on its
way back. -/
def Seen.clear : Seen → Bool
  | .lost _ _ => true
  | .cut _ => false
  | .replaced _ (.error _) => true
  | .replaced _ (.ok resp) => !resp.ok

/-- Whatever Telegram accepts through the node, it answers. -/
def Outcome.clear : Outcome → Bool
  | .noClient _ => true
  | .unreached seen => seen.clear
  | .processed accepted seen => !accepted && seen.clear
  | .answered _ => true

/-- The condition on the nodes of a send. -/
def Sending.Clear (s : Sending) : Prop :=
  ∀ candidate ∈ s.rich ++ s.compact, candidate.outcome.clear = true

section Sends

/-- Accepted messages and a success go together, and no answer is lost. -/
structure Told (requests : List Outcome)
    (result : Except TransportError Text) : Prop where
  accepted : requests.countP Outcome.accepted =
    if result.isOk then 1 else 0
  known : ∀ method node text,
    result ≠ .error (.deliveryUnknown method node text)

variable {api : Api}

theorem told_error {err : TransportError}
    (h : ∀ method node text, err ≠ .deliveryUnknown method node text) :
    Told [] (.error err) where
  accepted := rfl
  known method node text hsame := h method node text (Except.error.inj hsame)

theorem verdict_refused {method : Text} {status : Nat} {resp : ApiResponse}
    (h : resp.ok = false) : verdict method status resp =
      .error (.api (newAPIError method status resp)) := by
  rw [verdict, h]
  rfl

/-- What is seen clearly is no success, and no answer that was lost. -/
theorem see_done {name : Text} {seen : Seen}
    {result : Except TransportError Text} (hclear : seen.clear = true)
    (h : api.see name seen = .done result) :
    ∃ err, result = .error err ∧
      ∀ method node text, err ≠ .deliveryUnknown method node text := by
  cases seen with
  | lost text cancelled =>
      cases cancelled with
      | true =>
          cases h
          exact ⟨_, rfl, fun _ _ _ => nofun⟩
      | false => cases h
  | cut text => cases hclear
  | replaced status body =>
      cases body with
      | error text => cases h
      | ok resp =>
          have hrefused : resp.ok = false := by simpa [Seen.clear] using hclear
          rw [Api.see, verdict_refused hrefused] at h
          cases h
          exact ⟨_, rfl, fun _ _ _ => nofun⟩

theorem see_next {name : Text} {seen : Seen} {err : TransportError}
    (h : api.see name seen = .next err) :
    ∀ method node text, err ≠ .deliveryUnknown method node text := by
  cases seen with
  | lost text cancelled =>
      cases cancelled with
      | true => cases h
      | false =>
          cases h
          exact fun _ _ _ => nofun
  | cut text => cases h
  | replaced status body =>
      cases body with
      | error text =>
          cases h
          exact fun _ _ _ => nofun
      | ok resp => cases h

/-- An iteration that returns. -/
theorem told_done {candidate : Candidate}
    {result : Except TransportError Text}
    (hclear : candidate.outcome.clear = true)
    (h : api.attempt candidate = .done result) :
    Told (api.request candidate) result := by
  obtain ⟨name, outcome⟩ := candidate
  cases hbuilt : api.unbuilt with
  | some text =>
      have hnone : api.request ⟨name, outcome⟩ = [] := by
        simp [Api.request, hbuilt]
      rw [hnone]
      cases outcome with
      | noClient text => simp [Api.attempt] at h
      | unreached seen =>
          simp only [Api.attempt, hbuilt, Attempt.done.injEq] at h
          exact h ▸ told_error (by rintro _ _ _ ⟨⟩)
      | processed accepted seen =>
          simp only [Api.attempt, hbuilt, Attempt.done.injEq] at h
          exact h ▸ told_error (by rintro _ _ _ ⟨⟩)
      | answered answer =>
          simp only [Api.attempt, hbuilt, Attempt.done.injEq] at h
          exact h ▸ told_error (by rintro _ _ _ ⟨⟩)
  | none =>
      cases outcome with
      | noClient text => simp [Api.attempt] at h
      | unreached seen =>
          simp only [Api.attempt, hbuilt] at h
          obtain ⟨err, rfl, hknown⟩ := see_done hclear h
          refine ⟨?_, (told_error hknown).known⟩
          simp [Api.request, hbuilt, Outcome.requested, Outcome.accepted,
            Except.isOk, Except.toBool]
      | processed accepted seen =>
          rw [Outcome.clear, Bool.and_eq_true, Bool.not_eq_true'] at hclear
          simp only [Api.attempt, hbuilt] at h
          obtain ⟨err, rfl, hknown⟩ := see_done hclear.2 h
          refine ⟨?_, (told_error hknown).known⟩
          simp [Api.request, hbuilt, Outcome.requested, Outcome.accepted,
            hclear.1, Except.isOk, Except.toBool]
      | answered answer =>
          simp only [Api.attempt, hbuilt, Attempt.done.injEq] at h
          subst h
          cases hok : answer.response.ok with
          | false =>
              rw [verdict_refused hok]
              refine ⟨?_, by rintro _ _ _ ⟨⟩⟩
              simp [Api.request, hbuilt, Outcome.requested, Outcome.accepted,
                hok, Except.isOk, Except.toBool]
          | true =>
              have hstatus := answer.success hok
              have hverdict : verdict api.method answer.status
                  answer.response = .ok answer.response.result := by
                rw [verdict, if_neg (by simp [hok]), if_neg (by omega)]
              rw [hverdict]
              refine ⟨?_, by rintro _ _ _ ⟨⟩⟩
              simp [Api.request, hbuilt, Outcome.requested, Outcome.accepted,
                hok, Except.isOk, Except.toBool]

/-- An iteration that goes on to the next candidate. -/
theorem told_next {candidate : Candidate} {err : TransportError}
    (hclear : candidate.outcome.clear = true)
    (h : api.attempt candidate = .next err) :
    (api.request candidate).countP Outcome.accepted = 0 ∧
      ∀ method node text, err ≠ .deliveryUnknown method node text := by
  obtain ⟨name, outcome⟩ := candidate
  cases outcome with
  | noClient text =>
      simp only [Api.attempt, Attempt.next.injEq] at h
      subst h
      exact ⟨by simp [Api.request, Outcome.requested], by rintro _ _ _ ⟨⟩⟩
  | unreached seen =>
      cases hbuilt : api.unbuilt with
      | some text => simp [Api.attempt, hbuilt] at h
      | none =>
          simp only [Api.attempt, hbuilt] at h
          refine ⟨?_, see_next h⟩
          simp [Api.request, hbuilt, Outcome.requested, Outcome.accepted]
  | processed accepted seen =>
      rw [Outcome.clear, Bool.and_eq_true, Bool.not_eq_true'] at hclear
      cases hbuilt : api.unbuilt with
      | some text => simp [Api.attempt, hbuilt] at h
      | none =>
          simp only [Api.attempt, hbuilt] at h
          refine ⟨?_, see_next h⟩
          simp [Api.request, hbuilt, Outcome.requested, Outcome.accepted,
            hclear.1]
  | answered answer =>
      cases hbuilt : api.unbuilt with
      | some text => simp [Api.attempt, hbuilt] at h
      | none => simp [Api.attempt, hbuilt] at h

theorem loop_told {candidates : List Candidate}
    (hclear : ∀ candidate ∈ candidates, candidate.outcome.clear = true)
    {lastErr : TransportError}
    (h : ∀ method node text, lastErr ≠ .deliveryUnknown method node text) :
    Told (api.loop lastErr candidates).1 (api.loop lastErr candidates).2 := by
  induction candidates generalizing lastErr with
  | nil => exact told_error h
  | cons candidate rest ih =>
      rw [List.forall_mem_cons] at hclear
      cases hattempt : api.attempt candidate with
      | done result =>
          rw [Api.loop_done hattempt]
          exact told_done hclear.1 hattempt
      | next err =>
          rw [Api.loop_next hattempt]
          obtain ⟨hnone, hknown⟩ := told_next hclear.1 hattempt
          have hrest := ih hclear.2 hknown
          refine ⟨?_, hrest.known⟩
          rw [List.countP_append, hnone, Nat.zero_add, hrest.accepted]

theorem doAPI_told {candidates : List Candidate}
    (hclear : ∀ candidate ∈ candidates, candidate.outcome.clear = true) :
    Told (api.doAPI candidates).1 (api.doAPI candidates).2 := by
  rw [Api.doAPI]
  split
  · exact told_error (by rintro _ _ _ ⟨⟩)
  · split
    · exact told_error (by rintro _ _ _ ⟨⟩)
    · exact loop_told hclear (by rintro _ _ _ ⟨⟩)

/-- A clear send is accepted once where it succeeds, and nowhere else. -/
theorem Sending.Clear.told {s : Sending} (h : s.Clear) :
    Told (s.sendFormattedToWithMarkup.rich ++
        s.sendFormattedToWithMarkup.compact.getD [])
      s.sendFormattedToWithMarkup.result := by
  rw [Sending.Clear, List.forall_mem_append] at h
  have hcompact : Told (s.compactApi.doAPI s.compact).1
      (s.compactApi.doAPI s.compact).2 := doAPI_told h.2
  have hrich : Told (s.richApi.doAPI s.rich).1 (s.richApi.doAPI s.rich).2 :=
    doAPI_told h.1
  rw [Sending.sendFormattedToWithMarkup]
  split
  · split
    next rich result hdo =>
      rw [hdo] at hrich
      simpa using hrich
    next rich err hdo =>
      rw [hdo] at hrich
      split
      · refine ⟨?_, hcompact.known⟩
        have hnone : rich.countP Outcome.accepted = 0 := hrich.accepted
        simp only [Sending.sendHTMLToWithMarkup, Option.getD_some,
          List.countP_append, hnone, Nat.zero_add]
        exact hcompact.accepted
      · simpa using hrich
  · exact hcompact

end Sends

section Calendar

variable {location : Location}

/-- The slot of a week, in seconds. -/
def slotSeconds (location : Location) (week : Int) : Int :=
  location.date (604800 * week + 36000)

/-- The week that the clock shows. -/
def weekOf (location : Location) (seconds : Int) : Int :=
  location.clock seconds / 604800

/-- The slot of the week is due, or before it the one a week earlier. -/
theorem digestDue_eq (seconds : Int) :
    digestDue location seconds =
      if seconds < slotSeconds location (weekOf location seconds) then
        location.date (location.clock
          (slotSeconds location (weekOf location seconds)) - 604800)
      else slotSeconds location (weekOf location seconds) := by
  have hmonday : ∀ clock : Int,
      (clock / 86400 - ((clock / 86400 + 1) % 7 - 1 + 7) % 7) * 86400 +
        36000 = 604800 * (clock / 604800) + 36000 := by
    intro clock
    omega
  rw [digestDue, slotSeconds, weekOf]
  simp only [digestWeekday, digestHour, Int.reduceMul, hmonday]

variable (hzone : location.Seasonal)

include hzone

theorem slotSeconds_between (week : Int) :
    604800 * week + 36000 - 93600 ≤ slotSeconds location week ∧
      slotSeconds location week ≤ 604800 * week + 36000 + 93600 := by
  obtain ⟨s, hdate, -, -⟩ :=
    Location.date_eq hzone (604800 * week + 36000)
  have hs := hzone.bounded s
  rw [slotSeconds, hdate]
  omega

/-- Before its own slot, a week is more than two days late for the one
before. -/
theorem digestDue_before {seconds : Int}
    (h : seconds < slotSeconds location (weekOf location seconds)) :
    digestDue location seconds + 194400 ≤ seconds := by
  have hslot := slotSeconds_between hzone (weekOf location seconds)
  rw [digestDue_eq, if_pos h]
  obtain ⟨s, hdate, -, -⟩ := Location.date_eq hzone (location.clock
    (slotSeconds location (weekOf location seconds)) - 604800)
  have hs := hzone.bounded s
  have hdue := hzone.bounded (slotSeconds location (weekOf location seconds))
  have hnow := hzone.bounded seconds
  have hweek : 604800 * weekOf location seconds ≤
      seconds + location.offset seconds := by
    rw [weekOf, Location.clock]
    omega
  rw [hdate, Location.clock]
  omega

theorem digestDue_le (seconds : Int) :
    digestDue location seconds ≤ seconds := by
  by_cases h : seconds < slotSeconds location (weekOf location seconds)
  · have hbefore := digestDue_before hzone h
    omega
  · rw [digestDue_eq, if_neg h]
    omega

/-- What is not too late is due at the slot of a week. -/
theorem digestDue_slot {seconds : Int}
    (h : seconds - digestDue location seconds ≤ 86400) :
    digestDue location seconds =
      slotSeconds location (weekOf location seconds) := by
  by_cases hbefore : seconds < slotSeconds location (weekOf location seconds)
  · have hlate := digestDue_before hzone hbefore
    omega
  · rw [digestDue_eq, if_neg hbefore]

/-- At a slot and for a day after it, the slot is due. -/
theorem digestDue_inSlot {week seconds : Int}
    (hafter : slotSeconds location week ≤ seconds)
    (hlate : seconds ≤ slotSeconds location week + 86400) :
    digestDue location seconds = slotSeconds location week := by
  obtain ⟨s, hdate, hs, hs'⟩ :=
    Location.date_eq hzone (604800 * week + 36000)
  have hbound := hzone.bounded s
  have hnow := hzone.bounded seconds
  have hslot : slotSeconds location week =
      604800 * week + 36000 - location.offset s := hdate
  have hshift := hzone.shifts s seconds (by omega) (by omega)
  have hweek : weekOf location seconds = week := by
    rw [weekOf, Location.clock]
    omega
  rw [digestDue_eq, hweek, if_neg (by omega)]

end Calendar

section Instants

variable {location : Location} (hzone : location.Seasonal)

theorem seconds_le {t : Time} {s : Int} :
    s * 1000000000 ≤ t ↔ s ≤ t.seconds := by
  have hcast : t.seconds = (t : Int) / 1000000000 := Int.natCast_ediv t _
  rw [hcast]
  constructor
  · intro h
    exact (Int.le_ediv_iff_mul_le (by decide)).mpr h
  · intro h
    exact (Int.le_ediv_iff_mul_le (by decide)).mp h

theorem digestLateness_eq : digestLateness = 86400000000000 := rfl

theorem slotAt_eq (week : Int) :
    slotAt location week = slotSeconds location week * 1000000000 := rfl

include hzone

theorem digestDueAt_le (now : Time) : digestDueAt now location ≤ now := by
  have hle := seconds_le.mpr (digestDue_le hzone now.seconds)
  rw [digestDueAt, Int.toNat_le]
  exact hle

/-- What is due and not too late is at the slot of a week. -/
theorem inSlot_of_due {now : Time} (hpos : 0 < digestDueAt now location)
    (h : now.sub (digestDueAt now location) ≤ digestLateness) :
    ∃ week, InSlot location week now ∧
      slotAt location week = digestDueAt now location := by
  have hdue : (digestDueAt now location : Int) =
      digestDue location now.seconds * 1000000000 := by
    have hnat : 0 < (digestDue location now.seconds * 1000000000).toNat := hpos
    exact Int.toNat_of_nonneg (by omega)
  rw [Time.sub, hdue, digestLateness_eq] at h
  have hseconds := seconds_le.mpr (le_refl now.seconds)
  have hslot : digestDue location now.seconds =
      slotSeconds location (weekOf location now.seconds) :=
    digestDue_slot hzone (by omega)
  have hle := seconds_le.mpr (digestDue_le hzone now.seconds)
  refine ⟨weekOf location now.seconds, ⟨?_, ?_⟩, ?_⟩
  · rw [slotAt_eq, ← hslot]
    exact hle
  · rw [slotAt_eq, ← hslot, digestLateness_eq]
    omega
  · rw [slotAt_eq, ← hslot, hdue]

/-- A tick in time for a slot finds it due. -/
theorem due_of_inSlot {week : Int} {now : Time}
    (h : InSlot location week now) :
    digestDueAt now location = (slotAt location week).toNat := by
  obtain ⟨hafter, hlate⟩ := h
  rw [slotAt_eq] at hafter hlate ⊢
  rw [digestLateness_eq] at hlate
  have hseconds := seconds_le.mpr (le_refl now.seconds)
  have hdue := digestDue_inSlot hzone (seconds_le.mp hafter) (by omega)
  rw [digestDueAt, hdue]

end Instants

section Ticks

variable {location : Location}

/-- What a tick can do. -/
inductive TickStep (location : Location) (s : DigestService) (now : Time)
    (tick : DigestTick) : DigestService × TickEnd → Prop where
  | off (hoff : s.on = false) : TickStep location s now tick (s, .off)
  | handled (hon : s.on = true)
      (hlast : digestDueAt now location ≤ s.lastDigestAt) :
      TickStep location s now tick (s, .handled)
  | missed (hon : s.on = true)
      (hlast : s.lastDigestAt < digestDueAt now location)
      (hlate : digestLateness < now.sub (digestDueAt now location)) :
      TickStep location s now tick
        (s.saveDigestState (digestDueAt now location) tick.left, .missed)
  | silent (hon : s.on = true)
      (hlast : s.lastDigestAt < digestDueAt now location)
      (hlate : now.sub (digestDueAt now location) ≤ digestLateness)
      (hcontent : tick.content = none) :
      TickStep location s now tick
        (s.saveDigestState now tick.left, .silent)
  | failed (hon : s.on = true)
      (hlast : s.lastDigestAt < digestDueAt now location)
      (hlate : now.sub (digestDueAt now location) ≤ digestLateness)
      {content : Sending} (hcontent : tick.content = some content)
      (hresult : content.sendFormattedToWithMarkup.result.isOk = false) :
      TickStep location s now tick
        (s, .sent content.sendFormattedToWithMarkup)
  | sent (hon : s.on = true)
      (hlast : s.lastDigestAt < digestDueAt now location)
      (hlate : now.sub (digestDueAt now location) ≤ digestLateness)
      {content : Sending} (hcontent : tick.content = some content)
      (hresult : content.sendFormattedToWithMarkup.result.isOk = true) :
      TickStep location s now tick
        (s.saveDigestState now tick.left,
          .sent content.sendFormattedToWithMarkup)

theorem sendDigestIfDue_step (s : DigestService) (now : Time)
    (tick : DigestTick) :
    TickStep location s now tick (s.sendDigestIfDue location now tick) := by
  rw [DigestService.sendDigestIfDue]
  cases hon : s.on with
  | false => exact .off hon
  | true =>
      simp only [Bool.not_true, Bool.false_eq_true, if_false]
      split
      next hlast => exact .handled hon (by simpa using hlast)
      next hlast =>
        have hlast' : s.lastDigestAt < digestDueAt now location := by
          simpa using hlast
        split
        next hlate => exact .missed hon hlast' hlate
        next hlate =>
          have hlate' := Int.not_lt.mp hlate
          split
          next hcontent => exact .silent hon hlast' hlate' hcontent
          next content hcontent =>
            split
            next err hresult =>
              exact .failed hon hlast' hlate' hcontent (by rw [hresult]; rfl)
            next result hresult =>
              exact .sent hon hlast' hlate' hcontent (by rw [hresult]; rfl)

/-- The condition on a step: a send is clear, and the service starts from a
state file that holds the last time it recorded. -/
def StepClear (world : DigestWorld) : DigestEvent → Prop
  | .tick tick => ∀ content ∈ tick.content, content.Clear
  | .restart => world.service.file.load = world.service.lastDigestAt
  | _ => True

/-- Every step of a run is clear. -/
def RunClear (location : Location) : DigestWorld → List DigestEvent → Prop
  | _, [] => True
  | world, event :: events =>
      StepClear world event ∧ RunClear location (world.step location event)
        events

/-- What holds between the service and the ticks so far. -/
structure Kept (location : Location) (world : DigestWorld) : Prop where
  lastLe : world.service.lastDigestAt ≤ world.clock
  past : ∀ r ∈ world.ticks, r.now ≤ world.clock
  recorded : ∀ r ∈ world.ticks, 0 < r.accepted →
    r.now ≤ world.service.lastDigestAt
  known : ∀ r ∈ world.ticks, r.unknown = false
  /-- The last time is one of a digest, of a silence, or long ago. -/
  origin : world.service.lastDigestAt = 0 ∨
    (∃ r ∈ world.ticks, r.now = world.service.lastDigestAt ∧
      (0 < r.accepted ∨ r.silent = true)) ∨
    (world.service.lastDigestAt : Int) + digestLateness < world.clock
  kept : DigestsKept location world.ticks

/-- Only the last time of the service matters. -/
theorem Kept.of_service {world : DigestWorld} (h : Kept location world)
    {service : DigestService}
    (hlast : service.lastDigestAt = world.service.lastDigestAt) :
    Kept location { world with service := service } where
  lastLe := hlast ▸ h.lastLe
  past := h.past
  recorded r hr haccepted := by
    rw [hlast]
    exact h.recorded r hr haccepted
  known := h.known
  origin := by
    rw [hlast]
    exact h.origin
  kept := h.kept

/-- A record cut out of the ticks with one more. -/
theorem cut_concat {ticks before after : List TickRecord} {r last : TickRecord}
    (h : ticks ++ [last] = before ++ r :: after) :
    (after = [] ∧ r = last ∧ before = ticks) ∨
      ∃ others, after = others ++ [last] ∧ ticks = before ++ r :: others := by
  rcases List.eq_nil_or_concat' after with rfl | ⟨others, x, rfl⟩
  · obtain ⟨hticks, hlast⟩ := List.append_inj' h rfl
    cases hlast
    exact Or.inl ⟨rfl, rfl, hticks.symm⟩
  · rw [← List.cons_append, ← List.append_assoc] at h
    obtain ⟨hticks, hlast⟩ := List.append_inj' h rfl
    cases hlast
    exact Or.inr ⟨others, rfl, hticks⟩

/-- What one more tick has to bring along. -/
structure TickFits (location : Location) (ticks : List TickRecord)
    (r : TickRecord) : Prop where
  atMostOne : r.accepted ≤ 1
  first : 0 < r.accepted → ∀ week, InSlot location week r.now →
    ∀ e ∈ ticks, InSlot location week e.now → e.accepted = 0
  timely : 0 < r.accepted → r.on = true ∧ ∃ week, InSlot location week r.now
  skipped : r.on = true → ∀ week, 0 < slotAt location week →
    InSlot location week r.now →
      (∃ e ∈ ticks ++ [r], InSlot location week e.now ∧ 0 < e.accepted) ∨
        (∃ e ∈ ticks ++ [r], InSlot location week e.now ∧ e.silent = true) ∨
          r.failed = true

theorem acceptedIn_concat (week : Int) (ticks : List TickRecord)
    (r : TickRecord) :
    acceptedIn location week (ticks ++ [r]) =
      acceptedIn location week ticks +
        if InSlot location week r.now then r.accepted else 0 := by
  simp [acceptedIn]

theorem acceptedIn_eq_zero {week : Int} {ticks : List TickRecord}
    (h : ∀ e ∈ ticks, InSlot location week e.now → e.accepted = 0) :
    acceptedIn location week ticks = 0 := by
  rw [acceptedIn, List.sum_eq_zero_iff_forall_eq_nat]
  intro n hn
  obtain ⟨e, he, rfl⟩ := List.mem_map.mp hn
  split
  next hslot => exact h e he hslot
  next => rfl

theorem DigestsKept.concat {ticks : List TickRecord} {r : TickRecord}
    (h : DigestsKept location ticks)
    (hknown : ∀ e ∈ ticks, e.unknown = false)
    (hfits : TickFits location ticks r) :
    DigestsKept location (ticks ++ [r]) where
  once week := by
    have honce := h.once week
    have hone := hfits.atMostOne
    rw [acceptedIn_concat]
    split
    next hslot =>
      rcases Nat.eq_zero_or_pos r.accepted with hzero | hpos
      · omega
      · rw [acceptedIn_eq_zero (hfits.first hpos week hslot)]
        omega
    next => omega
  timely e he haccepted := by
    rcases List.mem_append.mp he with he | he
    · exact h.timely e he haccepted
    · obtain rfl := List.mem_singleton.mp he
      exact hfits.timely haccepted
  notRepeated before e after hcut hunknown := by
    rcases cut_concat hcut with ⟨rfl, -, -⟩ | ⟨others, -, rfl⟩
    · exact fun later hlater => absurd hlater List.not_mem_nil
    · rw [hknown e (by simp)] at hunknown
      cases hunknown
  skipped before e after hcut hon week hpos hslot := by
    rcases cut_concat hcut with ⟨-, rfl, rfl⟩ | ⟨others, -, hticks⟩
    · exact hfits.skipped hon week hpos hslot
    · exact h.skipped before e others hticks hon week hpos hslot

theorem unknown_of_told {sent : Sent} {now : Time} {on : Bool}
    (h : Told (sent.rich ++ sent.compact.getD []) sent.result) :
    TickRecord.unknown ⟨now, on, .sent sent⟩ = false := by
  simp only [TickRecord.unknown]
  split
  next hresult => exact absurd hresult (h.known _ _ _)
  next => rfl

theorem accepted_of_told {sent : Sent} {now : Time} {on : Bool}
    (h : Told (sent.rich ++ sent.compact.getD []) sent.result) :
    TickRecord.accepted ⟨now, on, .sent sent⟩ =
      if sent.result.isOk then 1 else 0 :=
  h.accepted

theorem TickFits.of_none {ticks : List TickRecord} {r : TickRecord}
    (hnone : r.accepted = 0)
    (hskipped : r.on = true → ∀ week, 0 < slotAt location week →
      InSlot location week r.now →
        (∃ e ∈ ticks ++ [r], InSlot location week e.now ∧ 0 < e.accepted) ∨
          (∃ e ∈ ticks ++ [r], InSlot location week e.now ∧
            e.silent = true) ∨ r.failed = true) :
    TickFits location ticks r where
  atMostOne := by omega
  first haccepted := by omega
  timely haccepted := by omega
  skipped := hskipped

/-- One more tick, by what it did to the last time. -/
theorem Kept.extend {world : DigestWorld} (h : Kept location world)
    {service : DigestService} {r : TickRecord}
    (hnow : world.clock ≤ r.now)
    (hmono : world.service.lastDigestAt ≤ service.lastDigestAt)
    (hrecorded : 0 < r.accepted → r.now ≤ service.lastDigestAt)
    (hknown : r.unknown = false)
    (horigin : service.lastDigestAt = world.service.lastDigestAt ∨
      (service.lastDigestAt = r.now ∧
        (0 < r.accepted ∨ r.silent = true)) ∨
      (service.lastDigestAt : Int) + digestLateness < r.now)
    (hfits : TickFits location world.ticks r) :
    Kept location
      { service := service, clock := r.now, ticks := world.ticks ++ [r] } where
  lastLe := by
    have hlast := h.lastLe
    have hlateness := digestLateness_eq
    rcases horigin with hsame | ⟨hsame, -⟩ | hlong
    · exact hsame ▸ Nat.le_trans hlast hnow
    · exact Nat.le_of_eq hsame
    · have hle : (service.lastDigestAt : Int) ≤ r.now := by omega
      exact Int.ofNat_le.mp hle
  past := by
    rw [List.forall_mem_append]
    refine ⟨fun e he => Nat.le_trans (h.past e he) hnow, ?_⟩
    exact List.forall_mem_singleton.mpr (le_refl _)
  recorded := by
    rw [List.forall_mem_append]
    refine ⟨fun e he haccepted => ?_, List.forall_mem_singleton.mpr hrecorded⟩
    exact Nat.le_trans (h.recorded e he haccepted) hmono
  known := by
    rw [List.forall_mem_append]
    exact ⟨h.known, List.forall_mem_singleton.mpr hknown⟩
  origin := by
    rcases horigin with hsame | ⟨hsame, hkind⟩ | hlong
    · rcases h.origin with hzero | ⟨e, he, hlast, hkind⟩ | hlong
      · exact Or.inl (hsame.trans hzero)
      · exact Or.inr (Or.inl
          ⟨e, List.mem_append_left _ he, hlast.trans hsame.symm, hkind⟩)
      · refine Or.inr (Or.inr ?_)
        have hclock : (world.clock : Int) ≤ r.now := Int.ofNat_le.mpr hnow
        rw [hsame]
        exact lt_of_lt_of_le hlong hclock
    · exact Or.inr (Or.inl ⟨r, by simp, hsame.symm, hkind⟩)
    · exact Or.inr (Or.inr hlong)
  kept := h.kept.concat h.known hfits

variable (hzone : location.Seasonal)

include hzone

/-- A tick in time for a slot that is handled already. -/
theorem Kept.handled {world : DigestWorld} (h : Kept location world)
    {now : Time} {week : Int} (hnow : world.clock ≤ now)
    (hpos : 0 < slotAt location week) (hslot : InSlot location week now)
    (hlast : digestDueAt now location ≤ world.service.lastDigestAt) :
    ∃ e ∈ world.ticks, InSlot location week e.now ∧
      (0 < e.accepted ∨ e.silent = true) := by
  have hdue : slotAt location week ≤ world.service.lastDigestAt := by
    rw [due_of_inSlot hzone hslot] at hlast
    exact Int.toNat_le.mp hlast
  have hclock : (world.clock : Int) ≤ now := Int.ofNat_le.mpr hnow
  rcases h.origin with hzero | ⟨e, he, hsame, hkind⟩ | hlong
  · rw [hzero] at hdue
    exact absurd hpos (Int.not_lt.mpr hdue)
  · refine ⟨e, he, ⟨hsame ▸ hdue, ?_⟩, hkind⟩
    have hpast : (e.now : Int) ≤ world.clock := Int.ofNat_le.mpr (h.past e he)
    exact le_trans (le_trans hpast hclock) hslot.2
  · have hlate := hslot.2
    omega

theorem Kept.tick {world : DigestWorld} (h : Kept location world)
    {tick : DigestTick}
    (hclear : ∀ content ∈ tick.content, content.Clear) :
    Kept location (world.step location (.tick tick)) := by
  have hnow : world.clock ≤ world.clock + tick.elapsed := Nat.le_add_right _ _
  have hstep := @sendDigestIfDue_step location world.service
    (world.clock + tick.elapsed) tick
  rw [DigestWorld.step]
  generalize world.service.sendDigestIfDue location
    (world.clock + tick.elapsed) tick = result at hstep ⊢
  cases hstep with
  | off hoff =>
      refine h.extend (r := ⟨_, _, .off⟩) hnow (le_refl _)
        (fun haccepted => absurd haccepted (lt_irrefl 0)) rfl (Or.inl rfl)
        (TickFits.of_none rfl fun hon => ?_)
      rw [hoff] at hon
      cases hon
  | handled hon hlast =>
      refine h.extend (r := ⟨_, _, .handled⟩) hnow (le_refl _)
        (fun haccepted => absurd haccepted (lt_irrefl 0)) rfl (Or.inl rfl)
        (TickFits.of_none rfl fun _ week hpos hslot => ?_)
      obtain ⟨e, he, heslot, haccepted | hsilent⟩ :=
        h.handled hzone hnow hpos hslot hlast
      · exact Or.inl ⟨e, List.mem_append_left _ he, heslot, haccepted⟩
      · exact Or.inr (Or.inl ⟨e, List.mem_append_left _ he, heslot, hsilent⟩)
  | missed hon hlast hlate =>
      refine h.extend (r := ⟨_, _, .missed⟩) hnow (Nat.le_of_lt hlast)
        (fun haccepted => absurd haccepted (lt_irrefl 0)) rfl
        (Or.inr (Or.inr (lt_sub_iff_add_lt'.mp hlate)))
        (TickFits.of_none rfl fun _ week hpos hslot => ?_)
      -- In time for its slot, a tick is not late.
      have hdue := due_of_inSlot hzone hslot
      rw [Time.sub, hdue, Int.toNat_of_nonneg (le_of_lt hpos)] at hlate
      exact absurd hslot.2 (not_le.mpr (lt_sub_iff_add_lt'.mp hlate))
  | silent hon hlast hlate hcontent =>
      refine h.extend (r := ⟨_, _, .silent⟩) hnow (Nat.le_trans h.lastLe hnow)
        (fun haccepted => absurd haccepted (lt_irrefl 0)) rfl
        (Or.inr (Or.inl ⟨rfl, Or.inr rfl⟩))
        (TickFits.of_none rfl fun _ week hpos hslot => ?_)
      exact Or.inr (Or.inl ⟨_, by simp, hslot, rfl⟩)
  | @failed hon hlast hlate content hcontent hresult =>
      have htold := (hclear content hcontent).told
      have hnone : TickRecord.accepted ⟨world.clock + tick.elapsed,
          world.service.on, .sent content.sendFormattedToWithMarkup⟩ = 0 := by
        rw [accepted_of_told htold, hresult]
        rfl
      refine h.extend (r := ⟨_, _, .sent _⟩) hnow (le_refl _)
        (fun haccepted => by omega) (unknown_of_told htold) (Or.inl rfl)
        (TickFits.of_none hnone fun _ week hpos hslot => ?_)
      refine Or.inr (Or.inr ?_)
      simp only [TickRecord.failed, hresult, Bool.not_false]
  | @sent hon hlast hlate content hcontent hresult =>
      have htold := (hclear content hcontent).told
      have hone : TickRecord.accepted ⟨world.clock + tick.elapsed,
          world.service.on, .sent content.sendFormattedToWithMarkup⟩ = 1 := by
        rw [accepted_of_told htold, hresult]
        rfl
      refine h.extend (r := ⟨_, _, .sent _⟩) hnow (Nat.le_trans h.lastLe hnow)
        (fun _ => le_refl _) (unknown_of_told htold)
        (Or.inr (Or.inl ⟨rfl, Or.inl (by omega)⟩)) ⟨?_, ?_, ?_, ?_⟩
      · omega
      · intro _ week hslot e he heslot
        by_contra haccepted
        have hlate' := h.recorded e he (Nat.pos_of_ne_zero haccepted)
        rw [due_of_inSlot hzone hslot] at hlast
        have hbefore := Nat.lt_of_le_of_lt hlate' hlast
        exact absurd (Int.toNat_le.mpr heslot.1) (Nat.not_le.mpr hbefore)
      · intro _
        obtain ⟨week, hslot, -⟩ := inSlot_of_due hzone
          (Nat.lt_of_le_of_lt (Nat.zero_le _) hlast) hlate
        exact ⟨hon, week, hslot⟩
      · intro _ week _ hslot
        exact Or.inl ⟨_, List.mem_append_right _ (List.mem_singleton_self _),
          hslot, by omega⟩

theorem Kept.step {world : DigestWorld} (h : Kept location world)
    {event : DigestEvent} (hclear : StepClear world event) :
    Kept location (world.step location event) := by
  cases event with
  | configure config => exact h.of_service rfl
  | setMaintenance on => exact h.of_service rfl
  | restart => exact h.of_service hclear
  | tick tick => exact h.tick hzone hclear

theorem Kept.run {world : DigestWorld} (h : Kept location world)
    {events : List DigestEvent} (hclear : RunClear location world events) :
    Kept location (world.run location events) := by
  induction events generalizing world with
  | nil => exact h
  | cons event events ih => exact ih (h.step hzone hclear.1) hclear.2

omit hzone in
/-- A service that starts for the first time. -/
theorem Kept.init (config : DigestConfig) :
    Kept location { service := { config := config } } where
  lastLe := le_refl 0
  past := nofun
  recorded := nofun
  known := nofun
  origin := Or.inl rfl
  kept :=
    { once := fun week => Nat.zero_le 1
      timely := nofun
      notRepeated := by simp
      skipped := by simp }

/-- In a run of clear steps, a slot gets one digest at most, in time and while
all is switched on, and is skipped for a reason only. -/
theorem digest_once_per_slot (config : DigestConfig)
    (events : List DigestEvent)
    (hclear : RunClear location { service := { config := config } } events) :
    DigestsKept location
      (DigestWorld.run location { service := { config := config } }
        events).ticks :=
  ((Kept.init config).run hzone hclear).kept

end Ticks

namespace DigestSample

theorem utc_seasonal : Location.utc.Seasonal where
  bounded s := by simp [Location.utc]
  shifts s t _ _ := by simp [Location.utc]

def digestConfig : DigestConfig where
  enabled := true
  chatID := "1".toList
  weeklyDigestEnabled := true

/-- A digest through one node. -/
def digestThrough (outcome : Outcome) : Sending where
  botToken := "1:a".toList
  richHTML := []
  richMessages := 0
  rich := []
  compact := [{ name := "node".toList, outcome := outcome }]

theorem accepted_success (_ : ({ ok := true } : ApiResponse).ok = true) :
    200 ≤ 200 ∧ 200 < 300 := by
  decide

def acceptedAnswer : Answer where
  status := 200
  response := { ok := true }
  success := accepted_success

/-- A tick at the slot of the second week, and one a minute later. -/
def mondayTick (content : Sending) : DigestEvent :=
  .tick { elapsed := 640800000000000, content := some content }

def minuteTick (content : Sending) : DigestEvent :=
  .tick { elapsed := 60000000000, content := some content }

def answeredRun : List DigestEvent :=
  [mondayTick (digestThrough (.answered acceptedAnswer)), .restart,
    minuteTick (digestThrough (.answered acceptedAnswer))]

theorem digest_once_answered :
    DigestsKept Location.utc (DigestWorld.run Location.utc
      { service := { config := digestConfig } } answeredRun).ticks := by
  refine digest_once_per_slot utc_seasonal digestConfig answeredRun
    ⟨?_, rfl, ?_, trivial⟩
  · rintro content ⟨⟩
    exact fun candidate hcandidate => by
      obtain rfl := List.mem_singleton.mp hcandidate
      rfl
  · rintro content ⟨⟩
    exact fun candidate hcandidate => by
      obtain rfl := List.mem_singleton.mp hcandidate
      rfl

/-- Telegram accepts the message and its answer is cut off. -/
def cutDigest : Sending :=
  digestThrough (.processed true (.cut "unexpected EOF".toList))

/-- The state is not written to its end before the service starts again. -/
def crashedRun : List DigestEvent :=
  [.tick
      { elapsed := 640800000000000, left := some .broken,
        content := some (digestThrough (.answered acceptedAnswer)) },
    .restart, minuteTick (digestThrough (.answered acceptedAnswer))]

/-- A lost answer and a torn state file both send a digest twice. -/
theorem digest_sent_twice :
    ¬ DigestsKept Location.utc (DigestWorld.run Location.utc
        { service := { config := digestConfig } }
        [mondayTick cutDigest, minuteTick cutDigest]).ticks ∧
      ¬ DigestsKept Location.utc (DigestWorld.run Location.utc
        { service := { config := digestConfig } } crashedRun).ticks := by
  refine ⟨fun hkept => ?_, fun hkept => ?_⟩
  · exact absurd (hkept.once 1) (by decide)
  · exact absurd (hkept.once 1) (by decide)

end DigestSample

end XrayChecker.Telegram

import XrayChecker.Speedtest.DeleteRace
import XrayChecker.Speedtest.Phases

/-
A run that is cancelled: what becomes of the measurements that were finished
by then, and of the attempts that were not.
-/

namespace XrayChecker.Speedtest

open Go Machine

namespace Stage

/-- The measurement a node has, wherever it is on its way. -/
def result : Stage → Option Result
  | .measured _ primary | .sent _ primary | .queued _ primary => some primary
  | .trying current => some current.primary
  | .settled result | .recorded result => some result
  | _ => none

/-- The node is in the loop over the reserve endpoints. -/
def isTrying : Stage → Bool
  | .trying _ => true
  | _ => false

/-- More than the steps that are left. -/
def effort : Stage → Nat
  | .waiting => 9
  | .measuring _ => 8
  | .sent _ _ => 7
  | .measured _ _ | .queued _ _ => 6
  | .trying current =>
      2 * current.rest.length + if current.transferring then 2 else 3
  | .settled _ => 1
  | _ => 0

end Stage

namespace SpeedRun

variable {setup : Setup}

/-- When the run is cancelled, no node is trying reserve endpoints and every
failed measurement is recorded; what is in flight fails; and no node tries an
endpoint after that. -/
def Allowed (setup : Setup) (w : SpeedRun) : Event → Prop
  | .cancel => w.cancelled = false → ∀ stage ∈ w.stages,
      stage.isTrying = false ∧ ∀ result, stage.result = some result →
        result.error = [] ∨ stage = .recorded result
  | .finish _ attempt _ => w.cancelled = true → attempt.error ≠ []
  | .enter index country threshold now => w.cancelled = true →
      ∀ proxy config primary, setup.proxies[index]? = some proxy →
        w.stages[index]? = some (.measured config primary) →
        startFallback w.health setup.catalog proxy.stableID config primary
          country threshold now = none
  | _ => True

/-- What a step does to a node and to the health of the endpoints. -/
inductive Move (w : SpeedRun) (proxy : ProxyConfig) :
    Stage → Stage → FallbackHealthState → Prop
  | skipped : Move w proxy .waiting .skipped w.health
  | measuring (config : TestConfig) : w.cancelled = false →
      Move w proxy .waiting (.measuring config) w.health
  | measured (config : TestConfig) (primary : Result) :
      primary.stableID = proxy.stableID →
      (w.cancelled = true → primary.error ≠ []) →
      Move w proxy (.measuring config) (.measured config primary) w.health
  | sent (config : TestConfig) (primary : Result) :
      primary.stableID = proxy.stableID →
      (w.cancelled = true → primary.error ≠ []) →
      Move w proxy (.measuring config) (.sent config primary) w.health
  | queued (config : TestConfig) (primary : Result) : w.cancelled = false →
      Move w proxy (.sent config primary) (.queued config primary) w.health
  | settled (old : Stage) (config : TestConfig) (primary : Result) :
      old = .measured config primary ∨ old = .queued config primary →
      Move w proxy old (.settled primary) w.health
  | trying (old : Stage) (config : TestConfig) (trying : Trying) :
      old = .measured config trying.primary ∨
        old = .queued config trying.primary →
      w.cancelled = false → trying.rest.length ≤ 1 →
      trying.transferring = false →
      Move w proxy old (.trying trying) w.health
  | next (trying next : Trying) (health : FallbackHealthState) :
      next.primary = trying.primary →
      (Stage.trying next).effort < (Stage.trying trying).effort →
      Move w proxy (.trying trying) (.trying next) health
  | answered (trying : Trying) (result : Result)
      (health : FallbackHealthState) :
      (trying.primary.stableID = proxy.stableID →
        result.stableID = proxy.stableID) →
      Move w proxy (.trying trying) (.settled result) health

/-- The result of a node has arrived at the recording loop. -/
inductive Arrived : Stage → Result → Prop
  | sent (config : TestConfig) (primary : Result) :
      Arrived (.sent config primary) primary
  | settled (result : Result) : Arrived (.settled result) result

/-- What a step does, if it does anything. -/
inductive Moves (setup : Setup) (w : SpeedRun) : SpeedRun → Prop
  | cancel : w.cancelled = false → Moves setup w { w with cancelled := true }
  | move {index : Nat} {proxy : ProxyConfig} {old new : Stage}
      {health : FallbackHealthState} :
      setup.proxies[index]? = some proxy → w.stages[index]? = some old →
      w.Move proxy old new health →
      Moves setup w { w.setStage index new with health := health }
  | record {index : Nat} {old : Stage} {result : Result} (now : Time) :
      w.stages[index]? = some old → Arrived old result →
      Moves setup w (w.recordResult setup index result now)

theorem startFallback_some {health : FallbackHealthState}
    {catalog : GoMap Text (List FallbackEndpoint)} {stableID : Text}
    {config : TestConfig} {primary : Result} {country : Text}
    {threshold : Rat} {now : Time} {trying : Trying}
    (h : startFallback health catalog stableID config primary country
      threshold now = some trying) :
    trying.primary = primary ∧ trying.rest.length ≤ 1 ∧
      trying.transferring = false := by
  unfold startFallback at h
  split at h
  · cases h
  · split at h
    · cases h
    · split at h
      · cases h
      · rename_i endpoint rest htake
        cases h
        refine ⟨rfl, ?_, rfl⟩
        have hlength := congrArg List.length htake
        rw [List.length_take, List.length_cons] at hlength
        change rest.length ≤ 1
        unfold maxFallbackAttempts at hlength
        omega

theorem tried_move {w : SpeedRun} {proxy : ProxyConfig} {old : Stage}
    {config : TestConfig} {primary : Result} {country : Text}
    {threshold : Rat} {now : Time}
    (hold : old = .measured config primary ∨ old = .queued config primary)
    (hnone : w.cancelled = true → startFallback w.health setup.catalog
      proxy.stableID config primary country threshold now = none) :
    w.Move proxy old (w.tried setup proxy.stableID config primary country
      threshold now) w.health := by
  unfold tried
  split
  · rename_i trying htrying
    obtain ⟨rfl, hrest, hprobe⟩ := startFallback_some htrying
    refine .trying old config trying hold ?_ hrest hprobe
    cases hcancelled : w.cancelled with
    | false => rfl
    | true =>
        rw [hnone hcancelled] at htrying
        cases htrying
  · exact .settled old config primary hold

theorem next_some {trying next : Trying} (h : trying.next = some next) :
    next.primary = trying.primary ∧
      (Stage.trying next).effort < (Stage.trying trying).effort := by
  unfold Trying.next at h
  split at h
  · cases h
  · rename_i endpoint rest hrest
    cases h
    refine ⟨rfl, ?_⟩
    simp only [Stage.effort, hrest, List.length_cons, Bool.false_eq_true,
      ↓reduceIte]
    split
    · omega
    · omega

theorem getElem?_of_length {A B : Type} {left : List A} {right : List B}
    (hlength : left.length = right.length) {index : Nat} {a : A}
    (h : left[index]? = some a) : ∃ b, right[index]? = some b := by
  obtain ⟨hindex, -⟩ := List.getElem?_eq_some_iff.mp h
  exact ⟨_, List.getElem?_eq_getElem (hlength ▸ hindex)⟩

/-- Every step that is allowed does nothing or one of the moves. -/
theorem step_cases {w : SpeedRun} {event : Event}
    (hlength : w.stages.length = setup.proxies.length)
    (hallowed : w.Allowed setup event) :
    w.step setup event = w ∨ Moves setup w (w.step setup event) := by
  have hproxy : ∀ {index : Nat} {stage : Stage},
      w.stages[index]? = some stage →
      ∃ proxy, setup.proxies[index]? = some proxy :=
    fun hstage => getElem?_of_length hlength hstage
  cases event with
  | acquire index config ready =>
      simp only [step, acquire]
      split
      · rename_i hstage
        obtain ⟨proxy, hproxy⟩ := hproxy hstage
        split
        · exact Or.inl rfl
        · split
          · exact Or.inr (.move hproxy hstage .skipped)
          · rename_i hgoes
            simp only [Bool.or_eq_true, not_or, Bool.not_eq_true] at hgoes
            exact Or.inr (.move hproxy hstage (.measuring config hgoes.1))
      · exact Or.inl rfl
  | finish index attempt now =>
      simp only [step, finish]
      split
      · rename_i proxy config hproxy hstage
        split
        · exact Or.inr (.move hproxy hstage (.sent config _ rfl hallowed))
        · exact Or.inr (.move hproxy hstage (.measured config _ rfl hallowed))
      · rename_i proxy trying hproxy hstage
        split
        · cases hnext : trying.next with
          | none =>
              exact Or.inr (.move hproxy hstage
                (.answered trying _ _ fun hnamed => hnamed))
          | some next =>
              obtain ⟨hprimary, heffort⟩ := next_some hnext
              exact Or.inr (.move hproxy hstage
                (.next trying next _ hprimary heffort))
        · split
          · rename_i hprobe
            refine Or.inr (.move hproxy hstage (.next trying _ _ rfl ?_))
            rw [Bool.not_eq_true'] at hprobe
            simp only [Stage.effort, hprobe, ↓reduceIte, Bool.false_eq_true]
            omega
          · exact Or.inr (.move hproxy hstage
              (.answered trying _ _ fun _ => rfl))
      · exact Or.inl rfl
  | receive index threshold now =>
      simp only [step, receive]
      split
      · rename_i config primary hstage
        obtain ⟨proxy, hproxy⟩ := hproxy hstage
        split
        · rename_i hqueued
          simp only [Bool.and_eq_true, Bool.not_eq_true'] at hqueued
          exact Or.inr (.move hproxy hstage (.queued config primary hqueued.1))
        · exact Or.inr (.record now hstage (.sent config primary))
      · rename_i result hstage
        exact Or.inr (.record now hstage (.settled result))
      · exact Or.inl rfl
  | enter index country threshold now =>
      simp only [step, enter]
      split
      · rename_i proxy config primary hproxy hstage
        refine Or.inr (.move hproxy hstage (tried_move (Or.inl rfl) ?_))
        exact fun hcancelled =>
          hallowed hcancelled proxy config primary hproxy hstage
      · rename_i proxy config primary hproxy hstage
        split
        · exact Or.inl rfl
        · split
          · exact Or.inr (.move hproxy hstage
              (.settled _ config primary (Or.inr rfl)))
          · rename_i hgoes
            refine Or.inr (.move hproxy hstage (tried_move (Or.inr rfl) ?_))
            exact fun hcancelled => absurd hcancelled hgoes
      · exact Or.inl rfl
  | cancel =>
      cases hcancelled : w.cancelled with
      | false => exact Or.inr (.cancel hcancelled)
      | true =>
          refine Or.inl ?_
          rw [step, ← hcancelled]

/-- What a run has recorded so far. -/
structure Tracked (setup : Setup) (m : Manager) (w : SpeedRun) : Prop where
  length : w.stages.length = setup.proxies.length
  named : ∀ (index : Nat) (proxy : ProxyConfig) (stage : Stage)
    (result : Result), setup.proxies[index]? = some proxy →
    w.stages[index]? = some stage → stage.result = some result →
    result.stableID = proxy.stableID
  recorded : ∀ (index : Nat) (result : Result),
    w.stages[index]? = some (.recorded result) → ∃ now,
      w.runResults.filter (·.index = index) =
        [{ index := index, result := setup.marked result, recordedAt := now }]
  unrecorded : ∀ (index : Nat),
    (∀ result, w.stages[index]? ≠ some (.recorded result)) →
    w.runResults.filter (·.index = index) = []
  manager : w.manager = w.runResults.foldl
    (fun m entry => m.recordResult entry.result entry.recordedAt) m

theorem tracked_start (setup : Setup) (m : Manager)
    (health : FallbackHealthState) :
    Tracked setup m (setup.start m health) := by
  have hwaiting : ∀ (index : Nat) (stage : Stage),
      (setup.start m health).stages[index]? = some stage →
      stage = .waiting := by
    intro index stage hstage
    simp only [Setup.start, List.getElem?_map, Option.map_eq_some_iff]
      at hstage
    obtain ⟨proxy, -, hwaiting⟩ := hstage
    exact hwaiting.symm
  refine ⟨List.length_map _, ?_, ?_, fun _ _ => rfl, rfl⟩
  · intro index proxy stage result _ hstage hresult
    rw [hwaiting index stage hstage] at hresult
    cases hresult
  · intro index result hstage
    cases hwaiting index _ hstage

theorem setStage_get {w : SpeedRun} {index : Nat} {old : Stage}
    (hold : w.stages[index]? = some old) (new : Stage) (other : Nat) :
    (w.setStage index new).stages[other]? =
      if index = other then some new else w.stages[other]? := by
  obtain ⟨hindex, -⟩ := List.getElem?_eq_some_iff.mp hold
  rw [setStage, List.getElem?_set, if_pos hindex]

/-- A node goes from one stage to another, and neither is the last one. -/
theorem Tracked.replace {m : Manager} {w : SpeedRun} (h : Tracked setup m w)
    {index : Nat} {proxy : ProxyConfig} {old new : Stage}
    (health : FallbackHealthState)
    (hproxy : setup.proxies[index]? = some proxy)
    (hold : w.stages[index]? = some old)
    (holdOpen : ∀ result, old ≠ .recorded result)
    (hnewOpen : ∀ result, new ≠ .recorded result)
    (hnamed : (∀ result, old.result = some result →
        result.stableID = proxy.stableID) →
      ∀ result, new.result = some result →
        result.stableID = proxy.stableID) :
    Tracked setup m { w.setStage index new with health := health } := by
  have hget := setStage_get hold new
  constructor
  · exact (List.length_set).trans h.length
  · intro other found stage result hfound hstage hresult
    change (w.setStage index new).stages[other]? = _ at hstage
    rw [hget] at hstage
    split at hstage
    · rename_i hsame
      subst hsame
      cases hstage
      rw [hproxy] at hfound
      cases hfound
      exact hnamed (fun kept => h.named index proxy old kept hproxy hold)
        result hresult
    · exact h.named other found stage result hfound hstage hresult
  · intro other result hstage
    change (w.setStage index new).stages[other]? = _ at hstage
    rw [hget] at hstage
    split at hstage
    · cases hstage
      exact absurd rfl (hnewOpen result)
    · exact h.recorded other result hstage
  · intro other hnone
    apply h.unrecorded
    intro result hstage
    by_cases hsame : index = other
    · subst hsame
      rw [hold] at hstage
      exact holdOpen result (Option.some.inj hstage)
    · apply hnone result
      change (w.setStage index new).stages[other]? = _
      rw [hget, if_neg hsame, hstage]
  · exact h.manager

theorem Tracked.move {m : Manager} {w : SpeedRun} (h : Tracked setup m w)
    {index : Nat} {proxy : ProxyConfig} {old new : Stage}
    {health : FallbackHealthState}
    (hproxy : setup.proxies[index]? = some proxy)
    (hold : w.stages[index]? = some old)
    (hmove : w.Move proxy old new health) :
    Tracked setup m { w.setStage index new with health := health } := by
  apply h.replace health hproxy hold
  · intro result heq
    subst heq
    cases hmove with
    | settled _ _ _ hfrom => rcases hfrom with hfrom | hfrom <;> cases hfrom
    | trying _ _ _ hfrom => rcases hfrom with hfrom | hfrom <;> cases hfrom
  · intro result heq
    subst heq
    cases hmove
  · intro hnamed result hresult
    cases hmove with
    | skipped => cases hresult
    | measuring config => cases hresult
    | measured config primary hid => exact Option.some.inj hresult ▸ hid
    | sent config primary hid => exact Option.some.inj hresult ▸ hid
    | queued config primary => exact hnamed result hresult
    | settled old config primary hfrom =>
        apply hnamed result
        rcases hfrom with rfl | rfl
        · exact hresult
        · exact hresult
    | trying old config trying hfrom =>
        apply hnamed result
        rcases hfrom with rfl | rfl
        · exact hresult
        · exact hresult
    | next trying next health hprimary =>
        apply hnamed result
        rw [← hresult]
        exact (congrArg some hprimary).symm
    | answered trying answer health hid =>
        exact Option.some.inj hresult ▸ hid (hnamed _ rfl)

theorem Arrived.pending {old : Stage} {result : Result}
    (h : Arrived old result) :
    old.result = some result ∧ ∀ kept, old ≠ .recorded kept := by
  cases h with
  | sent config primary => exact ⟨rfl, fun _ => Stage.noConfusion⟩
  | settled result => exact ⟨rfl, fun _ => Stage.noConfusion⟩

theorem Tracked.record {m : Manager} {w : SpeedRun} (h : Tracked setup m w)
    {index : Nat} {old : Stage} {result : Result} (now : Time)
    (hold : w.stages[index]? = some old) (harrived : Arrived old result) :
    Tracked setup m (w.recordResult setup index result now) := by
  obtain ⟨hresult, holdOpen⟩ := harrived.pending
  obtain ⟨hindex, -⟩ := List.getElem?_eq_some_iff.mp hold
  have hproxy := List.getElem?_eq_getElem (h.length ▸ hindex)
  unfold recordResult
  split
  · apply h.replace w.health hproxy hold holdOpen
    · exact fun _ => Stage.noConfusion
    · intro _ kept hkept
      cases hkept
  · have hget := setStage_get hold (.recorded result)
    constructor
    · exact (List.length_set).trans h.length
    · intro other found stage kept hfound hstage hkept
      change (w.setStage index _).stages[other]? = _ at hstage
      rw [hget] at hstage
      split at hstage
      · rename_i hsame
        subst hsame
        cases hstage
        cases hkept
        exact h.named index found old result hfound hold hresult
      · exact h.named other found stage kept hfound hstage hkept
    · intro other kept hstage
      change (w.setStage index _).stages[other]? = _ at hstage
      rw [hget] at hstage
      split at hstage
      · rename_i hsame
        subst hsame
        cases hstage
        refine ⟨now, ?_⟩
        rw [List.filter_append, h.unrecorded index]
        · simp
        · intro kept hkept
          rw [hold] at hkept
          exact holdOpen kept (Option.some.inj hkept)
      · rename_i hother
        rw [List.filter_append]
        simpa [hother] using h.recorded other kept hstage
    · intro other hnone
      have hother : index ≠ other := by
        rintro rfl
        apply hnone result
        exact (hget index).trans (if_pos rfl)
      rw [List.filter_append]
      have hbefore := h.unrecorded other fun kept hkept =>
        hnone kept ((hget other).trans (by rw [if_neg hother, hkept]))
      simpa [hother] using hbefore
    · rw [List.foldl_append, ← h.manager]
      rfl

theorem Moves.tracked {m : Manager} {w next : SpeedRun}
    (h : Tracked setup m w) (hmoves : Moves setup w next) :
    Tracked setup m next := by
  cases hmoves with
  | cancel _ => exact ⟨h.length, h.named, h.recorded, h.unrecorded, h.manager⟩
  | move hproxy hold hmove => exact h.move hproxy hold hmove
  | record now hold harrived => exact h.record now hold harrived

theorem Tracked.step {m : Manager} {w : SpeedRun} (h : Tracked setup m w)
    {event : Event} (hallowed : w.Allowed setup event) :
    Tracked setup m (w.step setup event) := by
  rcases step_cases h.length hallowed with hsame | hmoves
  · rw [hsame]
    exact h
  · exact hmoves.tracked h

section Effort

/-- What is left to do in the run. -/
def effort (w : SpeedRun) : Nat :=
  (w.stages.map Stage.effort).sum + if w.cancelled then 0 else 1

theorem sum_set_lt {stages : List Stage} {index : Nat} {old new : Stage}
    (hold : stages[index]? = some old) (hless : new.effort < old.effort) :
    ((stages.set index new).map Stage.effort).sum <
      (stages.map Stage.effort).sum := by
  induction stages generalizing index with
  | nil => cases hold
  | cons stage rest ih =>
      cases index with
      | zero =>
          cases hold
          simp only [List.set_cons_zero, List.map_cons, List.sum_cons]
          omega
      | succ index =>
          have hrest := ih hold
          simp only [List.set_cons_succ, List.map_cons, List.sum_cons]
          omega

theorem Move.effort_lt {w : SpeedRun} {proxy : ProxyConfig}
    {old new : Stage} {health : FallbackHealthState}
    (h : w.Move proxy old new health) : new.effort < old.effort := by
  cases h with
  | skipped => exact Nat.lt_of_sub_eq_succ rfl
  | measuring config => exact Nat.lt_of_sub_eq_succ rfl
  | measured config primary => exact Nat.lt_of_sub_eq_succ rfl
  | sent config primary => exact Nat.lt_of_sub_eq_succ rfl
  | queued config primary => exact Nat.lt_of_sub_eq_succ rfl
  | settled old config primary hfrom =>
      rcases hfrom with rfl | rfl
      · exact Nat.lt_of_sub_eq_succ rfl
      · exact Nat.lt_of_sub_eq_succ rfl
  | trying old config trying hfrom _ hrest hprobe =>
      have heffort : (Stage.trying trying).effort < 6 := by
        simp only [Stage.effort, hprobe, Bool.false_eq_true, ↓reduceIte]
        omega
      rcases hfrom with rfl | rfl
      · exact heffort
      · exact heffort
  | next trying next health _ heffort => exact heffort
  | answered trying result =>
      simp only [Stage.effort]
      split
      · omega
      · omega

theorem Arrived.effort_pos {old : Stage} {result : Result}
    (h : Arrived old result) : 0 < old.effort := by
  cases h with
  | sent config primary => exact Nat.succ_pos 6
  | settled result => exact Nat.succ_pos 0

/-- Whatever happens, less is left to do, so that a run cannot go on for
ever. -/
theorem Moves.effort_lt {w next : SpeedRun} (h : Moves setup w next) :
    next.effort < w.effort := by
  cases h with
  | cancel hcancelled =>
      simp only [effort, hcancelled, ↓reduceIte, Bool.false_eq_true]
      omega
  | move hproxy hold hmove =>
      exact Nat.add_lt_add_right (sum_set_lt hold hmove.effort_lt) _
  | record now hold harrived =>
      have hpositive := harrived.effort_pos
      unfold recordResult
      split
      · exact Nat.add_lt_add_right
          (@sum_set_lt _ _ _ .dropped hold hpositive) _
      · exact Nat.add_lt_add_right
          (@sum_set_lt _ _ _ (.recorded _) hold hpositive) _

end Effort

section Progress

theorem startFallback_nil (health : FallbackHealthState)
    (catalog : GoMap Text (List FallbackEndpoint)) (stableID : Text)
    (config : TestConfig) (primary : Result) (threshold : Rat)
    (now : Time) : startFallback health catalog stableID config primary []
      threshold now = none := by
  unfold startFallback
  split
  · rfl
  · rfl

theorem setStage_ne {w next : SpeedRun} {index : Nat} {old new : Stage}
    (hold : w.stages[index]? = some old) (hnew : new ≠ old)
    (hstages : next.stages = (w.setStage index new).stages) : next ≠ w := by
  intro hsame
  have hget := setStage_get hold new index
  rw [if_pos rfl, ← hstages, hsame, hold] at hget
  exact hnew (Option.some.inj hget).symm

/-- A failed attempt. -/
def failedAttempt : Attempt :=
  { error := "context canceled", checkedAt := 0 }

theorem failedAttempt_unsuccessful (proxy : ProxyConfig)
    (config : TestConfig) (source : Text) : successfulSpeedResult
      (failedAttempt.result proxy config source) = false := by
  rfl

/-- A node that waits for nothing can go on. -/
theorem goes_on {w : SpeedRun}
    (hlength : w.stages.length = setup.proxies.length) {index : Nat}
    {stage : Stage} (hstage : w.stages[index]? = some stage)
    (hbusy : stage.busy = true ∨ (stage.primaryOver = false ∧
      stage ≠ .waiting) ∨ ∃ result, stage = .settled result) :
    ∃ event, w.Allowed setup event ∧ w.step setup event ≠ w := by
  obtain ⟨hindex, -⟩ := List.getElem?_eq_some_iff.mp hstage
  have hproxy := List.getElem?_eq_getElem (hlength ▸ hindex)
  cases stage with
  | measuring config =>
      refine ⟨.finish index failedAttempt 0, fun _ => by decide, ?_⟩
      simp only [step, finish, hproxy, hstage]
      apply setStage_ne hstage _ rfl
      split
      · exact Stage.noConfusion
      · exact Stage.noConfusion
  | measured config primary =>
      refine ⟨.enter index [] 0 0, ?_, ?_⟩
      · intro _ proxy config primary _ _
        exact startFallback_nil _ _ _ _ _ _ _
      · simp only [step, enter, hproxy, hstage, tried, startFallback_nil]
        exact setStage_ne hstage Stage.noConfusion rfl
  | sent config primary =>
      refine ⟨.receive index 0 0, trivial, ?_⟩
      simp only [step, receive, hstage]
      split
      · exact setStage_ne hstage Stage.noConfusion rfl
      · unfold recordResult
        split
        · exact setStage_ne hstage Stage.noConfusion rfl
        · exact setStage_ne hstage Stage.noConfusion rfl
  | trying trying =>
      refine ⟨.finish index failedAttempt 0, fun _ => by decide, ?_⟩
      simp only [step, finish, hproxy, hstage, failedAttempt_unsuccessful,
        Bool.not_false, ↓reduceIte]
      cases hnext : trying.next with
      | none => exact setStage_ne hstage Stage.noConfusion rfl
      | some next =>
          refine @setStage_ne _ _ _ _ (.trying next) hstage ?_ rfl
          intro hsame
          have heffort := (next_some hnext).2
          rw [hsame] at heffort
          exact lt_irrefl _ heffort
  | settled result =>
      refine ⟨.receive index 0 0, trivial, ?_⟩
      simp only [step, receive, hstage]
      unfold recordResult
      split
      · exact setStage_ne hstage Stage.noConfusion rfl
      · exact setStage_ne hstage Stage.noConfusion rfl
  | _ => simp [Stage.busy, Stage.primaryOver] at hbusy

/-- A run that is not over can go on. -/
theorem progress {w : SpeedRun}
    (hlength : w.stages.length = setup.proxies.length)
    (hslots : 0 < setup.config.concurrency) (hover : ¬ w.Over) :
    ∃ event, w.Allowed setup event ∧ w.step setup event ≠ w := by
  by_contra hstuck
  have hidle : ∀ stage ∈ w.stages, stage.busy = false ∧
      (stage.primaryOver = true ∨ stage = .waiting) ∧
      ∀ result, stage ≠ .settled result := by
    intro stage hmem
    obtain ⟨index, hstage⟩ := List.getElem?_of_mem hmem
    by_contra hgoes
    apply hstuck
    apply goes_on hlength hstage
    by_contra hnone
    apply hgoes
    push Not at hnone
    refine ⟨by simpa using hnone.1, ?_, hnone.2.2⟩
    by_cases hprimary : stage.primaryOver = true
    · exact Or.inl hprimary
    · exact Or.inr (hnone.2.1 (by simpa using hprimary))
  have hslot : w.HasSlot setup := by
    rw [HasSlot, List.countP_eq_zero.mpr]
    · exact hslots
    · intro stage hmem
      rw [(hidle stage hmem).1]
      exact Bool.false_ne_true
  by_cases hwaiting : ∃ index : Nat, w.stages[index]? = some Stage.waiting
  · obtain ⟨index, hstage⟩ := hwaiting
    refine hstuck ⟨.acquire index setup.config false, trivial, ?_⟩
    simp only [step, acquire, hstage, hslot, not_true_eq_false, ↓reduceIte,
      Bool.not_false, Bool.or_true]
    exact setStage_ne hstage Stage.noConfusion rfl
  · have hprimaries : w.stages.all (·.primaryOver) = true := by
      rw [List.all_eq_true]
      intro stage hmem
      rcases (hidle stage hmem).2.1 with hprimary | hwait
      · exact hprimary
      · obtain ⟨index, hstage⟩ := List.getElem?_of_mem hmem
        exact absurd ⟨index, hwait ▸ hstage⟩ hwaiting
    apply hover
    intro stage hmem
    obtain ⟨index, hstage⟩ := List.getElem?_of_mem hmem
    obtain ⟨hfree, hprimary, hsettled⟩ := hidle stage hmem
    cases stage with
    | queued config primary =>
        obtain ⟨hindex, -⟩ := List.getElem?_eq_some_iff.mp hstage
        have hproxy := List.getElem?_eq_getElem (hlength ▸ hindex)
        exfalso
        refine hstuck ⟨.enter index [] 0 0, ?_, ?_⟩
        · intro _ proxy config primary _ _
          exact startFallback_nil _ _ _ _ _ _ _
        · simp only [step, enter, hproxy, hstage, hslot, hprimaries, and_self,
            not_true_eq_false, ↓reduceIte, tried, startFallback_nil]
          split
          · exact setStage_ne hstage Stage.noConfusion rfl
          · exact setStage_ne hstage Stage.noConfusion rfl
    | settled result => exact absurd rfl (hsettled result)
    | waiting => exact absurd ⟨index, hstage⟩ hwaiting
    | sent config primary => simp [Stage.primaryOver] at hprimary
    | measuring config => cases hfree
    | measured config primary => cases hfree
    | trying trying => cases hfree
    | skipped => rfl
    | recorded result => rfl
    | dropped => rfl

end Progress

/-- Where a node can be after a cancellation that met it at a stage. -/
structure After (old now : Stage) : Prop where
  idle : now.isTrying = false
  kept : ∀ result, old.result = some result → now.result = some result ∧
    (result.error = [] ∨ now = .recorded result)
  aborted : old.result = none → ∀ result, now.result = some result →
    result.error ≠ [] ∧ now ≠ .recorded result

theorem after_cancel {stage : Stage} (hidle : stage.isTrying = false)
    (hkept : ∀ result, stage.result = some result →
      result.error = [] ∨ stage = .recorded result) : After stage stage := by
  refine ⟨hidle, fun result hresult => ⟨hresult, hkept result hresult⟩, ?_⟩
  intro hnone result hresult
  rw [hnone] at hresult
  cases hresult

theorem After.move {w : SpeedRun} {proxy : ProxyConfig}
    {first old new : Stage} {health : FallbackHealthState}
    (h : After first old) (hcancelled : w.cancelled = true)
    (hmove : w.Move proxy old new health) :
    After first new ∧ health = w.health := by
  have hrunning : ∀ {P : Prop}, w.cancelled = false → P := by
    intro P hfalse
    rw [hcancelled] at hfalse
    cases hfalse
  have hfirst : old.result = none → first.result = none := by
    intro hnone
    cases hresult : first.result with
    | none => rfl
    | some result =>
        rw [(h.kept result hresult).1] at hnone
        cases hnone
  have hsame : new.isTrying = false → new.result = old.result →
      (∀ result, old ≠ .recorded result) →
      (∀ result, new ≠ .recorded result) → After first new := by
    intro hidle hresult holdOpen hnewOpen
    refine ⟨hidle, ?_, ?_⟩
    · intro result hkept
      obtain ⟨hold, hgood⟩ := h.kept result hkept
      exact ⟨hresult.trans hold, Or.inl (hgood.resolve_right (holdOpen result))⟩
    · intro hnone result hnew
      rw [hresult] at hnew
      exact ⟨(h.aborted hnone result hnew).1, hnewOpen result⟩
  have hmeasured : ∀ primary : Result, old.result = none →
      new.result = some primary → new.isTrying = false →
      new ≠ .recorded primary → primary.error ≠ [] → After first new := by
    intro primary hnone hnew hidle hopen herror
    refine ⟨hidle, ?_, ?_⟩
    · intro result hkept
      rw [hfirst hnone] at hkept
      cases hkept
    · intro _ result hresult
      rw [hnew] at hresult
      cases hresult
      exact ⟨herror, hopen⟩
  cases hmove with
  | skipped =>
      exact ⟨hsame rfl rfl (fun _ => Stage.noConfusion)
        fun _ => Stage.noConfusion, rfl⟩
  | measuring config hfalse => exact hrunning hfalse
  | measured config primary _ herror =>
      exact ⟨hmeasured primary rfl rfl rfl Stage.noConfusion
        (herror hcancelled), rfl⟩
  | sent config primary _ herror =>
      exact ⟨hmeasured primary rfl rfl rfl Stage.noConfusion
        (herror hcancelled), rfl⟩
  | queued config primary hfalse => exact hrunning hfalse
  | settled old config primary hfrom =>
      refine ⟨?_, rfl⟩
      rcases hfrom with rfl | rfl
      · exact hsame rfl rfl (fun _ => Stage.noConfusion)
          fun _ => Stage.noConfusion
      · exact hsame rfl rfl (fun _ => Stage.noConfusion)
          fun _ => Stage.noConfusion
  | trying old config trying _ hfalse => exact hrunning hfalse
  | next trying next health => exact Bool.noConfusion h.idle
  | answered trying result health => exact Bool.noConfusion h.idle

/-- A result is recorded exactly where it is not an error. -/
theorem After.record {first old new : Stage} {result : Result}
    (h : After first old) (harrived : Arrived old result)
    (hnew : new = if result.error ≠ [] then .dropped else .recorded result) :
    After first new := by
  obtain ⟨hresult, hopen⟩ := harrived.pending
  by_cases herror : result.error ≠ []
  · rw [if_pos herror] at hnew
    subst hnew
    refine ⟨rfl, ?_, fun _ _ hnone => by cases hnone⟩
    intro kept hkept
    obtain ⟨hold, hgood⟩ := h.kept kept hkept
    rw [hresult] at hold
    cases hold
    exact absurd (hgood.resolve_right (hopen result)) herror
  · rw [if_neg herror] at hnew
    subst hnew
    refine ⟨rfl, ?_, ?_⟩
    · intro kept hkept
      obtain ⟨hold, -⟩ := h.kept kept hkept
      rw [hresult] at hold
      cases hold
      exact ⟨rfl, Or.inr rfl⟩
    · intro hnone
      exact absurd (h.aborted hnone result hresult).1 herror

/-- A run after its cancellation. -/
structure Following (setup : Setup) (m : Manager) (first w : SpeedRun) :
    Prop where
  length : first.stages.length = setup.proxies.length
  tracked : Tracked setup m w
  cancelled : w.cancelled = true
  health : w.health = first.health
  after : ∀ (index : Nat) (old now : Stage), first.stages[index]? = some old →
    w.stages[index]? = some now → After old now

theorem Following.step {m : Manager} {first w : SpeedRun}
    (h : Following setup m first w) {event : Event}
    (hallowed : w.Allowed setup event) :
    Following setup m first (w.step setup event) := by
  have htracked := h.tracked.step hallowed
  rcases step_cases h.tracked.length hallowed with hsame | hmoves
  · rw [hsame]
    exact h
  · generalize w.step setup event = next at htracked hmoves ⊢
    cases hmoves with
    | cancel hfalse =>
        rw [h.cancelled] at hfalse
        cases hfalse
    | @move index proxy stage new health hproxy hstage hmove =>
        have hget := setStage_get hstage new
        refine ⟨h.length, htracked, h.cancelled, ?_, ?_⟩
        · obtain ⟨old, hfirst⟩ := getElem?_of_length h.length.symm hproxy
          have hhealth := ((h.after index old stage hfirst hstage).move
            h.cancelled hmove).2
          exact hhealth.trans h.health
        · intro other old now hold hnow
          change (w.setStage index new).stages[other]? = _ at hnow
          rw [hget] at hnow
          split at hnow
          · rename_i hsame
            subst hsame
            cases hnow
            exact ((h.after index old stage hold hstage).move h.cancelled
              hmove).1
          · exact h.after other old now hold hnow
    | @record index stage result now hstage harrived =>
        have hstages : (w.recordResult setup index result now).stages =
            (w.setStage index (if result.error ≠ [] then .dropped
              else .recorded result)).stages := by
          unfold recordResult
          by_cases herror : result.error ≠ []
          · rw [if_pos ⟨h.cancelled, herror⟩, if_pos herror]
          · rw [if_neg fun hboth => herror hboth.2, if_neg herror]
        have hrest : (w.recordResult setup index result now).cancelled =
              w.cancelled ∧
            (w.recordResult setup index result now).health = w.health := by
          unfold recordResult
          split
          · exact ⟨rfl, rfl⟩
          · exact ⟨rfl, rfl⟩
        refine ⟨h.length, htracked, hrest.1.trans h.cancelled,
          hrest.2.trans h.health, ?_⟩
        intro other old now hold hnow
        rw [hstages, setStage_get hstage] at hnow
        split at hnow
        · rename_i hsame
          subst hsame
          exact (h.after index old stage hold hstage).record harrived
            (Option.some.inj hnow).symm
        · exact h.after other old now hold hnow

/-- An entry of the results carries the name of its node. -/
theorem Tracked.entry {m : Manager} {w : SpeedRun} (h : Tracked setup m w)
    {entry : RunResult} (hentry : entry ∈ w.runResults) :
    ∃ proxy, setup.proxies[entry.index]? = some proxy ∧
      entry.result.stableID = proxy.stableID := by
  have hmem : entry ∈ w.runResults.filter (·.index = entry.index) :=
    List.mem_filter.mpr ⟨hentry, decide_eq_true rfl⟩
  by_cases hstage : ∃ result : Result,
      w.stages[entry.index]? = some (.recorded result)
  · obtain ⟨result, hstage⟩ := hstage
    obtain ⟨proxy, hproxy⟩ := getElem?_of_length h.length hstage
    obtain ⟨now, honce⟩ := h.recorded entry.index result hstage
    rw [honce, List.mem_singleton] at hmem
    refine ⟨proxy, hproxy, ?_⟩
    rw [hmem]
    exact h.named entry.index proxy _ result hproxy hstage rfl
  · push Not at hstage
    rw [h.unrecorded entry.index hstage] at hmem
    cases hmem

/-- What the recording of entries makes of a node only one of them is of. -/
theorem node_foldl {entries : List RunResult} {entry : RunResult}
    {stableID : Text} (m : Manager)
    (honce : entries.filter (·.result.stableID = stableID) = [entry])
    (hmonitored : entry.result.maintenanceProbe = false) :
    (entries.foldl (fun m entry =>
        m.recordResult entry.result entry.recordedAt) m).node stableID =
      (m.node stableID).recorded m.historyRetentionDays entry.result
        entry.recordedAt := by
  have hnone : ∀ (rest : List RunResult) (m : Manager),
      rest.filter (·.result.stableID = stableID) = [] →
      (rest.foldl (fun m entry =>
        m.recordResult entry.result entry.recordedAt) m).node stableID =
          m.node stableID := by
    intro rest
    induction rest with
    | nil => exact fun _ _ => rfl
    | cons other rest ih =>
        intro m hrest
        rw [List.filter_eq_nil_iff] at hrest
        obtain ⟨hother, hrest⟩ := List.forall_mem_cons.mp hrest
        rw [List.foldl_cons, ih _ (List.filter_eq_nil_iff.mpr hrest),
          Manager.node_recordResult, if_neg]
        exact fun hboth => hother (decide_eq_true hboth.2)
  induction entries generalizing m with
  | nil => cases honce
  | cons other rest ih =>
      rw [List.foldl_cons]
      by_cases hother : other.result.stableID = stableID
      · rw [List.filter_cons, if_pos (decide_eq_true hother)] at honce
        obtain ⟨rfl, hrest⟩ := List.cons.inj honce
        rw [hnone rest _ hrest, Manager.node_recordResult,
          if_pos ⟨hmonitored, hother⟩]
      · rw [List.filter_cons, if_neg (by simpa using hother)] at honce
        rw [ih _ honce, Manager.node_recordResult,
          if_neg fun hboth => hother hboth.2]
        congr 1
        exact update_retention m (.record other.result other.recordedAt)

end SpeedRun

open SpeedRun

/-- What a cancellation that met the run in one state leaves of it in
another. -/
structure Cancelled (setup : Setup) (m : Manager) (first w : SpeedRun) :
    Prop where
  /-- What was measured by then is recorded exactly once. -/
  stored : w.Over → ∀ (index : Nat) (stage : Stage) (result : Result),
    first.stages[index]? = some stage → stage.result = some result → ∃ now,
    w.runResults.filter (·.index = index) =
      [{ index := index, result := setup.marked result, recordedAt := now }]
  /-- It is the latest result of its node and the first entry of the
  history. -/
  kept : w.Over → ∀ (index : Nat) (stage : Stage) (result : Result)
    (proxy : ProxyConfig), first.stages[index]? = some stage →
    stage.result = some result → setup.proxies[index]? = some proxy →
    (∀ other found, setup.proxies[other]? = some found →
      found.stableID = proxy.stableID → other = index) →
    (setup.marked result).maintenanceProbe = false → ∃ now,
    w.manager.node proxy.stableID = (m.node proxy.stableID).recorded
      m.historyRetentionDays (setup.marked result) now
  /-- Nothing else is recorded. -/
  unstored : ∀ (index : Nat) (stage : Stage),
    first.stages[index]? = some stage → stage.result = none →
    w.runResults.filter (·.index = index) = []
  /-- No endpoint is blamed. -/
  blameless : w.health = first.health
  /-- The run ends: it can go on until it is over, and not for ever. -/
  goesOn : 0 < setup.config.concurrency → ¬ w.Over →
    ∃ event, w.Allowed setup event ∧ w.step setup event ≠ w
  shrinks : ∀ event, w.Allowed setup event → w.step setup event ≠ w →
    (w.step setup event).effort < w.effort

theorem SpeedRun.Following.outcome {setup : Setup} {m : Manager}
    {first w : SpeedRun} (h : Following setup m first w) :
    Cancelled setup m first w := by
  have hsame : first.stages.length = w.stages.length :=
    h.length.trans h.tracked.length.symm
  have hrecorded : w.Over → ∀ (index : Nat) (stage : Stage) (result : Result),
      first.stages[index]? = some stage → stage.result = some result →
      w.stages[index]? = some (.recorded result) := by
    intro hover index stage result hstage hresult
    obtain ⟨now, hnow⟩ := getElem?_of_length hsame hstage
    obtain ⟨hkept, -⟩ := (h.after index stage now hstage hnow).kept result
      hresult
    have hend := hover now (List.mem_of_getElem? hnow)
    rw [hnow]
    cases now with
    | recorded other => exact congrArg some (congrArg _ (Option.some.inj hkept))
    | skipped => cases hkept
    | dropped => cases hkept
    | _ => cases hend
  have hunstored : ∀ (index : Nat) (stage : Stage),
      first.stages[index]? = some stage → stage.result = none →
      w.runResults.filter (·.index = index) = [] := by
    intro index stage hstage hnone
    apply h.tracked.unrecorded
    intro result hnow
    exact ((h.after index stage _ hstage hnow).aborted hnone result rfl).2 rfl
  constructor
  · intro hover index stage result hstage hresult
    exact h.tracked.recorded index result
      (hrecorded hover index stage result hstage hresult)
  · intro hover index stage result proxy hstage hresult hproxy hunique
      hmonitored
    have hnow := hrecorded hover index stage result hstage hresult
    obtain ⟨now, honce⟩ := h.tracked.recorded index result hnow
    refine ⟨now, ?_⟩
    have hname : result.stableID = proxy.stableID :=
      h.tracked.named index proxy _ result hproxy hnow rfl
    have hfilter : w.runResults.filter
        (·.result.stableID = proxy.stableID) =
          w.runResults.filter (·.index = index) := by
      apply List.filter_congr
      intro entry hentry
      obtain ⟨found, hfound, hid⟩ := h.tracked.entry hentry
      rw [hid]
      apply decide_eq_decide.mpr
      constructor
      · exact hunique entry.index found hfound
      · intro heq
        rw [heq, hproxy] at hfound
        rw [Option.some.inj hfound]
    rw [h.tracked.manager]
    exact node_foldl m (hfilter.trans honce) hmonitored
  · exact hunstored
  · exact h.health
  · exact fun hslots hover => progress h.tracked.length hslots hover
  · intro event hallowed hmoved
    rcases step_cases h.tracked.length hallowed with hstill | hmoves
    · exact absurd hstill hmoved
    · exact hmoves.effort_lt

/-- In every run of a speed test that meets the condition, its cancellation
loses no measurement and blames no endpoint. -/
theorem cancel_keeps (setup : Setup) (m : Manager)
    (health : FallbackHealthState) {before after : List SpeedRun.Event}
    (hevents : Admissible (step setup) (Allowed setup) (setup.start m health)
      (before ++ .cancel :: after))
    (hfirst : (run (step setup) (setup.start m health) before).cancelled =
      false) :
    Cancelled setup m (run (step setup) (setup.start m health) before)
      (run (step setup) (setup.start m health)
        (before ++ .cancel :: after)) := by
  rw [admissible_append, admissible_cons] at hevents
  obtain ⟨hbefore, hcancel, hafter⟩ := hevents
  have htracked := run_invariant (Tracked setup m) hbefore
    (tracked_start setup m health) fun _ _ h hallowed => h.step hallowed
  rw [run_append, run_cons]
  generalize run (step setup) (setup.start m health) before = first at *
  have hidle := hcancel hfirst
  refine (run_invariant (Following setup m first) hafter ?_
    fun _ _ h hallowed => h.step hallowed).outcome
  refine ⟨htracked.length, htracked.step hcancel, rfl, rfl, ?_⟩
  intro index old now hold hnow
  have hsame : old = now := Option.some.inj (hold.symm.trans hnow)
  subst hsame
  obtain ⟨hquiet, hkept⟩ := hidle old (List.mem_of_getElem? hold)
  exact after_cancel hquiet hkept

namespace SpeedRun.Sample

def netherlands : ProxyConfig :=
  { protocol := "vless", server := "nl.example.com", port := 443
    name := "Netherlands", subName := "main", stableID := "nl-1" }

def proxies : List ProxyConfig :=
  [netherlands,
    { protocol := "vless", server := "de.example.com", port := 443
      name := "Germany", subName := "main", stableID := "de-1" }]

def config : TestConfig :=
  { url := "https://speed.example/100Mb.dat", maxBytes := 104857600
    timeoutSec := 120, concurrency := 2 }

def setup (source : Text) : Setup :=
  { proxies := proxies, config := config, source := source
    catalog := (∅ : GoMap Text (List FallbackEndpoint)).insert "NL"
      [{ id := "nl-ams", url := "https://ams.example/100Mb.dat" }] }

def fast : Attempt :=
  { downloadedBytes := 104857600, mbps := 200, checkedAt := 1000000000 }

/-- The server answered with a status that is no success. -/
def refused : Attempt :=
  { error := "HTTP status 502", checkedAt := 1000000000 }

def aborted : Attempt :=
  { error := "context canceled", checkedAt := 1000000000 }

/-- The first node is measured and the second one is not. -/
def halfway (attempt : Attempt) : List SpeedRun.Event :=
  [.acquire 0 config true, .acquire 1 config true,
    .finish 0 attempt 2000000000]

/-- What is in flight fails, and what has arrived is received. -/
def rest : List SpeedRun.Event :=
  [.finish 1 aborted 3000000000, .receive 0 0 3000000000,
    .receive 1 0 3000000000]

/-- A manual run cancelled between a success and an attempt in flight. -/
theorem cancel_keeps_sample :
    Cancelled (setup manualSource) {}
      (run (step (setup manualSource)) ((setup manualSource).start {} {})
        (halfway fast))
      (run (step (setup manualSource)) ((setup manualSource).start {} {})
        (halfway fast ++ .cancel :: rest)) := by
  apply cancel_keeps
  · rw [admissible_append, admissible_cons]
    refine ⟨?_, ?_, ?_⟩
    · exact admissible_cons.mpr ⟨trivial, admissible_cons.mpr ⟨trivial,
        admissible_cons.mpr ⟨fun h => absurd h (by decide),
          admissible_nil _⟩⟩⟩
    · intro _ stage hstage
      have hstages : (run (step (setup manualSource))
          ((setup manualSource).start {} {}) (halfway fast)).stages =
            [.sent config (fast.result netherlands config manualSource),
              .measuring config] := by
        decide
      rw [hstages] at hstage
      simp only [List.mem_cons, List.not_mem_nil, or_false] at hstage
      rcases hstage with rfl | rfl
      · exact ⟨rfl, fun result hresult =>
          Or.inl (Option.some.inj hresult ▸ rfl)⟩
      · exact ⟨rfl, fun result hresult => by cases hresult⟩
    · exact admissible_cons.mpr ⟨fun _ => by decide, admissible_cons.mpr
        ⟨trivial, admissible_cons.mpr ⟨trivial, admissible_nil _⟩⟩⟩
  · decide

/-- A manual run whose first node failed before the cancellation: nothing is
stored for it.  And a scheduled run whose first node is measured when it is
cancelled: the endpoint that node turns to is kept out for it. -/
theorem cancelled_run_loses_and_blames :
    (let first := run (step (setup manualSource))
        ((setup manualSource).start {} {}) (halfway refused)
      let w := run (step (setup manualSource))
        ((setup manualSource).start {} {}) (halfway refused ++ .cancel :: rest)
      first.cancelled = false ∧
        first.stages.map (fun stage => stage.result.map (·.error)) =
          [some ("HTTP status 502" : Text), none] ∧
        w.stages.all (·.isOver) = true ∧ w.runResults = [] ∧
        (w.manager.node "nl-1").latest = none) ∧
    let w := run (step (setup scheduleSource))
      ((setup scheduleSource).start {} {})
      [.acquire 0 config true, .cancel, .finish 0 aborted 3000000000,
        .enter 0 "NL" 0 3000000000, .finish 0 aborted 3000000000]
    w.health.cooling "nl-1" "nl-ams" 4000000000 = true := by
  decide

end SpeedRun.Sample

end XrayChecker.Speedtest

import XrayChecker.Speedtest.ReserveOrder

/-
Calls of `testFallbackForPrimary` on any nodes, each of whose attempts ends at
some time, over the health they share: what a call tries and returns, and when
an endpoint is kept from all nodes.
-/

namespace XrayChecker.Speedtest

open Go

/-- A call, with the claimed country of its node and the catalogue in force. -/
structure ReserveCall where
  proxy : ProxyConfig
  config : TestConfig
  source : Text
  primary : Result
  threshold : Rat
  country : Text
  catalog : GoMap Text (List FallbackEndpoint)

/-- The endpoints of the claimed country. -/
def ReserveCall.endpoints (call : ReserveCall) : List FallbackEndpoint :=
  (call.catalog[call.country]?).getD []

inductive ReserveStage where
  | trying (trying : Trying)
  | returned (result : Result)

/-- A call with the health it selected from, what it attempted and what the
attempts measured. -/
structure RunningCall where
  call : ReserveCall
  health : FallbackHealthState
  selectedAt : Time
  stage : ReserveStage
  attempted : List FallbackEndpoint := []
  measured : List (FallbackEndpoint × Result) := []

/-- What was recorded of an endpoint. -/
structure HealthRecord where
  endpointID : Text
  stableID : Text
  success : Bool
  time : Time

namespace FallbackHealthState

/-- `recordFallbackSuccess` or `recordFallbackFailure`. -/
def record (health : FallbackHealthState) (r : HealthRecord) :
    FallbackHealthState :=
  if r.success then
    health.recordFallbackSuccess r.stableID r.endpointID r.time
  else health.recordFallbackFailure r.stableID r.endpointID r.time

/-- The health after what was recorded. -/
def replay (records : List HealthRecord) : FallbackHealthState :=
  records.foldl record {}

end FallbackHealthState

/-- The call once it selected the endpoints to try. -/
def ReserveCall.started (call : ReserveCall) (health : FallbackHealthState)
    (now : Time) : RunningCall :=
  match startFallback health call.catalog call.proxy.stableID call.config
      call.primary call.country call.threshold now with
  | none =>
      { call := call, health := health, selectedAt := now
        stage := .returned call.primary }
  | some trying =>
      { call := call, health := health, selectedAt := now
        stage := .trying trying, attempted := [trying.endpoint] }

structure ReserveWorld where
  health : FallbackHealthState
  clock : Time
  records : List HealthRecord
  calls : List RunningCall := []

namespace ReserveWorld

/-- The health that earlier calls left, before the first call. -/
def start (past : List HealthRecord) : ReserveWorld where
  health := .replay past
  clock := (past.map (·.time)).foldr max 0
  records := past

def begin (w : ReserveWorld) (call : ReserveCall) : ReserveWorld :=
  { w with calls := w.calls ++ [call.started w.health w.clock] }

def setCall (w : ReserveWorld) (index : Nat) (running : RunningCall) :
    ReserveWorld :=
  { w with calls := w.calls.set index running }

def record (w : ReserveWorld) (r : HealthRecord) : ReserveWorld :=
  { w with health := w.health.record r, records := w.records ++ [r] }

end ReserveWorld

/-- The call after an attempt failed. -/
def RunningCall.failed (running : RunningCall) (trying : Trying) :
    RunningCall :=
  match trying.next with
  | some next =>
      { running with
        stage := .trying next
        attempted := running.attempted ++ [next.endpoint] }
  | none => { running with stage := .returned trying.exhausted }

/-- The end of the attempt in flight of a call. -/
def ReserveWorld.finish (w : ReserveWorld) (index : Nat) (attempt : Attempt) :
    ReserveWorld :=
  match w.calls[index]? with
  | none => w
  | some running =>
      match running.stage with
      | .returned _ => w
      | .trying trying =>
          let result := attempt.result running.call.proxy trying.attemptConfig
            running.call.source
          let running :=
            { running with
              measured := running.measured ++ [(trying.endpoint, result)] }
          let recorded (success : Bool) : HealthRecord :=
            { endpointID := trying.endpoint.id
              stableID := running.call.proxy.stableID
              success := success
              time := w.clock }
          if !successfulSpeedResult result then
            (w.setCall index (running.failed trying)).record (recorded false)
          else if !trying.transferring then
            w.setCall index
              { running with stage := .trying { trying with
                  transferring := true } }
          else
            (w.setCall index
              { running with
                stage := .returned (trying.replaced result) }).record
              (recorded true)

/-- A new call, or the end of an attempt of one, so long after what was
before. -/
inductive ReserveEvent where
  | call (call : ReserveCall) (elapsed : Nat)
  | attempt (index : Nat) (attempt : Attempt) (elapsed : Nat)

namespace ReserveWorld

def later (w : ReserveWorld) (elapsed : Nat) : ReserveWorld :=
  { w with clock := w.clock + elapsed }

def step (w : ReserveWorld) : ReserveEvent → ReserveWorld
  | .call call elapsed => (w.later elapsed).begin call
  | .attempt index attempt elapsed =>
      (w.later elapsed).finish index attempt

def run (w : ReserveWorld) (events : List ReserveEvent) : ReserveWorld :=
  events.foldl step w

end ReserveWorld

section Cooldown

/-- The failures of an endpoint since its last success anywhere, the latest
first. -/
def failuresSince (endpointID : Text) (records : List HealthRecord) :
    List HealthRecord :=
  (records.filter (·.endpointID = endpointID)).reverse.takeWhile (!·.success)

/-- The nodes of these failures within `fallbackFailureWindow`. -/
def failedNodes (endpointID : Text) (records : List HealthRecord)
    (now : Time) : List Text :=
  (((failuresSince endpointID records).filter fun r =>
    recentlyFailed now r.time && r.time ≤ now).map (·.stableID)).dedup

/-- Enough failures, on enough nodes, to keep an endpoint from all nodes. -/
def CooldownEarned (endpointID : Text) (records : List HealthRecord)
    (now : Time) : Prop :=
  fallbackGlobalFailureCount ≤ (failuresSince endpointID records).length ∧
    fallbackGlobalFailureNodes ≤ (failedNodes endpointID records now).length

variable {endpointID : Text} {records : List HealthRecord} {r : HealthRecord}

theorem failuresSince_other (h : r.endpointID ≠ endpointID) :
    failuresSince endpointID (records ++ [r]) =
      failuresSince endpointID records := by
  simp [failuresSince, h]

theorem failuresSince_success (h : r.success = true) :
    failuresSince r.endpointID (records ++ [r]) = [] := by
  simp [failuresSince, h]

theorem failuresSince_failure (h : r.success = false) :
    failuresSince r.endpointID (records ++ [r]) =
      r :: failuresSince r.endpointID records := by
  simp [failuresSince, h]

/-- What the health of an endpoint tells of the records. -/
structure Reflects (health : FallbackHealthState)
    (records : List HealthRecord) : Prop where
  consecutive : ∀ endpointID,
    (health.endpoint endpointID).consecutiveFailures =
      (failuresSince endpointID records).length
  recent : ∀ endpointID stableID time,
    (health.endpoint endpointID).recentFailures[stableID]? = some time →
      ∃ r ∈ failuresSince endpointID records,
        r.stableID = stableID ∧ r.time = time

variable {health : FallbackHealthState}

theorem endpoint_record_other (h : r.endpointID ≠ endpointID) :
    (health.record r).endpoint endpointID = health.endpoint endpointID := by
  rw [FallbackHealthState.record]
  split
  · simp [FallbackHealthState.recordFallbackSuccess,
      FallbackHealthState.endpoint, GoMap.get_insert, h]
  · simp [FallbackHealthState.recordFallbackFailure,
      FallbackHealthState.endpoint, GoMap.get_insert, h]

theorem endpoint_record_success (h : r.success = true) :
    (health.record r).endpoint r.endpointID =
      { health.endpoint r.endpointID with
        successes := (health.endpoint r.endpointID).successes + 1
        consecutiveFailures := 0
        lastSuccessAt := r.time
        cooldownUntil := 0
        recentFailures := ∅ } := by
  rw [FallbackHealthState.record, if_pos h]
  simp [FallbackHealthState.recordFallbackSuccess,
    FallbackHealthState.endpoint]

theorem endpoint_record_failure (h : r.success = false) :
    (health.record r).endpoint r.endpointID =
      (health.endpoint r.endpointID).failed r.stableID r.time := by
  rw [FallbackHealthState.record, if_neg (by simp [h])]
  simp [FallbackHealthState.recordFallbackFailure,
    FallbackHealthState.endpoint]

/-- The nodes that a failure leaves in the window. -/
theorem recentFailures_failed {endpoint : FallbackEndpointHealth}
    {stableID other : Text} {now time : Time}
    (h : (endpoint.failed stableID now).recentFailures[other]? = some time) :
    other = stableID ∧ time = now ∨
      endpoint.recentFailures[other]? = some time ∧
        recentlyFailed now time = true := by
  simp only [FallbackEndpointHealth.failed, GoMap.get_insert] at h
  split at h
  next hsame => exact Or.inl ⟨hsame.symm, (Option.some.inj h).symm⟩
  next =>
    rw [Std.ExtTreeMap.getElem?_filter'] at h
    exact Or.inr (by simpa using h)

theorem Reflects.record (h : Reflects health records) (r : HealthRecord) :
    Reflects (health.record r) (records ++ [r]) where
  consecutive endpointID := by
    by_cases hid : r.endpointID = endpointID
    · subst hid
      cases hsuccess : r.success with
      | true =>
          rw [endpoint_record_success hsuccess, failuresSince_success hsuccess]
          rfl
      | false =>
          rw [endpoint_record_failure hsuccess, failuresSince_failure hsuccess,
            List.length_cons, ← h.consecutive]
          rfl
    · rw [endpoint_record_other hid, failuresSince_other hid, h.consecutive]
  recent endpointID stableID time hrecent := by
    by_cases hid : r.endpointID = endpointID
    · subst hid
      cases hsuccess : r.success with
      | true =>
          rw [endpoint_record_success hsuccess] at hrecent
          simp at hrecent
      | false =>
          rw [endpoint_record_failure hsuccess] at hrecent
          rw [failuresSince_failure hsuccess]
          rcases recentFailures_failed hrecent with ⟨rfl, rfl⟩ | ⟨hold, -⟩
          · exact ⟨r, List.mem_cons_self, rfl, rfl⟩
          · obtain ⟨e, he, hsame⟩ := h.recent _ _ _ hold
            exact ⟨e, List.mem_cons_of_mem _ he, hsame⟩
    · rw [endpoint_record_other hid] at hrecent
      rw [failuresSince_other hid]
      exact h.recent _ _ _ hrecent

theorem reflects_replay (records : List HealthRecord) :
    Reflects (.replay records) records := by
  induction records using List.reverseRecOn with
  | nil =>
      refine ⟨fun _ => rfl, fun _ _ _ hrecent => ?_⟩
      simp [FallbackHealthState.replay,
        FallbackHealthState.endpoint] at hrecent
  | append_singleton records r ih =>
      rw [FallbackHealthState.replay, List.foldl_concat]
      exact ih.record r

theorem mem_of_failuresSince {e : HealthRecord}
    (h : e ∈ failuresSince endpointID records) : e ∈ records :=
  List.mem_of_mem_filter (List.mem_reverse.mp
    ((List.takeWhile_sublist _).mem h))

theorem mem_failedNodes {stableID : Text} {now : Time} :
    stableID ∈ failedNodes endpointID records now ↔
      ∃ e ∈ failuresSince endpointID records,
        e.stableID = stableID ∧ recentlyFailed now e.time = true ∧
          e.time ≤ now := by
  simp only [failedNodes, List.mem_dedup, List.mem_map, List.mem_filter,
    Bool.and_eq_true, decide_eq_true_iff]
  grind

/-- An endpoint is kept from all nodes only when its failures have earned
it. -/
theorem cooldown_earned (h : Reflects health records)
    (htimes : ∀ e ∈ records, e.time ≤ r.time)
    (hnew : ((health.record r).endpoint endpointID).cooldownUntil ≠
      (health.endpoint endpointID).cooldownUntil)
    (hset : ((health.record r).endpoint endpointID).cooldownUntil ≠ 0) :
    CooldownEarned endpointID (records ++ [r]) r.time := by
  by_cases hid : r.endpointID = endpointID
  · subst hid
    cases hsuccess : r.success with
    | true =>
        rw [endpoint_record_success hsuccess] at hset
        exact absurd rfl hset
    | false =>
        rw [endpoint_record_failure hsuccess] at hnew
        have hreflects := h.record r
        have hearned : fallbackGlobalFailureCount ≤
            (health.endpoint r.endpointID).consecutiveFailures + 1 ∧
              fallbackGlobalFailureNodes ≤
                ((health.endpoint r.endpointID).failed r.stableID
                  r.time).recentFailures.size := by
          by_contra hnot
          exact hnew (if_neg hnot)
        refine ⟨?_, le_trans hearned.2 ?_⟩
        · rw [failuresSince_failure hsuccess, List.length_cons,
            ← h.consecutive]
          exact hearned.1
        · -- The nodes that are kept in the window are among the failed ones.
          rw [← Std.ExtTreeMap.length_keys]
          refine (List.Nodup.subperm ?_ ?_).length_le
          · exact Std.ExtTreeMap.nodup_keys
          · intro stableID hkey
            obtain ⟨time, htime⟩ := Option.isSome_iff_exists.mp
              (Std.ExtTreeMap.mem_iff_isSome_getElem?.mp
                (Std.ExtTreeMap.mem_keys.mp hkey))
            rw [mem_failedNodes]
            rcases recentFailures_failed htime with ⟨rfl, rfl⟩ |
              ⟨hold, hrecent⟩
            · refine ⟨r, ?_, rfl, ?_, le_refl _⟩
              · rw [failuresSince_failure hsuccess]
                exact List.mem_cons_self
              · simp [recentlyFailed, fallbackFailureWindow, minutes]
            · obtain ⟨e, he, rfl, rfl⟩ := h.recent _ _ _ hold
              refine ⟨e, ?_, rfl, hrecent,
                htimes e (mem_of_failuresSince he)⟩
              rw [failuresSince_failure hsuccess]
              exact List.mem_cons_of_mem _ he
  · exact absurd (by rw [endpoint_record_other hid]) hnew

end Cooldown

section Calls

namespace RunningCall

variable (running : RunningCall)

/-- The candidates at the time of the call. -/
def candidates : List FallbackEndpoint :=
  running.health.candidates running.call.endpoints
    running.call.proxy.stableID running.call.config.url running.selectedAt

/-- The probe and the full run of one endpoint are the last that was measured,
and both succeeded. -/
def ReserveMeasured (r : Result) : Prop :=
  ∃ earlier probe full, ∃ trying : Trying,
    running.measured =
        earlier ++ [(trying.endpoint, probe), (trying.endpoint, full)] ∧
      successfulSpeedResult probe = true ∧
      successfulSpeedResult full = true ∧
      trying.primary = running.call.primary ∧ r = trying.replaced full

end RunningCall

/-- The same measurement but for the bookkeeping of the fallback. -/
def OnlyBookkeeping (primary r : Result) : Prop :=
  r = { primary with
    primaryMbps := r.primaryMbps
    fallbackAttempted := r.fallbackAttempted
    fallbackAttempts := r.fallbackAttempts
    fallbackExhausted := r.fallbackExhausted }

/-- What a call may attempt and return. -/
structure CallKept (running : RunningCall) : Prop where
  atMost : running.attempted.length ≤ maxFallbackAttempts
  inOrder : running.attempted <+: running.candidates
  eligible : ∀ e ∈ running.attempted, e ∈ running.call.endpoints ∧
    e.isEnabled = true ∧ e.url ≠ trimSpace running.call.config.url ∧
      running.health.cooling running.call.proxy.stableID e.id
        running.selectedAt = false
  anyOrder : ∀ others, (running.call.endpoints.map (·.id)).Nodup →
    running.call.endpoints.Perm others →
      running.health.candidates others running.call.proxy.stableID
        running.call.config.url running.selectedAt = running.candidates
  measured : ∀ m ∈ running.measured, m.1 ∈ running.attempted
  result : ∀ r, running.stage = .returned r →
    running.ReserveMeasured r ∨ OnlyBookkeeping running.call.primary r

/-- The attempt in flight of a call. -/
structure TryingKept (running : RunningCall) (trying : Trying) : Prop where
  rest : running.attempted ++ trying.rest =
    running.candidates.take maxFallbackAttempts
  current : trying.endpoint ∈ running.attempted
  primary : trying.primary = running.call.primary
  probed : trying.transferring = true →
    ∃ earlier probe, running.measured = earlier ++ [(trying.endpoint, probe)] ∧
      successfulSpeedResult probe = true

/-- Where a call stands. -/
def StageKept (running : RunningCall) : ReserveStage → Prop
  | .trying trying => TryingKept running trying
  | .returned r =>
      running.ReserveMeasured r ∨ OnlyBookkeeping running.call.primary r

structure CallInv (running : RunningCall) : Prop where
  attempted : running.attempted <+:
    running.candidates.take maxFallbackAttempts
  measured : ∀ m ∈ running.measured, m.1 ∈ running.attempted
  stage : StageKept running running.stage

variable {running : RunningCall} {trying : Trying}

theorem CallInv.kept (h : CallInv running) : CallKept running where
  atMost := le_trans h.attempted.length_le (List.length_take_le _ _)
  inOrder := h.attempted.trans (List.take_prefix _ _)
  eligible e he := by
    have hmem := (h.attempted.trans (List.take_prefix _ _)).subset he
    rw [RunningCall.candidates, FallbackHealthState.candidates,
      (List.perm_insertionSort _ _).mem_iff, List.mem_filter] at hmem
    simpa [and_assoc] using hmem
  anyOrder others hids hperm :=
    (candidates_perm _ _ hids hperm _ _).symm
  measured := h.measured
  result r hr := by
    have hstage := h.stage
    rw [hr] at hstage
    exact hstage

/-- The first of the selected endpoints is tried. -/
theorem startFallback_selects {health : FallbackHealthState}
    {catalog : GoMap Text (List FallbackEndpoint)} {stableID : Text}
    {config : TestConfig} {primary : Result} {country : Text}
    {threshold : Rat} {now : Time}
    (h : startFallback health catalog stableID config primary country
      threshold now = some trying) :
    (health.candidates ((catalog[country]?).getD []) stableID config.url
        now).take maxFallbackAttempts = trying.endpoint :: trying.rest ∧
      trying.primary = primary ∧ trying.transferring = false := by
  rw [startFallback] at h
  split at h
  · cases h
  · split at h
    · cases h
    · split at h
      next => cases h
      next endpoint rest htake =>
        cases h
        exact ⟨htake, rfl, rfl⟩

theorem onlyBookkeeping_refl (primary : Result) :
    OnlyBookkeeping primary primary := rfl

theorem onlyBookkeeping_exhausted (trying : Trying) :
    OnlyBookkeeping trying.primary trying.exhausted := rfl

/-- One more attempt was measured. -/
def RunningCall.after (running : RunningCall) (trying : Trying)
    (result : Result) : RunningCall :=
  { running with measured := running.measured ++ [(trying.endpoint, result)] }

theorem mem_measured_after (h : CallInv running)
    (htrying : TryingKept running trying) {result : Result} :
    ∀ m ∈ (running.after trying result).measured, m.1 ∈ running.attempted := by
  refine List.forall_mem_append.mpr ⟨h.measured, ?_⟩
  exact List.forall_mem_singleton.mpr htrying.current

theorem CallInv.failed (h : CallInv running)
    (htrying : TryingKept running trying) (result : Result) :
    CallInv ((running.after trying result).failed trying) := by
  have hmeasured := @mem_measured_after running trying h htrying result
  rw [RunningCall.failed, Trying.next]
  cases hrest : trying.rest with
  | nil =>
      refine ⟨h.attempted, hmeasured, Or.inr ?_⟩
      show OnlyBookkeeping running.call.primary trying.exhausted
      rw [← htrying.primary]
      exact onlyBookkeeping_exhausted trying
  | cons endpoint rest =>
      have hselected : running.attempted ++ [endpoint] ++ rest =
          running.candidates.take maxFallbackAttempts := by
        rw [List.append_assoc, ← htrying.rest, hrest]
        rfl
      refine ⟨⟨rest, hselected⟩, fun m hm => ?_, ?_⟩
      · exact List.mem_append_left _ (hmeasured m hm)
      · exact
          { rest := hselected
            current := List.mem_append_right _ (List.mem_singleton_self _)
            primary := htrying.primary
            probed := nofun }

theorem CallInv.probed (h : CallInv running)
    (htrying : TryingKept running trying) {result : Result}
    (hsuccess : successfulSpeedResult result = true) :
    CallInv { running.after trying result with
      stage := .trying { trying with transferring := true } } where
  attempted := h.attempted
  measured := mem_measured_after h htrying
  stage :=
    { rest := htrying.rest
      current := htrying.current
      primary := htrying.primary
      probed := fun _ => ⟨running.measured, result, rfl, hsuccess⟩ }

theorem CallInv.replaced (h : CallInv running)
    (htrying : TryingKept running trying) (hprobed : trying.transferring = true)
    {result : Result} (hsuccess : successfulSpeedResult result = true) :
    CallInv { running.after trying result with
      stage := .returned (trying.replaced result) } := by
  obtain ⟨earlier, probe, hmeasured, hprobe⟩ := htrying.probed hprobed
  have hboth : (running.after trying result).measured =
      earlier ++ [(trying.endpoint, probe), (trying.endpoint, result)] := by
    simp [RunningCall.after, hmeasured]
  refine ⟨h.attempted, mem_measured_after h htrying, Or.inl ?_⟩
  exact ⟨earlier, probe, result, trying, hboth, hprobe, hsuccess,
    htrying.primary, rfl⟩

/-- A call that has just selected its endpoints. -/
theorem CallInv.started (call : ReserveCall) (health : FallbackHealthState)
    (now : Time) : CallInv (call.started health now) := by
  rw [ReserveCall.started]
  split
  · exact ⟨List.nil_prefix, fun m hm => absurd hm List.not_mem_nil,
      Or.inr (onlyBookkeeping_refl _)⟩
  next trying hstart =>
    obtain ⟨hselected, hprimary, hprobe⟩ := startFallback_selects hstart
    refine ⟨⟨trying.rest, hselected.symm⟩,
      fun m hm => absurd hm List.not_mem_nil, ?_⟩
    exact
      { rest := hselected.symm
        current := List.mem_singleton_self _
        primary := hprimary
        probed := fun hprobed => by simp [hprobe] at hprobed }

end Calls

section Runs

structure WorldInv (w : ReserveWorld) : Prop where
  calls : ∀ running ∈ w.calls, CallInv running
  reflects : Reflects w.health w.records
  times : ∀ e ∈ w.records, e.time ≤ w.clock

variable {w : ReserveWorld}

theorem WorldInv.start (past : List HealthRecord) :
    WorldInv (.start past) where
  calls running hrunning := absurd hrunning List.not_mem_nil
  reflects := reflects_replay past
  times := by
    induction past with
    | nil => exact fun e he => absurd he List.not_mem_nil
    | cons r rest ih =>
        refine List.forall_mem_cons.mpr ⟨Nat.le_max_left _ _, fun e he => ?_⟩
        exact le_trans (ih e he) (Nat.le_max_right _ _)

theorem WorldInv.later (h : WorldInv w) (elapsed : Nat) :
    WorldInv (w.later elapsed) where
  calls := h.calls
  reflects := h.reflects
  times e he := le_trans (h.times e he) (Nat.le_add_right _ _)

theorem WorldInv.begin (h : WorldInv w) (call : ReserveCall) :
    WorldInv (w.begin call) where
  calls := List.forall_mem_append.mpr ⟨h.calls,
    List.forall_mem_singleton.mpr (CallInv.started call w.health w.clock)⟩
  reflects := h.reflects
  times := h.times

theorem WorldInv.setCall (h : WorldInv w) (index : Nat)
    {running : RunningCall} (hrunning : CallInv running) :
    WorldInv (w.setCall index running) where
  calls other hother := by
    rcases List.mem_or_eq_of_mem_set hother with hold | rfl
    · exact h.calls other hold
    · exact hrunning
  reflects := h.reflects
  times := h.times

theorem WorldInv.record (h : WorldInv w) {r : HealthRecord}
    (htime : r.time ≤ w.clock) : WorldInv (w.record r) where
  calls := h.calls
  reflects := h.reflects.record r
  times := List.forall_mem_append.mpr
    ⟨h.times, List.forall_mem_singleton.mpr htime⟩

theorem WorldInv.finish (h : WorldInv w) (index : Nat) (attempt : Attempt) :
    WorldInv (w.finish index attempt) := by
  rw [ReserveWorld.finish]
  split
  · exact h
  next running hrunning =>
    have hcall := h.calls running (List.mem_of_getElem? hrunning)
    split
    · exact h
    next trying hstage =>
      have htrying : TryingKept running trying := by
        have hkept := hcall.stage
        rw [hstage] at hkept
        exact hkept
      dsimp only
      split
      · exact (h.setCall index (hcall.failed htrying _)).record (le_refl _)
      next hresult =>
        have hsuccess : successfulSpeedResult (attempt.result
            running.call.proxy trying.attemptConfig running.call.source) =
              true := by
          simpa using hresult
        split
        · exact h.setCall index (hcall.probed htrying hsuccess)
        next hprobed =>
          have hprobed' : trying.transferring = true := by simpa using hprobed
          exact (h.setCall index
            (hcall.replaced htrying hprobed' hsuccess)).record (le_refl _)

theorem WorldInv.step (h : WorldInv w) (event : ReserveEvent) :
    WorldInv (w.step event) := by
  cases event with
  | call call elapsed => exact (h.later elapsed).begin call
  | attempt index attempt elapsed =>
      exact (h.later elapsed).finish index attempt

theorem WorldInv.run (h : WorldInv w) (events : List ReserveEvent) :
    WorldInv (w.run events) := by
  induction events generalizing w with
  | nil => exact h
  | cons event events ih => exact ih (h.step event)

/-- A step records nothing, or one attempt at its time. -/
theorem step_health (w : ReserveWorld) (event : ReserveEvent) :
    (w.step event).health = w.health ∨
      ∃ r, r.time = (w.step event).clock ∧
        (w.step event).health = w.health.record r ∧
          (w.step event).records = w.records ++ [r] := by
  cases event with
  | call call elapsed => exact Or.inl rfl
  | attempt index attempt elapsed =>
      rw [ReserveWorld.step, ReserveWorld.finish]
      split
      · exact Or.inl rfl
      · split
        · exact Or.inl rfl
        · dsimp only
          split
          · exact Or.inr ⟨_, rfl, rfl, rfl⟩
          · split
            · exact Or.inl rfl
            · exact Or.inr ⟨_, rfl, rfl, rfl⟩

theorem step_clock (w : ReserveWorld) (event : ReserveEvent) :
    w.clock ≤ (w.step event).clock := by
  cases event with
  | call call elapsed => exact Nat.le_add_right _ _
  | attempt index attempt elapsed =>
      rw [ReserveWorld.step, ReserveWorld.finish]
      split
      · exact Nat.le_add_right _ _
      · split
        · exact Nat.le_add_right _ _
        · dsimp only
          split
          · exact Nat.le_add_right _ _
          · split
            · exact Nat.le_add_right _ _
            · exact Nat.le_add_right _ _

/-- A step that keeps an endpoint from all nodes has earned it. -/
theorem WorldInv.earned (h : WorldInv w) (event : ReserveEvent)
    {endpointID : Text}
    (hnew : ((w.step event).health.endpoint endpointID).cooldownUntil ≠
      (w.health.endpoint endpointID).cooldownUntil)
    (hset : ((w.step event).health.endpoint endpointID).cooldownUntil ≠ 0) :
    CooldownEarned endpointID (w.step event).records (w.step event).clock := by
  rcases step_health w event with hsame | ⟨r, htime, hhealth, hrecords⟩
  · exact absurd (by rw [hsame]) hnew
  · rw [hhealth] at hnew hset
    rw [hrecords, ← htime]
    refine cooldown_earned h.reflects (fun e he => ?_) hnew hset
    rw [htime]
    exact le_trans (h.times e he) (step_clock w event)

/-- Whatever was recorded before, in every run every call attempts and returns
what it may, and an endpoint is kept from all nodes only when it is earned. -/
theorem reserves_kept (past : List HealthRecord)
    (events : List ReserveEvent) :
    (∀ running ∈ ((ReserveWorld.start past).run events).calls,
        CallKept running) ∧
      ∀ event endpointID,
        ((((ReserveWorld.start past).run events).step
            event).health.endpoint endpointID).cooldownUntil ≠
          (((ReserveWorld.start past).run events).health.endpoint
            endpointID).cooldownUntil →
        ((((ReserveWorld.start past).run events).step
            event).health.endpoint endpointID).cooldownUntil ≠ 0 →
        CooldownEarned endpointID
          (((ReserveWorld.start past).run events).step event).records
          (((ReserveWorld.start past).run events).step event).clock := by
  have hinv := (WorldInv.start past).run events
  exact ⟨fun running hrunning => (hinv.calls running hrunning).kept,
    fun event endpointID => hinv.earned event⟩

end Runs

end XrayChecker.Speedtest

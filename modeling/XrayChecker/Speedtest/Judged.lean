import XrayChecker.Telegram.SpeedResults

/-
One node in a speed-test run: the measurement that is stored for it, and the
verdict of the fallback decision that was taken on the way, while the
thresholds may change between any two looks at them.
-/

namespace XrayChecker.Speedtest

open Go Telegram

/-- The thresholds in force: the overrides of single nodes and the global one,
which `SetLowSpeedThresholdMbps` keeps from being negative. -/
structure Thresholds where
  nodeLowSpeedThresholds : GoMap Text Rat := ∅
  lowSpeedThresholdMbps : Rat := 0
  nonneg : 0 ≤ lowSpeedThresholdMbps := by decide

def Thresholds.lowSpeedThresholdFor (thresholds : Thresholds)
    (stableID : Text) : Rat :=
  let override :=
    if trimSpace stableID = [] then none
    else thresholds.nodeLowSpeedThresholds[trimSpace stableID]?
  match override with
  | some threshold =>
      if 0 < threshold then threshold else thresholds.lowSpeedThresholdMbps
  | none => thresholds.lowSpeedThresholdMbps

theorem Thresholds.lowSpeedThresholdFor_nonneg (thresholds : Thresholds)
    (stableID : Text) : 0 ≤ thresholds.lowSpeedThresholdFor stableID := by
  rw [lowSpeedThresholdFor]
  split
  · split
    next hpos => exact hpos.le
    · exact thresholds.nonneg
  · exact thresholds.nonneg

/-- What `testProxy` measures, and the thresholds in force when it ends. -/
structure Transfer where
  downloadedBytes : Int := 0
  mbps : Rat := 0
  timedOut : Bool := false
  error : Text := []
  checkedAt : Time
  thresholds : Thresholds := {}

/-- The node a run measures, and how. -/
structure TestTask where
  proxy : ProxyConfig
  config : TestConfig
  source : Text

/-- An attempt is stamped with the threshold that applies when it ends. -/
def executeTestAttempt (task : TestTask) (config : TestConfig)
    (transfer : Transfer) : Result :=
  ({ downloadedBytes := transfer.downloadedBytes
     mbps := transfer.mbps
     timedOut := transfer.timedOut
     error := transfer.error
     checkedAt := transfer.checkedAt
     threshold := transfer.thresholds.lowSpeedThresholdFor
       task.proxy.stableID } : Attempt).result task.proxy config task.source

/-- A reserve endpoint with what its two attempts measure. -/
structure ReserveTry where
  endpoint : FallbackEndpoint
  probe : Transfer
  transfer : Transfer

/-- The result stored for a node, and whether the last fallback decision about
it found it bad, if one was taken. -/
structure Judged where
  stored : Result
  verdict : Option Bool

section Code

variable (task : TestTask)

/-- The loop of `testFallbackForPrimary`. -/
def tryReserves (primary : Result) (threshold : Rat) (countryCode : Text) :
    Nat → List ReserveTry → Judged
  | attempted, [] =>
      if 0 < attempted then
        { stored :=
            { primary with
              primaryMbps := primary.mbps
              fallbackAttempted := true
              fallbackAttempts := attempted
              fallbackExhausted := true }
          verdict := some true }
      else ⟨primary, some true⟩
  | attempted, reserve :: rest =>
      let probe := executeTestAttempt task
        (task.config.probe reserve.endpoint) reserve.probe
      if !successfulSpeedResult probe then
        tryReserves primary threshold countryCode (attempted + 1) rest
      else
        let result := executeTestAttempt task
          { task.config with url := reserve.endpoint.url } reserve.transfer
        if !successfulSpeedResult result then
          tryReserves primary threshold countryCode (attempted + 1) rest
        else
          let trying : Trying :=
            { primary := primary
              config := task.config
              country := countryCode
              threshold := threshold
              endpoint := reserve.endpoint
              rest := []
              attempted := attempted + 1 }
          { stored := trying.replaced result
            verdict :=
              some !(trying.replaced result).telegramAlertSuppressed }

def testFallbackForPrimary (primary : Result) (threshold : Rat)
    (countryCode : Text) (reserves : List ReserveTry) : Judged :=
  if !shouldAttemptFallback primary threshold then
    ⟨primary, some false⟩
  else if countryCode = [] then ⟨primary, some true⟩
  else
    tryReserves task primary threshold countryCode 0
      (reserves.take maxFallbackAttempts)

/-- What happens around one node: what its attempts measure, the thresholds in
force at each look, and whether the run is cancelled. -/
structure Measuring where
  transfer : Transfer
  /-- At the decision of a sequenced run to queue the node. -/
  queueThresholds : Thresholds := {}
  cancelledAtQueue : Bool := false
  cancelledInQueue : Bool := false
  /-- At the decision in front of the reserve endpoints. -/
  fallbackThresholds : Thresholds := {}
  countryCode : Text := []
  reserves : List ReserveTry := []
  /-- The node is not monitored, or the project is in maintenance. -/
  maintenanceProbe : Bool := false
  projectMaintenanceProbe : Bool := false

/-- One node of `runManualTestPhases`. -/
def runManualTestPhases (measuring : Measuring) : Judged :=
  let primary := executeTestAttempt task task.config measuring.transfer
  let queueThreshold :=
    measuring.queueThresholds.lowSpeedThresholdFor primary.stableID
  if measuring.cancelledAtQueue then ⟨primary, none⟩
  else if !shouldAttemptFallback primary queueThreshold then
    ⟨primary, some false⟩
  else if measuring.cancelledInQueue then ⟨primary, some true⟩
  else
    testFallbackForPrimary task primary
      (measuring.fallbackThresholds.lowSpeedThresholdFor primary.stableID)
      measuring.countryCode measuring.reserves

def testProxyWithFallback (measuring : Measuring) : Judged :=
  let primary := executeTestAttempt task task.config measuring.transfer
  testFallbackForPrimary task primary
    (measuring.fallbackThresholds.lowSpeedThresholdFor primary.stableID)
    measuring.countryCode measuring.reserves

/-- The measurement of one node in a run, as it is recorded. -/
def measureNode (measuring : Measuring) : Judged :=
  let judged :=
    if usesSequencedFallback task.source then
      runManualTestPhases task measuring
    else testProxyWithFallback task measuring
  { judged with
    stored := { judged.stored with
      maintenanceProbe :=
        measuring.projectMaintenanceProbe || measuring.maintenanceProbe
      projectMaintenanceProbe := measuring.projectMaintenanceProbe } }

end Code

section Condition

variable (task : TestTask) (measuring : Measuring)

/-- The attempt failed or was cut short. -/
def Transfer.broken (transfer : Transfer) : Prop :=
  transfer.error ≠ [] ∨ transfer.timedOut

/-- The rate is below a threshold that applies. -/
def Transfer.slow (transfer : Transfer) (threshold : Rat) : Prop :=
  0 < threshold ∧ transfer.mbps < threshold

instance (transfer : Transfer) : Decidable transfer.broken :=
  inferInstanceAs (Decidable (_ ∨ _))

instance (transfer : Transfer) (threshold : Rat) :
    Decidable (transfer.slow threshold) :=
  inferInstanceAs (Decidable (_ ∧ _))

/-- The attempt moved data to its end. -/
def Transfer.complete (transfer : Transfer) : Bool :=
  transfer.error = [] && !transfer.timedOut && 0 < transfer.downloadedBytes

namespace Measuring

def queueThreshold : Rat :=
  measuring.queueThresholds.lowSpeedThresholdFor task.proxy.stableID

def fallbackThreshold : Rat :=
  measuring.fallbackThresholds.lowSpeedThresholdFor task.proxy.stableID

/-- The threshold the last fallback decision reads, if one is taken. -/
def decidedBy : Option Rat :=
  if usesSequencedFallback task.source then
    if measuring.cancelledAtQueue then none
    else if ¬measuring.transfer.broken ∧
        ¬measuring.transfer.slow (measuring.queueThreshold task) ∨
        measuring.cancelledInQueue then
      some (measuring.queueThreshold task)
    else some (measuring.fallbackThreshold task)
  else some (measuring.fallbackThreshold task)

/-- The node comes to the reserve endpoints. -/
def triesReserves : Prop :=
  (usesSequencedFallback task.source → ¬measuring.cancelledAtQueue ∧
    (measuring.transfer.broken ∨
      measuring.transfer.slow (measuring.queueThreshold task)) ∧
    ¬measuring.cancelledInQueue) ∧
  (measuring.transfer.broken ∨
    measuring.transfer.slow (measuring.fallbackThreshold task)) ∧
  measuring.countryCode ≠ []

instance : Decidable (measuring.triesReserves task) :=
  inferInstanceAs (Decidable (_ ∧ _ ∧ _))

/-- The attempt whose measurement is stored: the first one that a reserve
endpoint completes behind a complete probe, else the primary one. -/
def kept : Transfer :=
  if measuring.triesReserves task then
    match (measuring.reserves.take maxFallbackAttempts).find? fun reserve =>
        reserve.probe.complete && reserve.transfer.complete with
    | some reserve => reserve.transfer
    | none => measuring.transfer
  else measuring.transfer

/-- The threshold that applies when the stored measurement ends. -/
def stamp : Rat :=
  (measuring.kept task).thresholds.lowSpeedThresholdFor task.proxy.stableID

/-- The verdict stands: the measurement is bad whatever the threshold, or a
threshold applied that gives it the verdict of the fallback decision. -/
def Settled : Prop :=
  (measuring.kept task).broken ∨
    0 < measuring.stamp task ∧ ∀ threshold ∈ measuring.decidedBy task,
      ((measuring.kept task).slow (measuring.stamp task) ↔
        (measuring.kept task).slow threshold)

/-- A bad measurement an agent could be asked about is of a named node. -/
def Named : Prop :=
  (measuring.kept task).broken ∨
      (measuring.kept task).slow (measuring.stamp task) →
    measuring.maintenanceProbe ∨ measuring.projectMaintenanceProbe ∨
      trimSpace task.proxy.stableID ≠ []

end Measuring

end Condition

section Stored

variable (task : TestTask)

theorem successful_executeTestAttempt (config : TestConfig)
    (transfer : Transfer) :
    successfulSpeedResult (executeTestAttempt task config transfer) =
      transfer.complete := rfl

theorem shouldAttemptFallback_iff (result : Result) (threshold : Rat) :
    shouldAttemptFallback result threshold ↔ result.offline = false ∧
      ((result.error ≠ [] ∨ result.timedOut) ∨
        0 < threshold ∧ result.mbps < threshold) := by
  simp [shouldAttemptFallback]

theorem shouldAttempt_executeTestAttempt (config : TestConfig)
    (transfer : Transfer) (threshold : Rat) :
    shouldAttemptFallback (executeTestAttempt task config transfer)
      threshold ↔ transfer.broken ∨ transfer.slow threshold := by
  rw [shouldAttemptFallback_iff]
  exact and_iff_right rfl

/-- A result that stores what an attempt measured. -/
structure Stores (transfer : Transfer) (result : Result) : Prop where
  stableID : result.stableID = task.proxy.stableID
  error : result.error = transfer.error
  timedOut : result.timedOut = transfer.timedOut
  mbps : result.mbps = transfer.mbps
  threshold : result.lowSpeedThresholdMbps =
    transfer.thresholds.lowSpeedThresholdFor task.proxy.stableID
  offline : result.offline = false

/-- What one node's way through the code comes to. -/
structure Judged.Spec (judged : Judged) (kept : Transfer)
    (decidedBy : Option Rat) : Prop where
  stores : Stores task kept judged.stored
  verdict : judged.verdict = decidedBy.map fun threshold =>
    decide (kept.broken ∨ kept.slow threshold)
  suppressed : judged.stored.telegramAlertSuppressed →
    judged.verdict = some false

theorem stores_executeTestAttempt (config : TestConfig)
    (transfer : Transfer) :
    Stores task transfer (executeTestAttempt task config transfer) :=
  ⟨rfl, rfl, rfl, rfl, rfl, rfl⟩

theorem tryReserves_spec {transfer : Transfer} {threshold : Rat}
    (hbad : transfer.broken ∨ transfer.slow threshold) (countryCode : Text)
    (attempted : Nat) (reserves : List ReserveTry) :
    (tryReserves task (executeTestAttempt task task.config transfer) threshold
      countryCode attempted reserves).Spec task
        (match reserves.find? fun reserve =>
            reserve.probe.complete && reserve.transfer.complete with
          | some reserve => reserve.transfer
          | none => transfer) (some threshold) := by
  induction reserves generalizing attempted with
  | nil =>
      have hverdict : some true =
          (some threshold).map fun threshold =>
            decide (transfer.broken ∨ transfer.slow threshold) := by
        rw [Option.map_some, decide_eq_true hbad]
      rw [tryReserves]
      split
      · exact ⟨⟨rfl, rfl, rfl, rfl, rfl, rfl⟩, hverdict, nofun⟩
      · exact ⟨⟨rfl, rfl, rfl, rfl, rfl, rfl⟩, hverdict, nofun⟩
  | cons reserve rest ih =>
      rw [tryReserves, List.find?_cons]
      dsimp only
      rw [successful_executeTestAttempt, successful_executeTestAttempt]
      cases hprobe : reserve.probe.complete with
      | false => exact ih (attempted + 1)
      | true =>
          cases htransfer : reserve.transfer.complete with
          | false => exact ih (attempted + 1)
          | true =>
              have hclean : ¬reserve.transfer.broken := by
                simp only [Transfer.complete, Bool.and_eq_true,
                  decide_eq_true_eq, Bool.not_eq_true'] at htransfer
                simp [Transfer.broken, htransfer]
              refine ⟨⟨rfl, rfl, rfl, rfl, rfl, rfl⟩, ?_, ?_⟩
              · have hslow : decide (reserve.transfer.broken ∨
                    reserve.transfer.slow threshold) =
                    !(decide (threshold ≤ 0) ||
                      decide (threshold ≤ reserve.transfer.mbps)) := by
                  rw [Bool.eq_iff_iff]
                  simp [hclean, Transfer.slow]
                exact congrArg some hslow.symm
              · intro h
                exact congrArg some (congrArg not h)

theorem testFallbackForPrimary_spec (transfer : Transfer) (threshold : Rat)
    (countryCode : Text) (reserves : List ReserveTry) :
    (testFallbackForPrimary task
      (executeTestAttempt task task.config transfer) threshold countryCode
      reserves).Spec task
        (if (transfer.broken ∨ transfer.slow threshold) ∧ countryCode ≠ [] then
          match (reserves.take maxFallbackAttempts).find? fun reserve =>
              reserve.probe.complete && reserve.transfer.complete with
            | some reserve => reserve.transfer
            | none => transfer
        else transfer) (some threshold) := by
  have hshould := shouldAttempt_executeTestAttempt task task.config transfer
    threshold
  have hstores := stores_executeTestAttempt task task.config transfer
  rw [testFallbackForPrimary]
  by_cases hbad : transfer.broken ∨ transfer.slow threshold
  · rw [hshould.mpr hbad, if_neg (by decide)]
    by_cases hcountry : countryCode = []
    · rw [if_pos hcountry, if_neg fun h => h.2 hcountry]
      refine ⟨hstores, ?_, nofun⟩
      rw [Option.map_some, decide_eq_true hbad]
    · rw [if_neg hcountry, if_pos ⟨hbad, hcountry⟩]
      exact tryReserves_spec task hbad countryCode 0 _
  · rw [Bool.eq_false_of_not_eq_true (mt hshould.mp hbad), if_pos (by decide),
      if_neg fun h => hbad h.1]
    refine ⟨hstores, ?_, nofun⟩
    rw [Option.map_some, decide_eq_false hbad]

/-- One node's way through the code: what is stored is the kept attempt, and
the decision about it is the one its threshold gives. -/
theorem measureNode_spec (measuring : Measuring) :
    (measureNode task measuring).Spec task (measuring.kept task)
      (measuring.decidedBy task) := by
  have hway : (if usesSequencedFallback task.source then
        runManualTestPhases task measuring
      else testProxyWithFallback task measuring).Spec task
        (measuring.kept task) (measuring.decidedBy task) := by
    have hlast := testFallbackForPrimary_spec task measuring.transfer
      (measuring.fallbackThreshold task) measuring.countryCode
      measuring.reserves
    rw [Measuring.kept, Measuring.decidedBy]
    by_cases hsequenced : usesSequencedFallback task.source
    · rw [if_pos hsequenced, if_pos hsequenced, runManualTestPhases]
      have hstores := stores_executeTestAttempt task task.config
        measuring.transfer
      have hshould := shouldAttempt_executeTestAttempt task task.config
        measuring.transfer (measuring.queueThreshold task)
      by_cases hqueue : measuring.cancelledAtQueue
      · rw [if_pos hqueue, if_pos hqueue,
          if_neg fun h => (h.1 hsequenced).1 hqueue]
        exact ⟨hstores, rfl, nofun⟩
      · rw [if_neg hqueue, if_neg hqueue]
        by_cases hbad : measuring.transfer.broken ∨
            measuring.transfer.slow (measuring.queueThreshold task)
        · have hyes : shouldAttemptFallback
              (executeTestAttempt task task.config measuring.transfer)
              (measuring.queueThresholds.lowSpeedThresholdFor
                (executeTestAttempt task task.config
                  measuring.transfer).stableID) = true :=
            hshould.mpr hbad
          have hnot : ¬(¬measuring.transfer.broken ∧
              ¬measuring.transfer.slow (measuring.queueThreshold task)) :=
            fun h => hbad.elim h.1 h.2
          rw [hyes, if_neg (by decide)]
          by_cases hin : measuring.cancelledInQueue
          · rw [if_pos hin, if_neg fun h => (h.1 hsequenced).2.2 hin,
              if_pos (.inr hin)]
            refine ⟨hstores, ?_, nofun⟩
            rw [Option.map_some, decide_eq_true hbad]
          · have htries : measuring.triesReserves task ↔
                (measuring.transfer.broken ∨ measuring.transfer.slow
                  (measuring.fallbackThreshold task)) ∧
                measuring.countryCode ≠ [] :=
              ⟨fun h => h.2, fun h => ⟨fun _ => ⟨hqueue, hbad, hin⟩, h⟩⟩
            have hdecided : ¬(¬measuring.transfer.broken ∧
                ¬measuring.transfer.slow (measuring.queueThreshold task) ∨
                measuring.cancelledInQueue = true) :=
              fun h => h.elim hnot hin
            rw [if_neg hin, if_neg hdecided, if_congr htries rfl rfl]
            exact hlast
        · have hno : shouldAttemptFallback
              (executeTestAttempt task task.config measuring.transfer)
              (measuring.queueThresholds.lowSpeedThresholdFor
                (executeTestAttempt task task.config
                  measuring.transfer).stableID) = false :=
            Bool.eq_false_of_not_eq_true (mt hshould.mp hbad)
          rw [hno, if_pos (by decide),
            if_neg fun h => hbad (h.1 hsequenced).2.1,
            if_pos (.inl (not_or.mp hbad))]
          refine ⟨hstores, ?_, nofun⟩
          rw [Option.map_some, decide_eq_false hbad]
    · have htries : measuring.triesReserves task ↔
          (measuring.transfer.broken ∨ measuring.transfer.slow
            (measuring.fallbackThreshold task)) ∧
          measuring.countryCode ≠ [] :=
        ⟨fun h => h.2, fun h => ⟨fun h' => absurd h' hsequenced, h⟩⟩
      rw [if_neg hsequenced, if_neg hsequenced, if_congr htries rfl rfl]
      exact hlast
  obtain ⟨⟨h1, h2, h3, h4, h5, h6⟩, hverdict, hsuppressed⟩ := hway
  exact ⟨⟨h1, h2, h3, h4, h5, h6⟩, hverdict, hsuppressed⟩

end Stored

section Claims

open Pathquality Agentautomation

/-- Every reader, whatever global threshold it reads by, finds the stored
result as bad as the fallback decision did. -/
structure JudgedAlike (judged : Judged) (isBad : Bool) : Prop where
  decision : ∀ verdict ∈ judged.verdict, verdict = isBad
  classed : ∀ threshold,
    speedResultClass judged.stored threshold ≠ .healthy ↔ isBad
  issue : ∀ threshold results, judged.stored ∈ results →
    (judged.stored ∈ speedIssueResults results threshold ↔ isBad)
  counted : ∀ threshold,
    countSpeedIssues [judged.stored] threshold ≠ (0, 0) ↔ isBad
  successful : trimSpace judged.stored.stableID ≠ [] → ∀ threshold,
    (trimSpace judged.stored.stableID ∈
      successfulSpeedResultIDs [judged.stored] threshold ↔ ¬isBad)
  path : ∀ threshold, bad judged.stored threshold ↔ isBad
  automation : ¬judged.stored.offline → ¬judged.stored.maintenanceProbe →
    ∀ threshold, ((speedAutomationOutcome judged.stored
      (effectiveThreshold judged.stored threshold)).isSome ↔ isBad)
  confirmed : ∀ threshold,
    speedConfirmationRetryTargets [judged.stored] threshold ≠ [] → isBad
  suppressed : judged.stored.telegramAlertSuppressed → ¬isBad

theorem countSpeedIssues_single (result : Result) (threshold : Rat) :
    countSpeedIssues [result] threshold ≠ (0, 0) ↔ bad result threshold := by
  rw [countSpeedIssues_eq, ← speedResultClass_bad]
  cases hclass : speedResultClass result threshold <;> simp [hclass]

variable (task : TestTask) (measuring : Measuring)

/-- What a reader finds, from what was measured. -/
theorem bad_measureNode (threshold : Rat) :
    bad (measureNode task measuring).stored threshold ↔
      (measuring.kept task).broken ∨ (measuring.kept task).slow
        (if 0 < measuring.stamp task then measuring.stamp task
        else threshold) := by
  obtain ⟨⟨-, herror, htimedOut, hmbps, hstamp, hoffline⟩, -, -⟩ :=
    measureNode_spec task measuring
  rw [bad_iff, resultThreshold, herror, htimedOut, hmbps, hstamp, hoffline]
  simp only [Bool.false_eq_true, false_or, Transfer.broken, Transfer.slow,
    or_assoc, Measuring.stamp]
  exact Iff.rfl

/-- Readers with different thresholds agree exactly where the threshold does
not matter or one was stamped. -/
theorem bad_const_iff (isBad : Bool) :
    (∀ threshold, bad (measureNode task measuring).stored threshold ↔
        isBad) ↔
      ((measuring.kept task).broken ∨ 0 < measuring.stamp task) ∧
        (isBad ↔ (measuring.kept task).broken ∨
          (measuring.kept task).slow (measuring.stamp task)) := by
  simp only [bad_measureNode]
  by_cases hstamp : 0 < measuring.stamp task
  · simp only [hstamp, if_true, or_true, true_and]
    exact ⟨fun h => (h 0).symm, fun h _ => h.symm⟩
  · simp only [hstamp, if_false, or_false]
    by_cases hbroken : (measuring.kept task).broken
    · simp [hbroken]
    · simp only [hbroken, false_or, false_and, iff_false, not_forall]
      -- No threshold at all, or one above the rate.
      cases isBad with
      | true =>
          refine ⟨0, ?_⟩
          simp [Transfer.slow]
      | false =>
          refine ⟨max 1 ((measuring.kept task).mbps + 1), ?_⟩
          have hpos : (0 : Rat) < max 1 ((measuring.kept task).mbps + 1) :=
            lt_max_of_lt_left one_pos
          have hrate : (measuring.kept task).mbps <
              max 1 ((measuring.kept task).mbps + 1) :=
            lt_max_of_lt_right (lt_add_one _)
          simp [Transfer.slow, hpos, hrate]

/-- A stored result is judged alike by everyone, now and later, exactly where
its verdict does not hang on the threshold or a threshold applied that agrees
with the one of the fallback decision. -/
theorem judgedAlike_iff :
    (∃ isBad, JudgedAlike (measureNode task measuring) isBad) ↔
      measuring.Settled task ∧ measuring.Named task := by
  have hspec := measureNode_spec task measuring
  have hid : (measureNode task measuring).stored.stableID =
      task.proxy.stableID := hspec.stores.stableID
  constructor
  · rintro ⟨isBad, hjudged⟩
    obtain ⟨hfixed, hisBad⟩ := (bad_const_iff task measuring isBad).mp
      hjudged.path
    refine ⟨?_, ?_⟩
    · by_cases hbroken : (measuring.kept task).broken
      · exact .inl hbroken
      refine .inr ⟨hfixed.resolve_left hbroken, fun threshold hdecided => ?_⟩
      have hverdict := hjudged.decision
        (decide ((measuring.kept task).broken ∨
          (measuring.kept task).slow threshold))
        (by rw [hspec.verdict, hdecided]; rfl)
      rw [← hverdict, decide_eq_true_eq] at hisBad
      simpa only [hbroken, false_or] using hisBad.symm
    · intro hbad
      by_contra hnot
      rw [not_or, not_or, not_not] at hnot
      have hsome := (hjudged.automation
        (by rw [hspec.stores.offline]; decide)
        (by
          change ¬(measuring.projectMaintenanceProbe ||
            measuring.maintenanceProbe) = true
          rw [Bool.or_eq_true]
          exact fun h => h.elim hnot.2.1 hnot.1) 0).mpr (hisBad.mpr hbad)
      rw [speedAutomationOutcome, if_pos (.inl (hid ▸ hnot.2.2))] at hsome
      cases hsome
  · rintro ⟨hsettled, hnamed⟩
    have hfixed : (measuring.kept task).broken ∨ 0 < measuring.stamp task :=
      hsettled.imp_right And.left
    have hpath := (bad_const_iff task measuring
      (decide ((measuring.kept task).broken ∨
        (measuring.kept task).slow (measuring.stamp task)))).mpr
          ⟨hfixed, decide_eq_true_iff⟩
    refine ⟨_, ?_, fun threshold => ?_, fun threshold results hmem => ?_,
      fun threshold => ?_, fun hne threshold => ?_, hpath,
      fun honline hprobe threshold => ?_, fun threshold hne => ?_,
      fun hsuppressed => ?_⟩
    · intro verdict hverdict
      rw [hspec.verdict, Option.mem_map] at hverdict
      obtain ⟨threshold, hdecided, rfl⟩ := hverdict
      rw [decide_eq_decide]
      rcases hsettled with hbroken | ⟨-, hsame⟩
      · simp only [hbroken, true_or]
      · rw [hsame threshold hdecided]
    · rw [speedResultClass_bad]
      exact hpath threshold
    · rw [speedIssueResults_eq, List.mem_filter]
      exact (and_iff_right hmem).trans (hpath threshold)
    · rw [countSpeedIssues_single]
      exact hpath threshold
    · rw [mem_successfulSpeedResultIDs, ← hpath threshold]
      simp [hne]
    · have hprobes : ¬measuring.projectMaintenanceProbe ∧
          ¬measuring.maintenanceProbe := by
        rw [← not_or, ← Bool.or_eq_true]
        exact hprobe
      by_cases hblank : trimSpace task.proxy.stableID = []
      · -- A node without a name is never asked about.
        have hgood : ¬((measuring.kept task).broken ∨
            (measuring.kept task).slow (measuring.stamp task)) := fun hbad =>
          (hnamed hbad).elim hprobes.2 fun h =>
            h.elim hprobes.1 fun h => h hblank
        rw [speedAutomationOutcome, hid, if_pos (.inl hblank),
          decide_eq_false hgood]
        decide
      · rw [speedAutomationOutcome_bad (hid ▸ hblank) hprobe hprobes.1
          honline]
        exact hpath threshold
    · obtain ⟨target, htarget⟩ := List.exists_mem_of_ne_nil _ hne
      obtain ⟨result, hmem, -, hbad⟩ := bad_of_target htarget
      rw [List.mem_singleton.mp hmem] at hbad
      exact (hpath threshold).mp hbad
    · have hverdict := hspec.suppressed hsuppressed
      rw [hspec.verdict, Option.map_eq_some_iff] at hverdict
      obtain ⟨threshold, hdecided, hgood⟩ := hverdict
      rw [decide_eq_false_iff_not] at hgood
      rw [decide_eq_true_eq]
      rcases hsettled with hbroken | ⟨-, hsame⟩
      · exact absurd (.inl hbroken) hgood
      · rw [hsame threshold hdecided]
        exact hgood

/-- A node measured while no threshold applied is slow for a reader once there
is one. -/
theorem late_threshold_not_alike :
    ¬∃ isBad, JudgedAlike (measureNode
      { proxy := { stableID := "node" }
        config := ⟨[], 0, 0, 1⟩
        source := scheduleSource }
      { transfer := { downloadedBytes := 1, mbps := 5, checkedAt := 1 } })
      isBad := by
  rintro ⟨isBad, hjudged⟩
  have hbad := (hjudged.path 50).mp (by decide)
  exact absurd ((hjudged.path 0).mpr hbad) (by decide)

end Claims

end XrayChecker.Speedtest

import XrayChecker.Speedtest.Fallback

/-
What counts as a bad measurement: the condition of every reader, as each of
them writes it.  A reader passes the global threshold that is in force when it
reads.
-/

namespace XrayChecker.Telegram

open Go Speedtest

/-- What counted as slow for this measurement. -/
def resultThreshold (result : Result) (threshold : Rat) : Rat :=
  if 0 < result.lowSpeedThresholdMbps then result.lowSpeedThresholdMbps
  else threshold

inductive SpeedClass where
  | failed
  | slow
  | healthy
deriving DecidableEq

def speedResultClass (result : Result) (threshold : Rat) : SpeedClass :=
  let threshold := resultThreshold result threshold
  if result.offline ∨ result.error ≠ [] then .failed
  else if 0 < threshold ∧ result.mbps < threshold then .slow
  else if result.timedOut then .slow
  else .healthy

def speedIssueResults (results : List Result) (threshold : Rat) :
    List Result :=
  results.filter fun result =>
    let effective := resultThreshold result threshold
    result.offline || result.error ≠ [] || result.timedOut ||
      (0 < effective && result.mbps < effective)

/-- One iteration of `countSpeedIssues`, over the failed and the slow ones. -/
def countSpeedIssue (threshold : Rat) (counts : Nat × Nat)
    (result : Result) : Nat × Nat :=
  if result.offline then (counts.1 + 1, counts.2)
  else if result.error ≠ [] then (counts.1 + 1, counts.2)
  else
    let effective := resultThreshold result threshold
    if (0 < effective ∧ result.mbps < effective) ∨ result.timedOut then
      (counts.1, counts.2 + 1)
    else counts

def countSpeedIssues (results : List Result) (threshold : Rat) : Nat × Nat :=
  results.foldl (countSpeedIssue threshold) (0, 0)

/-- One iteration of `successfulSpeedResultIDs`. -/
def addSuccessful (threshold : Rat) (ids : List Text) (result : Result) :
    List Text :=
  let stableID := trimSpace result.stableID
  let effective := resultThreshold result threshold
  if stableID = [] ∨ result.offline ∨ result.error ≠ [] ∨ result.timedOut ∨
      (0 < effective ∧ result.mbps < effective) ∨ stableID ∈ ids then ids
  else ids ++ [stableID]

def successfulSpeedResultIDs (results : List Result) (threshold : Rat) :
    List Text :=
  sortStrings (results.foldl (addSuccessful threshold) [])

inductive SpeedRetryReason where
  | lowSpeed
  | technical
deriving DecidableEq

structure SpeedRetryTarget where
  stableID : Text
  reason : SpeedRetryReason
deriving DecidableEq

def containsContextDeadlineExceeded (value : Text) : Bool :=
  contains (toLower value) "context deadline exceeded"

def resultHasContextDeadlineExceeded (result : Result) : Bool :=
  containsContextDeadlineExceeded result.error ||
    containsContextDeadlineExceeded result.primaryError

/-- What one result waits to have confirmed. -/
def speedRetryTarget (threshold : Rat) (result : Result) :
    Option SpeedRetryTarget :=
  let stableID := trimSpace result.stableID
  let effective := resultThreshold result threshold
  let lowSpeed := 0 < effective && !result.offline && result.error = [] &&
    result.mbps < effective
  let deadline := result.timedOut || resultHasContextDeadlineExceeded result
  let unresolvedDeadline := deadline &&
    (result.offline || result.error ≠ [] || result.timedOut ||
      (0 < effective && result.mbps < effective))
  if stableID = [] ∨ !lowSpeed ∧ !unresolvedDeadline then none
  else some ⟨stableID, if lowSpeed then .lowSpeed else .technical⟩

/-- The order of the targets: by node, and low speed before a failure. -/
def SpeedRetryTarget.le (left right : SpeedRetryTarget) : Bool :=
  if left.stableID ≠ right.stableID then left.stableID ≤ right.stableID
  else left.reason = .lowSpeed || right.reason = .technical

def speedConfirmationRetryTargets (results : List Result) (threshold : Rat) :
    List SpeedRetryTarget :=
  ((results.filterMap (speedRetryTarget threshold)).eraseDups).insertionSort
    fun left right => left.le right

end XrayChecker.Telegram

namespace XrayChecker.Pathquality

open Speedtest

def bad (result : Result) (fallbackThreshold : Rat) : Bool :=
  let threshold :=
    if result.lowSpeedThresholdMbps ≤ 0 then fallbackThreshold
    else result.lowSpeedThresholdMbps
  result.offline || result.error ≠ [] || result.timedOut ||
    (0 < threshold && result.mbps < threshold)

end XrayChecker.Pathquality

namespace XrayChecker.Agentautomation

open Go Speedtest

def effectiveThreshold (result : Result) (threshold : Rat) : Rat :=
  if 0 < result.lowSpeedThresholdMbps then result.lowSpeedThresholdMbps
  else threshold

inductive AutomationOutcome where
  | technical
  | lowSpeed
deriving DecidableEq

def speedAutomationOutcome (result : Result) (threshold : Rat) :
    Option AutomationOutcome :=
  if trimSpace result.stableID = [] ∨ result.maintenanceProbe ∨
      result.projectMaintenanceProbe ∨ result.offline then none
  else if result.error ≠ [] then some .technical
  else if 0 < threshold ∧ result.mbps < threshold then some .lowSpeed
  else if result.timedOut then some .technical
  else none

end XrayChecker.Agentautomation

namespace XrayChecker.Telegram

open Go Speedtest Pathquality Agentautomation

section Readers

variable {result : Result} {results : List Result} {threshold : Rat}

/-- A measurement is bad: it failed, was cut short, or was slow by the
threshold that applies. -/
theorem bad_iff : bad result threshold ↔
    result.offline ∨ result.error ≠ [] ∨ result.timedOut ∨
      0 < resultThreshold result threshold ∧
        result.mbps < resultThreshold result threshold := by
  have hsame : (if result.lowSpeedThresholdMbps ≤ 0 then threshold
      else result.lowSpeedThresholdMbps) =
        resultThreshold result threshold := by
    rw [resultThreshold]
    split_ifs with hle hlt hlt
    · exact absurd hlt (not_lt.mpr hle)
    · rfl
    · rfl
    · exact absurd (not_le.mp hle) hlt
  simp only [bad, hsame, Bool.or_eq_true, Bool.and_eq_true, decide_eq_true_eq,
    or_assoc]

theorem speedResultClass_bad :
    speedResultClass result threshold ≠ .healthy ↔ bad result threshold := by
  rw [bad_iff, speedResultClass]
  split_ifs with hfailed hslow htimeout
  · simp only [ne_eq, reduceCtorEq, not_false_eq_true, true_iff]
    rcases hfailed with h | h
    · exact .inl h
    · exact .inr (.inl h)
  · simp only [ne_eq, reduceCtorEq, not_false_eq_true, true_iff]
    exact .inr (.inr (.inr hslow))
  · simp only [ne_eq, reduceCtorEq, not_false_eq_true, true_iff]
    exact .inr (.inr (.inl htimeout))
  · simp only [ne_eq, not_true_eq_false, false_iff]
    tauto

theorem speedIssueResults_eq :
    speedIssueResults results threshold =
      results.filter fun result => bad result threshold := by
  refine List.filter_congr fun result _ => ?_
  rw [Bool.eq_iff_iff, bad_iff]
  simp only [Bool.or_eq_true, Bool.and_eq_true, decide_eq_true_eq, or_assoc]

/-- The failed and the slow ones are counted as they are classed. -/
theorem countSpeedIssues_eq :
    countSpeedIssues results threshold =
      (results.countP fun result => speedResultClass result threshold = .failed,
        results.countP fun result =>
          speedResultClass result threshold = .slow) := by
  induction results using List.reverseRecOn with
  | nil => rfl
  | append_singleton results result ih =>
      rw [countSpeedIssues, List.foldl_append, ← countSpeedIssues, ih]
      simp only [List.foldl_cons, List.foldl_nil, List.countP_append,
        List.countP_cons, List.countP_nil, countSpeedIssue, speedResultClass]
      split_ifs <;> simp_all

/-- A node is named as successful where one of its measurements is not bad. -/
theorem mem_successfulSpeedResultIDs {stableID : Text} :
    stableID ∈ successfulSpeedResultIDs results threshold ↔
      stableID ≠ [] ∧ ∃ result ∈ results,
        trimSpace result.stableID = stableID ∧ ¬bad result threshold := by
  have hmem : ∀ ids : List Text, stableID ∈ sortStrings ids ↔
      stableID ∈ ids := fun ids => by
    rw [sortStrings]
    exact (List.perm_insertionSort _ ids).mem_iff
  rw [successfulSpeedResultIDs, hmem]
  induction results using List.reverseRecOn with
  | nil => simp
  | append_singleton results result ih =>
      rw [List.foldl_append, List.foldl_cons, List.foldl_nil]
      simp only [List.mem_append, List.mem_singleton, or_and_right, exists_or,
        exists_eq_left, and_or_left, ← ih]
      rw [addSuccessful]
      have hbad := @bad_iff result threshold
      split
      next hskip =>
        constructor
        · exact .inl
        · rintro (h | ⟨hne, rfl, hgood⟩)
          · exact h
          · rw [hbad] at hgood
            tauto
      next htaken =>
        rw [List.mem_append, List.mem_singleton]
        refine or_congr_right ?_
        constructor
        · rintro rfl
          rw [hbad]
          tauto
        · rintro ⟨-, rfl, -⟩
          rfl

/-- Every target is a bad measurement of its node. -/
theorem bad_of_target {target : SpeedRetryTarget}
    (h : target ∈ speedConfirmationRetryTargets results threshold) :
    ∃ result ∈ results, trimSpace result.stableID = target.stableID ∧
      bad result threshold := by
  rw [speedConfirmationRetryTargets, (List.perm_insertionSort _ _).mem_iff,
    List.mem_eraseDups, List.mem_filterMap] at h
  obtain ⟨result, hresult, htarget⟩ := h
  refine ⟨result, hresult, ?_⟩
  rw [speedRetryTarget] at htarget
  split at htarget
  · cases htarget
  next hkept =>
    obtain rfl := Option.some.inj htarget
    refine ⟨rfl, ?_⟩
    rw [bad_iff]
    rw [not_or, not_and_or, Bool.not_eq_true', Bool.not_eq_true',
      Bool.not_eq_false, Bool.not_eq_false] at hkept
    rcases hkept.2 with hslow | hdeadline
    · simp only [Bool.and_eq_true, decide_eq_true_eq] at hslow
      exact .inr (.inr (.inr ⟨hslow.1.1.1, hslow.2⟩))
    · simp only [Bool.and_eq_true, Bool.or_eq_true, decide_eq_true_eq,
        or_assoc] at hdeadline
      exact hdeadline.2

/-- An agent is asked about the measurements that are bad, if they are of a
node in service that was up. -/
theorem speedAutomationOutcome_bad
    (hid : trimSpace result.stableID ≠ []) (hprobe : ¬result.maintenanceProbe)
    (hproject : ¬result.projectMaintenanceProbe) (honline : ¬result.offline) :
    (speedAutomationOutcome result (effectiveThreshold result threshold)).isSome
      ↔ bad result threshold := by
  have hsame : effectiveThreshold result threshold =
      resultThreshold result threshold := rfl
  rw [speedAutomationOutcome, bad_iff, hsame]
  split_ifs <;> simp_all

end Readers

end XrayChecker.Telegram

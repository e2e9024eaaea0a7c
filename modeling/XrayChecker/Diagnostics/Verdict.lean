import Mathlib.Data.Rat.Floor
import XrayChecker.Agentautomation.Coordinator
import XrayChecker.Diagnostics.Types

/-
What an agent's measurement says about a slow run.  Rates are exact: where the
source computes with floating point numbers, the numbers here are rational.
-/

namespace XrayChecker.Diagnostics

open Go

/-- `Verdict`. -/
inductive Verdict where
  | reproduced
  | notReproduced
  | pathLimited
  | inconclusive
  | unreliable
deriving DecidableEq

def Verdict.text : Verdict → Text
  | .reproduced => "reproduced"
  | .notReproduced => "not_reproduced"
  | .pathLimited => "path_limited"
  | .inconclusive => "inconclusive"
  | .unreliable => "unreliable"

def reasonDirectControlFailed : Text :=
  "agent direct connectivity control failed"

def reasonNoThroughput : Text :=
  "agent download observation has no throughput evidence"

def reasonAlternativeWorked : Text :=
  "the agent alternative tunnelled endpoint worked"

def reasonDifferentServer : Text :=
  "the agent measured a different speed-test server"

def reasonNearThreshold : Text :=
  "the agent rate is too close to the threshold to tell"

def reasonAgentAlsoBelowThreshold : Text :=
  "the agent was also below the threshold"

/-- `PathRateFactor`. -/
def pathRateFactor : ℚ := 3

structure SpeedEvidence where
  outcome : Text
  thresholdMbps : ℚ
  observedMbps : ℚ
  serverID : Text

structure ThroughputEvidence where
  bytes : Int := 0
  durationMillis : Int := 0
  mbps : Int := 0
  ttfbMillis : Int := 0
deriving DecidableEq

/-- `Observation`, as far as `JudgeSpeed` reads it. -/
structure SpeedObservation where
  status : ProbeStatus
  alternativeEndpoint : Option AlternativeEndpointObservation := none
  throughput : Option ThroughputEvidence := none
  speedServerID : Text := []

/-- `JudgeSpeed`. -/
def judgeSpeed (evidence : SpeedEvidence) (observation : SpeedObservation)
    (reliable : Bool) : Verdict × Text :=
  if !reliable then (.unreliable, reasonDirectControlFailed)
  else if observation.alternativeEndpoint.any (·.status = .online) then
    (.notReproduced, reasonAlternativeWorked)
  else if observation.status ≠ .online then (.reproduced, [])
  else
    let threshold := evidence.thresholdMbps
    if threshold ≤ 0 then (.notReproduced, [])
    else
      match observation.throughput with
      | none =>
          if evidence.outcome = automationOutcomeLowSpeed then
            (.unreliable, reasonNoThroughput)
          else (.notReproduced, [])
      | some throughput =>
          let agent : ℚ := throughput.mbps
          if evidence.outcome = automationOutcomeLowSpeed ∧
              agent > pathRateFactor * max evidence.observedMbps 1 then
            if agent < threshold then
              (.pathLimited, reasonAgentAlsoBelowThreshold)
            else (.pathLimited, [])
          else if agent ≥ threshold then (.notReproduced, [])
          else if agent + 1 > threshold then
            (.inconclusive, reasonNearThreshold)
          else if evidence.serverID = [] ∨
              observation.speedServerID ≠ evidence.serverID then
            (.inconclusive, reasonDifferentServer)
          else (.reproduced, [])

section Coordinator

open Agentautomation

/-- A status as the coordinator has it, by its text. -/
def statusOfText (status : Text) : ProbeStatus :=
  if status = ("online" : Text) then .online else .other status

/-- The evidence of a run, as the coordinator hands it over. -/
def handleEvidence (handle : Handle) : SpeedEvidence where
  outcome :=
    if handle.outcome = .lowSpeed then automationOutcomeLowSpeed
    else "technical_error"
  thresholdMbps := handle.threshold
  observedMbps := handle.request.observedMbps
  serverID := handle.request.speedServerID

/-- The answer of a session, as an observation. -/
def answerObservation (answer : SessionAnswer) : SpeedObservation where
  status := statusOfText answer.status
  alternativeEndpoint := answer.alternative.map fun other =>
    { profileID := other.1, status := statusOfText other.2 }
  throughput := answer.mbps.map fun mbps => { mbps := mbps }
  speedServerID := answer.speedServerID

theorem statusOfText_eq_online {status : Text} :
    statusOfText status = .online ↔ status = ("online" : Text) := by
  unfold statusOfText
  split <;> simp_all

/-- The verdict the coordinator files is the one of `JudgeSpeed`. -/
theorem coordinator_judgeSpeed (handle : Handle) (answer : SessionAnswer) :
    Agentautomation.judgeSpeed handle answer =
      let judged := judgeSpeed (handleEvidence handle)
        (answerObservation answer) answer.reliable
      (judged.1.text, judged.2) := by
  have hlow : (handleEvidence handle).outcome = automationOutcomeLowSpeed ↔
      handle.outcome = .lowSpeed := by
    have hdistinct : ("technical_error" : Text) ≠ automationOutcomeLowSpeed := by
      decide
    simp only [handleEvidence]
    split
    · rename_i hlow
      exact iff_of_true rfl hlow
    · rename_i hother
      exact iff_of_false hdistinct hother
  have halternative : (answerObservation answer).alternativeEndpoint.any
      (·.status = .online) =
        answer.alternative.any fun other => other.2 = ("online" : Text) := by
    cases hother : answer.alternative with
    | none => simp [answerObservation, hother]
    | some other =>
        simp [answerObservation, hother, statusOfText_eq_online]
  have honline : (answerObservation answer).status ≠ .online ↔
      answer.status ≠ ("online" : Text) :=
    not_congr statusOfText_eq_online
  have hthreshold : (handleEvidence handle).thresholdMbps =
      handle.threshold := rfl
  have hobserved : (handleEvidence handle).observedMbps =
      handle.request.observedMbps := rfl
  have hserver : (handleEvidence handle).serverID =
      handle.request.speedServerID := rfl
  have hanswer : (answerObservation answer).speedServerID =
      answer.speedServerID := rfl
  simp only [judgeSpeed, Agentautomation.judgeSpeed, hlow, halternative,
    honline, hthreshold, hobserved, hserver, hanswer, pathRateFactor,
    gt_iff_lt, ge_iff_le]
  cases hrate : answer.mbps with
  | none =>
      simp only [answerObservation, hrate, Option.map_none]
      split_ifs <;> rfl
  | some mbps =>
      simp only [answerObservation, hrate, Option.map_some]
      split_ifs <;> rfl

end Coordinator

/-- A transferred amount as a rate: `float64(bytes) * 8 / seconds / 1_000_000`,
of a duration in nanoseconds. -/
def rateMbps (bytes elapsed : Int) : ℚ :=
  (bytes : ℚ) * 8 / ((elapsed : ℚ) / 1000000000) / 1000000

/-- `throughputEvidence`. -/
def throughputEvidence (bytes elapsed ttfb : Int) : ThroughputEvidence where
  bytes := bytes
  durationMillis := elapsed.tdiv 1000000
  ttfbMillis := ttfb.tdiv 1000000
  -- The conversion drops the fraction of a rate that is not negative.
  mbps := if 0 < elapsed ∧ 0 < bytes then ⌊rateMbps bytes elapsed⌋ else 0

/-- A transfer an agent can measure: nothing or something arrived, in a time
that passed. -/
structure Transfer where
  bytes : Int
  elapsed : Int
  ttfb : Int := 0
  received : 0 ≤ bytes
  passed : 0 < elapsed

namespace Transfer

/-- The true rate. -/
def rate (transfer : Transfer) : ℚ :=
  rateMbps transfer.bytes transfer.elapsed

def evidence (transfer : Transfer) : ThroughputEvidence :=
  throughputEvidence transfer.bytes transfer.elapsed transfer.ttfb

/-- The executor reports the whole-number part of the true rate. -/
theorem mbps_evidence (transfer : Transfer) :
    transfer.evidence.mbps = ⌊transfer.rate⌋ := by
  simp only [evidence, throughputEvidence, transfer.passed, true_and]
  split
  · rfl
  · rename_i hnone
    have hzero : transfer.bytes = 0 :=
      le_antisymm (not_lt.mp hnone) transfer.received
    simp [rate, rateMbps, hzero]

theorem mbps_mono {transfer other : Transfer}
    (h : transfer.rate ≤ other.rate) :
    transfer.evidence.mbps ≤ other.evidence.mbps := by
  rw [mbps_evidence, mbps_evidence]
  exact Int.floor_mono h

end Transfer

/-- The observation, with the throughput of a transfer. -/
def SpeedObservation.measuring (observation : SpeedObservation)
    (throughput : ThroughputEvidence) : SpeedObservation :=
  { observation with throughput := some throughput }

section Judged

variable {evidence : SpeedEvidence} {observation : SpeedObservation}
  {reliable : Bool} {throughput : ThroughputEvidence}

/-- The verdict on a completed transfer, without the guards that do not read
its rate. -/
def verdictAt (evidence : SpeedEvidence) (sameServer : Bool) (agent : ℚ) :
    Verdict :=
  if evidence.outcome = automationOutcomeLowSpeed ∧
      agent > pathRateFactor * max evidence.observedMbps 1 then .pathLimited
  else if agent ≥ evidence.thresholdMbps then .notReproduced
  else if agent + 1 > evidence.thresholdMbps then .inconclusive
  else if sameServer then .reproduced
  else .inconclusive

/-- The agent measured the catalogue server the run did. -/
def SpeedServerComparable (evidence : SpeedEvidence)
    (observation : SpeedObservation) : Prop :=
  evidence.serverID ≠ [] ∧ observation.speedServerID = evidence.serverID

instance (evidence : SpeedEvidence) (observation : SpeedObservation) :
    Decidable (SpeedServerComparable evidence observation) :=
  inferInstanceAs (Decidable (_ ∧ _))

/-- A reliable transfer that completed, without an alternative endpoint that
worked, is judged by its rate. -/
theorem judgeSpeed_rate (hreliable : reliable = true)
    (halternative :
      ¬observation.alternativeEndpoint.any (·.status = .online) = true)
    (honline : observation.status = .online)
    (hthreshold : ¬evidence.thresholdMbps ≤ 0) :
    (judgeSpeed evidence (observation.measuring throughput) reliable).1 =
      verdictAt evidence (SpeedServerComparable evidence observation)
        throughput.mbps := by
  simp only [judgeSpeed, SpeedObservation.measuring, hreliable, Bool.not_true,
    Bool.false_eq_true, ↓reduceIte, halternative, honline, ne_eq,
    not_true_eq_false, hthreshold, verdictAt]
  split
  · split <;> rfl
  · split
    · rfl
    · split
      · rfl
      · by_cases hserver : SpeedServerComparable evidence observation
        · have hsame : ¬(evidence.serverID = [] ∨
              ¬observation.speedServerID = evidence.serverID) := by
            rintro (hempty | hother)
            · exact hserver.1 hempty
            · exact hother hserver.2
          simp [hserver, hsame]
        · have hother : evidence.serverID = [] ∨
              ¬observation.speedServerID = evidence.serverID := by
            by_contra hnot
            rw [not_or, not_not] at hnot
            exact hserver hnot
          simp [hserver, hother]

/-- Either the verdict does not depend on the rate at all, or the transfer is a
reliable completed one whose rate decides. -/
theorem judgeSpeed_measuring_cases (evidence : SpeedEvidence)
    (observation : SpeedObservation) (reliable : Bool) :
    (∃ verdict, verdict ≠ .inconclusive ∧
        (verdict = .reproduced → observation.status ≠ .online) ∧
        ∀ throughput, (judgeSpeed evidence (observation.measuring throughput)
          reliable).1 = verdict) ∨
      reliable = true ∧ ∀ throughput,
        (judgeSpeed evidence (observation.measuring throughput) reliable).1 =
          verdictAt evidence (SpeedServerComparable evidence observation)
            throughput.mbps := by
  by_cases hreliable : reliable = false
  · refine Or.inl ⟨.unreliable, by simp, by simp, ?_⟩
    simp [judgeSpeed, hreliable]
  · rw [Bool.not_eq_false] at hreliable
    by_cases halternative :
        observation.alternativeEndpoint.any (·.status = .online) = true
    · refine Or.inl ⟨.notReproduced, by simp, by simp, ?_⟩
      simp [judgeSpeed, SpeedObservation.measuring, hreliable, halternative]
    · by_cases honline : observation.status = .online
      · by_cases hthreshold : evidence.thresholdMbps ≤ 0
        · refine Or.inl ⟨.notReproduced, by simp, by simp, ?_⟩
          simp [judgeSpeed, SpeedObservation.measuring, hreliable,
            halternative, honline, hthreshold]
        · refine Or.inr ⟨hreliable, fun throughput => ?_⟩
          exact judgeSpeed_rate hreliable halternative honline hthreshold
      · refine Or.inl ⟨.reproduced, by simp, fun _ => honline, ?_⟩
        simp [judgeSpeed, SpeedObservation.measuring, hreliable, halternative,
          honline]

/-- The verdicts by growing rate: reproduced, inconclusive, and then the two
that clear the node. -/
def Verdict.clearance : Verdict → Nat
  | .reproduced => 0
  | .inconclusive => 1
  | .notReproduced | .pathLimited => 2
  | .unreliable => 3

/-- A higher rate never gives a verdict that weighs heavier on the node. -/
theorem clearance_verdictAt_mono {sameServer : Bool} {agent other : ℚ}
    (h : agent ≤ other) :
    (verdictAt evidence sameServer agent).clearance ≤
      (verdictAt evidence sameServer other).clearance := by
  by_cases hpath : evidence.outcome = automationOutcomeLowSpeed ∧
      agent > pathRateFactor * max evidence.observedMbps 1
  · have hother : evidence.outcome = automationOutcomeLowSpeed ∧
        other > pathRateFactor * max evidence.observedMbps 1 :=
      ⟨hpath.1, lt_of_lt_of_le hpath.2 h⟩
    rw [verdictAt, if_pos hpath, verdictAt, if_pos hother]
  · by_cases hover : agent ≥ evidence.thresholdMbps
    · have hother : other ≥ evidence.thresholdMbps := le_trans hover h
      rw [verdictAt, if_neg hpath, if_pos hover, verdictAt]
      split
      · exact le_rfl
      · exact le_rfl
    · rw [verdictAt, if_neg hpath, if_neg hover, verdictAt]
      by_cases hnear : agent + 1 > evidence.thresholdMbps
      · have hother : other + 1 > evidence.thresholdMbps := by linarith
        rw [if_pos hnear]
        simp only [hother, ↓reduceIte]
        split
        · decide
        · split <;> decide
      · rw [if_neg hnear]
        by_cases hserver : sameServer = true
        · rw [if_pos hserver]
          exact Nat.zero_le _
        · simp only [hserver, Bool.false_eq_true, ↓reduceIte]
          split
          · decide
          · split
            · decide
            · split <;> decide

/-- What makes a completed transfer reproduce the problem. -/
theorem verdictAt_reproduced {sameServer : Bool} {agent : ℚ}
    (h : verdictAt evidence sameServer agent = .reproduced) :
    sameServer = true ∧ agent + 1 ≤ evidence.thresholdMbps ∧
      (evidence.outcome = automationOutcomeLowSpeed →
        agent ≤ pathRateFactor * max evidence.observedMbps 1) := by
  unfold verdictAt at h
  split at h
  · cases h
  · rename_i hpath
    split at h
    · cases h
    · split at h
      · cases h
      · rename_i hnear
        split at h
        · rename_i hserver
          refine ⟨hserver, not_lt.mp hnear, fun hlow => ?_⟩
          exact not_lt.mp fun hfast => hpath ⟨hlow, hfast⟩
        · cases h

end Judged

/-- A verdict on a completed transfer is sound: a reproduced problem was seen
at the same server, at a rate that is surely below the threshold and in the
run's range; and a higher rate never turns a verdict against the node. -/
structure SoundVerdicts (evidence : SpeedEvidence)
    (observation : SpeedObservation) (reliable : Bool) : Prop where
  reproduced : ∀ bytes elapsed ttfb : Int,
    let throughput := throughputEvidence bytes elapsed ttfb
    observation.status = .online →
    (judgeSpeed evidence (observation.measuring throughput) reliable).1 =
      .reproduced →
    reliable = true ∧ evidence.serverID ≠ [] ∧
      observation.speedServerID = evidence.serverID ∧
      (∀ rate : ℚ, ⌊rate⌋ = throughput.mbps → rate < evidence.thresholdMbps) ∧
      (evidence.outcome = automationOutcomeLowSpeed →
        (throughput.mbps : ℚ) ≤ pathRateFactor * max evidence.observedMbps 1)
  left : ∀ transfer faster : Transfer, transfer.rate ≤ faster.rate →
    (judgeSpeed evidence (observation.measuring transfer.evidence)
      reliable).1 ≠ .reproduced →
    (judgeSpeed evidence (observation.measuring faster.evidence)
      reliable).1 ≠ .reproduced
  cleared : ∀ transfer faster : Transfer, transfer.rate ≤ faster.rate →
    (judgeSpeed evidence (observation.measuring transfer.evidence)
        reliable).1 ∈ [.notReproduced, .pathLimited] →
    (judgeSpeed evidence (observation.measuring faster.evidence)
        reliable).1 ∉ [.inconclusive, .reproduced]

theorem clearance_judgeSpeed_mono (evidence : SpeedEvidence)
    (observation : SpeedObservation) (reliable : Bool)
    {transfer faster : Transfer} (h : transfer.rate ≤ faster.rate) :
    (judgeSpeed evidence (observation.measuring transfer.evidence)
        reliable).1.clearance ≤
      (judgeSpeed evidence (observation.measuring faster.evidence)
        reliable).1.clearance := by
  rcases judgeSpeed_measuring_cases evidence observation reliable with
    ⟨verdict, -, -, hsame⟩ | ⟨-, hrate⟩
  · rw [hsame, hsame]
  · rw [hrate, hrate]
    exact clearance_verdictAt_mono (by exact_mod_cast Transfer.mbps_mono h)

/-- `JudgeSpeed` gives sound verdicts. -/
theorem speed_verdicts_sound (evidence : SpeedEvidence)
    (observation : SpeedObservation) (reliable : Bool) :
    SoundVerdicts evidence observation reliable where
  reproduced := by
    intro bytes elapsed ttfb throughput honline hverdict
    rcases judgeSpeed_measuring_cases evidence observation reliable with
      ⟨verdict, -, hfailed, hsame⟩ | ⟨hreliable, hrate⟩
    · rw [hsame] at hverdict
      exact absurd honline (hfailed hverdict)
    · rw [hrate] at hverdict
      obtain ⟨hserver, hbelow, hrange⟩ := verdictAt_reproduced hverdict
      rw [decide_eq_true_eq] at hserver
      refine ⟨hreliable, hserver.1, hserver.2, ?_, hrange⟩
      · intro rate hfloor
        have hnext : rate < (throughput.mbps : ℚ) + 1 :=
          hfloor ▸ Int.lt_floor_add_one rate
        exact lt_of_lt_of_le hnext hbelow
  left := by
    intro transfer faster hrate hleft hback
    have hmono := clearance_judgeSpeed_mono evidence observation reliable hrate
    rw [hback] at hmono
    revert hleft hmono
    cases (judgeSpeed evidence (observation.measuring transfer.evidence)
      reliable).1 <;> simp [Verdict.clearance]
  cleared := by
    intro transfer faster hrate hcleared hback
    have hmono := clearance_judgeSpeed_mono evidence observation reliable hrate
    simp only [List.mem_cons, List.not_mem_nil, or_false] at hcleared hback
    rcases hcleared with hcleared | hcleared <;>
      rcases hback with hback | hback <;>
        simp [hcleared, hback, Verdict.clearance] at hmono

end XrayChecker.Diagnostics

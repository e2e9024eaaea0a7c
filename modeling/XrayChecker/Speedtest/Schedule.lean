import XrayChecker.Go.Time
import XrayChecker.Machine.Run

/-
When the scheduled speed test runs: the deadline, how saving the schedule, the
scheduler's own ticks and restarts move it, and what it is after any of them.

Of the schedule only what the deadline depends on is kept; the test
configuration and the overrides of nodes are left out.
-/

namespace XrayChecker.Speedtest

open Go Machine

structure ScheduleConfig where
  enabled : Bool := false
  intervalSec : Int := 0
deriving DecidableEq

/-- `scheduleStateFile`. -/
structure ScheduleStateFile where
  config : ScheduleConfig
  nextRunAt : Option Time := none
deriving DecidableEq

/-- The part of `Manager` that the scheduler works on, and its file. -/
structure Scheduler where
  schedule : ScheduleConfig := {}
  nextRun : Time := 0
  file : Option ScheduleStateFile := none
deriving DecidableEq

/-- `time.Duration(n) * time.Second`, which wraps around. -/
def seconds (n : Int) : Int :=
  Int.bmod (n * 1000000000) (2 ^ 64)

/-- `t.Add(d)`. -/
def addDuration (t : Time) (d : Int) : Time :=
  ((t : Int) + d).toNat

def nextScheduledRunAfterUpdate (existing updated : ScheduleConfig)
    (current now : Time) : Time :=
  if !updated.enabled then 0
  else
    let updatedInterval := seconds updated.intervalSec
    if !existing.enabled || current.isZero then addDuration now updatedInterval
    else if existing.intervalSec = updated.intervalSec then current
    else if existing.intervalSec < 1 then addDuration now updatedInterval
    else
      let anchor := (current : Int) + seconds (-existing.intervalSec)
      let adjusted := anchor + updatedInterval
      if adjusted < now then now else adjusted.toNat

def nextScheduledRunAfterTick (due : Time) (interval : Int) (now : Time) :
    Time :=
  let next := addDuration due interval
  if !(now < next) then addDuration now interval else next

/-- What `saveSchedule` writes. -/
def scheduleState (schedule : ScheduleConfig) (nextRun : Time) :
    ScheduleStateFile where
  config := schedule
  nextRunAt := if nextRun.isZero then none else some nextRun

/-- A disabled schedule without an interval gets the default one. -/
def withDefaultInterval (schedule : ScheduleConfig) : ScheduleConfig :=
  if !schedule.enabled && schedule.intervalSec = 0 then
    { schedule with intervalSec := 3600 }
  else schedule

namespace Scheduler

/-- `UpdateSchedule`; `saved` is whether the file can be written. -/
def updateSchedule (m : Scheduler) (schedule : ScheduleConfig) (now : Time)
    (saved : Bool) : Except Text Scheduler := do
  reject (schedule.enabled && schedule.intervalSec < 60)
    "intervalSec must be at least 60 when schedule is enabled"
  let schedule := withDefaultInterval schedule
  let nextRun :=
    nextScheduledRunAfterUpdate m.schedule schedule m.nextRun now
  reject (!saved) "save schedule"
  return { schedule, nextRun, file := some (scheduleState schedule nextRun) }

/-- Saving something else of the schedule: `UpdateNodeSettings` and
`updateScheduleTestURL`. -/
def updateSettings (m : Scheduler) (saved : Bool) : Except Text Scheduler := do
  let schedule := withDefaultInterval m.schedule
  reject (!saved) "save schedule"
  return { m with
    schedule
    file := some (scheduleState schedule m.nextRun) }

/-- The file after a save that is only warned about. -/
def save (m : Scheduler) (saved : Bool) : Scheduler :=
  if saved then { m with file := some (scheduleState m.schedule m.nextRun) }
  else m

def ensureSchedulerDeadline (m : Scheduler) (now : Time) (saved : Bool) :
    Scheduler :=
  if m.schedule.enabled && m.nextRun.isZero then
    { m with
      nextRun := addDuration now (seconds m.schedule.intervalSec) }.save saved
  else m

/-- `advanceSchedulerDeadline`, with whether the tick is due: then one run is
started. -/
def advanceSchedulerDeadline (m : Scheduler) (expected now : Time)
    (saved : Bool) : Scheduler × Bool :=
  if !m.schedule.enabled || m.nextRun ≠ expected then (m, false)
  else
    ({ m with
      nextRun := nextScheduledRunAfterTick expected
        (seconds m.schedule.intervalSec) now }.save saved, true)

/-- A new manager, after `Load`. -/
def load (m : Scheduler) : Scheduler :=
  match m.file with
  | none => {}
  | some state =>
      let schedule :=
        if state.config.intervalSec < 60 then
          { state.config with intervalSec := 3600 }
        else state.config
      { schedule
        nextRun := if schedule.enabled then state.nextRunAt.getD 0 else 0
        file := some state }

end Scheduler

inductive ScheduleEvent where
  | update (schedule : ScheduleConfig) (now : Time) (saved : Bool)
  | settings (saved : Bool)
  | ensure (now : Time) (saved : Bool)
  | tick (expected now : Time) (saved : Bool)
  | restart
deriving DecidableEq

namespace Scheduler

/-- What the calls make of the scheduler, one at a time: all of them hold the
same lock. -/
def step (m : Scheduler) : ScheduleEvent → Scheduler
  | .update schedule now saved =>
      match m.updateSchedule schedule now saved with
      | .ok next => next
      | .error _ => m
  | .settings saved =>
      match m.updateSettings saved with
      | .ok next => next
      | .error _ => m
  | .ensure now saved => m.ensureSchedulerDeadline now saved
  | .tick expected now saved =>
      (m.advanceSchedulerDeadline expected now saved).1
  | .restart => m.load

/-- The file holds the schedule. -/
def InSync (m : Scheduler) : Prop :=
  m.file = some (scheduleState m.schedule m.nextRun)

/-- The schedule is enabled, its deadline is set, and its interval is one that
`UpdateSchedule` accepts and that a duration can hold: 9223372036 seconds are
292 years. -/
structure Ready (m : Scheduler) : Prop where
  enabled : m.schedule.enabled = true
  atLeast : 60 ≤ m.schedule.intervalSec
  atMost : m.schedule.intervalSec ≤ 9223372036
  deadline : m.nextRun ≠ 0

/-- The schedule stays enabled, and the manager restarts only from a file that
holds the schedule. -/
def StaysEnabled (m : Scheduler) : ScheduleEvent → Prop
  | .update schedule now _ =>
      schedule.enabled = true ∧ schedule.intervalSec ≤ 9223372036 ∧ now ≠ 0
  | .restart => m.InSync
  | _ => True

instance decidableStaysEnabled (m : Scheduler) :
    (e : ScheduleEvent) → Decidable (m.StaysEnabled e)
  | .update _ _ _ => inferInstanceAs (Decidable (_ ∧ _ ∧ _))
  | .restart => inferInstanceAs (Decidable (m.file = _))
  | .settings _ => inferInstanceAs (Decidable True)
  | .ensure _ _ => inferInstanceAs (Decidable True)
  | .tick _ _ _ => inferInstanceAs (Decidable True)

end Scheduler

section Durations

variable {n : Int} {t : Time}

theorem seconds_eq (hlow : -9223372036 ≤ n) (hhigh : n ≤ 9223372036) :
    seconds n = n * 1000000000 := by
  unfold seconds
  rw [Int.bmod_eq_of_le] <;> omega

theorem addDuration_eq {d : Int} (hd : 0 ≤ d) :
    (addDuration t d : Int) = t + d := by
  unfold addDuration
  omega

end Durations

end XrayChecker.Speedtest

import XrayChecker.Speedtest.Schedule

/-
What the deadline of the scheduled speed test counts from.

A deadline is an anchor plus the interval.  Another interval keeps the anchor,
except that no deadline falls before the change; a run moves the anchor to the
deadline that was due, or to the present when the next one has gone by as well.
The scheduler keeps only the deadline, and finds the anchor by taking the old
interval off again.
-/

namespace XrayChecker.Speedtest

open Go Machine

/-- What a deadline counts from, and the interval it adds. -/
structure Cadence where
  anchor : Int
  interval : Int

namespace Cadence

def deadline (c : Cadence) : Int :=
  c.anchor + c.interval

/-- Another interval from `now` on. -/
def change (c : Cadence) (now interval : Int) : Cadence where
  anchor := max c.anchor (now - interval)
  interval := interval

/-- A run for the deadline, started at `now`. -/
def advance (c : Cadence) (now : Int) : Cadence where
  anchor := if now < c.deadline + c.interval then c.deadline else now
  interval := c.interval

/-- What can happen to a cadence. -/
inductive Move where
  | keep
  | change (now interval : Int)
  | advance (now : Int)

def Move.isChange : Move → Bool
  | .change _ _ => true
  | _ => false

def move (c : Cadence) : Move → Cadence
  | .keep => c
  | .change now interval => c.change now interval
  | .advance now => c.advance now

variable {c : Cadence} {now interval : Int}

theorem eq_of_deadline {d : Cadence} (hdeadline : c.deadline = d.deadline)
    (hinterval : c.interval = d.interval) : c = d := by
  cases c
  cases d
  simp only [deadline] at hdeadline hinterval
  rw [Cadence.mk.injEq]
  omega

theorem deadline_change :
    (c.change now interval).deadline = max (c.anchor + interval) now := by
  simp only [change, deadline]
  omega

theorem deadline_advance : (c.advance now).deadline =
    if now < c.deadline + c.interval then c.deadline + c.interval
    else now + c.interval := by
  by_cases hnext : now < c.deadline + c.interval
  · rw [if_pos hnext, advance, if_pos hnext, deadline]
  · rw [if_neg hnext, advance, if_neg hnext, deadline]

theorem lt_deadline_advance (hinterval : 0 < c.interval) :
    now < (c.advance now).deadline := by
  rw [deadline_advance]
  by_cases hnext : now < c.deadline + c.interval
  · rwa [if_pos hnext]
  · rw [if_neg hnext]
    omega

theorem deadline_add_le_advance (hinterval : 0 < c.interval) :
    c.deadline + c.interval ≤ (c.advance now).deadline := by
  rw [deadline_advance]
  by_cases hnext : now < c.deadline + c.interval
  · rw [if_pos hnext]
  · rw [if_neg hnext]
    omega

/-- The changes of the interval among the moves. -/
def changes : List Move → List (Int × Int)
  | [] => []
  | .change now interval :: rest => (now, interval) :: changes rest
  | _ :: rest => changes rest

/-- The deadline for which a move starts a run. -/
def dueAt (c : Cadence) : Move → Option Int
  | .advance _ => some c.deadline
  | _ => none

/-- The deadlines for which runs are started. -/
def dues (c : Cadence) : List Move → List Int
  | [] => []
  | made :: rest => (c.dueAt made).toList ++ dues (c.move made) rest

/-- The moves come one after the other, and a run never before its deadline. -/
def Timely (c : Cadence) (last : Int) : List Move → Prop
  | [] => True
  | .advance now :: rest =>
      last < now ∧ c.deadline ≤ now ∧ Timely (c.advance now) now rest
  | .change now interval :: rest =>
      last < now ∧ 0 < interval ∧ Timely (c.change now interval) now rest
  | .keep :: rest => Timely c last rest

/-- While nothing runs, the anchor remembers every change. -/
theorem anchor_foldl_move {moves : List Move}
    (hquiet : ∀ now, .advance now ∉ moves) :
    (moves.foldl move c).anchor =
      (changes moves).foldl (fun anchor made => max anchor (made.1 - made.2))
        c.anchor := by
  induction moves generalizing c with
  | nil => rfl
  | cons made rest ih =>
      have hrest : ∀ now, Move.advance now ∉ rest := fun now hin =>
        hquiet now (List.mem_cons_of_mem _ hin)
      cases made with
      | keep => exact ih hrest
      | change now interval => exact ih hrest
      | advance now => exact absurd List.mem_cons_self (hquiet now)

theorem changes_eq_nil {moves : List Move}
    (hkept : ∀ made ∈ moves, made.isChange = false) : changes moves = [] := by
  induction moves with
  | nil => rfl
  | cons made rest ih =>
      rw [List.forall_mem_cons] at hkept
      cases made with
      | keep => exact ih hkept.2
      | change now interval => exact absurd hkept.1.symm Bool.false_ne_true
      | advance now => exact ih hkept.2

/-- With one interval, the deadlines of the runs lie at least it apart. -/
theorem dues_spaced {moves : List Move} (hpos : 0 < c.interval)
    (hkept : changes moves = []) :
    (∀ due ∈ dues c moves, c.deadline ≤ due) ∧
      (dues c moves).Pairwise fun due later => due + c.interval ≤ later := by
  induction moves generalizing c with
  | nil =>
      constructor
      · intro due hdue
        cases hdue
      · exact List.Pairwise.nil
  | cons made rest ih =>
      cases made with
      | keep => exact ih hpos hkept
      | change now interval => cases hkept
      | advance now =>
          obtain ⟨hlater, hspaced⟩ := ih (c := c.advance now) hpos hkept
          have hnext : c.deadline + c.interval ≤ (c.advance now).deadline :=
            deadline_add_le_advance hpos
          constructor
          · intro due hdue
            rcases List.mem_cons.mp hdue with rfl | hdue
            · exact le_refl _
            · have := hlater due hdue
              omega
          · apply List.Pairwise.cons _ hspaced
            intro due hdue
            exact hnext.trans (hlater due hdue)

end Cadence

namespace Scheduler

def cadence (m : Scheduler) : Cadence where
  anchor := m.nextRun - seconds m.schedule.intervalSec
  interval := seconds m.schedule.intervalSec

/-- What an event does to the cadence of an enabled schedule. -/
def move (m : Scheduler) : ScheduleEvent → Cadence.Move
  | .update schedule now saved =>
      if saved = true ∧ 60 ≤ schedule.intervalSec ∧
          schedule.intervalSec ≠ m.schedule.intervalSec then
        .change now (seconds schedule.intervalSec)
      else .keep
  | .tick expected now saved =>
      if (m.advanceSchedulerDeadline expected now saved).2 then .advance now
      else .keep
  | _ => .keep

variable {m : Scheduler} {e : ScheduleEvent}

@[simp] theorem deadline_cadence : m.cadence.deadline = m.nextRun := by
  simp only [cadence, Cadence.deadline]
  omega

theorem Ready.seconds_pos (hm : m.Ready) :
    0 < seconds m.schedule.intervalSec := by
  have hlow := hm.atLeast
  have hhigh := hm.atMost
  rw [seconds_eq (by omega) hhigh]
  omega

theorem Ready.interval_pos (hm : m.Ready) : 0 < m.cadence.interval :=
  hm.seconds_pos

/-- The anchor is found by taking the old interval off. -/
theorem Ready.seconds_neg (hm : m.Ready) :
    seconds (-m.schedule.intervalSec) = -seconds m.schedule.intervalSec := by
  have hlow := hm.atLeast
  have hhigh := hm.atMost
  rw [seconds_eq (by omega) (by omega), seconds_eq (by omega) hhigh]
  omega

@[simp] theorem save_schedule {saved : Bool} :
    (m.save saved).schedule = m.schedule := by
  cases saved <;> rfl

@[simp] theorem save_nextRun {saved : Bool} :
    (m.save saved).nextRun = m.nextRun := by
  cases saved <;> rfl

section Update

variable {schedule : ScheduleConfig} {now : Time} {saved : Bool}

/-- A save of an enabled schedule. -/
theorem updateSchedule_enabled (henabled : schedule.enabled = true) :
    m.updateSchedule schedule now saved =
      if schedule.intervalSec < 60 then .error
        "intervalSec must be at least 60 when schedule is enabled"
      else if saved = true then .ok
        { schedule
          nextRun := nextScheduledRunAfterUpdate m.schedule schedule m.nextRun
            now
          file := some (scheduleState schedule (nextScheduledRunAfterUpdate
            m.schedule schedule m.nextRun now)) }
      else .error "save schedule" := by
  have hdefault : withDefaultInterval schedule = schedule := by
    simp only [withDefaultInterval, henabled, Bool.not_true, Bool.false_and,
      Bool.false_eq_true, if_false]
  unfold updateSchedule
  rw [hdefault, henabled]
  by_cases hleast : schedule.intervalSec < 60
  · rw [if_pos hleast, decide_eq_true hleast]
    rfl
  rw [if_neg hleast, decide_eq_false hleast]
  cases saved <;> rfl

/-- With the schedule on, the deadline moves only with the interval. -/
theorem nextScheduledRunAfterUpdate_eq (now : Time) (hm : m.Ready)
    (henabled : schedule.enabled = true) :
    (nextScheduledRunAfterUpdate m.schedule schedule m.nextRun now : Int) =
      if schedule.intervalSec ≠ m.schedule.intervalSec then
        (m.cadence.change now (seconds schedule.intervalSec)).deadline
      else m.cadence.deadline := by
  have hset : m.nextRun.isZero = false := beq_false_of_ne hm.deadline
  have hexisting : ¬m.schedule.intervalSec < 1 := by
    have := hm.atLeast
    omega
  unfold nextScheduledRunAfterUpdate
  simp only [henabled, hm.enabled, hset, Bool.not_true, Bool.or_self,
    Bool.false_eq_true, if_false]
  by_cases hsame : m.schedule.intervalSec = schedule.intervalSec
  · rw [if_pos hsame, if_neg (not_not.mpr hsame.symm), deadline_cadence]
  rw [if_neg hsame, if_neg hexisting, if_pos (Ne.symm hsame),
    Cadence.deadline_change, cadence, hm.seconds_neg]
  by_cases hpast : (m.nextRun : Int) + -seconds m.schedule.intervalSec +
      seconds schedule.intervalSec < now
  · rw [if_pos hpast]
    simp only
    omega
  · rw [if_neg hpast]
    simp only
    omega

theorem Ready.nextRun_pos (hm : m.Ready) : 0 < m.nextRun :=
  Nat.pos_of_ne_zero hm.deadline

/-- A save that is refused or fails leaves the scheduler as it was. -/
theorem step_update_refused (henabled : schedule.enabled = true)
    (hrefused : ¬(saved = true ∧ 60 ≤ schedule.intervalSec)) :
    m.step (.update schedule now saved) = m := by
  rw [step, updateSchedule_enabled henabled]
  by_cases hleast : schedule.intervalSec < 60
  · rw [if_pos hleast]
  · rw [if_neg hleast, if_neg fun hsaved =>
      hrefused ⟨hsaved, not_lt.mp hleast⟩]

theorem step_update_accepted (henabled : schedule.enabled = true)
    (hleast : 60 ≤ schedule.intervalSec) :
    m.step (.update schedule now true) =
      { schedule
        nextRun := nextScheduledRunAfterUpdate m.schedule schedule m.nextRun
          now
        file := some (scheduleState schedule (nextScheduledRunAfterUpdate
          m.schedule schedule m.nextRun now)) } := by
  rw [step, updateSchedule_enabled henabled, if_neg (not_lt.mpr hleast),
    if_pos rfl]

/-- A save of an enabled schedule changes the cadence with the interval. -/
theorem cadence_update (hm : m.Ready) (hnow : now ≠ 0)
    (henabled : schedule.enabled = true)
    (hmost : schedule.intervalSec ≤ 9223372036) :
    (m.step (.update schedule now saved)).Ready ∧
      (m.step (.update schedule now saved)).cadence =
        m.cadence.move (m.move (.update schedule now saved)) := by
  by_cases haccepted : saved = true ∧ 60 ≤ schedule.intervalSec
  swap
  · rw [step_update_refused henabled haccepted, move,
      if_neg fun h => haccepted ⟨h.1, h.2.1⟩]
    exact ⟨hm, rfl⟩
  obtain ⟨rfl, hleast⟩ := haccepted
  have hnext := nextScheduledRunAfterUpdate_eq now hm henabled
  rw [step_update_accepted henabled hleast]
  generalize nextScheduledRunAfterUpdate m.schedule schedule m.nextRun now =
    nextRun at hnext
  by_cases hother : schedule.intervalSec ≠ m.schedule.intervalSec
  · rw [if_pos hother] at hnext
    rw [move, if_pos ⟨rfl, hleast, hother⟩]
    constructor
    · have hlate : (now : Int) ≤ nextRun := by
        rw [hnext, Cadence.deadline_change]
        exact le_max_right _ _
      exact ⟨henabled, hleast, hmost, Nat.ne_of_gt
        (lt_of_lt_of_le (Nat.pos_of_ne_zero hnow) (Int.ofNat_le.mp hlate))⟩
    · apply Cadence.eq_of_deadline
      · rw [deadline_cadence]
        exact hnext
      · rfl
  · rw [if_neg hother, deadline_cadence] at hnext
    rw [move, if_neg fun h => hother h.2.2]
    have hsame := not_not.mp hother
    constructor
    · exact ⟨henabled, hleast, hmost, by
        rw [Int.ofNat_inj.mp hnext]
        exact hm.deadline⟩
    · rw [Cadence.move, cadence, cadence, hsame, hnext]

end Update

/-- The other events. -/
theorem cadence_settings (hm : m.Ready) {saved : Bool} :
    (m.step (.settings saved)).Ready ∧
      (m.step (.settings saved)).cadence =
        m.cadence.move (m.move (.settings saved)) := by
  have hdefault : withDefaultInterval m.schedule = m.schedule := by
    simp only [withDefaultInterval, hm.enabled, Bool.not_true, Bool.false_and,
      Bool.false_eq_true, if_false]
  cases saved with
  | false => exact ⟨hm, rfl⟩
  | true =>
      have hstep : m.step (.settings true) =
          { m with file := some (scheduleState m.schedule m.nextRun) } := by
        simp only [step, updateSettings, hdefault]
        rfl
      rw [hstep]
      exact ⟨⟨hm.enabled, hm.atLeast, hm.atMost, hm.deadline⟩, rfl⟩

theorem step_ensure (hm : m.Ready) {now : Time} {saved : Bool} :
    m.step (.ensure now saved) = m := by
  have hset : m.nextRun.isZero = false := beq_false_of_ne hm.deadline
  simp only [step, ensureSchedulerDeadline, hset, Bool.and_false,
    Bool.false_eq_true, if_false]

theorem step_restart (hm : m.Ready) (hfile : m.InSync) :
    m.step .restart = m := by
  have hset : m.nextRun.isZero = false := beq_false_of_ne hm.deadline
  have hleast : ¬m.schedule.intervalSec < 60 := not_lt.mpr hm.atLeast
  have henabled := hm.enabled
  cases m with
  | mk schedule nextRun file =>
      simp only [InSync] at hfile hset hleast henabled
      subst hfile
      simp only [step, load, scheduleState, hset, Bool.false_eq_true, if_false,
        if_neg hleast, henabled, if_true, Option.getD_some]

theorem nextScheduledRunAfterTick_eq (hm : m.Ready) (now : Time) :
    (nextScheduledRunAfterTick m.nextRun (seconds m.schedule.intervalSec)
      now : Int) = (m.cadence.advance now).deadline := by
  have hpos := hm.seconds_pos
  have hnext := addDuration_eq (t := m.nextRun) hpos.le
  rw [Cadence.deadline_advance, deadline_cadence, nextScheduledRunAfterTick]
  by_cases hlate : now < addDuration m.nextRun (seconds m.schedule.intervalSec)
  · have hlater : (now : Int) < m.nextRun + m.cadence.interval := by
      rw [cadence, ← hnext]
      exact Int.ofNat_lt.mpr hlate
    rw [if_pos hlater, decide_eq_true hlate]
    exact hnext
  · have hpassed : ¬(now : Int) < m.nextRun + m.cadence.interval := by
      rw [cadence, ← hnext]
      exact fun h => hlate (Int.ofNat_lt.mp h)
    rw [if_neg hpassed, decide_eq_false hlate]
    exact addDuration_eq hpos.le

/-- A tick starts a run only for the deadline it waited for. -/
theorem advance_due_iff {expected now : Time} {saved : Bool} :
    (m.advanceSchedulerDeadline expected now saved).2 = true ↔
      m.schedule.enabled = true ∧ m.nextRun = expected := by
  unfold advanceSchedulerDeadline
  by_cases henabled : m.schedule.enabled = true <;>
    by_cases hdue : m.nextRun = expected <;> simp [henabled, hdue]

theorem cadence_tick (hm : m.Ready) {expected now : Time} {saved : Bool} :
    (m.step (.tick expected now saved)).Ready ∧
      (m.step (.tick expected now saved)).cadence =
        m.cadence.move (m.move (.tick expected now saved)) := by
  by_cases hdue : m.nextRun = expected
  swap
  · have hskip : m.advanceSchedulerDeadline expected now saved = (m, false) :=
      if_pos (by simp [hdue])
    rw [step, move, hskip]
    exact ⟨hm, rfl⟩
  subst hdue
  have hnext := nextScheduledRunAfterTick_eq hm now
  have hstep : m.step (.tick m.nextRun now saved) =
      { m with
        nextRun := nextScheduledRunAfterTick m.nextRun
          (seconds m.schedule.intervalSec) now }.save saved := by
    simp only [step, advanceSchedulerDeadline, hm.enabled, Bool.not_true,
      ne_eq, not_true, decide_false, Bool.or_self, Bool.false_eq_true, if_false]
  have hlater : 0 < (nextScheduledRunAfterTick m.nextRun
      (seconds m.schedule.intervalSec) now : Int) := by
    have hspaced : m.cadence.deadline + m.cadence.interval ≤
        (m.cadence.advance now).deadline :=
      Cadence.deadline_add_le_advance hm.seconds_pos
    have hpos : 0 < m.cadence.interval := hm.seconds_pos
    rw [deadline_cadence, ← hnext] at hspaced
    omega
  rw [move, if_pos (advance_due_iff.mpr ⟨hm.enabled, rfl⟩), hstep]
  constructor
  · refine ⟨?_, ?_, ?_, ?_⟩
    · rw [save_schedule]
      exact hm.enabled
    · rw [save_schedule]
      exact hm.atLeast
    · rw [save_schedule]
      exact hm.atMost
    · rw [save_nextRun]
      exact Nat.ne_of_gt (Int.natCast_pos.mp hlater)
  · apply Cadence.eq_of_deadline
    · rw [deadline_cadence, save_nextRun]
      exact hnext
    · rw [cadence, save_schedule]
      rfl

/-- What an event makes of an enabled schedule is what its move makes of the
cadence. -/
theorem cadence_step (hm : m.Ready) (he : m.StaysEnabled e) :
    (m.step e).Ready ∧ (m.step e).cadence = m.cadence.move (m.move e) := by
  cases e with
  | update schedule now saved =>
      exact cadence_update hm he.2.2 he.1 he.2.1
  | settings saved => exact cadence_settings hm
  | ensure now saved =>
      rw [step_ensure hm]
      exact ⟨hm, rfl⟩
  | tick expected now saved => exact cadence_tick hm
  | restart =>
      rw [step_restart hm he]
      exact ⟨hm, rfl⟩

section Runs

variable {events : List ScheduleEvent}

/-- The moves of a run. -/
def moves (m : Scheduler) (events : List ScheduleEvent) : List Cadence.Move :=
  (steps step m events).map fun taken => taken.1.move taken.2

/-- The deadline for which the event starts a run. -/
def startedFor : Scheduler × ScheduleEvent → Option Time
  | (m, .tick expected now saved) =>
      if (m.advanceSchedulerDeadline expected now saved).2 then some expected
      else none
  | _ => none

/-- When an event reads the clock. -/
def clock : ScheduleEvent → Option Time
  | .update _ now _ | .ensure now _ | .tick _ now _ => some now
  | .settings _ | .restart => none

theorem cadence_run (hm : m.Ready)
    (hrun : Admissible step StaysEnabled m events) :
    (run step m events).Ready ∧ (run step m events).cadence =
      (moves m events).foldl Cadence.move m.cadence := by
  induction events generalizing m with
  | nil => exact ⟨hm, rfl⟩
  | cons e rest ih =>
      rw [admissible_cons] at hrun
      obtain ⟨hready, hcadence⟩ := cadence_step hm hrun.1
      obtain ⟨hend, hmoved⟩ := ih hready hrun.2
      refine ⟨hend, ?_⟩
      rw [run_cons, hmoved, hcadence]
      rfl

/-- A run is started for the deadline of the cadence. -/
theorem startedFor_eq :
    (startedFor (m, e)).map Int.ofNat = m.cadence.dueAt (m.move e) := by
  cases e with
  | tick expected now saved =>
      rw [startedFor, move]
      by_cases hdue : (m.advanceSchedulerDeadline expected now saved).2 = true
      · rw [if_pos hdue, if_pos hdue, Cadence.dueAt, deadline_cadence,
          (advance_due_iff.mp hdue).2]
        rfl
      · rw [if_neg hdue, if_neg hdue]
        rfl
  | update schedule now saved =>
      rw [move]
      split <;> rfl
  | settings saved => rfl
  | ensure now saved => rfl
  | restart => rfl

theorem map_startedFor (hm : m.Ready)
    (hrun : Admissible step StaysEnabled m events) :
    ((steps step m events).filterMap startedFor).map Int.ofNat =
      m.cadence.dues (moves m events) := by
  induction events generalizing m with
  | nil => rfl
  | cons e rest ih =>
      rw [admissible_cons] at hrun
      obtain ⟨hready, hcadence⟩ := cadence_step hm hrun.1
      have hhead := startedFor_eq (m := m) (e := e)
      have hrest := ih hready hrun.2
      rw [hcadence] at hrest
      have hsplit : m.cadence.dues (moves m (e :: rest)) =
          ((startedFor (m, e)).map Int.ofNat).toList ++
            (m.cadence.move (m.move e)).dues (moves (m.step e) rest) := by
        rw [hhead]
        rfl
      rw [hsplit, ← hrest, steps]
      cases hstarted : startedFor (m, e) with
      | none => rw [List.filterMap_cons_none hstarted]; rfl
      | some due => rw [List.filterMap_cons_some hstarted]; rfl

/-- While the schedule stays enabled and nothing runs, the deadline is the
interval after the latest of the anchor it started from and, for every change
of the interval, the new interval before the change. -/
theorem nextRun_without_run (hm : m.Ready)
    (hrun : Admissible step
      (fun m e => m.StaysEnabled e ∧ startedFor (m, e) = none) m events) :
    ((run step m events).nextRun : Int) =
      seconds (run step m events).schedule.intervalSec +
        (Cadence.changes (moves m events)).foldl
          (fun anchor made => max anchor (made.1 - made.2))
          (m.nextRun - seconds m.schedule.intervalSec) := by
  have henabled : Admissible step StaysEnabled m events :=
    fun taken htaken => (hrun taken htaken).1
  have hquiet : ∀ now, Cadence.Move.advance now ∉ moves m events := by
    intro now hin
    obtain ⟨taken, htaken, hmove⟩ := List.mem_map.mp hin
    have hnone := startedFor_eq (m := taken.1) (e := taken.2)
    rw [(hrun taken htaken).2, hmove] at hnone
    cases hnone
  obtain ⟨-, hcadence⟩ := cadence_run hm henabled
  rw [← deadline_cadence, Cadence.deadline, add_comm]
  congr 1
  rw [hcadence, Cadence.anchor_foldl_move hquiet]
  rfl

/-- With one interval the runs are started for deadlines at least the interval
apart, however late the ticks come and however the clock is set, and the next
deadline lies ahead of the tick that started a run. -/
theorem starts_spaced (hm : m.Ready)
    (hrun : Admissible step (fun m e => m.StaysEnabled e ∧
      (m.move e).isChange = false) m events) :
    ((steps step m events).filterMap startedFor).Pairwise
        (fun due later : Time =>
          (due : Int) + seconds m.schedule.intervalSec ≤ later) ∧
      ∀ taken ∈ steps step m events, ∀ expected now saved,
        taken.2 = .tick expected now saved →
        startedFor taken = some expected →
        now < (step taken.1 taken.2).nextRun := by
  have henabled : Admissible step StaysEnabled m events :=
    fun taken htaken => (hrun taken htaken).1
  have hkept : Cadence.changes (moves m events) = [] := by
    apply Cadence.changes_eq_nil
    intro made hmade
    obtain ⟨taken, htaken, rfl⟩ := List.mem_map.mp hmade
    exact (hrun taken htaken).2
  constructor
  · have hspaced := (Cadence.dues_spaced hm.interval_pos hkept).2
    rw [← map_startedFor hm henabled, List.pairwise_map] at hspaced
    exact hspaced
  · intro taken htaken expected now saved htick hstarted
    have hready : taken.1.Ready := steps_invariant Ready henabled hm
      (fun s e hs he => (cadence_step hs he).1) taken htaken
    obtain ⟨before, e⟩ := taken
    subst htick
    have hdue : (before.advanceSchedulerDeadline expected now saved).2 =
        true := by
      by_contra hnot
      rw [startedFor, if_neg hnot] at hstarted
      cases hstarted
    obtain ⟨-, hcadence⟩ := cadence_step hready
      (henabled (before, .tick expected now saved) htaken)
    rw [move, if_pos hdue] at hcadence
    have hahead : (now : Int) < (before.cadence.advance now).deadline :=
      Cadence.lt_deadline_advance hready.interval_pos
    rw [← Cadence.move, ← hcadence, deadline_cadence] at hahead
    exact Int.ofNat_lt.mp hahead

/-- A tick comes once the deadline it waits for is there. -/
def NotEarly : ScheduleEvent → Prop
  | .tick expected now _ => expected ≤ now
  | _ => True

instance decidableNotEarly : (e : ScheduleEvent) → Decidable (NotEarly e)
  | .tick expected now _ => inferInstanceAs (Decidable (expected ≤ now))
  | .update _ _ _ => inferInstanceAs (Decidable True)
  | .settings _ => inferInstanceAs (Decidable True)
  | .ensure _ _ => inferInstanceAs (Decidable True)
  | .restart => inferInstanceAs (Decidable True)

end Runs

section Hourly

/-- Every hour, next at two o'clock, when one o'clock is 3600 seconds. -/
def hourly : Scheduler where
  schedule := { enabled := true, intervalSec := 3600 }
  nextRun := 7200000000000
  file := some (scheduleState { enabled := true, intervalSec := 3600 }
    7200000000000)

theorem hourly_ready : hourly.Ready :=
  ⟨rfl, by decide, by decide, by decide⟩

/-- Half an hour before the deadline the interval becomes a minute, and an hour
again. -/
def shortened : List ScheduleEvent :=
  [.update ⟨true, 60⟩ 5400000000000 true, .settings true, .restart,
    .update ⟨true, 3600⟩ 5400000000001 true]

/-- The hour counts from a minute before the first change. -/
theorem nextRun_without_run_hourly :
    ((run step hourly shortened).nextRun : Int) = 8940000000000 := by
  have hquiet : Admissible step
      (fun m e => m.StaysEnabled e ∧ startedFor (m, e) = none) hourly
      shortened := by decide
  rw [nextRun_without_run hourly_ready hquiet]
  decide

/-- The first tick is so late that three deadlines have gone by. -/
def late : List ScheduleEvent :=
  [.tick 7200000000000 20000000000000 true, .restart, .settings false,
    .tick 7200000000000 20000000000001 true,
    .update ⟨true, 3600⟩ 20000000000002 true,
    .tick 23600000000000 23600000000000 false]

theorem starts_spaced_hourly :
    (steps step hourly late).filterMap startedFor =
        [7200000000000, 23600000000000] ∧
      ((steps step hourly late).filterMap startedFor).Pairwise
        fun due later : Time => (due : Int) + seconds 3600 ≤ later := by
  have hkept : Admissible step (fun m e => m.StaysEnabled e ∧
      (m.move e).isChange = false) hourly late := by decide
  exact ⟨by decide, (starts_spaced hourly_ready hkept).1⟩

end Hourly

end Scheduler

end XrayChecker.Speedtest

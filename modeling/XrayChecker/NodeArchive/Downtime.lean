import XrayChecker.Machine.Periods
import XrayChecker.Machine.Run
import XrayChecker.Checker.Outage
import XrayChecker.NodeArchive.Record

/-
The downtime of one node as an account of its own: the periods credited to
it, those in which it is left out, and the moves that open and close it.  The
archive keeps such an account for every node.
-/

namespace XrayChecker.NodeArchive

open Go Checker Machine

/-- The part of a record the accounting of downtime reads and writes. -/
structure Downtime where
  firstSeenAt : Time := 0
  totalDowntimeSec : Int := 0
  longestDowntimeSec : Int := 0
  currentDownSince : Time := 0
  lastStatusAt : Time := 0
deriving DecidableEq

def NodeRecord.downtime (record : NodeRecord) : Downtime :=
  ⟨record.firstSeenAt, record.totalDowntimeSec, record.longestDowntimeSec,
    record.currentDownSince, record.lastStatusAt⟩

namespace Downtime

variable (downtime : Downtime)

/-- The node is in the subscription. -/
def see (now : Time) : Downtime :=
  { downtime with
    firstSeenAt :=
      if downtime.firstSeenAt = 0 then now else downtime.firstSeenAt }

/-- The period a close credits, if it credits one. -/
def credit (now : Time) : Option Period :=
  if downtime.currentDownSince = 0 ∨ now < downtime.currentDownSince then none
  else some (downtime.currentDownSince, now)

def close (now : Time) : Downtime :=
  match downtime.credit now with
  | none => { downtime with currentDownSince := 0 }
  | some period =>
      let durationSec : Int := wholeSeconds period.1 period.2
      { downtime with
        totalDowntimeSec := downtime.totalDowntimeSec + durationSec
        longestDowntimeSec := max durationSec downtime.longestDowntimeSec
        currentDownSince := 0 }

end Downtime

/-- What an archive operation does to the accounting of a node. -/
inductive Move where
  /-- Nothing. -/
  | stay
  /-- The accounting ends: the project is paused, or the node retired. -/
  | leave
  /-- The node is found, or put, in or out of maintenance, or unaccounted. -/
  | exclude
  /-- The node is accounted, but has no status. -/
  | unread
  /-- A status other than offline is recorded. -/
  | up
  /-- The node is recorded as offline since the given time. -/
  | down (since : Time)
deriving DecidableEq

/-- What a move does to the downtime itself. -/
def Downtime.step (downtime : Downtime) (now : Time) : Move → Downtime
  | .stay => downtime
  | .leave => downtime.close now
  | .exclude => downtime.close now
  | .unread => downtime
  | .up => { downtime.close now with lastStatusAt := now }
  | .down since =>
      { downtime with
        lastStatusAt := now
        currentDownSince :=
          if downtime.currentDownSince = 0 then since
          else downtime.currentDownSince }

/-- The downtime of a node with its history: the credited periods, and the
periods in which every recording left the node out. -/
structure Account where
  downtime : Downtime := {}
  credited : List Period := []
  out : List Period := []
  isOut : Bool := false
  leftAt : Time := 0

namespace Account

variable (account : Account)

/-- The accounting closes at `now`. -/
def close (now : Time) : Account :=
  { account with
    downtime := account.downtime.close now
    credited := (account.downtime.credit now).toList ++ account.credited }

/-- The node is left out at `now`: a period of it begins or goes on. -/
def extendOut (now : Time) : List Period :=
  match account.isOut, account.out with
  | true, period :: rest => (period.1, now) :: rest
  | _, out => (now, now) :: out

def step (now : Time) (move : Move) : Account :=
  let downtime := account.downtime.step now move
  match move with
  | .stay => account
  | .leave =>
      { account.close now with
        leftAt := if account.downtime.currentDownSince = 0 then account.leftAt
          else now }
  | .exclude =>
      { account.close now with
        out := account.extendOut now, isOut := true, leftAt := now }
  | .unread => { account with isOut := false }
  | .up => { account.close now with downtime := downtime, isOut := false }
  | .down _ => { account with downtime := downtime, isOut := false }

def see (now : Time) : Account :=
  { account with downtime := account.downtime.see now }

end Account

/-- A downtime opens no earlier than the node was first seen and last left
out. -/
def Account.Resumes (account : Account) : Move → Prop
  | .down since =>
      account.downtime.currentDownSince = 0 →
        account.leftAt ≤ since ∧ account.downtime.firstSeenAt ≤ since
  | _ => True

/-- The downtime is counted once: the credited periods do not overlap, none of
them overlaps a period in which the node was left out, and the totals are
those of the credited periods. -/
structure Account.CountedOnce (account : Account) (now : Time) : Prop where
  credited : Follow account.downtime.firstSeenAt now account.credited
  outside : ∀ period ∈ account.credited, ∀ left ∈ account.out,
    period.2 ≤ left.1 ∨ left.2 ≤ period.1
  total : account.downtime.totalDowntimeSec =
    (account.credited.map fun period =>
      wholeSeconds period.1 period.2).sum
  longest : account.downtime.longestDowntimeSec ≤
    account.downtime.totalDowntimeSec

/-- The invariant of the account: besides, what is still to come starts after
what was credited. -/
structure Account.Sound (account : Account) (now : Time) : Prop
    extends account.CountedOnce now where
  running : account.downtime.currentDownSince ≠ 0 →
    account.isOut = false ∧
      account.downtime.firstSeenAt ≤ account.downtime.currentDownSince ∧
      (∀ period ∈ account.credited,
        period.2 ≤ account.downtime.currentDownSince) ∧
      ∀ left ∈ account.out, left.2 ≤ account.downtime.currentDownSince
  closed : account.downtime.currentDownSince = 0 →
    ∀ period ∈ account.credited,
      period.2 ≤ max account.leftAt account.downtime.lastStatusAt
  outBefore : ∀ left ∈ account.out, left.2 ≤ account.leftAt
  outSince : account.isOut = true →
    ∃ left rest, account.out = left :: rest ∧
      ∀ period ∈ account.credited, period.2 ≤ left.1
  leftBefore : account.leftAt ≤ now
  statusBefore : account.downtime.lastStatusAt ≤ now
  seenBefore : account.downtime.firstSeenAt ≤ now
  unseen : account.downtime.firstSeenAt = 0 →
    account.credited = [] ∧ account.downtime.currentDownSince = 0

namespace Downtime

variable {downtime : Downtime} {now : Time}

theorem credit_eq_some {period : Period} (h : downtime.credit now =
    some period) :
    downtime.currentDownSince ≠ 0 ∧ period.1 = downtime.currentDownSince ∧
      period.2 = now ∧ period.1 ≤ period.2 := by
  unfold credit at h
  split at h
  · cases h
  · rename_i hopen
    cases h
    exact ⟨fun hzero => hopen (Or.inl hzero), rfl, rfl,
      Nat.le_of_not_lt fun hlt => hopen (Or.inr hlt)⟩

theorem credit_of_zero (h : downtime.currentDownSince = 0) :
    downtime.credit now = none := by
  simp [credit, h]

@[simp] theorem close_firstSeenAt :
    (downtime.close now).firstSeenAt = downtime.firstSeenAt := by
  unfold close
  split <;> rfl

@[simp] theorem close_lastStatusAt :
    (downtime.close now).lastStatusAt = downtime.lastStatusAt := by
  unfold close
  split <;> rfl

@[simp] theorem close_currentDownSince :
    (downtime.close now).currentDownSince = 0 := by
  unfold close
  split <;> rfl

end Downtime

namespace Account

variable {account : Account} {before now : Time}

theorem close_credited_of_zero (h : account.downtime.currentDownSince = 0) :
    (account.close now).credited = account.credited := by
  simp [close, Downtime.credit_of_zero h]

theorem mem_extendOut {left : Period} (h : left ∈ account.extendOut now) :
    left ∈ account.out ∨ left = (now, now) ∨
      account.isOut = true ∧
        ∃ period rest, account.out = period :: rest ∧ left =
          (period.1, now) := by
  unfold extendOut at h
  split at h
  · rename_i period rest hisOut hout
    rcases List.mem_cons.mp h with rfl | hrest
    · exact Or.inr (Or.inr ⟨hisOut, period, rest, hout, rfl⟩)
    · left
      rw [hout]
      exact List.mem_cons_of_mem _ hrest
  · rcases List.mem_cons.mp h with rfl | hold
    · exact Or.inr (Or.inl rfl)
    · exact Or.inl hold

/-- Closing the accounting credits the time since it was opened, once. -/
theorem Sound.close_countedOnce (h : account.Sound before)
    (hclock : before ≤ now) : (account.close now).CountedOnce now := by
  have hmono := h.credited.mono hclock
  cases hcredit : account.downtime.credit now with
  | none =>
      constructor
      · simpa [close, hcredit] using hmono
      · simpa [close, hcredit] using h.outside
      · simpa [close, Downtime.close, hcredit] using h.total
      · simpa [close, Downtime.close, hcredit] using h.longest
  | some period =>
      obtain ⟨hopen, hstart, hstop, horder⟩ := Downtime.credit_eq_some hcredit
      obtain ⟨start, stop⟩ := period
      simp only at hstart hstop horder
      subst hstart hstop
      obtain ⟨_, hseen, hover, hout⟩ := h.running hopen
      constructor
      · simpa [close, hcredit] using hmono.cons hseen horder le_rfl hover
      · intro other hother left hleft
        simp only [close, hcredit, Option.toList_some, List.cons_append,
          List.nil_append, List.mem_cons] at hother
        rcases hother with rfl | hother
        · exact Or.inr (hout left hleft)
        · exact h.outside other hother left hleft
      · simp only [close, Downtime.close, hcredit, Option.toList_some,
          List.cons_append, List.nil_append, List.map_cons, List.sum_cons,
          h.total]
        push_cast
        ring
      · have htotal := h.total
        have hlongest := h.longest
        simp only [close, Downtime.close, hcredit]
        omega

/-- Every move keeps the account sound; a downtime it opens has to start
after whatever ended the last one. -/
theorem Sound.step (h : account.Sound before) (hclock : before ≤ now)
    {move : Move}
    (hopens : ∀ since, move = .down since →
      account.downtime.firstSeenAt ≠ 0 ∧
        (account.downtime.currentDownSince = 0 →
          account.downtime.firstSeenAt ≤ since ∧
            max account.leftAt account.downtime.lastStatusAt ≤ since)) :
    (account.step now move).Sound now := by
  have hclosed := h.close_countedOnce hclock
  have hends : ∀ period ∈ (account.close now).credited, period.2 ≤ now :=
    fun period hperiod => (hclosed.credited.within period hperiod).2.2
  have hleft := h.leftBefore.trans hclock
  have hstatus := h.statusBefore.trans hclock
  have hseen := h.seenBefore.trans hclock
  have hunseen : account.downtime.firstSeenAt = 0 →
      (account.close now).credited = [] := by
    intro hzero
    rw [close_credited_of_zero (h.unseen hzero).2]
    exact (h.unseen hzero).1
  have hzeroOut : account.isOut = true →
      account.downtime.currentDownSince = 0 := by
    intro hisOut
    by_contra hne
    simp [(h.running hne).1] at hisOut
  cases move with
  | stay =>
      exact { h with
        credited := h.credited.mono hclock
        leftBefore := hleft, statusBefore := hstatus, seenBefore := hseen }
  | leave =>
      refine { hclosed with
        running := fun hne => absurd (Downtime.close_currentDownSince) hne
        closed := ?_, outBefore := ?_, outSince := ?_, leftBefore := ?_
        statusBefore := by simpa [Account.step, close] using hstatus
        seenBefore := by simpa [Account.step, close] using hseen
        unseen := ?_ }
      · intro _ period hperiod
        by_cases hzero : account.downtime.currentDownSince = 0
        · have hold := h.closed hzero period
            (by rwa [← close_credited_of_zero hzero])
          simpa [Account.step, close, hzero] using hold
        · have hend := hends period hperiod
          simp [Account.step, hzero, hend]
      · intro left hmem
        have hbefore := h.outBefore left hmem
        simp only [Account.step]
        split
        · exact hbefore
        · exact hbefore.trans hleft
      · intro hisOut
        obtain ⟨left, rest, hout, hover⟩ := h.outSince hisOut
        refine ⟨left, rest, hout, fun period hperiod => hover period ?_⟩
        rwa [← close_credited_of_zero (hzeroOut hisOut)]
      · simp only [Account.step]
        split
        · exact hleft
        · exact le_rfl
      · intro hzero
        have hfirst : account.downtime.firstSeenAt = 0 := by
          simpa [Account.step, close] using hzero
        exact ⟨hunseen hfirst, Downtime.close_currentDownSince⟩
  | exclude =>
      refine { hclosed with
        running := fun hne => absurd (Downtime.close_currentDownSince) hne
        outside := ?_, closed := ?_, outBefore := ?_, outSince := ?_
        leftBefore := le_rfl
        statusBefore := by simpa [Account.step, close] using hstatus
        seenBefore := by simpa [Account.step, close] using hseen
        unseen := ?_ }
      · intro period hperiod left hmem
        rcases mem_extendOut hmem with hold | rfl | ⟨hisOut, first, rest,
          hout, rfl⟩
        · exact hclosed.outside period hperiod left hold
        · exact Or.inl (hends period hperiod)
        · left
          obtain ⟨left, rest', hout', hover⟩ := h.outSince hisOut
          rw [hout] at hout'
          cases hout'
          apply hover period
          rwa [← close_credited_of_zero (hzeroOut hisOut)]
      · intro _ period hperiod
        have hend := hends period hperiod
        simp [Account.step, hend]
      · intro left hmem
        rcases mem_extendOut hmem with hold | rfl | ⟨_, _, _, _, rfl⟩
        · exact (h.outBefore left hold).trans hleft
        · exact le_rfl
        · exact le_rfl
      · intro _
        simp only [Account.step, extendOut]
        split
        · rename_i first rest hisOut hout
          refine ⟨_, rest, rfl, fun period hperiod => ?_⟩
          obtain ⟨left, rest', hout', hover⟩ := h.outSince hisOut
          rw [hout] at hout'
          cases hout'
          apply hover period
          rwa [← close_credited_of_zero (hzeroOut hisOut)]
        · exact ⟨_, _, rfl, hends⟩
      · intro hzero
        have hfirst : account.downtime.firstSeenAt = 0 := by
          simpa [Account.step, close] using hzero
        exact ⟨hunseen hfirst, Downtime.close_currentDownSince⟩
  | unread =>
      exact { h with
        credited := h.credited.mono hclock
        running := fun hne => ⟨rfl, (h.running hne).2⟩
        outSince := fun hisOut => absurd hisOut (by simp [Account.step])
        leftBefore := hleft, statusBefore := hstatus, seenBefore := hseen }
  | up =>
      refine { hclosed with
        running := fun hne => absurd (Downtime.close_currentDownSince) hne
        closed := ?_, outBefore := h.outBefore
        outSince := fun hisOut => absurd hisOut (by simp [Account.step])
        leftBefore := hleft
        statusBefore := le_rfl
        seenBefore := by simpa [Account.step, Downtime.step] using hseen
        unseen := ?_ }
      · intro _ period hperiod
        have hend := hends period hperiod
        simp [Account.step, Downtime.step, hend]
      · intro hzero
        have hfirst : account.downtime.firstSeenAt = 0 := by
          simpa [Account.step, Downtime.step] using hzero
        exact ⟨hunseen hfirst, Downtime.close_currentDownSince⟩
  | down since =>
      obtain ⟨hfirst, hstart⟩ := hopens since rfl
      refine { h with
        credited := h.credited.mono hclock
        running := ?_, closed := ?_
        outSince := fun hisOut => absurd hisOut (by simp [Account.step])
        leftBefore := hleft, statusBefore := le_rfl, seenBefore := hseen
        unseen := fun hzero => absurd hzero hfirst }
      · intro _
        refine ⟨rfl, ?_⟩
        by_cases hzero : account.downtime.currentDownSince = 0
        · obtain ⟨hsince, hafter⟩ := hstart hzero
          simp only [Account.step, Downtime.step, hzero, ↓reduceIte]
          refine ⟨hsince, fun period hperiod => ?_, fun left hmem => ?_⟩
          · exact (h.closed hzero period hperiod).trans hafter
          · exact (h.outBefore left hmem).trans ((le_max_left _ _).trans hafter)
        · simp only [Account.step, Downtime.step, if_neg hzero]
          exact (h.running hzero).2
      · intro hzero' period hperiod
        have hend := (h.credited.within period hperiod).2.2.trans hclock
        exact hend.trans (le_max_right _ _)

@[simp] theorem step_downtime (account : Account) (now : Time) (move : Move) :
    (account.step now move).downtime = account.downtime.step now move := by
  cases move <;> rfl

theorem Sound.later (h : account.Sound before) (hclock : before ≤ now) :
    account.Sound now :=
  { h with
    credited := h.credited.mono hclock
    leftBefore := h.leftBefore.trans hclock
    statusBefore := h.statusBefore.trans hclock
    seenBefore := h.seenBefore.trans hclock }

theorem Sound.see (h : account.Sound before) (hclock : before ≤ now) :
    (account.see now).Sound now := by
  by_cases hzero : account.downtime.firstSeenAt = 0
  · obtain ⟨hnone, hdown⟩ := h.unseen hzero
    have hsee : account.see now =
        { account with
          downtime := { account.downtime with firstSeenAt := now } } := by
      simp [Account.see, Downtime.see, hzero]
    rw [hsee]
    have htotal := h.total
    have hlongest := h.longest
    exact
      { credited := by simpa [hnone] using Follow.nil now now
        outside := by simp [hnone]
        total := by simpa using htotal
        longest := hlongest
        running := fun hne => absurd hdown hne
        closed := by simp [hnone]
        outBefore := h.outBefore
        outSince := h.outSince
        leftBefore := h.leftBefore.trans hclock
        statusBefore := h.statusBefore.trans hclock
        seenBefore := le_rfl
        unseen := fun _ => ⟨hnone, hdown⟩ }
  · have hsee : account.see now = account := by
      simp [Account.see, Downtime.see, hzero]
    rw [hsee]
    exact h.later hclock

end Account

end XrayChecker.NodeArchive

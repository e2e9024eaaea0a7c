import XrayChecker.NodeArchive.DowntimeRuns

/-
The archive beside the checker: the clock of a downtime is taken over from the
checker, so the two have to agree on when an outage started.
-/

namespace XrayChecker.NodeArchive

open Go Checker Machine

/-- The archive and the checker, and the account of one node. -/
structure Watched where
  store : Store := {}
  clocked : Clocked
  account : Account := {}

/-- What happens to the two: the checker stores or restores a status, its
settings change, or the archive is called. -/
inductive Occurrence where
  | status (call : StatusCall)
  | setSourcePolicies (policies : GoMap Text Policy)
  | setMaintenanceMode (stableID : Text) (enabled : Bool)
  | clearProjectMonitoringState
  | updateProxies (proxies : List ProxyConfig)
  | archive (call : ArchiveCall) (now : Time) (saveError : Option Text)

variable (options : Options) (stableID : Text)

/-- The move of an archive call for the watched node. -/
def Watched.move (w : Watched) (call : ArchiveCall) (now : Time)
    (saveError : Option Text) : Move :=
  call.move options w.clocked.pc now stableID (w.store.recordOf stableID)
    saveError

/-- The account when the call makes its move: the node may be seen for the
first time. -/
def Watched.seen (w : Watched) (call : ArchiveCall) (now : Time) : Account :=
  if stableID ∈ call.listed options w.clocked.pc then w.account.see now
  else w.account

def watch (w : Watched) : Occurrence → Watched
  | .status call => { w with clocked := callStep options w.clocked call }
  | .setSourcePolicies policies =>
      { w with clocked :=
        { w.clocked with pc := w.clocked.pc.setSourcePolicies policies } }
  | .setMaintenanceMode other enabled =>
      { w with clocked :=
        { w.clocked with
          pc := w.clocked.pc.setMaintenanceMode options other enabled } }
  | .clearProjectMonitoringState =>
      { w with clocked :=
        { w.clocked with
          pc := w.clocked.pc.clearProjectMonitoringState options } }
  | .updateProxies proxies =>
      { w with clocked :=
        { w.clocked with pc := w.clocked.pc.updateProxies options proxies } }
  | .archive call now saveError =>
      { store := step options w.store ⟨call.call w.clocked.pc now, saveError⟩
        clocked := { w.clocked with now := now }
        account := (w.seen options stableID call now).step now
          (w.move options stableID call now saveError) }

/-- The clock does not run backwards and is never the zero time. -/
def Occurrence.InOrder (w : Watched) : Occurrence → Prop
  | .status call => call.InOrder w.clocked.now
  | .archive _ now _ => w.clocked.now ≤ now ∧ now ≠ 0
  | _ => True

/-- A recording that opens a downtime of the node takes over a start that is
not before the node was first seen, nor before the archive last left the node
out; and no outage of the node is restored that began before the archive last
recorded the node as anything but offline. -/
def Occurrence.Resumes (w : Watched) : Occurrence → Prop
  | .archive call now saveError =>
      (w.seen options stableID call now).Resumes
        (w.move options stableID call now saveError)
  | .status (.restoreOffline restored _) =>
      restored.stableID = stableID →
        w.account.downtime.currentDownSince = 0 →
        w.account.downtime.lastStatusAt ≤ restored.since
  | _ => True

/-- The checker's outage of the node, while the archive counts none, is not
older than the last status the archive recorded; unless the archive left the
node out since. -/
def Watched.Fresh (w : Watched) : Prop :=
  w.account.downtime.currentDownSince = 0 →
    w.account.downtime.lastStatusAt ≤ w.account.leftAt ∨
      ∀ details : ProxyStatusDetails,
        w.clocked.pc.statusDetails[stableID]? = some details →
        details.status = .offline →
        w.account.downtime.lastStatusAt ≤ details.downSince

structure Watched.Sound (w : Watched) : Prop where
  agrees : w.account.downtime = (w.store.recordOf stableID).downtime
  paused : (w.store.recordOf stableID).maintenance = true →
    (w.store.recordOf stableID).currentDownSince = 0
  sound : w.account.Sound w.clocked.now
  timed : Timed w.clocked
  fresh : w.Fresh stableID

/-- A change of the checker that may drop statuses, and writes none. -/
def DropsOnly (pc next : ProxyChecker) : Prop :=
  ∀ (id : Text) (details : ProxyStatusDetails),
    next.statusDetails[id]? = some details →
    pc.statusDetails[id]? = some details

section Drops

variable {options : Options} {pc : ProxyChecker}

end Drops

section Watched

variable {options : Options} {stableID : Text} {w : Watched}

theorem Watched.Sound.drop (h : w.Sound stableID) {next : ProxyChecker}
    (hdrops : DropsOnly w.clocked.pc next) :
    ({ w with clocked := { w.clocked with pc := next } } : Watched).Sound
      stableID where
  agrees := h.agrees
  paused := h.paused
  sound := h.sound
  timed := fun id details hdetails =>
    h.timed id details (hdrops id details hdetails)
  fresh := fun hclosed =>
    (h.fresh hclosed).imp id fun hdown details hdetails =>
      hdown details (hdrops stableID details hdetails)

theorem restoreStatus_details (options : Options) (pc : ProxyChecker)
    (restored : ProxyChecker.Restored) (written : ProxyStatusDetails)
      {id : Text}
    {details : ProxyStatusDetails}
    (h : (pc.restoreStatus options restored written).statusDetails[id]? =
      some details) :
    pc.statusDetails[id]? = some details ∨
      restored.stableID = id ∧ details = written := by
  unfold ProxyChecker.restoreStatus at h
  split at h
  · exact Or.inl h
  · split at h
    · exact Or.inl h
    · rw [GoMap.get_insert] at h
      split at h
      · rename_i hsame
        exact Or.inr ⟨hsame, (Option.some.inj h).symm⟩
      · exact Or.inl h

/-- An offline status that a call leaves for the node was there before with
the same start, starts after the last reading of the clock, or was restored. -/
theorem offline_since {s : Clocked} (htimed : Timed s) {call : StatusCall}
    (horder : call.InOrder s.now) {id : Text} {details : ProxyStatusDetails}
    (hdetails : (callStep options s call).pc.statusDetails[id]? = some details)
    (hoffline : details.status = .offline) :
    (∃ before, s.pc.statusDetails[id]? = some before ∧
        before.status = .offline ∧ details.downSince = before.downSince) ∨
      s.now ≤ details.downSince ∨
      ∃ restored now, call = .restoreOffline restored now ∧
        restored.stableID = id ∧ details.downSince = restored.since := by
  by_cases hrestores : call.Restores id
  · cases call with
    | restoreOffline restored now =>
        rcases restoreStatus_details options s.pc restored _ hdetails with
          hkept | ⟨hid, hwritten⟩
        · exact Or.inl ⟨details, hkept, hoffline, rfl⟩
        · refine Or.inr (Or.inr ⟨restored, now, rfl, hid, ?_⟩)
          rw [hwritten]
    | restoreProxyFailure restored now =>
        rcases restoreStatus_details options s.pc restored _ hdetails with
          hkept | ⟨hid, hwritten⟩
        · exact Or.inl ⟨details, hkept, hoffline, rfl⟩
        · rw [hwritten] at hoffline
          cases hoffline
    | store _ _ _ _ => cases hrestores
    | diagnose _ _ _ _ => cases hrestores
    | refresh _ _ _ _ => cases hrestores
  have hwritten := written_apply options s.pc horder id
  change (call.apply options s.pc).statusDetails[id]? = some details
    at hdetails
  rw [hdetails] at hwritten
  generalize hbefore : s.pc.statusDetails[id]? = previous at hwritten
  cases hwritten with
  | kept => exact Or.inl ⟨details, rfl, hoffline, rfl⟩
  | reported report now hnow =>
      rw [nextStatusDetails_status] at hoffline
      rw [nextStatusDetails_downSince, if_pos hoffline]
      cases previous with
      | none => exact Or.inr (Or.inl hnow.2.1)
      | some before =>
          have hwell := htimed id before hbefore
          simp only [keptSince]
          split
          · rename_i hsame
            rw [hwell.effectiveStatus_eq] at hsame
            exact Or.inl ⟨before, rfl, hsame.1, rfl⟩
          · exact Or.inr (Or.inl hnow.2.1)
  | diagnosed before hostCheck pingCheck readings hprevious honline hnow =>
      subst hprevious
      have hwell := htimed id before hbefore
      have hstatus : classifyAvailabilityState false (some hostCheck)
          (some pingCheck) = .offline := hoffline
      by_cases hzero : before.downSince = 0
      · refine Or.inr (Or.inl ?_)
        simpa [diagnosedDetails, hstatus, hzero, Time.isZero] using hnow.2.1
      · refine Or.inl ⟨before, rfl, ?_, ?_⟩
        · cases hwas : before.status with
          | unset => exact absurd hwas hwell.set
          | online => exact absurd (hwell.working hwas).1 hzero
          | proxyFailure => exact absurd (hwell.proxyFailure hwas).2 hzero
          | offline => rfl
        · simp [diagnosedDetails, hstatus, hzero, Time.isZero]
  | restored _ _ hrestored => exact absurd hrestored hrestores

theorem Watched.Sound.status (h : w.Sound stableID) {call : StatusCall}
    (horder : call.InOrder w.clocked.now)
    (hresumes : (Occurrence.status call).Resumes options stableID w) :
    (watch options stableID w (.status call)).Sound stableID := by
  have hclock := StatusCall.le_finishedAt horder
  refine ⟨h.agrees, h.paused, h.sound.later hclock,
    timed_step h.timed horder, fun hclosed => ?_⟩
  refine (h.fresh hclosed).imp id fun hdown details hdetails hoffline => ?_
  rcases offline_since h.timed horder hdetails hoffline with
    ⟨before, hbefore, hwas, hsince⟩ | hlater | ⟨restored, now, rfl, hid, hsince⟩
  · rw [hsince]
    exact hdown before hbefore hwas
  · exact h.sound.statusBefore.trans hlater
  · rw [hsince]
    exact hresumes hid hclosed

theorem getDetails_eq_ok {pc : ProxyChecker} {details : ProxyStatusDetails}
    (h : pc.getProxyStatusDetailsByStableID options stableID = .ok details) :
    pc.statusDetails[stableID]? = some details := by
  unfold ProxyChecker.getProxyStatusDetailsByStableID at h
  split at h
  · cases h
  · split at h
    · cases h
    · split at h
      · cases h
      · rename_i found hfound
        cases h
        exact hfound

/-- A move that records a status was read from the checker. -/
theorem Watched.move_status {call : ArchiveCall} {now : Time}
    {saveError : Option Text} {move : Move}
    (h : w.move options stableID call now saveError = move)
    (hstatus : move = .up ∨ ∃ since, move = .down since) :
    stableID ∈ call.listed options w.clocked.pc ∧
      ∃ details, w.clocked.pc.statusDetails[stableID]? = some details ∧
        move = statusMove details now := by
  have hleave : ∀ record : NodeRecord, leaveMove record ≠ move := by
    intro record hsame
    unfold leaveMove at hsame
    rcases hstatus with rfl | ⟨since, rfl⟩
    · split at hsame <;> cases hsame
    · split at hsame <;> cases hsame
  have hother : ∀ other : Move, other = .stay ∨ other = .exclude ∨
      other = .unread → other ≠ move := by
    rintro other hwhich rfl
    rcases hstatus with hup | ⟨since, hdown⟩
    · rcases hwhich with rfl | rfl | rfl <;> cases hup
    · rcases hwhich with rfl | rfl | rfl <;> cases hdown
  cases call with
  | record recordHistory =>
      simp only [Watched.move, ArchiveCall.move, recordMove] at h
      split at h
      · rename_i hlisted
        refine ⟨hlisted, ?_⟩
        split at h
        · exact absurd h (hother _ (by simp))
        · split at h
          · exact absurd h (hother _ (by simp))
          · rename_i details hdetails
            exact ⟨details, getDetails_eq_ok hdetails, h.symm⟩
      · exact absurd h (hleave _)
  | syncProxies proxies =>
      simp only [Watched.move, ArchiveCall.move] at h
      split at h
      · exact absurd h (hother _ (by simp))
      · exact absurd h (hleave _)
  | setMaintenance other enabled =>
      simp only [Watched.move, ArchiveCall.move] at h
      split at h
      · exact absurd h (hother _ (by simp))
      · exact absurd h (hother _ (by simp))
  | pauseProjectMonitoring =>
      simp only [Watched.move, ArchiveCall.move] at h
      split at h
      · exact absurd h (hleave _)
      · exact absurd h (hother _ (by simp))

theorem Watched.seen_sound (h : w.Sound stableID) {call : ArchiveCall}
    {now : Time} (hclock : w.clocked.now ≤ now) :
    (w.seen options stableID call now).Sound now := by
  unfold Watched.seen
  split
  · exact h.sound.see hclock
  · exact h.sound.later hclock

/-- Seeing a node changes nothing but its first sight. -/
theorem Watched.seen_same (w : Watched) (call : ArchiveCall) (now : Time) :
    (w.seen options stableID call now).leftAt = w.account.leftAt ∧
      (w.seen options stableID call now).downtime.lastStatusAt =
        w.account.downtime.lastStatusAt ∧
      (w.seen options stableID call now).downtime.currentDownSince =
        w.account.downtime.currentDownSince := by
  unfold Watched.seen
  split <;> exact ⟨rfl, rfl, rfl⟩

/-- The start of a downtime the call opens, against the clocks of the
account. -/
theorem Watched.opens_late (h : w.Sound stableID) {call : ArchiveCall}
    {now since : Time} {saveError : Option Text} (hnow : now ≠ 0)
    (hresumes : (Occurrence.archive call now saveError).Resumes options
      stableID w)
    (hmove : w.move options stableID call now saveError = .down since) :
    let account := w.seen options stableID call now
    since ≠ 0 ∧ account.downtime.firstSeenAt ≠ 0 ∧
      (account.downtime.currentDownSince = 0 →
        account.downtime.firstSeenAt ≤ since ∧
          max account.leftAt account.downtime.lastStatusAt ≤ since) := by
  intro account
  obtain ⟨hlisted, details, hdetails, hstatus⟩ :=
    w.move_status hmove (Or.inr ⟨since, rfl⟩)
  obtain ⟨hleftAt, hstatusAt, hdownSince⟩ :=
    @Watched.seen_same options stableID w call now
  have hwell := h.timed stableID details hdetails
  have hoffline : details.status = .offline ∧
      since = openedSince details now := by
    unfold statusMove at hstatus
    split at hstatus
    · rename_i hdown
      cases hstatus
      refine ⟨?_, rfl⟩
      rw [← hwell.effectiveStatus_eq]
      simpa [ProxyStatusDetails.isOffline] using hdown
    · cases hstatus
  have hset := (hwell.offline hoffline.1).1
  have hsince : since = details.downSince := by
    rw [hoffline.2, openedSince, if_neg hset]
  refine ⟨hsince ▸ hset, ?_, fun hclosed => ?_⟩
  · change (w.seen options stableID call now).downtime.firstSeenAt ≠ 0
    rw [Watched.seen, if_pos hlisted]
    by_cases hzero : w.account.downtime.firstSeenAt = 0
    · simp [Account.see, Downtime.see, hzero, hnow]
    · simp [Account.see, Downtime.see, hzero]
  · have hlate : account.leftAt ≤ since ∧
        account.downtime.firstSeenAt ≤ since := by
      have hopens := hresumes
      simp only [Occurrence.Resumes, hmove] at hopens
      exact hopens hclosed
    refine ⟨hlate.2, max_le hlate.1 ?_⟩
    rw [hstatusAt]
    rcases h.fresh (hdownSince.symm.trans hclosed) with hleft | hdown
    · exact hleft.trans (hleftAt ▸ hlate.1)
    · rw [hsince]
      exact hdown details hdetails hoffline.1

/-- After a call the clocks of the archive and the checker still agree. -/
theorem Watched.fresh_step (h : w.Sound stableID) {call : ArchiveCall}
    {now : Time} {saveError : Option Text} (hclock : w.clocked.now ≤ now)
    (hopens : ∀ since,
      w.move options stableID call now saveError = .down since → since ≠ 0) :
    (watch options stableID w (.archive call now saveError)).Fresh
      stableID := by
  obtain ⟨hleftAt, hstatusAt, hdownSince⟩ :=
    @Watched.seen_same options stableID w call now
  have hstatusNow := h.sound.statusBefore.trans hclock
  intro hclosed
  simp only [watch] at hclosed ⊢
  generalize hmove : w.move options stableID call now saveError = move at *
  have hkept : w.account.downtime.currentDownSince = 0 →
      (w.seen options stableID call now).downtime.lastStatusAt ≤
          (w.seen options stableID call now).leftAt ∨
        ∀ details : ProxyStatusDetails,
          w.clocked.pc.statusDetails[stableID]? = some details →
          details.status = .offline →
          (w.seen options stableID call now).downtime.lastStatusAt ≤
            details.downSince := by
    rw [hleftAt, hstatusAt]
    exact h.fresh
  cases move with
  | stay => exact hkept (hdownSince.symm.trans hclosed)
  | leave =>
      simp only [Account.step, Account.close, Downtime.close_lastStatusAt]
      split
      · rename_i hzero
        exact hkept (hdownSince.symm.trans hzero)
      · rw [hstatusAt]
        exact Or.inl hstatusNow
  | exclude =>
      simp only [Account.step, Account.close, Downtime.close_lastStatusAt]
      rw [hstatusAt]
      exact Or.inl hstatusNow
  | unread => exact hkept (hdownSince.symm.trans hclosed)
  | up =>
      refine Or.inr fun details hdetails hoffline => ?_
      obtain ⟨-, found, hfound, hup⟩ := w.move_status hmove (Or.inl rfl)
      rw [hdetails] at hfound
      cases hfound
      have hwell := h.timed stableID details hdetails
      have hdown : details.isOffline = true := by
        simp [ProxyStatusDetails.isOffline, hwell.effectiveStatus_eq, hoffline]
      simp [statusMove, hdown] at hup
  | down since =>
      have hset := hopens since rfl
      simp only [Account.step, Downtime.step] at hclosed
      split at hclosed
      · exact absurd hclosed hset
      · rename_i hrunning
        exact absurd hclosed hrunning

theorem Watched.Sound.archive (h : w.Sound stableID) {call : ArchiveCall}
    {now : Time} {saveError : Option Text} (hclock : w.clocked.now ≤ now)
    (hnow : now ≠ 0)
    (hresumes : (Occurrence.archive call now saveError).Resumes options
      stableID w) :
    (watch options stableID w (.archive call now saveError)).Sound
      stableID := by
  obtain ⟨hdowntime, hpaused⟩ := @call_node options w.clocked.pc now w.store
    _ stableID rfl hnow h.paused call saveError
  have hopens : ∀ since,
      w.move options stableID call now saveError = .down since → since ≠ 0 :=
    fun since hmove => (w.opens_late h hnow hresumes hmove).1
  refine
    { agrees := ?_
      paused := hpaused
      sound := ?_
      timed := fun id details hdetails =>
        (h.timed id details hdetails).mono hclock
      fresh := w.fresh_step h hclock hopens }
  · simp only [watch, Account.step_downtime]
    rw [hdowntime, ← h.agrees]
    unfold Watched.seen
    split <;> rfl
  · apply (w.seen_sound h hclock).step le_rfl
    intro since hmove
    exact (w.opens_late h hnow hresumes hmove).2

end Watched

instance (w : Watched) (o : Occurrence) : Decidable (o.InOrder w) :=
  match o with
  | .status call => inferInstanceAs (Decidable (call.InOrder _))
  | .archive _ _ _ => inferInstanceAs (Decidable (_ ∧ _))
  | .setSourcePolicies _ => inferInstanceAs (Decidable True)
  | .setMaintenanceMode _ _ => inferInstanceAs (Decidable True)
  | .clearProjectMonitoringState => inferInstanceAs (Decidable True)
  | .updateProxies _ => inferInstanceAs (Decidable True)

instance (account : Account) (move : Move) :
    Decidable (account.Resumes move) :=
  match move with
  | .down _ => inferInstanceAs (Decidable (_ → _ ∧ _))
  | .stay => inferInstanceAs (Decidable True)
  | .leave => inferInstanceAs (Decidable True)
  | .exclude => inferInstanceAs (Decidable True)
  | .unread => inferInstanceAs (Decidable True)
  | .up => inferInstanceAs (Decidable True)

instance (options : Options) (stableID : Text) (w : Watched)
    (o : Occurrence) : Decidable (o.Resumes options stableID w) :=
  match o with
  | .status (.restoreOffline _ _) =>
      inferInstanceAs (Decidable (_ → _ → _))
  | .archive _ _ _ => inferInstanceAs (Decidable (Account.Resumes _ _))
  | .status (.store _ _ _ _) => inferInstanceAs (Decidable True)
  | .status (.diagnose _ _ _ _) => inferInstanceAs (Decidable True)
  | .status (.refresh _ _ _ _) => inferInstanceAs (Decidable True)
  | .status (.restoreProxyFailure _ _) => inferInstanceAs (Decidable True)
  | .setSourcePolicies _ => inferInstanceAs (Decidable True)
  | .setMaintenanceMode _ _ => inferInstanceAs (Decidable True)
  | .clearProjectMonitoringState => inferInstanceAs (Decidable True)
  | .updateProxies _ => inferInstanceAs (Decidable True)

namespace Sample

open ProxyChecker Checker.Sample

def recordedAt (n : Nat) : Occurrence :=
  .archive (.record true) (instant n) none

end Sample

end XrayChecker.NodeArchive

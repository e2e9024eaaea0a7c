import XrayChecker.Checker.Export
import XrayChecker.NodeArchive.Downtime
import XrayChecker.NodeArchive.OpenIncidents

/-
The archive keeps an account of every node: each of its operations is a move
of the account, whatever else it does.
-/

namespace XrayChecker.NodeArchive

open Go Checker Machine

namespace NodeRecord

theorem SameDowntime.downtime_eq {record other : NodeRecord}
    (h : SameDowntime record other) : record.downtime = other.downtime := by
  simp [downtime, h.firstSeenAt, h.totalDowntimeSec, h.longestDowntimeSec,
    h.currentDownSince, h.lastStatusAt]

variable (record : NodeRecord)

theorem downtime_closeDowntime (now : Time) :
    (record.closeDowntime now).downtime = record.downtime.close now := by
  by_cases hzero : record.currentDownSince = 0
  · simp [closeDowntime, downtime, Downtime.close, Downtime.credit, hzero,
      Time.isZero]
  · by_cases hearly : now < record.currentDownSince
    · simp [closeDowntime, downtime, Downtime.close, Downtime.credit, hzero,
        hearly, Time.isZero]
    · simp [closeDowntime, downtime, Downtime.close, Downtime.credit, hzero,
        hearly, Time.isZero]

theorem downtime_closeAccounting (now : Time) :
    (record.closeAccounting now).downtime = record.downtime.close now :=
  (closeProxyFailure_same _ now).downtime_eq.trans
    (record.downtime_closeDowntime now)

theorem downtime_applyProxy (proxy : ProxyConfig) (now : Time) :
    (record.applyProxy proxy now).downtime = record.downtime.see now := by
  by_cases hzero : record.firstSeenAt = 0
  · simp [applyProxy, downtime, Downtime.see, Time.isZero, hzero]
  · simp [applyProxy, downtime, Downtime.see, Time.isZero, hzero]

theorem downtime_retire (now : Time) :
    (record.retire now).downtime = record.downtime.close now :=
  (record.retire_same now).downtime_eq.trans
    (downtime_closeDowntime { record with active := false } now)

end NodeRecord

/-- The move a status makes. -/
def statusMove (details : ProxyStatusDetails) (now : Time) : Move :=
  if details.isOffline then .down (openedSince details now) else .up

/-- The move of a recording for a node the checker knows. -/
def recordMove (options : Options) (pc : ProxyChecker) (now : Time)
    (stableID : Text) (maintenance : Bool) : Move :=
  if maintenance || !pc.availabilityAccounted stableID then .exclude
  else
    match pc.getProxyStatusDetailsByStableID options stableID with
    | .error _ => .unread
    | .ok details => statusMove details now

/-- Closing does not look at the time of the last status. -/
theorem Downtime.close_withStatus (downtime : Downtime) (statusAt now : Time) :
    ({ downtime with lastStatusAt := statusAt } : Downtime).close now =
      { downtime.close now with lastStatusAt := statusAt } := by
  have hsame : ({ downtime with lastStatusAt := statusAt } : Downtime).credit
      now = downtime.credit now := rfl
  cases hcredit : downtime.credit now with
  | none => simp [close, hsame, hcredit]
  | some period => simp [close, hsame, hcredit]

section Moves

variable {options : Options} {pc : ProxyChecker} {now : Time}

theorem downtime_applyAvailability (record : NodeRecord)
    (details : ProxyStatusDetails) :
    (record.applyAvailability details now).downtime =
      record.downtime.step now (statusMove details now) ∧
    (record.applyAvailability details now).maintenance = record.maintenance ∧
    (record.applyAvailability details now).active = record.active := by
  cases hoffline : details.isOffline with
  | true =>
      have hsame := record.applyAvailability_offline hoffline now
      refine ⟨hsame.downtime_eq.trans ?_, hsame.maintenance, hsame.active⟩
      by_cases hzero : record.currentDownSince = 0
      · simp [statusMove, hoffline, Downtime.step, NodeRecord.downtime, hzero]
      · simp [statusMove, hoffline, Downtime.step, NodeRecord.downtime, hzero]
  | false =>
      have hsame := record.applyAvailability_up hoffline now
      refine ⟨?_, ?_, ?_⟩
      · rw [hsame.downtime_eq, NodeRecord.downtime_closeDowntime]
        simp only [statusMove, hoffline, Bool.false_eq_true, ↓reduceIte,
          Downtime.step]
        exact record.downtime.close_withStatus now now
      · rw [hsame.maintenance, NodeRecord.closeDowntime_eq]
      · rw [hsame.active, NodeRecord.closeDowntime_eq]

/-- What a recording makes of a node is the move it stands for. -/
theorem Observed.downtime {incidents after : List IncidentRecord}
    {proxy : ProxyConfig} {record written : NodeRecord}
    (h : Observed options pc now incidents proxy record written after) :
    written.downtime = record.downtime.step now
        (recordMove options pc now proxy.stableID record.maintenance) ∧
      written.maintenance = record.maintenance ∧
      written.active = record.active := by
  cases h with
  | unaccounted hclosed =>
      have hsame := NodeRecord.closeProxyFailure_same
        (record.closeDowntime now) now
      have hexclude : recordMove options pc now proxy.stableID
          record.maintenance = .exclude := by
        rcases hclosed with hpaused | hpolicy
        · simp [recordMove, hpaused]
        · simp [recordMove, hpolicy]
      refine ⟨?_, ?_, ?_⟩
      · rw [hexclude]
        exact record.downtime_closeAccounting now
      · rw [NodeRecord.closeAccounting, hsame.maintenance,
          NodeRecord.closeDowntime_eq]
      · rw [NodeRecord.closeAccounting, hsame.active,
          NodeRecord.closeDowntime_eq]
  | unread error hmonitored haccounted hdetails =>
      simp [recordMove, hmonitored, haccounted, hdetails, Downtime.step]
  | read details hmonitored haccounted hdetails =>
      have happlied := @downtime_applyAvailability now record details
      simpa [recordMove, hmonitored, haccounted, hdetails] using happlied

namespace Downtime

theorem see_see (downtime : Downtime) (hnow : now ≠ 0) :
    (downtime.see now).see now = downtime.see now := by
  by_cases hzero : downtime.firstSeenAt = 0
  · simp [see, hzero, hnow]
  · simp [see, hzero]

theorem close_close (downtime : Downtime) :
    (downtime.close now).close now = downtime.close now := by
  have hzero := @close_currentDownSince downtime now
  have hnone := @credit_of_zero _ now hzero
  conv_lhs => rw [close, hnone]
  rw [← hzero]

/-- A node listed twice is recorded as if it were listed once. -/
theorem step_twice (downtime : Downtime) (hnow : now ≠ 0)
    (stableID : Text) (maintenance : Bool) :
    let move := recordMove options pc now stableID maintenance
    (((downtime.see now).step now move).see now).step now move =
      (downtime.see now).step now move := by
  intro move
  have hseen : ∀ other : Downtime,
      other.firstSeenAt = (downtime.see now).firstSeenAt →
      other.see now = other := by
    intro other hother
    have hne : other.firstSeenAt ≠ 0 := by
      rw [hother]
      by_cases hzero : downtime.firstSeenAt = 0
      · simpa [see, hzero] using hnow
      · simp [see, hzero]
    simp [see, hne]
  cases hmove : move with
  | stay => simp [step, see_see _ hnow]
  | leave =>
      simp only [step]
      rw [hseen _ (by simp), close_close]
  | exclude =>
      simp only [step]
      rw [hseen _ (by simp), close_close]
  | unread => simp [step, see_see _ hnow]
  | up =>
      simp only [step]
      rw [hseen _ (by simp)]
      rw [close_withStatus, close_close]
  | down since =>
      rw [hseen ((downtime.see now).step now (.down since)) rfl]
      simp only [step]
      by_cases hzero : (downtime.see now).currentDownSince = 0
      · simp [hzero]
      · simp [hzero]

end Downtime

/-- Nodes of the checker, with their identities. -/
def idsOf (options : Options) (proxies : List ProxyConfig) : List Text :=
  (proxies.map (·.effectiveStableID options.digest)).filter (· ≠ [])

theorem mem_idsOf_append {stableID : Text} {done : List ProxyConfig}
    {proxy : ProxyConfig} :
    stableID ∈ idsOf options (done ++ [proxy]) ↔
      stableID ∈ idsOf options done ∨
        proxy.effectiveStableID options.digest = stableID ∧ stableID ≠ [] := by
  simp only [idsOf, List.map_append, List.filter_append, List.mem_append,
    List.map_cons, List.map_nil, List.mem_filter, List.mem_singleton,
    decide_eq_true_eq]
  constructor
  · rintro (hold | ⟨rfl, hne⟩)
    · exact Or.inl hold
    · exact Or.inr ⟨rfl, hne⟩
  · rintro (hold | ⟨rfl, hne⟩)
    · exact Or.inl hold
    · exact Or.inr ⟨rfl, hne⟩

/-- A node that was listed has the downtime; the record of any other is the
one from before. -/
def Touched (stableID : Text) (start : Store) (downtime : Downtime)
    (listed : List Text) (store : Store) : Prop :=
  if stableID ∈ listed then
    (store.recordOf stableID).downtime = downtime ∧
      (store.recordOf stableID).maintenance =
        (start.recordOf stableID).maintenance
  else store.nodes[stableID]? = start.nodes[stableID]?

/-- The downtime of a node the checker knows after a recording. -/
def recordedDowntime (options : Options) (pc : ProxyChecker) (now : Time)
    (stableID : Text) (record : NodeRecord) : Downtime :=
  (record.downtime.see now).step now
    (recordMove options pc now stableID record.maintenance)

/-- Listing a node that is not touched changes nothing. -/
theorem Touched.skip {stableID : Text} {start store next : Store}
    {downtime : Downtime} {done : List ProxyConfig} {proxy : ProxyConfig}
    (h : Touched stableID start downtime (idsOf options done) store)
    (hnodes : next.nodes[stableID]? = store.nodes[stableID]?)
    (hother : ¬(proxy.effectiveStableID options.digest = stableID ∧
      stableID ≠ [])) :
    Touched stableID start downtime (idsOf options (done ++ [proxy])) next := by
  have hids : stableID ∈ idsOf options (done ++ [proxy]) ↔
      stableID ∈ idsOf options done := by
    rw [mem_idsOf_append]
    exact or_iff_left hother
  simpa only [Touched, hids, Store.recordOf, hnodes] using h

/-- Listing a node: what is done to it once is done for good. -/
theorem Touched.list {stableID : Text} {start store next : Store}
    {downtime : Downtime} {done : List ProxyConfig} {proxy : ProxyConfig}
    {written : NodeRecord} {f : Downtime → Downtime}
    (h : Touched stableID start downtime (idsOf options done) store)
    (hid : proxy.effectiveStableID options.digest = stableID)
    (hnamed : stableID ≠ [])
    (hwritten : next.nodes[stableID]? = some written)
    (hdowntime : written.downtime = f (store.recordOf stableID).downtime)
    (hmaintenance : written.maintenance =
      (store.recordOf stableID).maintenance)
    (honce : f (start.recordOf stableID).downtime = downtime)
    (htwice : f downtime = downtime) :
    Touched stableID start downtime (idsOf options (done ++ [proxy])) next := by
  have hlisted : stableID ∈ idsOf options (done ++ [proxy]) :=
    mem_idsOf_append.mpr (Or.inr ⟨hid, hnamed⟩)
  rw [Touched, if_pos hlisted, Store.recordOf, hwritten, Option.getD_some,
    hdowntime, hmaintenance]
  by_cases hbefore : stableID ∈ idsOf options done
  · rw [Touched, if_pos hbefore] at h
    rw [h.1, h.2]
    exact ⟨htwice, rfl⟩
  · rw [Touched, if_neg hbefore] at h
    have hsame : store.recordOf stableID = start.recordOf stableID := by
      rw [Store.recordOf, h, Store.recordOf]
    rw [hsame]
    exact ⟨honce, rfl⟩

theorem syncProxy_nodes (synced : Store × Bool) {proxy : ProxyConfig}
    {stableID : Text} (hid : proxy.effectiveStableID options.digest = stableID)
    (hnamed : stableID ≠ []) (other : Text) :
    (Store.syncProxy options now synced proxy).1.nodes[other]? =
      if stableID = other then
        some { (synced.1.recordOf stableID).applyProxy
          { proxy with stableID := stableID } now with
            active := true, retiredAt := 0 }
      else synced.1.nodes[other]? := by
  simp only [Store.syncProxy, hid, if_neg hnamed]
  split
  · exact GoMap.get_insert _ _ _ _
  · rename_i hsame
    rw [ne_eq, not_not] at hsame
    split
    · rename_i hself
      rw [← hsame, ← hself]
      unfold Store.recordOf at hsame ⊢
      cases hentry : synced.1.nodes[stableID]? with
      | none =>
          rw [hentry] at hsame
          have hempty := (congrArg NodeRecord.stableID hsame).symm
          simp [NodeRecord.applyProxy, hnamed] at hempty
      | some entry => rfl
    · rfl

theorem touched_recordProxy {start : Store} (hnow : now ≠ 0)
    (recordHistory : Bool) {stableID : Text} {done : List ProxyConfig}
    {acc : Recording}
    (h : Touched stableID start
      (recordedDowntime options pc now stableID (start.recordOf stableID))
      (idsOf options done) acc.store) (proxy : ProxyConfig) :
    Touched stableID start
      (recordedDowntime options pc now stableID (start.recordOf stableID))
      (idsOf options (done ++ [proxy]))
      (recordProxy options pc recordHistory now acc proxy).store := by
  generalize hfilled : ({ proxy with
    stableID := proxy.effectiveStableID options.digest } : ProxyConfig) =
      filled
  have hid : proxy.effectiveStableID options.digest = filled.stableID := by
    rw [← hfilled]
  by_cases hnamed : filled.stableID = []
  · apply h.skip
    · simp [recordProxy, hid, hnamed]
    · rintro ⟨rfl, hne⟩
      exact hne (hid.trans hnamed)
  · obtain ⟨written, hobserved, hnodes⟩ :=
      @recordProxy_observed options pc now recordHistory acc proxy filled
        hfilled.symm hnamed
    obtain ⟨hdowntime, hmaintenance, -⟩ := hobserved.downtime
    by_cases hself : filled.stableID = stableID
    · subst hself
      have hkept : (acc.store.recordOf filled.stableID).maintenance =
          (start.recordOf filled.stableID).maintenance := by
        by_cases hbefore : filled.stableID ∈ idsOf options done
        · rw [Touched, if_pos hbefore] at h
          exact h.2
        · rw [Touched, if_neg hbefore] at h
          rw [Store.recordOf, h, Store.recordOf]
      have hmove : recordMove options pc now filled.stableID
          ((acc.store.recordOf filled.stableID).applyProxy filled
            now).maintenance =
          recordMove options pc now filled.stableID
            (start.recordOf filled.stableID).maintenance := by
        rw [← hkept]
        rfl
      rw [hmove, NodeRecord.downtime_applyProxy] at hdowntime
      refine h.list hid hnamed ((hnodes _).trans (if_pos rfl))
        (f := fun downtime => (downtime.see now).step now _) hdowntime
        hmaintenance rfl ?_
      exact Downtime.step_twice _ hnow _ _
    · apply h.skip
      · rw [hnodes, if_neg hself]
      · rintro ⟨rfl, -⟩
        exact hself hid.symm

/-- The loop of a recording over the checker's nodes, seen from one node. -/
theorem touched_recordLoop {store : Store} (hnow : now ≠ 0)
    (recordHistory : Bool) (stableID : Text) :
    Touched stableID store
      (recordedDowntime options pc now stableID (store.recordOf stableID))
      (trackedIDs options pc)
      (pc.proxies.foldl (recordProxy options pc recordHistory now)
        { store := store }).store := by
  apply foldl_invariant (fun done (acc : Recording) =>
    Touched stableID store
      (recordedDowntime options pc now stableID (store.recordOf stableID))
      (idsOf options done) acc.store) pc.proxies
  · simp [Touched, idsOf]
  · intro done proxy acc _ hacc
    exact touched_recordProxy hnow recordHistory hacc proxy

/-- The first loop of `SyncProxies`, seen from one node. -/
theorem touched_syncLoop {store : Store} (hnow : now ≠ 0)
    (proxies : List ProxyConfig) (stableID : Text) :
    Touched stableID store ((store.recordOf stableID).downtime.see now)
      (idsOf options proxies)
      (proxies.foldl (Store.syncProxy options now) (store, false)).1 := by
  apply foldl_invariant (fun done (acc : Store × Bool) =>
    Touched stableID store ((store.recordOf stableID).downtime.see now)
      (idsOf options done) acc.1) proxies
  · simp [Touched, idsOf]
  · intro done proxy acc _ hacc
    generalize hid : proxy.effectiveStableID options.digest = other
    by_cases hnamed : other = []
    · apply hacc.skip
      · simp [Store.syncProxy, hid, hnamed]
      · rintro ⟨rfl, hne⟩
        exact hne (hid.trans hnamed)
    · have hnodes := @syncProxy_nodes options now acc proxy other hid hnamed
      by_cases hself : other = stableID
      · subst hself
        refine hacc.list hid hnamed ((hnodes _).trans (if_pos rfl))
          (f := fun downtime => downtime.see now) ?_ rfl rfl
          (Downtime.see_see _ hnow)
        exact (acc.1.recordOf other).downtime_applyProxy
          { proxy with stableID := other } now
      · apply hacc.skip
        · rw [hnodes, if_neg hself]
        · rintro ⟨rfl, -⟩
          exact hself hid.symm

/-- The loops over the nodes that left, seen from one node. -/
theorem retired_node {leave : Store × Bool → Text × NodeRecord → Store × Bool}
    {active : List Text}
    (hleave : ∀ (s : Store × Bool) (entry : Text × NodeRecord) (other : Text),
      (leave s entry).1.nodes[other]? =
        if entry.1 = other ∧ entry.2.active = true ∧ other ∉ active then
          some (entry.2.retire now)
        else s.1.nodes[other]?)
    (s : Store × Bool) (stableID : Text) :
    (s.1.nodes.toList.foldl leave s).1.nodes[stableID]? =
      s.1.nodes[stableID]?.map fun record =>
        if record.active = true ∧ stableID ∉ active then record.retire now
        else record := by
  have hloop : (s.1.nodes.toList.foldl leave s).1.nodes[stableID]? =
      if stableID ∈ s.1.nodes.toList.map Prod.fst then
        s.1.nodes[stableID]?.map fun record =>
          if record.active = true ∧ stableID ∉ active then record.retire now
          else record
      else s.1.nodes[stableID]? := by
    apply foldl_invariant (fun done (acc : Store × Bool) =>
      acc.1.nodes[stableID]? =
        if stableID ∈ done.map Prod.fst then
          s.1.nodes[stableID]?.map fun record =>
            if record.active = true ∧ stableID ∉ active then record.retire now
            else record
        else s.1.nodes[stableID]?) s.1.nodes.toList
    · simp
    · rintro done ⟨other, record⟩ acc hentry hacc
      rw [Std.ExtTreeMap.mem_toList_iff_getElem?_eq_some] at hentry
      rw [hleave, List.map_append, hacc]
      by_cases hself : other = stableID
      · subst hself
        simp only [hentry, Option.map_some, List.map_cons, List.map_nil,
          List.mem_append, List.mem_singleton, or_true, ↓reduceIte, true_and]
        split
        · rfl
        · split <;> rfl
      · rw [if_neg fun hleft => hself hleft.1]
        simp only [List.map_cons, List.map_nil, List.mem_append,
          List.mem_singleton, Ne.symm hself, or_false]
  rw [hloop]
  split
  · rfl
  · rename_i habsent
    have hnone : s.1.nodes[stableID]? = none := by
      cases hentry : s.1.nodes[stableID]? with
      | none => rfl
      | some record =>
          refine absurd (List.mem_map.mpr ⟨(stableID, record), ?_, rfl⟩)
            habsent
          exact Std.ExtTreeMap.mem_toList_iff_getElem?_eq_some.mpr hentry
    rw [hnone]
    rfl

theorem retireMissing_node (active : List Text) (s : Store × Bool)
    (entry : Text × NodeRecord) (other : Text) :
    (retireMissing active now s entry).1.nodes[other]? =
      if entry.1 = other ∧ entry.2.active = true ∧ other ∉ active then
        some (entry.2.retire now)
      else s.1.nodes[other]? := by
  obtain ⟨stableID, record⟩ := entry
  simp only [retireMissing]
  split
  · rename_i hkept
    rw [if_neg]
    rintro ⟨rfl, hactive, hmissing⟩
    simp [hactive, hmissing] at hkept
  · rename_i hleft
    simp only [Bool.or_eq_true, Bool.not_eq_true', not_or, List.elem_eq_mem,
      decide_eq_true_eq, Bool.not_eq_false] at hleft
    have hchanged : record ≠ record.retire now := by
      intro hsame
      have hactive := congrArg NodeRecord.active hsame
      rw [(record.retire_same now).active, NodeRecord.closeDowntime_eq,
        hleft.1] at hactive
      cases hactive
    rw [if_pos hchanged]
    refine (GoMap.get_insert _ stableID other _).trans ?_
    by_cases hself : stableID = other
    · rw [if_pos hself, if_pos ⟨hself, hleft.1, hself ▸ hleft.2⟩]
    · rw [if_neg hself, if_neg fun hboth => hself hboth.1]

theorem syncMissing_node (active : List Text) (s : Store × Bool)
    (entry : Text × NodeRecord) (other : Text) :
    (Store.syncMissing active now s entry).1.nodes[other]? =
      if entry.1 = other ∧ entry.2.active = true ∧ other ∉ active then
        some (entry.2.retire now)
      else s.1.nodes[other]? := by
  have hsame : (Store.syncMissing active now s entry).1.nodes =
      (retireMissing active now s entry).1.nodes := by
    simp only [Store.syncMissing, retireMissing]
    split
    · rfl
    · split <;> rfl
  rw [hsame]
  exact retireMissing_node active s entry other

/-- A node that is in none of the lists is retired, if it is active. -/
def leaveMove (record : NodeRecord) : Move :=
  if record.active then .leave else .stay

theorem recordOf_map {store next : Store} {stableID : Text}
    {f : NodeRecord → NodeRecord} (hdefault : f {} = {})
    (h : next.nodes[stableID]? = store.nodes[stableID]?.map f) :
    next.recordOf stableID = f (store.recordOf stableID) := by
  rw [Store.recordOf, Store.recordOf, h]
  cases store.nodes[stableID]? with
  | none => exact hdefault.symm
  | some record => rfl

theorem downtime_leave (record : NodeRecord) :
    (if record.active = true then record.retire now else record).downtime =
        record.downtime.step now (leaveMove record) ∧
      (if record.active = true then record.retire now else record).maintenance =
        record.maintenance := by
  cases hactive : record.active with
  | true =>
      refine ⟨?_, ?_⟩
      · simpa [leaveMove, hactive, Downtime.step] using
          record.downtime_retire now
      · simp only [↓reduceIte, (record.retire_same now).maintenance,
          NodeRecord.closeDowntime_eq]
  | false => simp [leaveMove, hactive, Downtime.step]

/-- A loop over listed nodes and one over the nodes that left, seen from one
node. -/
theorem Touched.retire
    {leave : Store × Bool → Text × NodeRecord → Store × Bool}
    {active : List Text} {start : Store} {acc : Store × Bool} {stableID : Text}
    {downtime : Downtime}
    (h : Touched stableID start downtime active acc.1)
    (hleave : ∀ (s : Store × Bool) (entry : Text × NodeRecord) (other : Text),
      (leave s entry).1.nodes[other]? =
        if entry.1 = other ∧ entry.2.active = true ∧ other ∉ active then
          some (entry.2.retire now)
        else s.1.nodes[other]?) :
    let next := (acc.1.nodes.toList.foldl leave acc).1
    let before := start.recordOf stableID
    (next.recordOf stableID).downtime =
        (if stableID ∈ active then downtime
        else before.downtime.step now (leaveMove before)) ∧
      (next.recordOf stableID).maintenance = before.maintenance := by
  intro next before
  have hrecord := @recordOf_map acc.1 next stableID _ (by simp)
    (retired_node hleave acc stableID)
  by_cases hlisted : stableID ∈ active
  · rw [Touched, if_pos hlisted] at h
    rw [hrecord, if_neg fun hleft => hleft.2 hlisted, if_pos hlisted]
    exact h
  · rw [Touched, if_neg hlisted] at h
    have hsame : acc.1.recordOf stableID = before := by
      rw [Store.recordOf, h]
      rfl
    rw [hrecord, hsame, if_neg hlisted]
    simp only [hlisted, not_false_eq_true, and_true]
    exact downtime_leave before

/-- A recording, seen from one node. -/
theorem recorded_node {store : Store} (hnow : now ≠ 0) (recordHistory : Bool)
    (stableID : Text) :
    let next := (store.recorded options pc recordHistory now).1
    let before := store.recordOf stableID
    (next.recordOf stableID).downtime =
        (if stableID ∈ trackedIDs options pc then
          recordedDowntime options pc now stableID before
        else before.downtime.step now (leaveMove before)) ∧
      (next.recordOf stableID).maintenance = before.maintenance := by
  have hloop := @touched_recordLoop options pc now store hnow recordHistory
    stableID
  generalize hacc : pc.proxies.foldl
    (recordProxy options pc recordHistory now) { store := store } = acc at hloop
  have hfinish : Touched stableID store
      (recordedDowntime options pc now stableID (store.recordOf stableID))
      (trackedIDs options pc) (acc.finish now).1 := hloop
  simp only [Store.recorded, hacc]
  exact hfinish.retire (retireMissing_node (trackedIDs options pc))

/-- `SyncProxies`, seen from one node. -/
theorem syncProxies_node {store : Store} (hnow : now ≠ 0)
    (proxies : List ProxyConfig) (saveError : Option Text) (stableID : Text) :
    let next := (store.syncProxies options proxies now saveError).1
    let before := store.recordOf stableID
    (next.recordOf stableID).downtime =
        (if stableID ∈ idsOf options proxies then before.downtime.see now
        else before.downtime.step now (leaveMove before)) ∧
      (next.recordOf stableID).maintenance = before.maintenance := by
  have hloop := @touched_syncLoop options now store hnow proxies stableID
  have hsynced := hloop.retire
    (@syncMissing_node now (idsOf options proxies))
  simp only [Store.syncProxies]
  split
  · exact hsynced
  · cases saveError with
    | none => exact hsynced
    | some error => exact hsynced

/-- The calls that concern the accounting of downtime. -/
inductive ArchiveCall where
  | record (recordHistory : Bool)
  | syncProxies (proxies : List ProxyConfig)
  | setMaintenance (stableID : Text) (enabled : Bool)
  | pauseProjectMonitoring

namespace ArchiveCall

def call (pc : ProxyChecker) (now : Time) : ArchiveCall → Call
  | .record recordHistory => .recordAvailability pc recordHistory now
  | .syncProxies proxies => .syncProxies proxies now
  | .setMaintenance stableID enabled => .setMaintenance stableID enabled now
  | .pauseProjectMonitoring => .pauseProjectMonitoring now

/-- The nodes a call lists. -/
def listed (options : Options) (pc : ProxyChecker) : ArchiveCall → List Text
  | .record _ => trackedIDs options pc
  | .syncProxies proxies => idsOf options proxies
  | _ => []

/-- The call switches the maintenance of the node. -/
def Switches (record : NodeRecord) (stableID : Text)
    (saveError : Option Text) : ArchiveCall → Prop
  | .setMaintenance other enabled =>
      trimSpace other = stableID ∧ stableID ≠ [] ∧ record.active = true ∧
        record.maintenance ≠ enabled ∧ saveError = none
  | _ => False

instance (record : NodeRecord) (stableID : Text) (saveError : Option Text)
    (call : ArchiveCall) :
    Decidable (call.Switches record stableID saveError) :=
  match call with
  | .setMaintenance _ _ =>
      inferInstanceAs (Decidable (_ ∧ _ ∧ _ ∧ _ ∧ _))
  | .record _ => inferInstanceAs (Decidable False)
  | .syncProxies _ => inferInstanceAs (Decidable False)
  | .pauseProjectMonitoring => inferInstanceAs (Decidable False)

/-- The move a call makes for a node with the given record. -/
def move (options : Options) (pc : ProxyChecker) (now : Time) (stableID : Text)
    (record : NodeRecord) (saveError : Option Text) (call : ArchiveCall) :
    Move :=
  match call with
  | .record _ =>
      if stableID ∈ trackedIDs options pc then
        recordMove options pc now stableID record.maintenance
      else leaveMove record
  | .syncProxies proxies =>
      if stableID ∈ idsOf options proxies then .stay else leaveMove record
  | .setMaintenance _ _ =>
      if call.Switches record stableID saveError then .exclude else .stay
  | .pauseProjectMonitoring =>
      if saveError = none then leaveMove record else .stay

end ArchiveCall

/-- What `SetMaintenance` makes of the record it switches. -/
def switchedRecord (enabled : Bool) (now : Time) (record : NodeRecord) :
    NodeRecord :=
  if enabled then
    { record with
      maintenance := true, maintenanceSince := now }.closeAccounting now
  else { record with maintenance := false, maintenanceSince := 0 }

theorem setMaintenance_record {store : Store} {other stableID : Text}
    {enabled : Bool} {saveError : Option Text} {before : NodeRecord}
    (hbefore : store.recordOf stableID = before) :
    (store.setMaintenance other enabled now saveError).1.recordOf stableID =
      if (ArchiveCall.setMaintenance other enabled).Switches before stableID
          saveError then
        switchedRecord enabled now before
      else before := by
  have hrefused : ¬(ArchiveCall.setMaintenance other enabled).Switches before
      stableID saveError →
      store.recordOf stableID =
        if (ArchiveCall.setMaintenance other enabled).Switches before stableID
            saveError then
          switchedRecord enabled now before
        else before := fun hnot => hbefore.trans (if_neg hnot).symm
  simp only [Store.setMaintenance]
  split
  · rename_i hempty
    apply hrefused
    rintro ⟨rfl, hne, -⟩
    exact hne hempty
  · rename_i hnamed
    split
    · rename_i hnone
      apply hrefused
      rintro ⟨rfl, -, hactive, -⟩
      rw [Store.recordOf, hnone] at hbefore
      rw [← hbefore] at hactive
      cases hactive
    · rename_i record hrecord
      have hfound : trimSpace other = stableID → before = record := by
        rintro rfl
        rw [← hbefore, Store.recordOf, hrecord, Option.getD_some]
      split
      · rename_i hinactive
        apply hrefused
        rintro ⟨hsame, -, hactive, -⟩
        rw [hfound hsame] at hactive
        simp [hactive] at hinactive
      · rename_i hactive
        split
        · rename_i hset
          apply hrefused
          rintro ⟨hsame, -, -, hswitched, -⟩
          exact hswitched (hfound hsame ▸ hset)
        · rename_i hswitched
          cases saveError with
          | some error =>
              have hback := nodes_written_back hrecord
              simp only [Store.save, Store.recordOf, hback]
              exact hrefused fun hswitches => by cases hswitches.2.2.2.2
          | none =>
              simp only [Store.save, Store.recordOf]
              rw [GoMap.get_insert]
              by_cases hself : trimSpace other = stableID
              · have hswitches : (ArchiveCall.setMaintenance other
                    enabled).Switches before stableID none := by
                  rw [hfound hself]
                  exact ⟨hself, hself ▸ hnamed, by simpa using hactive,
                    hswitched, rfl⟩
                rw [if_pos hself, Option.getD_some, if_pos hswitches,
                  hfound hself]
                cases enabled <;> rfl
              · rw [if_neg hself]
                exact hrefused fun hswitches => hself hswitches.1

/-- `SetMaintenance`, seen from one node. -/
theorem setMaintenance_node {store : Store} {before : NodeRecord}
    {stableID : Text} (hbefore : store.recordOf stableID = before)
    (hpaused : before.maintenance = true → before.currentDownSince = 0)
    (other : Text) (enabled : Bool) (saveError : Option Text) :
    ((store.setMaintenance other enabled now saveError).1.recordOf
        stableID).downtime =
        before.downtime.step now
          ((ArchiveCall.setMaintenance other enabled).move options pc now
            stableID before saveError) ∧
      (((store.setMaintenance other enabled now saveError).1.recordOf
          stableID).maintenance = true →
        ((store.setMaintenance other enabled now saveError).1.recordOf
          stableID).currentDownSince = 0) := by
  rw [setMaintenance_record hbefore]
  simp only [ArchiveCall.move]
  split
  · rename_i hswitches
    cases enabled with
    | true =>
        have hclosed := NodeRecord.downtime_closeAccounting
          { before with maintenance := true, maintenanceSince := now } now
        refine ⟨hclosed, fun _ => ?_⟩
        have hzero := congrArg Downtime.currentDownSince hclosed
        exact hzero.trans Downtime.close_currentDownSince
    | false =>
        have hdown : before.currentDownSince = 0 :=
          hpaused (by simpa using hswitches.2.2.2.1)
        refine ⟨?_, fun hmaintenance => by cases hmaintenance⟩
        have hnone : before.downtime.credit now = none :=
          Downtime.credit_of_zero hdown
        simp only [Downtime.step, Downtime.close, hnone]
        change before.downtime = { before.downtime with currentDownSince := 0 }
        rw [← hdown]
        rfl
  · exact ⟨rfl, hpaused⟩

/-- `PauseProjectMonitoring`, seen from one node. -/
theorem pause_node {store : Store} {before : NodeRecord} {stableID : Text}
    (hbefore : store.recordOf stableID = before) (saveError : Option Text) :
    ((store.pauseProjectMonitoring now saveError).1.recordOf
        stableID).downtime =
        before.downtime.step now
          (ArchiveCall.pauseProjectMonitoring.move options pc now stableID
            before saveError) ∧
      ((store.pauseProjectMonitoring now saveError).1.recordOf
        stableID).maintenance = before.maintenance := by
  have hmapped : ∀ next : Store,
      next.nodes = store.nodes.map (fun _ record =>
        if record.active then record.closeAccounting now else record) →
      next.recordOf stableID =
        if before.active then before.closeAccounting now else before := by
    intro next hnodes
    rw [← hbefore]
    exact @recordOf_map store next stableID
      (fun record =>
        if record.active then record.closeAccounting now else record)
      (by simp) (by rw [hnodes, Std.ExtTreeMap.getElem?_map])
  have hpaused : ∀ next : Store,
      next.nodes = store.nodes.map (fun _ record =>
        if record.active then record.closeAccounting now else record) →
      (next.recordOf stableID).downtime =
          before.downtime.step now (leaveMove before) ∧
        (next.recordOf stableID).maintenance = before.maintenance := by
    intro next hnodes
    rw [hmapped next hnodes]
    cases hactive : before.active with
    | true =>
        refine ⟨?_, ?_⟩
        · simpa [leaveMove, hactive, Downtime.step] using
            before.downtime_closeAccounting now
        · simp only [↓reduceIte, NodeRecord.closeAccounting,
            (NodeRecord.closeProxyFailure_same _ now).maintenance,
            NodeRecord.closeDowntime_eq]
    | false => simp [leaveMove, hactive, Downtime.step]
  simp only [Store.pauseProjectMonitoring, ArchiveCall.move]
  split
  · rename_i hunchanged
    cases saveError with
    | none => exact hpaused _ rfl
    | some error =>
        have hsame : before = if before.active then
            before.closeAccounting now else before := by
          cases hentry : store.nodes[stableID]? with
          | none =>
              rw [Store.recordOf, hentry] at hbefore
              rw [← hbefore]
              rfl
          | some record =>
              rw [Store.recordOf, hentry, Option.getD_some] at hbefore
              subst hbefore
              simp only [Bool.not_eq_true', Bool.or_eq_false_iff,
                List.any_eq_false] at hunchanged
              have hkept := hunchanged.1 (stableID, record)
                (Std.ExtTreeMap.mem_toList_iff_getElem?_eq_some.mpr hentry)
              simpa using hkept
        rw [hmapped _ rfl, ← hsame]
        exact ⟨rfl, rfl⟩
  · cases saveError with
    | none => exact hpaused _ rfl
    | some error =>
        change (store.recordOf stableID).downtime = _ ∧
          (store.recordOf stableID).maintenance = _
        rw [hbefore]
        exact ⟨rfl, rfl⟩

/-- Every call makes the move it stands for: the downtime of a node changes
exactly as the account says. -/
theorem call_node {store : Store} {before : NodeRecord} {stableID : Text}
    (hbefore : store.recordOf stableID = before) (hnow : now ≠ 0)
    (hpaused : before.maintenance = true → before.currentDownSince = 0)
    (call : ArchiveCall) (saveError : Option Text) :
    ((step options store ⟨call.call pc now, saveError⟩).recordOf
        stableID).downtime =
        (if stableID ∈ call.listed options pc then before.downtime.see now
        else before.downtime).step now
          (call.move options pc now stableID before saveError) ∧
      (((step options store ⟨call.call pc now, saveError⟩).recordOf
          stableID).maintenance = true →
        ((step options store ⟨call.call pc now, saveError⟩).recordOf
          stableID).currentDownSince = 0) := by
  have hcloses : ∀ (downtime : Downtime) (record : NodeRecord),
      downtime.currentDownSince = before.currentDownSince →
      before.currentDownSince = 0 →
      (downtime.step now (leaveMove record)).currentDownSince = 0 := by
    intro downtime record hsame hzero
    unfold leaveMove
    split
    · exact Downtime.close_currentDownSince
    · exact hsame.trans hzero
  cases call with
  | record recordHistory =>
      have hnode := @recorded_node options pc now store hnow recordHistory
        stableID
      rw [hbefore] at hnode
      have hsaved : step options store
          ⟨(ArchiveCall.record recordHistory).call pc now, saveError⟩ =
            (store.recorded options pc recordHistory now).1 := by
        simp only [step, Store.perform, ArchiveCall.call,
          Store.recordAvailability]
        split
        · rfl
        · cases saveError <;> rfl
      rw [hsaved]
      simp only [ArchiveCall.listed, ArchiveCall.move]
      obtain ⟨hdowntime, hmaintenance⟩ := hnode
      constructor
      · rw [hdowntime]
        by_cases hlisted : stableID ∈ trackedIDs options pc
        · simp only [hlisted, ↓reduceIte]
          rfl
        · simp only [hlisted, ↓reduceIte]
      · intro hset
        rw [hmaintenance] at hset
        change (NodeRecord.downtime _).currentDownSince = 0
        rw [hdowntime]
        split
        · simp only [recordedDowntime, recordMove, hset, Bool.true_or,
            ↓reduceIte]
          exact Downtime.close_currentDownSince
        · exact hcloses _ _ rfl (hpaused hset)
  | syncProxies proxies =>
      obtain ⟨hdowntime, hmaintenance⟩ := @syncProxies_node options now store
        hnow proxies saveError stableID
      rw [hbefore] at hdowntime hmaintenance
      simp only [ArchiveCall.listed, ArchiveCall.move]
      constructor
      · refine hdowntime.trans ?_
        by_cases hlisted : stableID ∈ idsOf options proxies
        · simp only [hlisted, ↓reduceIte]
          rfl
        · simp only [hlisted, ↓reduceIte]
      · intro hset
        have hzero := hpaused (hmaintenance.symm.trans hset)
        refine (congrArg Downtime.currentDownSince hdowntime).trans ?_
        split
        · exact hzero
        · exact hcloses _ _ rfl hzero
  | setMaintenance other enabled =>
      have hnode := @setMaintenance_node options pc now store before stableID
        hbefore hpaused other enabled saveError
      simp only [ArchiveCall.listed, List.not_mem_nil, ↓reduceIte]
      exact hnode
  | pauseProjectMonitoring =>
      obtain ⟨hdowntime, hmaintenance⟩ := @pause_node options pc now store
        before stableID hbefore saveError
      simp only [ArchiveCall.listed, List.not_mem_nil, ↓reduceIte]
      refine ⟨hdowntime, fun hset => ?_⟩
      have hzero := hpaused (hmaintenance.symm.trans hset)
      refine (congrArg Downtime.currentDownSince hdowntime).trans ?_
      simp only [ArchiveCall.move]
      split
      · exact hcloses _ _ rfl hzero
      · exact hzero

end Moves

end XrayChecker.NodeArchive

import XrayChecker.Speedtest.Histories

/-
The manager over its runs: speed tests, agent probes, deletions, changes of
the retention, writes of the result file and restarts, in any order, under a
clock that does not go back.
-/

namespace XrayChecker.Speedtest

open Go Machine Manager

/-- The test that is running. -/
structure Running where
  startedAt : Time
  selected : List Text
  /-- The selected nodes whose measurement was recorded. -/
  recorded : List Text := []

structure World where
  manager : Manager := {}
  file : Option ResultStateFile := none
  running : Option Running := none
  clock : Time := 0

inductive Event where
  | begin (selected : List Text) (now : Time)
  | measured (result : Result) (now : Time)
  | finish
  | probe (stableID : Text) (checkedAt : Time) (probe : AgentDiagnostic)
  | delete (stableID : Text) (written : Except Text Unit)
  | retention (historyRetentionDays : Int) (now : Time)
  | persist (now : Time)
  | restart (active : GoMap Text ProxyConfig) (historyRetentionDays : Int)
      (now : Time)

namespace World

/-- Each locked section and each write of the file is a step of its own, so a
run may interleave them in any way. -/
def step (w : World) : Event → World
  | .begin selected now =>
      { w with
        running := some { startedAt := now, selected := selected }
        clock := now }
  | .measured result now =>
      { w with
        manager := w.manager.recordResult result now
        running := w.running.map fun running =>
          { running with recorded := result.stableID :: running.recorded }
        clock := now }
  | .finish => { w with running := none }
  | .probe stableID checkedAt probe =>
      { w with
        manager := (w.manager.recordAgentProbe stableID checkedAt probe).1 }
  | .delete stableID written =>
      { w with manager := (w.manager.deleteHistory stableID [] written).1 }
  | .retention historyRetentionDays now =>
      { w with
        manager :=
          { (w.manager.pruneHistory historyRetentionDays now).1 with
            historyRetentionDays := historyRetentionDays }
        clock := now }
  | .persist now =>
      { w with
        file := saveResults (w.manager.resultState now)
        clock := now }
  | .restart active historyRetentionDays now =>
      { w with
        manager := loadResults { historyRetentionDays := historyRetentionDays }
          active now w.file
        running := none
        clock := now }

/-- One test runs at a time; it selects each node once, each selected node is
measured once and after the test began; the clock does not go back. -/
def Allowed (w : World) : Event → Prop
  | .begin selected now =>
      w.running = none ∧ w.clock ≤ now ∧ selected.Nodup ∧
        ∀ id ∈ selected, trimSpace id = id ∧ id ≠ []
  | .measured result now =>
      w.clock ≤ now ∧ result.checkedAt ≤ now ∧
        ∃ running, w.running = some running ∧
          running.startedAt < result.checkedAt ∧
          result.stableID ∈ running.selected ∧
          result.stableID ∉ running.recorded
  | .retention _ now | .persist now | .restart _ _ now => w.clock ≤ now
  | .finish | .probe _ _ _ | .delete _ _ => True

end World

/-- A measurement after a probe was attached to those of a time. -/
def attachedAt (checkedAt : Time) (probe : AgentDiagnostic)
    (result : Result) : Result :=
  if result.checkedAt = checkedAt then attached probe result else result

theorem attachLatest_or (checkedAt : Time) (probe : AgentDiagnostic)
    (latest : Option Result) :
    (latest.bind (attachLatest checkedAt probe)).or latest =
      latest.map (attachedAt checkedAt probe) := by
  cases latest with
  | none => rfl
  | some result =>
      by_cases htime : result.checkedAt = checkedAt
      · simp [attachLatest, attachedAt, htime]
      · simp [attachLatest, attachedAt, htime]

/-- Where no two entries are of one time, the first match is the only one. -/
theorem attachFirst_or (checkedAt : Time) (probe : AgentDiagnostic)
    {entries : List Result} (h : entries.Pairwise
      fun newer older => older.checkedAt < newer.checkedAt) :
    (attachFirst checkedAt probe entries).getD entries =
      entries.map (attachedAt checkedAt probe) := by
  induction entries with
  | nil => rfl
  | cons entry rest ih =>
      rw [List.pairwise_cons] at h
      by_cases htime : entry.checkedAt = checkedAt
      · have hrest : rest.map (attachedAt checkedAt probe) = rest := by
          conv_rhs => rw [← List.map_id rest]
          apply List.map_congr_left
          intro older holder
          exact if_neg (ne_of_lt (htime ▸ h.1 older holder))
        rw [attachFirst, if_pos htime, Option.getD_some, List.map_cons, hrest,
          attachedAt, if_pos htime]
      · have := ih h.2
        cases hfirst : attachFirst checkedAt probe rest with
        | none =>
            rw [hfirst] at this
            simpa [attachFirst, htime, hfirst, attachedAt] using this
        | some attached =>
            rw [hfirst] at this
            simpa [attachFirst, htime, hfirst, attachedAt] using this

section

variable {stableID : Text} {bound : Time} {records : NodeRecords}

/-- `RecordAgentProbe` touches what was measured at the time, and nothing
else. -/
theorem Tidy.probed (h : Tidy stableID bound records) (checkedAt : Time)
    (probe : AgentDiagnostic) :
    records.probed checkedAt probe =
      ⟨records.latest.map (attachedAt checkedAt probe),
        records.history.map (List.map (attachedAt checkedAt probe))⟩ := by
  rw [NodeRecords.probed, attachLatest_or, NodeRecords.mk.injEq]
  refine ⟨rfl, ?_⟩
  have hsorted := h.newestFirst
  cases hhistory : records.history with
  | none => rfl
  | some entries =>
      rw [hhistory, Option.getD_some] at hsorted
      have := attachFirst_or checkedAt probe hsorted
      cases hfirst : attachFirst checkedAt probe entries with
      | none =>
          rw [hfirst] at this
          simpa [hfirst] using this
      | some attached =>
          rw [hfirst] at this
          simpa [hfirst] using this

theorem derived_attachedAt (checkedAt : Time) (probe : AgentDiagnostic) :
    Derived stableID
      ⟨records.latest.map (attachedAt checkedAt probe),
        records.history.map (List.map (attachedAt checkedAt probe))⟩
      records (attachedAt checkedAt probe) fun _ => true where
  own result hid := by
    rw [attachedAt]
    split
    · exact hid
    · exact hid
  checkedAt result := by
    rw [attachedAt]
    split
    · rfl
    · rfl
  newer _ _ _ _ := rfl
  latest := rfl
  history := by cases records.history <;> simp
  stored := by cases records.history <;> simp

/-- A newer entry is retained where an older one is. -/
theorem retained_newer {cutoff : Int} {older newer : Result}
    (hnewer : older.checkedAt < newer.checkedAt)
    (hkept : retained cutoff older = true) :
    retained cutoff newer = true := by
  simp only [retained, Bool.and_eq_true, Bool.not_eq_true', Time.isZero,
    beq_eq_false_iff_ne, decide_eq_true_eq] at hkept ⊢
  have : (older.checkedAt : Int) < newer.checkedAt := by exact_mod_cast hnewer
  exact ⟨Nat.ne_of_gt (Nat.zero_lt_of_lt hnewer), by omega⟩

/-- What `pruneHistoryLocked` leaves of a node. -/
def Manager.NodeRecords.pruned (records : NodeRecords) (days : Int)
    (now : Time) :
    NodeRecords :=
  ⟨records.latest, records.history.bind (prunedEntry days now)⟩

theorem derived_pruned (days : Int) (now : Time) :
    Derived stableID (records.pruned days now) records id
      (retained (historyCutoff days now)) where
  own _ hid := hid
  checkedAt _ := rfl
  newer _ _ := retained_newer
  latest := by simp [NodeRecords.pruned]
  history := by
    rw [List.map_id, NodeRecords.pruned]
    cases records.history with
    | none => rfl
    | some entries =>
        rw [Option.bind_some, Option.getD_some, prunedEntry,
          retainResultHistory]
        by_cases hlength : (entries.filter
            (retained (historyCutoff days now))).length = entries.length
        · rw [if_pos hlength]
          exact (List.filter_sublist.eq_of_length hlength).symm
        · rw [if_neg hlength]
          by_cases hempty :
              entries.filter (retained (historyCutoff days now)) = []
          · rw [if_pos hempty, hempty]
            rfl
          · rw [if_neg hempty]
            rfl
  stored := by
    rw [NodeRecords.pruned]
    cases records.history <;> simp

/-- What `resultStateLocked` writes of a node. -/
def Manager.NodeRecords.written (records : NodeRecords) (days : Int)
    (now : Time) :
    NodeRecords where
  latest := records.latest.map Result.persisted
  history := records.history.bind fun entries =>
    let kept := retainResultHistory entries (historyCutoff days now)
    if kept = [] then none else some (kept.map Result.persisted)

theorem derived_written (days : Int) (now : Time) :
    Derived stableID (records.written days now) records Result.persisted
      (retained (historyCutoff days now)) where
  own _ hid := hid
  checkedAt _ := rfl
  newer _ _ := retained_newer
  latest := rfl
  history := by
    rw [NodeRecords.written]
    cases records.history with
    | none => rfl
    | some entries =>
        rw [Option.bind_some, Option.getD_some]
        by_cases hempty :
            entries.filter (retained (historyCutoff days now)) = []
        · simp [retainResultHistory, hempty]
        · simp [retainResultHistory, hempty]
  stored := by
    rw [NodeRecords.written]
    cases records.history <;> simp

end

theorem node_pruneHistory (m : Manager) (days : Int) (now : Time)
    (stableID : Text) :
    (m.pruneHistory days now).1.node stableID =
      (m.node stableID).pruned days now := by
  simp [pruneHistory, node, NodeRecords.pruned]

theorem node_resultState (m : Manager) (now : Time) (stableID : Text) :
    (m.resultState now).node stableID =
      (m.node stableID).written m.historyRetentionDays now := by
  simp [resultState, ResultStateFile.node, node, NodeRecords.written]

/-- A deletion beside which nothing is recorded. -/
theorem node_deleteHistory (m : Manager) (stableID : Text)
    (written : Except Text Unit) (other : Text) :
    (m.deleteHistory stableID [] written).1.node other = m.node other ∨
      (m.deleteHistory stableID [] written).1.node other = ⟨none, none⟩ := by
  by_cases hblank : trimSpace stableID = []
  · left
    simp [deleteHistory, hblank]
  · cases written with
    | ok =>
        simp only [deleteHistory, hblank, ↓reduceIte, run_nil,
          node_removeHistory]
        split
        · exact Or.inr rfl
        · exact Or.inl rfl
    | error text =>
        left
        simp only [deleteHistory, hblank, ↓reduceIte, run_nil,
          node_restoreHistory, node_removeHistory]
        by_cases hid : trimSpace stableID = other
        · simp [hid, NodeRecords.restored]
        · simp [hid]

/-- A node without a history, given its latest result as one. -/
theorem Tidy.filled {stableID : Text} {bound : Time} {records : NodeRecords}
    (h : Tidy stableID bound records) {latest : Result}
    (hlatest : records.latest = some latest) :
    Tidy stableID bound ⟨some latest, some [latest]⟩ where
  own entry hentry := by
    rw [Option.getD_some, List.mem_singleton] at hentry
    rw [hentry]
    exact (h.ownLatest latest hlatest).1
  ownLatest := by
    rintro _ ⟨rfl⟩
    exact h.ownLatest latest hlatest
  newestFirst := List.pairwise_singleton _ _
  newest := by
    rintro head rest ⟨rfl, rfl⟩
    rfl
  known _ := by
    apply h.known
    rintro rfl
    cases hlatest

theorem derived_reloaded (active : GoMap Text ProxyConfig) (days : Int)
    (now : Time) (stableID : Text) (records : NodeRecords)
    {entries : List Result} (hentries : records.history = some entries)
    (hne : entries ≠ []) :
    Derived stableID (reloaded active days now stableID records) records
      (reloadedResult active stableID)
      (retained (historyCutoff days now)) where
  own result _ := by
    rw [reloadedResult]
    cases active[stableID]? <;> rfl
  checkedAt _ := checkedAt_normalizeResult _ _ _
  newer _ _ := retained_newer
  latest := rfl
  history := by
    simp only [reloaded, hentries, Option.getD_some, hne, ↓reduceIte,
      retainResultHistory]
    by_cases hempty :
        entries.filter (retained (historyCutoff days now)) = []
    · simp [hempty]
    · simp [hempty]
  stored _ := by simp [hentries]

/-- What comes out of the file is tidy again. -/
theorem Tidy.reloaded {stableID : Text} {bound : Time} {records : NodeRecords}
    (h : Tidy stableID bound records) (active : GoMap Text ProxyConfig)
    (days : Int) (now : Time) :
    Tidy stableID bound (reloaded active days now stableID records) := by
  cases hlatest : records.latest with
  | none =>
      have hempty : records.history.getD [] = [] := by
        cases hhistory : records.history.getD [] with
        | nil => rfl
        | cons head rest =>
            have := h.newest head rest hhistory
            rw [hlatest] at this
            cases this
      have hnone : Speedtest.reloaded active days now stableID records =
          ⟨none, none⟩ := by
        simp [Speedtest.reloaded, hlatest, hempty, retainResultHistory]
      rw [hnone]
      exact Tidy.nothing stableID bound
  | some latest =>
      cases hhistory : records.history.getD [] with
      | nil =>
          have hsame : Speedtest.reloaded active days now stableID records =
              Speedtest.reloaded active days now stableID
                ⟨some latest, some [latest]⟩ := by
            simp [Speedtest.reloaded, hlatest, hhistory]
          rw [hsame]
          exact (derived_reloaded active days now stableID _ rfl
            (List.cons_ne_nil _ _)).tidy (h.filled hlatest)
      | cons head rest =>
          have hentries : records.history = some (head :: rest) := by
            cases hsome : records.history with
            | none => rw [hsome] at hhistory; cases hhistory
            | some entries =>
                rw [hsome] at hhistory
                exact congrArg some hhistory
          exact (derived_reloaded active days now stableID _ hentries
            (List.cons_ne_nil _ _)).tidy h

namespace World

/-- What holds at every point of a run. -/
structure Sound (w : World) : Prop where
  memory : ∀ id, Tidy id w.clock (w.manager.node id)
  file : ∀ state, w.file = some state → ∀ id, Tidy id w.clock (state.node id)
  running : ∀ running, w.running = some running →
    running.startedAt ≤ w.clock ∧ running.recorded.Nodup ∧
      (∀ id ∈ running.recorded, id ∈ running.selected) ∧
      ∀ id ∈ running.selected, trimSpace id = id ∧ id ≠ []
  fresh : ∀ running, w.running = some running → ∀ id,
    id ∉ running.recorded → Tidy id running.startedAt (w.manager.node id)
  once : ∀ running, w.running = some running → ∀ id,
    Once running.startedAt (w.manager.node id)

theorem Sound.start : Sound {} where
  memory _ := Tidy.nothing _ _
  file _ hfile := nomatch hfile
  running _ hrunning := nomatch hrunning
  fresh _ hrunning := nomatch hrunning
  once _ hrunning := nomatch hrunning

/-- What is stored for each node is gone or comes from what was stored. -/
def Reworked (m m' : Manager) : Prop :=
  ∀ id, m'.node id = ⟨none, none⟩ ∨ ∃ rewrite keep,
    Derived id (m'.node id) (m.node id) rewrite keep

theorem Reworked.refl (m : Manager) : Reworked m m := by
  intro id
  refine Or.inr ⟨fun result => result, fun _ => true, ?_⟩
  constructor
  · intro result hid
    exact hid
  · intro result
    rfl
  · intro older newer _ _
    rfl
  · simp
  · simp
  · exact fun h => h

theorem Reworked.tidy {m m' : Manager} (h : Reworked m m') {id : Text}
    {bound : Time} (htidy : Tidy id bound (m.node id)) :
    Tidy id bound (m'.node id) := by
  rcases h id with hnone | ⟨rewrite, keep, hderived⟩
  · rw [hnone]
    exact Tidy.nothing _ _
  · exact hderived.tidy htidy

theorem Reworked.once {m m' : Manager} (h : Reworked m m') {id : Text}
    {startedAt : Time} (honce : Once startedAt (m.node id)) :
    Once startedAt (m'.node id) := by
  rcases h id with hnone | ⟨rewrite, keep, hderived⟩
  · rw [hnone]
    intro entry hentry
    cases hentry
  · exact hderived.once honce

/-- A step that measures nothing. -/
theorem Sound.reworked {w : World} (h : Sound w) {m : Manager} {clock : Time}
    (hm : Reworked w.manager m) (hclock : w.clock ≤ clock) :
    Sound { w with manager := m, clock := clock } where
  memory id := (hm.tidy (h.memory id)).mono hclock
  file state hfile id := (h.file state hfile id).mono hclock
  running running hrunning := by
    obtain ⟨hstarted, hrest⟩ := h.running running hrunning
    exact ⟨hstarted.trans hclock, hrest⟩
  fresh running hrunning id hid := hm.tidy (h.fresh running hrunning id hid)
  once running hrunning id := hm.once (h.once running hrunning id)

theorem reworked_recordAgentProbe {w : World} (h : Sound w) (stableID : Text)
    (checkedAt : Time) (probe : AgentDiagnostic) :
    Reworked w.manager
      (w.manager.recordAgentProbe stableID checkedAt probe).1 := by
  intro id
  rw [node_recordAgentProbe]
  split
  · rw [(h.memory id).probed]
    exact Or.inr ⟨_, _, derived_attachedAt checkedAt probe⟩
  · exact Reworked.refl w.manager id

theorem reworked_deleteHistory (m : Manager) (stableID : Text)
    (written : Except Text Unit) :
    Reworked m (m.deleteHistory stableID [] written).1 := by
  intro id
  rcases node_deleteHistory m stableID written id with hsame | hnone
  · rw [hsame]
    exact Reworked.refl m id
  · exact Or.inl hnone

theorem reworked_pruneHistory (m : Manager) (days : Int) (now : Time) :
    Reworked m { (m.pruneHistory days now).1 with
      historyRetentionDays := days } := by
  intro id
  have hnode : Manager.node { (m.pruneHistory days now).1 with
      historyRetentionDays := days } id = (m.node id).pruned days now :=
    node_pruneHistory m days now id
  rw [hnode]
  exact Or.inr ⟨_, _, derived_pruned days now⟩

/-- A measurement of a node the test selected and did not measure yet. -/
theorem Sound.measured {w : World} (h : Sound w) {result : Result}
    {now : Time} (hallowed : w.Allowed (.measured result now)) :
    Sound (w.step (.measured result now)) := by
  obtain ⟨hclock, htime, running, hrunning, hafter, hselected, hfresh⟩ :=
    hallowed
  obtain ⟨hstarted, hnodup, hsub, hknown⟩ := h.running running hrunning
  have hstep : w.step (.measured result now) =
      { w with
        manager := w.manager.recordResult result now
        running := some { running with
          recorded := result.stableID :: running.recorded }
        clock := now } := by
    simp [step, hrunning]
  rw [hstep]
  have hmeasured : Tidy result.stableID result.checkedAt
      ((w.manager.node result.stableID).recorded
        w.manager.historyRetentionDays result now) :=
    (h.fresh running hrunning _ hfresh).recorded rfl
      (hknown _ hselected) hafter _ _
  constructor
  · intro id
    simp only [node_recordResult]
    split
    · rename_i hthis
      rw [← hthis.2]
      exact hmeasured.mono htime
    · exact (h.memory id).mono hclock
  · intro state hfile id
    exact (h.file state hfile id).mono hclock
  · rintro _ ⟨rfl⟩
    refine ⟨hstarted.trans hclock, List.nodup_cons.mpr ⟨hfresh, hnodup⟩, ?_,
      hknown⟩
    intro id hid
    rcases List.mem_cons.mp hid with rfl | hold
    · exact hselected
    · exact hsub id hold
  · rintro _ ⟨rfl⟩ id hid
    rw [List.mem_cons, not_or] at hid
    simp only [node_recordResult]
    rw [if_neg fun hthis => hid.1 hthis.2.symm]
    exact h.fresh running hrunning id hid.2
  · rintro _ ⟨rfl⟩ id
    simp only [node_recordResult]
    split
    · rename_i hthis
      rw [← hthis.2]
      intro entry hentry
      apply (h.fresh running hrunning _ hfresh).checkedAt_le
      simp only [NodeRecords.recorded, Option.getD_some, retainResultHistory,
        List.filter_cons] at hentry
      split at hentry
      · exact List.mem_of_mem_filter hentry
      · exact List.mem_of_mem_filter (List.mem_of_mem_tail hentry)
    · exact h.once running hrunning id

theorem Sound.step {w : World} (h : Sound w) {event : Event}
    (hallowed : w.Allowed event) : Sound (w.step event) := by
  cases event with
  | begin selected now =>
      obtain ⟨hidle, hclock, hnodup, hknown⟩ := hallowed
      constructor
      · exact fun id => (h.memory id).mono hclock
      · exact fun state hfile id => (h.file state hfile id).mono hclock
      · rintro _ ⟨rfl⟩
        exact ⟨le_refl _, List.nodup_nil, List.forall_mem_nil _, hknown⟩
      · rintro _ ⟨rfl⟩ id _
        exact (h.memory id).mono hclock
      · rintro _ ⟨rfl⟩ id entry hentry
        exact ((h.memory id).checkedAt_le
          (List.mem_of_mem_tail hentry)).trans hclock
  | measured result now => exact h.measured hallowed
  | finish =>
      exact ⟨h.memory, h.file, nofun, nofun, nofun⟩
  | probe stableID checkedAt probe =>
      exact h.reworked (reworked_recordAgentProbe h stableID checkedAt probe)
        (le_refl _)
  | delete stableID written =>
      exact h.reworked (reworked_deleteHistory w.manager stableID written)
        (le_refl _)
  | retention days now =>
      exact h.reworked (reworked_pruneHistory w.manager days now) hallowed
  | persist now =>
      have hsame := h.reworked (Reworked.refl w.manager) hallowed
      refine ⟨hsame.memory, ?_, hsame.running, hsame.fresh, hsame.once⟩
      intro state hfile id
      have hstate : state = w.manager.resultState now := by
        simp only [World.step, saveResults] at hfile
        split at hfile
        · cases hfile
        · exact (Option.some.inj hfile).symm
      rw [hstate, node_resultState]
      exact (derived_written _ now).tidy (hsame.memory id)
  | restart active days now =>
      refine ⟨?_, fun state hfile id => (h.file state hfile id).mono hallowed,
        nofun, nofun, nofun⟩
      intro id
      cases hfile : w.file with
      | none =>
          simp only [World.step, hfile, loadResults]
          exact Tidy.nothing _ _
      | some state =>
          have hnode : (w.step (.restart active days now)).manager.node id =
              Speedtest.reloaded active days now id (state.node id) := by
            simp only [World.step, hfile, loadResults]
            exact node_loading active days now (h.file state hfile) id
          rw [hnode]
          exact ((h.file state hfile id).mono hallowed).reloaded active days
            now

/-- What the stored results and histories promise. -/
structure Consistent (w : World) : Prop where
  /-- A history is strictly newest first, and starts with the latest result. -/
  ordered : ∀ id,
    ((w.manager.node id).history.getD []).Pairwise
        (fun newer older => older.checkedAt < newer.checkedAt) ∧
      ∀ head rest, (w.manager.node id).history = some (head :: rest) →
        (w.manager.node id).latest = some head
  /-- What is reported of it is the newest part, as far as it is retained. -/
  reported : ∀ id now,
    w.manager.resultHistory id now <+: (w.manager.node id).history.getD [] ∧
      ∀ entry, entry ∈ w.manager.resultHistory id now ↔
        entry ∈ (w.manager.node id).history.getD [] ∧
          resultWithinRetention entry w.manager.historyRetentionDays now
  /-- The test that is running recorded each selected node at most once, and
  no other. -/
  oncePerRun : ∀ running, w.running = some running →
    running.recorded.Nodup ∧
      (∀ id ∈ running.recorded, id ∈ running.selected) ∧
      ∀ id, (((w.manager.node id).history.getD []).filter fun entry =>
        running.startedAt < entry.checkedAt).length ≤
          if id ∈ running.selected then 1 else 0
  /-- A probe is attached to what was measured at the time, alike in both
  places, and to nothing else. -/
  probed : ∀ stableID checkedAt probe id,
    (w.manager.recordAgentProbe stableID checkedAt probe).1.node id =
      if trimSpace stableID ≠ [] ∧ checkedAt.isZero = false ∧
          trimSpace stableID = id then
        ⟨(w.manager.node id).latest.map (attachedAt checkedAt probe),
          (w.manager.node id).history.map
            (List.map (attachedAt checkedAt probe))⟩
      else w.manager.node id
  /-- The manager that starts after a write holds what was written. -/
  restored : ∀ now active days later, w.clock ≤ now → ∀ id,
    ((w.step (.persist now)).step
        (.restart active days later)).manager.node id =
      reloaded active days later id
        ((w.manager.node id).written w.manager.historyRetentionDays now)

theorem Sound.oncePerRun {w : World} (h : Sound w) {running : Running}
    (hrunning : w.running = some running) (id : Text) :
    (((w.manager.node id).history.getD []).filter fun entry =>
      running.startedAt < entry.checkedAt).length ≤
        if id ∈ running.selected then 1 else 0 := by
  have hsub := (h.running running hrunning).2.2.1
  by_cases hid : id ∈ running.recorded
  · rw [if_pos (hsub id hid)]
    have honce := h.once running hrunning id
    cases hhistory : (w.manager.node id).history.getD [] with
    | nil => exact Nat.zero_le 1
    | cons head rest =>
        have hrest : rest.filter (fun entry =>
            decide (running.startedAt < entry.checkedAt)) = [] := by
          rw [List.filter_eq_nil_iff]
          intro entry hentry
          rw [Once, hhistory] at honce
          simpa using honce entry hentry
        rw [List.filter_cons, hrest]
        split
        · exact le_refl 1
        · exact Nat.zero_le 1
  · have hold := h.fresh running hrunning id hid
    have hnone : ((w.manager.node id).history.getD []).filter (fun entry =>
        decide (running.startedAt < entry.checkedAt)) = [] := by
      rw [List.filter_eq_nil_iff]
      intro entry hentry
      simpa using hold.checkedAt_le hentry
    rw [hnone]
    exact Nat.zero_le _

namespace Sample

def day : Nat := 86400000000000

/-- A node is measured; the retention is lowered ten days later, so that its
history goes, and raised again. -/
def events : List Event :=
  [.begin ["n1"] day, .measured { stableID := "n1", checkedAt := day + 1 }
      (day + 2), .finish, .retention 1 (11 * day), .retention 60 (11 * day)]

end Sample

end World

end XrayChecker.Speedtest

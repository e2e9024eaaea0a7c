import XrayChecker.Machine.Run
import XrayChecker.Speedtest.Results

/-
`DeleteHistory` beside a running speed test.  The call removes what is stored
for a node, writes the file without the lock, and puts the saved copies back
where the write failed; measurements and agent probes may be recorded in
between.
-/

namespace XrayChecker.Speedtest

open Go Machine Manager

/-- What other goroutines do to the manager. -/
inductive Update where
  | record (result : Result) (now : Time)
  | attach (stableID : Text) (checkedAt : Time) (probe : AgentDiagnostic)

namespace Manager

def update (m : Manager) : Update → Manager
  | .record result now => m.recordResult result now
  | .attach stableID checkedAt probe =>
      (m.recordAgentProbe stableID checkedAt probe).1

/-- `DeleteHistory`, with what happens while it writes the file and how the
write ends. -/
def deleteHistory (m : Manager) (stableID : Text) (between : List Update)
    (written : Except Text Unit) : Manager × Except Text Unit :=
  let stableID := trimSpace stableID
  if stableID = [] then
    (run update m between, .error "stableId is required")
  else
    let found := m.node stableID
    let m := run update (m.removeHistory stableID) between
    match written with
    | .error text => (m.restoreHistory stableID found, .error text)
    | .ok () => (m, .ok ())

end Manager

/-- What an update makes of the latest result of a node. -/
def Update.onLatest (stableID : Text) (latest : Option Result) :
    Update → Option Result
  | .record result _ =>
      if result.maintenanceProbe = false ∧ result.stableID = stableID then
        some result
      else latest
  | .attach id checkedAt probe =>
      if trimSpace id ≠ [] ∧ checkedAt.isZero = false ∧
          trimSpace id = stableID then
        (latest.bind (attachLatest checkedAt probe)).or latest
      else latest

/-- What an update makes of the history of a node. -/
def Update.onHistory (historyRetentionDays : Int) (stableID : Text)
    (history : Option (List Result)) : Update → Option (List Result)
  | .record result now =>
      if result.maintenanceProbe = false ∧ result.stableID = stableID then
        some (retainResultHistory (result :: history.getD [])
          (historyCutoff historyRetentionDays now))
      else history
  | .attach id checkedAt probe =>
      if trimSpace id ≠ [] ∧ checkedAt.isZero = false ∧
          trimSpace id = stableID then
        (history.bind (attachFirst checkedAt probe)).or history
      else history

theorem update_retention (m : Manager) (update : Update) :
    (m.update update).historyRetentionDays = m.historyRetentionDays := by
  cases update with
  | record result now =>
      simp only [Manager.update, recordResult]
      split <;> rfl
  | attach stableID checkedAt probe =>
      simp only [Manager.update, recordAgentProbe]
      split <;> rfl

/-- An update acts on the latest result and on the history of each node
apart. -/
theorem node_update (m : Manager) (update : Update) (stableID : Text) :
    (m.update update).node stableID =
      ⟨update.onLatest stableID (m.node stableID).latest,
        update.onHistory m.historyRetentionDays stableID
          (m.node stableID).history⟩ := by
  cases update with
  | record result now =>
      simp only [Manager.update, node_recordResult, Update.onLatest,
        Update.onHistory, NodeRecords.recorded]
      split <;> rfl
  | attach id checkedAt probe =>
      simp only [Manager.update, node_recordAgentProbe, Update.onLatest,
        Update.onHistory, NodeRecords.probed]
      split <;> rfl

theorem node_updates (m : Manager) (updates : List Update) (stableID : Text) :
    (run Manager.update m updates).node stableID =
      ⟨updates.foldl (Update.onLatest stableID) (m.node stableID).latest,
        updates.foldl (Update.onHistory m.historyRetentionDays stableID)
          (m.node stableID).history⟩ := by
  induction updates generalizing m with
  | nil => rfl
  | cons update rest ih =>
      rw [run_cons, ih, node_update, update_retention, List.foldl_cons,
        List.foldl_cons]

/-- A measurement is in the history of its node, perhaps with an agent probe
attached by now. -/
def Manager.Holds (m : Manager) (result : Result) : Prop :=
  ∃ entry ∈ ((m.node result.stableID).history).getD [],
    { entry with agentDiagnostic := result.agentDiagnostic } = result

/-- The retention keeps a measurement when an update is recorded. -/
def Update.Keeps (historyRetentionDays : Int) (result : Result) :
    Update → Prop
  | .record other now =>
      other.maintenanceProbe = false → other.stableID = result.stableID →
        retained (historyCutoff historyRetentionDays now) result = true
  | .attach _ _ _ => True

/-- What a deletion must leave: every measurement recorded meanwhile, and,
where it failed, everything as it would be without the call. -/
structure NothingLost (m : Manager) (stableID : Text) (between : List Update)
    (written : Except Text Unit) : Prop where
  present : ∀ before result now after,
    between = before ++ .record result now :: after →
    result.stableID = trimSpace stableID → result.maintenanceProbe = false →
    (∀ update ∈ Update.record result now :: after,
      update.Keeps m.historyRetentionDays result) →
    (m.deleteHistory stableID between written).1.Holds result
  undone : ∀ text,
    (m.deleteHistory stableID between written).2 = .error text →
    ∀ id, (m.deleteHistory stableID between written).1.node id =
      (run Manager.update m between).node id

/-- What was stored for a node, where anything was, is not changed by the
updates. -/
structure Unchanged (m : Manager) (stableID : Text) (between : List Update) :
    Prop where
  latest : (m.node stableID).latest = none ∨
    ((run Manager.update m between).node stableID).latest =
      (m.node stableID).latest
  history : (m.node stableID).history = none ∨
    ((run Manager.update m between).node stableID).history =
      (m.node stableID).history

theorem attachFirst_mem {checkedAt : Time} {probe : AgentDiagnostic}
    {entries after : List Result}
    (h : attachFirst checkedAt probe entries = some after) {entry : Result}
    (hentry : entry ∈ entries) :
    entry ∈ after ∨ attached probe entry ∈ after := by
  induction entries generalizing after with
  | nil => cases hentry
  | cons head rest ih =>
      rw [attachFirst] at h
      split at h
      · cases h
        rcases List.mem_cons.mp hentry with rfl | hrest
        · exact Or.inr List.mem_cons_self
        · exact Or.inl (List.mem_cons_of_mem _ hrest)
      · obtain ⟨tail, htail, rfl⟩ := Option.map_eq_some_iff.mp h
        rcases List.mem_cons.mp hentry with rfl | hrest
        · exact Or.inl List.mem_cons_self
        · exact (ih htail hrest).imp (List.mem_cons_of_mem _)
            (List.mem_cons_of_mem _)

/-- An update that keeps a measurement leaves it in the history. -/
theorem Manager.Holds.update {m : Manager} {result : Result}
    (h : m.Holds result)
    {update : Update} (hkeeps : update.Keeps m.historyRetentionDays result) :
    (m.update update).Holds result := by
  obtain ⟨entry, hentry, hsame⟩ := h
  have hdate : entry.checkedAt = result.checkedAt := by
    rw [← hsame]
  cases update with
  | record other now =>
      simp only [Manager.Holds, node_update, Update.onHistory]
      by_cases hhere : other.maintenanceProbe = false ∧
          other.stableID = result.stableID
      · rw [if_pos hhere]
        refine ⟨entry, ?_, hsame⟩
        rw [Option.getD_some, retainResultHistory, List.mem_filter]
        refine ⟨List.mem_cons_of_mem _ hentry, ?_⟩
        simpa [retained, hdate] using hkeeps hhere.1 hhere.2
      · rw [if_neg hhere]
        exact ⟨entry, hentry, hsame⟩
  | attach id checkedAt probe =>
      simp only [Manager.Holds, node_update, Update.onHistory]
      by_cases hhere : trimSpace id ≠ [] ∧ checkedAt.isZero = false ∧
          trimSpace id = result.stableID
      · rw [if_pos hhere]
        cases hhistory : (m.node result.stableID).history with
        | none =>
            rw [hhistory] at hentry
            cases hentry
        | some entries =>
            rw [hhistory, Option.getD_some] at hentry
            cases hattach : attachFirst checkedAt probe entries with
            | none => exact ⟨entry, by simpa [hattach] using hentry, hsame⟩
            | some after =>
                rcases attachFirst_mem hattach hentry with hin | hin
                · exact ⟨entry, by simpa [hattach] using hin, hsame⟩
                · exact ⟨attached probe entry, by simpa [hattach] using hin,
                    hsame⟩
      · rw [if_neg hhere]
        exact ⟨entry, hentry, hsame⟩

theorem run_retention (m : Manager) (updates : List Update) :
    (run Manager.update m updates).historyRetentionDays =
      m.historyRetentionDays := by
  induction updates generalizing m with
  | nil => rfl
  | cons update rest ih => rw [run_cons, ih, update_retention]

theorem Manager.Holds.run {m : Manager} {result : Result} (h : m.Holds result)
    {updates : List Update}
    (hkeeps : ∀ update ∈ updates, update.Keeps m.historyRetentionDays result) :
    (run Manager.update m updates).Holds result := by
  induction updates generalizing m with
  | nil => exact h
  | cons update rest ih =>
      rw [List.forall_mem_cons] at hkeeps
      apply ih (h.update hkeeps.1)
      intro other hother
      rw [update_retention]
      exact hkeeps.2 other hother

/-- A measurement that is recorded stays, wherever the recording began. -/
theorem holds_of_recorded (m : Manager) {before after : List Update}
    {result : Result} {now : Time} (hmaintenance : result.maintenanceProbe
      = false)
    (hkeeps : ∀ update ∈ Update.record result now :: after,
      update.Keeps m.historyRetentionDays result) :
    (run Manager.update m (before ++ .record result now :: after)).Holds
      result := by
  rw [run_append, run_cons]
  rw [List.forall_mem_cons] at hkeeps
  apply Manager.Holds.run
  · have hself := hkeeps.1 hmaintenance rfl
    refine ⟨result, ?_, rfl⟩
    simp only [node_update, Update.onHistory, hmaintenance, and_self,
      ↓reduceIte, Option.getD_some, retainResultHistory, run_retention]
    exact List.mem_filter.mpr ⟨List.mem_cons_self, hself⟩
  · intro update hupdate
    rw [update_retention, run_retention]
    exact hkeeps.2 update hupdate

/-- Saved copies put back over what came of nothing give what would have come
of them exactly if they would not have changed. -/
theorem or_eq_iff {α : Type} (found after : Option α) (grown : Option α)
    (hnone : found = none → grown = after) :
    found.or grown = after ↔ found = none ∨ after = found := by
  cases found with
  | none => simp [hnone rfl]
  | some value => simp [eq_comm]

/-- A deletion loses nothing exactly if the write succeeds, or nothing that
was stored for the node would have been changed meanwhile. -/
theorem nothingLost_iff (m : Manager) (stableID : Text)
    (between : List Update) (written : Except Text Unit) :
    NothingLost m stableID between written ↔
      written = .ok () ∨ trimSpace stableID = [] ∨
        Unchanged m (trimSpace stableID) between := by
  by_cases hblank : trimSpace stableID = []
  · have hdelete : (m.deleteHistory stableID between written).1 =
        run Manager.update m between := by
      rw [deleteHistory, if_pos hblank]
    simp only [hblank, true_or, or_true, iff_true]
    refine ⟨?_, fun _ _ id => by rw [hdelete]⟩
    rintro before result now after rfl - hmaintenance hkeeps
    rw [hdelete]
    exact holds_of_recorded m hmaintenance hkeeps
  · cases written with
    | ok done =>
        have hdelete : m.deleteHistory stableID between (.ok done) =
            (run Manager.update (m.removeHistory (trimSpace stableID)) between,
              .ok ()) := by
          rw [deleteHistory, if_neg hblank]
        simp only [true_or, iff_true]
        refine ⟨?_, ?_⟩
        · rintro before result now after rfl - hmaintenance hkeeps
          rw [hdelete]
          exact holds_of_recorded _ hmaintenance hkeeps
        · intro text htext
          rw [hdelete] at htext
          cases htext
    | error text =>
        have hdelete : m.deleteHistory stableID between (.error text) =
            ((run Manager.update (m.removeHistory (trimSpace stableID))
              between).restoreHistory (trimSpace stableID)
                (m.node (trimSpace stableID)), .error text) := by
          rw [deleteHistory, if_neg hblank]
        have hother : ∀ id, trimSpace stableID ≠ id →
            (m.deleteHistory stableID between (.error text)).1.node id =
              (run Manager.update m between).node id := by
          intro id hid
          rw [hdelete, node_restoreHistory, if_neg hid, node_updates,
            node_updates, node_removeHistory, if_neg hid]
          rfl
        have hself : (m.deleteHistory stableID between (.error text)).1.node
              (trimSpace stableID) =
              (run Manager.update m between).node (trimSpace stableID) ↔
            Unchanged m (trimSpace stableID) between := by
          rw [hdelete, node_restoreHistory, if_pos rfl, node_updates,
            node_removeHistory, if_pos rfl, NodeRecords.restored, node_updates,
            NodeRecords.mk.injEq, or_eq_iff, or_eq_iff]
          · constructor
            · rintro ⟨hlatest, hhistory⟩
              exact ⟨by rwa [node_updates], by rwa [node_updates]⟩
            · rintro ⟨hlatest, hhistory⟩
              rw [node_updates] at hlatest hhistory
              exact ⟨hlatest, hhistory⟩
          · intro hnone
            rw [hnone]
            rfl
          · intro hnone
            rw [hnone]
        simp only [reduceCtorEq, hblank, false_or]
        rw [← hself]
        constructor
        · intro h
          exact h.undone text (by rw [hdelete]) _
        · intro hsame
          have hall : ∀ id,
              (m.deleteHistory stableID between (.error text)).1.node id =
                (run Manager.update m between).node id := by
            intro id
            by_cases hid : trimSpace stableID = id
            · rw [← hid]
              exact hsame
            · exact hother id hid
          refine ⟨?_, fun _ _ => hall⟩
          rintro before result now after rfl - hmaintenance hkeeps
          rw [Manager.Holds, hall]
          exact holds_of_recorded m hmaintenance hkeeps

/-- Updates that are about another node, or measure a paused one. -/
def Update.Misses (stableID : Text) : Update → Prop
  | .record result _ =>
      result.maintenanceProbe = true ∨ result.stableID ≠ stableID
  | .attach id _ _ => trimSpace id ≠ stableID

theorem node_update_of_misses (m : Manager) {update : Update}
    {stableID : Text} (h : update.Misses stableID) :
    (m.update update).node stableID = m.node stableID := by
  cases update with
  | record result now =>
      rw [Manager.update, node_recordResult, if_neg]
      rintro ⟨hmaintenance, hid⟩
      rcases h with h | h
      · rw [hmaintenance] at h
        cases h
      · exact h hid
  | attach id checkedAt probe =>
      rw [Manager.update, node_recordAgentProbe, if_neg]
      rintro ⟨-, -, hid⟩
      exact h hid

/-- What happens to other nodes changes nothing. -/
theorem unchanged_of_misses (m : Manager) {stableID : Text}
    {between : List Update}
    (hmisses : ∀ update ∈ between, update.Misses stableID) :
    Unchanged m stableID between := by
  have hnode : (run Manager.update m between).node stableID =
      m.node stableID := by
    induction between generalizing m with
    | nil => rfl
    | cons update rest ih =>
        rw [List.forall_mem_cons] at hmisses
        rw [run_cons, ih _ hmisses.2, node_update_of_misses m hmisses.1]
  exact ⟨Or.inr (by rw [hnode]), Or.inr (by rw [hnode])⟩

namespace Sample

/-- A measurement of the node `n1`. -/
def measurement (checkedAt : Time) : Result :=
  { stableID := "n1", checkedAt := checkedAt }

/-- A manager that holds one measurement. -/
def manager : Manager :=
  ({} : Manager).recordResult (measurement 1000) 2000

/-- The write fails after the running test recorded a newer measurement, and
the saved copies take its place. -/
theorem failed_deletion_loses_measurement :
    ¬ NothingLost manager "n1" [.record (measurement 3000) 4000]
      (.error "disk full") := by
  intro h
  have hundone := h.undone "disk full" (by decide) "n1"
  revert hundone
  decide

end Sample

end XrayChecker.Speedtest

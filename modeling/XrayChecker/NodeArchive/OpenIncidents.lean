import XrayChecker.Machine.Run
import XrayChecker.Checker.Export
import XrayChecker.NodeArchive.Journal

/-
The journal over whole runs of the archive: which outages are open, and whose
they are.
-/

namespace XrayChecker.NodeArchive

open Go Checker

section Calls

variable {options : Options} {store : Store} {now : Time}

/-- The state after a save is the saved one or the one rolled back to. -/
theorem Store.save_cases {P : Store → Prop} {failed : Store}
    (hsaved : P store) (hfailed : P failed) (saveError : Option Text)
    (value : Option NodeRecord) : P (store.save failed saveError value).1 := by
  cases saveError with
  | none => exact hsaved
  | some error => exact hfailed

theorem Journal.congr {next : Store} (h : Journal store)
    (hincidents : next.incidents = store.incidents)
    (hnodes : ∀ stableID : Text, next.nodes[stableID]? =
      store.nodes[stableID]?) :
    Journal next :=
  h.same_incidents hincidents fun stableID record hrecord hfailing =>
    ⟨record, (hnodes stableID).trans hrecord, hfailing⟩

/-- A node written over, with the journal as it was. -/
theorem Journal.insert (h : Journal store) {stableID : Text}
    {record : NodeRecord}
    (hkeeps : (store.recordOf stableID).Failing → record.Failing) :
    Journal { store with nodes := store.nodes.insert stableID record } := by
  refine @Journal.same_incidents store _ h rfl ?_
  intro other before hbefore hfailing
  rw [GoMap.get_insert]
  split
  · rename_i hsame
    subst hsame
    refine ⟨record, rfl, hkeeps ?_⟩
    rw [Store.recordOf, hbefore]
    exact hfailing
  · exact ⟨before, hbefore, hfailing⟩

/-- Writing back the record a node had undoes a write. -/
theorem nodes_written_back {nodes : GoMap Text NodeRecord} {stableID : Text}
    {record : NodeRecord} (h : nodes[stableID]? = some record)
    (written : NodeRecord) :
    (nodes.insert stableID written).insert stableID record = nodes := by
  apply Std.ExtTreeMap.ext_getElem?
  intro other
  rw [GoMap.get_insert]
  split
  · rename_i hsame
    rw [← hsame, h]
  · rename_i hne
    rw [GoMap.get_insert, if_neg hne]

theorem journal_setMaintenance (h : Journal store) (stableID : Text)
    (enabled : Bool) (saveError : Option Text) :
    Journal (store.setMaintenance stableID enabled now saveError).1 := by
  simp only [Store.setMaintenance]
  split
  · exact h
  · split
    · exact h
    · rename_i record hrecord
      split
      · exact h
      · split
        · exact h
        · rename_i hswitched
          apply Store.save_cases
          · cases enabled with
            | true =>
                refine @Journal.at_node store _ h (trimSpace stableID)
                  (openOnce_resolveNodeIncident h.once) ?_ ?_ ?_
                · intro other hne
                  exact (GoMap.get_insert _ _ other _).trans (if_neg hne)
                · intro scope _ hopen
                  exact ((opens_resolveNodeIncident h.once _ _).mp hopen).1
                · intro hopen
                  have hclosed := (opens_resolveNodeIncident h.once _
                    _).mp hopen
                  exact absurd ⟨rfl, rfl⟩ hclosed.2
            | false =>
                apply h.insert
                intro hfailing
                have hmonitored := hfailing.monitored
                simp only [Store.recordOf, hrecord, Option.getD_some]
                  at hmonitored
                exact absurd hmonitored hswitched
          · exact h.congr rfl fun other => by
              rw [nodes_written_back hrecord]

theorem journal_setDisplayName (h : Journal store)
    (stableID displayName : Text) (saveError : Option Text) :
    Journal (store.setDisplayName stableID displayName saveError).1 := by
  simp only [Store.setDisplayName]
  split
  · exact h
  · split
    · exact h
    · split
      · exact h
      · rename_i record hrecord
        split
        · exact h
        · apply Store.save_cases
          · apply h.insert
            rw [Store.recordOf, hrecord]
            intro hfailing
            exact ⟨hfailing.named, hfailing.active, hfailing.monitored,
              hfailing.down, hfailing.offline⟩
          · exact h.congr rfl fun other => by
              rw [nodes_written_back hrecord]

/-- A pause resolves every incident. -/
theorem journal_pauseProjectMonitoring (h : Journal store)
    (saveError : Option Text) :
    Journal (store.pauseProjectMonitoring now saveError).1 := by
  have hpaused : ∀ nodes : GoMap Text NodeRecord,
      Journal
        { store with
          nodes := nodes
          incidents := store.incidents.map fun incident =>
            if incident.status = incidentStatusActive then incident.resolve now
            else incident } := by
    intro nodes
    constructor
    · apply openOnce_map _ h.once
      intro incident kind scope hopen
      split at hopen
      · exact absurd hopen (incident.not_isOpen_resolve now kind scope)
      · exact hopen
    · rintro scope ⟨incident, hincident, hopen⟩
      obtain ⟨old, hold, rfl⟩ := List.mem_map.mp hincident
      split at hopen
      · exact absurd hopen (old.not_isOpen_resolve now _ scope)
      · rename_i hclosed
        exact absurd hopen.2.2 hclosed
  simp only [Store.pauseProjectMonitoring]
  split
  · exact hpaused _
  · exact Store.save_cases (hpaused _) (h.congr rfl fun _ => rfl) _ _

theorem failing_syncSpeedRecord {record : NodeRecord} (h : record.Failing)
    (stableID : Text) (entries : List SpeedResult) :
    (Store.syncSpeedRecord stableID entries now record).Failing := by
  have hentries : (entries.foldl Store.syncSpeedResult record).Failing := by
    clear stableID
    induction entries generalizing record with
    | nil => exact h
    | cons entry rest ih =>
        exact ih ⟨h.named, h.active, h.monitored, h.down, h.offline⟩
  simp only [Store.syncSpeedRecord, if_neg h.named]
  exact ⟨hentries.named, hentries.active, hentries.monitored, hentries.down,
    hentries.offline⟩

theorem journal_syncSpeedHistory (h : Journal store)
    (history : GoMap Text (List SpeedResult)) (saveError : Option Text) :
    Journal (store.syncSpeedHistory history now saveError).1 := by
  simp only [Store.syncSpeedHistory]
  generalize hsynced : history.toList.foldl _ (store, false) = synced
  have hjournal : Journal synced.1 := by
    rw [← hsynced]
    apply foldl_invariant
      (fun _ (synced : Store × Bool) => Journal synced.1) _ h
    intro done entry synced _ hjournal
    split
    · exact hjournal
    · split
      · apply hjournal.insert
        intro hfailing
        exact failing_syncSpeedRecord hfailing _ _
      · exact hjournal
  split
  · exact hjournal
  · exact Store.save_cases hjournal hjournal _ _

theorem journal_syncProxies (h : Journal store) (proxies : List ProxyConfig)
    (saveError : Option Text) :
    Journal (store.syncProxies options proxies now saveError).1 := by
  have hproxies : Journal
      (proxies.foldl (Store.syncProxy options now) (store, false)).1 := by
    apply foldl_invariant
      (fun _ (synced : Store × Bool) => Journal synced.1) proxies h
    intro done proxy synced _ hjournal
    simp only [Store.syncProxy]
    split
    · exact hjournal
    · split
      · apply hjournal.insert
        intro hfailing
        have happlied := hfailing.applyProxy
          { proxy with
            stableID := proxy.effectiveStableID options.digest } now
        exact ⟨happlied.named, rfl, happlied.monitored, happlied.down,
          happlied.offline⟩
      · exact hjournal
  have hmissing : ∀ (active : List Text) (synced : Store × Bool),
      Journal synced.1 →
      Journal (synced.1.nodes.toList.foldl (Store.syncMissing active now)
        synced).1 := by
    intro active synced hsynced
    apply foldl_invariant
      (fun _ (synced : Store × Bool) => Journal synced.1) _ hsynced
    rintro done ⟨stableID, record⟩ synced _ hjournal
    simp only [Store.syncMissing]
    split
    · exact hjournal
    · refine @Journal.at_node synced.1 _ hjournal stableID
        (openOnce_resolveNodeIncident hjournal.once) ?_ ?_ ?_
      · intro other hne
        split
        · exact (GoMap.get_insert _ _ other _).trans (if_neg hne)
        · rfl
      · intro scope _ hopen
        exact ((opens_resolveNodeIncident hjournal.once _ _).mp hopen).1
      · intro hopen
        have hclosed := (opens_resolveNodeIncident hjournal.once _ _).mp hopen
        exact absurd ⟨rfl, rfl⟩ hclosed.2
  simp only [Store.syncProxies]
  have hsynced := hmissing
    ((proxies.map (·.effectiveStableID options.digest)).filter (· ≠ [])) _
    hproxies
  split
  · exact hsynced
  · exact Store.save_cases hsynced hsynced _ _

theorem archivedRecord_eq_ok {stableID : Text} {record : NodeRecord}
    (h : store.archivedRecord stableID = .ok record) :
    store.nodes[trimSpace stableID]? = some record ∧
      record.active = false := by
  simp only [Store.archivedRecord] at h
  split at h
  · cases h
  · split at h
    · cases h
    · rename_i found hfound
      split at h
      · cases h
      · rename_i hinactive
        cases h
        exact ⟨hfound, by simpa using hinactive⟩

theorem journal_deleteArchived (h : Journal store) (stableID : Text)
    (saveError : Option Text) :
    Journal (store.deleteArchived stableID saveError).1 := by
  simp only [Store.deleteArchived]
  split
  · exact h
  · rename_i record hrecord
    have hentry := archivedRecord_eq_ok hrecord
    have hopens : ¬Opens store.incidents incidentKindNode
        (nodeScope (trimSpace stableID)) := by
      intro hopen
      obtain ⟨other, hother, hfailing⟩ := h.record_failing hopen
      rw [hentry.1] at hother
      cases hother
      exact absurd hfailing.active (by simp [hentry.2])
    apply Store.save_cases
    · refine @Journal.at_node store _ h (trimSpace stableID) h.once ?_ ?_ ?_
      · intro other hne
        exact (GoMap.get_erase _ _ other).trans (if_neg hne)
      · exact fun _ _ => id
      · exact fun hopen => absurd hopen hopens
    · refine h.congr rfl fun other => ?_
      change ((store.nodes.erase _).insert _ record)[other]? = _
      rw [GoMap.get_insert, GoMap.get_erase]
      split
      · rename_i hsame
        rw [← hsame, hentry.1]
      · rfl

theorem journal_restoreArchivedState (h : Journal store) {record : NodeRecord}
    (hinactive : ∀ existing ∈ store.nodes[trimSpace record.stableID]?,
      existing.active = false)
    (availabilityHistory : List AvailabilitySample) (mergedFrom : List Text)
    (saveError : Option Text) :
    Journal (store.restoreArchivedState record availabilityHistory mergedFrom
      now saveError).1 := by
  simp only [Store.restoreArchivedState]
  split
  · exact h
  · split
    · exact h
    · apply Store.save_cases
      · refine @Journal.at_node store _ h (trimSpace record.stableID) h.once
          ?_ ?_ ?_
        · intro other hne
          exact (GoMap.get_insert _ _ other _).trans (if_neg hne)
        · exact fun _ _ => id
        · intro hopen
          obtain ⟨existing, hexisting, hfailing⟩ := h.record_failing hopen
          exact absurd hfailing.active (by simp [hinactive existing hexisting])
      · refine h.congr rfl fun other => ?_
        change (GoMap.set (store.nodes.insert _ record) _ _)[other]? = _
        rw [GoMap.get_set, GoMap.get_insert]
        split
        · rename_i hsame
          rw [hsame]
        · rfl

/-- The call retires no node behind the journal's back: a recording finds
every node with an open incident among the checker's, and an archived state is
not restored over an active node. -/
def Event.Quiet (options : Options) (store : Store) (event : Event) : Prop :=
  match event.call with
  | .recordAvailability pc _ now => now ≠ 0 ∧ RetiresQuietly options store pc
  | .restoreArchivedState record _ _ _ =>
      ∀ existing ∈ store.nodes[trimSpace record.stableID]?,
        existing.active = false
  | _ => True

theorem journal_step (h : Journal store) {event : Event}
    (hquiet : event.Quiet options store) :
    Journal (step options store event) := by
  obtain ⟨call, saveError⟩ := event
  cases call with
  | syncProxies proxies now => exact journal_syncProxies h proxies saveError
  | setMaintenance stableID enabled now =>
      exact journal_setMaintenance h stableID enabled saveError
  | setDisplayName stableID displayName =>
      exact journal_setDisplayName h stableID displayName saveError
  | pauseProjectMonitoring now =>
      exact journal_pauseProjectMonitoring h saveError
  | syncSpeedHistory history now =>
      exact journal_syncSpeedHistory h history saveError
  | recordAvailability pc recordHistory now =>
      have hrecorded :=
        journal_recordAvailability h hquiet.1 hquiet.2 recordHistory
      simp only [step, Store.perform, Store.recordAvailability]
      split
      · exact hrecorded
      · exact Store.save_cases hrecorded hrecorded _ _
  | setAvailabilityHistoryRetentionDays days now =>
      simp only [step, Store.perform,
        Store.setAvailabilityHistoryRetentionDays]
      split
      · exact h.congr rfl fun _ => rfl
      · apply Store.save_cases
        · exact h.congr rfl fun _ => rfl
        · exact h.congr rfl fun _ => rfl
  | refreshGeo => exact Store.save_cases h h _ _
  | deleteArchived stableID => exact journal_deleteArchived h stableID saveError
  | restoreArchivedState record availabilityHistory mergedFrom now =>
      exact journal_restoreArchivedState h hquiet availabilityHistory
        mergedFrom saveError

/-- Open incidents over every run of the archive: at most one is open for a
kind and scope, and an open node incident is that of a node that is active,
not in maintenance and was offline when last recorded. -/
theorem open_incidents_failing {start : Store} {events : List Event}
    (hstart : Journal start)
    (hrun : Machine.Admissible (step options)
      (fun store event => event.Quiet options store) start events) :
    Journal (Machine.run (step options) start events) :=
  Machine.run_invariant Journal hrun hstart
    fun _ _ hjournal hquiet => journal_step hjournal hquiet

end Calls

instance (options : Options) (store : Store) (event : Event) :
    Decidable (event.Quiet options store) :=
  match event with
  | ⟨.recordAvailability _ _ _, _⟩ => inferInstanceAs (Decidable (_ ∧ _))
  | ⟨.restoreArchivedState record _ _ _, _⟩ =>
      inferInstanceAs (Decidable (∀ existing ∈
        store.nodes[trimSpace record.stableID]?, existing.active = false))
  | ⟨.syncProxies _ _, _⟩ => inferInstanceAs (Decidable True)
  | ⟨.setMaintenance _ _ _, _⟩ => inferInstanceAs (Decidable True)
  | ⟨.setDisplayName _ _, _⟩ => inferInstanceAs (Decidable True)
  | ⟨.pauseProjectMonitoring _, _⟩ => inferInstanceAs (Decidable True)
  | ⟨.syncSpeedHistory _ _, _⟩ => inferInstanceAs (Decidable True)
  | ⟨.setAvailabilityHistoryRetentionDays _ _, _⟩ =>
      inferInstanceAs (Decidable True)
  | ⟨.refreshGeo, _⟩ => inferInstanceAs (Decidable True)
  | ⟨.deleteArchived _, _⟩ => inferInstanceAs (Decidable True)

namespace Sample

open ProxyChecker Checker.Sample

/-- An instant of our time, in seconds from a fixed one. -/
def instant (n : Nat) : Time :=
  seconds (63835596800 + n)

/-- A checker that has seen a node fail, and its host down. -/
def checkerSeeing (proxies : List ProxyConfig) (since : Time)
    (stableIDs : List Text) : ProxyChecker :=
  { (new (optionsFor "status") proxies) with
    statusDetails := stableIDs.foldl
      (fun details stableID => details.insert stableID
        { status := .offline, downSince := since, failingSince := since
          checkedAt := since
          failure := failureDetails failureCodeTCPTimeout [] })
      ∅ }

/-- The node fails, is recorded, and leaves the subscription. -/
def failsAndLeaves : List Event :=
  [{ call := .syncProxies [node [] "nl-1"] (instant 0) },
    { call := .recordAvailability
        (checkerSeeing [node [] "nl-1"] (instant 1) ["nl-1"]) true (instant 2) },
    { call := .syncProxies [] (instant 3) },
    { call := .recordAvailability (checkerSeeing [] 0 []) true (instant 4) }]

theorem journal_empty : Journal {} :=
  ⟨List.Pairwise.nil, fun _ hopen => by simp [Opens] at hopen⟩

theorem open_incidents_failing_sample :
    Journal (Machine.run (step (optionsFor "status")) {} failsAndLeaves) :=
  open_incidents_failing journal_empty (by decide)

/-- The same node, retired by a recording instead: the outage stays open. -/
theorem retired_incident_left_open :
    let store := Machine.run (step (optionsFor "status")) {}
      [failsAndLeaves.get ⟨0, by decide⟩, failsAndLeaves.get ⟨1, by decide⟩,
        failsAndLeaves.get ⟨3, by decide⟩]
    Opens store.incidents incidentKindNode (nodeScope "nl-1") ∧
      (store.recordOf "nl-1").active = false := by
  decide

end Sample

end XrayChecker.NodeArchive

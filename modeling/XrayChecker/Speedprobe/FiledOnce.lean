import XrayChecker.Speedprobe.Recorder

/-
Each verdict is filed once and beside its own measurement, as long as no
recorder is handed the session of another measurement.  The coordinator hands
it out while the cooldown of the node lasts.
-/

namespace XrayChecker.Speedprobe

open Go Machine Speedtest Agentautomation

namespace World

/-- The measurement of a node in a run. -/
def Measured (w : World) (run : Nat) (stableID : Text) (result : Result) :
    Prop :=
  ∃ report, w.reports[run]? = some report ∧ result ∈ report.results ∧
    result.stableID = stableID

/-- A handle that belongs beside the node's measurement in the run. -/
structure Belongs (w : World) (run : Nat) (stableID : Text)
    (handle : Handle) : Prop where
  own : handle.sessionID ≠ [] →
    w.createdFor[handle.sessionID]? = some (run, stableID)
  retry : ∀ request, handle.retry = some request → request.stableID = stableID
  measured : ∃ result, w.Measured run stableID result

/-- A start of the recorder finds no entry of another measurement. -/
def OwnEntry (config : Config) (w : World) (run : Nat)
    (request : StartRequest) : Prop :=
  ∀ existing,
    (prune config w.sessions w.now w.entries)[request.stableID]? =
      some existing →
    w.createdFor[existing.sessionID]? = some (run, request.stableID)

/-- The controller gives a new session a name of its own. -/
def FreshSession (w : World) (found : StartSurroundings) : Prop :=
  ∀ sessionID view, found.created = .ok (sessionID, view) →
    sessionID ≠ [] ∧ w.createdFor[sessionID]? = none

/-- The controller names new sessions, and the recorder is handed no session
of another measurement. -/
def Allowed (config : Config) (w : World) : Event → Prop
  | .startNext run found =>
      w.FreshSession found ∧
        ∀ request todo handles,
          w.follows[run]? = some (.starting (request :: todo) handles) →
            w.OwnEntry config run request
  | .resume run stableID found =>
      w.FreshSession found ∧
        ∀ measured written current,
          w.follows[run]? = some (.waiting measured written current) →
            ∀ handle request, current[stableID]? = some handle →
              handle.retry = some request → w.OwnEntry config run request
  | .alert _ _ _ _ _ found => w.FreshSession found
  | _ => True

/-- A write of the recorder goes to the measurement the session was created
for. -/
def WriteFiled (w : World) (call : ProbeWrite) : Prop :=
  call.probe.sessionID ≠ [] → ∃ run result,
    w.createdFor[call.probe.sessionID]? = some (run, call.stableID) ∧
      w.Measured run call.stableID result ∧ result.checkedAt = call.checkedAt

/-- A line of the journal names the measurement the session was created
for. -/
def EntryFiled (w : World) (entry : VerdictEntry) : Prop :=
  entry.sessionID ≠ [] → ∃ run result,
    w.createdFor[entry.sessionID]? = some (run, entry.stableID) ∧
      w.Measured run entry.stableID result ∧
      result.checkedAt = entry.localAt ∧
      run ∈ w.probed ∧ w.follows[run]? = none

/-- What holds of a recorder under way. -/
structure FollowOk (w : World) (run : Nat) (follow : Follow) : Prop where
  probed : run ∈ w.probed
  handles : ∀ (stableID : Text) (handle : Handle),
    follow.handles[stableID]? = some handle → w.Belongs run stableID handle
  todo : ∀ todo handles, follow = .starting todo handles →
    ∀ request ∈ todo, ∃ result, w.Measured run request.stableID result
  measured : ∀ measured written current,
    follow = .waiting measured written current →
      ∀ (stableID : Text) (checkedAt : Time),
        measured[stableID]? = some checkedAt →
          ∃ result, w.Measured run stableID result ∧
            result.checkedAt = checkedAt

/-- Every session in use has its measurement, and everything written so far is
filed with it. -/
structure Filed (w : World) : Prop where
  entries : ∀ (stableID : Text) (handle : Handle),
    w.entries[stableID]? = some handle →
      handle.retry = none ∧
        ∃ run, w.createdFor[handle.sessionID]? = some (run, stableID)
  follows : ∀ (run : Nat) (follow : Follow),
    w.follows[run]? = some follow → w.FollowOk run follow
  attached : ∀ call ∈ w.attached, w.WriteFiled call
  journal : ∀ entry ∈ w.journal, w.EntryFiled entry
  once : w.journal.Pairwise fun earlier later =>
    earlier.sessionID ≠ [] → earlier.sessionID ≠ later.sessionID

end World

section Records

/-- `measuredAt` reads the report. -/
theorem get_measuredAt {results : List Result} {handles : GoMap Text Handle}
    {stableID : Text} {checkedAt : Time}
    (h : (measuredAt results handles)[stableID]? = some checkedAt) :
    ∃ result ∈ results, result.stableID = stableID ∧
      result.checkedAt = checkedAt := by
  refine foldl_invariant
    (fun (done : List Result) (acc : GoMap Text Time) =>
      (∀ result ∈ done, result ∈ results) ∧
        ∀ (id : Text) (t : Time), acc[id]? = some t → ∃ result ∈ results,
          result.stableID = id ∧ result.checkedAt = t)
    results (by simp) ?_ |>.2 stableID checkedAt h
  rintro done result acc hresult ⟨hdone, hacc⟩
  refine ⟨?_, ?_⟩
  · intro other hother
    rcases List.mem_append.mp hother with hold | hnew
    · exact hdone other hold
    · rw [List.mem_singleton.mp hnew]
      exact hresult
  · intro id t hget
    rw [measureStep] at hget
    split at hget
    · exact hacc id t hget
    · rw [GoMap.get_insert] at hget
      split at hget
      · rename_i hid
        exact ⟨result, hresult, hid, Option.some.inj hget⟩
      · exact hacc id t hget

/-- Every call of `record` is for a probe it was given, at the time of its
node. -/
theorem mem_record {measured : GoMap Text Time} {stored : Text → Bool}
    {probes : List (Text × Annotation)} {written : GoMap Text Annotation}
    {call : ProbeWrite} (h : call ∈ (record measured stored probes
      written).calls) :
    (call.stableID, call.probe) ∈ probes ∧
      measured[call.stableID]? = some call.checkedAt := by
  refine foldl_invariant
    (fun (_ : List (Text × Annotation)) (acc : Recording) =>
      ∀ call ∈ acc.calls, (call.stableID, call.probe) ∈ probes ∧
        measured[call.stableID]? = some call.checkedAt)
    probes (by simp) ?_ call h
  rintro done found acc hfound hacc call hcall
  rw [recordStep] at hcall
  split at hcall
  · exact hacc call hcall
  · rename_i checkedAt hmeasured
    split at hcall
    · exact hacc call hcall
    · rcases List.mem_append.mp hcall with hold | hnew
      · exact hacc call hold
      · rw [List.mem_singleton.mp hnew]
        exact ⟨hfound, hmeasured⟩

theorem mem_annotations {agents : Text → Option AgentNames}
    {sessions : Sessions} {handles : GoMap Text Handle}
    {found : Text × Annotation}
    (h : found ∈ annotations agents sessions handles) :
    ∃ handle, handles[found.1]? = some handle ∧
      found.2.sessionID = handle.sessionID := by
  obtain ⟨entry, hentry, rfl⟩ := List.mem_map.mp h
  refine ⟨entry.2, ?_, annotation_sessionID agents entry.2⟩
  exact Std.ExtTreeMap.mem_toList_iff_getElem?_eq_some.mp hentry

/-- One annotation for each node. -/
theorem annotations_nodup {agents : Text → Option AgentNames}
    {sessions : Sessions} {handles : GoMap Text Handle} :
    ((annotations agents sessions handles).map Prod.fst).Nodup := by
  have hkeys : (annotations agents sessions handles).map Prod.fst =
      handles.toList.map Prod.fst := by
    rw [annotations, List.map_map]
    rfl
  rw [hkeys]
  apply List.pairwise_map.mpr
  refine (Std.ExtTreeMap.distinct_keys_toList (t := handles)).imp ?_
  intro left right hne hsame
  exact hne (Std.LawfulEqCmp.compare_eq_iff_eq.mpr hsame)

end Records

namespace World

/-- Later worlds know all sessions, runs and recorders of earlier ones, and no
recorder starts over. -/
structure Extends (w w' : World) : Prop where
  created : ∀ (sessionID : Text) (measurement : Nat × Text),
    w.createdFor[sessionID]? = some measurement →
      w'.createdFor[sessionID]? = some measurement
  reports : ∀ (run : Nat) (report : RunReport),
    w.reports[run]? = some report → w'.reports[run]? = some report
  probed : ∀ run ∈ w.probed, run ∈ w'.probed
  done : ∀ run ∈ w.probed, w.follows[run]? = none →
    w'.follows[run]? = none

namespace Extends

variable {w w' : World}

theorem measured (h : w.Extends w') {run : Nat} {stableID : Text}
    {result : Result} (hm : w.Measured run stableID result) :
    w'.Measured run stableID result := by
  obtain ⟨report, hreport, hresult⟩ := hm
  exact ⟨report, h.reports run report hreport, hresult⟩

theorem belongs (h : w.Extends w') {run : Nat} {stableID : Text}
    {handle : Handle} (hb : w.Belongs run stableID handle) :
    w'.Belongs run stableID handle where
  own hsession := h.created _ _ (hb.own hsession)
  retry := hb.retry
  measured := hb.measured.imp fun _ => h.measured

theorem followOk (h : w.Extends w') {run : Nat} {follow : Follow}
    (hf : w.FollowOk run follow) : w'.FollowOk run follow where
  probed := h.probed run hf.probed
  handles stableID handle hget := h.belongs (hf.handles stableID handle hget)
  todo todo handles heq request hrequest :=
    (hf.todo todo handles heq request hrequest).imp fun _ => h.measured
  measured measured written current heq stableID checkedAt hget :=
    (hf.measured measured written current heq stableID checkedAt hget).imp
      fun _ hm => ⟨h.measured hm.1, hm.2⟩

theorem writeFiled (h : w.Extends w') {call : ProbeWrite}
    (hw : w.WriteFiled call) : w'.WriteFiled call := by
  intro hsession
  obtain ⟨run, result, hcreated, hmeasured, hat⟩ := hw hsession
  exact ⟨run, result, h.created _ _ hcreated, h.measured hmeasured, hat⟩

theorem entryFiled (h : w.Extends w') {entry : VerdictEntry}
    (he : w.EntryFiled entry) : w'.EntryFiled entry := by
  intro hsession
  obtain ⟨run, result, hcreated, hmeasured, hat, hprobed, hdone⟩ := he hsession
  exact ⟨run, result, h.created _ _ hcreated, h.measured hmeasured, hat,
    h.probed run hprobed, h.done run hprobed hdone⟩

end Extends

/-- A step of a recorder: it goes on, nothing was written before. -/
theorem Filed.follow {w w' : World} (h : w.Filed) (hext : w.Extends w')
    (hentries : ∀ (stableID : Text) (handle : Handle),
      w'.entries[stableID]? = some handle →
        handle.retry = none ∧
          ∃ run, w'.createdFor[handle.sessionID]? = some (run, stableID))
    (hfollows : ∀ (run : Nat) (follow : Follow),
      w'.follows[run]? = some follow →
        w.follows[run]? = some follow ∨ w'.FollowOk run follow)
    (hattached : ∀ call ∈ w'.attached, call ∈ w.attached ∨ w'.WriteFiled call)
    (hjournal : w'.journal = w.journal) : w'.Filed := by
  refine ⟨hentries, ?_, ?_, ?_, ?_⟩
  · intro run follow hget
    rcases hfollows run follow hget with hold | hnew
    · exact hext.followOk (h.follows run follow hold)
    · exact hnew
  · intro call hcall
    rcases hattached call hcall with hold | hnew
    · exact hext.writeFiled (h.attached call hold)
    · exact hnew
  · intro entry hentry
    rw [hjournal] at hentry
    exact hext.entryFiled (h.journal entry hentry)
  · rw [hjournal]
    exact h.once

section Starts

variable {config : Config} {w : World} {run : Nat} {found : StartSurroundings}
  {request : StartRequest}

theorem start_extends :
    w.Extends (w.start config run found request).1 := by
  refine ⟨?_, fun _ _ => id, fun _ => id, fun _ _ => id⟩
  intro sessionID measurement hget
  simp only [start]
  split
  · rename_i hnew
    rw [GoMap.get_insert, if_neg]
    · exact hget
    · rintro rfl
      rw [hget] at hnew
      simp at hnew
  · exact hget

/-- A start keeps the entries in order, and its handle belongs beside the
measurement unless it is the entry of another one. -/
theorem start_spec (h : w.Filed) (hfresh : w.FreshSession found) :
    (∀ (stableID : Text) (handle : Handle),
      (w.start config run found request).1.entries[stableID]? = some handle →
        handle.retry = none ∧ ∃ run',
          (w.start config run found request).1.createdFor[handle.sessionID]? =
            some (run', stableID)) ∧
    (∀ retry, (w.start config run found request).2.retry = some retry →
      retry.stableID = request.stableID) ∧
    (w.OwnEntry config run request →
      (w.start config run found request).2.sessionID ≠ [] →
        (w.start config run found request).1.createdFor[
          (w.start config run found request).2.sessionID]? =
            some (run, request.stableID)) := by
  have hkept : ∀ (stableID : Text) (handle : Handle),
      (prune config w.sessions w.now w.entries)[stableID]? = some handle →
        handle.retry = none ∧
          ∃ run', w.createdFor[handle.sessionID]? = some (run', stableID) :=
    fun stableID handle hget => h.entries stableID handle (get_prune hget)
  have hext := @start_extends config w run found request
  rcases @startSpeed_cases config w.sessions w.entries w.now found request with
    ⟨existing, hexisting, hstart⟩ | ⟨handle, hsession, hretry, hstart⟩ |
      ⟨sessionID, view, handle, hcreated, hsession, hretry, hstart⟩
  · have hentries : (w.start config run found request).1.entries =
        prune config w.sessions w.now w.entries := by
      simp only [start, hstart]
    have hhandle : (w.start config run found request).2 = existing := by
      simp only [start, hstart]
    obtain ⟨hnone, run', hknown⟩ := hkept _ _ hexisting
    rw [hentries, hhandle]
    refine ⟨?_, ?_, ?_⟩
    · intro stableID handle hget
      obtain ⟨hretry, run'', hsome⟩ := hkept stableID handle hget
      exact ⟨hretry, run'', hext.created _ _ hsome⟩
    · intro retry hsome
      rw [hnone] at hsome
      cases hsome
    · intro hown _
      exact hext.created _ _ (hown existing hexisting)
  · have hentries : (w.start config run found request).1.entries =
        prune config w.sessions w.now w.entries := by
      simp only [start, hstart]
    have hhandle : (w.start config run found request).2 = handle := by
      simp only [start, hstart]
    rw [hentries, hhandle]
    refine ⟨?_, hretry, fun _ hne => absurd hsession hne⟩
    intro stableID other hget
    obtain ⟨hnone, run', hsome⟩ := hkept stableID other hget
    exact ⟨hnone, run', hext.created _ _ hsome⟩
  · obtain ⟨hne, hfree⟩ := hfresh sessionID view hcreated
    have hentries : (w.start config run found request).1.entries =
        (prune config w.sessions w.now w.entries).insert request.stableID
          handle := by
      simp only [start, hstart]
    have hhandle : (w.start config run found request).2 = handle := by
      simp only [start, hstart]
    have hnew : (w.start config run found request).1.createdFor =
        w.createdFor.insert sessionID (run, request.stableID) := by
      simp only [start, hstart, hsession, hfree, Option.isNone_none,
        Bool.and_true, decide_eq_true hne, ↓reduceIte, ne_eq]
    have hself : (w.start config run found request).1.createdFor[sessionID]? =
        some (run, request.stableID) := by
      rw [hnew, GoMap.get_insert, if_pos rfl]
    rw [hentries, hhandle, hsession]
    refine ⟨?_, ?_, fun _ _ => hself⟩
    · intro stableID other hget
      rw [GoMap.get_insert] at hget
      split at hget
      · rename_i hid
        obtain rfl := Option.some.inj hget
        rw [hsession, ← hid]
        exact ⟨hretry, run, hself⟩
      · obtain ⟨hnone, run', hsome⟩ := hkept stableID other hget
        exact ⟨hnone, run', hext.created _ _ hsome⟩
    · intro retry hsome
      rw [hretry] at hsome
      cases hsome

end Starts

section Steps

variable {config : Config} {serverForURL : Text → Option Text}
  {agents : Text → Option AgentNames} {w : World}

theorem Extends.trans {w₁ w₂ w₃ : World} (h : w₁.Extends w₂)
    (h' : w₂.Extends w₃) : w₁.Extends w₃ where
  created _ _ hget := h'.created _ _ (h.created _ _ hget)
  reports _ _ hget := h'.reports _ _ (h.reports _ _ hget)
  probed run hrun := h'.probed run (h.probed run hrun)
  done run hrun hnone :=
    h'.done run (h.probed run hrun) (h.done run hrun hnone)

/-- A recorder that is under way goes on or is done. -/
theorem follow_extends {run : Nat} {follow : Follow}
    (h : w.follows[run]? = some follow) (next : Option Follow) :
    w.Extends (w.follow run next) := by
  refine ⟨fun _ _ => id, fun _ _ => id, fun _ => id, ?_⟩
  intro other _ hnone
  have hne : run ≠ other := by
    rintro rfl
    rw [h] at hnone
    cases hnone
  change (w.follows.set run next)[other]? = none
  rw [GoMap.get_set_of_ne _ hne]
  exact hnone

/-- What a recorder writes on its way changes none of that. -/
theorem follow_extends_of_written {run : Nat} {follow : Follow}
    (h : w.follows[run]? = some follow) (next : Option Follow)
    (attached : List ProbeWrite) (journal : List VerdictEntry) :
    w.Extends (World.follow
      { w with attached := attached, journal := journal } run next) :=
  let hext := follow_extends h next
  ⟨hext.created, hext.reports, hext.probed, hext.done⟩

/-- The other recorders stay where they are. -/
theorem get_follow {run other : Nat} {next : Option Follow} {follow : Follow}
    (h : (w.follow run next).follows[other]? = some follow) :
    w.follows[other]? = some follow ∨ run = other ∧ next = some follow := by
  change (w.follows.set run next)[other]? = some follow at h
  rw [GoMap.get_set] at h
  split at h
  · rename_i hrun
    exact Or.inr ⟨hrun, h⟩
  · exact Or.inl h

/-- A step that starts nothing and leaves the recorders alone. -/
theorem Filed.quiet {w' : World} (h : w.Filed) (hext : w.Extends w')
    (hentries : w'.entries = w.entries) (hfollows : w'.follows = w.follows)
    (hattached : w'.attached = w.attached) (hjournal : w'.journal = w.journal) :
    w'.Filed := by
  refine h.follow hext ?_ ?_ ?_ hjournal
  · intro stableID handle hget
    rw [hentries] at hget
    obtain ⟨hretry, run, hcreated⟩ := h.entries stableID handle hget
    exact ⟨hretry, run, hext.created _ _ hcreated⟩
  · intro run follow hget
    rw [hfollows] at hget
    exact Or.inl hget
  · intro call hcall
    rw [hattached] at hcall
    exact Or.inl hcall

/-- A start in the middle of a recorder's work: its handle joins the others. -/
theorem Filed.started (h : w.Filed) {run : Nat} {found : StartSurroundings}
    {request : StartRequest} {follow next : Follow}
    (hfollow : w.follows[run]? = some follow) (hfresh : w.FreshSession found)
    (hown : w.OwnEntry config run request)
    (hmeasured : ∃ result, w.Measured run request.stableID result)
    (hnext : ∀ w' : World, w'.FollowOk run follow →
      w'.Belongs run request.stableID
        (w.start config run found request).2 → w'.FollowOk run next) :
    ((w.start config run found request).1.follow run (some next)).Filed := by
  have hstart := @start_extends config w run found request
  have hext := hstart.trans (follow_extends
    (w := (w.start config run found request).1) hfollow (some next))
  obtain ⟨hentries, hretry, hcreated⟩ :=
    @start_spec config w run found request h hfresh
  refine h.follow hext hentries ?_ (fun call hcall => Or.inl hcall) rfl
  intro other later hget
  rcases get_follow hget with hold | ⟨rfl, hsame⟩
  · exact Or.inl hold
  · rw [← Option.some.inj hsame]
    refine Or.inr (hnext _ (hext.followOk (h.follows _ _ hfollow)) ?_)
    exact
      { own := hcreated hown
        retry := hretry
        measured := hmeasured.imp fun _ => hext.measured }

/-- The candidates of a report are measurements of it. -/
theorem measured_of_candidate {run : Nat} {report : RunReport}
    (hreport : w.reports[run]? = some report) {threshold : Rat}
    {environmentSourced : Text → Bool} {request : StartRequest}
    (h : request ∈ report.candidates serverForURL threshold
      environmentSourced) :
    ∃ result, w.Measured run request.stableID result := by
  have hmem := (List.mem_insertionSort _).mp h
  obtain ⟨result, hresult, hcandidate⟩ := mem_candidateLoop hmem
  refine ⟨result, report, hreport, hresult, ?_⟩
  rw [candidate, Option.map_eq_some_iff] at hcandidate
  obtain ⟨_, _, rfl⟩ := hcandidate
  exact (report.trimmed result hresult).symm

/-- The probes a recorder reads belong to the measurements of its run. -/
theorem belongs_of_annotated (h : w.Filed) {run : Nat} {follow : Follow}
    (hfollow : w.follows[run]? = some follow) {found : Text × Annotation}
    (hfound : found ∈ annotations agents w.sessions follow.handles) :
    (found.2.sessionID ≠ [] →
      w.createdFor[found.2.sessionID]? = some (run, found.1)) ∧
    ∃ result, w.Measured run found.1 result := by
  obtain ⟨handle, hhandle, hsession⟩ := mem_annotations hfound
  have hbelongs := (h.follows run follow hfollow).handles _ _ hhandle
  rw [hsession]
  exact ⟨hbelongs.own, hbelongs.measured⟩

/-- What a recorder writes is filed with its own run. -/
theorem writeFiled_of_record (h : w.Filed) {run : Nat} {follow : Follow}
    (hfollow : w.follows[run]? = some follow) {measured : GoMap Text Time}
    {stored : Text → Bool} {written : GoMap Text Annotation}
    (hmeasured : ∀ (stableID : Text) (checkedAt : Time),
      measured[stableID]? = some checkedAt → ∃ result,
        w.Measured run stableID result ∧ result.checkedAt = checkedAt)
    {call : ProbeWrite}
    (hcall : call ∈ (record measured stored
      (annotations agents w.sessions follow.handles) written).calls) :
    w.WriteFiled call := by
  intro hsession
  obtain ⟨hprobe, hat⟩ := mem_record hcall
  obtain ⟨result, hresult, hchecked⟩ := hmeasured _ _ hat
  exact ⟨run, result, (belongs_of_annotated h hfollow hprobe).1 hsession,
    hresult, hchecked⟩

/-- A line of the journal names the session and the node of its probe. -/
theorem mem_journalVerdicts {results : List Result} {now : Time}
    {probes : List (Text × Annotation)} {entry : VerdictEntry}
    (h : entry ∈ journalVerdicts results now probes) :
    ∃ found ∈ probes, entry.sessionID = found.2.sessionID ∧
      entry.stableID = found.1 ∧
      entry.localAt = ((results.find? (·.stableID = found.1)).map
        Result.checkedAt).getD 0 := by
  obtain ⟨found, hfound, hentry⟩ := List.mem_filterMap.mp h
  simp only [verdictEntry] at hentry
  split at hentry
  · cases hentry
  · obtain rfl := Option.some.inj hentry
    exact ⟨found, hfound, rfl, rfl, rfl⟩

/-- One line for each node. -/
theorem journalVerdicts_nodes {results : List Result} {now : Time}
    {probes : List (Text × Annotation)}
    (h : (probes.map Prod.fst).Nodup) :
    (journalVerdicts results now probes).Pairwise fun earlier later =>
      earlier.stableID ≠ later.stableID := by
  refine List.Pairwise.filterMap _ ?_ (List.pairwise_map.mp h)
  intro found found' hne entry hentry entry' hentry'
  simp only [verdictEntry] at hentry hentry'
  split at hentry
  · cases hentry
  · split at hentry'
    · cases hentry'
    · rw [← Option.some.inj hentry, ← Option.some.inj hentry']
      exact hne

/-- The measurement a line of the journal is read from. -/
theorem measured_find {run : Nat} {report : RunReport}
    (hreport : w.reports[run]? = some report) {stableID : Text}
    (h : ∃ result, w.Measured run stableID result) :
    ∃ result, w.Measured run stableID result ∧
      ((report.results.find? (·.stableID = stableID)).map
        Result.checkedAt).getD 0 = result.checkedAt := by
  obtain ⟨result, other, hother, hresult, hid⟩ := h
  obtain rfl : other = report := by
    rw [hreport] at hother
    exact (Option.some.inj hother).symm
  cases hfind : other.results.find? (·.stableID = stableID) with
  | none =>
      have := List.find?_eq_none.mp hfind result hresult
      simp [hid] at this
  | some first =>
      refine ⟨first, ⟨other, hreport, List.mem_of_find?_eq_some hfind, ?_⟩, rfl⟩
      simpa using List.find?_some hfind

/-- A run is over. -/
theorem Filed.finish (h : w.Filed) (run : Nat) (report : RunReport) :
    (w.step config serverForURL agents (.finish run report)).Filed := by
  simp only [step]
  split
  · exact h
  · rename_i hnew
    refine h.quiet ⟨fun _ _ => id, ?_, fun _ => id, fun _ _ => id⟩ rfl rfl rfl
      rfl
    intro other known hknown
    change (w.reports.insert run report)[other]? = some known
    rw [GoMap.get_insert, if_neg]
    · exact hknown
    · rintro rfl
      rw [hknown] at hnew
      exact hnew rfl

/-- A recorder begins with the candidates of its run. -/
theorem Filed.probe (h : w.Filed) (run : Nat) (threshold : Rat)
    (environmentSourced : Text → Bool) :
    (w.step config serverForURL agents
      (.probe run threshold environmentSourced)).Filed := by
  simp only [step]
  cases hreport : w.reports[run]? with
  | none => exact h
  | some report =>
      simp only
      split
      · exact h
      · rename_i hfirst
        refine h.follow ⟨fun _ _ => id, fun _ _ => id,
          fun _ hrun => List.mem_cons_of_mem _ hrun, ?_⟩
          (fun _ _ => h.entries _ _) ?_ (fun _ hcall => Or.inl hcall) rfl
        · intro other hprobed hnone
          have hne : run ≠ other := by
            rintro rfl
            exact hfirst hprobed
          exact (GoMap.get_set_of_ne _ hne _).trans hnone
        · intro other follow hget
          rcases get_follow hget with hold | ⟨rfl, hnext⟩
          · exact Or.inl hold
          · split at hnext
            · cases hnext
            · obtain rfl := Option.some.inj hnext
              refine Or.inr ⟨List.mem_cons_self, ?_, ?_, nofun⟩
              · intro stableID handle hhandle
                simp [Follow.handles] at hhandle
              · intro todo handles heq request hrequest
                obtain ⟨rfl, -⟩ := Follow.starting.inj heq
                exact measured_of_candidate (w := w) hreport hrequest

/-- A recorder starts its next candidate. -/
theorem Filed.startNext (h : w.Filed) {run : Nat} {found : StartSurroundings}
    (hallowed : w.Allowed config (.startNext run found)) :
    (w.step config serverForURL agents (.startNext run found)).Filed := by
  simp only [step]
  split
  · rename_i request todo handles hfollow
    have hok := h.follows run _ hfollow
    refine h.started hfollow hallowed.1
      (hallowed.2 request todo handles hfollow)
      (hok.todo _ _ rfl request List.mem_cons_self) ?_
    intro w' hold hbelongs
    refine ⟨hold.probed, ?_, ?_, nofun⟩
    · intro stableID handle hget
      rw [Follow.handles, GoMap.get_insert] at hget
      split at hget
      · rename_i hid
        rw [← Option.some.inj hget, ← hid]
        exact hbelongs
      · exact hold.handles stableID handle hget
    · intro todo' handles' heq other hother
      obtain ⟨rfl, -⟩ := Follow.starting.inj heq
      exact hold.todo _ _ rfl other (List.mem_cons_of_mem _ hother)
  · exact h

/-- A waiting recorder starts a refused candidate again. -/
theorem Filed.resume (h : w.Filed) {run : Nat} {stableID : Text}
    {found : StartSurroundings}
    (hallowed : w.Allowed config (.resume run stableID found)) :
    (w.step config serverForURL agents (.resume run stableID found)).Filed := by
  simp only [step]
  split
  · rename_i measured written current hfollow
    have hok := h.follows run _ hfollow
    split
    · exact h
    · rename_i request hretry
      split
      · exact h
      · obtain ⟨handle, hhandle, hretry⟩ := Option.bind_eq_some_iff.mp hretry
        have hbelongs := hok.handles stableID handle hhandle
        have hid := hbelongs.retry request hretry
        refine h.started hfollow hallowed.1
          (hallowed.2 measured written current hfollow handle request hhandle
            hretry) (hid ▸ hbelongs.measured) ?_
        intro w' hold hnew
        refine ⟨hold.probed, ?_, nofun, ?_⟩
        · intro other handle' hget
          rw [Follow.handles, GoMap.get_insert] at hget
          split at hget
          · rename_i hother
            rw [← Option.some.inj hget, ← hother]
            exact hnew
          · exact hold.handles other handle' hget
        · intro measured' written' current' heq
          obtain ⟨rfl, -, -⟩ := Follow.waiting.inj heq
          exact hold.measured _ _ _ rfl
  · exact h

/-- A recorder writes its probes for the first time. -/
theorem Filed.firstRecord (h : w.Filed) (run : Nat) (stored : Text → Bool) :
    (w.step config serverForURL agents (.firstRecord run stored)).Filed := by
  simp only [step]
  split
  · rename_i handles report hfollow hreport
    have hok := h.follows run _ hfollow
    have hmeasured : ∀ (stableID : Text) (checkedAt : Time),
        (measuredAt report.results handles)[stableID]? = some checkedAt →
          ∃ result, w.Measured run stableID result ∧
            result.checkedAt = checkedAt := by
      intro stableID checkedAt hget
      obtain ⟨result, hresult, hid, hat⟩ := get_measuredAt hget
      exact ⟨result, ⟨report, hreport, hresult, hid⟩, hat⟩
    split
    · refine h.follow (follow_extends hfollow none) (fun _ _ => h.entries _ _)
        ?_ (fun _ hcall => Or.inl hcall) rfl
      intro other follow hget
      rcases get_follow hget with hold | ⟨-, hnone⟩
      · exact Or.inl hold
      · cases hnone
    · have hext := follow_extends_of_written hfollow (some (.waiting
        (measuredAt report.results handles)
        (record (measuredAt report.results handles) stored
          (annotations agents w.sessions handles) ∅).current handles))
        (w.attached ++ (record (measuredAt report.results handles) stored
          (annotations agents w.sessions handles) ∅).calls) w.journal
      refine h.follow hext (fun _ _ => h.entries _ _) ?_ ?_ rfl
      · intro other follow hget
        rcases get_follow hget with hold | ⟨rfl, hnext⟩
        · exact Or.inl hold
        · obtain rfl := Option.some.inj hnext
          have hnew := hext.followOk hok
          refine Or.inr ⟨hnew.probed, hnew.handles, nofun, ?_⟩
          intro measured written current heq stableID checkedAt hget
          obtain ⟨rfl, -, -⟩ := Follow.waiting.inj heq
          obtain ⟨result, hresult, hat⟩ := hmeasured stableID checkedAt hget
          exact ⟨result, hext.measured hresult, hat⟩
      · intro call hcall
        rcases List.mem_append.mp hcall with hold | hnew
        · exact Or.inl hold
        · exact Or.inr (writeFiled_of_record h hfollow hmeasured hnew)
  · exact h

/-- A recorder writes the answers and journals them. -/
theorem Filed.complete (h : w.Filed) (run : Nat) (deadline : Bool)
    (stored : Text → Bool) :
    (w.step config serverForURL agents (.complete run deadline
      stored)).Filed := by
  simp only [step]
  split
  · rename_i measured written current report hfollow hreport
    split
    · exact h
    · have hok := h.follows run _ hfollow
      have hfinal : ∀ found ∈ annotations agents w.sessions current,
          (found.2.sessionID ≠ [] →
            w.createdFor[found.2.sessionID]? = some (run, found.1)) ∧
          ∃ result, w.Measured run found.1 result :=
        fun found hfound => belongs_of_annotated h hfollow hfound
      have hdone : (w.follows.set run none)[run]? = none :=
        GoMap.get_set_self _ _ _
      have hext := follow_extends_of_written hfollow none
        (w.attached ++ (record measured stored
          (annotations agents w.sessions current) written).calls)
        (w.journal ++ journalVerdicts report.results w.now
          (annotations agents w.sessions current))
      refine ⟨h.entries, ?_, ?_, ?_, ?_⟩
      · intro other follow hget
        rcases get_follow hget with hold | ⟨-, hnone⟩
        · exact hext.followOk (h.follows other follow hold)
        · cases hnone
      · intro call hcall
        rcases List.mem_append.mp hcall with hold | hnew
        · exact hext.writeFiled (h.attached call hold)
        · exact writeFiled_of_record h hfollow
            (hok.measured _ _ _ rfl) hnew
      · intro entry hentry
        rcases List.mem_append.mp hentry with hold | hnew
        · exact hext.entryFiled (h.journal entry hold)
        · intro hsession
          obtain ⟨found, hfound, hsame, hnode, hat⟩ := mem_journalVerdicts hnew
          obtain ⟨hcreated, hmeasured⟩ := hfinal found hfound
          obtain ⟨result, hresult, hchecked⟩ := measured_find hreport hmeasured
          rw [hsame] at hsession ⊢
          rw [hnode, hat]
          exact ⟨run, result, hcreated hsession, hresult, hchecked.symm,
            hok.probed, hdone⟩
      · -- an older line is of a run that was done, this run was not
        refine List.pairwise_append.mpr ⟨h.once, ?_, ?_⟩
        · refine (journalVerdicts_nodes annotations_nodup).imp_of_mem ?_
          intro earlier later hearlier hlater hne hsession hsame
          obtain ⟨found, hfound, hfrom, hnode, -⟩ :=
            mem_journalVerdicts hearlier
          obtain ⟨found', hfound', hfrom', hnode', -⟩ :=
            mem_journalVerdicts hlater
          have hcreated := (hfinal found hfound).1 (hfrom ▸ hsession)
          have hcreated' := (hfinal found' hfound').1
            (hfrom' ▸ hsame ▸ hsession)
          rw [← hfrom, hsame, hfrom', hcreated'] at hcreated
          apply hne
          rw [hnode, hnode']
          exact (Prod.mk.inj (Option.some.inj hcreated)).2.symm
        · intro earlier hearlier later hlater hsession hsame
          obtain ⟨other, result, hcreated, -, -, -, hnone⟩ :=
            h.journal earlier hearlier hsession
          obtain ⟨found, hfound, hfrom, -, -⟩ := mem_journalVerdicts hlater
          have hcreated' := (hfinal found hfound).1 (hfrom ▸ hsame ▸ hsession)
          rw [← hfrom, ← hsame, hcreated] at hcreated'
          obtain rfl := (Prod.mk.inj (Option.some.inj hcreated')).1
          rw [hfollow] at hnone
          cases hnone
  · exact h

/-- The alert path starts a candidate; it reads the handle, the recorders do
not. -/
theorem Filed.alert (h : w.Filed) (run : Nat) (threshold : Rat)
    (environmentSourced : Text → Bool) (stableID : Text) (notBefore : Time)
    {found : StartSurroundings} (hfresh : w.FreshSession found) :
    (w.step config serverForURL agents
      (.alert run threshold environmentSourced stableID notBefore
        found)).Filed := by
  simp only [step]
  split
  · exact h
  · split
    · exact h
    · obtain ⟨hentries, -⟩ := @start_spec config w run found _ h
        hfresh
      exact h.follow start_extends hentries (fun _ _ hget => Or.inl hget)
        (fun _ hcall => Or.inl hcall) rfl

theorem filed_step {event : Event} (h : w.Filed)
    (hallowed : w.Allowed config event) :
    (w.step config serverForURL agents event).Filed := by
  have hsame : ∀ sessions now,
      ({ w with sessions := sessions, now := now } : World).Filed :=
    fun _ _ => h.quiet
      ⟨fun _ _ => id, fun _ _ => id, fun _ => id, fun _ _ => id⟩ rfl rfl rfl rfl
  cases event with
  | finish run report => exact h.finish run report
  | probe run threshold environmentSourced =>
      exact h.probe run threshold environmentSourced
  | startNext run found => exact h.startNext hallowed
  | firstRecord run stored => exact h.firstRecord run stored
  | resume run stableID found => exact h.resume hallowed
  | complete run deadline stored => exact h.complete run deadline stored
  | alert run threshold environmentSourced stableID notBefore found =>
      exact h.alert run threshold environmentSourced stableID notBefore hallowed
  | session sessionID view => exact hsame _ _
  | evict sessionID => exact hsame _ _
  | tick duration => exact hsame _ _

end Steps

/-- Before the first run. -/
def empty (now : Time) : World where
  now := now
  sessions := ∅
  entries := ∅
  reports := ∅
  follows := ∅
  probed := []
  attached := []
  journal := []
  createdFor := ∅

theorem filed_empty (now : Time) : (empty now).Filed := by
  constructor <;> simp [empty]

end World

section Claim

variable {config : Config} {serverForURL : Text → Option Text}
  {agents : Text → Option AgentNames}

/-- As long as no recorder is handed the session of another measurement, no
session is journaled twice, and its probe is attached to the measurement it was
created for and journaled beside it. -/
theorem verdicts_filed_once {now : Time} {events : List Event}
    (hrun : Admissible (World.step config serverForURL agents)
      (World.Allowed config) (World.empty now) events) :
    let w := run (World.step config serverForURL agents) (World.empty now)
      events
    (w.journal.Pairwise fun earlier later =>
      earlier.sessionID ≠ [] → earlier.sessionID ≠ later.sessionID) ∧
    (∀ call ∈ w.attached, w.WriteFiled call) ∧
    ∀ entry ∈ w.journal, entry.sessionID ≠ [] → ∃ run result,
      w.createdFor[entry.sessionID]? = some (run, entry.stableID) ∧
        w.Measured run entry.stableID result ∧
        result.checkedAt = entry.localAt := by
  have hfiled := run_invariant World.Filed hrun (World.filed_empty now)
    fun _ _ h hallowed => World.filed_step h hallowed
  refine ⟨hfiled.once, hfiled.attached, ?_⟩
  intro entry hentry hsession
  obtain ⟨run, result, hcreated, hmeasured, hat, -⟩ :=
    hfiled.journal entry hentry hsession
  exact ⟨run, result, hcreated, hmeasured, hat⟩

end Claim

namespace Sample

def config : Config := { cooldown := 60, maxConcurrent := 2, pollInterval := 1 }

/-- A run that could not measure the node. -/
def failedAt (now : Time) : RunReport where
  source := "schedule"
  results := [{ stableID := "node", error := "timeout", checkedAt := now }]
  trimmed := by
    intro result hresult
    obtain rfl := List.mem_singleton.mp hresult
    rfl
  distinct := List.nodup_singleton _

/-- The session of the node, answered by an agent. -/
def answered : SessionView where
  trigger := "auto_speed_fallback"
  state := "completed"
  terminal := true
  answer := some
    { agentID := "agent", status := "offline", checkedAt := 12
      reliable := true }

/-- The surroundings of the start of a session. -/
def created (sessionID : Text) : StartSurroundings where
  availability := 0
  created := .ok (sessionID,
    { trigger := "auto_speed_fallback", state := "running", terminal := false })

/-- A run, the session of its node, and the answer. -/
def probedRun : List Event :=
  [.finish 1 (failedAt 10), .probe 1 0 fun _ => true,
    .startNext 1 (created "first"), .firstRecord 1 fun _ => true,
    .session "first" answered, .complete 1 false fun _ => true]

abbrev step : World → Event → World :=
  World.step config (fun _ => none) fun _ => none

theorem probedRun_allowed :
    Admissible step (World.Allowed config) (World.empty 0) probedRun := by
  simp only [probedRun, admissible_cons]
  refine ⟨trivial, trivial, ⟨?_, ?_⟩, trivial, trivial, trivial,
    admissible_nil _⟩
  · intro sessionID view hcreated
    obtain rfl := (Prod.mk.inj (Except.ok.inj hcreated)).1
    decide
  · intro request todo handles _ existing hexisting
    have hempty : (step (step (World.empty 0) (.finish 1 (failedAt 10)))
        (.probe 1 0 fun _ => true)).entries = ∅ := by
      decide
    rw [hempty] at hexisting
    have := get_prune hexisting
    simp at this

theorem verdicts_filed_once_probedRun :
    ((run step (World.empty 0) probedRun).journal.map fun entry =>
      (entry.sessionID, entry.localAt)) = [(("first" : Text), 10)] ∧
    (run step (World.empty 0) probedRun).journal.Pairwise fun earlier later =>
      earlier.sessionID ≠ [] → earlier.sessionID ≠ later.sessionID :=
  ⟨by decide, (verdicts_filed_once probedRun_allowed).1⟩

/-- The next run meets the node inside its cooldown and is handed the session
of the first one. -/
def withinCooldown : List Event :=
  probedRun ++
    [.tick 20, .finish 2 (failedAt 20), .probe 2 0 fun _ => true,
      .startNext 2 (created "second"), .firstRecord 2 fun _ => true,
      .complete 2 false fun _ => true]

/-- Its answer is journaled a second time and attached to the later
measurement. -/
theorem verdict_filed_twice :
    let w := run step (World.empty 0) withinCooldown
    ¬(w.journal.Pairwise fun earlier later =>
      earlier.sessionID ≠ [] → earlier.sessionID ≠ later.sessionID) ∧
    ¬∀ call ∈ w.attached, w.WriteFiled call := by
  refine ⟨by decide +kernel, ?_⟩
  intro hall
  have hcalls : ∃ call ∈ (run step (World.empty 0) withinCooldown).attached,
      call.probe.sessionID = ("first" : Text) ∧ call.checkedAt = 20 := by
    decide +kernel
  have hcreated : ((run step (World.empty 0) withinCooldown).createdFor[
      ("first" : Text)]?).map Prod.fst = some 1 := by
    decide +kernel
  have hreport : ((run step (World.empty 0) withinCooldown).reports[1]?).map
      (fun report => report.results.map Result.checkedAt) = some [10] := by
    decide +kernel
  obtain ⟨call, hcall, hsession, hat⟩ := hcalls
  obtain ⟨other, result, hfor, ⟨report, hknown, hresult, -⟩, hchecked⟩ :=
    hall call hcall (by rw [hsession]; decide)
  rw [hsession] at hfor
  rw [hfor] at hcreated
  obtain rfl : other = 1 := Option.some.inj hcreated
  rw [hknown] at hreport
  have hmem := List.mem_map_of_mem (f := Result.checkedAt) hresult
  rw [show report.results.map Result.checkedAt = [10] from
    Option.some.inj hreport, hchecked, hat] at hmem
  revert hmem
  decide

end Sample

end XrayChecker.Speedprobe

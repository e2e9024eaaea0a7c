import XrayChecker.Speedtest.DeleteRace
import XrayChecker.Speedtest.Persistence

/-
What is stored for a node over every run of the manager: a history that is
strictly newest first, the latest result at its head, and both back again after
the file was loaded.
-/

namespace XrayChecker.Speedtest

open Go Machine Manager

/-- What is stored for one node, all of it measured by some time. -/
structure Tidy (stableID : Text) (bound : Time) (records : NodeRecords) :
    Prop where
  own : ∀ entry ∈ records.history.getD [], entry.stableID = stableID
  ownLatest : ∀ result, records.latest = some result →
    result.stableID = stableID ∧ result.checkedAt.isZero = false ∧
      result.checkedAt ≤ bound
  newestFirst : (records.history.getD []).Pairwise
    fun newer older => older.checkedAt < newer.checkedAt
  newest : ∀ head rest, records.history.getD [] = head :: rest →
    records.latest = some head
  known : records ≠ ⟨none, none⟩ →
    trimSpace stableID = stableID ∧ stableID ≠ []

/-- A measurement as `loadResults` takes it from the file. -/
def reloadedResult (active : GoMap Text ProxyConfig) (stableID : Text)
    (result : Result) : Result :=
  normalizeResult stableID active[stableID]? result

/-- What `loadResults` makes of the records of a node in the file: the history
as far as it is retained; a node without one is given its latest result. -/
def reloaded (active : GoMap Text ProxyConfig) (historyRetentionDays : Int)
    (now : Time) (stableID : Text) (records : NodeRecords) : NodeRecords where
  latest := records.latest.map (reloadedResult active stableID)
  history :=
    let entries :=
      if records.history.getD [] = [] then records.latest.toList
      else records.history.getD []
    let kept := retainResultHistory entries
      (historyCutoff historyRetentionDays now)
    if kept = [] then none
    else some (kept.map (reloadedResult active stableID))

theorem checkedAt_normalizeResult (stableID : Text)
    (proxy : Option ProxyConfig) (result : Result) :
    (normalizeResult stableID proxy result).checkedAt = result.checkedAt := by
  cases proxy <;> rfl

theorem normalizeResult_idem (stableID : Text) (proxy : Option ProxyConfig)
    (result : Result) :
    normalizeResult stableID proxy (normalizeResult stableID proxy result) =
      normalizeResult stableID proxy result := by
  cases proxy <;> rfl

/-- Entries that are newest first already stay as they are. -/
theorem sortNewest_of_pairwise {entries : List Result}
    (h : entries.Pairwise fun newer older =>
      older.checkedAt < newer.checkedAt) :
    sortNewest entries = entries :=
  List.Pairwise.insertionSort_eq (h.imp fun hlt => le_of_lt hlt)

theorem normalizeResultHistory_of_pairwise {entries : List Result}
    (h : entries.Pairwise fun newer older => older.checkedAt < newer.checkedAt)
    (stableID : Text) (proxy : Option ProxyConfig) (days : Int) (now : Time) :
    normalizeResultHistory stableID proxy entries days now =
      (retainResultHistory entries (historyCutoff days now)).map
        (normalizeResult stableID proxy) := by
  have hmap : (entries.map (normalizeResult stableID proxy)).Pairwise
      fun newer older => older.checkedAt < newer.checkedAt := by
    rw [List.pairwise_map]
    simpa only [checkedAt_normalizeResult] using h
  rw [normalizeResultHistory, sortNewest_of_pairwise hmap, retainResultHistory,
    retainResultHistory, List.filter_map]
  congr 1
  apply List.filter_congr
  intro entry _
  simp [retained, checkedAt_normalizeResult]

theorem retained_normalizeResult (cutoff : Int) (stableID : Text)
    (proxy : Option ProxyConfig) (result : Result) :
    retained cutoff (normalizeResult stableID proxy result) =
      retained cutoff result := by
  simp only [retained, checkedAt_normalizeResult]

/-- Where the newest entry is not retained, no entry is. -/
theorem retainResultHistory_cons {head : Result} {rest : List Result}
    (hdated : head.checkedAt.isZero = false)
    (h : (head :: rest).Pairwise
      fun newer older => older.checkedAt < newer.checkedAt) (cutoff : Int) :
    retainResultHistory (head :: rest) cutoff =
      if retained cutoff head then head :: retainResultHistory rest cutoff
      else [] := by
  by_cases hhead : retained cutoff head = true
  · simp [retainResultHistory, hhead]
  · rw [if_neg hhead, retainResultHistory, List.filter_eq_nil_iff]
    have hold : (head.checkedAt : Int) < cutoff := by
      simpa [retained, hdated] using hhead
    intro entry hentry hkept
    have hcutoff : cutoff ≤ (entry.checkedAt : Int) := by
      simp only [retained, Bool.and_eq_true, decide_eq_true_eq] at hkept
      exact hkept.2
    have hle : entry.checkedAt ≤ head.checkedAt := by
      rcases List.mem_cons.mp hentry with rfl | hrest
      · exact le_refl _
      · exact le_of_lt (List.rel_of_pairwise_cons h hrest)
    have : (entry.checkedAt : Int) ≤ head.checkedAt := by exact_mod_cast hle
    omega

/-- Nothing stored. -/
theorem Tidy.nothing (stableID : Text) (bound : Time) :
    Tidy stableID bound ⟨none, none⟩ where
  own _ hentry := nomatch hentry
  ownLatest _ hlatest := nomatch hlatest
  newestFirst := List.Pairwise.nil
  newest _ _ hhistory := nomatch hhistory
  known hstored := absurd rfl hstored

section

variable {stableID : Text} {bound : Time} {records : NodeRecords}

theorem Tidy.mono {later : Time} (h : Tidy stableID bound records)
    (hle : bound ≤ later) : Tidy stableID later records where
  own := h.own
  ownLatest result hlatest :=
    have hown := h.ownLatest result hlatest
    ⟨hown.1, hown.2.1, hown.2.2.trans hle⟩
  newestFirst := h.newestFirst
  newest := h.newest
  known := h.known

/-- The latest result is the newest, so the bound is one on every entry. -/
theorem Tidy.checkedAt_le (h : Tidy stableID bound records) {entry : Result}
    (hentry : entry ∈ records.history.getD []) : entry.checkedAt ≤ bound := by
  cases hhistory : records.history.getD [] with
  | nil =>
      rw [hhistory] at hentry
      cases hentry
  | cons head rest =>
      have hhead := (h.ownLatest head (h.newest head rest hhistory)).2.2
      have hsorted := h.newestFirst
      rw [hhistory] at hentry hsorted
      rcases List.mem_cons.mp hentry with rfl | hrest
      · exact hhead
      · exact (le_of_lt (List.rel_of_pairwise_cons hsorted hrest)).trans hhead

theorem Tidy.head_dated (h : Tidy stableID bound records) {head : Result}
    {rest : List Result} (hhistory : records.history.getD [] = head :: rest) :
    head.checkedAt.isZero = false :=
  (h.ownLatest head (h.newest head rest hhistory)).2.1

/-- A measurement taken after everything that is stored. -/
theorem Tidy.recorded (h : Tidy stableID bound records) {result : Result}
    (hid : result.stableID = stableID)
    (hknown : trimSpace stableID = stableID ∧ stableID ≠ [])
    (hafter : bound < result.checkedAt) (days : Int) (now : Time) :
    Tidy stableID result.checkedAt (records.recorded days result now) := by
  have hdated : result.checkedAt.isZero = false := by
    rw [Time.isZero, beq_eq_false_iff_ne]
    exact Nat.ne_of_gt (Nat.zero_lt_of_lt hafter)
  have hsorted : (result :: records.history.getD []).Pairwise
      fun newer older => older.checkedAt < newer.checkedAt := by
    rw [List.pairwise_cons]
    exact ⟨fun entry hentry => (h.checkedAt_le hentry).trans_lt hafter,
      h.newestFirst⟩
  constructor
  · intro entry hentry
    rcases List.mem_cons.mp (List.mem_of_mem_filter hentry) with rfl | hold
    · exact hid
    · exact h.own entry hold
  · rintro _ ⟨rfl⟩
    exact ⟨hid, hdated, le_refl _⟩
  · exact hsorted.sublist List.filter_sublist
  · intro head rest hhistory
    simp only [NodeRecords.recorded, Option.getD_some,
      retainResultHistory_cons hdated hsorted] at hhistory
    split at hhistory
    · rw [List.cons.injEq] at hhistory
      exact congrArg some hhistory.1
    · cases hhistory
  · intro _
    exact hknown

/-- Records that come from others of the same node: each measurement is
rewritten without a change to its node or its time, and old entries may be
gone from the history. -/
structure Derived (stableID : Text) (derived records : NodeRecords)
    (rewrite : Result → Result) (keep : Result → Bool) : Prop where
  own : ∀ result, result.stableID = stableID →
    (rewrite result).stableID = stableID
  checkedAt : ∀ result, (rewrite result).checkedAt = result.checkedAt
  newer : ∀ older newer : Result, older.checkedAt < newer.checkedAt →
    keep older = true → keep newer = true
  latest : derived.latest = records.latest.map rewrite
  history : derived.history.getD [] =
    ((records.history.getD []).filter keep).map rewrite
  stored : derived.history ≠ none → records.history ≠ none

/-- What is kept of a history starts with its newest entry. -/
theorem filter_newest {keep : Result → Bool} {entries : List Result}
    (hsorted : entries.Pairwise
      fun newer older => older.checkedAt < newer.checkedAt)
    (hnewer : ∀ older newer : Result, older.checkedAt < newer.checkedAt →
      keep older = true → keep newer = true)
    {head : Result} {rest : List Result}
    (hkept : entries.filter keep = head :: rest) :
    ∃ dropped, entries = head :: dropped := by
  cases entries with
  | nil => cases hkept
  | cons first others =>
      have hhead : head ∈ (first :: others).filter keep := by
        rw [hkept]
        exact List.mem_cons_self
      obtain ⟨hmem, hkeep⟩ := List.mem_filter.mp hhead
      have hfirst : keep first = true := by
        rcases List.mem_cons.mp hmem with rfl | hrest
        · exact hkeep
        · exact hnewer _ _ (List.rel_of_pairwise_cons hsorted hrest) hkeep
      rw [List.filter_cons_of_pos hfirst, List.cons.injEq] at hkept
      exact ⟨others, by rw [hkept.1]⟩

theorem Derived.tidy {derived : NodeRecords} {rewrite : Result → Result}
    {keep : Result → Bool}
    (hderived : Derived stableID derived records rewrite keep)
    (h : Tidy stableID bound records) : Tidy stableID bound derived := by
  constructor
  · intro entry hentry
    rw [hderived.history] at hentry
    obtain ⟨old, hold, rfl⟩ := List.mem_map.mp hentry
    exact hderived.own old (h.own old (List.mem_of_mem_filter hold))
  · intro result hlatest
    rw [hderived.latest] at hlatest
    obtain ⟨old, hold, rfl⟩ := Option.map_eq_some_iff.mp hlatest
    obtain ⟨hid, hdated, hle⟩ := h.ownLatest old hold
    rw [hderived.checkedAt]
    exact ⟨hderived.own old hid, hdated, hle⟩
  · rw [hderived.history, List.pairwise_map]
    simp only [hderived.checkedAt]
    exact h.newestFirst.sublist List.filter_sublist
  · intro head rest hhistory
    rw [hderived.history] at hhistory
    obtain ⟨old, olds, hkept, rfl, -⟩ := List.map_eq_cons_iff.mp hhistory
    obtain ⟨dropped, hentries⟩ :=
      filter_newest h.newestFirst hderived.newer hkept
    rw [hderived.latest, h.newest old dropped hentries]
    rfl
  · intro hstored
    apply h.known
    rintro rfl
    apply hstored
    have hlatest : derived.latest = none := hderived.latest
    have hhistory : derived.history = none := by
      by_contra hsome
      exact hderived.stored hsome rfl
    cases derived
    rw [NodeRecords.mk.injEq]
    exact ⟨hlatest, hhistory⟩

/-- Nothing older than the head of a history was measured after the time. -/
def Once (startedAt : Time) (records : NodeRecords) : Prop :=
  ∀ entry ∈ (records.history.getD []).tail, entry.checkedAt ≤ startedAt

theorem Derived.once {derived : NodeRecords} {rewrite : Result → Result}
    {keep : Result → Bool}
    (hderived : Derived stableID derived records rewrite keep)
    {startedAt : Time} (h : Once startedAt records) :
    Once startedAt derived := by
  intro entry hentry
  rw [hderived.history, ← List.map_tail] at hentry
  obtain ⟨old, hold, rfl⟩ := List.mem_map.mp hentry
  rw [hderived.checkedAt]
  apply h old
  cases hhistory : records.history.getD [] with
  | nil =>
      rw [hhistory] at hold
      cases hold
  | cons head rest =>
      rw [hhistory, List.filter_cons] at hold
      split at hold
      · exact List.mem_of_mem_filter hold
      · exact List.mem_of_mem_filter (List.mem_of_mem_tail hold)

end

section

variable (active : GoMap Text ProxyConfig) (days : Int) (now : Time)
  {state : ResultStateFile} {bound : Time}

/-- The records of a node in the file. -/
def ResultStateFile.node (state : ResultStateFile) (stableID : Text) :
    NodeRecords :=
  ⟨state.results[stableID]?, state.history[stableID]?⟩

theorem known_of_mem_history (htidy : ∀ id, Tidy id bound (state.node id))
    {key : Text} (hkey : key ∈ state.history.keys) :
    trimSpace key = key ∧ key ≠ [] := by
  apply (htidy key).known
  intro hnone
  rw [Std.ExtTreeMap.mem_keys, Std.ExtTreeMap.mem_iff_isSome_getElem?] at hkey
  have := congrArg NodeRecords.history hnone
  simp only [ResultStateFile.node] at this
  rw [this] at hkey
  cases hkey

theorem known_of_mem_results (htidy : ∀ id, Tidy id bound (state.node id))
    {key : Text} (hkey : key ∈ state.results.keys) :
    trimSpace key = key ∧ key ≠ [] := by
  apply (htidy key).known
  intro hnone
  rw [Std.ExtTreeMap.mem_keys, Std.ExtTreeMap.mem_iff_isSome_getElem?] at hkey
  have := congrArg NodeRecords.latest hnone
  simp only [ResultStateFile.node] at this
  rw [this] at hkey
  cases hkey

/-- The loop over the histories. -/
theorem node_loadHistories (htidy : ∀ id, Tidy id bound (state.node id))
    (stableID : Text) :
    (state.history.keys.foldl (loadHistory active days now state) {}).node
        stableID =
      match ((retainResultHistory ((state.history[stableID]?).getD [])
        (historyCutoff days now)).map (reloadedResult active stableID)) with
      | [] => ⟨none, none⟩
      | newest :: older => ⟨some newest, some (newest :: older)⟩ := by
  have hentries : ∀ key, normalizeResultHistory key active[key]?
      ((state.history[key]?).getD []) days now =
        (retainResultHistory ((state.history[key]?).getD [])
          (historyCutoff days now)).map (reloadedResult active key) :=
    fun key => normalizeResultHistory_of_pairwise (htidy key).newestFirst _ _
      _ _
  rw [foldl_at Loading.node (loadHistory active days now state)
    (fun key records =>
      match ((retainResultHistory ((state.history[key]?).getD [])
        (historyCutoff days now)).map (reloadedResult active key)) with
      | [] => records
      | newest :: older => ⟨some newest, some (newest :: older)⟩)
    _ _ Std.ExtTreeMap.nodup_keys]
  · by_cases hkey : stableID ∈ state.history.keys
    · rw [if_pos hkey]
      rfl
    · rw [if_neg hkey]
      rw [Std.ExtTreeMap.mem_keys] at hkey
      rw [Std.ExtTreeMap.getElem?_eq_none hkey]
      rfl
  · intro loading key hkey
    obtain ⟨htrim, hne⟩ := known_of_mem_history htidy hkey
    simp only [loadHistory, htrim, if_neg hne, hentries]
    split
    · rename_i hnil
      simp only [hnil]
    · rename_i newest older hcons
      simp only [hcons, Loading.node, NodeRecords.mk.injEq]
      exact ⟨by simp, by simp⟩
  · intro loading key hkey other hother
    obtain ⟨htrim, hne⟩ := known_of_mem_history htidy hkey
    simp only [loadHistory, htrim, if_neg hne]
    split
    · rfl
    · simp [Loading.node, GoMap.get_insert, hother.symm]

/-- One iteration over the latest results, on the records of the node. -/
def takeLatest (key : Text) (result : Result) (records : NodeRecords) :
    NodeRecords :=
  let result := reloadedResult active key result
  if !newer records.latest result then records
  else
    { latest := some result
      history :=
        if resultWithinRetention result days now then
          some (normalizeResultHistory key active[key]?
            (result :: records.history.getD []) days now)
        else records.history }

theorem node_loadLatests (htidy : ∀ id, Tidy id bound (state.node id))
    (start : Loading) (stableID : Text) :
    (state.results.keys.foldl (loadLatest active days now state) start).node
        stableID =
      match state.results[stableID]? with
      | none => start.node stableID
      | some result =>
          takeLatest active days now stableID result (start.node stableID) := by
  rw [foldl_at Loading.node (loadLatest active days now state)
    (fun key records =>
      match state.results[key]? with
      | none => records
      | some result => takeLatest active days now key result records)
    _ _ Std.ExtTreeMap.nodup_keys]
  · by_cases hkey : stableID ∈ state.results.keys
    · rw [if_pos hkey]
    · rw [if_neg hkey]
      rw [Std.ExtTreeMap.mem_keys] at hkey
      rw [Std.ExtTreeMap.getElem?_eq_none hkey]
  · intro loading key hkey
    obtain ⟨htrim, hne⟩ := known_of_mem_results htidy hkey
    simp only [loadLatest, htrim]
    cases hresult : state.results[key]? with
    | none => rfl
    | some result =>
        have hresult : normalizeResult key active[key]? result =
            reloadedResult active key result := rfl
        simp only [if_neg hne, takeLatest, Loading.node, hresult]
        by_cases hnewer : newer loading.results[key]?
            (reloadedResult active key result) = true
        · simp only [hnewer, Bool.not_true, Bool.false_eq_true, ↓reduceIte,
            NodeRecords.mk.injEq]
          refine ⟨by simp, ?_⟩
          split <;> simp
        · simp [hnewer]
  · intro loading key hkey other hother
    obtain ⟨htrim, hne⟩ := known_of_mem_results htidy hkey
    simp only [loadLatest, htrim]
    cases hresult : state.results[key]? with
    | none => rfl
    | some result =>
        simp only [if_neg hne]
        split
        · rfl
        · simp only [Loading.node, NodeRecords.mk.injEq]
          refine ⟨by simp [GoMap.get_insert, hother.symm], ?_⟩
          split
          · simp [GoMap.get_insert, hother.symm]
          · rfl

/-- `loadResults` of a tidy file. -/
theorem node_loading (htidy : ∀ id, Tidy id bound (state.node id))
    (stableID : Text) :
    (loading active days now state).node stableID =
      reloaded active days now stableID (state.node stableID) := by
  have h := htidy stableID
  rw [loading, node_loadLatests active days now htidy,
    node_loadHistories active days now htidy]
  have hwithin : ∀ result, resultWithinRetention
      (reloadedResult active stableID result) days now =
        retained (historyCutoff days now) result :=
    fun result => retained_normalizeResult _ _ _ result
  cases hlatest : state.results[stableID]? with
  | none =>
      -- Without a latest result there is no history either.
      have hhistory : (state.history[stableID]?).getD [] = [] := by
        cases hentries : (state.history[stableID]?).getD [] with
        | nil => rfl
        | cons head rest =>
            have hhead := h.newest head rest hentries
            rw [ResultStateFile.node, hlatest] at hhead
            cases hhead
      simp [reloaded, ResultStateFile.node, hhistory, hlatest,
        retainResultHistory]
  | some result =>
      have hdated := (h.ownLatest result hlatest).2.1
      cases hentries : (state.history[stableID]?).getD [] with
      | nil =>
          by_cases hkept : retained (historyCutoff days now) result = true
          · have hone : normalizeResultHistory stableID active[stableID]?
                [reloadedResult active stableID result] days now =
                  [reloadedResult active stableID result] := by
              rw [normalizeResultHistory_of_pairwise
                (List.pairwise_singleton _ _), retainResultHistory,
                List.filter_singleton, ← resultWithinRetention, hwithin, hkept]
              exact congrArg (fun r => [r]) (normalizeResult_idem _ _ _)
            simp [reloaded, ResultStateFile.node, hentries, hlatest,
              retainResultHistory, takeLatest, newer, hwithin, hkept, hone]
          · simp [reloaded, ResultStateFile.node, hentries, hlatest,
              retainResultHistory, takeLatest, newer, hwithin, hkept]
      | cons head rest =>
          have hhistory : state.history[stableID]? = some (head :: rest) := by
            cases hsome : state.history[stableID]? with
            | none => rw [hsome] at hentries; cases hentries
            | some entries =>
              rw [hsome] at hentries
              exact congrArg some hentries
          have hhead : result = head := by
            have hnewest := h.newest head rest hentries
            rw [ResultStateFile.node, hlatest] at hnewest
            exact Option.some.inj hnewest
          subst hhead
          have hsorted := h.newestFirst
          simp only [ResultStateFile.node, hentries] at hsorted
          by_cases hkept : retained (historyCutoff days now) result = true
          · simp [reloaded, ResultStateFile.node, hhistory, hlatest,
              retainResultHistory_cons hdated hsorted, takeLatest, newer,
              hkept]
          · simp [reloaded, ResultStateFile.node, hhistory, hlatest,
              retainResultHistory_cons hdated hsorted, takeLatest, newer,
              hwithin, hkept]

end

end XrayChecker.Speedtest

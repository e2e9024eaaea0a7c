import XrayChecker.Nodemerge.Merge

/-
The measurements of merged nodes: every one of them is in the history of the
target exactly once, in an order that does not depend on how they came there.
-/

namespace XrayChecker.Nodemerge

open Go

section Canonical

variable (encode : Result → Text)

/-- The measurements are told apart by their encodings. -/
def Separates (entries : List Result) : Prop :=
  ∀ a ∈ entries, ∀ b ∈ entries, encode a = encode b → a = b

/-- The history `mergeHistory` makes of measurements that have the identity of
the target. -/
def canonical (entries : List Result) : List Result :=
  sortDesc (historyKey encode) (distinctBy encode entries)

variable {encode} {entries others : List Result}

theorem Separates.mono (h : Separates encode entries)
    (hsub : ∀ e ∈ others, e ∈ entries) : Separates encode others :=
  fun a ha b hb => h a (hsub a ha) b (hsub b hb)

theorem mem_canonical (h : Separates encode entries) (e : Result) :
    e ∈ canonical encode entries ↔ e ∈ entries := by
  rw [canonical, mem_sortDesc]
  constructor
  · exact fun he => (distinctBy_sublist encode entries).mem he
  · intro he
    obtain ⟨kept, hkept, hcode⟩ := List.mem_map.mp
      ((mem_map_distinctBy encode entries (encode e)).mpr
        (List.mem_map_of_mem he))
    rwa [← h kept ((distinctBy_sublist encode entries).mem hkept) e he hcode]

/-- No measurement is listed twice. -/
theorem canonical_nodup (entries : List Result) :
    ((canonical encode entries).map encode).Nodup :=
  ((sortDesc_perm _ _).map encode).nodup_iff.mpr
    (distinctBy_nodup encode entries)

/-- The newest one comes first. -/
theorem canonical_sorted (entries : List Result) :
    (canonical encode entries).Pairwise fun a b =>
      b.checkedAt ≤ a.checkedAt := by
  refine (sortDesc_sorted (historyKey encode) _).imp ?_
  intro a b hle
  rcases (Prod.Lex.toLex_le_toLex).mp hle with hlt | ⟨hsame, -⟩
  · exact hlt.le
  · exact hsame.le

/-- Only which measurements there are counts. -/
theorem canonical_congr (h : Separates encode entries)
    (hsame : ∀ e, e ∈ others ↔ e ∈ entries) :
    canonical encode others = canonical encode entries := by
  have hothers : Separates encode others :=
    h.mono fun e he => (hsame e).mp he
  have hperm : (canonical encode others).Perm (canonical encode entries) := by
    rw [List.perm_ext_iff_of_nodup
      (List.Nodup.of_map encode (canonical_nodup others))
      (List.Nodup.of_map encode (canonical_nodup entries))]
    intro e
    rw [mem_canonical hothers, mem_canonical h, hsame]
  refine hperm.eq_of_pairwise ?_ (sortDesc_sorted _ _) (sortDesc_sorted _ _)
  intro a b ha hb hba hab
  have hkey := le_antisymm hab hba
  have hcode : encode a = encode b := congrArg
    (fun key : Time ×ₗ Textᵒᵈ => OrderDual.ofDual (ofLex key).2) hkey
  exact hothers a ((mem_canonical hothers a).mp ha) b
    ((mem_canonical hothers b).mp (hperm.mem_iff.mpr hb)) hcode

end Canonical

section Merging

variable {Run : Type} (encode : Result → Text) (target : NodeRecord)

/-- What is stored of a node: its history and its latest result. -/
def SpeedResultState.entries (state : SpeedResultState Run) (id : Text) :
    List Result :=
  (state.history[id]?).getD [] ++ (state.results[id]?).toList

/-- The same measurements under the identity of the target. -/
def SpeedResultState.entriesUnder (state : SpeedResultState Run) (id : Text) :
    List Result :=
  (state.entries id).map (·.under target)

/-- All that is stored of some nodes. -/
def SpeedResultState.pool (state : SpeedResultState Run) (ids : List Text) :
    List Result :=
  ids.flatMap (state.entriesUnder target)

/-- The sources are merged into the target one after the other. -/
def mergeSpeedAll (targetID : Text) (now : Time) (state : SpeedResultState Run)
    (sources : List Text) : SpeedResultState Run :=
  sources.foldl
    (fun state sourceID =>
      mergeSpeedState encode state sourceID targetID target now)
    state

variable {encode target} {state : SpeedResultState Run}
  {sourceID targetID : Text} {now : Time}

section Step

variable (encode target state now)

/-- The measurements one merge brings together, as the code lists them. -/
def gathered (sourceID targetID : Text) : List Result :=
  ((state.history[sourceID]?).getD [] ++ (state.history[targetID]?).getD [] ++
    (state.results[sourceID]?).toList ++
    (state.results[targetID]?).toList).map (·.under target)

theorem mem_gathered {e : Result} :
    e ∈ gathered target state sourceID targetID ↔
      e ∈ state.entriesUnder target sourceID ∨
        e ∈ state.entriesUnder target targetID := by
  simp only [gathered, SpeedResultState.entriesUnder,
    SpeedResultState.entries, List.map_append, List.mem_append]
  tauto

theorem mergeSpeedState_history (hdiffer : sourceID ≠ targetID) (id : Text) :
    (mergeSpeedState encode state sourceID targetID target now).history[id]? =
      if id = sourceID then none
      else if id = targetID then
        if canonical encode (gathered target state sourceID targetID) = [] then
          none
        else some (canonical encode (gathered target state sourceID targetID))
      else state.history[id]? := by
  simp only [mergeSpeedState, mergeHistory, List.append_nil]
  rw [GoMap.get_set, GoMap.get_erase]
  by_cases hs : id = sourceID
  · subst hs
    rw [if_neg (Ne.symm hdiffer), if_pos rfl, if_pos rfl]
  rw [if_neg hs, if_neg (Ne.symm hs)]
  by_cases ht : id = targetID
  · rw [if_pos ht.symm, if_pos ht]
    rfl
  · rw [if_neg ht, if_neg (Ne.symm ht)]

theorem mergeSpeedState_results (hdiffer : sourceID ≠ targetID) (id : Text) :
    (mergeSpeedState encode state sourceID targetID target now).results[id]? =
      if id = sourceID then none
      else if id = targetID then
        (canonical encode (gathered target state sourceID targetID)).head?
      else state.results[id]? := by
  simp only [mergeSpeedState, mergeHistory, List.append_nil]
  rw [GoMap.get_set, GoMap.get_erase]
  by_cases hs : id = sourceID
  · subst hs
    rw [if_neg (Ne.symm hdiffer), if_pos rfl, if_pos rfl]
  rw [if_neg hs, if_neg (Ne.symm hs)]
  by_cases ht : id = targetID
  · rw [if_pos ht.symm, if_pos ht]
    rfl
  · rw [if_neg ht, if_neg (Ne.symm ht)]

end Step

/-- The history of the target is in order, and its result is the newest. -/
structure InOrder (encode : Result → Text) (target : NodeRecord)
    (state : SpeedResultState Run) (targetID : Text) : Prop where
  history : state.history[targetID]? =
    if canonical encode (state.entriesUnder target targetID) = [] then none
    else some (canonical encode (state.entriesUnder target targetID))
  results : state.results[targetID]? =
    (canonical encode (state.entriesUnder target targetID)).head?

theorem under_of_mem_map {entries : List Result} {e : Result}
    (h : e ∈ entries.map (·.under target)) : e.under target = e := by
  obtain ⟨entry, -, rfl⟩ := List.mem_map.mp h
  rfl

variable (now)

/-- What is stored of the target after a merge. -/
theorem mem_entriesUnder_merged (hdiffer : sourceID ≠ targetID)
    (hsep : Separates encode (gathered target state sourceID targetID))
    (e : Result) :
    e ∈ (mergeSpeedState encode state sourceID targetID target
        now).entriesUnder target targetID ↔
      e ∈ gathered target state sourceID targetID := by
  have hmem := mem_canonical hsep
  have hlisted : ∀ entry,
      entry ∈ (mergeSpeedState encode state sourceID targetID target
        now).entries targetID ↔
        entry ∈ gathered target state sourceID targetID := by
    intro entry
    rw [SpeedResultState.entries,
      mergeSpeedState_history encode target state now hdiffer,
      mergeSpeedState_results encode target state now hdiffer,
      if_neg (Ne.symm hdiffer), if_pos rfl, if_neg (Ne.symm hdiffer),
      if_pos rfl, ← hmem, List.mem_append]
    constructor
    · rintro (hin | hin)
      · split at hin
        · cases hin
        · exact hin
      · exact List.mem_of_mem_head? (by simpa using hin)
    · intro hin
      left
      rw [if_neg (List.ne_nil_of_mem hin)]
      exact hin
  rw [SpeedResultState.entriesUnder, List.mem_map]
  constructor
  · rintro ⟨entry, hentry, rfl⟩
    have hin := (hlisted entry).mp hentry
    rwa [under_of_mem_map hin]
  · intro he
    exact ⟨e, (hlisted e).mpr he, under_of_mem_map he⟩

theorem settled_merged (hdiffer : sourceID ≠ targetID)
    (hsep : Separates encode (gathered target state sourceID targetID)) :
    InOrder encode target
      (mergeSpeedState encode state sourceID targetID target now) targetID := by
  have hsame := canonical_congr hsep
    (mem_entriesUnder_merged now hdiffer hsep)
  constructor
  · rw [hsame, mergeSpeedState_history encode target state now hdiffer,
      if_neg (Ne.symm hdiffer), if_pos rfl]
  · rw [hsame, mergeSpeedState_results encode target state now hdiffer,
      if_neg (Ne.symm hdiffer), if_pos rfl]

/-- A merge moves what it finds and adds nothing. -/
theorem mem_pool_merged (hdiffer : sourceID ≠ targetID) {rest : List Text}
    (hsep : Separates encode (gathered target state sourceID targetID))
    (hrest : targetID ∉ rest) (e : Result) :
    e ∈ (mergeSpeedState encode state sourceID targetID target now).pool
        target (targetID :: rest) ↔
      e ∈ state.pool target (targetID :: sourceID :: rest) := by
  have hmoved := mem_entriesUnder_merged now hdiffer hsep e
  rw [mem_gathered] at hmoved
  have hsource : (mergeSpeedState encode state sourceID targetID target
      now).entriesUnder target sourceID = [] := by
    rw [SpeedResultState.entriesUnder, SpeedResultState.entries,
      mergeSpeedState_history encode target state now hdiffer,
      mergeSpeedState_results encode target state now hdiffer, if_pos rfl,
      if_pos rfl]
    rfl
  have hother : ∀ id, id ≠ sourceID → id ≠ targetID →
      (mergeSpeedState encode state sourceID targetID target
        now).entriesUnder target id = state.entriesUnder target id := by
    intro id hs ht
    rw [SpeedResultState.entriesUnder, SpeedResultState.entries,
      mergeSpeedState_history encode target state now hdiffer,
      mergeSpeedState_results encode target state now hdiffer, if_neg hs,
      if_neg ht, if_neg hs, if_neg ht]
    rfl
  simp only [SpeedResultState.pool, List.mem_flatMap, List.exists_mem_cons_iff,
    hmoved]
  constructor
  · rintro ((hfrom | hown) | ⟨id, hid, he⟩)
    · exact Or.inr (Or.inl hfrom)
    · exact Or.inl hown
    · have ht : id ≠ targetID := by
        rintro rfl
        exact hrest hid
      by_cases hs : id = sourceID
      · rw [hs, hsource] at he
        cases he
      · rw [hother id hs ht] at he
        exact Or.inr (Or.inr ⟨id, hid, he⟩)
  · rintro (hown | hfrom | ⟨id, hid, he⟩)
    · exact Or.inl (Or.inr hown)
    · exact Or.inl (Or.inl hfrom)
    · have ht : id ≠ targetID := by
        rintro rfl
        exact hrest hid
      by_cases hs : id = sourceID
      · rw [hs] at he
        exact Or.inl (Or.inl he)
      · exact Or.inr ⟨id, hid, by rw [hother id hs ht]; exact he⟩

section Run

variable {sources : List Text}

/-- The measurements that are brought together first are among all. -/
theorem gathered_subset (rest : List Text) (e : Result)
    (he : e ∈ gathered target state sourceID targetID) :
    e ∈ state.pool target (targetID :: sourceID :: rest) := by
  rw [mem_gathered] at he
  rw [SpeedResultState.pool, List.flatMap_cons, List.flatMap_cons,
    List.mem_append, List.mem_append]
  exact he.elim (fun hs => Or.inr (Or.inl hs)) Or.inl

/-- Merging source after source moves everything to the target. -/
theorem mergeSpeedAll_pool (hsources : sources ≠ [])
    (htarget : targetID ∉ sources)
    (hsep : Separates encode (state.pool target (targetID :: sources))) :
    InOrder encode target
        (mergeSpeedAll encode target targetID now state sources) targetID ∧
      ∀ e, e ∈ (mergeSpeedAll encode target targetID now state
          sources).entriesUnder target targetID ↔
        e ∈ state.pool target (targetID :: sources) := by
  induction sources generalizing state with
  | nil => exact absurd rfl hsources
  | cons sourceID rest ih =>
      rw [List.mem_cons, not_or] at htarget
      have hdiffer : sourceID ≠ targetID := Ne.symm htarget.1
      have hgathered := hsep.mono (gathered_subset rest)
      have hmoved := mem_pool_merged now hdiffer hgathered htarget.2
      by_cases hrest : rest = []
      · subst hrest
        refine ⟨settled_merged now hdiffer hgathered, ?_⟩
        intro e
        rw [← hmoved e]
        simp [SpeedResultState.pool, mergeSpeedAll]
      · obtain ⟨hsettled, hall⟩ := ih hrest htarget.2
          (hsep.mono fun e => (hmoved e).mp)
        exact ⟨hsettled, fun e => (hall e).trans (hmoved e)⟩

/-- The other nodes keep what they have, and a source has nothing left. -/
theorem mergeSpeedAll_other {id : Text} (hid : id ≠ targetID)
    (htarget : targetID ∉ sources) :
    (mergeSpeedAll encode target targetID now state sources).history[id]? =
        (if id ∈ sources then none else state.history[id]?) ∧
      (mergeSpeedAll encode target targetID now state sources).results[id]? =
        if id ∈ sources then none else state.results[id]? := by
  induction sources generalizing state with
  | nil => exact ⟨rfl, rfl⟩
  | cons sourceID rest ih =>
      rw [List.mem_cons, not_or] at htarget
      have hdiffer : sourceID ≠ targetID := Ne.symm htarget.1
      obtain ⟨hhistory, hresults⟩ :=
        @ih (mergeSpeedState encode state sourceID targetID target now)
          htarget.2
      rw [mergeSpeedState_history encode target state now hdiffer] at hhistory
      rw [mergeSpeedState_results encode target state now hdiffer] at hresults
      rw [mergeSpeedAll, List.foldl_cons]
      rw [mergeSpeedAll] at hhistory hresults
      rw [hhistory, hresults, if_neg hid]
      by_cases hs : id = sourceID
      · simp [hs]
      · simp [hs, hid]

end Run

/-- Every measurement of the nodes is kept once, under the target, the newest
first and in front, whatever the order of the merges. -/
structure KeptOnce (encode : Result → Text) (target : NodeRecord)
    (targetID : Text) (now : Time) (state : SpeedResultState Run)
    (sources : List Text) (after : SpeedResultState Run) : Prop where
  all : ∀ e, e ∈ (after.history[targetID]?).getD [] ↔
    e ∈ state.pool target (targetID :: sources)
  once : (((after.history[targetID]?).getD []).map encode).Nodup
  newest : ((after.history[targetID]?).getD []).Pairwise fun a b =>
    b.checkedAt ≤ a.checkedAt
  latest : after.results[targetID]? = ((after.history[targetID]?).getD []).head?
  others : ∀ id, id ≠ targetID →
    after.history[id]? =
        (if id ∈ sources then none else state.history[id]?) ∧
      after.results[id]? =
        if id ∈ sources then none else state.results[id]?
  order : ∀ others : List Text, (∀ id, id ∈ others ↔ id ∈ sources) →
    (mergeSpeedAll encode target targetID now state others).history =
        after.history ∧
      (mergeSpeedAll encode target targetID now state others).results =
        after.results

theorem mergeSpeedAll_kept {sources : List Text} (hsources : sources ≠ [])
    (htarget : targetID ∉ sources)
    (hsep : Separates encode (state.pool target (targetID :: sources))) :
    KeptOnce encode target targetID now state sources
      (mergeSpeedAll encode target targetID now state sources) := by
  obtain ⟨hsettled, hall⟩ :=
    mergeSpeedAll_pool now hsources htarget hsep
  have hcanonical := canonical_congr hsep hall
  have hhistory : ((mergeSpeedAll encode target targetID now state
      sources).history[targetID]?).getD [] =
        canonical encode (state.pool target (targetID :: sources)) := by
    rw [hsettled.history, hcanonical]
    split
    · rename_i hempty
      exact hempty.symm
    · rfl
  constructor
  · intro e
    rw [hhistory]
    exact mem_canonical hsep e
  · rw [hhistory]
    exact canonical_nodup _
  · rw [hhistory]
    exact canonical_sorted _
  · rw [hhistory, hsettled.results, hcanonical]
  · exact fun id hid => mergeSpeedAll_other now hid htarget
  · intro others hsame
    have hpool : ∀ e, e ∈ state.pool target (targetID :: others) ↔
        e ∈ state.pool target (targetID :: sources) := by
      intro e
      simp only [SpeedResultState.pool, List.flatMap_cons, List.mem_append,
        List.mem_flatMap, hsame]
    have hothers : others ≠ [] := by
      rintro rfl
      obtain ⟨id, hid⟩ := List.exists_mem_of_ne_nil sources hsources
      exact List.not_mem_nil ((hsame id).mpr hid)
    have hnot : targetID ∉ others := fun hid => htarget ((hsame _).mp hid)
    have hsepOthers := hsep.mono fun e => (hpool e).mp
    obtain ⟨hsettledOthers, hallOthers⟩ :=
      mergeSpeedAll_pool now hothers hnot hsepOthers
    have hcanonicalOthers : canonical encode
        ((mergeSpeedAll encode target targetID now state others).entriesUnder
          target targetID) =
        canonical encode (state.pool target (targetID :: sources)) :=
      (canonical_congr hsepOthers hallOthers).trans (canonical_congr hsep hpool)
    constructor
    · apply Std.ExtTreeMap.ext_getElem?
      intro id
      by_cases hid : id = targetID
      · rw [hid, hsettledOthers.history, hsettled.history, hcanonicalOthers,
          hcanonical]
      · rw [(mergeSpeedAll_other now hid hnot).1,
          (mergeSpeedAll_other now hid htarget).1]
        simp only [hsame]
    · apply Std.ExtTreeMap.ext_getElem?
      intro id
      by_cases hid : id = targetID
      · rw [hid, hsettledOthers.results, hsettled.results, hcanonicalOthers,
          hcanonical]
      · rw [(mergeSpeedAll_other now hid hnot).2,
          (mergeSpeedAll_other now hid htarget).2]
        simp only [hsame]

end Merging

def successor : NodeRecord :=
  { stableID := "new", name := "Node", subName := "main", protocol := "vless" }

/-- One measurement of the retired node and one of its successor. -/
def measured : SpeedResultState Unit where
  lastRun := ()
  history := GoMap.set ∅ "old".toList
    (some [{ stableID := "old", checkedAt := 1000000000 }])
  results := GoMap.set ∅ "new".toList
    (some { stableID := "new", checkedAt := 2000000000 })

/-- `json.Marshal` on a measurement that has only its identity and its
time. -/
def encodeBare (entry : Result) : Text :=
  ("\x7b\"stableId\":\"" : Text) ++ entry.stableID ++ "\",\"name\":\"" ++
    entry.name ++ "\",\"subName\":\"" ++ entry.subName ++
    "\",\"protocol\":\"" ++ entry.protocol ++
    "\",\"url\":\"\",\"statusCode\":0,\"downloadedBytes\":0" ++
    ",\"durationMs\":0,\"ttfbMs\":0,\"mbps\":0,\"error\":\"\"" ++
    ",\"offline\":false,\"checkedAt\":\"0001-01-01T00:00:0" ++
    itoa (entry.checkedAt / 1000000000) ++ "Z\",\"source\":\"\"\x7d"

set_option maxRecDepth 8000 in
theorem mergeSpeedAll_kept_measured :
    KeptOnce encodeBare successor "new" 5000000000 measured ["old".toList]
      (mergeSpeedAll encodeBare successor "new" 5000000000 measured
        ["old".toList]) :=
  mergeSpeedAll_kept 5000000000 (by decide) (by decide)
    (by rw [Separates]; decide)

end XrayChecker.Nodemerge

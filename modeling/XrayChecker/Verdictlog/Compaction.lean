import XrayChecker.Verdictlog.Lines

/-
What a compaction keeps of the entries it reads, and what the answers to
queries are before and after it.
-/

namespace XrayChecker.Verdictlog

open Go

/-- The bytes an entry takes in the file. -/
def lineSize (codec : LineCodec) (entry : Entry) : Nat :=
  match codec.marshal entry with
  | none => 0
  | some line => line.length + 1

/-- The entries that are as new as this one do not fit together. -/
def displaced (codec : LineCodec) (maxBytes : Nat) (entries : List Entry)
    (entry : Entry) : Bool :=
  decide (maxBytes <
    ((entries.filter fun other => decide (entry.atTime ≤ other.atTime)).map
      (lineSize codec)).sum)

/-- The entry is older than the retention, or displaced at the size cap. -/
def Journal.excuses (codec : LineCodec) (journal : Journal) (now : Time)
    (entry : Entry) : Bool :=
  entry.expired journal.retention now ||
    displaced codec journal.maxBytes (journal.entries codec) entry

section Loop

variable {codec : LineCodec} {retention maxBytes : Nat} {now : Time}

theorem lineSize_of_marshal {entry : Entry} {line : Bytes}
    (h : codec.marshal entry = some line) :
    lineSize codec entry = line.length + 1 := by
  rw [lineSize, h]

theorem expired_of_le {entry other : Entry}
    (hle : other.atTime ≤ entry.atTime) (h : entry.expired retention now) :
    other.expired retention now :=
  decide_eq_true
    ((Nat.add_le_add_right hle retention).trans_lt (of_decide_eq_true h))

theorem displaced_of_le {entries : List Entry} {entry other : Entry}
    (hle : other.atTime ≤ entry.atTime)
    (h : displaced codec maxBytes entries entry) :
    displaced codec maxBytes entries other := by
  refine decide_eq_true ((of_decide_eq_true h).trans_le ?_)
  refine List.Sublist.sum_le_sum ?_ fun _ _ => Nat.zero_le _
  apply List.Sublist.map
  apply List.monotone_filter_right
  intro third hthird
  exact decide_eq_true (hle.trans (of_decide_eq_true hthird))

theorem displaced_perm {entries others : List Entry}
    (hperm : entries.Perm others) (entry : Entry) :
    displaced codec maxBytes entries entry =
      displaced codec maxBytes others entry := by
  have hsum := ((hperm.filter fun other =>
    decide (entry.atTime ≤ other.atTime)).map (lineSize codec)).sum_eq
  rw [displaced, displaced, hsum]

theorem keepLoop_expired {entries : List Entry}
    (h : ∀ entry ∈ entries, entry.expired retention now) (size : Nat) :
    keepLoop codec retention maxBytes now entries size = [] := by
  induction entries generalizing size with
  | nil => rfl
  | cons entry rest ih =>
      rw [List.forall_mem_cons] at h
      rw [keepLoop, if_pos h.1]
      exact ih h.2 size

/-- Where the newest entries fill the file, the older ones are displaced. -/
theorem displaced_of_full {before rest : List Entry} {entry other : Entry}
    (hsorted : (before ++ entry :: rest).Pairwise fun a b =>
      b.atTime ≤ a.atTime)
    (hfull : maxBytes < (before.map (lineSize codec)).sum +
      lineSize codec entry) (hother : other ∈ entry :: rest) :
    displaced codec maxBytes (before ++ entry :: rest) other := by
  rw [List.pairwise_append, List.pairwise_cons] at hsorted
  obtain ⟨-, ⟨hentry, -⟩, hbefore⟩ := hsorted
  have hbefore : before.filter
      (fun third => decide (other.atTime ≤ third.atTime)) = before := by
    rw [List.filter_eq_self]
    intro third hthird
    exact decide_eq_true (hbefore third hthird other hother)
  have hself : other.atTime ≤ entry.atTime := by
    rcases List.mem_cons.mp hother with rfl | hother
    · exact le_rfl
    · exact hentry other hother
  rw [displaced, List.filter_append, hbefore,
    List.filter_cons_of_pos (by simpa using hself)]
  simp only [List.map_append, List.map_cons, List.sum_append, List.sum_cons,
    decide_eq_true_eq]
  omega

/-- The loop keeps the newest entries, and those behind them are too old or
too much. -/
theorem keepLoop_split {before rest : List Entry} {size : Nat}
    (hsorted : (before ++ rest).Pairwise fun a b => b.atTime ≤ a.atTime)
    (hsize : size = (before.map (lineSize codec)).sum)
    (hmarshal : ∀ entry ∈ rest, ∃ line, codec.marshal entry = some line) :
    ∃ kept removed, rest = kept ++ removed ∧
      keepLoop codec retention maxBytes now rest size =
        kept.filterMap codec.marshal ∧
      ∀ entry ∈ removed, entry.expired retention now ∨
        displaced codec maxBytes (before ++ rest) entry := by
  induction rest generalizing before size with
  | nil => exact ⟨[], [], rfl, rfl, fun _ h => absurd h List.not_mem_nil⟩
  | cons entry rest ih =>
      have hbehind := (List.pairwise_cons.mp
        (List.pairwise_append.mp hsorted).2.1).1
      rw [List.forall_mem_cons] at hmarshal
      obtain ⟨⟨line, hline⟩, hrest⟩ := hmarshal
      by_cases hold : entry.expired retention now
      · -- Everything behind an entry that is too old is too old.
        have hall : ∀ other ∈ entry :: rest, other.expired retention now := by
          rw [List.forall_mem_cons]
          exact ⟨hold, fun other hother =>
            expired_of_le (hbehind other hother) hold⟩
        exact ⟨[], entry :: rest, rfl, keepLoop_expired hall size,
          fun other hother => .inl (hall other hother)⟩
      · rw [keepLoop, if_neg hold, hline]
        dsimp only
        split
        next hfull =>
          refine ⟨[], entry :: rest, rfl, rfl, fun other hother => .inr ?_⟩
          apply displaced_of_full hsorted _ hother
          rw [lineSize_of_marshal hline, ← hsize]
          omega
        · obtain ⟨kept, removed, rfl, hkept, hremoved⟩ :=
            @ih (before ++ [entry]) (size + line.length + 1)
              (by simpa using hsorted)
              (by simp [lineSize_of_marshal hline, hsize, Nat.add_assoc])
              hrest
          refine ⟨entry :: kept, removed, rfl, ?_, ?_⟩
          · rw [hkept, List.filterMap_cons_some hline]
          · simpa using hremoved

end Loop

section Rewritten

variable {codec : LineCodec} {journal : Journal}

/-- Lines of entries are read back as these entries. -/
theorem filterMap_readLine {entries : List Entry}
    (h : ∀ entry ∈ entries, ∃ line, Written codec entry line) :
    (entries.filterMap codec.marshal).filterMap (readLine codec) = entries := by
  induction entries with
  | nil => rfl
  | cons entry rest ih =>
      rw [List.forall_mem_cons] at h
      obtain ⟨⟨line, hline⟩, hrest⟩ := h
      rw [List.filterMap_cons_some hline.marshal,
        List.filterMap_cons_some (readLine_written hline), ih hrest]

theorem shaped_of_written {entries : List Entry}
    (h : ∀ entry ∈ entries, ∃ line, Written codec entry line) :
    Shaped codec (entries.filterMap codec.marshal) [] where
  lines := by
    intro line hline
    obtain ⟨entry, hentry, hmarshal⟩ := List.mem_filterMap.mp hline
    obtain ⟨other, hother⟩ := h entry hentry
    rw [hother.marshal] at hmarshal
    exact ⟨entry, Option.some.inj hmarshal ▸ hother⟩
  tail := .inl rfl

/-- `after` is what a compaction of `journal` leaves: its newest entries, the
oldest first, and those it removed are excused. -/
structure Compacted (codec : LineCodec) (journal : Journal) (now : Time)
    (after : Journal) : Prop where
  sound : Sound codec after.file
  split : ∃ kept removed,
    sortDesc Entry.atTime (journal.entries codec) = kept ++ removed ∧
    after.entries codec = kept.reverse ∧
    ∀ entry ∈ removed, journal.excuses codec now entry

theorem compactLocked_retention (attempt : Attempt) :
    (journal.compactLocked codec attempt).1.retention = journal.retention ∧
      (journal.compactLocked codec attempt).1.maxBytes = journal.maxBytes := by
  unfold Journal.compactLocked
  dsimp only
  split <;> exact ⟨rfl, rfl⟩

/-- A compaction that fails leaves the file as it was. -/
theorem compactLocked_failed {attempt : Attempt}
    (h : attempt.rewrite ≠ .done) :
    (journal.compactLocked codec attempt).1.file = journal.file := by
  unfold Journal.compactLocked
  dsimp only
  split <;> first | rfl | exact absurd ‹_› h

theorem compactLocked_done (hsound : Sound codec journal.file)
    {attempt : Attempt} (hdone : attempt.rewrite = .done) :
    Compacted codec journal attempt.now.val
      (journal.compactLocked codec attempt).1 := by
  have hwritten : ∀ entry ∈ sortDesc Entry.atTime (journal.entries codec),
      ∃ line, Written codec entry line := by
    intro entry hentry
    exact hsound.written ((mem_sortDesc _).mp hentry)
  obtain ⟨kept, removed, hsplit, hkept, hremoved⟩ := @keepLoop_split codec
    journal.retention journal.maxBytes attempt.now.val []
    (sortDesc Entry.atTime (journal.entries codec)) 0
    (sortDesc_sorted Entry.atTime _) rfl
    fun entry hentry => (hwritten entry hentry).imp fun _ h => h.marshal
  have hkeptWritten : ∀ entry ∈ kept.reverse,
      ∃ line, Written codec entry line := by
    intro entry hentry
    apply hwritten entry
    rw [hsplit]
    exact List.mem_append_left _ (List.mem_reverse.mp hentry)
  have hfile : (journal.compactLocked codec attempt).1.file =
      some (contents (kept.reverse.filterMap codec.marshal) []) := by
    rw [Journal.compactLocked, hdone]
    dsimp only
    rw [readLocked_entries hsound]
    simp only [compacted, contents, hkept, List.append_nil,
      List.filterMap_reverse]
  have hshaped := shaped_of_written hkeptWritten
  refine ⟨⟨_, _, by rw [hfile]; rfl, hshaped⟩,
    kept, removed, hsplit, ?_, ?_⟩
  · rw [entries_contents (by rw [hfile]; rfl) hshaped, List.filterMap_append,
      filterMap_readLine hkeptWritten]
    exact List.append_nil _
  · intro entry hentry
    rw [Journal.excuses, Bool.or_eq_true]
    refine (hremoved entry hentry).imp_right fun hdisplaced => ?_
    rwa [List.nil_append, displaced_perm (sortDesc_perm _ _)] at hdisplaced

end Rewritten

end XrayChecker.Verdictlog

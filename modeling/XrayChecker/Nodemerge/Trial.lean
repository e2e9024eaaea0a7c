import XrayChecker.Nodemerge.Recovery

/-
The calls around a merge on trial: staging and installing it keep what is
settled, rolling it back ends with the settled files in place, and confirming
it makes the installed files the settled ones with the last byte of the
marker.
-/

namespace XrayChecker.Nodemerge

open Go Machine Disk DiskProc

variable {before disk next : Dir} {w : World Text UInt8}

/-- What was live is settled. -/
structure Confirms (before disk : Dir) : Prop where
  sound : Sound disk
  settled : ∀ name ∈ stateFileNames,
    settledFile disk name = liveFile before name

theorem Confirms.trans (h : Confirms before disk) (hnext : Keeps disk next) :
    Confirms before next :=
  ⟨hnext.sound, fun name hname =>
    (hnext.settled name hname).trans (h.settled name hname)⟩

theorem meets_rollbackApplied (hsound : Sound w.disk) :
    Proc.Meets (fun t => Keeps w.disk t.disk) rollbackApplied w
      fun answer t => Keeps w.disk t.disk ∧
        match answer with
        | .error _ => True
        | .ok _ => Quiet t.disk := by
  have hself : ∀ t : World Text UInt8, t.disk = w.disk →
      Keeps w.disk t.disk := by
    intro t ht
    rw [ht]
    exact Keeps.refl hsound
  apply Proc.meets_bind
  apply meets_inspectTransactionDirs hsound
  · exact fun _ e t ht => ⟨hself t ht, trivial⟩
  intro looked hlooked _
  rcases hsound.dirs _ applied_mem with hnoApplied | happlied
  · rcases hsound.dirs _ rollback_mem with hnoRollback | hrollback
    · rw [hnoApplied, hnoRollback]
      refine Proc.meets_pure ⟨hself looked hlooked, ?_, ?_⟩
      · rw [hlooked, hnoApplied]
      · rw [hlooked, hnoRollback]
    · rw [hnoApplied, hrollback]
      apply Proc.meets_bind
      apply meets_refuse
      · exact fun _ => ⟨hself looked hlooked, trivial⟩
      · intro hgood
        cases hgood
  rcases hsound.dirs _ rollback_mem with hnoRollback | hrollback
  · rw [happlied, hnoRollback]
    apply Proc.meets_bind
    apply meets_refuse
    · exact fun _ => ⟨hself looked hlooked, trivial⟩
    · intro hgood
      cases hgood
  rw [happlied, hrollback]
  apply Proc.meets_bind
  apply meets_refuse
  · exact fun _ => ⟨hself looked hlooked, trivial⟩
  intro _
  apply Proc.meets_bind
  apply meets_commitMarked (by rw [hlooked]; exact hsound)
  · exact fun e t ht _ => ⟨hself t (ht.trans hlooked), trivial⟩
  intro marked hmarkedDisk _ _
  rw [hlooked] at hmarkedDisk ⊢
  apply Proc.meets_bind
  apply meets_refuse
  · exact fun _ => ⟨hself marked hmarkedDisk, trivial⟩
  intro hunmarked
  have hundoing : Undoing w.disk appliedDirName marked.disk := by
    rw [hmarkedDisk]
    exact ⟨Keeps.refl hsound, happlied, hrollback,
      of_decide_eq_false hunmarked⟩
  apply (meets_rollbackTransactionLocked hundoing (Or.inr rfl)).mono
  rintro answer t ⟨hkeeps, ht⟩
  refine ⟨hkeeps, ?_⟩
  cases answer with
  | error e => trivial
  | ok u =>
      obtain ⟨-, -, hgone, hstate, -⟩ := ht
      exact ⟨hstate rfl, hgone⟩

section Marker

/-- Whatever part of the marker is written, either nothing is confirmed or the
live files are. -/
theorem confirms_of_marker {part : Option Bytes} (hsound : Sound before)
    (hunmarked : ¬Marked before)
    (happlied : look before (.top appliedDirName) = some .folder)
    (h : HasFile before (.inside rollbackDirName commitMarkerName) part disk) :
    (part ≠ some confirmed → Keeps before disk) ∧
      (part = some confirmed → Confirms before disk ∧ Marked disk) := by
  have hmarker : look disk (.inside rollbackDirName commitMarkerName) =
      part.map (.entry ∘ .file) := by
    rw [h, if_pos rfl]
  have htop : ∀ name, look disk (.top name) = look before (.top name) :=
    fun name => by rw [h, if_neg (by simp)]
  have hfiles : ∀ path, isStatePath path = true → Plain (look disk path) := by
    intro path hpath
    rw [h]
    split
    · cases part with
      | none => exact plain_none
      | some data => exact plain_file data
    · exact hsound.files path hpath
  have hpending : look before (.top pendingDirName) = none := by
    have hone := hsound.one
    rw [happlied] at hone
    simpa using hone
  constructor
  · intro hpart
    have hstill : ¬Marked disk := by
      rw [Marked, hmarker]
      cases part with
      | none => exact fun heq => by cases heq
      | some data =>
          intro heq
          exact hpart (by simpa using heq)
    have hsame : SameDirs before disk :=
      ⟨fun name _ => htop name, iff_of_false hstill hunmarked⟩
    refine ⟨hsame.sound hsound hfiles, fun name hname => ?_⟩
    have hother : look disk (.inside rollbackDirName name) =
        look before (.inside rollbackDirName name) := by
      rw [h, if_neg]
      intro heq
      exact stateFile_ne_marker hname (Path.inside.inj heq).2.symm
    simp only [settledFile, hsame.committed, liveFile, htop, hother]
  · intro hpart
    have hmarked : Marked disk := by
      rw [Marked, hmarker, hpart]
      rfl
    refine ⟨⟨⟨?_, hfiles, ?_, ?_⟩, ?_⟩, hmarked⟩
    · simp only [htop]
      exact hsound.dirs
    · simp only [htop]
      exact hsound.one
    · exact fun _ => by rw [htop, hpending]
    · intro name _
      rw [settledFile_of_committed (Or.inl hmarked), liveFile, htop]
      rfl

/-- Writing the marker: afterwards it is there, and before its last byte
nothing has happened. -/
theorem meets_writeCommitMarker (hsound : Sound w.disk)
    (happlied : look w.disk (.top appliedDirName) = some .folder)
    (hrollback : look w.disk (.top rollbackDirName) = some .folder) :
    Proc.Meets (fun t => Keeps w.disk t.disk ∨ Confirms w.disk t.disk)
      writeCommitMarker w fun answer t =>
        match answer with
        | .error _ => Keeps w.disk t.disk ∨ Confirms w.disk t.disk
        | .ok _ => Confirms w.disk t.disk ∧ Marked t.disk ∧
            ∀ dir ∈ transactionDirNames,
              look t.disk (.top dir) = look w.disk (.top dir) := by
  apply Proc.meets_bind
  apply meets_commitMarked hsound
  · intro e t ht _
    rw [ht]
    exact Or.inl (Keeps.refl hsound)
  intro marked hmarkedDisk _ _
  by_cases hmarked : Marked w.disk
  · rw [decide_eq_true hmarked]
    apply Proc.meets_pure
    rw [hmarkedDisk]
    refine ⟨⟨hsound, fun name _ => ?_⟩, hmarked, fun dir _ => rfl⟩
    exact settledFile_of_committed (Or.inl hmarked) name
  rw [decide_eq_false hmarked]
  have hleft : ∀ (part : Option Bytes) (t : World Text UInt8),
      HasFile w.disk (.inside rollbackDirName commitMarkerName) part t.disk →
      (part ≠ some confirmed → Keeps w.disk t.disk) ∧
        (part = some confirmed → Confirms w.disk t.disk ∧ Marked t.disk) :=
    fun _ _ ht => confirms_of_marker hsound hmarked happlied ht
  apply meets_writeDurableStateFile
  · rw [hmarkedDisk]
    exact hsound.files _ isStatePath_marker
  · rw [isOpen, isFolder_iff, hmarkedDisk]
    exact hrollback
  · intro part t ht
    rw [hmarkedDisk] at ht
    have heither : Keeps w.disk t.disk ∨ Confirms w.disk t.disk := by
      by_cases hpart : part = some confirmed
      · exact Or.inr ((hleft part t ht).2 hpart).1
      · exact Or.inl ((hleft part t ht).1 hpart)
    exact ⟨heither, fun _ _ => heither⟩
  · intro t ht _
    rw [hmarkedDisk] at ht
    obtain ⟨hconfirms, hmark⟩ := (hleft _ t ht).2 rfl
    exact ⟨hconfirms, hmark, fun dir _ => by rw [ht, if_neg (by simp)]⟩

end Marker

/-- Confirming a merge: cut off or refused anywhere, it has done nothing or
settled the live files; when it comes to its end it has. -/
theorem meets_confirmApplied (hsound : Sound w.disk) :
    Proc.Meets (fun t => Keeps w.disk t.disk ∨ Confirms w.disk t.disk)
      confirmApplied w fun answer t =>
        (Keeps w.disk t.disk ∨ Confirms w.disk t.disk) ∧
        match answer with
        | .error _ => True
        | .ok _ => Quiet t.disk ∧
            (look w.disk (.top appliedDirName) = some .folder →
              Confirms w.disk t.disk) := by
  have hself : ∀ t : World Text UInt8, t.disk = w.disk →
      Keeps w.disk t.disk := by
    intro t ht
    rw [ht]
    exact Keeps.refl hsound
  apply Proc.meets_bind
  apply meets_inspectTransactionDirs hsound
  · exact fun _ e t ht => ⟨Or.inl (hself t ht), trivial⟩
  intro looked hlooked _
  rcases hsound.dirs _ applied_mem with hnoApplied | happlied
  · rcases hsound.dirs _ rollback_mem with hnoRollback | hrollback
    · have hquiet : Quiet looked.disk := by
        rw [hlooked]
        exact ⟨hnoApplied, hnoRollback⟩
      have hpost : (Keeps w.disk looked.disk ∨ Confirms w.disk looked.disk) ∧
          Quiet looked.disk ∧
            (look w.disk (.top appliedDirName) = some .folder →
              Confirms w.disk looked.disk) := by
        refine ⟨Or.inl (hself looked hlooked), hquiet, fun hfolder => ?_⟩
        rw [hnoApplied] at hfolder
        cases hfolder
      rw [hnoApplied] at hpost
      rw [hnoApplied, hnoRollback]
      cases (look w.disk (.top pendingDirName)).isSome with
      | true => exact Proc.meets_pure hpost
      | false => exact Proc.meets_pure hpost
    · rw [hnoApplied, hrollback]
      simp only [Option.isSome_none, Option.isSome_some, Bool.not_true,
        Bool.not_false, Bool.and_true, Bool.and_false, Bool.false_eq_true,
        ↓reduceIte, Bool.or_false]
      apply Proc.meets_bind
      apply meets_refuse
      · exact fun _ => ⟨Or.inl (hself looked hlooked), trivial⟩
      · intro hgood
        cases hgood
  rcases hsound.dirs _ rollback_mem with hnoRollback | hrollback
  · rw [happlied, hnoRollback]
    simp only [Option.isSome_none, Option.isSome_some, Bool.not_true,
      Bool.not_false, Bool.and_true, Bool.and_false, Bool.false_eq_true,
      ↓reduceIte, Bool.or_true]
    apply Proc.meets_bind
    apply meets_refuse
    · exact fun _ => ⟨Or.inl (hself looked hlooked), trivial⟩
    · intro hgood
      cases hgood
  rw [happlied, hrollback]
  simp only [Option.isSome_some, Bool.not_true, Bool.and_false,
    Bool.false_eq_true, ↓reduceIte, Bool.or_self]
  apply Proc.meets_bind
  apply meets_refuse
  · intro hbad
    cases hbad
  intro _
  apply Proc.meets_bind
  have hwrite := meets_writeCommitMarker (w := looked)
    (by rw [hlooked]; exact hsound) (by rw [hlooked]; exact happlied)
    (by rw [hlooked]; exact hrollback)
  rw [hlooked] at hwrite
  apply hwrite.mono
  intro answer written hwritten
  cases answer with
  | error e => exact ⟨hwritten, trivial⟩
  | ok u =>
      obtain ⟨hconfirms, hmarked, hdirs⟩ := hwritten
      have hcleanup := meets_cleanupTransactionLocked
        (Keeps.refl hconfirms.sound) hmarked
        (by rw [hdirs _ rollback_mem, hrollback])
      rw [hdirs _ applied_mem, happlied] at hcleanup
      apply (hcleanup.weaken fun t ht => Or.inr (hconfirms.trans ht)).mono
      rintro answer t ⟨hkeeps, ht⟩
      have hall := hconfirms.trans hkeeps
      refine ⟨Or.inr hall, ?_⟩
      cases answer with
      | error e => trivial
      | ok u => exact ⟨ht, fun _ => hall⟩

end XrayChecker.Nodemerge

import XrayChecker.Nodemerge.Settled

/-
Rolling a merge back, finishing a confirmed one, and the recovery at startup
that decides between the two: each keeps what is settled whatever call is
refused and wherever it is cut off, and ends with the settled files in place.
-/

namespace XrayChecker.Nodemerge

open Go Machine Disk DiskProc

/-- In the middle of a rollback to the originals. -/
structure Undoing (before : Dir) (stateDirName : Text) (disk : Dir) : Prop where
  keeps : Keeps before disk
  state : look disk (.top stateDirName) = some .folder
  rollback : look disk (.top rollbackDirName) = some .folder
  unmarked : ¬Marked disk

/-- A state file is in all three places at once. -/
def Collides (disk : Dir) (stateDirName name : Text) : Prop :=
  (look disk (.top name)).isSome ∧
    (look disk (.inside stateDirName name)).isSome ∧
    (look disk (.inside rollbackDirName name)).isSome

/-- The folder a rollback puts the merged files into. -/
def IsStateDir (name : Text) : Prop :=
  name = pendingDirName ∨ name = appliedDirName

theorem IsStateDir.mem {name : Text} (h : IsStateDir name) :
    name ∈ transactionDirNames := by
  rcases h with rfl | rfl
  · exact pending_mem
  · exact applied_mem

theorem IsStateDir.ne_rollback {name : Text} (h : IsStateDir name) :
    name ≠ rollbackDirName := by
  rcases h with rfl | rfl
  · exact pending_ne_rollback
  · exact applied_ne_rollback

/-- What one round of a rollback comes to. -/
def FileRestored (before : Dir) (stateDirName name : Text)
    (w : World Text UInt8) (answer : Except Text Unit)
    (t : World Text UInt8) : Prop :=
  match answer with
  | .error _ =>
      Keeps before t.disk ∧ (w.Calm → Collides w.disk stateDirName name)
  | .ok _ =>
      Undoing before stateDirName t.disk ∧
        look t.disk (.inside rollbackDirName name) = none ∧
        (∀ path, base path ≠ name → look t.disk path = look w.disk path) ∧
        (w.Calm → t.Calm) ∧ ¬Collides w.disk stateDirName name

section Rollback

variable {before : Dir} {stateDirName : Text} {disk next : Dir}

theorem Undoing.not_committed (h : Undoing before stateDirName disk)
    (hstate : IsStateDir stateDirName) : ¬Committed disk := by
  rintro (hmarked | ⟨hpending, happlied⟩)
  · exact h.unmarked hmarked
  · have hfolder := h.state
    rcases hstate with rfl | rfl
    · rw [hpending] at hfolder
      cases hfolder
    · rw [happlied] at hfolder
      cases hfolder

theorem Undoing.of_sameDirs (h : Undoing before stateDirName disk)
    (hstate : IsStateDir stateDirName) (hkeeps : Keeps before next)
    (hsame : SameDirs disk next) : Undoing before stateDirName next where
  keeps := hkeeps
  state := by rw [hsame.dirs _ hstate.mem, h.state]
  rollback := by rw [hsame.dirs _ rollback_mem, h.rollback]
  unmarked := by rw [hsame.marked]; exact h.unmarked

/-- The merged file goes back to the folder it came from. -/
theorem Undoing.returned {name : Text} {data original : Bytes}
    (h : Undoing before stateDirName disk) (hstate : IsStateDir stateDirName)
    (hname : name ∈ stateFileNames)
    (horiginal : look disk (.inside rollbackDirName name) =
      some (.entry (.file original)))
    (hlook : ∀ path, look next path =
      if .inside stateDirName name = path then some (.entry (.file data))
      else if .top name = path then none else look disk path) :
    Undoing before stateDirName next := by
  have hstill : look next (.inside rollbackDirName name) =
      some (.entry (.file original)) := by
    rw [hlook, if_neg (by simp [hstate.ne_rollback]), if_neg (by simp),
      horiginal]
  obtain ⟨hkeeps, hsame⟩ := h.keeps.of_file next hname
    (by
      intro path hpath
      rw [hlook, if_neg (by rintro rfl; exact hpath rfl),
        if_neg (by rintro rfl; exact hpath rfl)])
    (by
      intro path hpath _
      rw [hlook]
      split
      · exact plain_file data
      · split
        · exact plain_none
        · exact h.keeps.sound.files path hpath)
    (by
      intro hcommitted
      have hnot := h.not_committed hstate
      rw [settledFile_of_original (mt hcommitted.mp hnot) hstill,
        settledFile_of_original hnot horiginal])
  exact h.of_sameDirs hstate hkeeps hsame

/-- The original goes back to its place. -/
theorem Undoing.restored {name : Text} {original : Bytes}
    (h : Undoing before stateDirName disk) (hstate : IsStateDir stateDirName)
    (hname : name ∈ stateFileNames)
    (horiginal : look disk (.inside rollbackDirName name) =
      some (.entry (.file original)))
    (hlook : ∀ path, look next path =
      if .top name = path then some (.entry (.file original))
      else if .inside rollbackDirName name = path then none
      else look disk path) :
    Undoing before stateDirName next := by
  obtain ⟨hkeeps, hsame⟩ := h.keeps.of_file next hname
    (by
      intro path hpath
      rw [hlook, if_neg (by rintro rfl; exact hpath rfl),
        if_neg (by rintro rfl; exact hpath rfl)])
    (by
      intro path hpath _
      rw [hlook]
      split
      · exact plain_file original
      · split
        · exact plain_none
        · exact h.keeps.sound.files path hpath)
    (by
      intro _
      rw [settledFile_of_original (h.not_committed hstate) horiginal,
        settledFile_of_clear (by rw [hlook, if_neg (by simp), if_pos rfl]),
        liveFile, hlook, if_pos rfl])
  exact h.of_sameDirs hstate hkeeps hsame

theorem Sound.of_thinned {dir : Text} (h : Sound disk)
    (hnext : disk.Thinned dir next) : Sound next := by
  have htop : ∀ name, look next (.top name) = look disk (.top name) := by
    intro name
    rcases hnext (.top name) with hsame | ⟨inner, hpath, -⟩
    · exact hsame
    · cases hpath
  have hmarked : Marked next → Marked disk := by
    intro hmark
    rcases hnext (.inside rollbackDirName commitMarkerName) with
      hsame | ⟨inner, -, hnone⟩
    · rw [Marked, ← hsame]
      exact hmark
    · rw [Marked, hnone] at hmark
      cases hmark
  constructor
  · simp only [htop]
    exact h.dirs
  · intro path hpath
    rcases hnext path with hsame | ⟨inner, -, hnone⟩
    · rw [hsame]
      exact h.files path hpath
    · rw [hnone]
      exact plain_none
  · simp only [htop]
    exact h.one
  · rw [htop]
    exact h.marked ∘ hmarked

theorem Sound.of_without {dir : Text} (h : Sound disk)
    (hnext : disk.Without dir next) : Sound next := by
  have hor : ∀ path, look next path = look disk path ∨
      look next path = none := by
    intro path
    rw [hnext]
    split
    · exact Or.inr rfl
    · exact Or.inl rfl
  have hnone : ∀ path, look disk path = none → look next path = none := by
    intro path hpath
    rcases hor path with hsame | hgone
    · rw [hsame, hpath]
    · exact hgone
  constructor
  · intro name hname
    rcases hor (.top name) with hsame | hgone
    · rw [hsame]
      exact h.dirs name hname
    · exact Or.inl hgone
  · intro path hpath
    rcases hor path with hsame | hgone
    · rw [hsame]
      exact h.files path hpath
    · rw [hgone]
      exact plain_none
  · exact h.one.imp (hnone _) (hnone _)
  · intro hmark
    apply hnone
    apply h.marked
    rcases hor (.inside rollbackDirName commitMarkerName) with hsame | hgone
    · rw [Marked, ← hsame]
      exact hmark
    · rw [Marked, hgone] at hmark
      cases hmark

theorem look_none_of_removed {dir : Text} {path : Path Text}
    (h : look disk path = none)
    (hnext : disk.Thinned dir next ∨ disk.Without dir next) :
    look next path = none := by
  rcases hnext with hthinned | hwithout
  · rcases hthinned path with hsame | ⟨inner, -, hnone⟩
    · rw [hsame, h]
    · exact hnone
  · rw [hwithout]
    split
    · rfl
    · exact h

variable {w : World Text UInt8}

/-- A folder of the transaction is removed; what is settled must not depend
on what is in it. -/
theorem meets_removeDir {dir refusal : Text} (hdir : dir ∈ transactionDirNames)
    (h : Keeps before w.disk)
    (hfolder : look w.disk (.top dir) = some .folder)
    (hsettled : ∀ next : Dir,
      w.disk.Thinned dir next ∨ w.disk.Without dir next →
      (∀ name ∈ stateFileNames, liveFile next name = liveFile w.disk name) →
      ∀ name ∈ stateFileNames,
        settledFile next name = settledFile w.disk name) :
    Proc.Meets (fun t => Keeps before t.disk) (removeAll dir refusal) w
      fun answer t => Keeps before t.disk ∧
        match answer with
        | .error _ => ¬w.Calm
        | .ok _ => w.disk.Without dir t.disk ∧ (w.Calm → t.Calm) := by
  have hkeeps : ∀ next : Dir, Sound next →
      w.disk.Thinned dir next ∨ w.disk.Without dir next →
      (∀ name ∈ stateFileNames, liveFile next name = liveFile w.disk name) →
      Keeps before next := by
    intro next hsound hhow hlive
    refine h.trans ⟨hsound, hsettled next hhow hlive⟩
  apply meets_removeAll hfolder
  · intro hnot t ht
    rw [ht]
    exact ⟨h, hnot⟩
  · intro t ht
    have hall := hkeeps t.disk (h.sound.of_thinned ht) (Or.inl ht) (by
      intro name _
      rcases ht (.top name) with hsame | ⟨inner, hpath, -⟩
      · exact hsame
      · cases hpath)
    exact ⟨hall, fun hnot => ⟨hall, hnot⟩⟩
  · intro t ht hcalm
    have hall := hkeeps t.disk (h.sound.of_without ht) (Or.inr ht) (by
      intro name hname
      exact ht.other (.top name) fun heq =>
        stateFile_ne_dir hname dir hdir heq.symm)
    exact ⟨hall, hall, ht, hcalm⟩

/-- A folder is removed when no original is left aside. -/
theorem meets_removeDir_of_clear {dir refusal : Text}
    (hdir : dir ∈ transactionDirNames) (h : Keeps before w.disk)
    (hfolder : look w.disk (.top dir) = some .folder)
    (hclear : ∀ name ∈ stateFileNames,
      look w.disk (.inside rollbackDirName name) = none) :
    Proc.Meets (fun t => Keeps before t.disk) (removeAll dir refusal) w
      fun answer t => Keeps before t.disk ∧
        match answer with
        | .error _ => ¬w.Calm
        | .ok _ => w.disk.Without dir t.disk ∧ (w.Calm → t.Calm) := by
  apply meets_removeDir hdir h hfolder
  intro next hnext hlive name hname
  have hnone := hclear name hname
  rw [settledFile_of_clear (look_none_of_removed hnone hnext),
    settledFile_of_clear hnone, hlive name hname]

theorem meets_rollbackFile {name : Text}
    (h : Undoing before stateDirName w.disk) (hstate : IsStateDir stateDirName)
    (hname : name ∈ stateFileNames) :
    Proc.Meets (fun t => Keeps before t.disk) (rollbackFile stateDirName name) w
      (FileRestored before stateDirName name w) := by
  have hkeeps := h.keeps
  have hrefused : ∀ t : World Text UInt8, t.disk = w.disk → ¬w.Calm →
      Keeps before t.disk ∧ (w.Calm → Collides w.disk stateDirName name) := by
    intro t ht hnot
    rw [ht]
    exact ⟨hkeeps, fun hcalm => absurd hcalm hnot⟩
  have hfiles := hkeeps.sound.files
  have hrollback := isStatePath_inside rollback_mem hname
  apply Proc.meets_bind
  apply meets_regularFileExists (hfiles _ (isStatePath_top hname))
  · exact fun hnot _ t ht => hrefused t ht hnot
  intro first hfirst hcalm
  apply Proc.meets_bind
  apply meets_regularFileExists
    (by rw [hfirst]; exact hfiles _ (isStatePath_inside hstate.mem hname))
  · exact fun hnot _ t ht => hrefused t (ht.trans hfirst) (mt hcalm hnot)
  intro second hsecond hcalm₂
  rw [hfirst] at hsecond ⊢
  apply Proc.meets_bind
  apply meets_regularFileExists
    (by rw [hsecond]; exact hfiles _ hrollback)
  · exact fun hnot _ t ht =>
      hrefused t (ht.trans hsecond) (mt (hcalm₂ ∘ hcalm) hnot)
  intro third hthird hcalm₃
  rw [hsecond] at hthird ⊢
  have hstill := hcalm₃ ∘ hcalm₂ ∘ hcalm
  -- What is left to do when nothing is in the way of the original.
  have hrestore : ∀ (v : World Text UInt8) (original : Bytes),
      Undoing before stateDirName v.disk →
      look v.disk (.inside rollbackDirName name) =
        some (.entry (.file original)) →
      look v.disk (.top name) = none →
      (∀ path, base path ≠ name → look v.disk path = look w.disk path) →
      (w.Calm → v.Calm) → ¬Collides w.disk stateDirName name →
      Proc.Meets (fun t => Keeps before t.disk)
        (rename (.inside rollbackDirName name) (.top name)
          ("restore original node merge file " ++ name)) v
        (FileRestored before stateDirName name w) := by
    intro v original hv horiginal hfree hothers hcalm' hnone
    apply meets_rename horiginal
    · simp [isOpen, ← Bool.not_eq_true, isFolder_iff, hfree]
    · intro hnot t ht
      exact And.intro (by rw [ht]; exact hv.keeps)
        fun hc => absurd (hcalm' hc) hnot
    intro t ht hcalm''
    have hdone := hv.restored hstate hname horiginal ht
    refine ⟨hdone.keeps, And.intro hdone ⟨?_, ?_, hcalm'' ∘ hcalm', hnone⟩⟩
    · rw [ht, if_neg (by simp), if_pos rfl]
    · intro path hpath
      rw [ht, if_neg (by rintro rfl; exact hpath rfl),
        if_neg (by rintro rfl; exact hpath rfl), hothers path hpath]
  rcases hfiles _ hrollback with hnone | ⟨original, horiginal⟩
  · rw [hnone]
    apply Proc.meets_pure
    refine And.intro (by rw [hthird]; exact h)
      ⟨by rw [hthird, hnone], fun path _ => by rw [hthird], hstill, ?_⟩
    rintro ⟨-, -, horiginal⟩
    rw [hnone] at horiginal
    cases horiginal
  rw [horiginal]
  have hthirdUndoing : Undoing before stateDirName third.disk := by
    rw [hthird]
    exact h
  rcases hfiles _ (isStatePath_top hname) with hfree | ⟨data, hdata⟩
  · -- The original's place is free.
    rw [hfree]
    simp only [Option.isSome_none, Option.isSome_some, Bool.not_true,
      Bool.false_eq_true, ↓reduceIte, Bool.and_false]
    apply Proc.meets_bind
    apply meets_refuse
    · intro hbad
      cases hbad
    intro _
    exact hrestore third original hthirdUndoing (by rw [hthird, horiginal])
      (by rw [hthird, hfree]) (fun path _ => by rw [hthird]) hstill (by
        rintro ⟨hsome, -, -⟩
        rw [hfree] at hsome
        cases hsome)
  rw [hdata]
  cases hstaged : look w.disk (.inside stateDirName name) with
  | some staged =>
      simp only [Option.isSome_some, Bool.not_true, Bool.false_eq_true,
        ↓reduceIte, Bool.false_and]
      apply Proc.meets_bind
      apply meets_refuse
      · intro _
        refine And.intro (by rw [hthird]; exact hkeeps) fun _ => ⟨?_, ?_, ?_⟩
        · rw [hdata]
          rfl
        · rw [hstaged]
          rfl
        · rw [horiginal]
          rfl
      · intro hgood
        cases hgood
  | none =>
      simp only [Option.isSome_none, Option.isSome_some, Bool.not_true,
        Bool.not_false, Bool.false_eq_true, ↓reduceIte, Bool.and_self]
      apply Proc.meets_bind
      apply meets_rename (by rw [hthird]; exact hdata)
      · rw [isOpen, isFolder_iff, hthird]
        exact h.state
      · intro hnot t ht
        exact hrefused t (ht.trans hthird) (mt hstill hnot)
      intro moved hmoved hcalm₄
      rw [hthird] at hmoved
      have hreturned := h.returned hstate hname horiginal hmoved
      refine ⟨hreturned.keeps, ?_⟩
      apply hrestore moved original hreturned
      · rw [hmoved, if_neg (by simp [hstate.ne_rollback]), if_neg (by simp),
          horiginal]
      · rw [hmoved, if_neg (by simp), if_pos rfl]
      · intro path hpath
        rw [hmoved, if_neg (by rintro rfl; exact hpath rfl),
          if_neg (by rintro rfl; exact hpath rfl)]
      · exact hcalm₄ ∘ hstill
      · rintro ⟨-, hsome, -⟩
        rw [hstaged] at hsome
        cases hsome

/-- Rolling back: whether it comes to its end or not, what is settled stays,
and when it does the originals are in place. -/
theorem meets_rollbackTransactionLocked {keepState : Bool}
    (h : Undoing before stateDirName w.disk)
    (hstate : IsStateDir stateDirName) :
    Proc.Meets (fun t => Keeps before t.disk)
      (rollbackTransactionLocked stateDirName keepState) w fun answer t =>
        Keeps before t.disk ∧
        match answer with
        | .error _ =>
            w.Calm → ∃ name ∈ stateFileNames, Collides w.disk stateDirName name
        | .ok _ => (w.Calm → t.Calm) ∧
            (∀ name ∈ stateFileNames, ¬Collides w.disk stateDirName name) ∧
            look t.disk (.top rollbackDirName) = none ∧
            (keepState = false → look t.disk (.top stateDirName) = none) ∧
            ∀ dir ∈ transactionDirNames, dir ≠ stateDirName →
              dir ≠ rollbackDirName →
              look t.disk (.top dir) = look w.disk (.top dir) := by
  apply Proc.meets_bind
  apply Proc.meets_each
    (fun rest t => Undoing before stateDirName t.disk ∧
      (w.Calm → t.Calm) ∧
      (∀ name ∈ stateFileNames, name ∉ rest →
        look t.disk (.inside rollbackDirName name) = none ∧
          ¬Collides w.disk stateDirName name) ∧
      (∀ path, base path ∈ rest ∨ base path ∉ stateFileNames →
        look t.disk path = look w.disk path))
    stateFileNames
  · rintro name rest v hsuffix ⟨hv, hcalm, hclear, hsame⟩
    have hname : name ∈ stateFileNames :=
      hsuffix.subset List.mem_cons_self
    have hnodup : (name :: rest).Nodup :=
      hsuffix.sublist.nodup (by decide)
    have hsub : ∀ other ∈ rest, other ∈ stateFileNames := fun other hother =>
      hsuffix.subset (List.mem_cons_of_mem _ hother)
    have hhere : ∀ path, base path = name →
        look v.disk path = look w.disk path := fun path hpath =>
      hsame path (Or.inl (by rw [hpath]; exact List.mem_cons_self))
    have hcollides : Collides v.disk stateDirName name ↔
        Collides w.disk stateDirName name := by
      simp only [Collides, hhere (.top name) rfl,
        hhere (.inside stateDirName name) rfl,
        hhere (.inside rollbackDirName name) rfl]
    apply (meets_rollbackFile hv hstate hname).mono
    intro answer t hanswer
    cases answer with
    | error e =>
        exact ⟨hanswer.1, fun hc =>
          ⟨name, hname, hcollides.mp (hanswer.2 (hcalm hc))⟩⟩
    | ok u =>
        obtain ⟨hundoing, hgone, hothers, hcalm', hfree⟩ := hanswer
        refine ⟨hundoing, hcalm' ∘ hcalm, ?_, ?_⟩
        · intro other hother hnot
          by_cases heq : other = name
          · rw [heq]
            exact ⟨hgone, mt hcollides.mpr hfree⟩
          · rw [hothers (.inside rollbackDirName other) heq]
            exact hclear other hother (by simp [heq, hnot])
        · intro path hpath
          have hne : base path ≠ name := by
            rintro heq
            rcases hpath with hmem | hnot
            · exact (List.nodup_cons.mp hnodup).1 (heq ▸ hmem)
            · exact hnot (heq ▸ hname)
          rw [hothers path hne]
          apply hsame
          rcases hpath with hmem | hnot
          · exact Or.inl (List.mem_cons_of_mem _ hmem)
          · exact Or.inr hnot
  · exact ⟨h, id, fun name hname hnot => absurd hname hnot,
      fun path _ => rfl⟩
  rintro undone ⟨hundone, hcalm, hclear, hsame⟩
  have hfree : ∀ name ∈ stateFileNames, ¬Collides w.disk stateDirName name :=
    fun name hname => (hclear name hname List.not_mem_nil).2
  replace hclear : ∀ name ∈ stateFileNames,
      look undone.disk (.inside rollbackDirName name) = none :=
    fun name hname => (hclear name hname List.not_mem_nil).1
  have hdirs : ∀ dir ∈ transactionDirNames,
      look undone.disk (.top dir) = look w.disk (.top dir) :=
    fun dir hdir => hsame (.top dir)
      (Or.inr fun hmem => stateFile_ne_dir hmem dir hdir rfl)
  apply Proc.meets_bind
  apply (meets_removeDir_of_clear rollback_mem hundone.keeps hundone.rollback
    hclear).mono
  rintro answer removed ⟨hkeeps, hremoved⟩
  cases answer with
  | error e => exact ⟨hkeeps, fun hc => absurd (hcalm hc) hremoved⟩
  | ok u =>
      obtain ⟨hwithout, hcalm'⟩ := hremoved
      have hgone := hwithout.top_self
      have hrest : ∀ dir ∈ transactionDirNames, dir ≠ rollbackDirName →
          look removed.disk (.top dir) = look w.disk (.top dir) := by
        intro dir hdir hne
        rw [hwithout.other (.top dir) fun heq => hne heq.symm, hdirs dir hdir]
      apply Proc.meets_when
      · intro hkeep
        apply (meets_removeDir_of_clear hstate.mem hkeeps (by
          rw [hrest _ hstate.mem hstate.ne_rollback]
          exact h.state) fun name hname =>
            look_none_of_removed (hclear name hname) (Or.inr hwithout)).mono
        rintro answer t ⟨hkeeps', ht⟩
        refine ⟨hkeeps', ?_⟩
        cases answer with
        | error e => exact fun hc => absurd (hcalm' (hcalm hc)) ht
        | ok u =>
            obtain ⟨hwithout', hcalm''⟩ := ht
            refine ⟨hcalm'' ∘ hcalm' ∘ hcalm, hfree, ?_, ?_, ?_⟩
            · exact look_none_of_removed hgone (Or.inr hwithout')
            · exact fun _ => hwithout'.top_self
            · intro dir hdir hne hneRollback
              rw [hwithout'.other (.top dir) fun heq => hne heq.symm,
                hrest dir hdir hneRollback]
      · intro hkeep
        refine ⟨hkeeps, hcalm' ∘ hcalm, hfree, hgone, ?_, ?_⟩
        · intro hnot
          rw [hnot] at hkeep
          cases hkeep
        · exact fun dir hdir _ hne => hrest dir hdir hne

end Rollback

section Recovery

variable {before : Dir} {w : World Text UInt8}

/-- Finishing a confirmed merge. -/
theorem meets_cleanupTransactionLocked (h : Keeps before w.disk)
    (hmarked : Marked w.disk)
    (hrollback : look w.disk (.top rollbackDirName) = some .folder) :
    Proc.Meets (fun t => Keeps before t.disk)
      (cleanupTransactionLocked (look w.disk (.top appliedDirName)).isSome true)
      w fun answer t => Keeps before t.disk ∧
        match answer with
        | .error _ => ¬w.Calm
        | .ok _ => look t.disk (.top appliedDirName) = none ∧
            look t.disk (.top rollbackDirName) = none := by
  have hpending := h.sound.marked hmarked
  -- Once the applied folder is gone, there is nothing to go back from.
  have hrest : ∀ (v : World Text UInt8) (refusal : Text),
      Keeps before v.disk → look v.disk (.top pendingDirName) = none →
      look v.disk (.top appliedDirName) = none →
      look v.disk (.top rollbackDirName) = some .folder →
      (w.Calm → v.Calm) →
      Proc.Meets (fun t => Keeps before t.disk)
        (removeAll rollbackDirName refusal) v fun answer t =>
          Keeps before t.disk ∧
          match answer with
          | .error _ => ¬w.Calm
          | .ok _ => look t.disk (.top appliedDirName) = none ∧
              look t.disk (.top rollbackDirName) = none := by
    intro v refusal hv hnoPending hnoApplied hfolder hcalm
    refine Proc.Meets.mono (meets_removeDir rollback_mem hv hfolder ?_) ?_
    · intro next hnext hlive name hname
      rw [settledFile_of_committed (Or.inr
          ⟨look_none_of_removed hnoPending hnext,
            look_none_of_removed hnoApplied hnext⟩),
        settledFile_of_committed (Or.inr ⟨hnoPending, hnoApplied⟩),
        hlive name hname]
    rintro answer t ⟨hkeeps, ht⟩
    refine ⟨hkeeps, ?_⟩
    cases answer with
    | error e => exact fun hc => ht (hcalm hc)
    | ok u =>
        exact ⟨look_none_of_removed hnoApplied (Or.inr ht.1), ht.1.top_self⟩
  apply Proc.meets_bind
  apply Proc.meets_when
  · intro happlied
    have hfolder : look w.disk (.top appliedDirName) = some .folder := by
      rcases h.sound.dirs _ applied_mem with hnone | hfolder
      · rw [hnone] at happlied
        cases happlied
      · exact hfolder
    refine Proc.Meets.mono (meets_removeDir applied_mem h hfolder ?_) ?_
    · intro next hnext hlive name hname
      have hstill : Marked next := by
        rcases hnext with hthinned | hwithout
        · rcases hthinned (.inside rollbackDirName commitMarkerName) with
            hsame | ⟨inner, hpath, -⟩
          · rw [Marked, hsame]
            exact hmarked
          · exact absurd (Path.inside.inj hpath).1.symm applied_ne_rollback
        · rw [Marked, hwithout.other
            (.inside rollbackDirName commitMarkerName) applied_ne_rollback]
          exact hmarked
      rw [settledFile_of_committed (Or.inl hstill),
        settledFile_of_committed (Or.inl hmarked), hlive name hname]
    rintro answer t ⟨hkeeps, ht⟩
    cases answer with
    | error e => exact ⟨hkeeps, ht⟩
    | ok u =>
        obtain ⟨hwithout, hcalm⟩ := ht
        apply Proc.meets_when
        · intro _
          apply hrest t _ hkeeps _ hwithout.top_self _ hcalm
          · exact look_none_of_removed hpending (Or.inr hwithout)
          · rw [hwithout.other (.top rollbackDirName) applied_ne_rollback]
            exact hrollback
        · intro hno
          cases hno
  · intro hnone
    apply Proc.meets_when
    · intro _
      exact hrest w _ h hpending (by simpa using hnone) hrollback id
    · intro hno
      cases hno

/-- What recovery cannot decide about: a marker cut off while it was written,
originals left behind by the end of a confirmation, or a state file that is in
all three places. -/
def Blocked (disk : Dir) : Prop :=
  look disk (.top rollbackDirName) = some .folder ∧
    (HalfMarked disk ∨ ¬Marked disk ∧
      ((look disk (.top pendingDirName) = none ∧
          look disk (.top appliedDirName) = none) ∨
        ∃ dir, IsStateDir dir ∧ look disk (.top dir) = some .folder ∧
          ∃ name ∈ stateFileNames, Collides disk dir name))

/-- No merge is under way: the folders of a trial are gone. -/
def Quiet (disk : Dir) : Prop :=
  look disk (.top appliedDirName) = none ∧
    look disk (.top rollbackDirName) = none

/-- What recovery comes to. -/
def RecoveryOutcome (w : World Text UInt8) (answer : Except Text Bool)
    (t : World Text UInt8) : Prop :=
  Keeps w.disk t.disk ∧
    match answer with
    | .error _ => w.Calm → Blocked w.disk
    | .ok _ => Quiet t.disk ∧ ¬Blocked w.disk

theorem not_blocked_of_no_rollback
    (h : look w.disk (.top rollbackDirName) = none) : ¬Blocked w.disk := by
  rintro ⟨hfolder, -⟩
  rw [h] at hfolder
  cases hfolder

theorem Sound.other_none {dir : Text} {disk : Dir} (h : Sound disk)
    (hstate : IsStateDir dir) (hfolder : look disk (.top dir) = some .folder)
    {other : Text} (hother : IsStateDir other) (hne : other ≠ dir) :
    look disk (.top other) = none := by
  have hone := h.one
  rcases hstate with rfl | rfl <;> rcases hother with rfl | rfl
  · exact absurd rfl hne
  · rw [hfolder] at hone
    simpa using hone
  · rw [hfolder] at hone
    simpa using hone
  · exact absurd rfl hne

/-- Recovery of an unconfirmed merge from the folder its files came from. -/
theorem meets_recoverFrom {dir : Text} {keepState : Bool} {v : World Text UInt8}
    (hsound : Sound w.disk) (hsame : v.disk = w.disk) (hcalm : w.Calm → v.Calm)
    (hstate : IsStateDir dir) (hfolder : look w.disk (.top dir) = some .folder)
    (hrollback : look w.disk (.top rollbackDirName) = some .folder)
    (hunmarked : ¬Marked w.disk) (hhalf : ¬HalfMarked w.disk)
    (hkeep : keepState = false ∨ dir = pendingDirName) :
    Proc.Meets (fun t => Keeps w.disk t.disk)
      (rollbackTransactionLocked dir keepState >>= fun _ => pure true) v
      (RecoveryOutcome w) := by
  have hundoing : Undoing w.disk dir v.disk := by
    rw [hsame]
    exact ⟨Keeps.refl hsound, hfolder, hrollback, hunmarked⟩
  apply Proc.meets_bind
  apply (meets_rollbackTransactionLocked hundoing hstate).mono
  rintro answer t ⟨hkeeps, ht⟩
  cases answer with
  | error e =>
      refine And.intro hkeeps
        fun hc => ⟨hrollback, Or.inr ⟨hunmarked, Or.inr ?_⟩⟩
      have hcollides := ht (hcalm hc)
      rw [hsame] at hcollides
      exact ⟨dir, hstate, hfolder, hcollides⟩
  | ok u =>
      obtain ⟨-, hfree, hgone, hstateGone, hothers⟩ := ht
      rw [hsame] at hfree hothers
      refine Proc.meets_pure (And.intro hkeeps ⟨⟨?_, hgone⟩, ?_⟩)
      · by_cases happlied : appliedDirName = dir
        · rw [happlied]
          rcases hkeep with hkeep | hpending
          · exact hstateGone hkeep
          · exact absurd (hpending.symm.trans happlied.symm) pending_ne_applied
        · rw [hothers _ applied_mem happlied applied_ne_rollback]
          exact hsound.other_none hstate hfolder (Or.inr rfl) happlied
      · rintro ⟨-, hhalf' | ⟨-, ⟨hpending, happlied⟩ |
          ⟨other, hother, hotherFolder, name, hname, hcollides⟩⟩⟩
        · exact hhalf hhalf'
        · rcases hstate with rfl | rfl
          · rw [hpending] at hfolder
            cases hfolder
          · rw [happlied] at hfolder
            cases hfolder
        · by_cases heq : other = dir
          · rw [heq] at hcollides
            exact hfree name hname hcollides
          · rw [hsound.other_none hstate hfolder hother heq] at hotherFolder
            cases hotherFolder

theorem clear_of_no_rollback {disk : Dir}
    (h : look disk (.top rollbackDirName) = none) (name : Text) :
    look disk (.inside rollbackDirName name) = none := by
  apply look_inside_of_not_folder
  rw [← Bool.not_eq_true, isFolder_iff, h]
  exact fun heq => by cases heq

theorem meets_recoverUnconfirmed (hsound : Sound w.disk) :
    Proc.Meets (fun t => Keeps w.disk t.disk) recoverUnconfirmed w
      (RecoveryOutcome w) := by
  have hstay : ∀ (e : Text) (t : World Text UInt8), t.disk = w.disk →
      (w.Calm → Blocked w.disk) → RecoveryOutcome w (.error e) t := by
    intro e t ht hblocked
    exact And.intro (by rw [ht]; exact Keeps.refl hsound) hblocked
  apply Proc.meets_bind
  apply meets_inspectTransactionDirs hsound
  · exact fun hnot e t ht => hstay e t ht fun hc => absurd hc hnot
  intro looked hlooked hcalm
  have hkeeps : Keeps w.disk looked.disk := by
    rw [hlooked]
    exact Keeps.refl hsound
  rcases hsound.dirs _ rollback_mem with hnoRollback | hrollback
  · have hfree := not_blocked_of_no_rollback hnoRollback
    rw [hnoRollback]
    rcases hsound.dirs _ applied_mem with hnoApplied | happlied
    · rw [hnoApplied]
      refine Proc.meets_pure (And.intro hkeeps ⟨⟨?_, ?_⟩, hfree⟩)
      · rw [hlooked, hnoApplied]
      · rw [hlooked, hnoRollback]
    · rw [happlied]
      simp only [Option.isSome_none, Option.isSome_some, Bool.not_true,
        Bool.not_false, Bool.and_true, Bool.and_false, Bool.false_eq_true,
        ↓reduceIte]
      apply Proc.meets_bind
      apply Proc.meets_pure
      simp only [Bool.false_eq_true, ↓reduceIte]
      apply Proc.meets_bind
      refine Proc.Meets.mono (meets_removeDir_of_clear applied_mem hkeeps
        (by rw [hlooked, happlied]) fun name _ =>
          clear_of_no_rollback (by rw [hlooked, hnoRollback]) name) ?_
      rintro answer t ⟨hkeeps', ht⟩
      cases answer with
      | error e => exact And.intro hkeeps' fun hc => absurd (hcalm hc) ht
      | ok u =>
          refine Proc.meets_pure
            (And.intro hkeeps' ⟨⟨ht.1.top_self, ?_⟩, hfree⟩)
          exact look_none_of_removed (by rw [hlooked, hnoRollback])
            (Or.inr ht.1)
  · rw [hrollback]
    simp only [Option.isSome_some, Bool.not_true, Bool.and_false,
      Bool.and_true, Bool.false_eq_true, ↓reduceIte]
    apply Proc.meets_bind
    apply meets_commitMarked hkeeps.sound
    · intro e t ht hhalf
      refine hstay e t (ht.trans hlooked) fun hc => ⟨hrollback, Or.inl ?_⟩
      rw [← hlooked]
      exact hhalf (hcalm hc)
    intro marked hmarkedDisk hcalm' hhalf
    rw [hlooked] at hmarkedDisk hhalf ⊢
    by_cases hmarked : Marked w.disk
    · rw [decide_eq_true hmarked]
      simp only [↓reduceIte]
      apply Proc.meets_bind
      have hkept : Keeps w.disk marked.disk := by
        rw [hmarkedDisk]
        exact Keeps.refl hsound
      have hcleanup := meets_cleanupTransactionLocked hkept
        (by rw [hmarkedDisk]; exact hmarked)
        (by rw [hmarkedDisk]; exact hrollback)
      rw [hmarkedDisk] at hcleanup
      apply hcleanup.mono
      rintro answer t ⟨hkeeps', ht⟩
      cases answer with
      | error e =>
          exact And.intro hkeeps' fun hc => absurd (hcalm' (hcalm hc)) ht
      | ok u =>
          refine Proc.meets_pure (And.intro hkeeps' ⟨ht, ?_⟩)
          rintro ⟨-, hhalf' | ⟨hnot, -⟩⟩
          · exact hhalf hhalf'
          · exact hnot hmarked
    rw [decide_eq_false hmarked]
    simp only [Bool.false_eq_true, ↓reduceIte]
    rcases hsound.dirs _ applied_mem with hnoApplied | happlied
    · rw [hnoApplied]
      simp only [Option.isSome_none, Bool.false_eq_true, ↓reduceIte]
      rcases hsound.dirs _ pending_mem with hnoPending | hpending
      · rw [hnoPending]
        simp only [Option.isSome_none, Bool.false_eq_true, ↓reduceIte]
        apply Proc.meets_fail
        exact hstay _ marked hmarkedDisk fun _ =>
          ⟨hrollback, Or.inr ⟨hmarked, Or.inl ⟨hnoPending, hnoApplied⟩⟩⟩
      · rw [hpending]
        simp only [Option.isSome_some, ↓reduceIte]
        exact meets_recoverFrom hsound hmarkedDisk (hcalm' ∘ hcalm)
          (Or.inl rfl) hpending hrollback hmarked hhalf (Or.inr rfl)
    · rw [happlied]
      simp only [Option.isSome_some, ↓reduceIte]
      exact meets_recoverFrom hsound hmarkedDisk (hcalm' ∘ hcalm)
        (Or.inr rfl) happlied hrollback hmarked hhalf (Or.inl rfl)

end Recovery

end XrayChecker.Nodemerge

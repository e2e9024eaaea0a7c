import XrayChecker.Nodemerge.Recovery

/-
Staging a merge and installing it.  Both keep what is settled; an installed
merge leaves the merged files live and the originals aside.
-/

namespace XrayChecker.Nodemerge

open Go NodeArchive Machine Disk DiskProc

variable {before disk next : Dir} {w : World Text UInt8} {Run : Type}
  {formats : Formats Run}

/-- The merged files that the code makes of the files there. -/
def MergeOf (formats : Formats Run) (files merged : View) : Prop :=
  ∃ instruction now registryData speedData newRegistry newSpeed,
    files ⟨nodeRegistryName, registry_mem⟩ =
        some (.entry (.file registryData)) ∧
      files ⟨speedResultsName, speed_mem⟩ = some (.entry (.file speedData)) ∧
      mergedData formats instruction now registryData speedData =
        .ok (newRegistry, newSpeed) ∧
      merged ⟨nodeRegistryName, registry_mem⟩ =
        some (.entry (.file newRegistry)) ∧
      merged ⟨speedResultsName, speed_mem⟩ = some (.entry (.file newSpeed))

/-- The merged files are installed and not confirmed. -/
structure OnTrial (disk : Dir) : Prop where
  applied : look disk (.top appliedDirName) = some .folder
  unmarked : ¬Marked disk
  aside : ∀ name ∈ stateFileNames,
    look disk (.inside rollbackDirName name) ≠ none

section Queries

variable {Crash : World Text UInt8 → Prop}

theorem meets_loadInstruction {dir : Text}
    {Post : Except Text PendingInstruction → World Text UInt8 → Prop}
    (herror : ∀ e (t : World Text UInt8), t.disk = w.disk → Post (.error e) t)
    (h : ∀ instruction (t : World Text UInt8), t.disk = w.disk →
      Post (.ok instruction) t) :
    Proc.Meets Crash (loadInstruction formats dir) w Post := by
  apply Proc.meets_bind
  apply meets_query
  · exact fun _ t ht => herror _ t ht
  intro t ht _
  cases look w.disk (.inside dir instructionFileName) with
  | none => exact herror _ t ht
  | some found =>
      cases found with
      | folder => exact herror _ t ht
      | entry entry =>
          cases entry with
          | special => exact herror _ t ht
          | file data =>
              apply Proc.meets_bind
              apply Proc.meets_ofExcept
              simp only [required]
              cases formats.decodeInstruction data with
              | none => exact herror _ t ht
              | some instruction =>
                  apply Proc.meets_bind
                  apply meets_refuse
                  · exact fun _ => herror _ t ht
                  · exact fun _ => Proc.meets_pure (h instruction t ht)

theorem meets_readValidatedStateFile {name : Text}
    {Post : Except Text Bytes → World Text UInt8 → Prop}
    (hplain : Plain (look w.disk (.top name)))
    (herror : ∀ e (t : World Text UInt8), t.disk = w.disk → Post (.error e) t)
    (h : ∀ data (t : World Text UInt8), t.disk = w.disk →
      look w.disk (.top name) = some (.entry (.file data)) →
      Post (.ok data) t) :
    Proc.Meets Crash (readValidatedStateFile formats name) w Post := by
  apply Proc.meets_bind
  apply meets_lstat
  · exact fun _ t ht => herror _ t ht
  intro looked hlooked _
  rcases hplain with hnone | ⟨data, hfile⟩
  · rw [hnone]
    apply Proc.meets_bind
    apply meets_refuse
    · exact fun _ => herror _ looked hlooked
    · intro hgood
      cases hgood
  rw [hfile]
  apply Proc.meets_bind
  apply meets_refuse
  · intro hbad
    cases hbad
  intro _
  apply Proc.meets_bind
  apply meets_refuse
  · intro hbad
    cases hbad
  intro _
  apply Proc.meets_bind
  apply meets_readFile (by rw [hlooked]; exact hfile)
  · exact fun _ t ht => herror _ t (ht.trans hlooked)
  intro t ht _
  dsimp only
  cases formats.fault name data with
  | some error => exact Proc.meets_fail (herror _ t (ht.trans hlooked))
  | none => exact Proc.meets_pure (h data t (ht.trans hlooked) hfile)

end Queries

section Install

/-- The state files still to be installed: the original is in place, and the
merged file waits. -/
structure Waiting (disk : Dir) (name : Text) (original merged : Bytes) :
    Prop where
  live : liveFile disk name = some (.entry (.file original))
  staged : look disk (.inside pendingDirName name) =
    some (.entry (.file merged))
  clear : look disk (.inside rollbackDirName name) = none

/-- The original is put aside. -/
theorem Undoing.put_aside {name : Text} {original merged : Bytes}
    (h : Undoing before pendingDirName disk) (hname : name ∈ stateFileNames)
    (hwaiting : Waiting disk name original merged)
    (hlook : ∀ path, look next path =
      if .inside rollbackDirName name = path
      then some (.entry (.file original))
      else if .top name = path then none else look disk path) :
    Undoing before pendingDirName next := by
  obtain ⟨hkeeps, hsame⟩ := h.keeps.of_file next hname
    (by
      intro path hpath
      rw [hlook, if_neg (by rintro rfl; exact hpath rfl),
        if_neg (by rintro rfl; exact hpath rfl)])
    (by
      intro path hpath _
      rw [hlook]
      split
      · exact plain_file original
      · split
        · exact plain_none
        · exact h.keeps.sound.files path hpath)
    (by
      intro hcommitted
      have hnot := h.not_committed (Or.inl rfl)
      rw [settledFile_of_clear hwaiting.clear, hwaiting.live,
        settledFile_of_original (mt hcommitted.mp hnot)
          (by rw [hlook, if_pos rfl])])
  exact h.of_sameDirs (Or.inl rfl) hkeeps hsame

/-- The merged file takes the place of the original. -/
theorem Undoing.installed {name : Text} {original merged : Bytes}
    (h : Undoing before pendingDirName disk) (hname : name ∈ stateFileNames)
    (horiginal : look disk (.inside rollbackDirName name) =
      some (.entry (.file original)))
    (hlook : ∀ path, look next path =
      if .top name = path then some (.entry (.file merged))
      else if .inside pendingDirName name = path then none
      else look disk path) :
    Undoing before pendingDirName next := by
  have hstill : look next (.inside rollbackDirName name) =
      some (.entry (.file original)) := by
    rw [hlook, if_neg (by simp), if_neg (by simp [pending_ne_rollback]),
      horiginal]
  obtain ⟨hkeeps, hsame⟩ := h.keeps.of_file next hname
    (by
      intro path hpath
      rw [hlook, if_neg (by rintro rfl; exact hpath rfl),
        if_neg (by rintro rfl; exact hpath rfl)])
    (by
      intro path hpath _
      rw [hlook]
      split
      · exact plain_file merged
      · split
        · exact plain_none
        · exact h.keeps.sound.files path hpath)
    (by
      intro hcommitted
      have hnot := h.not_committed (Or.inl rfl)
      rw [settledFile_of_original (mt hcommitted.mp hnot) hstill,
        settledFile_of_original hnot horiginal])
  exact h.of_sameDirs (Or.inl rfl) hkeeps hsame

theorem meets_installFile {name : Text} {original merged : Bytes}
    (h : Undoing before pendingDirName w.disk) (hname : name ∈ stateFileNames)
    (hwaiting : Waiting w.disk name original merged) :
    Proc.Meets (fun t => Keeps before t.disk) (installFile name) w
      fun answer t => Undoing before pendingDirName t.disk ∧
        match answer with
        | .error _ => True
        | .ok _ => liveFile t.disk name = some (.entry (.file merged)) ∧
            look t.disk (.inside rollbackDirName name) ≠ none ∧
            ∀ path, base path ≠ name → look t.disk path = look w.disk path := by
  apply Proc.meets_bind
  apply meets_rename hwaiting.live
  · rw [isOpen, isFolder_iff]
    exact h.rollback
  · intro _ t ht
    rw [ht]
    exact ⟨h, trivial⟩
  intro aside haside _
  have hput := h.put_aside hname hwaiting haside
  refine ⟨hput.keeps, ?_⟩
  apply Proc.meets_bind
  have hstaged : look aside.disk (.inside pendingDirName name) =
      some (.entry (.file merged)) := by
    rw [haside, if_neg (by simp [pending_ne_rollback.symm]), if_neg (by simp),
      hwaiting.staged]
  apply meets_rename hstaged
  · have hgone : look aside.disk (.top name) = none := by
      rw [haside, if_neg (by simp), if_pos rfl]
    simp [isOpen, ← Bool.not_eq_true, isFolder_iff, hgone]
  · intro _ t ht
    rw [ht]
    exact ⟨hput, trivial⟩
  intro installed hinstalled _
  have hin := hput.installed hname (by rw [haside, if_pos rfl]) hinstalled
  refine ⟨hin.keeps, ?_⟩
  apply meets_touch
  · intro _ t ht
    rw [ht]
    exact ⟨hin, trivial⟩
  intro t ht _
  rw [ht]
  refine ⟨hin, ?_, ?_, ?_⟩
  · rw [liveFile, hinstalled, if_pos rfl]
  · rw [hinstalled, if_neg (by simp),
      if_neg (by simp [pending_ne_rollback]), haside, if_pos rfl]
    exact Option.some_ne_none _
  · intro path hpath
    rw [hinstalled, if_neg (by rintro rfl; exact hpath rfl),
      if_neg (by rintro rfl; exact hpath rfl), haside,
      if_neg (by rintro rfl; exact hpath rfl),
      if_neg (by rintro rfl; exact hpath rfl)]

/-- The pending folder becomes the applied one. -/
theorem Undoing.finalized (h : Undoing before pendingDirName disk)
    (haside : ∀ name ∈ stateFileNames,
      look disk (.inside rollbackDirName name) ≠ none)
    (htop : ∀ name, look next (.top name) =
      if appliedDirName = name then some .folder
      else if pendingDirName = name then none else look disk (.top name))
    (hinside : ∀ folder name, look next (.inside folder name) =
      if appliedDirName = folder then look disk (.inside pendingDirName name)
      else if pendingDirName = folder then none
      else look disk (.inside folder name)) :
    Keeps before next ∧ OnTrial next ∧
      ∀ name ∈ stateFileNames, liveFile next name = liveFile disk name := by
  have hrollback : ∀ name, look next (.inside rollbackDirName name) =
      look disk (.inside rollbackDirName name) := fun name => by
    rw [hinside, if_neg applied_ne_rollback, if_neg pending_ne_rollback]
  have hlive : ∀ name ∈ stateFileNames,
      look next (.top name) = look disk (.top name) := by
    intro name hname
    have hne := stateFile_ne_dir hname
    rw [htop, if_neg (hne _ applied_mem).symm, if_neg (hne _ pending_mem).symm]
  have hunmarked : ¬Marked next := by
    rw [Marked, hrollback]
    exact h.unmarked
  have htrial : OnTrial next := by
    refine ⟨by rw [htop, if_pos rfl], hunmarked, fun name hname => ?_⟩
    rw [hrollback]
    exact haside name hname
  have hnot : ¬Committed next := by
    rintro (hmarked | ⟨-, hnone⟩)
    · exact hunmarked hmarked
    · rw [htrial.applied] at hnone
      cases hnone
  have hnone : look next (.top pendingDirName) = none := by
    rw [htop, if_neg pending_ne_applied.symm, if_pos rfl]
  refine ⟨⟨⟨?_, ?_, Or.inl hnone, fun hmarked => absurd hmarked hunmarked⟩,
    ?_⟩, htrial, hlive⟩
  · intro name hname
    rw [htop]
    split
    · exact Or.inr rfl
    · split
      · exact Or.inl rfl
      · exact h.keeps.sound.dirs name hname
  · intro path hpath
    cases path with
    | top name =>
        rw [hlive name (by simpa [isStatePath] using hpath)]
        exact h.keeps.sound.files _ hpath
    | inside folder name =>
        rw [hinside]
        split
        · rename_i heq
          subst heq
          apply h.keeps.sound.files
          have hname : name ∈ stateFileNames := by
            simpa [isStatePath, applied_mem, applied_ne_rollback] using hpath
          exact isStatePath_inside pending_mem hname
        · split
          · exact plain_none
          · exact h.keeps.sound.files _ hpath
  · intro name hname
    rw [← h.keeps.settled name hname]
    simp only [settledFile, if_neg hnot,
      if_neg (h.not_committed (Or.inl rfl)), hrollback, liveFile,
      hlive name hname]

/-- Installing the merged files, all of which wait for it. -/
theorem meets_install {original merged : Text → Bytes}
    (h : Undoing before pendingDirName w.disk)
    (happlied : look w.disk (.top appliedDirName) = none)
    (hwaiting : ∀ name ∈ stateFileNames,
      Waiting w.disk name (original name) (merged name)) :
    Proc.Meets (fun t => Keeps before t.disk) install w fun answer t =>
      match answer with
      | .error _ => Undoing before pendingDirName t.disk
      | .ok _ => Keeps before t.disk ∧ OnTrial t.disk ∧
          ∀ name ∈ stateFileNames,
            liveFile t.disk name = some (.entry (.file (merged name))) := by
  apply Proc.meets_bind
  apply Proc.meets_each
    (fun rest t => Undoing before pendingDirName t.disk ∧
      look t.disk (.top appliedDirName) = none ∧
      (∀ name ∈ rest, Waiting t.disk name (original name) (merged name)) ∧
      ∀ name ∈ stateFileNames, name ∉ rest →
        liveFile t.disk name = some (.entry (.file (merged name))) ∧
          look t.disk (.inside rollbackDirName name) ≠ none)
    stateFileNames
  · rintro name rest v hsuffix ⟨hv, hnone, hwait, hdone⟩
    have hname : name ∈ stateFileNames := hsuffix.subset List.mem_cons_self
    have hnodup : (name :: rest).Nodup := hsuffix.sublist.nodup (by decide)
    apply (meets_installFile hv hname (hwait name List.mem_cons_self)).mono
    rintro answer t ⟨hundoing, ht⟩
    cases answer with
    | error e => exact hundoing
    | ok u =>
        obtain ⟨hlive, haside, hothers⟩ := ht
        refine ⟨hundoing, ?_, ?_, ?_⟩
        · rw [hothers (.top appliedDirName)
            (stateFile_ne_dir hname _ applied_mem).symm, hnone]
        · intro other hother
          have hne : other ≠ name := by
            rintro rfl
            exact (List.nodup_cons.mp hnodup).1 hother
          have hw := hwait other (List.mem_cons_of_mem _ hother)
          exact ⟨(hothers (.top other) hne).trans hw.live,
            (hothers (.inside pendingDirName other) hne).trans hw.staged,
            (hothers (.inside rollbackDirName other) hne).trans hw.clear⟩
        · intro other hother hnot
          by_cases heq : other = name
          · rw [heq]
            exact ⟨hlive, haside⟩
          · rw [liveFile, hothers (.top other) heq,
              hothers (.inside rollbackDirName other) heq]
            exact hdone other hother (by simp [heq, hnot])
  · exact ⟨h, happlied, hwaiting, fun name hname hnot => absurd hname hnot⟩
  rintro installed ⟨hundoing, hnone, -, hlive⟩
  apply meets_rename_folder hundoing.state hnone
  · intro _ t ht
    rw [ht]
    exact hundoing
  intro t htop hinside _
  obtain ⟨hkeeps, htrial, hsame⟩ := hundoing.finalized
    (fun name hname => (hlive name hname List.not_mem_nil).2) htop hinside
  refine ⟨hkeeps, hkeeps, htrial, fun name hname => ?_⟩
  rw [hsame name hname]
  exact (hlive name hname List.not_mem_nil).1

end Install

section Apply

/-- A file of the merge is written into the pending folder. -/
theorem Keeps.of_pending {name : Text} {part : Option Bytes}
    (h : Keeps before disk)
    (hfile : HasFile disk (.inside pendingDirName name) part next) :
    Keeps before next ∧ SameDirs disk next := by
  have htop : ∀ other, look next (.top other) = look disk (.top other) :=
    fun other => by rw [hfile, if_neg (by simp)]
  have hrollback : ∀ other, look next (.inside rollbackDirName other) =
      look disk (.inside rollbackDirName other) := fun other => by
    rw [hfile, if_neg (by simp [pending_ne_rollback])]
  have hsame : SameDirs disk next :=
    ⟨fun dir _ => htop dir, by rw [Marked, Marked, hrollback]⟩
  refine ⟨h.trans ⟨hsame.sound h.sound ?_, ?_⟩, hsame⟩
  · intro path hpath
    rw [hfile]
    split
    · cases part with
      | none => exact plain_none
      | some data => exact plain_file data
    · exact h.sound.files path hpath
  · intro other _
    simp only [settledFile, hsame.committed, liveFile, htop, hrollback]

theorem not_marked_of_no_rollback
    (h : look disk (.top rollbackDirName) = none) : ¬Marked disk := by
  rw [Marked, clear_of_no_rollback h]
  exact fun heq => by cases heq

/-- The rollback folder is made. -/
theorem undoing_of_mkdir (h : Keeps before disk)
    (hpending : look disk (.top pendingDirName) = some .folder)
    (hnone : look disk (.top rollbackDirName) = none)
    (hlook : ∀ path, look next path =
      if .top rollbackDirName = path then some .folder else look disk path) :
    Undoing before pendingDirName next := by
  have hinside : ∀ dir name, look next (.inside dir name) =
      look disk (.inside dir name) := fun dir name => by
    rw [hlook, if_neg (by simp)]
  have htop : ∀ name, name ≠ rollbackDirName →
      look next (.top name) = look disk (.top name) := by
    intro name hne
    rw [hlook, if_neg (by simpa using hne.symm)]
  have hunmarked : ¬Marked next := by
    rw [Marked, hinside]
    exact not_marked_of_no_rollback hnone
  refine ⟨⟨⟨?_, ?_, ?_, fun hmarked => absurd hmarked hunmarked⟩, ?_⟩,
    ?_, ?_, hunmarked⟩
  · intro name hname
    by_cases heq : name = rollbackDirName
    · rw [heq, hlook, if_pos rfl]
      exact Or.inr rfl
    · rw [htop name heq]
      exact h.sound.dirs name hname
  · intro path hpath
    rw [hlook, if_neg]
    · exact h.sound.files path hpath
    · rintro rfl
      rw [not_isStatePath_of_dir (Or.inr (Or.inr rfl))] at hpath
      cases hpath
  · rw [htop _ pending_ne_rollback, htop _ applied_ne_rollback]
    exact h.sound.one
  · intro name hname
    have hclear := clear_of_no_rollback hnone name
    rw [← h.settled name hname,
      settledFile_of_clear (by rw [hinside, hclear]),
      settledFile_of_clear hclear, liveFile,
      htop _ (stateFile_ne_dir hname _ rollback_mem)]
    rfl
  · rw [htop _ pending_ne_rollback, hpending]
  · rw [hlook, if_pos rfl]

/-- The part of applying a merge that may have to be rolled back. -/
theorem meets_installOrRollback {original merged : Text → Bytes}
    (h : Undoing before pendingDirName w.disk)
    (happlied : look w.disk (.top appliedDirName) = none)
    (hwaiting : ∀ name ∈ stateFileNames,
      Waiting w.disk name (original name) (merged name)) :
    Proc.Meets (fun t => Keeps before t.disk) installOrRollback w
      fun answer t => Keeps before t.disk ∧
        match answer with
        | .error _ => True
        | .ok applied => applied = true ∧ OnTrial t.disk ∧
            ∀ name ∈ stateFileNames,
              liveFile t.disk name = some (.entry (.file (merged name))) := by
  apply Proc.meets_bind
  apply Proc.meets_attempt
  apply (meets_install h happlied hwaiting).mono
  intro answer t ht
  cases answer with
  | ok u => exact Proc.meets_pure ⟨ht.1, rfl, ht.2⟩
  | error cause =>
      apply Proc.meets_bind
      apply Proc.meets_attempt
      apply (meets_rollbackTransactionLocked ht (Or.inl rfl)).mono
      rintro answer undone ⟨hkeeps, -⟩
      cases answer with
      | ok u => exact Proc.meets_fail ⟨hkeeps, trivial⟩
      | error e => exact Proc.meets_fail ⟨hkeeps, trivial⟩

/-- The pending folder with both merged files, beside the live ones. -/
theorem waiting_of_written {staged : Dir}
    {registryData speedData newRegistry newSpeed : Bytes}
    (hnoRollback : look before (.top rollbackDirName) = none)
    (hregistry : look before (.top nodeRegistryName) =
      some (.entry (.file registryData)))
    (hspeed : look before (.top speedResultsName) =
      some (.entry (.file speedData)))
    (hfirst : HasFile before (.inside pendingDirName nodeRegistryName)
      (some newRegistry) staged)
    (hsecond : HasFile staged (.inside pendingDirName speedResultsName)
      (some newSpeed) disk)
    (hmkdir : ∀ path, look next path =
      if .top rollbackDirName = path then some .folder else look disk path) :
    ∀ name ∈ stateFileNames, Waiting next name
      (if name = nodeRegistryName then registryData else speedData)
      (if name = nodeRegistryName then newRegistry else newSpeed) := by
  have hne : speedResultsName ≠ nodeRegistryName := by decide
  have htop : ∀ name ∈ stateFileNames,
      look next (.top name) = look before (.top name) := by
    intro name hname
    rw [hmkdir, if_neg, hsecond, if_neg (by simp), hfirst, if_neg (by simp)]
    simpa using (stateFile_ne_dir hname _ rollback_mem).symm
  have hclear : ∀ name, look next (.inside rollbackDirName name) = none := by
    intro name
    rw [hmkdir, if_neg (by simp), hsecond,
      if_neg (by simp [pending_ne_rollback]), hfirst,
      if_neg (by simp [pending_ne_rollback]),
      clear_of_no_rollback hnoRollback]
  have hpending : ∀ name, look next (.inside pendingDirName name) =
      look disk (.inside pendingDirName name) := fun name => by
    rw [hmkdir, if_neg (by simp)]
  intro name hname
  have hor : name = nodeRegistryName ∨ name = speedResultsName := by
    simpa [stateFileNames] using hname
  rcases hor with rfl | rfl
  · rw [if_pos rfl, if_pos rfl]
    refine ⟨(htop _ hname).trans hregistry, ?_, hclear _⟩
    rw [hpending, hsecond, if_neg (by simp [hne]), hfirst, if_pos rfl]
    rfl
  · rw [if_neg hne, if_neg hne]
    refine ⟨(htop _ hname).trans hspeed, ?_, hclear _⟩
    rw [hpending, hsecond, if_pos rfl]
    rfl

/-- What applying a merge comes to. -/
def ApplyOutcome (formats : Formats Run) (w : World Text UInt8)
    (answer : Except Text Bool) (t : World Text UInt8) : Prop :=
  Keeps w.disk t.disk ∧
    match answer with
    | .error _ => True
    | .ok true => OnTrial t.disk ∧
        MergeOf formats (settled w.disk) (live t.disk)
    | .ok false => t.disk = w.disk

/-- Applying a merge once it is staged and no other is under way. -/
theorem meets_applyMerged {v : World Text UInt8}
    {instruction : PendingInstruction} {now : Time}
    {registryData speedData newRegistry newSpeed : Bytes}
    (hsound : Sound w.disk) (hsame : v.disk = w.disk)
    (hpending : look w.disk (.top pendingDirName) = some .folder)
    (hnoApplied : look w.disk (.top appliedDirName) = none)
    (hnoRollback : look w.disk (.top rollbackDirName) = none)
    (hregistry : look w.disk (.top nodeRegistryName) =
      some (.entry (.file registryData)))
    (hspeed : look w.disk (.top speedResultsName) =
      some (.entry (.file speedData)))
    (hmerged : mergedData formats instruction now registryData speedData =
      .ok (newRegistry, newSpeed)) :
    Proc.Meets (fun t => Keeps w.disk t.disk)
      (do
        writeDurableStateFile (.inside pendingDirName nodeRegistryName)
          nodeRegistryName newRegistry
        writeDurableStateFile (.inside pendingDirName speedResultsName)
          speedResultsName newSpeed
        mkdir rollbackDirName "create node merge rollback directory"
        installOrRollback)
      v (ApplyOutcome formats w) := by
  have hopen : ∀ {disk : Dir} {name : Text},
      look disk (.top pendingDirName) = some .folder →
      isOpen disk (.inside pendingDirName name) = true := by
    intro disk name hfolder
    rw [isOpen, isFolder_iff, hfolder]
  apply Proc.meets_bind
  apply meets_writeDurableStateFile
  · rw [hsame]
    exact hsound.files _ (isStatePath_inside pending_mem registry_mem)
  · exact hopen (by rw [hsame, hpending])
  · intro part t ht
    rw [hsame] at ht
    have hkeeps := ((Keeps.refl hsound).of_pending ht).1
    exact ⟨hkeeps, fun _ _ => And.intro hkeeps trivial⟩
  intro first hfirst _
  rw [hsame] at hfirst
  obtain ⟨hkeepsFirst, hdirsFirst⟩ := (Keeps.refl hsound).of_pending hfirst
  have hpendingFirst : look first.disk (.top pendingDirName) = some .folder :=
    (hdirsFirst.dirs _ pending_mem).trans hpending
  apply Proc.meets_bind
  apply meets_writeDurableStateFile
  · exact hkeepsFirst.sound.files _ (isStatePath_inside pending_mem speed_mem)
  · exact hopen hpendingFirst
  · intro part t ht
    have hkeeps := (hkeepsFirst.of_pending ht).1
    exact ⟨hkeeps, fun _ _ => And.intro hkeeps trivial⟩
  intro second hsecond _
  obtain ⟨hkeeps, hdirs⟩ := hkeepsFirst.of_pending hsecond
  have hsecondDir : ∀ dir ∈ transactionDirNames,
      look second.disk (.top dir) = look w.disk (.top dir) :=
    fun dir hdir => (hdirs.dirs dir hdir).trans (hdirsFirst.dirs dir hdir)
  have hnone : look second.disk (.top rollbackDirName) = none :=
    (hsecondDir _ rollback_mem).trans hnoRollback
  apply Proc.meets_bind
  apply meets_mkdir hnone
  · intro _ t ht
    exact And.intro (by rw [ht]; exact hkeeps) trivial
  intro made hmade _
  have hundoing := undoing_of_mkdir hkeeps
    ((hsecondDir _ pending_mem).trans hpending) hnone hmade
  refine ⟨hundoing.keeps, ?_⟩
  have happlied : look made.disk (.top appliedDirName) = none := by
    rw [hmade, if_neg (by simp [applied_ne_rollback.symm]),
      hsecondDir _ applied_mem, hnoApplied]
  apply (meets_installOrRollback hundoing happlied
    (waiting_of_written hnoRollback hregistry hspeed hfirst hsecond
      hmade)).mono
  rintro answer t ⟨hkept, ht⟩
  cases answer with
  | error e => exact And.intro hkept trivial
  | ok applied =>
      obtain ⟨rfl, htrial, hlive⟩ := ht
      have hclear := clear_of_no_rollback hnoRollback
      refine And.intro hkept ⟨htrial, instruction, now, registryData,
        speedData, newRegistry, newSpeed, ?_, ?_, hmerged, ?_, ?_⟩
      · rw [settled, settledFile_of_clear (hclear _), liveFile, hregistry]
      · rw [settled, settledFile_of_clear (hclear _), liveFile, hspeed]
      · rw [live, hlive _ registry_mem, if_pos rfl]
      · rw [live, hlive _ speed_mem, if_neg (by decide)]

/-- Applying a merge: cut off or refused anywhere, it leaves what is settled
as it is, and when it is applied the merge of the settled files is live. -/
theorem meets_applyPending {active : Text → Bool} {now : Time}
    (hsound : Sound w.disk) :
    Proc.Meets (fun t => Keeps w.disk t.disk) (applyPending formats active now)
      w (ApplyOutcome formats w) := by
  have herror : ∀ (e : Text) (t : World Text UInt8), t.disk = w.disk →
      ApplyOutcome formats w (.error e) t := by
    intro e t ht
    exact And.intro (by rw [ht]; exact Keeps.refl hsound) trivial
  have hnothing : ∀ t : World Text UInt8, t.disk = w.disk →
      ApplyOutcome formats w (.ok false) t := by
    intro t ht
    exact And.intro (by rw [ht]; exact Keeps.refl hsound) ht
  apply Proc.meets_bind
  apply meets_ensureNoRestoreTransaction
  · exact fun e t ht => herror e t ht
  intro free hfree _
  apply Proc.meets_bind
  apply meets_inspectTransactionDirs (by rw [hfree]; exact hsound)
  · exact fun _ e t ht => herror e t (ht.trans hfree)
  intro looked hlooked _
  replace hlooked := hlooked.trans hfree
  rw [hfree]
  rcases hsound.dirs _ applied_mem with hnoApplied | happlied
  swap
  · rw [happlied]
    exact Proc.meets_pure (hnothing looked hlooked)
  rw [hnoApplied]
  rcases hsound.dirs _ rollback_mem with hnoRollback | hrollback
  swap
  · rw [hrollback]
    exact Proc.meets_pure (hnothing looked hlooked)
  rw [hnoRollback]
  rcases hsound.dirs _ pending_mem with hnoPending | hpending
  · rw [hnoPending]
    exact Proc.meets_pure (hnothing looked hlooked)
  rw [hpending]
  simp only [Option.isSome_none, Option.isSome_some, Bool.or_self,
    Bool.not_true, Bool.false_eq_true, ↓reduceIte]
  apply Proc.meets_bind
  apply meets_loadInstruction
  · exact fun e t ht => herror e t (ht.trans hlooked)
  intro instruction loaded hloaded
  replace hloaded := hloaded.trans hlooked
  apply Proc.meets_bind
  apply meets_refuse
  · exact fun _ => herror _ loaded hloaded
  intro _
  apply Proc.meets_bind
  apply meets_refuse
  · exact fun _ => herror _ loaded hloaded
  intro _
  apply Proc.meets_bind
  apply meets_readValidatedStateFile
    (by rw [hloaded]; exact hsound.files _ (isStatePath_top (by decide)))
  · exact fun e t ht => herror e t (ht.trans hloaded)
  intro registryData first hfirst hregistry
  rw [hloaded] at hfirst hregistry
  apply Proc.meets_bind
  apply meets_readValidatedStateFile
    (by rw [hfirst]; exact hsound.files _ (isStatePath_top (by decide)))
  · exact fun e t ht => herror e t (ht.trans hfirst)
  intro speedData second hsecond hspeed
  rw [hfirst] at hsecond hspeed
  apply Proc.meets_bind
  apply Proc.meets_ofExcept
  cases hmerged : mergedData formats instruction now registryData speedData with
  | error e => exact herror e second hsecond
  | ok files =>
      exact meets_applyMerged hsound hsecond hpending hnoApplied hnoRollback
        hregistry hspeed hmerged

end Apply

section Stage

/-- Nothing of the transaction has changed, or of what it is about. -/
theorem Keeps.of_same (h : Keeps before disk)
    (hdirs : ∀ dir ∈ transactionDirNames,
      look next (.top dir) = look disk (.top dir))
    (hfiles : ∀ path, isStatePath path = true →
      look next path = look disk path) : Keeps before next := by
  have hsame : SameDirs disk next :=
    ⟨hdirs, by rw [Marked, Marked, hfiles _ isStatePath_marker]⟩
  refine h.trans ⟨hsame.sound h.sound ?_, ?_⟩
  · intro path hpath
    rw [hfiles path hpath]
    exact h.sound.files path hpath
  · intro name hname
    simp only [settledFile, hsame.committed, liveFile,
      hfiles _ (isStatePath_top hname),
      hfiles _ (isStatePath_inside rollback_mem hname)]

theorem stageDir_ne {random name : Text}
    (hname : name ∈ transactionDirNames ∨ name ∈ stateFileNames) :
    stageDirPrefix ++ random ≠ name := by
  rintro rfl
  have hpre : ∀ other ∈ transactionDirNames ++ stateFileNames,
      stageDirPrefix.isPrefixOf other = false := by decide
  have hfalse := hpre _ (List.mem_append.mpr hname)
  rw [List.isPrefixOf_iff_prefix.mpr (List.prefix_append _ _)] at hfalse
  cases hfalse

/-- A staging folder with nothing in it but the instruction. -/
structure Staging (before : Dir) (stageDir : Text) (disk : Dir) : Prop where
  keeps : Keeps before disk
  noPending : look disk (.top pendingDirName) = none
  noApplied : look disk (.top appliedDirName) = none
  noRollback : look disk (.top rollbackDirName) = none
  folder : look disk (.top stageDir) = some .folder
  only : ∀ name ∈ stateFileNames, look disk (.inside stageDir name) = none

theorem not_within_stageDir {random : Text} {path : Path Text}
    (hpath : isStatePath path = true) :
    ¬path.Within (stageDirPrefix ++ random) := by
  cases path with
  | top name =>
      exact stageDir_ne (Or.inr (by simpa [isStatePath] using hpath))
  | inside dir name =>
      apply stageDir_ne
      simp only [isStatePath, decide_eq_true_eq] at hpath
      rcases hpath with ⟨hmem, -⟩ | ⟨rfl, -⟩
      · exact Or.inl hmem
      · exact Or.inl rollback_mem

/-- The instruction is written, or some part of it. -/
theorem Staging.of_file {random : Text} {part : Option Bytes}
    (h : Staging before (stageDirPrefix ++ random) disk)
    (hfile : HasFile disk
      (.inside (stageDirPrefix ++ random) instructionFileName) part next) :
    Staging before (stageDirPrefix ++ random) next := by
  have htop : ∀ other, look next (.top other) = look disk (.top other) :=
    fun other => by rw [hfile, if_neg (by simp)]
  refine ⟨h.keeps.of_same (fun dir _ => htop dir) ?_, ?_, ?_, ?_, ?_, ?_⟩
  · intro path hpath
    rw [hfile, if_neg]
    rintro rfl
    exact not_within_stageDir hpath rfl
  · rw [htop, h.noPending]
  · rw [htop, h.noApplied]
  · rw [htop, h.noRollback]
  · rw [htop, h.folder]
  · intro name hname
    rw [hfile, if_neg, h.only name hname]
    intro heq
    have hnot : instructionFileName ∉ stateFileNames := by decide
    exact hnot ((Path.inside.inj heq).2 ▸ hname)

/-- The staging folder becomes the pending one. -/
theorem Staging.published {random : Text}
    (h : Staging before (stageDirPrefix ++ random) disk)
    (htop : ∀ name, look next (.top name) =
      if pendingDirName = name then some .folder
      else if stageDirPrefix ++ random = name then none
      else look disk (.top name))
    (hinside : ∀ folder name, look next (.inside folder name) =
      if pendingDirName = folder
      then look disk (.inside (stageDirPrefix ++ random) name)
      else if stageDirPrefix ++ random = folder then none
      else look disk (.inside folder name)) : Keeps before next := by
  have hdir : ∀ name ∈ transactionDirNames, pendingDirName ≠ name →
      look next (.top name) = look disk (.top name) := by
    intro name hname hne
    rw [htop, if_neg hne, if_neg (stageDir_ne (Or.inl hname))]
  have hlive : ∀ name ∈ stateFileNames,
      look next (.top name) = look disk (.top name) := by
    intro name hname
    rw [htop, if_neg (stateFile_ne_dir hname _ pending_mem).symm,
      if_neg (stageDir_ne (Or.inr hname))]
  have hgone : look next (.top rollbackDirName) = none :=
    (hdir _ rollback_mem pending_ne_rollback).trans h.noRollback
  refine h.keeps.trans ⟨⟨?_, ?_, ?_, ?_⟩, ?_⟩
  · intro name hname
    rw [htop]
    split
    · exact Or.inr rfl
    · split
      · exact Or.inl rfl
      · exact h.keeps.sound.dirs name hname
  · intro path hpath
    cases path with
    | top name =>
        rw [hlive name (by simpa [isStatePath] using hpath)]
        exact h.keeps.sound.files _ hpath
    | inside folder name =>
        rw [hinside]
        split
        · rename_i heq
          subst heq
          have hname : name ∈ stateFileNames := by
            simpa [isStatePath, pending_mem, pending_ne_rollback] using hpath
          rw [h.only name hname]
          exact plain_none
        · split
          · exact plain_none
          · exact h.keeps.sound.files _ hpath
  · exact Or.inr ((hdir _ applied_mem pending_ne_applied).trans h.noApplied)
  · exact fun hmarked =>
      absurd hmarked (not_marked_of_no_rollback hgone)
  · intro name hname
    rw [settledFile_of_clear (clear_of_no_rollback hgone name),
      settledFile_of_clear (clear_of_no_rollback h.noRollback name), liveFile,
      hlive name hname]
    rfl

theorem meets_publish {random : Text} {instruction : PendingInstruction}
    (h : Staging before (stageDirPrefix ++ random) w.disk)
    (hfree : look w.disk
      (.inside (stageDirPrefix ++ random) instructionFileName) = none) :
    Proc.Meets (fun t => Keeps before t.disk)
      (publish formats instruction (stageDirPrefix ++ random)) w
      fun answer t => Keeps before t.disk ∧
        match answer with
        | .error _ => Staging before (stageDirPrefix ++ random) t.disk
        | .ok _ => True := by
  have hopen : ∀ {v : Dir}, Staging before (stageDirPrefix ++ random) v →
      isOpen v (.inside (stageDirPrefix ++ random) instructionFileName) =
        true := by
    intro v hv
    rw [isOpen, isFolder_iff]
    exact hv.folder
  have hrefused : ∀ v t : World Text UInt8, t.disk = v.disk →
      Staging before (stageDirPrefix ++ random) v.disk →
      Keeps before t.disk ∧
        Staging before (stageDirPrefix ++ random) t.disk := by
    intro v t ht hv
    rw [ht]
    exact ⟨hv.keeps, hv⟩
  apply Proc.meets_bind
  apply meets_create hfree (hopen h)
  · exact fun _ t ht => hrefused w t ht h
  intro created hcreated _
  have hempty : Staging before (stageDirPrefix ++ random) created.disk :=
    h.of_file (show HasFile _ _ (some []) _ from hcreated)
  refine ⟨hempty.keeps, ?_⟩
  apply Proc.meets_bind
  apply meets_fill (hopen hempty)
  · exact fun _ t ht => hrefused created t ht hempty
  · intro part t _ ht
    have hpart : Staging before (stageDirPrefix ++ random) t.disk :=
      hempty.of_file (show HasFile _ _ (some part) _ from ht)
    exact ⟨hpart.keeps, fun _ => ⟨hpart.keeps, hpart⟩⟩
  intro filled hfilled _
  have hfull : Staging before (stageDirPrefix ++ random) filled.disk :=
    hempty.of_file (show HasFile _ _ (some _) _ from hfilled)
  refine ⟨hfull.keeps, ?_⟩
  apply meets_rename_folder hfull.folder hfull.noPending
  · exact fun _ t ht => hrefused filled t ht hfull
  intro t htop hinside _
  have hkeeps := hfull.published htop hinside
  exact ⟨hkeeps, hkeeps, trivial⟩

/-- The staging folder is removed again, or some of it. -/
theorem Staging.removed {random : Text}
    (h : Staging before (stageDirPrefix ++ random) disk)
    (hnext : disk.Thinned (stageDirPrefix ++ random) next ∨
      disk.Without (stageDirPrefix ++ random) next) : Keeps before next := by
  apply h.keeps.of_same
  · intro dir hdir
    rcases hnext with hthinned | hwithout
    · rcases hthinned (.top dir) with hsame | ⟨name, hpath, -⟩
      · exact hsame
      · cases hpath
    · exact hwithout.other (.top dir) (stageDir_ne (Or.inl hdir))
  · intro path hpath
    rcases hnext with hthinned | hwithout
    · rcases hthinned path with hsame | ⟨name, rfl, -⟩
      · exact hsame
      · exact absurd rfl (not_within_stageDir hpath)
    · exact hwithout.other path (not_within_stageDir hpath)

/-- Publishing the instruction under a name that nothing else has. -/
theorem meets_publishNew {random : Text} {instruction : PendingInstruction}
    (h : Keeps before w.disk)
    (hnoPending : look w.disk (.top pendingDirName) = none)
    (hquiet : Quiet w.disk) :
    Proc.Meets (fun t => Keeps before t.disk)
      (publishNew formats instruction (stageDirPrefix ++ random)) w
      fun _ t => Keeps before t.disk := by
  have hself : ∀ t : World Text UInt8, t.disk = w.disk →
      Keeps before t.disk := by
    intro t ht
    rw [ht]
    exact h
  apply Proc.meets_bind
  by_cases htaken : look w.disk (.top (stageDirPrefix ++ random)) = none
  swap
  · exact meets_mkdir_taken htaken hself
  apply meets_mkdir htaken
  · exact fun _ t ht => hself t ht
  intro made hmade _
  have hempty : ∀ name,
      look made.disk (.inside (stageDirPrefix ++ random) name) = none := by
    intro name
    rw [hmade, if_neg (by simp)]
    apply look_inside_of_not_folder
    rw [← Bool.not_eq_true, isFolder_iff, htaken]
    exact fun heq => by cases heq
  have hother : ∀ name, stageDirPrefix ++ random ≠ name →
      look made.disk (.top name) = look w.disk (.top name) := by
    intro name hne
    rw [hmade, if_neg (by simpa using hne)]
  have hstaging : Staging before (stageDirPrefix ++ random) made.disk := by
    refine ⟨h.of_same (fun dir hdir => hother _ (stageDir_ne (Or.inl hdir)))
      ?_, ?_, ?_, ?_, ?_, fun name _ => hempty name⟩
    · intro path hpath
      rw [hmade, if_neg]
      rintro rfl
      exact not_within_stageDir hpath rfl
    · rw [hother _ (stageDir_ne (Or.inl pending_mem)), hnoPending]
    · rw [hother _ (stageDir_ne (Or.inl applied_mem)), hquiet.1]
    · rw [hother _ (stageDir_ne (Or.inl rollback_mem)), hquiet.2]
    · rw [hmade, if_pos rfl]
  refine ⟨hstaging.keeps, ?_⟩
  apply Proc.meets_bind
  apply Proc.meets_attempt
  apply (meets_publish hstaging (hempty _)).mono
  rintro answer t ⟨hkeeps, ht⟩
  cases answer with
  | ok u => exact Proc.meets_pure hkeeps
  | error cause =>
      apply Proc.meets_bind
      apply Proc.meets_attempt
      apply meets_removeAll ht.folder
      · intro _ left hleft
        apply Proc.meets_fail
        rw [hleft]
        exact hkeeps
      · intro left hleft
        have hkept := ht.removed (Or.inl hleft)
        exact ⟨hkept, fun _ => Proc.meets_fail hkept⟩
      · intro left hleft _
        have hkept := ht.removed (Or.inr hleft)
        exact ⟨hkept, Proc.meets_fail hkept⟩

/-- Staging a merge keeps what is settled. -/
theorem meets_stageConfirmed {instruction : PendingInstruction}
    {random : Text} (hsound : Sound w.disk) :
    Proc.Meets (fun t => Keeps w.disk t.disk)
      (stageConfirmed formats instruction random) w
      fun _ t => Keeps w.disk t.disk := by
  have hself : ∀ t : World Text UInt8, t.disk = w.disk →
      Keeps w.disk t.disk := by
    intro t ht
    rw [ht]
    exact Keeps.refl hsound
  apply Proc.meets_bind
  apply meets_ensureNoRestoreTransaction
  · exact fun _ t ht => hself t ht
  intro free hfree _
  apply Proc.meets_bind
  apply meets_inspectTransactionDirs (by rw [hfree]; exact hsound)
  · exact fun _ _ t ht => hself t (ht.trans hfree)
  intro looked hlooked _
  replace hlooked := hlooked.trans hfree
  rw [hfree]
  apply Proc.meets_bind
  apply meets_refuse
  · exact fun _ => hself looked hlooked
  intro hgood
  have hquiet : Quiet w.disk := by simpa [Quiet] using hgood
  apply Proc.meets_bind
  rcases hsound.dirs _ pending_mem with hnoPending | hpending
  · rw [hnoPending]
    apply Proc.meets_pure
    apply meets_publishNew (hself looked hlooked)
    · rw [hlooked, hnoPending]
    · rw [hlooked]
      exact hquiet
  rw [hpending]
  apply Proc.meets_bind
  apply meets_loadInstruction
  · exact fun _ t ht => hself t (ht.trans hlooked)
  intro existing loaded hloaded
  replace hloaded := hloaded.trans hlooked
  dsimp only
  split
  · exact Proc.meets_pure (Proc.meets_pure (hself loaded hloaded))
  apply Proc.meets_bind
  refine Proc.Meets.mono (meets_removeDir_of_clear pending_mem
    (hself loaded hloaded) (by rw [hloaded, hpending]) fun name _ =>
      clear_of_no_rollback (by rw [hloaded, hquiet.2]) name) ?_
  rintro answer removed ⟨hkeeps, hremoved⟩
  cases answer with
  | error e => exact hkeeps
  | ok u =>
      apply Proc.meets_pure
      apply meets_publishNew hkeeps hremoved.1.top_self
      rw [hloaded] at hremoved
      exact ⟨look_none_of_removed hquiet.1 (Or.inr hremoved.1),
        look_none_of_removed hquiet.2 (Or.inr hremoved.1)⟩

end Stage

end XrayChecker.Nodemerge

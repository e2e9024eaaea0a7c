import XrayChecker.Nodemerge.Transaction

/-
What a data directory has settled: the contents of the two state files that a
completed recovery leaves in place, whatever a merge has moved where.  No step
of the transaction changes it but the last one of writing the commit marker.
-/

namespace XrayChecker.Nodemerge

open Go Machine Disk DiskProc

abbrev Dir := Disk Text UInt8

def transactionDirNames : List Text :=
  [pendingDirName, appliedDirName, rollbackDirName]

/-- The paths at which the transaction keeps files. -/
def isStatePath : Path Text → Bool
  | .top name => name ∈ stateFileNames
  | .inside dir name =>
      (dir ∈ transactionDirNames ∧ name ∈ stateFileNames) ∨
        (dir = rollbackDirName ∧ name = commitMarkerName)

/-- Nothing, or a regular file. -/
def Plain (found : Option (Found UInt8)) : Prop :=
  found = none ∨ ∃ data, found = some (.entry (.file data))

instance decidablePlain : (found : Option (Found UInt8)) →
    Decidable (Plain found)
  | none => .isTrue (Or.inl rfl)
  | some (.entry (.file data)) => .isTrue (Or.inr ⟨data, rfl⟩)
  | some (.entry .special) => .isFalse (by simp [Plain])
  | some .folder => .isFalse (by simp [Plain])

def Marked (disk : Dir) : Prop :=
  look disk (.inside rollbackDirName commitMarkerName) =
    some (.entry (.file confirmed))

/-- The installed files stay: they are confirmed, or there is nothing left to
go back to them from. -/
def Committed (disk : Dir) : Prop :=
  Marked disk ∨ (look disk (.top pendingDirName) = none ∧
    look disk (.top appliedDirName) = none)

instance decidableMarked (disk : Dir) : Decidable (Marked disk) :=
  inferInstanceAs (Decidable (_ = _))

instance decidableCommitted (disk : Dir) : Decidable (Committed disk) :=
  inferInstanceAs (Decidable (_ ∨ _))

def liveFile (disk : Dir) (name : Text) : Option (Found UInt8) :=
  look disk (.top name)

def settledFile (disk : Dir) (name : Text) : Option (Found UInt8) :=
  if Committed disk then liveFile disk name
  else (look disk (.inside rollbackDirName name)).or (liveFile disk name)

/-- One of the state files. -/
abbrev StateName := { name : Text // name ∈ stateFileNames }

/-- What the state files are. -/
abbrev View := StateName → Option (Found UInt8)

def live (disk : Dir) : View :=
  fun name => liveFile disk name

def settled (disk : Dir) : View :=
  fun name => settledFile disk name

/-- What holds of the data directory at any time. -/
structure Sound (disk : Dir) : Prop where
  dirs : ∀ name ∈ transactionDirNames,
    look disk (.top name) = none ∨ look disk (.top name) = some .folder
  files : ∀ path, isStatePath path = true → Plain (look disk path)
  one : look disk (.top pendingDirName) = none ∨
    look disk (.top appliedDirName) = none
  marked : Marked disk → look disk (.top pendingDirName) = none

/-- The directory is still sound and has settled what it had before. -/
structure Keeps (before disk : Dir) : Prop where
  sound : Sound disk
  settled : ∀ name ∈ stateFileNames,
    settledFile disk name = settledFile before name

section Names

variable {name : Text}

theorem pending_ne_applied : pendingDirName ≠ appliedDirName := by decide

theorem pending_ne_rollback : pendingDirName ≠ rollbackDirName := by decide

theorem applied_ne_rollback : appliedDirName ≠ rollbackDirName := by decide

theorem pending_mem : pendingDirName ∈ transactionDirNames := by decide

theorem applied_mem : appliedDirName ∈ transactionDirNames := by decide

theorem rollback_mem : rollbackDirName ∈ transactionDirNames := by decide

theorem stateFile_ne_dir (h : name ∈ stateFileNames) :
    ∀ dir ∈ transactionDirNames, name ≠ dir := by
  revert name
  decide

theorem stateFile_ne_marker (h : name ∈ stateFileNames) :
    name ≠ commitMarkerName := by
  revert name
  decide

theorem isStatePath_top (h : name ∈ stateFileNames) :
    isStatePath (.top name) = true := by
  simpa [isStatePath] using h

theorem isStatePath_inside {dir : Text} (hdir : dir ∈ transactionDirNames)
    (h : name ∈ stateFileNames) : isStatePath (.inside dir name) = true := by
  simp [isStatePath, hdir, h]

theorem isStatePath_marker :
    isStatePath (.inside rollbackDirName commitMarkerName) = true := by
  simp [isStatePath]

/-- There are finitely many such paths. -/
theorem mem_of_isStatePath {path : Path Text} (h : isStatePath path = true) :
    path ∈ stateFileNames.map Path.top ++
      transactionDirNames.flatMap
        (fun dir => stateFileNames.map (Path.inside dir)) ++
      [.inside rollbackDirName commitMarkerName] := by
  cases path with
  | top name =>
      simp only [isStatePath, decide_eq_true_eq] at h
      simp [h]
  | inside dir name =>
      simp only [isStatePath, decide_eq_true_eq] at h
      rcases h with ⟨hdir, hname⟩ | ⟨rfl, rfl⟩
      · simp [hdir, hname]
      · simp

theorem not_isStatePath_of_dir {path : Path Text}
    (h : path = .top pendingDirName ∨ path = .top appliedDirName ∨
      path = .top rollbackDirName) : isStatePath path = false := by
  rcases h with rfl | rfl | rfl <;> decide

end Names

theorem registry_mem : nodeRegistryName ∈ stateFileNames := by decide

theorem speed_mem : speedResultsName ∈ stateFileNames := by decide

section Plain

variable {found : Option (Found UInt8)}

theorem plain_none : Plain none := Or.inl rfl

theorem plain_file (data : Bytes) : Plain (some (.entry (.file data))) :=
  Or.inr ⟨data, rfl⟩

theorem Plain.cases {motive : Option (Found UInt8) → Prop} (h : Plain found)
    (hnone : motive none)
    (hfile : ∀ data, motive (some (.entry (.file data)))) : motive found := by
  rcases h with rfl | ⟨data, rfl⟩
  · exact hnone
  · exact hfile data

end Plain

section Frame

variable {before disk : Dir}

theorem Keeps.refl (h : Sound disk) : Keeps disk disk :=
  ⟨h, fun _ _ => rfl⟩

theorem Keeps.trans {next : Dir} (h : Keeps before disk)
    (hnext : Keeps disk next) : Keeps before next :=
  ⟨hnext.sound, fun name hname =>
    (hnext.settled name hname).trans (h.settled name hname)⟩

theorem Keeps.settled_eq (h : Keeps before disk) :
    Nodemerge.settled disk = Nodemerge.settled before :=
  funext fun name => h.settled name name.2

theorem settledFile_of_committed (h : Committed disk) (name : Text) :
    settledFile disk name = liveFile disk name :=
  if_pos h

theorem settledFile_of_clear {name : Text}
    (h : look disk (.inside rollbackDirName name) = none) :
    settledFile disk name = liveFile disk name := by
  simp only [settledFile, h]
  split <;> rfl

theorem settledFile_of_original {name : Text} {found : Found UInt8}
    (hnot : ¬Committed disk)
    (h : look disk (.inside rollbackDirName name) = some found) :
    settledFile disk name = some found := by
  simp only [settledFile, if_neg hnot, h]
  rfl

/-- A change that leaves the folders and what decides about the commit. -/
structure SameDirs (before disk : Dir) : Prop where
  dirs : ∀ name ∈ transactionDirNames,
    look disk (.top name) = look before (.top name)
  marked : Marked disk ↔ Marked before

theorem SameDirs.committed (h : SameDirs before disk) :
    Committed disk ↔ Committed before := by
  simp only [Committed, h.marked, h.dirs _ pending_mem, h.dirs _ applied_mem]

theorem SameDirs.sound (h : SameDirs before disk) (hsound : Sound before)
    (hfiles : ∀ path, isStatePath path = true → Plain (look disk path)) :
    Sound disk where
  dirs := by
    intro name hname
    rw [h.dirs name hname]
    exact hsound.dirs name hname
  files := hfiles
  one := by
    rw [h.dirs _ pending_mem, h.dirs _ applied_mem]
    exact hsound.one
  marked := by
    rw [h.dirs _ pending_mem, h.marked]
    exact hsound.marked

/-- `filepath.Base`. -/
def base : Path Text → Text
  | .top name => name
  | .inside _ name => name

/-- A change of what one state file is, wherever it is. -/
theorem Keeps.of_file {name : Text} (next : Dir)
    (hname : name ∈ stateFileNames) (h : Keeps before disk)
    (hothers : ∀ path, base path ≠ name → look next path = look disk path)
    (hfiles : ∀ path, isStatePath path = true → base path = name →
      Plain (look next path))
    (hsettled : (Committed next ↔ Committed disk) →
      settledFile next name = settledFile disk name) :
    Keeps before next ∧ SameDirs disk next := by
  have hsame : SameDirs disk next := by
    constructor
    · intro dir hdir
      exact hothers _ fun heq => stateFile_ne_dir hname dir hdir heq.symm
    · rw [Marked, Marked, hothers (.inside rollbackDirName commitMarkerName)
        fun heq => stateFile_ne_marker hname heq.symm]
  refine ⟨⟨hsame.sound h.sound ?_, ?_⟩, hsame⟩
  · intro path hpath
    by_cases hbase : base path = name
    · exact hfiles path hpath hbase
    · rw [hothers path hbase]
      exact h.sound.files path hpath
  · intro other hother
    rw [← h.settled other hother]
    by_cases hsameName : other = name
    · rw [hsameName]
      exact hsettled hsame.committed
    · simp only [settledFile, hsame.committed, liveFile,
        hothers (.top other) hsameName,
        hothers (.inside rollbackDirName other) hsameName]

end Frame

section Queries

variable {Crash : World Text UInt8 → Prop} {w : World Text UInt8}

theorem meets_refuse {bad : Bool} {message : Text}
    {Post : Except Text Unit → World Text UInt8 → Prop}
    (hbad : bad = true → Post (.error message) w)
    (hgood : bad = false → Post (.ok ()) w) :
    Proc.Meets Crash (refuse bad message) w Post := by
  apply Proc.meets_ofExcept
  cases bad with
  | true => exact hbad rfl
  | false => exact hgood rfl

theorem meets_inspectStateDir {name : Text}
    {Post : Except Text Bool → World Text UInt8 → Prop}
    (hdir : look w.disk (.top name) = none ∨
      look w.disk (.top name) = some .folder)
    (hrefused : ¬w.Calm → ∀ e (t : World Text UInt8), t.disk = w.disk →
      Post (.error e) t)
    (h : ∀ t : World Text UInt8, t.disk = w.disk → (w.Calm → t.Calm) →
      Post (.ok (look w.disk (.top name)).isSome) t) :
    Proc.Meets Crash (inspectStateDir name) w Post := by
  apply Proc.meets_bind
  apply meets_lstat
  · exact fun hcalm t => hrefused hcalm _ t
  · intro t ht hcalm
    have hpost := h t ht hcalm
    rcases hdir with hnone | hfolder
    · rw [hnone] at hpost ⊢
      exact Proc.meets_pure hpost
    · rw [hfolder] at hpost ⊢
      exact Proc.meets_pure hpost

theorem meets_inspectTransactionDirs
    {Post : Except Text (Bool × Bool × Bool) → World Text UInt8 → Prop}
    (hsound : Sound w.disk)
    (hrefused : ¬w.Calm → ∀ e (t : World Text UInt8), t.disk = w.disk →
      Post (.error e) t)
    (h : ∀ t : World Text UInt8, t.disk = w.disk → (w.Calm → t.Calm) →
      Post
        (.ok ((look w.disk (.top pendingDirName)).isSome,
          (look w.disk (.top appliedDirName)).isSome,
          (look w.disk (.top rollbackDirName)).isSome)) t) :
    Proc.Meets Crash inspectTransactionDirs w Post := by
  apply Proc.meets_bind
  apply meets_inspectStateDir (hsound.dirs _ pending_mem) hrefused
  intro pending hpending hcalm
  apply Proc.meets_bind
  apply meets_inspectStateDir
    (by rw [hpending]; exact hsound.dirs _ applied_mem)
  · intro hnot e t ht
    exact hrefused (mt hcalm hnot) e t (ht.trans hpending)
  intro applied happlied hcalm'
  apply Proc.meets_bind
  apply meets_inspectStateDir
    (by rw [happlied, hpending]; exact hsound.dirs _ rollback_mem)
  · intro hnot e t ht
    exact hrefused (mt (hcalm' ∘ hcalm) hnot) e t
      (ht.trans (happlied.trans hpending))
  intro rollback hrollback hcalm''
  apply Proc.meets_pure
  rw [happlied, hpending]
  exact h rollback (hrollback.trans (happlied.trans hpending))
    (hcalm'' ∘ hcalm' ∘ hcalm)

theorem meets_ensureNoRestoreTransaction
    {Post : Except Text Unit → World Text UInt8 → Prop}
    (herror : ∀ e (t : World Text UInt8), t.disk = w.disk → Post (.error e) t)
    (h : ∀ t : World Text UInt8, t.disk = w.disk → (w.Calm → t.Calm) →
      Post (.ok ()) t) :
    Proc.Meets Crash ensureNoRestoreTransaction w Post := by
  apply Proc.meets_each
    (fun _ t => t.disk = w.disk ∧ (w.Calm → t.Calm)) restoreDirNames
  · rintro name rest s - ⟨hdisk, hcalm⟩
    apply Proc.meets_bind
    apply Proc.meets_bind
    apply meets_lstat
    · exact fun _ t ht => herror _ t (ht.trans hdisk)
    · intro t ht hcalm'
      have hsame := ht.trans hdisk
      cases look s.disk (.top name) with
      | none =>
          exact Proc.meets_pure
            (Proc.meets_ofExcept ⟨hsame, hcalm' ∘ hcalm⟩)
      | some found =>
          cases found with
          | folder =>
              exact Proc.meets_pure
                (Proc.meets_ofExcept (herror _ t hsame))
          | entry entry => exact Proc.meets_fail (herror _ t hsame)
  · exact ⟨rfl, id⟩
  · rintro t ⟨hdisk, hcalm⟩
    exact h t hdisk hcalm

theorem meets_regularFileExists {path : Path Text} {label : Text}
    {Post : Except Text Bool → World Text UInt8 → Prop}
    (hplain : Plain (look w.disk path))
    (hrefused : ¬w.Calm → ∀ e (t : World Text UInt8), t.disk = w.disk →
      Post (.error e) t)
    (h : ∀ t : World Text UInt8, t.disk = w.disk → (w.Calm → t.Calm) →
      Post (.ok (look w.disk path).isSome) t) :
    Proc.Meets Crash (regularFileExists path label) w Post := by
  apply Proc.meets_bind
  apply meets_lstat
  · exact fun hcalm t => hrefused hcalm _ t
  · intro t ht hcalm
    have hpost := h t ht hcalm
    rcases hplain with hnone | ⟨data, hfile⟩
    · rw [hnone] at hpost ⊢
      exact Proc.meets_pure hpost
    · rw [hfile] at hpost ⊢
      exact Proc.meets_pure hpost

/-- The commit marker has been begun and not completed. -/
def HalfMarked (disk : Dir) : Prop :=
  ∃ data, data ≠ confirmed ∧
    look disk (.inside rollbackDirName commitMarkerName) =
      some (.entry (.file data))

theorem meets_commitMarked {Post : Except Text Bool → World Text UInt8 → Prop}
    (hsound : Sound w.disk)
    (herror : ∀ e (t : World Text UInt8), t.disk = w.disk →
      (w.Calm → HalfMarked w.disk) → Post (.error e) t)
    (h : ∀ t : World Text UInt8, t.disk = w.disk → (w.Calm → t.Calm) →
      ¬HalfMarked w.disk → Post (.ok (decide (Marked w.disk))) t) :
    Proc.Meets Crash commitMarked w Post := by
  have hplain := hsound.files _ isStatePath_marker
  apply Proc.meets_bind
  apply meets_regularFileExists hplain
  · exact fun hcalm e t ht => herror e t ht fun hc => absurd hc hcalm
  intro exist hexist hcalm
  rcases hplain with hnone | ⟨data, hfile⟩
  · rw [hnone]
    have hnot : ¬HalfMarked w.disk := by
      rintro ⟨data, -, hdata⟩
      rw [hnone] at hdata
      cases hdata
    have hunmarked : ¬Marked w.disk := by
      rw [Marked, hnone]
      exact fun h => by cases h
    have hpost := h exist hexist hcalm hnot
    rw [decide_eq_false hunmarked] at hpost
    exact Proc.meets_pure hpost
  · rw [hfile]
    apply Proc.meets_bind
    apply meets_readFile (by rw [hexist]; exact hfile)
    · intro hnot t ht
      exact herror _ t (ht.trans hexist) fun hc => absurd (hcalm hc) hnot
    intro read hread hcalm'
    have hsame := hread.trans hexist
    by_cases hdata : data = confirmed
    · have hmarked : Marked w.disk := by rw [Marked, hfile, hdata]
      have hnot : ¬HalfMarked w.disk := by
        rintro ⟨other, hother, hlook⟩
        rw [hmarked] at hlook
        cases hlook
        exact hother rfl
      have hpost := h read hsame (hcalm' ∘ hcalm) hnot
      rw [decide_eq_true hmarked] at hpost
      apply Proc.meets_bind
      apply meets_refuse
      · intro hbad
        exact absurd hdata (by simpa using hbad)
      · exact fun _ => Proc.meets_pure hpost
    · apply Proc.meets_bind
      apply meets_refuse
      · exact fun _ => herror _ read hsame fun _ => ⟨data, hdata, hfile⟩
      · intro hgood
        exact absurd (by simpa using hgood) hdata

/-- The directory is what it was but for one path, where this file is. -/
def HasFile (before : Dir) (path : Path Text) (data : Option Bytes)
    (disk : Dir) : Prop :=
  ∀ other, look disk other =
    if path = other then data.map (.entry ∘ .file) else look before other

theorem HasFile.trans {before disk next : Dir} {path : Path Text}
    {data newer : Option Bytes} (h : HasFile before path data disk)
    (hnext : HasFile disk path newer next) :
    HasFile before path newer next := by
  intro other
  rw [hnext other]
  split
  · rfl
  · rename_i hne
    rw [h other, if_neg hne]

theorem hasFile_self {disk : Dir} {path : Path Text}
    (h : Plain (look disk path)) : ∃ data, HasFile disk path data disk := by
  have hsame : ∀ data : Option Bytes,
      look disk path = data.map (.entry ∘ .file) →
      HasFile disk path data disk := by
    intro data hdata other
    split
    · rename_i heq
      rw [← heq, hdata]
    · rfl
  rcases h with hnone | ⟨data, hfile⟩
  · exact ⟨none, hsame none hnone⟩
  · exact ⟨some data, hsame (some data) hfile⟩

theorem HasFile.isOpen {before disk : Dir} {path : Path Text}
    {data : Option Bytes} (h : HasFile before path data disk)
    (hopen : isOpen before path = true) : isOpen disk path = true := by
  cases path with
  | top name =>
      have hnot : look disk (.top name) ≠ some .folder := by
        rw [h, if_pos rfl]
        cases data <;> simp
      simpa [Disk.isOpen, ← Bool.not_eq_true, isFolder_iff] using hnot
  | inside dir name =>
      rw [Disk.isOpen, isFolder_iff] at hopen ⊢
      rw [h, if_neg (by simp), hopen]

/-- A state file is written: whatever is left of the write, nothing else has
changed. -/
theorem meets_writeDurableStateFile {path : Path Text} {base : Text}
    {data : Bytes} {Post : Except Text Unit → World Text UInt8 → Prop}
    (hplain : Plain (look w.disk path)) (hopen : isOpen w.disk path = true)
    (hleft : ∀ part (t : World Text UInt8), HasFile w.disk path part t.disk →
      Crash t ∧ (¬w.Calm → ∀ e, Post (.error e) t))
    (hdone : ∀ t : World Text UInt8, HasFile w.disk path (some data) t.disk →
      (w.Calm → t.Calm) → Post (.ok ()) t) :
    Proc.Meets Crash (writeDurableStateFile path base data) w Post := by
  have herror : ∀ part (v t : World Text UInt8),
      HasFile w.disk path part v.disk → (w.Calm → v.Calm) → ¬v.Calm →
      t.disk = v.disk → ∀ e, Post (.error e) t := by
    intro part v t hv hcalm hnot ht
    exact (hleft part t (by rw [ht]; exact hv)).2 (mt hcalm hnot)
  -- Whatever was there is gone.
  have hwrite : ∀ v : World Text UInt8, HasFile w.disk path none v.disk →
      (w.Calm → v.Calm) →
      Proc.Meets Crash
        (do
          create path ("create staged node merge file " ++ base)
          fill path data ("write staged node merge file " ++ base)
          touch ("sync staged node merge file " ++ base)
          touch ("close staged node merge file " ++ base))
        v Post := by
    intro v hv hcalm
    apply Proc.meets_bind
    apply meets_create (by rw [hv, if_pos rfl]; rfl) (hv.isOpen hopen)
    · exact fun hnot t ht => herror _ v t hv hcalm hnot ht _
    intro created hcreated hcalm'
    have hempty : HasFile w.disk path (some []) created.disk :=
      hv.trans hcreated
    refine ⟨(hleft _ created hempty).1, ?_⟩
    apply Proc.meets_bind
    apply meets_fill (hempty.isOpen hopen)
    · exact fun hnot t ht =>
        herror _ created t hempty (hcalm' ∘ hcalm) hnot ht _
    · intro part t _ ht
      have hwritten : HasFile created.disk path (some part) t.disk := ht
      obtain ⟨hcrash, hfail⟩ := hleft _ t (hempty.trans hwritten)
      exact ⟨hcrash, fun hnot => hfail (mt (hcalm' ∘ hcalm) hnot) _⟩
    intro filled hfilled hcalm''
    have hfull : HasFile w.disk path (some data) filled.disk :=
      hempty.trans hfilled
    have hstill := hcalm'' ∘ hcalm' ∘ hcalm
    refine ⟨(hleft _ filled hfull).1, ?_⟩
    apply Proc.meets_bind
    apply meets_touch
    · exact fun hnot t ht => herror _ filled t hfull hstill hnot ht _
    intro synced hsynced hcalm₃
    rw [← hsynced] at hfull
    apply meets_touch
    · exact fun hnot t ht =>
        herror _ synced t hfull (hcalm₃ ∘ hstill) hnot ht _
    · intro closed hclosed hcalm₄
      rw [← hclosed] at hfull
      exact hdone closed hfull (hcalm₄ ∘ hcalm₃ ∘ hstill)
  obtain ⟨old, hold⟩ := hasFile_self hplain
  apply Proc.meets_bind
  apply Proc.meets_bind
  apply meets_lstat
  · exact fun hnot t ht => herror _ w t hold id hnot ht _
  intro found hfound hcalm
  rcases hplain with hnone | ⟨there, hfile⟩
  · rw [hnone]
    apply Proc.meets_pure
    apply hwrite found _ hcalm
    rw [hfound]
    intro other
    split
    · rename_i hsame
      rw [← hsame, hnone]
      rfl
    · rfl
  · rw [hfile]
    apply meets_remove (by rw [hfound]; exact hfile)
    · exact fun hnot t ht =>
        herror _ found t (by rw [hfound]; exact hold) hcalm hnot ht _
    intro removed hremoved hcalm'
    rw [hfound] at hremoved
    have hgone : HasFile w.disk path none removed.disk := hremoved
    exact ⟨(hleft _ removed hgone).1, hwrite removed hgone (hcalm' ∘ hcalm)⟩

end Queries

end XrayChecker.Nodemerge

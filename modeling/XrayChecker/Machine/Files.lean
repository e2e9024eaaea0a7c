import XrayChecker.Go.Map
import XrayChecker.Machine.Proc

/-
A directory on disk, two levels deep: files and folders of files, changed by
single steps a crash may come between.  A rename is one step, a file is
created empty and then filled byte by byte, and a folder is removed entry by
entry in any order.
-/

namespace Machine

open Go

/-- An entry of a folder: a regular file, or anything else that is removed as
one. -/
inductive Entry (B : Type) where
  | file (data : List B)
  | special
deriving DecidableEq

inductive Node (N B : Type) [Ord N] where
  | entry (entry : Entry B)
  | folder (entries : GoMap N (Entry B))

abbrev Disk (N B : Type) [Ord N] := GoMap N (Node N B)

/-- A name in the directory, or in one of its folders. -/
inductive Path (N : Type) where
  | top (name : N)
  | inside (folder name : N)
deriving DecidableEq

/-- What `Lstat` tells of a path, with the data of a file. -/
inductive Found (B : Type) where
  | entry (entry : Entry B)
  | folder
deriving DecidableEq

variable {N B E : Type} [Ord N] [Std.TransOrd N] [Std.LawfulEqOrd N]
  [DecidableEq N]

namespace Disk

variable (disk : Disk N B)

def look : Path N → Option (Found B)
  | .top name =>
      match disk[name]? with
      | none => none
      | some (.entry entry) => some (.entry entry)
      | some (.folder _) => some .folder
  | .inside folder name =>
      match disk[folder]? with
      | some (.folder entries) => (entries[name]?).map .entry
      | _ => none

/-- The entry at a path, unless there is a folder. -/
def entryAt (path : Path N) : Option (Entry B) :=
  match look disk path with
  | some (.entry entry) => some entry
  | _ => none

def isFolder (name : N) : Bool :=
  match disk[name]? with
  | some (.folder _) => true
  | _ => false

/-- An entry can be put at the path: no folder is there, and the folder it is
to be in exists. -/
def isOpen : Path N → Bool
  | .top name => !isFolder disk name
  | .inside folder _ => isFolder disk folder

/-- Puts an entry at a path, or removes the one there. -/
def setEntry (path : Path N) (entry : Option (Entry B)) : Disk N B :=
  match path with
  | .top name => disk.set name (entry.map .entry)
  | .inside folder name =>
      match disk[folder]? with
      | some (.folder entries) =>
          disk.insert folder (.folder (entries.set name entry))
      | _ => disk

omit [Std.LawfulEqOrd N] [DecidableEq N] in
theorem isFolder_iff {name : N} :
    isFolder disk name = true ↔ look disk (.top name) = some .folder := by
  simp only [isFolder, look]
  cases disk[name]? with
  | none => simp
  | some node => cases node <;> simp

omit [Std.LawfulEqOrd N] [DecidableEq N] in
theorem isFolder_iff_exists {name : N} :
    isFolder disk name = true ↔
      ∃ entries, disk[name]? = some (.folder entries) := by
  simp only [isFolder]
  cases disk[name]? with
  | none => simp
  | some node => cases node <;> simp

omit [Std.LawfulEqOrd N] [DecidableEq N] in
/-- Nothing is inside of what is no folder. -/
theorem look_inside_of_not_folder {folder : N}
    (h : isFolder disk folder = false) (name : N) :
    look disk (.inside folder name) = none := by
  simp only [look, isFolder] at h ⊢
  cases hnode : disk[folder]? with
  | none => rfl
  | some node =>
      cases node with
      | entry entry => rfl
      | folder entries =>
          rw [hnode] at h
          cases h

theorem look_setEntry {path : Path N} (hopen : isOpen disk path = true)
    (entry : Option (Entry B)) (other : Path N) :
    look (setEntry disk path entry) other =
      if path = other then entry.map .entry else look disk other := by
  cases path with
  | top name =>
      simp only [setEntry]
      cases other with
      | top otherName =>
          by_cases hsame : name = otherName
          · subst hsame
            cases entry <;> simp [look]
          · simp [look, GoMap.get_set, hsame]
      | inside folder inner =>
          rw [if_neg (by simp)]
          by_cases hsame : name = folder
          · subst hsame
            have hnone := look_inside_of_not_folder disk
              (by simpa [isOpen] using hopen) inner
            rw [hnone]
            cases entry <;> simp [look]
          · simp [look, GoMap.get_set, hsame]
  | inside folder name =>
      obtain ⟨entries, hentries⟩ := (isFolder_iff_exists disk).mp hopen
      simp only [setEntry, hentries]
      cases other with
      | top otherName =>
          rw [if_neg (by simp)]
          by_cases hsame : folder = otherName
          · subst hsame
            simp [look, hentries]
          · simp [look, GoMap.get_insert, hsame]
      | inside otherFolder inner =>
          by_cases hsame : folder = otherFolder
          · subst hsame
            simp only [look, GoMap.get_insert, hentries, GoMap.get_set,
              Path.inside.injEq, true_and, ↓reduceIte]
            split <;> rfl
          · simp [look, GoMap.get_insert, hsame]

/-- What `rename` makes of the directory, unless it is refused. -/
def renamed (source target : Path N) : Option (Disk N B) :=
  match entryAt disk source, source, target with
  | some entry, _, _ =>
      if isOpen disk target then
        some (setEntry (setEntry disk source none) target entry)
      else none
  | none, .top name, .top other =>
      match disk[name]? with
      | some (.folder entries) =>
          match disk[other]? with
          | some (.entry _) => none
          | some (.folder there) =>
              if there.isEmpty then
                some ((disk.erase name).insert other (.folder entries))
              else none
          | none => some ((disk.erase name).insert other (.folder entries))
      | _ => none
  | none, _, _ => none

/-- The names of a folder in the order in which they are removed: the given
ones first. -/
def removalOrder (entries : GoMap N (Entry B)) (order : List N) : List N :=
  order.filter entries.contains ++ entries.keys.filter (!order.elem ·)

/-- The directory while a folder is removed entry by entry, and at last without
the folder. -/
def dismantled (folder : N) (order : List N) : List (Disk N B) :=
  match disk[folder]? with
  | none => []
  | some (.entry _) => [disk.erase folder]
  | some (.folder entries) =>
      ((removalOrder entries order).inits.tail.map fun gone =>
        disk.insert folder (.folder (gone.foldl (·.erase ·) entries))) ++
      [disk.erase folder]

end Disk

/-- The path is the folder or one of its entries. -/
def Path.Within (folder : N) : Path N → Prop
  | .top name => folder = name
  | .inside other _ => folder = other

instance (folder : N) (path : Path N) : Decidable (path.Within folder) :=
  match path with
  | .top name => inferInstanceAs (Decidable (folder = name))
  | .inside other _ => inferInstanceAs (Decidable (folder = other))

namespace Disk

variable {disk : Disk N B}

theorem isFolder_setEntry {path : Path N} (hopen : isOpen disk path = true)
    (entry : Option (Entry B)) (name : N) :
    isFolder (setEntry disk path entry) name = isFolder disk name := by
  rw [Bool.eq_iff_iff, isFolder_iff, isFolder_iff, look_setEntry disk hopen]
  split
  · rename_i hsame
    subst hsame
    have hnot : look disk (.top name) ≠ some .folder := by
      rw [ne_eq, ← isFolder_iff]
      simpa [isOpen] using hopen
    cases entry <;> simp [hnot]
  · rfl

theorem isOpen_setEntry {path : Path N} (hopen : isOpen disk path = true)
    (entry : Option (Entry B)) (other : Path N) :
    isOpen (setEntry disk path entry) other = isOpen disk other := by
  cases other <;> simp only [isOpen, isFolder_setEntry hopen]

omit [Std.LawfulEqOrd N] [DecidableEq N] in
theorem isOpen_of_entryAt {path : Path N} {entry : Entry B}
    (h : entryAt disk path = some entry) : isOpen disk path = true := by
  cases path with
  | top name =>
      by_contra hclosed
      have hfolder : isFolder disk name = true := by
        simpa [isOpen] using hclosed
      rw [isFolder_iff] at hfolder
      simp [entryAt, hfolder] at h
  | inside folder name =>
      by_contra hclosed
      have hnone := look_inside_of_not_folder disk
        (by simpa [isOpen] using hclosed) name
      simp [entryAt, hnone] at h

omit [Std.LawfulEqOrd N] [DecidableEq N] in
theorem entryAt_eq_some_iff {path : Path N} {entry : Entry B} :
    entryAt disk path = some entry ↔ look disk path = some (.entry entry) := by
  simp only [entryAt]
  cases look disk path with
  | none => simp
  | some found => cases found <;> simp

/-- Renaming an entry. -/
theorem renamed_entry {source target : Path N} {entry : Entry B}
    (hsource : look disk source = some (.entry entry))
    (htarget : isOpen disk target = true) :
    ∃ next, renamed disk source target = some next ∧ ∀ path, look next path =
      if target = path then some (.entry entry)
      else if source = path then none else look disk path := by
  rw [← entryAt_eq_some_iff] at hsource
  have hopen := isOpen_of_entryAt hsource
  refine ⟨setEntry (setEntry disk source none) target entry, ?_, fun path => ?_⟩
  · simp [renamed, hsource, htarget]
  · rw [look_setEntry _ (by rw [isOpen_setEntry hopen, htarget]),
      look_setEntry _ hopen]
    rfl

/-- Renaming a folder to a name that is free. -/
theorem renamed_folder {source target : N}
    (hsource : look disk (.top source) = some .folder)
    (htarget : look disk (.top target) = none) :
    ∃ next, renamed disk (.top source) (.top target) = some next ∧
      (∀ name, look next (.top name) =
        if target = name then some .folder
        else if source = name then none else look disk (.top name)) ∧
      ∀ folder name, look next (.inside folder name) =
        if target = folder then look disk (.inside source name)
        else if source = folder then none
        else look disk (.inside folder name) := by
  obtain ⟨entries, hentries⟩ :=
    (isFolder_iff_exists disk).mp ((isFolder_iff disk).mpr hsource)
  have hfree : disk[target]? = none := by
    simp only [look] at htarget
    cases hnode : disk[target]? with
    | none => rfl
    | some node =>
        rw [hnode] at htarget
        cases node <;> cases htarget
  have hnot : entryAt disk (.top source) = none := by
    simp [entryAt, hsource]
  refine ⟨(disk.erase source).insert target (.folder entries), ?_, ?_, ?_⟩
  · simp [renamed, hnot, hentries, hfree]
  · intro name
    simp only [look, GoMap.get_insert, GoMap.get_erase]
    by_cases htargetName : target = name
    · simp [htargetName]
    · by_cases hsourceName : source = name
      · simp [htargetName, hsourceName]
      · simp [htargetName, hsourceName]
  · intro folder name
    simp only [look, GoMap.get_insert, GoMap.get_erase]
    by_cases htargetName : target = folder
    · simp [htargetName, hentries]
    · by_cases hsourceName : source = folder
      · simp [htargetName, hsourceName]
      · simp [htargetName, hsourceName]

/-- A folder of the directory has lost some of its entries. -/
def Thinned (disk : Disk N B) (folder : N) (next : Disk N B) : Prop :=
  ∀ path, look next path = look disk path ∨
    ∃ name, path = .inside folder name ∧ look next path = none

/-- A folder of the directory is gone. -/
def Without (disk : Disk N B) (folder : N) (next : Disk N B) : Prop :=
  ∀ path, look next path =
    if path.Within folder then none else look disk path

omit [Std.LawfulEqOrd N] in
theorem Without.top_self {folder : N} {next : Disk N B}
    (h : disk.Without folder next) : look next (.top folder) = none := by
  rw [h]
  exact if_pos rfl

omit [Std.LawfulEqOrd N] in
theorem Without.other {folder : N} {next : Disk N B}
    (h : disk.Without folder next) (path : Path N)
    (hpath : ¬path.Within folder) : look next path = look disk path := by
  rw [h]
  exact if_neg hpath

theorem foldl_erase_get (gone : List N) (entries : GoMap N (Entry B))
    (name : N) :
    (gone.foldl (·.erase ·) entries)[name]? = entries[name]? ∨
      (gone.foldl (·.erase ·) entries)[name]? = none := by
  induction gone generalizing entries with
  | nil => exact Or.inl rfl
  | cons first rest ih =>
      rw [List.foldl_cons]
      rcases ih (entries.erase first) with h | h
      · rw [h, GoMap.get_erase]
        split
        · exact Or.inr rfl
        · exact Or.inl rfl
      · exact Or.inr h

theorem without_erase (disk : Disk N B) (folder : N) :
    disk.Without folder (Std.ExtTreeMap.erase disk folder) := by
  intro path
  cases path with
  | top name =>
      by_cases hsame : folder = name
      · simp [look, Path.Within, hsame]
      · simp [look, Path.Within, hsame, GoMap.get_erase]
  | inside other name =>
      by_cases hsame : folder = other
      · simp [look, Path.Within, hsame]
      · simp [look, Path.Within, hsame, GoMap.get_erase]

/-- The states in which the removal of a folder may be cut off. -/
theorem dismantled_folder {folder : N} (order : List N)
    (h : look disk (.top folder) = some .folder) :
    ∃ parts last, dismantled disk folder order = parts ++ [last] ∧
      (∀ next ∈ parts, disk.Thinned folder next) ∧
      disk.Without folder last := by
  obtain ⟨entries, hentries⟩ :=
    (isFolder_iff_exists disk).mp ((isFolder_iff disk).mpr h)
  refine ⟨(removalOrder entries order).inits.tail.map fun gone =>
      disk.insert folder (.folder (gone.foldl (·.erase ·) entries)),
    disk.erase folder, by simp only [dismantled, hentries], ?_,
    without_erase disk folder⟩
  intro next hnext path
  obtain ⟨gone, -, rfl⟩ := List.mem_map.mp hnext
  cases path with
  | top name =>
      refine Or.inl ?_
      by_cases hsame : folder = name
      · subst hsame
        simp [look, hentries]
      · simp [look, GoMap.get_insert, hsame]
  | inside other name =>
      by_cases hsame : folder = other
      · subst hsame
        simp only [look, GoMap.get_insert, ↓reduceIte, hentries]
        rcases foldl_erase_get gone entries name with hsame | hnone
        · exact Or.inl (by rw [hsame])
        · exact Or.inr ⟨name, rfl, by rw [hnone]; rfl⟩
      · exact Or.inl (by simp [look, GoMap.get_insert, hsame])

end Disk

end Machine

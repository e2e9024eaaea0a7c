import XrayChecker.Machine.Files

/-
Procedures on a directory: the calls of the operating system, each of which
may be refused or break off half-way, and for each of them the rule that says
what is on disk afterwards.  What the system itself says of a refusal is left
out: the caller hands over the error.
-/

namespace Machine

/-- What the system makes of a call: after how many of its steps it breaks
off, if it does, and in which order it removes the entries of a folder. -/
structure Response (N : Type) where
  broken : Option Nat := none
  order : List N := []

/-- A directory, and what the system makes of the calls to come. -/
structure World (N B : Type) [Ord N] where
  disk : Disk N B
  responses : List (Response N) := []

namespace World

variable {N B : Type} [Ord N]

/-- The response to the next call; beyond the ones given, calls go
through. -/
def response (w : World N B) : Response N :=
  w.responses.head?.getD { }

/-- After a call that left this directory. -/
def after (w : World N B) (disk : Disk N B) : World N B :=
  ⟨disk, w.responses.tail⟩

/-- No call will be refused or broken off. -/
def Calm (w : World N B) : Prop :=
  ∀ response ∈ w.responses, response.broken = none

@[simp] theorem after_disk (w : World N B) (disk : Disk N B) :
    (w.after disk).disk = disk := rfl

theorem Calm.after {w : World N B} (h : w.Calm) (disk : Disk N B) :
    (w.after disk).Calm :=
  fun response hmem => h response (List.mem_of_mem_tail hmem)

theorem Calm.response {w : World N B} (h : w.Calm) :
    w.response.broken = none := by
  simp only [World.response]
  cases hhead : w.responses.head? with
  | none => rfl
  | some response => exact h response (List.mem_of_mem_head? hhead)

end World

namespace DiskProc

open Go Disk

variable {N B E A : Type} [Ord N] [Std.TransOrd N] [Std.LawfulEqOrd N]
  [DecidableEq N]

/-- A call that only looks. -/
def query (f : Disk N B → Except E A) (refusal : E) : Proc (World N B) E A :=
  fun w =>
    ⟨[], if w.response.broken.isSome then .error refusal else f w.disk,
      w.after w.disk⟩

/-- A call that changes the directory in the given steps, the last of which it
does not take when it breaks off. -/
def call (f : List N → Disk N B → Option (List (Disk N B))) (refusal : E) :
    Proc (World N B) E Unit := fun w =>
  match f w.response.order w.disk with
  | none => ⟨[], .error refusal, w.after w.disk⟩
  | some states =>
      match w.response.broken with
      | none =>
          ⟨states.map w.after, .ok (), w.after (states.getLast?.getD w.disk)⟩
      | some count =>
          let passed := states.dropLast.take count
          ⟨passed.map w.after, .error refusal,
            w.after (passed.getLast?.getD w.disk)⟩

/-- `os.Lstat`. -/
def lstat (path : Path N) (refusal : E) :
    Proc (World N B) E (Option (Found B)) :=
  query (fun disk => .ok (look disk path)) refusal

/-- `os.ReadFile`. -/
def readFile (path : Path N) (refusal : E) : Proc (World N B) E (List B) :=
  query
    (fun disk =>
      match look disk path with
      | some (.entry (.file data)) => .ok data
      | _ => .error refusal)
    refusal

/-- A call that leaves the directory as it is: `Chmod`, `Sync`, `Close`. -/
def touch (refusal : E) : Proc (World N B) E Unit :=
  query (fun _ => .ok ()) refusal

/-- `os.Rename`. -/
def rename (source target : Path N) (refusal : E) : Proc (World N B) E Unit :=
  call (fun _ disk => (renamed disk source target).map fun next => [next])
    refusal

/-- `os.Mkdir`. -/
def mkdir (name : N) (refusal : E) : Proc (World N B) E Unit :=
  call
    (fun _ disk =>
      if (look disk (.top name)).isSome then none
      else some [disk.insert name (.folder ∅)])
    refusal

/-- `os.Remove` of an entry. -/
def remove (path : Path N) (refusal : E) : Proc (World N B) E Unit :=
  call
    (fun _ disk =>
      if (entryAt disk path).isSome then some [setEntry disk path none]
      else none)
    refusal

/-- `os.OpenFile` of a file that must not exist yet. -/
def create (path : Path N) (refusal : E) : Proc (World N B) E Unit :=
  call
    (fun _ disk =>
      if (look disk path).isSome || !isOpen disk path then none
      else some [setEntry disk path (some (.file []))])
    refusal

/-- `Write` to a file just created: any part of the data may be on disk when
it is cut off. -/
def fill (path : Path N) (data : List B) (refusal : E) :
    Proc (World N B) E Unit :=
  call
    (fun _ disk => some
      (((List.range data.length).map fun written =>
        setEntry disk path (some (.file (data.take written)))) ++
      [setEntry disk path (some (.file data))]))
    refusal

/-- `os.RemoveAll` of a folder. -/
def removeAll (name : N) (refusal : E) : Proc (World N B) E Unit :=
  call (fun order disk => some (dismantled disk name order)) refusal

section Rules

variable {Crash : World N B → Prop} {w : World N B} {refusal : E}

omit [Std.TransOrd N] [Std.LawfulEqOrd N] [DecidableEq N] in
theorem meets_query {f : Disk N B → Except E A}
    {Post : Except E A → World N B → Prop}
    (hrefused : ¬w.Calm → ∀ t : World N B, t.disk = w.disk →
      Post (.error refusal) t)
    (h : ∀ t : World N B, t.disk = w.disk → (w.Calm → t.Calm) →
      Post (f w.disk) t) :
    Proc.Meets Crash (query f refusal) w Post := by
  constructor
  · intro t ht
    cases ht
  · simp only [query]
    split
    · rename_i hbroken
      refine hrefused (fun hcalm => ?_) _ rfl
      rw [hcalm.response] at hbroken
      cases hbroken
    · exact h _ rfl fun hcalm => hcalm.after _

omit [Std.LawfulEqOrd N] [DecidableEq N] in
theorem meets_lstat {path : Path N}
    {Post : Except E (Option (Found B)) → World N B → Prop}
    (hrefused : ¬w.Calm → ∀ t : World N B, t.disk = w.disk →
      Post (.error refusal) t)
    (h : ∀ t : World N B, t.disk = w.disk → (w.Calm → t.Calm) →
      Post (.ok (look w.disk path)) t) :
    Proc.Meets Crash (lstat path refusal) w Post :=
  meets_query hrefused h

omit [Std.LawfulEqOrd N] [DecidableEq N] in
theorem meets_readFile {path : Path N} {data : List B}
    {Post : Except E (List B) → World N B → Prop}
    (hfile : look w.disk path = some (.entry (.file data)))
    (hrefused : ¬w.Calm → ∀ t : World N B, t.disk = w.disk →
      Post (.error refusal) t)
    (h : ∀ t : World N B, t.disk = w.disk → (w.Calm → t.Calm) →
      Post (.ok data) t) :
    Proc.Meets Crash (readFile path refusal) w Post := by
  apply meets_query hrefused
  rw [hfile]
  exact h

omit [Std.TransOrd N] [Std.LawfulEqOrd N] [DecidableEq N] in
theorem meets_touch {Post : Except E Unit → World N B → Prop}
    (hrefused : ¬w.Calm → ∀ t : World N B, t.disk = w.disk →
      Post (.error refusal) t)
    (h : ∀ t : World N B, t.disk = w.disk → (w.Calm → t.Calm) →
      Post (.ok ()) t) :
    Proc.Meets Crash (touch refusal) w Post :=
  meets_query hrefused h

omit [Std.TransOrd N] [Std.LawfulEqOrd N] [DecidableEq N] in
/-- A call in several steps. -/
theorem meets_call {f : List N → Disk N B → Option (List (Disk N B))}
    {parts : List (Disk N B)} {last : Disk N B}
    {Post : Except E Unit → World N B → Prop}
    (hsteps : f w.response.order w.disk = some (parts ++ [last]))
    (hrefused : ¬w.Calm → ∀ t : World N B, t.disk = w.disk →
      Post (.error refusal) t)
    (hpart : ∀ t : World N B, t.disk ∈ parts →
      Crash t ∧ (¬w.Calm → Post (.error refusal) t))
    (hlast : ∀ t : World N B, t.disk = last → (w.Calm → t.Calm) →
      Crash t ∧ Post (.ok ()) t) :
    Proc.Meets Crash (call f refusal : Proc (World N B) E Unit) w Post := by
  cases hbroken : w.response.broken with
  | none =>
      have heq : (call f refusal : Proc (World N B) E Unit) w =
          ⟨(parts ++ [last]).map w.after, .ok (), w.after last⟩ := by
        simp only [call, hsteps, hbroken, List.getLast?_concat, Option.getD_some]
      obtain ⟨hcrash, hpost⟩ :=
        hlast (w.after last) rfl fun hcalm => hcalm.after _
      constructor
      · rw [heq]
        intro t ht
        obtain ⟨disk, hdisk, rfl⟩ := List.mem_map.mp ht
        rcases List.mem_append.mp hdisk with hmem | hmem
        · exact (hpart _ hmem).1
        · rw [List.mem_singleton.mp hmem]
          exact hcrash
      · rw [heq]
        exact hpost
  | some count =>
      have hnot : ¬w.Calm := fun hcalm => by
        rw [hcalm.response] at hbroken
        cases hbroken
      have heq : (call f refusal : Proc (World N B) E Unit) w =
          ⟨(parts.take count).map w.after, .error refusal,
            w.after ((parts.take count).getLast?.getD w.disk)⟩ := by
        simp only [call, hsteps, hbroken, List.dropLast_concat]
      have hmem : ∀ disk ∈ parts.take count, disk ∈ parts :=
        fun disk => List.mem_of_mem_take
      constructor
      · rw [heq]
        intro t ht
        obtain ⟨disk, hdisk, rfl⟩ := List.mem_map.mp ht
        exact (hpart _ (hmem disk hdisk)).1
      · rw [heq]
        cases hend : (parts.take count).getLast? with
        | none => exact hrefused hnot _ rfl
        | some disk =>
            exact (hpart (w.after disk)
              (hmem disk (List.mem_of_getLast? hend))).2 hnot

omit [Std.TransOrd N] [Std.LawfulEqOrd N] [DecidableEq N] in
/-- A call in one step. -/
theorem meets_change {f : List N → Disk N B → Option (List (Disk N B))}
    {next : Disk N B} {Post : Except E Unit → World N B → Prop}
    (hstep : f w.response.order w.disk = some [next])
    (hrefused : ¬w.Calm → ∀ t : World N B, t.disk = w.disk →
      Post (.error refusal) t)
    (h : ∀ t : World N B, t.disk = next → (w.Calm → t.Calm) →
      Crash t ∧ Post (.ok ()) t) :
    Proc.Meets Crash (call f refusal : Proc (World N B) E Unit) w Post := by
  have hnone : ∀ t : World N B, t.disk ∈ ([] : List (Disk N B)) →
      Crash t ∧ (¬w.Calm → Post (.error refusal) t) := by
    intro t ht
    cases ht
  exact meets_call (by simpa using hstep) hrefused hnone h

/-- An entry is renamed. -/
theorem meets_rename {source target : Path N} {entry : Entry B}
    {Post : Except E Unit → World N B → Prop}
    (hsource : look w.disk source = some (.entry entry))
    (htarget : isOpen w.disk target = true)
    (hrefused : ¬w.Calm → ∀ t : World N B, t.disk = w.disk →
      Post (.error refusal) t)
    (h : ∀ t : World N B, (∀ path, look t.disk path =
        if target = path then some (.entry entry)
        else if source = path then none else look w.disk path) →
      (w.Calm → t.Calm) → Crash t ∧ Post (.ok ()) t) :
    Proc.Meets Crash (rename source target refusal) w Post := by
  obtain ⟨next, hnext, hlook⟩ := renamed_entry hsource htarget
  apply meets_change (by rw [hnext]; rfl) hrefused
  intro t ht
  exact h t (by rw [ht]; exact hlook)

/-- A folder is renamed. -/
theorem meets_rename_folder {source target : N}
    {Post : Except E Unit → World N B → Prop}
    (hsource : look w.disk (.top source) = some .folder)
    (htarget : look w.disk (.top target) = none)
    (hrefused : ¬w.Calm → ∀ t : World N B, t.disk = w.disk →
      Post (.error refusal) t)
    (h : ∀ t : World N B,
      (∀ name, look t.disk (.top name) =
        if target = name then some .folder
        else if source = name then none else look w.disk (.top name)) →
      (∀ folder name, look t.disk (.inside folder name) =
        if target = folder then look w.disk (.inside source name)
        else if source = folder then none
        else look w.disk (.inside folder name)) →
      (w.Calm → t.Calm) → Crash t ∧ Post (.ok ()) t) :
    Proc.Meets Crash (rename (.top source) (.top target) refusal) w Post := by
  obtain ⟨next, hnext, htop, hinside⟩ := renamed_folder hsource htarget
  apply meets_change (by rw [hnext]; rfl) hrefused
  intro t ht
  exact h t (by rw [ht]; exact htop) (by rw [ht]; exact hinside)

theorem meets_mkdir {name : N} {Post : Except E Unit → World N B → Prop}
    (hfree : look w.disk (.top name) = none)
    (hrefused : ¬w.Calm → ∀ t : World N B, t.disk = w.disk →
      Post (.error refusal) t)
    (h : ∀ t : World N B, (∀ path, look t.disk path =
        if .top name = path then some .folder else look w.disk path) →
      (w.Calm → t.Calm) → Crash t ∧ Post (.ok ()) t) :
    Proc.Meets Crash (mkdir name refusal) w Post := by
  have hnot : isFolder w.disk name = false := by
    rw [← Bool.not_eq_true, isFolder_iff, hfree]
    exact fun h => by cases h
  have hlook : ∀ path,
      look (Std.ExtTreeMap.insert w.disk name (.folder ∅)) path =
        if .top name = path then some .folder else look w.disk path := by
    intro path
    cases path with
    | top other =>
        by_cases hsame : name = other
        · subst hsame
          simp [look]
        · simp [look, GoMap.get_insert, hsame]
    | inside folder inner =>
        by_cases hsame : name = folder
        · subst hsame
          rw [if_neg (by simp), look_inside_of_not_folder w.disk hnot]
          simp [look]
        · simp [look, GoMap.get_insert, hsame]
  apply meets_change (by rw [hfree]; rfl) hrefused
  intro t ht
  exact h t (by rw [ht]; exact hlook)

omit [Std.LawfulEqOrd N] [DecidableEq N] in
theorem meets_mkdir_taken {name : N} {Post : Except E Unit → World N B → Prop}
    (htaken : look w.disk (.top name) ≠ none)
    (herror : ∀ t : World N B, t.disk = w.disk → Post (.error refusal) t) :
    Proc.Meets Crash (mkdir name refusal) w Post := by
  have hsome : (look w.disk (.top name)).isSome = true :=
    Option.isSome_iff_ne_none.mpr htaken
  have heq : (mkdir name refusal : Proc (World N B) E Unit) w =
      ⟨[], .error refusal, w.after w.disk⟩ := by
    simp only [mkdir, call, hsome, ↓reduceIte]
  constructor
  · rw [heq]
    intro t ht
    cases ht
  · rw [heq]
    exact herror _ rfl

theorem meets_remove {path : Path N} {entry : Entry B}
    {Post : Except E Unit → World N B → Prop}
    (hentry : look w.disk path = some (.entry entry))
    (hrefused : ¬w.Calm → ∀ t : World N B, t.disk = w.disk →
      Post (.error refusal) t)
    (h : ∀ t : World N B, (∀ other, look t.disk other =
        if path = other then none else look w.disk other) →
      (w.Calm → t.Calm) → Crash t ∧ Post (.ok ()) t) :
    Proc.Meets Crash (remove path refusal) w Post := by
  rw [← entryAt_eq_some_iff] at hentry
  apply meets_change (by rw [hentry]; rfl) hrefused
  intro t ht
  apply h t
  rw [ht]
  exact look_setEntry w.disk (isOpen_of_entryAt hentry) none

theorem meets_create {path : Path N} {Post : Except E Unit → World N B → Prop}
    (hfree : look w.disk path = none) (hopen : isOpen w.disk path = true)
    (hrefused : ¬w.Calm → ∀ t : World N B, t.disk = w.disk →
      Post (.error refusal) t)
    (h : ∀ t : World N B, (∀ other, look t.disk other =
        if path = other then some (.entry (.file [])) else look w.disk other) →
      (w.Calm → t.Calm) → Crash t ∧ Post (.ok ()) t) :
    Proc.Meets Crash (create path refusal) w Post := by
  apply meets_change (by rw [hfree, hopen]; rfl) hrefused
  intro t ht
  apply h t
  rw [ht]
  exact look_setEntry w.disk hopen (some (.file []))

/-- A file is filled: until all of the data is written, some part of it is
there. -/
theorem meets_fill {path : Path N} {data : List B}
    {Post : Except E Unit → World N B → Prop}
    (hopen : isOpen w.disk path = true)
    (hrefused : ¬w.Calm → ∀ t : World N B, t.disk = w.disk →
      Post (.error refusal) t)
    (hpart : ∀ (part : List B) (t : World N B), part ≠ data →
      (∀ other, look t.disk other =
        if path = other then some (.entry (.file part))
        else look w.disk other) →
      Crash t ∧ (¬w.Calm → Post (.error refusal) t))
    (hlast : ∀ t : World N B, (∀ other, look t.disk other =
        if path = other then some (.entry (.file data))
        else look w.disk other) →
      (w.Calm → t.Calm) → Crash t ∧ Post (.ok ()) t) :
    Proc.Meets Crash (fill path data refusal) w Post := by
  apply meets_call rfl hrefused
  · intro t ht
    obtain ⟨written, hwritten, hdisk⟩ := List.mem_map.mp ht
    apply hpart (data.take written) t
    · intro heq
      have hlength := congrArg List.length heq
      rw [List.mem_range] at hwritten
      rw [List.length_take] at hlength
      omega
    · rw [← hdisk]
      exact look_setEntry w.disk hopen _
  · intro t ht
    apply hlast t
    rw [ht]
    exact look_setEntry w.disk hopen _

/-- A folder is removed. -/
theorem meets_removeAll {name : N} {Post : Except E Unit → World N B → Prop}
    (hfolder : look w.disk (.top name) = some .folder)
    (hrefused : ¬w.Calm → ∀ t : World N B, t.disk = w.disk →
      Post (.error refusal) t)
    (hpart : ∀ t : World N B, w.disk.Thinned name t.disk →
      Crash t ∧ (¬w.Calm → Post (.error refusal) t))
    (hlast : ∀ t : World N B, w.disk.Without name t.disk →
      (w.Calm → t.Calm) → Crash t ∧ Post (.ok ()) t) :
    Proc.Meets Crash (removeAll name refusal) w Post := by
  obtain ⟨parts, last, hsteps, hparts, hend⟩ :=
    dismantled_folder w.response.order hfolder
  apply meets_call (by rw [hsteps]) hrefused
  · exact fun t ht => hpart t (hparts _ ht)
  · intro t ht
    exact hlast t (by rw [ht]; exact hend)

end Rules

end DiskProc

end Machine

import XrayChecker.Machine.Run
import XrayChecker.Nodemerge.Install
import XrayChecker.Nodemerge.Trial

/-
The program's life around a node merge: every start recovers first, may apply
a staged merge, and confirms or rejects what it applied; the owners of the
state files write them meanwhile.  Any call may be refused, and the process
may be killed after any step of any call.
-/

namespace XrayChecker.Nodemerge

open Go NodeArchive Machine Disk DiskProc

/-- How far a process has come. -/
inductive Phase where
  | down
  | recovered
  | trying
  | running
deriving DecidableEq

structure System where
  disk : Dir
  phase : Phase

/-- What meets an operation: the responses of the operating system, and after
how many steps the process is killed, if it is. -/
structure Conditions where
  responses : List (Response Text) := []
  killed : Option Nat := none

inductive Event where
  | recover (conditions : Conditions)
  | apply (active : Text → Bool) (now : Time) (conditions : Conditions)
  | write (name : Text) (data : Option Bytes)
  | reject (conditions : Conditions)
  | confirm (conditions : Conditions)
  | stage (instruction : PendingInstruction) (random : Text)
      (conditions : Conditions)
  | elsewhere (disk : Dir)
  | kill

/-- Runs an operation; what it answers decides how the process goes on. -/
def perform {A : Type} (operation : Action A) (next : Except Text A → Phase)
    (conditions : Conditions) (s : System) : System :=
  match conditions.killed with
  | some count =>
      ⟨(operation.cutAfter count ⟨s.disk, conditions.responses⟩).disk, .down⟩
  | none =>
      ⟨(operation ⟨s.disk, conditions.responses⟩).final.disk,
        next (operation ⟨s.disk, conditions.responses⟩).answer⟩

variable {Run : Type} (formats : Formats Run)

/-- `main`, as far as it is about node merges. -/
def step (s : System) : Event → System
  | .recover conditions =>
      perform recoverUnconfirmed
        (fun answer =>
          match answer with
          | .ok _ => .recovered
          | .error _ => .down)
        conditions s
  | .apply active now conditions =>
      perform (applyPending formats active now)
        (fun answer =>
          match answer with
          | .ok true => .trying
          | _ => .running)
        conditions s
  | .write name data =>
      { s with disk := setEntry s.disk (.top name) (data.map .file) }
  | .reject conditions => perform rollbackApplied (fun _ => .down) conditions s
  | .confirm conditions =>
      perform confirmApplied
        (fun answer =>
          match answer with
          | .ok _ => .running
          | .error _ => .down)
        conditions s
  | .stage instruction random conditions =>
      perform (stageConfirmed formats instruction random) (fun _ => .running)
        conditions s
  | .elsewhere disk => { s with disk := disk }
  | .kill => { s with phase := .down }

/-- Nothing that the transaction looks at has changed. -/
def Untouched (disk next : Dir) : Prop :=
  (∀ dir ∈ transactionDirNames, look next (.top dir) = look disk (.top dir)) ∧
    ∀ path, isStatePath path = true → look next path = look disk path

/-- When `main` comes to an event. -/
def Allowed (s : System) : Event → Prop
  | .recover _ => s.phase = .down
  | .apply _ _ _ => s.phase = .recovered
  | .write name _ => name ∈ stateFileNames ∧ s.phase ≠ .down
  | .reject _ => s.phase = .trying
  | .confirm _ => s.phase = .trying
  | .stage _ _ _ => s.phase = .running
  | .elsewhere disk => Untouched s.disk disk
  | .kill => True

/-- What can be on trial when `files` are settled: their merge, and what the
owners have written over it. -/
inductive Tried (files : View) : View → Prop where
  | merge {merged : View} (h : MergeOf formats files merged) :
      Tried files merged
  | write {tried : View} (h : Tried files tried) (name : StateName)
      (data : Option Bytes) :
      Tried files (Function.update tried name (data.map (.entry ∘ .file)))

/-- What can become settled: what the owners write, and a merge as a whole
once it is confirmed. -/
inductive Settles (start : View) : View → Prop where
  | start : Settles start start
  | write {files : View} (h : Settles start files) (name : StateName)
      (data : Option Bytes) :
      Settles start (Function.update files name (data.map (.entry ∘ .file)))
  | confirm {files tried : View} (h : Settles start files)
      (htried : Tried formats files tried) : Settles start tried

/-- What holds of the system at any time. -/
structure Settled (start : View) (s : System) : Prop where
  sound : Sound s.disk
  settles : Settles formats start (settled s.disk)
  quiet : s.phase = .recovered → Quiet s.disk
  trial : s.phase = .trying →
    OnTrial s.disk ∧ Tried formats (settled s.disk) (live s.disk)

section Perform

variable {A : Type} {operation : Action A} {next : Except Text A → Phase}
  {conditions : Conditions} {s : System} {Kept : Dir → Prop}
  {Post : Except Text A → World Text UInt8 → Prop}

theorem perform_killed {count : Nat} (h : conditions.killed = some count) :
    perform operation next conditions s =
      ⟨(operation.cutAfter count ⟨s.disk, conditions.responses⟩).disk,
        .down⟩ := by
  simp only [perform, h]

/-- What an operation leaves, killed or not. -/
theorem perform_kept (Kept : Dir → Prop)
    (h : Proc.Meets (fun t => Kept t.disk) operation
      ⟨s.disk, conditions.responses⟩ Post)
    (hstart : Kept s.disk) (hpost : ∀ answer t, Post answer t → Kept t.disk) :
    Kept (perform operation next conditions s).disk := by
  cases hkilled : conditions.killed with
  | none =>
      have hdone := hpost _ _ h.post
      simpa only [perform, hkilled] using hdone
  | some count =>
      rw [perform_killed hkilled]
      rcases h.cut count with hsame | hcrash | ⟨-, hdone⟩
      · rw [hsame]
        exact hstart
      · exact hcrash
      · exact hpost _ _ hdone

/-- A process that goes on after an operation has the answer of it. -/
theorem perform_answer
    (h : Proc.Meets (fun t => Kept t.disk) operation
      ⟨s.disk, conditions.responses⟩ Post)
    (hphase : (perform operation next conditions s).phase ≠ .down) :
    ∃ answer t, Post answer t ∧
      next answer = (perform operation next conditions s).phase ∧
      t.disk = (perform operation next conditions s).disk := by
  cases hkilled : conditions.killed with
  | none =>
      refine ⟨_, _, h.post, ?_, ?_⟩
      · simp only [perform, hkilled]
      · simp only [perform, hkilled]
  | some count =>
      rw [perform_killed hkilled] at hphase
      exact absurd rfl hphase

end Perform

section Steps

variable {formats} {start : View} {s : System}

/-- An owner writes a state file. -/
theorem written (hsound : Sound s.disk) {name : Text}
    (hname : name ∈ stateFileNames) (data : Option Bytes) :
    let next := setEntry s.disk (.top name) (data.map .file)
    Sound next ∧ SameDirs s.disk next ∧
      (∀ other, look next (.inside rollbackDirName other) =
        look s.disk (.inside rollbackDirName other)) ∧
      live next = Function.update (live s.disk) ⟨name, hname⟩
        (data.map (.entry ∘ .file)) := by
  intro next
  have hopen : isOpen s.disk (.top name) = true := by
    rcases hsound.files _ (isStatePath_top hname) with hnone | ⟨there, hfile⟩
    · simp [isOpen, ← Bool.not_eq_true, isFolder_iff, hnone]
    · simp [isOpen, ← Bool.not_eq_true, isFolder_iff, hfile]
  have hlook : HasFile s.disk (.top name) data next := by
    intro other
    rw [look_setEntry s.disk hopen]
    cases data <;> rfl
  have hinside : ∀ dir other, look next (.inside dir other) =
      look s.disk (.inside dir other) := fun dir other => by
    rw [hlook, if_neg (by simp)]
  have hsame : SameDirs s.disk next := by
    constructor
    · intro dir hdir
      rw [hlook, if_neg]
      intro heq
      exact stateFile_ne_dir hname dir hdir (Path.top.inj heq)
    · rw [Marked, Marked, hinside]
  refine ⟨hsame.sound hsound ?_, hsame, hinside _, ?_⟩
  · intro path hpath
    rw [hlook]
    split
    · cases data with
      | none => exact plain_none
      | some bytes => exact plain_file bytes
    · exact hsound.files path hpath
  · funext other
    by_cases heq : other = ⟨name, hname⟩
    · rw [heq, Function.update_self, live, liveFile, hlook, if_pos rfl]
    · rw [Function.update_of_ne heq, live, liveFile, hlook, if_neg]
      · rfl
      · intro hpath
        exact heq (Subtype.ext (Path.top.inj hpath).symm)

/-- What a written file changes about what is settled: nothing while the
original is aside, and else that file. -/
theorem settled_written {next : Dir} (name : StateName)
    {data : Option (Found UInt8)} (hsame : SameDirs s.disk next)
    (hrollback : ∀ other, look next (.inside rollbackDirName other) =
      look s.disk (.inside rollbackDirName other))
    (hlive : live next = Function.update (live s.disk) name data) :
    settled next =
      if ¬Committed s.disk ∧
        look s.disk (.inside rollbackDirName name) ≠ none
      then settled s.disk else Function.update (settled s.disk) name data := by
  have hliveAt : ∀ other : StateName,
      liveFile next other = Function.update (live s.disk) name data other :=
    fun other => congrFun hlive other
  funext other
  by_cases heq : other = name
  · subst heq
    have hdata : liveFile next other = data := by
      rw [hliveAt, Function.update_self]
    by_cases hcommitted : Committed s.disk
    · rw [if_neg (by simp [hcommitted]), Function.update_self, settled,
        settledFile_of_committed (hsame.committed.mpr hcommitted), hdata]
    · cases horiginal : look s.disk (.inside rollbackDirName other) with
      | none =>
          rw [if_neg (by simp), Function.update_self, settled,
            settledFile_of_clear (by rw [hrollback, horiginal]), hdata]
      | some found =>
          rw [if_pos ⟨hcommitted, by simp⟩, settled, settled,
            settledFile_of_original (mt hsame.committed.mp hcommitted)
              (by rw [hrollback, horiginal]),
            settledFile_of_original hcommitted horiginal]
  · have hother : liveFile next other = liveFile s.disk other := by
      rw [hliveAt, Function.update_of_ne heq]
      rfl
    have hsettled : settled next other = settled s.disk other := by
      simp only [settled, settledFile, hsame.committed, hrollback, hother]
    rw [hsettled]
    split
    · rfl
    · rw [Function.update_of_ne heq]

/-- A step that keeps what is settled. -/
theorem Settled.of_keeps {next : System} (h : Settled formats start s)
    (hkeeps : Keeps s.disk next.disk)
    (hquiet : next.phase = .recovered → Quiet next.disk)
    (htrial : next.phase = .trying →
      OnTrial next.disk ∧ Tried formats (settled s.disk) (live next.disk)) :
    Settled formats start next where
  sound := hkeeps.sound
  settles := by
    rw [hkeeps.settled_eq]
    exact h.settles
  quiet := hquiet
  trial := by
    rw [hkeeps.settled_eq]
    exact htrial

theorem Settled.recover (h : Settled formats start s)
    (conditions : Conditions) :
    Settled formats start (Nodemerge.step formats s (.recover conditions)) := by
  have hmeets := meets_recoverUnconfirmed
    (w := ⟨s.disk, conditions.responses⟩) h.sound
  apply h.of_keeps
  · exact perform_kept _ hmeets (Keeps.refl h.sound)
      fun _ _ hpost => hpost.1
  · intro hphase
    obtain ⟨answer, t, hpost, hnext, hdisk⟩ := perform_answer hmeets
      (by rw [Nodemerge.step] at hphase; rw [hphase]; exact Phase.noConfusion)
    cases answer with
    | error e => cases hnext.trans hphase
    | ok recovered =>
        rw [Nodemerge.step, ← hdisk]
        exact hpost.2.1
  · intro hphase
    obtain ⟨answer, t, -, hnext, -⟩ := perform_answer hmeets
      (by rw [Nodemerge.step] at hphase; rw [hphase]; exact Phase.noConfusion)
    cases answer with
    | error e => cases hnext.trans hphase
    | ok recovered => cases hnext.trans hphase

theorem Settled.apply (h : Settled formats start s) (active : Text → Bool)
    (now : Time) (conditions : Conditions) :
    Settled formats start
      (Nodemerge.step formats s (.apply active now conditions)) := by
  have hmeets : Proc.Meets _ (applyPending formats active now)
      ⟨s.disk, conditions.responses⟩ _ := meets_applyPending h.sound
  apply h.of_keeps
  · exact perform_kept _ hmeets (Keeps.refl h.sound)
      fun _ _ hpost => hpost.1
  · intro hphase
    obtain ⟨answer, t, -, hnext, -⟩ := perform_answer hmeets
      (by rw [Nodemerge.step] at hphase; rw [hphase]; exact Phase.noConfusion)
    cases answer with
    | error e => cases hnext.trans hphase
    | ok applied =>
        cases applied with
        | true => cases hnext.trans hphase
        | false => cases hnext.trans hphase
  · intro hphase
    obtain ⟨answer, t, hpost, hnext, hdisk⟩ := perform_answer hmeets
      (by rw [Nodemerge.step] at hphase; rw [hphase]; exact Phase.noConfusion)
    cases answer with
    | error e => cases hnext.trans hphase
    | ok applied =>
        cases applied with
        | false => cases hnext.trans hphase
        | true =>
            rw [Nodemerge.step, ← hdisk]
            exact ⟨hpost.2.1, .merge hpost.2.2⟩

theorem Settled.write (h : Settled formats start s) {name : Text}
    (hname : name ∈ stateFileNames) (data : Option Bytes) :
    Settled formats start (Nodemerge.step formats s (.write name data)) := by
  obtain ⟨hsound, hsame, hrollback, hlive⟩ := written h.sound hname data
  have hsettled := settled_written ⟨name, hname⟩ hsame hrollback hlive
  refine ⟨hsound, ?_, ?_, ?_⟩
  · rw [Nodemerge.step, hsettled]
    split
    · exact h.settles
    · exact h.settles.write ⟨name, hname⟩ data
  · intro hphase
    have hquiet := h.quiet hphase
    exact ⟨(hsame.dirs _ applied_mem).trans hquiet.1,
      (hsame.dirs _ rollback_mem).trans hquiet.2⟩
  · intro hphase
    obtain ⟨htrial, htried⟩ := h.trial hphase
    have hnot : ¬Committed s.disk := by
      rintro (hmarked | ⟨-, hnone⟩)
      · exact htrial.unmarked hmarked
      · rw [htrial.applied] at hnone
        cases hnone
    rw [Nodemerge.step, hsettled, if_pos ⟨hnot, htrial.aside name hname⟩,
      hlive]
    refine ⟨⟨(hsame.dirs _ applied_mem).trans htrial.applied,
      mt hsame.marked.mp htrial.unmarked, ?_⟩,
      htried.write ⟨name, hname⟩ data⟩
    intro other hother
    rw [hrollback]
    exact htrial.aside other hother

theorem Settled.reject (h : Settled formats start s)
    (conditions : Conditions) :
    Settled formats start (Nodemerge.step formats s (.reject conditions)) := by
  have hmeets := meets_rollbackApplied
    (w := ⟨s.disk, conditions.responses⟩) h.sound
  have hdown : (Nodemerge.step formats s (.reject conditions)).phase =
      .down := by
    rw [Nodemerge.step, perform]
    split <;> rfl
  apply h.of_keeps
  · exact perform_kept _ hmeets (Keeps.refl h.sound)
      fun _ _ hpost => hpost.1
  · intro hphase
    rw [hdown] at hphase
    cases hphase
  · intro hphase
    rw [hdown] at hphase
    cases hphase

theorem Settled.confirm (h : Settled formats start s)
    (hphase : s.phase = .trying) (conditions : Conditions) :
    Settled formats start (Nodemerge.step formats s (.confirm conditions)) := by
  have hmeets := meets_confirmApplied
    (w := ⟨s.disk, conditions.responses⟩) h.sound
  have hnext : (Nodemerge.step formats s (.confirm conditions)).phase =
      .down ∨ (Nodemerge.step formats s (.confirm conditions)).phase =
        .running := by
    rw [Nodemerge.step, perform]
    split
    · exact Or.inl rfl
    · split
      · exact Or.inr rfl
      · exact Or.inl rfl
  have hkept : Keeps s.disk
        (Nodemerge.step formats s (.confirm conditions)).disk ∨
      Confirms s.disk (Nodemerge.step formats s (.confirm conditions)).disk :=
    perform_kept (fun disk => Keeps s.disk disk ∨ Confirms s.disk disk) hmeets
      (Or.inl (Keeps.refl h.sound)) fun _ _ hpost => hpost.1
  have hnone : ∀ phase, phase = .recovered ∨ phase = .trying →
      (Nodemerge.step formats s (.confirm conditions)).phase ≠ phase := by
    rintro phase hor heq
    rw [heq] at hnext
    rcases hor with rfl | rfl <;> rcases hnext with hcase | hcase <;>
      cases hcase
  rcases hkept with hkeeps | hconfirms
  · exact h.of_keeps hkeeps (fun hp => absurd hp (hnone _ (Or.inl rfl)))
      fun hp => absurd hp (hnone _ (Or.inr rfl))
  · refine ⟨hconfirms.sound, ?_, fun hp => absurd hp (hnone _ (Or.inl rfl)),
      fun hp => absurd hp (hnone _ (Or.inr rfl))⟩
    have hlive : settled (Nodemerge.step formats s (.confirm conditions)).disk =
        live s.disk := funext fun name => hconfirms.settled name name.2
    rw [hlive]
    exact h.settles.confirm (h.trial hphase).2

theorem Settled.stage (h : Settled formats start s)
    (instruction : PendingInstruction) (random : Text)
    (conditions : Conditions) :
    Settled formats start
      (Nodemerge.step formats s (.stage instruction random conditions)) := by
  have hmeets : Proc.Meets _ (stageConfirmed formats instruction random)
      ⟨s.disk, conditions.responses⟩ _ := meets_stageConfirmed h.sound
  have hnext : ∀ phase, phase = .recovered ∨ phase = .trying →
      (Nodemerge.step formats s (.stage instruction random conditions)).phase ≠
        phase := by
    rintro phase hor
    rw [Nodemerge.step, perform]
    intro heq
    rcases hor with rfl | rfl <;> split at heq <;> cases heq
  apply h.of_keeps
  · exact perform_kept _ hmeets (Keeps.refl h.sound) fun _ _ hpost => hpost
  · exact fun hp => absurd hp (hnext _ (Or.inl rfl))
  · exact fun hp => absurd hp (hnext _ (Or.inr rfl))

theorem Settled.elsewhere (h : Settled formats start s) {disk : Dir}
    (hsame : Untouched s.disk disk) :
    Settled formats start (Nodemerge.step formats s (.elsewhere disk)) := by
  obtain ⟨hdirs, hfiles⟩ := hsame
  have hlive : live disk = live s.disk :=
    funext fun name => hfiles _ (isStatePath_top name.2)
  apply h.of_keeps ((Keeps.refl h.sound).of_same hdirs hfiles)
  · intro hphase
    have hquiet := h.quiet hphase
    exact ⟨(hdirs _ applied_mem).trans hquiet.1,
      (hdirs _ rollback_mem).trans hquiet.2⟩
  · intro hphase
    obtain ⟨htrial, htried⟩ := h.trial hphase
    rw [Nodemerge.step, hlive]
    refine ⟨⟨(hdirs _ applied_mem).trans htrial.applied, ?_, ?_⟩, htried⟩
    · rw [Marked, hfiles _ isStatePath_marker]
      exact htrial.unmarked
    · intro name hname
      rw [hfiles _ (isStatePath_inside rollback_mem hname)]
      exact htrial.aside name hname

/-- Every event of the program leaves the directory with what it had settled,
or settles a whole trial. -/
theorem Settled.step (h : Settled formats start s) {event : Event}
    (hallowed : Allowed s event) :
    Settled formats start (Nodemerge.step formats s event) := by
  cases event with
  | recover conditions => exact h.recover conditions
  | apply active now conditions => exact h.apply active now conditions
  | write name data => exact h.write hallowed.1 data
  | reject conditions => exact h.reject conditions
  | confirm conditions => exact h.confirm hallowed conditions
  | stage instruction random conditions =>
      exact h.stage instruction random conditions
  | elsewhere disk => exact h.elsewhere hallowed
  | kill =>
      have hkeeps : Keeps s.disk (Nodemerge.step formats s .kill).disk :=
        Keeps.refl h.sound
      apply h.of_keeps hkeeps
      · intro hphase
        cases hphase
      · intro hphase
        cases hphase

theorem settled_run {events : List Event} (h : Settled formats start s)
    (hrun : Admissible (Nodemerge.step formats) Allowed s events) :
    Settled formats start (run (Nodemerge.step formats) s events) :=
  run_invariant (Settled formats start) hrun h fun _ _ h => h.step

end Steps

section Runs

variable {formats} {start : System} {events : List Event}

/-- A data directory without a merge under way. -/
theorem settled_start (hsound : Sound start.disk)
    (hdown : start.phase = .down) :
    Settled formats (settled start.disk) start where
  sound := hsound
  settles := .start
  quiet := by
    rw [hdown]
    exact fun heq => by cases heq
  trial := by
    rw [hdown]
    exact fun heq => by cases heq

/-- A process was killed while a merge was on trial. -/
def interrupted : System where
  disk := Std.ExtTreeMap.ofList
    [(nodeRegistryName, .entry (.file [2])),
      (speedResultsName, .entry (.file [4])),
      (appliedDirName, .folder ∅),
      (rollbackDirName, .folder (Std.ExtTreeMap.ofList
        [(nodeRegistryName, .file [1]), (speedResultsName, .file [3])]
        compare))]
    compare
  phase := .down

theorem sound_interrupted : Sound interrupted.disk where
  dirs := by decide
  files := fun path hpath =>
    (by decide : ∀ path ∈ _, Plain (look interrupted.disk path)) path
      (mem_of_isStatePath hpath)
  one := by decide
  marked := by decide

def emptyFormats : Formats Unit where
  decodeInstruction _ := none
  encodeInstruction _ := []
  decodeRegistry _ := none
  encodeRegistry _ := []
  decodeSpeed _ := none
  encodeSpeed _ := []
  encodeResult _ := []
  digest _ := []
  fault _ _ := none

/-- The next start is killed half-way through the recovery, the one after it
goes on to running. -/
def restarts : List Event :=
  [.recover {killed := some 2}, .recover {}, .apply (fun _ => true) 5 {},
    .write nodeRegistryName (some [7])]

theorem restarts_allowed :
    Admissible (step emptyFormats) Allowed interrupted restarts := by
  refine admissible_cons.mpr ⟨rfl, admissible_cons.mpr ⟨rfl,
    admissible_cons.mpr ⟨?_, admissible_cons.mpr ⟨⟨registry_mem, ?_⟩,
      admissible_nil _⟩⟩⟩⟩
  · change (step emptyFormats _ _).phase = .recovered
    decide
  · decide

/-- Wherever a process was killed, and whatever was refused, a recovery that
is left alone fails exactly when the directory is blocked. -/
theorem recoverUnconfirmed_fails_iff (hsound : Sound start.disk)
    (hdown : start.phase = .down)
    (hrun : Admissible (step formats) Allowed start events) :
    (∃ e, (recoverUnconfirmed
      ⟨(run (step formats) start events).disk, []⟩).answer = .error e) ↔
      Blocked (run (step formats) start events).disk := by
  have h := settled_run (settled_start hsound hdown) hrun
  have hmeets := meets_recoverUnconfirmed
    (w := ⟨(run (step formats) start events).disk, []⟩) h.sound
  have hpost := hmeets.post.2
  have hcalm : World.Calm
      ⟨(run (step formats) start events).disk, ([] : List (Response Text))⟩ := by
    intro response hmem
    cases hmem
  cases hanswer : (recoverUnconfirmed
      ⟨(run (step formats) start events).disk, []⟩).answer with
  | error e =>
      rw [hanswer] at hpost
      exact ⟨fun _ => hpost hcalm, fun _ => ⟨e, rfl⟩⟩
  | ok recovered =>
      rw [hanswer] at hpost
      constructor
      · rintro ⟨e, he⟩
        cases he
      · exact fun hblocked => absurd hblocked hpost.2

theorem recoverUnconfirmed_fails_iff_interrupted :
    (∃ e, (recoverUnconfirmed
      ⟨(run (step emptyFormats) interrupted restarts).disk, []⟩).answer =
        .error e) ↔
      Blocked (run (step emptyFormats) interrupted restarts).disk :=
  recoverUnconfirmed_fails_iff sound_interrupted rfl restarts_allowed

end Runs

end XrayChecker.Nodemerge

import XrayChecker.Verdictlog.Keeps

/-
The journal keeps what it accepted in every run without an append behind a
torn line and without verdicts that change places, and not in every run.
-/

namespace XrayChecker.Verdictlog

open Go Machine

section Runs

variable {codec : LineCodec}

theorem compaction_sound {journal : Journal}
    (hsound : Sound codec journal.file) {event : Event}
    (huntorn : event.Untorn codec journal) :
    ∀ compaction ∈ event.compaction codec journal,
      Sound codec compaction.1.file := by
  intro compaction hcompaction
  cases event with
  | query filter => cases hcompaction
  | compact attempt =>
      obtain rfl := Option.mem_some.mp hcompaction
      exact hsound
  | restart config startup =>
      obtain ⟨attempt, -, rfl⟩ := Option.mem_map.mp hcompaction
      exact sound_new hsound config
  | record entry now append attempt =>
      have hafter := (append_entries hsound huntorn).1
      rw [Event.compaction] at hcompaction
      split at hcompaction
      · cases hcompaction
      next happend =>
        rw [happend] at hafter
        split at hcompaction
        · obtain rfl := Option.mem_some.mp hcompaction
          exact hafter
        · cases hcompaction

/-- In the file are the entries accepted and not excused since. -/
structure Holds (codec : LineCodec) (w : World) : Prop where
  sound : Sound codec w.journal.file
  counts : ∀ entry, w.accepted.count entry ≤
    (w.journal.entries codec).count entry + w.excused.count entry

theorem holds_start (config : Config) :
    Holds codec { journal := new config none } where
  sound := ⟨[], [], rfl, fun _ h => absurd h List.not_mem_nil, .inl rfl⟩
  counts _ := Nat.zero_le _

theorem Holds.step {w : World} (h : Holds codec w) {event : Event}
    (hallowed : Undisturbed codec w event) :
    Holds codec (w.step codec event) := by
  obtain ⟨hsound, hcounts⟩ := event_counts h.sound hallowed.1
  refine ⟨hsound, fun entry => ?_⟩
  have hbefore := h.counts entry
  have hevent := hcounts entry
  simp only [World.step, List.count_append]
  omega

end Runs

/-- Entries and their lines, none of which starts another one. -/
def Lineable (table : List (Entry × Bytes)) : Prop :=
  ∀ row ∈ table,
    (row.2 = 0x7b :: ((row.2.drop 1).dropLast ++ [0x7d]) ∧
      newline ∉ row.2 ∧ row.2.length < 65536) ∧
    ∀ other ∈ table, row.2 <+: other.2 → row = other

instance (table : List (Entry × Bytes)) : Decidable (Lineable table) :=
  inferInstanceAs (Decidable (∀ _ ∈ _, _))

theorem Lineable.row {table : List (Entry × Bytes)} {entry : Entry}
    {line : Bytes}
    (h : (table.find? fun row => row.1 = entry).map Prod.snd = some line) :
    (entry, line) ∈ table := by
  obtain ⟨row, hrow, rfl⟩ := Option.map_eq_some_iff.mp h
  have hentry : row.1 = entry := by simpa using List.find?_some hrow
  exact hentry ▸ List.mem_of_find?_eq_some hrow

/-- The codec of a table. -/
def tableCodec (table : List (Entry × Bytes)) (h : Lineable table) :
    LineCodec where
  marshal entry := (table.find? fun row => row.1 = entry).map Prod.snd
  unmarshal line := (table.find? fun row => row.2 = line).map Prod.fst
  marshal_object hline := by
    obtain ⟨hobject, hnewline, -⟩ := (h _ (Lineable.row hline)).1
    refine ⟨_, hobject, fun hmem => hnewline ?_⟩
    rw [hobject]
    exact List.mem_cons_of_mem _ (List.mem_append_left _ hmem)
  unmarshal_marshal {entry line} hline := by
    have hrow := Lineable.row hline
    rw [Option.map_eq_some_iff]
    cases hfind : table.find? fun row => row.2 = line with
    | none =>
        rw [List.find?_eq_none] at hfind
        exact absurd (decide_eq_true rfl) (hfind _ hrow)
    | some found =>
        have hsame : found.2 = line := by simpa using List.find?_some hfind
        have hfound := List.mem_of_find?_eq_some hfind
        have heq := (h found hfound).2 _ hrow (by rw [hsame])
        exact ⟨found, rfl, by rw [heq]⟩
  unmarshal_torn {entry line torn} hline hpre hne := by
    have hrow := Lineable.row hline
    rw [Option.map_eq_none_iff, List.find?_eq_none]
    intro found hfound hsame
    obtain rfl : found.2 = torn := by simpa using hsame
    exact hne (by rw [(h found hfound).2 _ hrow hpre])
  marshal_length _ hline := (h _ (Lineable.row hline)).1.2.2

/-- The bytes of a text in ASCII. -/
def ascii (text : Text) : Bytes :=
  text.map fun c => UInt8.ofNat c.toNat

/-- Two verdicts of the first instant of 2026. -/
def lostVerdict : Entry :=
  { atTime := 63902822400000000000
    source := "speed"
    stableID := "a"
    verdict := "lost" }

def slowVerdict : Entry := { lostVerdict with verdict := "slow" }

def verdictLine (verdict : Text) : Bytes :=
  ascii ("\x7b\"at\":\"2026-01-01T00:00:00Z\",\"source\":\"speed\"," ++
    "\"stableId\":\"a\",\"verdict\":\"" ++ verdict ++
    "\",\"localAt\":\"0001-01-01T00:00:00Z\"," ++
    "\"agentAt\":\"0001-01-01T00:00:00Z\"\x7d")

def verdictTable : List (Entry × Bytes) :=
  [(lostVerdict, verdictLine "lost"), (slowVerdict, verdictLine "slow")]

theorem lineable_verdictTable : Lineable verdictTable := by
  decide +kernel

def verdictCodec : LineCodec :=
  tableCodec verdictTable lineable_verdictTable

def morning : Clock := ⟨63902822400000000001, by decide⟩

/-- What was accepted is answered until it is too old or too much, and no
compaction changes an answer beside that, in every run where each line is
started behind an ended one and no compaction meets two entries of one instant
that it would turn around. -/
theorem verdicts_kept (codec : LineCodec) (config : Config)
    (events : List Event)
    (hrun : Admissible (World.step codec) (Undisturbed codec)
      { journal := new config none } events) :
    Keeps codec
        (run (World.step codec) { journal := new config none } events) ∧
      ∀ taken ∈ steps (World.step codec) { journal := new config none } events,
        ∀ compaction ∈ taken.2.compaction codec taken.1.journal,
          Unchanged codec compaction.1 compaction.2 := by
  constructor
  · have hholds := run_invariant (Holds codec) hrun (holds_start config)
      fun _ _ hw hallowed => hw.step hallowed
    exact keeps_of_counts hholds.sound hholds.counts
  · intro taken htaken compaction hcompaction
    have hholds := steps_invariant (Holds codec) hrun (holds_start config)
      (fun _ _ hw hallowed => hw.step hallowed) taken htaken
    obtain ⟨huntorn, hmirrored⟩ := hrun taken htaken
    exact unchanged_of_mirrored
      (compaction_sound hholds.sound huntorn compaction hcompaction)
      (hmirrored compaction hcompaction)

/-- An append that fails before it writes, one that is accepted, and a
compaction. -/
def calmRun : List Event :=
  [.record lostVerdict morning (.unopened "permission denied")
      ⟨morning, .done⟩,
    .record slowVerdict morning .done ⟨morning, .done⟩,
    .restart {} (some ⟨morning, .done⟩), .query {}]

theorem verdicts_kept_calmRun :
    Keeps verdictCodec (run (World.step verdictCodec)
        { journal := new {} none } calmRun) ∧
      ∀ taken ∈ steps (World.step verdictCodec) { journal := new {} none }
        calmRun, ∀ compaction ∈
          taken.2.compaction verdictCodec taken.1.journal,
            Unchanged verdictCodec compaction.1 compaction.2 :=
  verdicts_kept verdictCodec {} calmRun (by decide +kernel)

/-- One line is torn after ten bytes, and the next one is accepted. -/
def tornRun : List Event :=
  [.record lostVerdict morning (.torn 10 "no space left on device")
      ⟨morning, .done⟩,
    .record slowVerdict morning .done ⟨morning, .done⟩]

/-- Two verdicts of one instant. -/
def tiedRun : List Event :=
  [.record lostVerdict morning .done ⟨morning, .done⟩,
    .record slowVerdict morning .done ⟨morning, .done⟩]

def emptyWorld : World :=
  { journal := new {} none }

/-- The journal with the two verdicts of one instant. -/
def tiedJournal : Journal :=
  (run (World.step verdictCodec) emptyWorld tiedRun).journal

/-- The verdict accepted behind the torn line is not answered, and a compaction
makes two of one instant change places. -/
theorem verdict_behind_torn_line_lost :
    ¬(∀ codec config events, Keeps codec
        (run (World.step codec) { journal := new config none } events)) ∧
      ¬∀ codec config events, ∀ taken ∈
        steps (World.step codec) { journal := new config none } events,
          ∀ compaction ∈ taken.2.compaction codec taken.1.journal,
            Unchanged codec compaction.1 compaction.2 := by
  constructor
  · intro h
    obtain ⟨answer, hanswer, hcounts⟩ := h verdictCodec {} tornRun {}
    have hempty : (run (World.step verdictCodec) emptyWorld
        tornRun).journal.query verdictCodec {} = .ok [] := by decide +kernel
    obtain rfl := Except.ok.inj (hempty.symm.trans hanswer)
    have hlost := hcounts (by decide +kernel) slowVerdict (by decide +kernel)
    revert hlost
    decide
  · intro h
    have hsteps : (run (World.step verdictCodec) emptyWorld tiedRun,
        Event.compact ⟨morning, .done⟩) ∈ steps (World.step verdictCodec)
          emptyWorld (tiedRun ++ [.compact ⟨morning, .done⟩]) := by
      rw [steps_append]
      exact List.mem_append_right _ List.mem_cons_self
    obtain ⟨before, after, hbefore, hafter, hsame⟩ :=
      h verdictCodec {} _ _ hsteps (tiedJournal, ⟨morning, .done⟩) rfl {}
    have hfirst : tiedJournal.query verdictCodec {} =
        .ok [lostVerdict, slowVerdict] := by decide +kernel
    have hturned : (tiedJournal.compactLocked verdictCodec
        ⟨morning, .done⟩).1.query verdictCodec {} =
          .ok [slowVerdict, lostVerdict] := by decide +kernel
    obtain rfl := Except.ok.inj (hfirst.symm.trans hbefore)
    obtain rfl := Except.ok.inj (hturned.symm.trans hafter)
    revert hsame
    decide +kernel

end XrayChecker.Verdictlog

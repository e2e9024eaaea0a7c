import XrayChecker.Machine.Run
import XrayChecker.Verdictlog.Compaction

/-
Runs of the verdict journal: what it accepted is still answered, and a
compaction changes no answer, wherever no append is made behind a torn line
and no verdicts of one instant change places.
-/

namespace XrayChecker.Verdictlog

open Go Machine

section Append

variable {codec : LineCodec} {journal : Journal}

/-- The file is empty or its last line is ended. -/
def Ended (file : Option Bytes) : Prop :=
  ∀ b ∈ (file.getD []).getLast?, b = newline

theorem tail_of_ended {file : Option Bytes} {lines : List Bytes} {tail : Bytes}
    (hfile : file.getD [] = contents lines tail)
    (hshaped : Shaped codec lines tail) (hended : Ended file) : tail = [] := by
  rcases List.eq_nil_or_concat tail with hnil | ⟨front, b, rfl⟩
  · exact hnil
  · have hlast : b = newline := by
      apply hended
      rw [hfile, contents, List.concat_eq_append, ← List.append_assoc,
        List.getLast?_append]
      rfl
    apply absurd _ hshaped.tail_not_newline
    simp [hlast]

/-- The first bytes of a line, put behind ended lines. -/
theorem shaped_append {lines : List Bytes} {entry : Entry} {line : Bytes}
    (hshaped : Shaped codec lines []) (hline : Written codec entry line)
    (written : Nat) :
    ∃ lines' tail', contents lines [] ++ (line ++ [newline]).take written =
        contents lines' tail' ∧ Shaped codec lines' tail' ∧
      ∃ extra, (lines' ++ [tail']).filterMap (readLine codec) =
          (lines ++ [[]]).filterMap (readLine codec) ++ extra ∧
        (line.length < written → extra = [entry]) := by
  have hempty : readLine codec [] = none := rfl
  by_cases hwhole : line.length < written
  · refine ⟨lines ++ [line], [], ?_, ⟨?_, .inl rfl⟩, [entry], ?_, fun _ => rfl⟩
    · rw [List.take_of_length_le (by simp; omega)]
      simp [contents]
    · intro other hother
      rcases List.mem_append.mp hother with hother | hother
      · exact hshaped.lines other hother
      · exact ⟨entry, List.mem_singleton.mp hother ▸ hline⟩
    · simp [readLine_written hline, hempty]
  · refine ⟨lines, line.take written, ?_, ⟨hshaped.lines, .inr ?_⟩,
      (readLine codec (line.take written)).toList, ?_, ?_⟩
    · rw [List.take_append_of_le_length (by omega)]
      simp [contents]
    · exact ⟨entry, line, hline, List.take_prefix _ _⟩
    · cases hread : readLine codec (line.take written) <;>
        simp [hread, hempty]
    · exact fun h => absurd h hwhole

/-- A write that starts a line keeps every entry of the file. -/
theorem sound_appendFile {entry : Entry} {line bytes : Bytes}
    (hsound : Sound codec journal.file) (hline : Written codec entry line)
    {written : Nat} (hbytes : bytes = (line ++ [newline]).take written)
    (hended : bytes ≠ [] → Ended journal.file) {after : Journal}
    (hafter : after.file = appendFile journal.file (some bytes)) :
    Sound codec after.file ∧
      ∃ extra, after.entries codec = journal.entries codec ++ extra ∧
        (line.length < written → extra = [entry]) := by
  obtain ⟨lines, tail, hfile, hshaped⟩ := hsound
  have hgetD : after.file.getD [] = contents lines tail ++ bytes := by
    rw [hafter, ← hfile]
    rfl
  by_cases hnone : bytes = []
  · have hsame : after.file.getD [] = contents lines tail := by
      rw [hgetD, hnone, List.append_nil]
    refine ⟨⟨lines, tail, hsame, hshaped⟩, [], ?_, ?_⟩
    · rw [entries_contents hsame hshaped, entries_contents hfile hshaped,
        List.append_nil]
    · intro hlong
      rw [hbytes, List.take_of_length_le (by simp; omega)] at hnone
      exact absurd hnone (by simp)
  · obtain rfl := tail_of_ended hfile hshaped (hended hnone)
    obtain ⟨lines', tail', hcontents, hshaped', extra, hextra, hwhole⟩ :=
      shaped_append hshaped hline written
    have hnew : after.file.getD [] = contents lines' tail' := by
      rw [hgetD, hbytes, hcontents]
    refine ⟨⟨lines', tail', hnew, hshaped'⟩, extra, ?_, hwhole⟩
    rw [entries_contents hnew hshaped', hextra,
      entries_contents hfile hshaped]

end Append

/-- The calls and restarts of a journal, with what its surroundings answer. -/
inductive Event
  | record (entry : Entry) (now : Clock) (append : Append) (attempt : Attempt)
  | compact (attempt : Attempt)
  | query (filter : Filter)
  | restart (config : Config) (startup : Option Attempt)

/-- A journal, and beside it the entries it accepted and those it was excused
from keeping. -/
structure World where
  journal : Journal
  accepted : List Entry := []
  excused : List Entry := []

section Events

variable (codec : LineCodec)

def Event.after (journal : Journal) : Event → Journal
  | .record entry now append attempt =>
      (journal.record codec entry now append attempt).1
  | .compact attempt => (journal.compactLocked codec attempt).1
  | .query _ => journal
  | .restart config none => new config journal.file
  | .restart config (some attempt) =>
      ((new config journal.file).compactLocked codec attempt).1

/-- The entry of a `Record` that returned nil. -/
def Event.accepted (journal : Journal) : Event → List Entry
  | .record entry now append attempt =>
      match (journal.record codec entry now append attempt).2 with
      | .ok () => [stamped entry now]
      | .error _ => []
  | _ => []

/-- The journal that the compaction of an event starts from. -/
def Event.compaction (journal : Journal) : Event → Option (Journal × Attempt)
  | .record entry now append attempt =>
      match journal.append codec entry now append with
      | (_, .error _) => none
      | (journal, .ok ()) =>
          if compactEvery ≤ journal.appended then some (journal, attempt)
          else none
  | .compact attempt => some (journal, attempt)
  | .query _ => none
  | .restart config startup =>
      startup.map fun attempt => (new config journal.file, attempt)

/-- The entries a compaction removes as too old or too much. -/
def excusedBy (journal : Journal) (attempt : Attempt) : List Entry :=
  ((journal.entries codec).diff
    ((journal.compactLocked codec attempt).1.entries codec)).filter
      (journal.excuses codec attempt.now.val)

def Event.excused (journal : Journal) (event : Event) : List Entry :=
  match event.compaction codec journal with
  | none => []
  | some (journal, attempt) => excusedBy codec journal attempt

def World.step (w : World) (event : Event) : World where
  journal := event.after codec w.journal
  accepted := w.accepted ++ event.accepted codec w.journal
  excused := w.excused ++ event.excused codec w.journal

/-- The bytes an event appends to the file. -/
def Event.written : Event → Option Bytes
  | .record entry now append _ =>
      match encode codec entry now with
      | .error _ => none
      | .ok line => append.written line
  | _ => none

/-- No line is started behind a torn one. -/
def Event.Untorn (journal : Journal) (event : Event) : Prop :=
  ∀ bytes ∈ event.written codec, bytes ≠ [] → Ended journal.file

/-- The entries of one instant that a compaction has to keep read the same in
both directions. -/
def Journal.Mirrored (journal : Journal) (now : Time) : Prop :=
  ∀ entry ∈ journal.entries codec,
    ((journal.entries codec).filter fun other =>
        decide (other.atTime = entry.atTime) &&
          !journal.excuses codec now other).reverse =
      (journal.entries codec).filter fun other =>
        decide (other.atTime = entry.atTime) &&
          !journal.excuses codec now other

/-- No compaction of the event turns two entries of one instant around. -/
def Event.Mirrored (journal : Journal) (event : Event) : Prop :=
  ∀ compaction ∈ event.compaction codec journal,
    compaction.2.rewrite = .done →
      compaction.1.Mirrored codec compaction.2.now.val

def Undisturbed (w : World) (event : Event) : Prop :=
  event.Untorn codec w.journal ∧ event.Mirrored codec w.journal

instance (file : Option Bytes) : Decidable (Ended file) :=
  inferInstanceAs (Decidable (∀ b ∈ (file.getD []).getLast?, b = newline))

instance (journal : Journal) (now : Time) :
    Decidable (journal.Mirrored codec now) :=
  inferInstanceAs (Decidable (∀ _ ∈ _, _))

instance (w : World) (event : Event) : Decidable (Undisturbed codec w event) :=
  inferInstanceAs (Decidable (
    (∀ bytes ∈ event.written codec, bytes ≠ [] → Ended w.journal.file) ∧
      ∀ compaction ∈ event.compaction codec w.journal,
        compaction.2.rewrite = .done →
          compaction.1.Mirrored codec compaction.2.now.val))

/-- Every accepted entry is answered to each query it matches and whose limit
is large enough, as often as it was accepted and not excused since. -/
def Keeps (w : World) : Prop :=
  ∀ filter : Filter, ∃ answer, w.journal.query codec filter = .ok answer ∧
    (((w.journal.entries codec).filter filter.accepts).length ≤
        filter.bound →
      ∀ entry, filter.accepts entry →
        w.accepted.count entry ≤ answer.count entry + w.excused.count entry)

/-- A compaction changes no answer beside the entries it need not keep. -/
def Unchanged (journal : Journal) (attempt : Attempt) : Prop :=
  ∀ filter : Filter, ∃ before after,
    journal.query codec filter = .ok before ∧
    (journal.compactLocked codec attempt).1.query codec filter = .ok after ∧
    (before.filter fun entry => !journal.excuses codec attempt.now.val entry) =
      after.filter fun entry => !journal.excuses codec attempt.now.val entry

end Events

section Steps

variable {codec : LineCodec} {journal : Journal}

theorem entries_congr {other : Journal} (h : other.file = journal.file) :
    other.entries codec = journal.entries codec := by
  rw [Journal.entries, Journal.entries, h]

theorem append_entries (hsound : Sound codec journal.file) {entry : Entry}
    {now : Clock} {append : Append} {attempt : Attempt}
    (huntorn : (Event.record entry now append attempt).Untorn codec journal) :
    Sound codec (journal.append codec entry now append).1.file ∧
      ∃ extra, (journal.append codec entry now append).1.entries codec =
          journal.entries codec ++ extra ∧
        ((journal.append codec entry now append).2 = .ok () →
          extra = [stamped entry now]) := by
  rw [Event.Untorn, Event.written] at huntorn
  rw [Journal.append]
  cases hencode : encode codec entry now with
  | error err => exact ⟨hsound, [], by simp, fun h => nomatch h⟩
  | ok line =>
      rw [hencode] at huntorn
      have hline := encode_written hencode
      dsimp only at huntorn ⊢
      cases append with
      | uncreated err => exact ⟨hsound, [], by simp; rfl, fun h => nomatch h⟩
      | unopened err => exact ⟨hsound, [], by simp; rfl, fun h => nomatch h⟩
      | torn written err =>
          obtain ⟨hafter, extra, hextra, -⟩ :=
            @sound_appendFile codec journal _ _ _ hsound hline written rfl
              (huntorn _ rfl) { journal with
                file := appendFile journal.file
                  (some ((line ++ [newline]).take written)) } rfl
          exact ⟨hafter, extra, hextra, fun h => nomatch h⟩
      | unclosed err =>
          obtain ⟨hafter, extra, hextra, -⟩ :=
            @sound_appendFile codec journal _ _ _ hsound hline
              (line.length + 1) (List.take_of_length_le (by simp)).symm
              (huntorn _ rfl) { journal with
                file := appendFile journal.file
                  (some (line ++ [newline])) } rfl
          exact ⟨hafter, extra, hextra, fun h => nomatch h⟩
      | done =>
          obtain ⟨hafter, extra, hextra, hwhole⟩ :=
            @sound_appendFile codec journal _ _ _ hsound hline
              (line.length + 1) (List.take_of_length_le (by simp)).symm
              (huntorn _ rfl) { journal with
                file := appendFile journal.file (some (line ++ [newline]))
                appended := journal.appended + 1 } rfl
          exact ⟨hafter, extra, hextra, fun _ => hwhole (by omega)⟩

/-- What a compaction removes is excused, so nothing else is missing. -/
theorem compactLocked_counts (hsound : Sound codec journal.file)
    (attempt : Attempt) :
    Sound codec (journal.compactLocked codec attempt).1.file ∧
      ∀ entry, (journal.entries codec).count entry ≤
        ((journal.compactLocked codec attempt).1.entries codec).count entry +
          (excusedBy codec journal attempt).count entry := by
  by_cases hdone : attempt.rewrite = .done
  · obtain ⟨hafter, kept, removed, hsplit, hkept, hremoved⟩ :=
      compactLocked_done hsound hdone
    refine ⟨hafter, fun entry => ?_⟩
    have hcount : ∀ other, (journal.entries codec).count other =
        ((journal.compactLocked codec attempt).1.entries codec).count other +
          removed.count other := by
      intro other
      rw [← (sortDesc_perm Entry.atTime (journal.entries codec)).count_eq,
        hsplit, List.count_append, hkept, List.count_reverse]
    have hall : excusedBy codec journal attempt =
        (journal.entries codec).diff
          ((journal.compactLocked codec attempt).1.entries codec) := by
      rw [excusedBy, List.filter_eq_self]
      intro other hother
      apply hremoved
      have hmissing := List.count_pos_iff.mpr hother
      rw [List.count_diff, hcount] at hmissing
      exact List.count_pos_iff.mp (by omega)
    rw [hall, List.count_diff]
    omega
  · have hfile := @compactLocked_failed codec journal attempt hdone
    refine ⟨by rwa [hfile], fun entry => ?_⟩
    rw [entries_congr hfile]
    exact Nat.le_add_right _ _

theorem sound_new (hsound : Sound codec journal.file) (config : Config) :
    Sound codec (new config journal.file).file :=
  hsound

/-- One event: every entry of the file, and the one accepted, is in the file
behind it or excused. -/
theorem event_counts (hsound : Sound codec journal.file) {event : Event}
    (huntorn : event.Untorn codec journal) :
    Sound codec (event.after codec journal).file ∧
      ∀ entry, (journal.entries codec).count entry +
          (event.accepted codec journal).count entry ≤
        ((event.after codec journal).entries codec).count entry +
          (event.excused codec journal).count entry := by
  cases event with
  | query filter => exact ⟨hsound, fun entry => le_rfl⟩
  | compact attempt => exact compactLocked_counts hsound attempt
  | restart config startup =>
      cases startup with
      | none => exact ⟨hsound, fun entry => le_rfl⟩
      | some attempt =>
          exact compactLocked_counts (sound_new hsound config) attempt
  | record entry now append attempt =>
      obtain ⟨hafter, extra, hextra, haccepted⟩ :=
        append_entries hsound huntorn
      simp only [Event.after, Event.accepted, Event.excused, Event.compaction,
        Journal.record]
      generalize journal.append codec entry now append = appended at *
      obtain ⟨behind, result⟩ := appended
      cases result with
      | error err =>
          refine ⟨hafter, fun other => ?_⟩
          dsimp only at hextra ⊢
          rw [hextra]
          simp
      | ok _ =>
          obtain rfl := haccepted rfl
          dsimp only at hafter hextra ⊢
          by_cases hfull : compactEvery ≤ behind.appended
          · simp only [if_pos hfull]
            obtain ⟨hsound', hcounts⟩ := compactLocked_counts hafter attempt
            refine ⟨hsound', fun other => ?_⟩
            have hother := hcounts other
            rw [hextra, List.count_append] at hother
            split
            · exact hother
            · simp only [List.count_nil]
              omega
          · simp only [if_neg hfull]
            refine ⟨hafter, fun other => ?_⟩
            rw [hextra, List.count_append]
            simp

end Steps

section Answers

variable {codec : LineCodec} {journal : Journal}

theorem query_entries (hsound : Sound codec journal.file) (filter : Filter) :
    journal.query codec filter = .ok ((sortDesc Entry.atTime
      ((journal.entries codec).filter filter.accepts)).take filter.bound) := by
  rw [Journal.query, readLocked_entries hsound]
  rfl

theorem keeps_of_counts {w : World} (hsound : Sound codec w.journal.file)
    (hcounts : ∀ entry, w.accepted.count entry ≤
      (w.journal.entries codec).count entry + w.excused.count entry) :
    Keeps codec w := by
  intro filter
  refine ⟨_, query_entries hsound filter, fun hlarge entry hmatches => ?_⟩
  have hperm := sortDesc_perm Entry.atTime
    ((w.journal.entries codec).filter filter.accepts)
  rw [List.take_of_length_le (by rw [hperm.length_eq]; exact hlarge),
    hperm.count_eq, List.count_filter hmatches]
  exact hcounts entry

theorem excuses_of_le {now : Time} {entry other : Entry}
    (hle : other.atTime ≤ entry.atTime)
    (h : journal.excuses codec now entry) :
    journal.excuses codec now other := by
  rw [Journal.excuses, Bool.or_eq_true] at *
  exact h.imp (expired_of_le hle) (displaced_of_le hle)

/-- The entries of an answer that have to be kept are those that have to be
kept among the ones found, the newest first. -/
theorem filter_answer (now : Time) (items : List Entry) (bound : Nat) :
    ((sortDesc Entry.atTime items).take bound).filter
        (fun entry => !journal.excuses codec now entry) =
      (sortDesc Entry.atTime
        (items.filter fun entry => !journal.excuses codec now entry)).take
          bound := by
  rw [filter_take_of_sorted (sortDesc_sorted Entry.atTime items),
    sortDesc_filter]
  intro a _ b _ hle ha
  rw [Bool.not_eq_true'] at *
  rw [← Bool.not_eq_true] at *
  exact fun hb => ha (excuses_of_le hle hb)

/-- What has to be kept comes back in the order it had. -/
theorem sortDesc_kept {now : Time} {after : Journal}
    (hcompacted : Compacted codec journal now after)
    (hmirrored : journal.Mirrored codec now) (p : Entry → Bool) :
    sortDesc Entry.atTime (((after.entries codec).filter p).filter
        fun entry => !journal.excuses codec now entry) =
      sortDesc Entry.atTime (((journal.entries codec).filter p).filter
        fun entry => !journal.excuses codec now entry) := by
  obtain ⟨-, kept, removed, hsplit, hkept, hremoved⟩ := hcompacted
  have hgone : removed.filter
      (fun entry => !journal.excuses codec now entry) = [] := by
    rw [List.filter_eq_nil_iff]
    intro entry hentry
    simp [hremoved entry hentry]
  have hlive : (sortDesc Entry.atTime (journal.entries codec)).filter
      (fun entry => !journal.excuses codec now entry) =
      kept.filter fun entry => !journal.excuses codec now entry := by
    rw [hsplit, List.filter_append, hgone, List.append_nil]
  have hsorted := ((sortDesc_sorted Entry.atTime
    (journal.entries codec)).filter
      fun entry => !journal.excuses codec now entry).filter p
  have hmirror : ∀ k,
      ((((sortDesc Entry.atTime (journal.entries codec)).filter
        fun entry => !journal.excuses codec now entry).filter p).filter
          fun entry => entry.atTime = k).reverse =
      (((sortDesc Entry.atTime (journal.entries codec)).filter
        fun entry => !journal.excuses codec now entry).filter p).filter
          fun entry => entry.atTime = k := by
    intro k
    have htied : ((journal.entries codec).filter fun other =>
          decide (other.atTime = k) &&
            !journal.excuses codec now other).reverse =
        (journal.entries codec).filter fun other =>
          decide (other.atTime = k) &&
            !journal.excuses codec now other := by
      by_cases hnone : ∃ entry ∈ journal.entries codec, entry.atTime = k
      · obtain ⟨entry, hentry, rfl⟩ := hnone
        exact hmirrored entry hentry
      · have hempty : ((journal.entries codec).filter fun other =>
            decide (other.atTime = k) &&
              !journal.excuses codec now other) = [] := by
          rw [List.filter_eq_nil_iff]
          intro entry hentry htied
          simp only [Bool.and_eq_true, decide_eq_true_eq] at htied
          exact hnone ⟨entry, hentry, htied.1⟩
        rw [hempty, List.reverse_nil]
    rw [filter_swap p, filter_swap (fun entry => !journal.excuses codec now
      entry) fun entry => decide (entry.atTime = k), sortDesc_fibre,
      ← List.filter_reverse, List.filter_filter]
    simp only [Bool.and_comm] at htied ⊢
    rw [htied]
  rw [hkept, List.filter_reverse, List.filter_reverse, filter_swap p _ kept,
    ← hlive, sortDesc_reverse hsorted hmirror, ← sortDesc_filter,
    ← sortDesc_filter, filter_swap]

theorem unchanged_of_mirrored (hsound : Sound codec journal.file)
    {attempt : Attempt} (hmirrored : attempt.rewrite = .done →
      journal.Mirrored codec attempt.now.val) :
    Unchanged codec journal attempt := by
  intro filter
  have hafter := (compactLocked_counts hsound attempt).1
  refine ⟨_, _, query_entries hsound filter, query_entries hafter filter, ?_⟩
  by_cases hdone : attempt.rewrite = .done
  · rw [filter_answer, filter_answer, sortDesc_kept
      (compactLocked_done hsound hdone) (hmirrored hdone)]
  · rw [entries_congr (compactLocked_failed hdone)]

end Answers

end XrayChecker.Verdictlog

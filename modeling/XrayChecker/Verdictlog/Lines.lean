import XrayChecker.Verdictlog.Journal

/-
The bytes of a journal file that no append was made to behind a torn line:
ended lines, each of an entry, and perhaps a part of one more.
-/

namespace XrayChecker.Verdictlog

open Go

/-- The line is one that `Record` wrote or `compactLocked` rewrote. -/
structure Written (codec : LineCodec) (entry : Entry) (line : Bytes) :
    Prop where
  marshal : codec.marshal entry = some line
  bounded : entry.Bounded
  stableID : entry.stableID ≠ []
  atTime : entry.atTime ≠ 0

theorem length_truncate (value : Text) :
    (truncate value).length ≤ maxTextRunes := by
  unfold truncate
  split
  · assumption
  · simp [maxTextRunes]

theorem bounded_bounded (entry : Entry) : (bounded entry).Bounded := by
  intro text htext
  have htexts : (Verdictlog.bounded entry).texts =
      entry.texts.map fun field => truncate (trimSpace field) := rfl
  rw [htexts] at htext
  obtain ⟨field, -, rfl⟩ := List.mem_map.mp htext
  exact length_truncate _

theorem stamped_texts (entry : Entry) (now : Clock) :
    (stamped entry now).texts = (bounded entry).texts := by
  unfold stamped
  dsimp only
  split <;> rfl

theorem stamped_stableID (entry : Entry) (now : Clock) :
    (stamped entry now).stableID = (bounded entry).stableID := by
  unfold stamped
  dsimp only
  split <;> rfl

theorem stamped_atTime (entry : Entry) (now : Clock) :
    (stamped entry now).atTime ≠ 0 := by
  unfold stamped
  dsimp only
  split
  · exact now.property
  next h =>
    simpa [Time.isZero] using h

theorem encode_written {codec : LineCodec} {entry : Entry} {now : Clock}
    {line : Bytes} (h : encode codec entry now = .ok line) :
    Written codec (stamped entry now) line := by
  rw [encode] at h
  obtain ⟨hnamed, h⟩ := bind_unit_eq_ok.mp h
  have hstable : (bounded entry).stableID ≠ [] := by
    intro hempty
    simp [hempty] at hnamed
  split at h
  · cases h
  next hmarshal =>
    cases h
    refine ⟨hmarshal, ?_, ?_, stamped_atTime entry now⟩
    · intro text htext
      rw [stamped_texts] at htext
      exact bounded_bounded entry text htext
    · rw [stamped_stableID]
      exact hstable

section Lines

variable {codec : LineCodec} {entry : Entry} {line torn : Bytes}

theorem Written.not_newline (h : Written codec entry line) :
    newline ∉ line := by
  obtain ⟨members, rfl, hmembers⟩ := codec.marshal_object h.marshal
  simp only [List.mem_cons, List.mem_append, List.not_mem_nil, or_false,
    not_or]
  exact ⟨by decide, hmembers, by decide⟩

theorem Written.length_lt (h : Written codec entry line) :
    line.length < maxTokenSize := by
  have := codec.marshal_length h.bounded h.marshal
  unfold maxTokenSize
  omega

theorem readLine_written (h : Written codec entry line) :
    readLine codec line = some entry := by
  obtain ⟨members, rfl, -⟩ := codec.marshal_object h.marshal
  have hzero : entry.atTime.isZero = false := by
    simpa [Time.isZero] using h.atTime
  rw [readLine, trimSpaceBytes_between (by decide) (by decide)]
  simp [codec.unmarshal_marshal h.marshal, h.stableID, hzero]

/-- What a failing write leaves of a line is skipped. -/
theorem readLine_torn (h : Written codec entry line) (hpre : torn <+: line)
    (hne : torn ≠ line) : readLine codec torn = none := by
  cases torn with
  | nil => rfl
  | cons b rest =>
      obtain ⟨members, rfl, -⟩ := codec.marshal_object h.marshal
      obtain ⟨rfl, -⟩ := List.cons_prefix_cons.mp hpre
      have htrim := trimSpaceBytes_prefix (b := 0x7b) (by decide) rest
      rw [readLine]
      split
      · rfl
      · have hshort : trimSpaceBytes (0x7b :: rest) ≠
            0x7b :: (members ++ [0x7d]) := by
          intro hsame
          rw [hsame] at htrim
          exact hne (hpre.eq_of_length_le htrim.length_le)
        rw [codec.unmarshal_torn h.marshal (htrim.trans hpre) hshort]

end Lines

/-- Ended lines and the rest of the file behind the last of them. -/
def contents (lines : List Bytes) (tail : Bytes) : Bytes :=
  lines.flatMap (· ++ [newline]) ++ tail

/-- Every line holds an entry, and what is behind them is part of such a
line. -/
structure Shaped (codec : LineCodec) (lines : List Bytes) (tail : Bytes) :
    Prop where
  lines : ∀ line ∈ lines, ∃ entry, Written codec entry line
  tail : tail = [] ∨ ∃ entry line, Written codec entry line ∧ tail <+: line

/-- The entries `readLocked` finds. -/
def Journal.entries (codec : LineCodec) (journal : Journal) : List Entry :=
  match readLocked codec journal.file with
  | .error _ => []
  | .ok entries => entries

def Sound (codec : LineCodec) (file : Option Bytes) : Prop :=
  ∃ lines tail, file.getD [] = contents lines tail ∧ Shaped codec lines tail

section Shapes

variable {codec : LineCodec} {lines : List Bytes} {tail : Bytes}

theorem readLocked_getD (file : Option Bytes) :
    readLocked codec file = readLocked codec (some (file.getD [])) := by
  cases file with
  | none => rfl
  | some file => rfl

theorem Shaped.tail_not_newline (h : Shaped codec lines tail) :
    newline ∉ tail := by
  rcases h.tail with rfl | ⟨entry, line, hline, hpre⟩
  · exact List.not_mem_nil
  · exact fun hmem => hline.not_newline (hpre.subset hmem)

theorem readLocked_contents (h : Shaped codec lines tail) :
    readLocked codec (some (contents lines tail)) =
      .ok ((lines ++ [tail]).filterMap (readLine codec)) := by
  have hscan : scanLines (contents lines tail) = lines ++ [tail] := by
    apply scanLines_ended _ h.tail_not_newline
    intro line hline
    obtain ⟨entry, hentry⟩ := h.lines line hline
    exact hentry.not_newline
  have hshort : ¬∃ line ∈ lines ++ [tail], maxTokenSize ≤ line.length := by
    rintro ⟨line, hline, hlong⟩
    rcases List.mem_append.mp hline with hline | hline
    · obtain ⟨entry, hentry⟩ := h.lines line hline
      exact absurd hentry.length_lt (by omega)
    · obtain rfl := List.mem_singleton.mp hline
      rcases h.tail with rfl | ⟨entry, whole, hwhole, hpre⟩
      · simp [maxTokenSize] at hlong
      · have := hwhole.length_lt
        have := hpre.length_le
        omega
  rw [readLocked, hscan, if_neg hshort]

theorem entries_contents {journal : Journal}
    (hfile : journal.file.getD [] = contents lines tail)
    (h : Shaped codec lines tail) :
    journal.entries codec = (lines ++ [tail]).filterMap (readLine codec) := by
  rw [Journal.entries, readLocked_getD, hfile, readLocked_contents h]

theorem readLocked_entries {journal : Journal}
    (h : Sound codec journal.file) :
    readLocked codec journal.file = .ok (journal.entries codec) := by
  obtain ⟨lines, tail, hfile, hshaped⟩ := h
  rw [entries_contents hfile hshaped, readLocked_getD, hfile,
    readLocked_contents hshaped]

/-- Whatever is read was written. -/
theorem Shaped.written (h : Shaped codec lines tail) {entry : Entry}
    (hentry : entry ∈ (lines ++ [tail]).filterMap (readLine codec)) :
    ∃ line, Written codec entry line := by
  obtain ⟨line, hline, hread⟩ := List.mem_filterMap.mp hentry
  rcases List.mem_append.mp hline with hline | hline
  · obtain ⟨other, hother⟩ := h.lines line hline
    rw [readLine_written hother] at hread
    exact ⟨line, Option.some.inj hread ▸ hother⟩
  · obtain rfl := List.mem_singleton.mp hline
    rcases h.tail with rfl | ⟨other, whole, hwhole, hpre⟩
    · cases hread
    · by_cases hsame : line = whole
      · subst hsame
        rw [readLine_written hwhole] at hread
        exact ⟨line, Option.some.inj hread ▸ hwhole⟩
      · rw [readLine_torn hwhole hpre hsame] at hread
        cases hread

theorem Sound.written {journal : Journal} (h : Sound codec journal.file)
    {entry : Entry} (hentry : entry ∈ journal.entries codec) :
    ∃ line, Written codec entry line := by
  obtain ⟨lines, tail, hfile, hshaped⟩ := h
  rw [entries_contents hfile hshaped] at hentry
  exact hshaped.written hentry

end Shapes

end XrayChecker.Verdictlog

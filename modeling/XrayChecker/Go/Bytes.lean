import Mathlib.Data.List.Basic

/-
Byte strings, as the part of `bytes` and `bufio` that walks lines reads them.
-/

namespace Go

/-- `[]byte`. -/
abbrev Bytes := List UInt8

def newline : UInt8 := 0x0a

/-- The encodings of the runes that `unicode.IsSpace` names. -/
def spaceEncodings : List Bytes :=
  [[0x09], [0x0a], [0x0b], [0x0c], [0x0d], [0x20], [0xc2, 0x85], [0xc2, 0xa0],
    [0xe1, 0x9a, 0x80], [0xe2, 0x80, 0x80], [0xe2, 0x80, 0x81],
    [0xe2, 0x80, 0x82], [0xe2, 0x80, 0x83], [0xe2, 0x80, 0x84],
    [0xe2, 0x80, 0x85], [0xe2, 0x80, 0x86], [0xe2, 0x80, 0x87],
    [0xe2, 0x80, 0x88], [0xe2, 0x80, 0x89], [0xe2, 0x80, 0x8a],
    [0xe2, 0x80, 0xa8], [0xe2, 0x80, 0xa9], [0xe2, 0x80, 0xaf],
    [0xe2, 0x81, 0x9f], [0xe3, 0x80, 0x80]]

/-- What follows the leading white space, of which there are at most so many
runes. -/
def dropSpaces (spaces : List Bytes) : Nat → Bytes → Bytes
  | 0, s => s
  | bound + 1, s =>
      match spaces.find? (·.isPrefixOf s) with
      | none => s
      | some space => dropSpaces spaces bound (s.drop space.length)

/-- `bytes.TrimSpace`. -/
def trimSpaceBytes (s : Bytes) : Bytes :=
  let left := dropSpaces spaceEncodings s.length s
  (dropSpaces (spaceEncodings.map List.reverse) left.length
    left.reverse).reverse

/-- The lines `bufio.ScanLines` cuts the bytes into; the carriage return it
takes off a line is white space. -/
def scanLines (file : Bytes) : List Bytes :=
  file.splitOn newline

theorem dropSpaces_suffix (spaces : List Bytes) (bound : Nat) (s : Bytes) :
    dropSpaces spaces bound s <:+ s := by
  induction bound generalizing s with
  | zero => exact List.suffix_rfl
  | succ bound ih =>
      rw [dropSpaces]
      split
      · exact List.suffix_rfl
      · exact (ih _).trans (List.drop_suffix _ _)

/-- Nothing is dropped before a byte that starts no white space. -/
theorem dropSpaces_cons {spaces : List Bytes} {b : UInt8}
    (h : ∀ space ∈ spaces, space.head? ≠ some b ∧ space ≠ []) (bound : Nat)
    (s : Bytes) : dropSpaces spaces bound (b :: s) = b :: s := by
  cases bound with
  | zero => rfl
  | succ bound =>
      have hnone : spaces.find? (·.isPrefixOf (b :: s)) = none := by
        rw [List.find?_eq_none]
        intro space hspace hpre
        cases space with
        | nil => exact (h _ hspace).2 rfl
        | cons c others =>
            rw [List.isPrefixOf_iff_prefix, List.cons_prefix_cons] at hpre
            exact (h _ hspace).1 (by rw [hpre.1]; rfl)
      rw [dropSpaces, hnone]

/-- A text that starts with a visible byte only loses bytes at its end. -/
theorem trimSpaceBytes_prefix {b : UInt8}
    (h : ∀ space ∈ spaceEncodings, space.head? ≠ some b ∧ space ≠ [])
    (s : Bytes) : trimSpaceBytes (b :: s) <+: b :: s := by
  have hright := dropSpaces_suffix (spaceEncodings.map List.reverse)
    (b :: s).length (b :: s).reverse
  rw [trimSpaceBytes, dropSpaces_cons h]
  simpa using List.reverse_prefix.mpr hright

/-- A text between two visible bytes is left alone. -/
theorem trimSpaceBytes_between {b c : UInt8}
    (hb : ∀ space ∈ spaceEncodings, space.head? ≠ some b ∧ space ≠ [])
    (hc : ∀ space ∈ spaceEncodings.map List.reverse,
      space.head? ≠ some c ∧ space ≠ []) (s : Bytes) :
    trimSpaceBytes (b :: (s ++ [c])) = b :: (s ++ [c]) := by
  rw [trimSpaceBytes, dropSpaces_cons hb]
  have hreverse : (b :: (s ++ [c])).reverse = c :: (b :: s).reverse := by simp
  rw [hreverse, dropSpaces_cons hc]
  simp

theorem length_trimSpaceBytes_le (s : Bytes) :
    (trimSpaceBytes s).length ≤ s.length := by
  have hleft := (dropSpaces_suffix spaceEncodings s.length s).length_le
  have hright := (dropSpaces_suffix (spaceEncodings.map List.reverse)
    (dropSpaces spaceEncodings s.length s).length
    (dropSpaces spaceEncodings s.length s).reverse).length_le
  rw [trimSpaceBytes, List.length_reverse]
  rw [List.length_reverse] at hright
  exact Nat.le_trans hright hleft

/-- Lines that are ended, and the rest behind the last of them. -/
theorem scanLines_ended {lines : List Bytes} {tail : Bytes}
    (hlines : ∀ line ∈ lines, newline ∉ line) (htail : newline ∉ tail) :
    scanLines (lines.flatMap (· ++ [newline]) ++ tail) = lines ++ [tail] := by
  induction lines with
  | nil => exact List.splitOn_eq_singleton htail
  | cons line rest ih =>
      rw [List.forall_mem_cons] at hlines
      have hshape : (line :: rest).flatMap (· ++ [newline]) ++ tail =
          line ++ newline :: (rest.flatMap (· ++ [newline]) ++ tail) := by
        simp
      rw [hshape, scanLines,
        List.splitOn_append_cons_self_of_not_mem hlines.1]
      exact congrArg (line :: ·) (ih hlines.2)

end Go

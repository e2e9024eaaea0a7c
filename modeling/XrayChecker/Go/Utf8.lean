import XrayChecker.Go.Bytes
import XrayChecker.Go.Text

/-
Byte strings that may not be UTF-8: their runes as Go's `range` walks them,
when they are valid, and what trimming keeps.
-/

namespace Go

/-- The bytes of a text. -/
def encode (text : Text) : Bytes :=
  text.flatMap String.utf8EncodeChar

/-- `utf8.ValidString`. -/
def ValidString (s : Bytes) : Prop :=
  ∃ text, encode text = s

/-- `utf8.DecodeRuneInString` on a string that is not empty. -/
def decodeRune (s : Bytes) : Char × Nat :=
  match s.toByteArray.utf8DecodeChar? 0 with
  | none => ('\ufffd', 1)
  | some c => (c, c.utf8Size)

/-- The runes behind so many bytes of a rune already walked. -/
def runesLoop : Nat → Bytes → List Char
  | _, [] => []
  | 0, b :: rest =>
      (decodeRune (b :: rest)).1 ::
        runesLoop ((decodeRune (b :: rest)).2 - 1) rest
  | skip + 1, _ :: rest => runesLoop skip rest

/-- The runes `range` walks. -/
def runes (s : Bytes) : List Char :=
  runesLoop 0 s

theorem toByteArray_injective {s t : Bytes}
    (h : s.toByteArray = t.toByteArray) : s = t := by
  have hdata := congrArg (fun b : ByteArray => b.data.toList) h
  simpa using hdata

theorem validString_iff {s : Bytes} :
    ValidString s ↔ s.toByteArray.IsValidUTF8 := by
  constructor
  · rintro ⟨text, rfl⟩
    exact .intro text rfl
  · rintro ⟨text, htext⟩
    exact ⟨text, (toByteArray_injective htext).symm⟩

instance (s : Bytes) : Decidable (ValidString s) :=
  decidable_of_iff _ validString_iff.symm

@[simp] theorem encode_nil : encode [] = [] := rfl

@[simp] theorem encode_cons (c : Char) (text : Text) :
    encode (c :: text) = String.utf8EncodeChar c ++ encode text := rfl

@[simp] theorem encode_append (left right : Text) :
    encode (left ++ right) = encode left ++ encode right := by
  simp [encode]

theorem validString_nil : ValidString [] :=
  ⟨[], rfl⟩

theorem ValidString.append {s t : Bytes} (hs : ValidString s)
    (ht : ValidString t) : ValidString (s ++ t) := by
  obtain ⟨left, rfl⟩ := hs
  obtain ⟨right, rfl⟩ := ht
  exact ⟨left ++ right, encode_append left right⟩

/-- The first rune is told by the bytes. -/
theorem encode_cons_inj {c d : Char} {s t : Bytes}
    (h : String.utf8EncodeChar c ++ s = String.utf8EncodeChar d ++ t) :
    c = d := by
  have hdecode : ∀ (e : Char) (u : Bytes),
      (String.utf8EncodeChar e ++ u).toByteArray.utf8DecodeChar? 0 =
        some e := by
    intro e u
    rw [List.toByteArray_append]
    exact ByteArray.utf8DecodeChar?_utf8EncodeChar_append
  exact Option.some.inj ((hdecode c s).symm.trans (h ▸ hdecode d t))

/-- No encoding of a rune ends in the encoding of another one. -/
theorem encodeChar_suffix {c d : Char} {front : Bytes}
    (h : String.utf8EncodeChar c = front ++ String.utf8EncodeChar d) :
    front = [] := by
  have hlength := congrArg List.length h
  rw [List.length_append] at hlength
  have hpos : 0 < (String.utf8EncodeChar d).length := by
    rw [String.length_utf8EncodeChar]
    exact d.utf8Size_pos
  have hindex : front.length < (String.utf8EncodeChar c).length := by omega
  have hbyte : (String.utf8EncodeChar c)[front.length] =
      (String.utf8EncodeChar d)[0] := by
    simp [h]
  have hfirst : ((String.utf8EncodeChar c)[front.length]).IsUTF8FirstByte := by
    rw [hbyte]
    exact UInt8.isUTF8FirstByte_getElem_utf8EncodeChar.mpr rfl
  exact List.length_eq_zero_iff.mp
    (UInt8.isUTF8FirstByte_getElem_utf8EncodeChar.mp hfirst)

/-- A rune in front makes no difference. -/
theorem validString_encodeChar_append {c : Char} {s : Bytes} :
    ValidString (String.utf8EncodeChar c ++ s) ↔ ValidString s := by
  constructor
  · rintro ⟨text, htext⟩
    cases text with
    | nil =>
        have hnil := List.append_eq_nil_iff.mp htext.symm
        exact absurd hnil.1 String.utf8EncodeChar_ne_nil
    | cons d rest =>
        rw [encode_cons] at htext
        obtain rfl := encode_cons_inj htext
        exact ⟨rest, List.append_cancel_left htext⟩
  · exact fun h => ValidString.append ⟨[c], by simp⟩ h

/-- Nor does a rune behind. -/
theorem validString_append_encodeChar {c : Char} {s : Bytes} :
    ValidString (s ++ String.utf8EncodeChar c) ↔ ValidString s := by
  constructor
  · rintro ⟨text, htext⟩
    rcases List.eq_nil_or_concat text with rfl | ⟨front, d, rfl⟩
    · have hnil := List.append_eq_nil_iff.mp htext.symm
      exact absurd hnil.2 String.utf8EncodeChar_ne_nil
    · rw [List.concat_eq_append, encode_append, encode_cons, encode_nil,
        List.append_nil] at htext
      rcases List.append_eq_append_iff.mp htext with
        ⟨middle, hs, hd⟩ | ⟨middle, hfront, hc⟩
      · obtain rfl := encodeChar_suffix hd
        exact ⟨front, by rw [hs, List.append_nil]⟩
      · obtain rfl := encodeChar_suffix hc
        exact ⟨front, by rw [hfront, List.append_nil]⟩
  · exact fun h => h.append ⟨[c], by simp⟩

/-- The white space runes. -/
def spaceRunes : List Char :=
  ['\t', '\n', '\x0b', '\x0c', '\r', ' ', '\u0085', '\u00a0', '\u1680',
    '\u2000', '\u2001', '\u2002', '\u2003', '\u2004', '\u2005', '\u2006',
    '\u2007', '\u2008', '\u2009', '\u200a', '\u2028', '\u2029', '\u202f',
    '\u205f', '\u3000']

theorem spaceEncodings_eq :
    spaceEncodings = spaceRunes.map String.utf8EncodeChar := by
  decide

/-- Leaving out white space in front keeps validity both ways. -/
theorem validString_dropSpaces (bound : Nat) (s : Bytes) :
    ValidString (dropSpaces spaceEncodings bound s) ↔ ValidString s := by
  induction bound generalizing s with
  | zero => rfl
  | succ bound ih =>
      rw [dropSpaces]
      split
      · rfl
      next space hfound =>
        have hspace := List.mem_of_find?_eq_some hfound
        rw [spaceEncodings_eq] at hspace
        obtain ⟨c, -, rfl⟩ := List.mem_map.mp hspace
        have hpre := List.find?_some hfound
        obtain ⟨rest, rfl⟩ := List.isPrefixOf_iff_prefix.mp hpre
        rw [ih, List.drop_left, validString_encodeChar_append]

theorem validString_dropSpaces_reverse (bound : Nat) (s : Bytes) :
    ValidString (dropSpaces (spaceEncodings.map List.reverse) bound
      s.reverse).reverse ↔ ValidString s := by
  induction bound generalizing s with
  | zero => rw [dropSpaces, List.reverse_reverse]
  | succ bound ih =>
      rw [dropSpaces]
      split
      · rw [List.reverse_reverse]
      next space hfound =>
        have hspace := List.mem_of_find?_eq_some hfound
        rw [spaceEncodings_eq, List.map_map] at hspace
        obtain ⟨c, -, rfl⟩ := List.mem_map.mp hspace
        have hpre := List.find?_some hfound
        obtain ⟨rest, hrest⟩ := List.isPrefixOf_iff_prefix.mp hpre
        obtain rfl : s = rest.reverse ++ String.utf8EncodeChar c := by
          have hback := congrArg List.reverse hrest
          simpa using hback.symm
        rw [← hrest, List.drop_left, ← List.reverse_reverse rest, ih,
          List.reverse_reverse, validString_append_encodeChar]

/-- Trimming neither makes a string valid nor invalid. -/
@[simp] theorem validString_trimSpaceBytes (s : Bytes) :
    ValidString (trimSpaceBytes s) ↔ ValidString s := by
  rw [trimSpaceBytes, validString_dropSpaces_reverse, validString_dropSpaces]

/-- A rune that is read from the front of a string does not reach into the
encoding of a later one. -/
theorem decodeRune_stops {b : UInt8} {before after : Bytes} (c : Char) :
    (decodeRune (b :: before ++ String.utf8EncodeChar c ++ after)).2 ≤
      before.length + 1 := by
  rw [decodeRune]
  cases hdecode : (b :: before ++ String.utf8EncodeChar c ++
      after).toByteArray.utf8DecodeChar? 0 with
  | none => simp
  | some d =>
      by_contra hlong
      simp only [Nat.not_le] at hlong
      obtain ⟨rest, hrest⟩ :=
        ByteArray.exists_of_utf8DecodeChar?_eq_some hdecode
      have hbytes : b :: before ++ String.utf8EncodeChar c ++ after =
          String.utf8EncodeChar d ++ rest.data.toList := by
        apply toByteArray_injective
        rw [hrest, List.toByteArray_append]
        congr 1
        apply ByteArray.ext
        simp
      have hlength : before.length + 1 < (String.utf8EncodeChar d).length := by
        rw [String.length_utf8EncodeChar]
        exact hlong
      have hpos : 0 < (String.utf8EncodeChar c).length := by
        rw [String.length_utf8EncodeChar]
        exact c.utf8Size_pos
      -- The first byte of the later rune would stand inside this one.
      have hbyte := congrArg (·[before.length + 1]?) hbytes
      rw [List.append_assoc, List.getElem?_append_right (by simp),
        List.getElem?_append_left (by simpa using hpos),
        List.getElem?_append_left hlength, List.length_cons, Nat.sub_self,
        List.getElem?_eq_getElem hpos, List.getElem?_eq_getElem hlength,
        Option.some.injEq] at hbyte
      have hfirst :
          ((String.utf8EncodeChar d)[before.length + 1]).IsUTF8FirstByte := by
        rw [← hbyte]
        exact UInt8.isUTF8FirstByte_getElem_utf8EncodeChar.mpr rfl
      have hzero := UInt8.isUTF8FirstByte_getElem_utf8EncodeChar.mp hfirst
      omega

/-- A rune that is encoded somewhere in a string is one of its runes, whatever
the bytes around it are. -/
theorem mem_runesLoop {c : Char} (skip : Nat) (before after : Bytes)
    (h : skip ≤ before.length) :
    c ∈ runesLoop skip (before ++ String.utf8EncodeChar c ++ after) := by
  induction before generalizing skip with
  | nil =>
      obtain rfl := Nat.le_zero.mp h
      have hdecode : (String.utf8EncodeChar c ++
          after).toByteArray.utf8DecodeChar? 0 = some c := by
        rw [List.toByteArray_append]
        exact ByteArray.utf8DecodeChar?_utf8EncodeChar_append
      obtain ⟨first, rest, hfirst⟩ := List.exists_cons_of_ne_nil
        (@String.utf8EncodeChar_ne_nil c)
      rw [List.nil_append, hfirst, List.cons_append, runesLoop]
      rw [hfirst, List.cons_append] at hdecode
      simp [decodeRune, hdecode]
  | cons b before ih =>
      cases skip with
      | zero =>
          rw [List.cons_append, List.cons_append, runesLoop]
          apply List.mem_cons_of_mem
          apply ih
          have hstops := @decodeRune_stops b before after c
          simp only [List.cons_append] at hstops
          omega
      | succ skip =>
          rw [List.cons_append, List.cons_append, runesLoop]
          exact ih skip (by simpa using h)

theorem mem_runes (c : Char) (before after : Bytes) :
    c ∈ runes (before ++ String.utf8EncodeChar c ++ after) :=
  mem_runesLoop 0 before after (Nat.zero_le _)

/-- The runes of an encoded text in front are the text. -/
theorem runes_encode_append (text : Text) (rest : Bytes) :
    runes (encode text ++ rest) = text ++ runes rest := by
  have hskip : ∀ (front : Bytes) (tail : Bytes),
      runesLoop front.length (front ++ tail) = runesLoop 0 tail := by
    intro front tail
    induction front with
    | nil => rfl
    | cons b front ih => simpa [runesLoop] using ih
  induction text with
  | nil => rfl
  | cons c text ih =>
      have hdecode : (String.utf8EncodeChar c ++ (encode text ++
          rest)).toByteArray.utf8DecodeChar? 0 = some c := by
        rw [List.toByteArray_append]
        exact ByteArray.utf8DecodeChar?_utf8EncodeChar_append
      obtain ⟨first, others, hfirst⟩ := List.exists_cons_of_ne_nil
        (@String.utf8EncodeChar_ne_nil c)
      have hsize : c.utf8Size - 1 = others.length := by
        rw [← String.length_utf8EncodeChar, hfirst, List.length_cons,
          Nat.add_sub_cancel]
      rw [encode_cons, List.append_assoc, runes, hfirst, List.cons_append,
        runesLoop]
      rw [hfirst, List.cons_append] at hdecode
      simp only [decodeRune, hdecode, hsize, hskip, List.cons_append]
      exact congrArg (c :: ·) ih

@[simp] theorem runes_encode (text : Text) : runes (encode text) = text := by
  have h := runes_encode_append text []
  rw [List.append_nil] at h
  exact h.trans (List.append_nil text)

end Go

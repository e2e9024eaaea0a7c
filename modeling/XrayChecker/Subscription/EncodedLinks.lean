import XrayChecker.Go.Base64Text
import XrayChecker.Subscription.Title

/-
The links of a subscription that is sent as base64: which of its encodings
`tryDecodeBase64` decodes.
-/

namespace XrayChecker.Subscription

open Go

/-- The fronts by which a text is known not to be base64. -/
def linkFronts : List Bytes :=
  ["vless://", "vmess://", "trojan://", "ss://", "\x7b", "["].map
    fun front => bytesOf front.toList

def tryDecodeBase64 (data : Bytes) : Bytes :=
  let text := trimSpaceBytes data
  if linkFronts.any (·.isPrefixOf text) then data
  else (decodeBase64 text).getD data

/-- The lines of a subscription that `parseOriginalLinks` reads. -/
def linkLines (decoded : Bytes) : List Bytes :=
  ((decoded.splitOn newline).map trimSpaceBytes).filter (· ≠ [])

section Decoding

variable {form : Base64Form} {s text : Bytes} {breaks : Nat}

/-- The bytes that no encoding has. -/
def linkBytes : Bytes := [0x3a, 0x7b, 0x5b]

theorem not_linkFront (h : ∀ b ∈ text, b ∉ linkBytes) :
    linkFronts.any (·.isPrefixOf text) = false := by
  have hfronts : ∀ front ∈ linkFronts, ∃ b ∈ front, b ∈ linkBytes := by
    decide
  rw [List.any_eq_false]
  intro front hfront hpre
  obtain ⟨b, hb, hlink⟩ := hfronts front hfront
  rw [List.isPrefixOf_iff_prefix] at hpre
  exact h b (hpre.subset hb) hlink

theorem normalizeBase64_eq (text : Bytes) :
    normalizeBase64 text = text.map standardDigit ++
      List.replicate ((4 - text.length % 4) % 4) base64Pad := by
  rw [normalizeBase64]
  simp only [List.length_map]
  split
  · rename_i hwhole
    rw [hwhole]
    simp [standardDigit]
  · rename_i hpart
    have hfill : (4 - text.length % 4) % 4 = 4 - text.length % 4 := by omega
    rw [hfill]
    simp [standardDigit]

theorem mem_lineBreak {b : UInt8} (h : b ∈ form.lineBreak) :
    b ∈ ([0x0d, 0x0a] : Bytes) := by
  rw [Base64Form.lineBreak] at h
  split at h
  · exact h
  · exact List.mem_cons_of_mem _ h

/-- A byte that does not end a line. -/
def inLine (b : UInt8) : Bool :=
  b != 0x0a && b != 0x0d

/-- What the decoder reads of a text that was broken into lines. -/
theorem decodeBase64_lines {lines : List Bytes}
    (hlines : lines.flatten = form.body s) :
    decodeBase64 (form.lineBreak.intercalate lines) =
      decodeQuanta (form.standard s ++ List.replicate
        ((4 - (form.lineBreak.intercalate lines).length % 4) % 4)
        base64Pad) := by
  have hkept : ∀ b ∈ encodingBytes,
      inLine (standardDigit b) = true :=
    List.all_eq_true.mp (by decide)
  have hbreak : ∀ b ∈ form.lineBreak,
      inLine (standardDigit b) = false := by
    intro b hb
    rcases List.mem_pair.mp (mem_lineBreak hb) with rfl | rfl
    · rfl
    · rfl
  have hfilter := @filter_intercalate form.lineBreak lines
    (fun b => inLine (standardDigit b))
    (fun b hb => hkept b (Base64Form.mem_body b (hlines ▸ hb))) hbreak
  have hpads : ∀ n, (List.replicate n base64Pad).filter
      (fun b => b != 0x0a && b != 0x0d) = List.replicate n base64Pad := by
    intro n
    rw [List.filter_eq_self]
    intro b hb
    rw [List.eq_of_mem_replicate hb]
    decide
  rw [decodeBase64, decodeStd, normalizeBase64_eq, List.filter_append, hpads,
    List.filter_map]
  have hdigits : ((fun b => b != 0x0a && b != 0x0d) ∘ standardDigit) =
      fun b => inLine (standardDigit b) := rfl
  rw [hdigits, hfilter, hlines, Base64Form.map_standardDigit_body]

/-- An encoding is decoded exactly where its line breaks make up whole
quanta. -/
theorem tryDecodeBase64_encoding (h : form.Encodes s breaks text) :
    tryDecodeBase64 text = s ↔ breaks * form.lineBreak.length % 4 = 0 := by
  obtain ⟨white, lines, after, hwhite, hafter, hne, hlines, rfl, htext⟩ := h
  have hends := @intercalate_ends form.lineBreak lines hne
  have hvisible : ∀ b ∈ encodingBytes, visible b = true :=
    List.all_eq_true.mp (by decide)
  have htrim : trimSpaceBytes text = form.lineBreak.intercalate lines := by
    rw [htext]
    apply trimSpaceBytes_around hwhite hafter
    · rw [hends.1, hlines]
      intro b hb
      exact hvisible b (Base64Form.mem_body b (List.mem_of_mem_head? hb))
    · rw [hends.2, hlines]
      intro b hb
      exact hvisible b (Base64Form.mem_body b (List.mem_of_mem_getLast? hb))
  have hfront : linkFronts.any
      (·.isPrefixOf (form.lineBreak.intercalate lines)) = false := by
    apply not_linkFront
    intro b hb
    rcases mem_intercalate hb with hbreak | hline
    · rcases List.mem_pair.mp (mem_lineBreak hbreak) with rfl | rfl
      · decide
      · decide
    · have hdigits : ∀ b ∈ encodingBytes, linkBytes.contains b = false := by
        simp only [← Bool.not_eq_true', ← List.all_eq_true]
        decide
      simpa using hdigits b (Base64Form.mem_body b (hlines ▸ hline))
  have hlength := intercalate_length form.lineBreak lines
  rw [hlines, Base64Form.length_body] at hlength
  simp only [tryDecodeBase64, htrim, hfront, Bool.false_eq_true, ↓reduceIte,
    decodeBase64_lines hlines]
  constructor
  · intro hdecoded
    by_contra hpart
    have hnone : decodeQuanta (form.standard s ++ List.replicate
        ((4 - (form.lineBreak.intercalate lines).length % 4) % 4)
        base64Pad) = none := by
      rw [Option.eq_none_iff_forall_ne_some]
      intro bytes hsome
      have hmod := decodeQuanta_length_mod hsome
      rw [List.length_append, List.length_replicate] at hmod
      omega
    rw [hnone, Option.getD_none] at hdecoded
    -- The text is longer than what it encodes.
    have hbreaks : 0 < lines.length - 1 := by
      rcases Nat.eq_zero_or_pos (lines.length - 1) with hzero | hpos
      · exact absurd (by rw [hzero, Nat.zero_mul]) hpart
      · exact hpos
    have hlong := @Base64Form.length_lt_standard form s
      (Base64Form.ne_nil_of_breaks hlines hbreaks hne)
    have hsame := congrArg List.length (htext.symm.trans hdecoded)
    simp only [List.length_append] at hsame
    omega
  · intro hwhole
    have hfill : (4 - (form.lineBreak.intercalate lines).length % 4) % 4 =
        (4 - (form.standard s).length % 4) % 4 := by
      omega
    rw [hfill, Base64Form.standard_filled, decodeQuanta_encodeStd,
      Option.getD_some]

/-- A text with a colon is no base64. -/
theorem tryDecodeBase64_links {links : Bytes} (h : 0x3a ∈ links) :
    tryDecodeBase64 links = links := by
  have hnone : decodeBase64 (trimSpaceBytes links) = none := by
    rw [Option.eq_none_iff_forall_ne_some]
    intro bytes hsome
    have hcolon : 0x3a ∈ ((normalizeBase64 (trimSpaceBytes links)).filter
        fun b => b != 0x0a && b != 0x0d) := by
      refine List.mem_filter.mpr ⟨?_, by decide⟩
      rw [normalizeBase64_eq]
      exact List.mem_append_left _ (List.mem_map.mpr
        ⟨0x3a, mem_trimSpaceBytes (by decide) h, by decide⟩)
    rcases decodeQuanta_digits hsome 0x3a hcolon with hdigit | hpad
    · exact hdigit (by decide)
    · exact absurd hpad (by decide)
  simp only [tryDecodeBase64, hnone, Option.getD_none, ite_self]

/-- Where the line breaks make up whole quanta, and only there, the encoding is
undone, so that its links are read; and links are read as they are. -/
theorem tryDecodeBase64_undoes_iff (h : form.Encodes s breaks text) :
    (tryDecodeBase64 text = s ↔ breaks * form.lineBreak.length % 4 = 0) ∧
      (breaks * form.lineBreak.length % 4 = 0 →
        linkLines (tryDecodeBase64 text) = linkLines s) ∧
      ∀ links : Bytes, 0x3a ∈ links → tryDecodeBase64 links = links := by
  have hiff := tryDecodeBase64_encoding h
  refine ⟨hiff, fun hwhole => ?_, fun links hcolon => ?_⟩
  · rw [hiff.mpr hwhole]
  · exact tryDecodeBase64_links hcolon

end Decoding

namespace Sample

/-- The encoding of `abc`, and the same one on two lines. -/
def encodedAbc : Bytes := [0x59, 0x57, 0x4a, 0x6a]

def encodedAbcLines : Bytes := [0x59, 0x57, 0x0a, 0x4a, 0x6a]

def abc : Bytes := [0x61, 0x62, 0x63]

theorem tryDecodeBase64_undoes_iff_abc :
    (tryDecodeBase64 encodedAbc = abc ↔ 0 * 1 % 4 = 0) ∧
      (0 * 1 % 4 = 0 →
        linkLines (tryDecodeBase64 encodedAbc) = linkLines abc) ∧
      ∀ links : Bytes, 0x3a ∈ links → tryDecodeBase64 links = links :=
  @tryDecodeBase64_undoes_iff {} abc encodedAbc 0
    ⟨[], [encodedAbc], [], nofun, nofun, by simp [encodedAbc], by decide, rfl,
      rfl⟩

/-- An encoding that is broken once is taken for the links themselves. -/
theorem broken_encoding_kept :
    Base64Form.Encodes {} abc 1 encodedAbcLines ∧
      tryDecodeBase64 encodedAbcLines ≠ abc := by
  refine ⟨⟨[], [[0x59, 0x57], [0x4a, 0x6a]], [], nofun, nofun, by simp,
    by decide, rfl, rfl⟩, by decide⟩

end Sample

end XrayChecker.Subscription

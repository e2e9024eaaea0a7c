import XrayChecker.Subscription.Title

/-
Which titles and fragments become a name that is UTF-8, that is the title
where the title is plain, and that the metrics take as a label.
-/

namespace XrayChecker.Subscription

open Go

/-- The title is what some text in UTF-8 is encoded to, in either alphabet and
with or without its padding. -/
def EncodesText (title : Bytes) : Prop :=
  ∃ text, ValidString text ∧ encodeStd text = normalizeBase64 title

/-- The name of the subscription is safe; white space around a title is not
part of it. -/
structure SafeName (source headerValue : Bytes) : Prop where
  valid : ValidString (fetchedName source headerValue)
  plain : (extractURLFragment source).2 = [] →
    ¬base64Prefix <+: trimSpaceBytes headerValue →
    ¬EncodesText (trimSpaceBytes headerValue) →
    fetchedName source headerValue = trimSpaceBytes headerValue
  encoded : (extractURLFragment source).2 = [] → ∀ payload text,
    trimSpaceBytes headerValue = base64Prefix ++ payload →
    ValidString text → encodeStd text = normalizeBase64 payload →
    fetchedName source headerValue = trimSpaceBytes text
  label : ∀ (vec : GaugeVec)
    (metricsInstance feedName protocol address name : Bytes),
    vec.labels = metricLabels metricsInstance →
    (∀ value ∈ [metricsInstance, feedName, protocol, address, name],
      ValidString value) →
    recordProxy vec metricsInstance protocol address name
      (subName feedName (fetchedName source headerValue))

/-- A header that is no fragment's second is UTF-8, or encodes UTF-8, and is
not taken for base64 when it is none. -/
structure Readable (source headerValue : Bytes) : Prop where
  fragment : ValidString (extractURLFragment source).2
  encoded : (extractURLFragment source).2 = [] → ∀ payload decoded,
    trimSpaceBytes headerValue = base64Prefix ++ payload →
    decodeBase64 payload = some decoded → ValidString decoded
  guessed : (extractURLFragment source).2 = [] →
    ¬base64Prefix <+: trimSpaceBytes headerValue → ∀ decoded,
    decodeBase64 (trimSpaceBytes headerValue) = some decoded →
    isPrintableString decoded →
    trimSpaceBytes headerValue = [] ∨
      EncodesText (trimSpaceBytes headerValue)
  plain : (extractURLFragment source).2 = [] →
    ¬base64Prefix <+: trimSpaceBytes headerValue →
    (∀ decoded, decodeBase64 (trimSpaceBytes headerValue) = some decoded →
      ¬isPrintableString decoded) →
    ValidString headerValue

section Names

variable {source headerValue : Bytes}

theorem trimSpaceBytes_nil : trimSpaceBytes [] = [] := rfl

theorem decodeBase64_of_encode {text title : Bytes}
    (h : encodeStd text = normalizeBase64 title) :
    decodeBase64 title = some text := by
  rw [decodeBase64, ← h, decodeStd_encodeStd]

/-- What a title decodes to is shorter than it. -/
theorem decodeBase64_length {title decoded : Bytes}
    (h : decodeBase64 title = some decoded) :
    decoded = [] ∨ decoded.length < title.length := by
  refine (decodeQuanta_length h).imp_right fun hlt => ?_
  have hfilter : ((normalizeBase64 title).filter fun b =>
      b != 0x0a && b != 0x0d).countP (· != base64Pad) ≤
        (normalizeBase64 title).countP (· != base64Pad) :=
    List.filter_sublist.countP_le
  have hpads : (normalizeBase64 title).countP (· != base64Pad) ≤
      title.length := by
    rw [normalizeBase64]
    split
    · exact List.countP_le_length.trans (by simp)
    · rw [List.countP_append, List.countP_replicate]
      exact List.countP_le_length.trans (by simp)
  omega

/-- A title that is taken for base64 is not the name. -/
theorem trimmed_ne_title {title decoded : Bytes} (hne : title ≠ [])
    (h : decodeBase64 title = some decoded) :
    trimSpaceBytes decoded ≠ title := by
  intro hsame
  rcases decodeBase64_length h with rfl | hlt
  · exact hne hsame.symm
  · have hle := length_trimSpaceBytes_le decoded
    rw [hsame] at hle
    omega

theorem fetchedName_fragment (h : (extractURLFragment source).2 ≠ []) :
    fetchedName source headerValue = (extractURLFragment source).2 := by
  simp only [fetchedName, if_neg h]

theorem extractNameFromHeader_trim :
    extractNameFromHeader headerValue =
      if base64Prefix.isPrefixOf (trimSpaceBytes headerValue) then
        match decodeBase64
            ((trimSpaceBytes headerValue).drop base64Prefix.length) with
        | some decoded => trimSpaceBytes decoded
        | none => []
      else
        match decodeBase64 (trimSpaceBytes headerValue) with
        | some decoded =>
            if isPrintableString decoded then trimSpaceBytes decoded
            else trimSpaceBytes headerValue
        | none => trimSpaceBytes headerValue := by
  by_cases hnil : headerValue = []
  · subst hnil
    decide
  · exact if_neg hnil

theorem fetchedName_encoded (h : (extractURLFragment source).2 = [])
    {payload : Bytes}
    (htitle : trimSpaceBytes headerValue = base64Prefix ++ payload) :
    fetchedName source headerValue =
      match decodeBase64 payload with
      | some decoded => trimSpaceBytes decoded
      | none => [] := by
  have hpre : base64Prefix.isPrefixOf (base64Prefix ++ payload) :=
    List.isPrefixOf_iff_prefix.mpr (List.prefix_append _ _)
  rw [fetchedName, if_pos h, extractNameFromHeader_trim, htitle,
    if_pos hpre, List.drop_left]

theorem fetchedName_plain (h : (extractURLFragment source).2 = [])
    (hplain : ¬base64Prefix <+: trimSpaceBytes headerValue) :
    fetchedName source headerValue =
      match decodeBase64 (trimSpaceBytes headerValue) with
      | some decoded =>
          if isPrintableString decoded then trimSpaceBytes decoded
          else trimSpaceBytes headerValue
      | none => trimSpaceBytes headerValue := by
  rw [fetchedName, if_pos h, extractNameFromHeader_trim,
    if_neg (by rwa [List.isPrefixOf_iff_prefix])]

/-- A name in UTF-8 is taken as a label. -/
theorem recordProxy_of_valid (hvalid : ValidString
      (fetchedName source headerValue)) {vec : GaugeVec}
    {metricsInstance feedName protocol address name : Bytes}
    (hlabels : vec.labels = metricLabels metricsInstance)
    (hothers : ∀ value ∈ [metricsInstance, feedName, protocol, address, name],
      ValidString value) :
    recordProxy vec metricsInstance protocol address name
      (subName feedName (fetchedName source headerValue)) := by
  simp only [List.forall_mem_cons] at hothers
  obtain ⟨hinstance, hfeed, hprotocol, haddress, hname, -⟩ := hothers
  have hsub : ValidString
      (subName feedName (fetchedName source headerValue)) := by
    rw [subName]
    split
    · exact hvalid
    · rwa [validString_trimSpaceBytes]
  rw [recordProxy, vec.accepts_iff, hlabels, metricLabels, buildLabelValues]
  by_cases hnone : metricsInstance = []
  · simp only [if_pos hnone, List.append_nil, List.forall_mem_cons]
    exact ⟨rfl, hprotocol, haddress, hname, hsub,
      fun _ h => absurd h List.not_mem_nil⟩
  · simp only [if_neg hnone, List.cons_append, List.nil_append,
      List.forall_mem_cons]
    exact ⟨rfl, hprotocol, haddress, hname, hsub, hinstance,
      fun _ h => absurd h List.not_mem_nil⟩

theorem valid_of_readable (h : Readable source headerValue) :
    ValidString (fetchedName source headerValue) := by
  by_cases hfragment : (extractURLFragment source).2 = []
  · by_cases hpre : base64Prefix <+: trimSpaceBytes headerValue
    · obtain ⟨payload, htitle⟩ := hpre
      rw [fetchedName_encoded hfragment htitle.symm]
      split
      next decoded hdecoded =>
        rw [validString_trimSpaceBytes]
        exact h.encoded hfragment payload decoded htitle.symm hdecoded
      · exact validString_nil
    · rw [fetchedName_plain hfragment hpre]
      split
      next decoded hdecoded =>
        split
        next hprintable =>
          rw [validString_trimSpaceBytes]
          rcases h.guessed hfragment hpre decoded hdecoded hprintable
            with hnil | ⟨text, htext, hencode⟩
          · rw [hnil] at hdecoded
            obtain rfl := Option.some.inj hdecoded
            exact validString_nil
          · rw [decodeBase64_of_encode hencode] at hdecoded
            exact Option.some.inj hdecoded ▸ htext
        next hprintable =>
          rw [validString_trimSpaceBytes]
          refine h.plain hfragment hpre fun other hother => ?_
          rwa [← Option.some.inj (hdecoded.symm.trans hother)]
      next hdecoded =>
        rw [validString_trimSpaceBytes]
        refine h.plain hfragment hpre fun other hother => ?_
        rw [hdecoded] at hother
        cases hother
  · rw [fetchedName_fragment hfragment]
    exact h.fragment

theorem safe_of_readable (h : Readable source headerValue) :
    SafeName source headerValue where
  valid := valid_of_readable h
  plain hfragment hpre hnone := by
    rw [fetchedName_plain hfragment hpre]
    split
    next decoded hdecoded =>
      split
      next hprintable =>
        rcases h.guessed hfragment hpre decoded hdecoded hprintable
          with hnil | hencodes
        · rw [hnil] at hdecoded ⊢
          obtain rfl := Option.some.inj hdecoded
          rfl
        · exact absurd hencodes hnone
      · rfl
    · rfl
  encoded hfragment payload text htitle htext hencode := by
    rw [fetchedName_encoded hfragment htitle, decodeBase64_of_encode hencode]
  label vec metricsInstance feedName protocol address name hlabels hothers :=
    recordProxy_of_valid (valid_of_readable h) hlabels hothers

theorem readable_of_safe (h : SafeName source headerValue) :
    Readable source headerValue where
  fragment := by
    by_cases hfragment : (extractURLFragment source).2 = []
    · rw [hfragment]
      exact validString_nil
    · have hvalid := h.valid
      rwa [fetchedName_fragment hfragment] at hvalid
  encoded hfragment payload decoded htitle hdecoded := by
    have hvalid := h.valid
    rw [fetchedName_encoded hfragment htitle, hdecoded] at hvalid
    simpa using hvalid
  guessed hfragment hpre decoded hdecoded hprintable := by
    by_cases hnil : trimSpaceBytes headerValue = []
    · exact .inl hnil
    · -- The name is not the title, so the title must encode a text.
      refine .inr (Classical.byContradiction fun hnone => ?_)
      have hsame := h.plain hfragment hpre hnone
      rw [fetchedName_plain hfragment hpre, hdecoded] at hsame
      dsimp only at hsame
      rw [if_pos hprintable] at hsame
      exact trimmed_ne_title hnil hdecoded hsame
  plain hfragment hpre hnone := by
    have hvalid := h.valid
    rw [fetchedName_plain hfragment hpre] at hvalid
    split at hvalid
    next decoded hdecoded =>
      rw [if_neg (hnone decoded hdecoded)] at hvalid
      simpa using hvalid
    · simpa using hvalid

end Names

/-- A name is safe for exactly the headers and fragments that are readable. -/
theorem safeName_iff (source headerValue : Bytes) :
    SafeName source headerValue ↔ Readable source headerValue :=
  ⟨readable_of_safe, safe_of_readable⟩

/-- The plain title `Premium8` is taken for base64, and its name is not
UTF-8. -/
theorem premium_title_unsafe :
    ¬∀ source headerValue, SafeName source headerValue := by
  intro h
  have hvalid := (h (bytesOf "https://panel.example/sub")
    (bytesOf "Premium8")).valid
  revert hvalid
  decide

end XrayChecker.Subscription

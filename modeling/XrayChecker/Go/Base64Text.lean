import XrayChecker.Go.Base64

/-
Base64 texts as they are sent: in either alphabet, with or without padding,
broken into lines, with white space around.
-/

namespace Go

section Spaces

/-- A byte of ASCII that is no white space. -/
def visible (b : UInt8) : Bool :=
  0x21 ≤ b && b < 0x80

theorem visible_no_space {b : UInt8} (h : visible b = true) :
    ∀ space ∈ spaceEncodings, space.head? ≠ some b ∧ space ≠ [] := by
  have hall : ∀ space ∈ spaceEncodings,
      (!space.isEmpty && space.head?.all fun c => !visible c) = true :=
    List.all_eq_true.mp (by decide)
  intro space hspace
  obtain ⟨hempty, hfirst⟩ := Bool.and_eq_true_iff.mp (hall space hspace)
  constructor
  · intro hhead
    simp [hhead, h] at hfirst
  · rintro rfl
    simp at hempty

theorem visible_no_space_reverse {b : UInt8} (h : visible b = true) :
    ∀ space ∈ spaceEncodings.map List.reverse,
      space.head? ≠ some b ∧ space ≠ [] := by
  have hall : ∀ space ∈ spaceEncodings.map List.reverse,
      (!space.isEmpty && space.head?.all fun c => !visible c) = true :=
    List.all_eq_true.mp (by decide)
  intro space hspace
  obtain ⟨hempty, hfirst⟩ := Bool.and_eq_true_iff.mp (hall space hspace)
  constructor
  · intro hhead
    simp [hhead, h] at hfirst
  · rintro rfl
    simp at hempty

/-- White space is dropped rune by rune. -/
theorem dropSpaces_flatten {spaces : List Bytes}
    (hfree : ∀ a ∈ spaces, ∀ b ∈ spaces, a.isPrefixOf b = true → a = b)
    (white : List Bytes) (h : ∀ space ∈ white, space ∈ spaces) (bound : Nat)
    (rest : Bytes) :
    dropSpaces spaces (white.length + bound) (white.flatten ++ rest) =
      dropSpaces spaces bound rest := by
  induction white with
  | nil => simp
  | cons space white ih =>
      rw [List.forall_mem_cons] at h
      have hfound : spaces.find? (·.isPrefixOf
          ((space :: white).flatten ++ rest)) = some space := by
        cases hfind : spaces.find? (·.isPrefixOf
          ((space :: white).flatten ++ rest)) with
        | none =>
            have hnone := List.find?_eq_none.mp hfind space h.1
            simp [List.isPrefixOf_iff_prefix] at hnone
        | some other =>
            have hmem := List.mem_of_find?_eq_some hfind
            have hpre : other <+: (space :: white).flatten ++ rest := by
              simpa using List.find?_some hfind
            have hown : space <+: (space :: white).flatten ++ rest := by simp
            rcases List.prefix_or_prefix_of_prefix hpre hown with hle | hle
            · rw [hfree other hmem space h.1
                (List.isPrefixOf_iff_prefix.mpr hle)]
            · rw [hfree space h.1 other hmem
                (List.isPrefixOf_iff_prefix.mpr hle)]
      rw [List.length_cons, Nat.add_right_comm, dropSpaces, hfound]
      simp only [List.flatten_cons, List.append_assoc, List.drop_left]
      exact ih h.2

theorem spaceEncodings_free : ∀ a ∈ spaceEncodings, ∀ b ∈ spaceEncodings,
    a.isPrefixOf b = true → a = b := by
  decide

theorem spaceEncodings_reverse_free :
    ∀ a ∈ spaceEncodings.map List.reverse,
      ∀ b ∈ spaceEncodings.map List.reverse,
        a.isPrefixOf b = true → a = b := by
  decide

theorem length_le_flatten {white : List Bytes}
    (h : ∀ space ∈ white, space ∈ spaceEncodings) :
    white.length ≤ white.flatten.length := by
  have hne : ∀ space ∈ spaceEncodings, 1 ≤ space.length := by decide
  induction white with
  | nil => simp
  | cons space white ih =>
      rw [List.forall_mem_cons] at h
      have hspace := hne space h.1
      have hrest := ih h.2
      simp only [List.length_cons, List.flatten_cons, List.length_append]
      omega

/-- Trimming takes off the white space around a visible text. -/
theorem trimSpaceBytes_around {white after : List Bytes} {text : Bytes}
    (hwhite : ∀ space ∈ white, space ∈ spaceEncodings)
    (hafter : ∀ space ∈ after, space ∈ spaceEncodings)
    (htext : ∀ b ∈ text.head?, visible b = true)
    (hend : ∀ b ∈ text.getLast?, visible b = true) :
    trimSpaceBytes (white.flatten ++ text ++ after.flatten) = text := by
  cases text with
  | nil =>
      have hall : ∀ space ∈ white ++ after, space ∈ spaceEncodings :=
        List.forall_mem_append.mpr ⟨hwhite, hafter⟩
      have hle := length_le_flatten hall
      obtain ⟨bound, hbound⟩ := Nat.exists_eq_add_of_le hle
      have hdrop := dropSpaces_flatten spaceEncodings_free (white ++ after)
        hall bound []
      rw [List.append_nil, ← hbound] at hdrop
      have hnil : dropSpaces spaceEncodings bound [] = [] := by
        cases bound with
        | zero => rfl
        | succ bound => rfl
      rw [List.append_nil, ← List.flatten_append, trimSpaceBytes, hdrop, hnil]
      rfl
  | cons b rest =>
      have hleft : dropSpaces spaceEncodings
          (white.flatten ++ (b :: rest) ++ after.flatten).length
          (white.flatten ++ (b :: rest) ++ after.flatten) =
            b :: rest ++ after.flatten := by
        have hle := length_le_flatten hwhite
        obtain ⟨bound, hbound⟩ := Nat.exists_eq_add_of_le (Nat.le_trans hle
          (Nat.le_add_right _ ((b :: rest) ++ after.flatten).length))
        rw [List.append_assoc, List.length_append, hbound,
          dropSpaces_flatten spaceEncodings_free white hwhite]
        exact dropSpaces_cons (visible_no_space (htext b rfl)) _ _
      obtain ⟨front, c, hlast⟩ :=
        (List.eq_nil_or_concat' (b :: rest)).resolve_left
          (List.cons_ne_nil b rest)
      have hc : visible c = true := by
        apply hend
        rw [hlast, List.getLast?_concat]
        rfl
      have hreverse : (b :: rest ++ after.flatten).reverse =
          (after.reverse.map List.reverse).flatten ++ (b :: rest).reverse := by
        rw [List.reverse_append, List.reverse_flatten, List.map_reverse]
      have hspaces : ∀ space ∈ after.reverse.map List.reverse,
          space ∈ spaceEncodings.map List.reverse := by
        intro space hspace
        obtain ⟨own, hown, rfl⟩ := List.mem_map.mp hspace
        exact List.mem_map_of_mem (hafter own (List.mem_reverse.mp hown))
      have hle : (after.reverse.map List.reverse).length ≤
          (b :: rest ++ after.flatten).length := by
        rw [List.length_map, List.length_reverse, List.length_append]
        exact Nat.le_trans (length_le_flatten hafter) (Nat.le_add_left _ _)
      obtain ⟨bound, hbound⟩ := Nat.exists_eq_add_of_le hle
      rw [trimSpaceBytes, hleft, hreverse, hbound,
        dropSpaces_flatten spaceEncodings_reverse_free _ hspaces, hlast,
        List.reverse_append, List.reverse_singleton, List.singleton_append,
        dropSpaces_cons (visible_no_space_reverse hc)]
      simp

theorem mem_dropSpaces {spaces : List Bytes} {b : UInt8}
    (h : ∀ space ∈ spaces, b ∉ space) (bound : Nat) {s : Bytes}
    (hb : b ∈ s) : b ∈ dropSpaces spaces bound s := by
  induction bound generalizing s with
  | zero => exact hb
  | succ bound ih =>
      rw [dropSpaces]
      split
      · exact hb
      · rename_i space hfind
        have hpre : space <+: s := by simpa using List.find?_some hfind
        obtain ⟨rest, rfl⟩ := hpre
        rw [List.drop_left]
        exact ih ((List.mem_append.mp hb).resolve_left
          (h space (List.mem_of_find?_eq_some hfind)))

/-- Trimming keeps the bytes that are in no white space. -/
theorem mem_trimSpaceBytes {b : UInt8}
    (h : ∀ space ∈ spaceEncodings, b ∉ space) {s : Bytes} (hb : b ∈ s) :
    b ∈ trimSpaceBytes s := by
  have hreverse : ∀ space ∈ spaceEncodings.map List.reverse, b ∉ space := by
    intro space hspace hmem
    obtain ⟨own, hown, rfl⟩ := List.mem_map.mp hspace
    exact h own hown (List.mem_reverse.mp hmem)
  rw [trimSpaceBytes, List.mem_reverse]
  exact mem_dropSpaces hreverse _
    (List.mem_reverse.mpr (mem_dropSpaces h _ hb))

end Spaces

section Lines

variable {lineBreak : Bytes} {lines : List Bytes}

theorem intercalate_length (lineBreak : Bytes) (lines : List Bytes) :
    (lineBreak.intercalate lines).length =
      lines.flatten.length + (lines.length - 1) * lineBreak.length := by
  induction lines with
  | nil => simp
  | cons line rest ih =>
      cases rest with
      | nil => simp
      | cons next rest =>
          have hflat : (line :: next :: rest).flatten.length =
              line.length + (next :: rest).flatten.length := by
            rw [List.flatten_cons, List.length_append]
          have hbreaks : (line :: next :: rest).length - 1 =
              ((next :: rest).length - 1) + 1 := by
            simp
          rw [List.intercalate_cons_cons, List.length_append,
            List.length_append, ih, hflat, hbreaks, Nat.add_mul, Nat.one_mul]
          omega

/-- Without the line breaks, the lines are one text. -/
theorem filter_intercalate {kept : UInt8 → Bool}
    (hlines : ∀ b ∈ lines.flatten, kept b = true)
    (hbreak : ∀ b ∈ lineBreak, kept b = false) :
    (lineBreak.intercalate lines).filter kept = lines.flatten := by
  have hnone : lineBreak.filter kept = [] := by
    rw [List.filter_eq_nil_iff]
    intro b hb
    simp [hbreak b hb]
  induction lines with
  | nil => rfl
  | cons line rest ih =>
      rw [List.flatten_cons, List.forall_mem_append] at hlines
      have hline : line.filter kept = line :=
        List.filter_eq_self.mpr hlines.1
      cases rest with
      | nil => simpa using hlines.1
      | cons next rest =>
          rw [List.intercalate_cons_cons, List.filter_append,
            List.filter_append, hline, hnone, ih hlines.2, List.append_nil]
          rfl

/-- Broken lines start and end as the text does. -/
theorem intercalate_ends (h : ∀ line ∈ lines, line ≠ []) :
    (lineBreak.intercalate lines).head? = lines.flatten.head? ∧
      (lineBreak.intercalate lines).getLast? = lines.flatten.getLast? := by
  induction lines with
  | nil => exact ⟨rfl, rfl⟩
  | cons line rest ih =>
      rw [List.forall_mem_cons] at h
      cases rest with
      | nil => simp
      | cons next rest =>
          obtain ⟨b, tail, rfl⟩ := List.exists_cons_of_ne_nil h.1
          have hnext : next ≠ [] := h.2 next List.mem_cons_self
          have hrest : (next :: rest).flatten ≠ [] := by
            simp [hnext]
          refine ⟨by simp [List.intercalate_cons_cons], ?_⟩
          have hnonempty : lineBreak.intercalate (next :: rest) ≠ [] := by
            intro hnil
            have hlast := (ih h.2).2
            rw [hnil, List.getLast?_nil, eq_comm,
              List.getLast?_eq_none_iff] at hlast
            exact hrest hlast
          rw [List.intercalate_cons_cons, List.getLast?_append_of_ne_nil _
            hnonempty, (ih h.2).2, List.flatten_cons (l := b :: tail),
            List.getLast?_append_of_ne_nil _ hrest]

theorem mem_intercalate {b : UInt8} (h : b ∈ lineBreak.intercalate lines) :
    b ∈ lineBreak ∨ b ∈ lines.flatten := by
  induction lines with
  | nil => cases h
  | cons line rest ih =>
      cases rest with
      | nil => exact Or.inr (by simpa using h)
      | cons next rest =>
          rw [List.intercalate_cons_cons, List.mem_append,
            List.mem_append] at h
          rcases h with (hline | hbreak) | hrest
          · exact Or.inr (List.mem_append_left _ hline)
          · exact Or.inl hbreak
          · exact (ih hrest).imp_right (List.mem_append_right _)

end Lines

section Forms

/-- `base64.RawStdEncoding.EncodeToString`. -/
def encodeRaw : Bytes → Bytes
  | [] => []
  | [a] =>
      let n := a.toNat * 65536
      [base64Digit (n / 262144), base64Digit (n / 4096 % 64)]
  | [a, b] =>
      let n := a.toNat * 65536 + b.toNat * 256
      [base64Digit (n / 262144), base64Digit (n / 4096 % 64),
        base64Digit (n / 64 % 64)]
  | a :: b :: c :: rest =>
      let n := a.toNat * 65536 + b.toNat * 256 + c.toNat
      [base64Digit (n / 262144), base64Digit (n / 4096 % 64),
        base64Digit (n / 64 % 64), base64Digit (n % 64)] ++ encodeRaw rest

/-- A form of the encoding: its alphabet, whether it is padded, and what its
lines end in. -/
structure Base64Form where
  urlSafe : Bool := false
  padded : Bool := true
  crlf : Bool := false

/-- The digit in the URL-safe alphabet. -/
def urlSafeDigit (b : UInt8) : UInt8 :=
  if b = 0x2b then 0x2d else if b = 0x2f then 0x5f else b

/-- The digit in the standard alphabet. -/
def standardDigit (b : UInt8) : UInt8 :=
  if b = 0x2d then 0x2b else if b = 0x5f then 0x2f else b

namespace Base64Form

/-- The encoding in the standard alphabet. -/
def standard (form : Base64Form) (s : Bytes) : Bytes :=
  if form.padded then encodeStd s else encodeRaw s

/-- The encoding on one line. -/
def body (form : Base64Form) (s : Bytes) : Bytes :=
  if form.urlSafe then (form.standard s).map urlSafeDigit else form.standard s

def lineBreak (form : Base64Form) : Bytes :=
  if form.crlf then [0x0d, 0x0a] else [0x0a]

/-- The text is an encoding of the bytes in this form, with so many line breaks
inside. -/
def Encodes (form : Base64Form) (s : Bytes) (breaks : Nat) (text : Bytes) :
    Prop :=
  ∃ white lines after : List Bytes,
    (∀ space ∈ white, space ∈ spaceEncodings) ∧
      (∀ space ∈ after, space ∈ spaceEncodings) ∧
      (∀ line ∈ lines, line ≠ []) ∧ lines.flatten = form.body s ∧
      breaks = lines.length - 1 ∧
      text = white.flatten ++ form.lineBreak.intercalate lines ++ after.flatten

end Base64Form

theorem base64Digit_mem {n : Nat} (h : n < 64) :
    base64Digit n ∈ base64Alphabet := by
  have hlength : base64Alphabet.length = 64 := by decide
  have hindex : n < base64Alphabet.length := by omega
  rw [base64Digit, List.getD, List.getElem?_eq_getElem hindex, Option.getD_some]
  exact List.getElem_mem hindex

theorem mem_encodeRaw (s : Bytes) : ∀ b ∈ encodeRaw s, b ∈ base64Alphabet := by
  induction s using encodeRaw.induct with
  | case1 => exact fun b hb => absurd hb List.not_mem_nil
  | case2 a =>
      have ha := a.toNat_lt
      rw [encodeRaw]
      simp only [List.forall_mem_cons]
      exact ⟨base64Digit_mem (by omega), base64Digit_mem (by omega),
        fun b hb => absurd hb List.not_mem_nil⟩
  | case3 a b =>
      have ha := a.toNat_lt
      have hb := b.toNat_lt
      rw [encodeRaw]
      simp only [List.forall_mem_cons]
      exact ⟨base64Digit_mem (by omega), base64Digit_mem (by omega),
        base64Digit_mem (by omega), fun b hb => absurd hb List.not_mem_nil⟩
  | case4 a b c rest ih =>
      have ha := a.toNat_lt
      have hb := b.toNat_lt
      have hc := c.toNat_lt
      rw [encodeRaw]
      simp only [List.forall_mem_append, List.forall_mem_cons]
      exact ⟨⟨base64Digit_mem (by omega), base64Digit_mem (by omega),
        base64Digit_mem (by omega), base64Digit_mem (by omega),
        fun b hb => absurd hb List.not_mem_nil⟩, ih⟩

/-- The padded encoding is the other one, filled up to whole quanta. -/
theorem encodeStd_eq_raw (s : Bytes) :
    encodeStd s = encodeRaw s ++
      List.replicate ((4 - (encodeRaw s).length % 4) % 4) base64Pad := by
  induction s using encodeRaw.induct with
  | case1 => rfl
  | case2 a => rfl
  | case3 a b => rfl
  | case4 a b c rest ih =>
      rw [encodeStd, encodeRaw, ih, List.append_assoc, List.length_append]
      have hmod : ∀ n : Nat, (4 + n) % 4 = n % 4 := by omega
      simp only [List.length_cons, List.length_nil, Nat.zero_add,
        Nat.reduceAdd, hmod]

theorem encodeStd_length_mod (s : Bytes) : (encodeStd s).length % 4 = 0 := by
  rw [encodeStd_eq_raw, List.length_append, List.length_replicate]
  omega

theorem length_lt_encodeRaw {s : Bytes} (h : s ≠ []) :
    s.length < (encodeRaw s).length := by
  induction s using encodeRaw.induct with
  | case1 => exact absurd rfl h
  | case2 a => simp [encodeRaw]
  | case3 a b => simp [encodeRaw]
  | case4 a b c rest ih =>
      cases rest with
      | nil => simp [encodeRaw]
      | cons d rest =>
          have hrest := ih (List.cons_ne_nil _ _)
          rw [encodeRaw]
          simp only [List.length_cons, List.length_append] at hrest ⊢
          omega

/-- Only whole quanta are decoded. -/
theorem decodeQuanta_length_mod {text bytes : Bytes}
    (h : decodeQuanta text = some bytes) : text.length % 4 = 0 := by
  induction text using decodeQuanta.induct generalizing bytes with
  | case1 => rfl
  | case2 a b c d rest hfirst =>
      rw [decodeQuanta, hfirst] at h
      cases h
  | case3 a b c d rest first hfirst ih =>
      rw [decodeQuanta, hfirst] at h
      obtain ⟨others, hothers, -⟩ := Option.map_eq_some_iff.mp h
      have hrest := ih hothers
      simp only [List.length_cons]
      omega
  | case4 text hnil hcons =>
      rw [decodeQuanta] at h
      · cases h
      · exact hnil
      · exact hcons

/-- What is decoded are digits and padding. -/
theorem decodeQuanta_digits {text bytes : Bytes}
    (h : decodeQuanta text = some bytes) :
    ∀ b ∈ text, base64Value b ≠ none ∨ b = base64Pad := by
  induction text using decodeQuanta.induct generalizing bytes with
  | case1 => exact fun b hb => absurd hb List.not_mem_nil
  | case2 a b c d rest hfirst =>
      rw [decodeQuanta, hfirst] at h
      cases h
  | case3 a b c d rest first hfirst ih =>
      rw [decodeQuanta, hfirst] at h
      obtain ⟨others, hothers, -⟩ := Option.map_eq_some_iff.mp h
      have hquantum : ∀ e ∈ [a, b, c, d],
          base64Value e ≠ none ∨ e = base64Pad := by
        unfold decodeQuantum at hfirst
        split at hfirst
        next ha hb hc hd => simp [ha, hb, hc, hd]
        next ha hb hc hd =>
          dsimp only at hfirst
          split at hfirst
          next hpad => simp [ha, hb, hc, hpad.2]
          next => cases hfirst
        next ha hb hc hd =>
          dsimp only at hfirst
          split at hfirst
          next hpad => simp [ha, hb, hpad.2.1, hpad.2.2]
          next => cases hfirst
        next => cases hfirst
      intro e he
      rcases List.mem_append.mp (show e ∈ [a, b, c, d] ++ rest from he) with
        hown | hrest
      · exact hquantum e hown
      · exact ih hothers e hrest
  | case4 text hnil hcons =>
      rw [decodeQuanta] at h
      · cases h
      · exact hnil
      · exact hcons

/-- The bytes of encodings. -/
def encodingBytes : Bytes :=
  base64Alphabet ++ [base64Pad, 0x2d, 0x5f]

namespace Base64Form

variable {form : Base64Form} {s text : Bytes} {breaks : Nat}

theorem mem_standard : ∀ b ∈ form.standard s,
    b ∈ base64Alphabet ++ [base64Pad] := by
  intro b hb
  rw [standard] at hb
  split at hb
  · rw [encodeStd_eq_raw] at hb
    rcases List.mem_append.mp hb with hraw | hpad
    · exact List.mem_append_left _ (mem_encodeRaw s b hraw)
    · rw [List.eq_of_mem_replicate hpad]
      exact List.mem_append_right _ (List.mem_singleton_self _)
  · exact List.mem_append_left _ (mem_encodeRaw s b hb)

theorem mem_body : ∀ b ∈ form.body s, b ∈ encodingBytes := by
  have hstandard : ∀ b ∈ base64Alphabet ++ [base64Pad],
      b ∈ encodingBytes ∧ urlSafeDigit b ∈ encodingBytes := by
    have hall : ∀ b ∈ base64Alphabet ++ [base64Pad],
        (encodingBytes.elem b && encodingBytes.elem (urlSafeDigit b)) = true :=
      List.all_eq_true.mp (by decide)
    intro b hb
    simpa using hall b hb
  intro b hb
  rw [body] at hb
  split at hb
  · obtain ⟨digit, hdigit, rfl⟩ := List.mem_map.mp hb
    exact (hstandard digit (mem_standard digit hdigit)).2
  · exact (hstandard b (mem_standard b hb)).1

/-- Either alphabet translates to the standard one. -/
theorem map_standardDigit_body :
    (form.body s).map standardDigit = form.standard s := by
  have hback : ∀ b ∈ base64Alphabet ++ [base64Pad],
      standardDigit b = b ∧ standardDigit (urlSafeDigit b) = b := by
    have hall : ∀ b ∈ base64Alphabet ++ [base64Pad],
        (standardDigit b == b && standardDigit (urlSafeDigit b) == b) = true :=
      List.all_eq_true.mp (by decide)
    intro b hb
    simpa using hall b hb
  have hself : ∀ f : UInt8 → UInt8, (∀ b ∈ form.standard s, f b = b) →
      (form.standard s).map f = form.standard s := by
    intro f hf
    rw [List.map_congr_left hf, List.map_id']
  rw [body]
  split
  · rw [List.map_map]
    exact hself _ fun b hb => (hback b (mem_standard b hb)).2
  · exact hself _ fun b hb => (hback b (mem_standard b hb)).1

theorem length_body : (form.body s).length = (form.standard s).length := by
  rw [← map_standardDigit_body, List.length_map]

/-- Filled up to whole quanta, the encoding is the padded one. -/
theorem standard_filled : form.standard s ++
    List.replicate ((4 - (form.standard s).length % 4) % 4) base64Pad =
      encodeStd s := by
  rw [standard]
  split
  · rw [encodeStd_length_mod]
    simp
  · exact (encodeStd_eq_raw s).symm

theorem length_lt_standard (h : s ≠ []) :
    s.length < (form.standard s).length := by
  have hraw := length_lt_encodeRaw h
  rw [standard]
  split
  · rw [encodeStd_eq_raw, List.length_append]
    omega
  · exact hraw

/-- Bytes without lines to break are none. -/
theorem ne_nil_of_breaks {lines : List Bytes}
    (hlines : lines.flatten = form.body s) (h : 0 < lines.length - 1)
    (hne : ∀ line ∈ lines, line ≠ []) : s ≠ [] := by
  rintro rfl
  have hempty : form.body [] = [] := by
    obtain ⟨urlSafe, padded, crlf⟩ := form
    cases urlSafe <;> cases padded <;> rfl
  rw [hempty, List.flatten_eq_nil_iff] at hlines
  cases lines with
  | nil => simp at h
  | cons line rest =>
      exact hne line List.mem_cons_self (hlines line List.mem_cons_self)

end Base64Form

end Forms

end Go

import XrayChecker.Go.Text

/-
How far texts that are put together can be taken apart again: decimal numbers
before a dash, runes replaced one by one, and surrounding space.
-/

namespace Go

theorem not_mem_itoa {c : Char} (hc : c.isDigit = false) (n : Nat) :
    c ∉ itoa n := by
  intro hmem
  have hdigit := Nat.isDigit_of_mem_toDigits (by omega) (by omega) hmem
  rw [hc] at hdigit
  contradiction

theorem itoa_injective {n m : Nat} (h : itoa n = itoa m) : n = m := by
  have hvalue := congrArg (Nat.ofDigitChars 10 · 0) h
  simpa [itoa] using hvalue

theorem itoaInt_injective {n m : Int} (h : itoaInt n = itoaInt m) : n = m := by
  have hhead : ∀ (k : Nat) (rest : Text), itoa k ≠ '-' :: rest := by
    intro k rest heq
    apply @not_mem_itoa '-' (by decide) k
    rw [heq]
    exact List.mem_cons_self
  unfold itoaInt at h
  split at h
  · split at h
    · have habs := itoa_injective (List.cons.inj h).2
      omega
    · exact absurd h.symm (hhead _ _)
  · split at h
    · exact absurd h (hhead _ _)
    · have habs := itoa_injective h
      omega

/-- Two texts without a rune are the same when they are cut at it. -/
theorem append_cons_cancel {a b restA restB : Text} {c : Char} (ha : c ∉ a)
    (hb : c ∉ b) (h : a ++ c :: restA = b ++ c :: restB) :
    a = b ∧ restA = restB := by
  induction a generalizing b with
  | nil =>
      cases b with
      | nil => exact ⟨rfl, (List.cons.inj h).2⟩
      | cons d rest =>
          rw [(List.cons.inj h).1] at hb
          exact absurd List.mem_cons_self hb
  | cons d rest ih =>
      cases b with
      | nil =>
          rw [← (List.cons.inj h).1] at ha
          exact absurd List.mem_cons_self ha
      | cons e other =>
          obtain ⟨hhead, htail⟩ := List.cons.inj h
          rw [List.mem_cons, not_or] at ha hb
          obtain ⟨hrest, hafter⟩ := ih ha.2 hb.2 htail
          exact ⟨by rw [hhead, hrest], hafter⟩

/-- A number, a dash and what follows: the number can be read back, also when
it is negative. -/
theorem itoaInt_dash_inj {n m : Int} {restN restM : Text}
    (h : itoaInt n ++ '-' :: restN = itoaInt m ++ '-' :: restM) :
    n = m ∧ restN = restM := by
  have hfree : ∀ k : Nat, '-' ∉ itoa k := not_mem_itoa (by decide)
  have hhead : ∀ (k : Nat) (rest after : Text),
      itoa k ++ after ≠ '-' :: rest := by
    intro k rest after heq
    cases hdigits : itoa k with
    | nil => exact Nat.toDigits_ne_nil hdigits
    | cons d digits =>
        apply hfree k
        rw [hdigits] at heq ⊢
        rw [(List.cons.inj heq).1]
        exact List.mem_cons_self
  have hsame : itoaInt n = itoaInt m ∧ restN = restM := by
    unfold itoaInt at h ⊢
    split
    · rw [if_pos (by assumption)] at h
      split
      · rw [if_pos (by assumption)] at h
        obtain ⟨hdigits, hrest⟩ :=
          append_cons_cancel (hfree _) (hfree _) (List.cons.inj h).2
        exact ⟨by rw [hdigits], hrest⟩
      · rw [if_neg (by assumption)] at h
        exact absurd h.symm (hhead _ _ _)
    · rw [if_neg (by assumption)] at h
      split
      · rw [if_pos (by assumption)] at h
        exact absurd h (hhead _ _ _)
      · rw [if_neg (by assumption)] at h
        exact append_cons_cancel (hfree _) (hfree _) h
  exact ⟨itoaInt_injective hsame.1, hsame.2⟩

/-- A replacer of single runes by single runes works rune by rune. -/
theorem replacer_runes (pairs : List (Char × Char)) (s : Text) :
    replacer (pairs.map fun pair => ([pair.1], [pair.2])) s =
      s.map fun c => ((pairs.find? (·.1 = c)).map (·.2)).getD c := by
  have hmatch : ∀ (c : Char) (rest : Text),
      matchPair (pairs.map fun pair => ([pair.1], [pair.2])) (c :: rest) =
        (pairs.find? (·.1 = c)).map fun pair => ([pair.1], [pair.2]) := by
    intro c rest
    rw [matchPair, List.find?_map]
    congr 2
    funext pair
    rw [Bool.eq_iff_iff]
    simp [List.isPrefixOf]
  unfold replacer
  induction s with
  | nil => rfl
  | cons c rest ih =>
      rw [replaceScan, hmatch, List.map_cons, ← ih]
      cases pairs.find? (·.1 = c) with
      | none => rfl
      | some pair => rfl

/-- A text is trimmed when it neither starts nor ends with a space. -/
theorem trimSpace_eq_self_iff {s : Text} :
    trimSpace s = s ↔
      (∀ c ∈ s.head?, isSpace c = false) ∧
        ∀ c ∈ s.getLast?, isSpace c = false := by
  constructor
  · intro h
    constructor
    · intro c hc
      have hfront := congrArg (List.dropWhile isSpace) h
      rw [trimSpace, dropWhile_rdropWhile_dropWhile, ← trimSpace, h] at hfront
      have hhead := List.head?_dropWhile_not isSpace s
      rw [← hfront, Option.mem_def.mp hc] at hhead
      simpa using hhead
    · intro c hc
      obtain ⟨hne, rfl⟩ := List.mem_getLast?_eq_getLast hc
      have hlast : ∀ (hl : trimSpace s ≠ []),
          ¬isSpace ((trimSpace s).getLast hl) = true :=
        List.rdropWhile_last_not isSpace (s.dropWhile isSpace)
      rw [h] at hlast
      simpa using hlast hne
  · rintro ⟨hhead, hlast⟩
    have hfront : s.dropWhile isSpace = s := by
      cases s with
      | nil => rfl
      | cons c rest =>
          rw [List.dropWhile_cons_of_neg]
          simpa using hhead c rfl
    rw [trimSpace, hfront, List.rdropWhile_eq_self_iff]
    intro hne
    simpa using hlast _ (List.getLast?_eq_getLast_of_ne_nil hne)

/-- A text without spaces is trimmed. -/
theorem trimSpace_of_no_space {s : Text} (h : ∀ c ∈ s, isSpace c = false) :
    trimSpace s = s :=
  trimSpace_eq_self_iff.mpr
    ⟨fun c hc => h c (List.mem_of_mem_head? hc),
      fun c hc => h c (List.mem_of_mem_getLast? hc)⟩

theorem isSpace_of_isDigit {c : Char} (h : c.isDigit = true) :
    isSpace c = false := by
  have hrange : 48 ≤ c.toNat ∧ c.toNat ≤ 57 := by
    simpa [Char.isDigit, UInt32.le_iff_toNat_le] using h
  simp only [isSpace, Bool.or_eq_false_iff, Bool.and_eq_false_iff,
    decide_eq_false_iff_not, beq_eq_false_iff_ne]
  omega

end Go

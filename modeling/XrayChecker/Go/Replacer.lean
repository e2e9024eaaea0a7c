import XrayChecker.Go.Text

/-
What a replacer writes, by the places it rewrites: an induction over the scan,
the equations at a place where a pair matches and where none does, and what of
the text is still to be found afterwards.
-/

namespace Go

variable {pairs : List (Text × Text)}

theorem replaceScan_skip (pairs : List (Text × Text)) (skip : Nat) (s : Text) :
    replaceScan pairs skip s = replacer pairs (s.drop skip) := by
  induction s generalizing skip with
  | nil => cases skip <;> rfl
  | cons c rest ih =>
      cases skip with
      | zero => rfl
      | succ skip =>
          rw [replaceScan, ih]
          rfl

@[simp] theorem replacer_nil (pairs : List (Text × Text)) :
    replacer pairs [] = [] :=
  rfl

/-- At a place where a pair matches, its new text is written and the scan goes
on after the old one. -/
theorem replacer_taken {old new rest : Text} (hold : old ≠ [])
    (h : matchPair pairs (old ++ rest) = some (old, new)) :
    replacer pairs (old ++ rest) = new ++ replacer pairs rest := by
  cases old with
  | nil => exact absurd rfl hold
  | cons c tail =>
      rw [List.cons_append] at h ⊢
      rw [replacer, replaceScan, h]
      change new ++ replaceScan pairs (tail.length + 1 - 1) (tail ++ rest) = _
      rw [replaceScan_skip, Nat.add_sub_cancel, List.drop_left]

/-- Where no pair matches, the rune stays. -/
theorem replacer_kept {c : Char} {rest : Text}
    (h : matchPair pairs (c :: rest) = none) :
    replacer pairs (c :: rest) = c :: replacer pairs rest := by
  rw [replacer, replaceScan, h]
  rfl

/-- Induction over the places the scan stops at. -/
theorem replacer_induction {motive : Text → Text → Prop}
    (hpairs : ∀ pair ∈ pairs, pair.1 ≠ []) (nil : motive [] [])
    (taken : ∀ old new rest, (old, new) ∈ pairs →
      motive rest (replacer pairs rest) →
        motive (old ++ rest) (new ++ replacer pairs rest))
    (kept : ∀ c rest, matchPair pairs (c :: rest) = none →
      motive rest (replacer pairs rest) →
        motive (c :: rest) (c :: replacer pairs rest))
    (s : Text) : motive s (replacer pairs s) := by
  induction hn : s.length using Nat.strong_induction_on generalizing s with
  | _ n ih =>
    cases s with
    | nil => exact nil
    | cons c rest =>
        cases hmatch : matchPair pairs (c :: rest) with
        | none =>
            rw [replacer_kept hmatch]
            refine kept c rest hmatch (ih rest.length ?_ rest rfl)
            rw [← hn]
            exact Nat.lt_succ_self _
        | some pair =>
            obtain ⟨old, new⟩ := pair
            have hmem : (old, new) ∈ pairs := List.mem_of_find?_eq_some hmatch
            have hfront := List.find?_some hmatch
            obtain ⟨tail, htail⟩ := List.isPrefixOf_iff_prefix.mp hfront
            have hold : old ≠ [] := hpairs _ hmem
            change old ++ tail = c :: rest at htail
            rw [← htail] at hmatch ⊢
            rw [replacer_taken hold hmatch]
            refine taken old new tail hmem (ih tail.length ?_ tail rfl)
            rw [← hn, ← htail, List.length_append]
            have := List.length_pos_of_ne_nil hold
            omega

/-- What is written was in the text or comes from a new text. -/
theorem mem_replacer (hpairs : ∀ pair ∈ pairs, pair.1 ≠ []) {s : Text}
    {c : Char} (h : c ∈ replacer pairs s) :
    c ∈ s ∨ ∃ pair ∈ pairs, c ∈ pair.2 := by
  revert h
  refine replacer_induction
    (motive := fun s out => c ∈ out → c ∈ s ∨ ∃ pair ∈ pairs, c ∈ pair.2)
    hpairs ?_ ?_ ?_ s
  · exact fun h => Or.inl h
  · intro old new rest hpair ih h
    rcases List.mem_append.mp h with hnew | hrest
    · exact Or.inr ⟨_, hpair, hnew⟩
    · exact (ih hrest).imp_left (List.mem_append_right _)
  · intro kept rest _ ih h
    rcases List.mem_cons.mp h with rfl | hrest
    · exact Or.inl List.mem_cons_self
    · exact (ih hrest).imp_left (List.mem_cons_of_mem _)

/-- Texts that are not longer than what they replace make nothing longer. -/
theorem length_replacer_le (hpairs : ∀ pair ∈ pairs, pair.1 ≠ [])
    (hshort : ∀ pair ∈ pairs, pair.2.length ≤ pair.1.length) (s : Text) :
    (replacer pairs s).length ≤ s.length := by
  refine replacer_induction (motive := fun s out => out.length ≤ s.length)
    hpairs (Nat.le_refl _) ?_ ?_ s
  · intro old new rest hpair ih
    rw [List.length_append, List.length_append]
    exact Nat.add_le_add (hshort _ hpair) ih
  · intro c rest _ ih
    exact Nat.succ_le_succ ih

section Found

variable {α : Type} {needle : List α} {view : Char → α}

theorem infix_of_disjoint {front rest : List α} (hne : needle ≠ [])
    (hfront : ∀ c ∈ front, c ∉ needle) (h : needle <:+: front ++ rest) :
    needle <:+: rest := by
  induction front with
  | nil => exact h
  | cons c front ih =>
      rw [List.cons_append, List.infix_cons_iff] at h
      rcases h with hhead | htail
      · cases needle with
        | nil => exact absurd rfl hne
        | cons first needle =>
            rw [List.cons_prefix_cons] at hhead
            exact absurd (hhead.1 ▸ List.mem_cons_self)
              (hfront c List.mem_cons_self)
      · exact ih (fun c hc => hfront c (List.mem_cons_of_mem _ hc)) htail

/-- What no new text has a rune of is found at the front of the result only
where it was in the text. -/
theorem prefix_of_replacer (hpairs : ∀ pair ∈ pairs, pair.1 ≠ [])
    (hnew : ∀ pair ∈ pairs, pair.2 ≠ []) (s : Text) :
    ∀ needle : List α,
      (∀ pair ∈ pairs, ∀ c ∈ pair.2, view c ∉ needle) →
      needle <+: (replacer pairs s).map view → needle <+: s.map view := by
  refine replacer_induction (motive := fun s out => ∀ needle : List α,
    (∀ pair ∈ pairs, ∀ c ∈ pair.2, view c ∉ needle) →
      needle <+: out.map view → needle <+: s.map view) hpairs ?_ ?_ ?_ s
  · exact fun _ _ h => h
  · intro old new rest hpair _ needle hneedle h
    cases needle with
    | nil => exact List.nil_prefix
    | cons first needle =>
        cases new with
        | nil => exact absurd rfl (hnew _ hpair)
        | cons c new =>
            rw [List.cons_append, List.map_cons, List.cons_prefix_cons] at h
            exact absurd (h.1 ▸ List.mem_cons_self)
              (hneedle _ hpair c List.mem_cons_self)
  · intro c rest _ ih needle hneedle h
    cases needle with
    | nil => exact List.nil_prefix
    | cons first needle =>
        rw [List.map_cons, List.cons_prefix_cons] at h ⊢
        exact ⟨h.1, ih needle
          (fun pair hpair c hc hmem =>
            hneedle pair hpair c hc (List.mem_cons_of_mem _ hmem)) h.2⟩

theorem infix_of_replacer (hpairs : ∀ pair ∈ pairs, pair.1 ≠ [])
    (hnew : ∀ pair ∈ pairs, pair.2 ≠ []) (hne : needle ≠ [])
    (hneedle : ∀ pair ∈ pairs, ∀ c ∈ pair.2, view c ∉ needle) (s : Text)
    (h : needle <:+: (replacer pairs s).map view) :
    needle <:+: s.map view := by
  revert h
  refine replacer_induction (motive := fun s out =>
    needle <:+: out.map view → needle <:+: s.map view) hpairs id ?_ ?_ s
  · intro old new rest hpair ih h
    rw [List.map_append] at h ⊢
    have hrest : needle <:+: (replacer pairs rest).map view := by
      refine infix_of_disjoint hne ?_ h
      intro c hc
      obtain ⟨rune, hrune, rfl⟩ := List.mem_map.mp hc
      exact hneedle _ hpair rune hrune
    exact (ih hrest).trans (List.suffix_append _ _).isInfix
  · intro c rest hkept ih h
    rw [List.map_cons, List.infix_cons_iff] at h
    rcases h with hhead | htail
    · have hwhole : needle <+: (c :: rest).map view :=
        prefix_of_replacer hpairs hnew (c :: rest) needle hneedle
          (by rw [replacer_kept hkept]; exact hhead)
      exact hwhole.isInfix
    · exact (ih htail).trans (List.suffix_cons _ _).isInfix

end Found

end Go

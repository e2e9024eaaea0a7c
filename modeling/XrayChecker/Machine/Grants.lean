import Mathlib.Data.List.Nodup
import Mathlib.Data.List.Dedup

/-
First come, first served.  Claimants come one after the other, each with at
most one good it wants; a good goes to the first who wants it, and a claimant
who gets nothing keeps a label of its own.
-/

namespace Machine

variable {A B K : Type} [DecidableEq B]

/-- What a claimant gets after the earlier ones were served. -/
def granted (wants : A → Option B) (earlier : List A) (a : A) : Option B :=
  if wants a ∈ earlier.map wants then none else wants a

/-- Every claimant with what it got. -/
def served (wants : A → Option B) : List A → List A → List (A × Option B)
  | _, [] => []
  | earlier, a :: rest =>
      (a, granted wants earlier a) :: served wants (earlier ++ [a]) rest

/-- The label a claimant ends with: that of its good, or its own. -/
def finalLabel (own : A → K) (label : B → K) (got : A × Option B) : K :=
  match got.2 with
  | some b => label b
  | none => own got.1

variable {wants : A → Option B}

theorem granted_eq_some_iff {earlier : List A} {a : A} {b : B} :
    granted wants earlier a = some b ↔
      wants a = some b ∧ ∀ other ∈ earlier, wants other ≠ some b := by
  unfold granted
  by_cases hearlier : wants a ∈ earlier.map wants
  · rw [if_pos hearlier]
    constructor
    · intro hnone
      cases hnone
    · rintro ⟨hwants, hothers⟩
      obtain ⟨other, hmem, hsame⟩ := List.mem_map.mp hearlier
      exact absurd (hsame.trans hwants) (hothers other hmem)
  · rw [if_neg hearlier]
    constructor
    · intro hwants
      refine ⟨hwants, ?_⟩
      intro other hmem hother
      exact hearlier (List.mem_map.mpr ⟨other, hmem, hother.trans hwants.symm⟩)
    · exact And.left

theorem granted_eq_none_iff {earlier : List A} {a : A} :
    granted wants earlier a = none ↔
      ∀ b, wants a = some b → ∃ other ∈ earlier, wants other = some b := by
  constructor
  · intro hnone b hwants
    by_contra hfree
    push Not at hfree
    have := granted_eq_some_iff.mpr ⟨hwants, hfree⟩
    rw [hnone] at this
    cases this
  · intro htaken
    cases hgot : granted wants earlier a with
    | none => rfl
    | some b =>
        obtain ⟨hwants, hothers⟩ := granted_eq_some_iff.mp hgot
        obtain ⟨other, hmem, hother⟩ := htaken b hwants
        exact absurd hother (hothers other hmem)

theorem served_append (wants : A → Option B) (earlier claimants : List A)
    (a : A) :
    served wants earlier (claimants ++ [a]) =
      served wants earlier claimants ++
        [(a, granted wants (earlier ++ claimants) a)] := by
  induction claimants generalizing earlier with
  | nil => simp [served]
  | cons head rest ih => simp [served, ih]

/-- The claimants are served in their order. -/
@[simp] theorem served_map_fst (wants : A → Option B)
    (earlier claimants : List A) :
    (served wants earlier claimants).map Prod.fst = claimants := by
  induction claimants generalizing earlier with
  | nil => rfl
  | cons head rest ih => simp [served, ih]

theorem mem_served {earlier claimants : List A} {got : A × Option B} :
    got ∈ served wants earlier claimants ↔
      ∃ before after, claimants = before ++ got.1 :: after ∧
        got.2 = granted wants (earlier ++ before) got.1 := by
  induction claimants generalizing earlier with
  | nil => simp [served]
  | cons head rest ih =>
      rw [served, List.mem_cons, ih]
      constructor
      · rintro (rfl | ⟨before, after, hrest, hgot⟩)
        · exact ⟨[], rest, rfl, by simp⟩
        · exact ⟨head :: before, after, by simp [hrest], by simpa using hgot⟩
      · rintro ⟨before, after, hsplit, hgot⟩
        cases before with
        | nil =>
            obtain ⟨hhead, -⟩ := List.cons.inj hsplit
            left
            apply Prod.ext hhead.symm
            simpa [hhead] using hgot
        | cons first before =>
            obtain ⟨rfl, hrest⟩ := List.cons.inj hsplit
            exact Or.inr ⟨before, after, hrest, by simpa using hgot⟩

/-- A good that is wanted goes to the first who wants it. -/
theorem served_of_wanted {claimants : List A} {a : A} {b : B}
    (ha : a ∈ claimants) (hwants : wants a = some b) :
    ∃ first, (first, some b) ∈ served wants [] claimants := by
  have hfound : (claimants.find? (fun c => decide (wants c = some b))).isSome
      := by
    rw [List.find?_isSome]
    exact ⟨a, ha, decide_eq_true hwants⟩
  obtain ⟨first, hfirst⟩ := Option.isSome_iff_exists.mp hfound
  obtain ⟨hwanted, before, after, hsplit, hothers⟩ :=
    List.find?_eq_some_iff_append.mp hfirst
  refine ⟨first, mem_served.mpr ⟨before, after, hsplit, Eq.symm ?_⟩⟩
  apply granted_eq_some_iff.mpr
  refine ⟨of_decide_eq_true hwanted, ?_⟩
  intro other hother
  simpa using hothers other (by simpa using hother)

/-- A good goes to one claimant only. -/
theorem served_unique {claimants : List A} {a a' : A} {b : B}
    (ha : (a, some b) ∈ served wants [] claimants)
    (ha' : (a', some b) ∈ served wants [] claimants) : a = a' := by
  obtain ⟨before, after, hsplit, hgot⟩ := mem_served.mp ha
  obtain ⟨before', after', hsplit', hgot'⟩ := mem_served.mp ha'
  simp only [List.nil_append] at hsplit hsplit' hgot hgot'
  obtain ⟨hwants, hothers⟩ := granted_eq_some_iff.mp hgot.symm
  obtain ⟨hwants', hothers'⟩ := granted_eq_some_iff.mp hgot'.symm
  rcases List.append_eq_append_iff.mp (hsplit.symm.trans hsplit') with
    ⟨between, hbefore', hrest⟩ | ⟨between, hbefore, hrest⟩
  · cases between with
    | nil => exact (List.cons.inj hrest).1
    | cons head between =>
        obtain ⟨rfl, -⟩ := List.cons.inj hrest
        exact absurd hwants (hothers' a (by simp [hbefore']))
  · cases between with
    | nil => exact (List.cons.inj hrest).1.symm
    | cons head between =>
        obtain ⟨rfl, -⟩ := List.cons.inj hrest
        exact absurd hwants' (hothers a' (by simp [hbefore]))

/-- The labels are distinct exactly if no claimant that is left with its own
label has the label of a good that somebody wants. -/
theorem finalLabel_nodup_iff {own : A → K} {label : B → K}
    {claimants : List A} (hown : (claimants.map own).Nodup)
    (hlabel : ∀ a ∈ claimants, ∀ b, wants a = some b →
      ∀ a' ∈ claimants, ∀ b', wants a' = some b' → label b = label b' →
        b = b') :
    ((served wants [] claimants).map (finalLabel own label)).Nodup ↔
      ∀ a, (a, none) ∈ served wants [] claimants →
        ∀ a' ∈ claimants, ∀ b, wants a' = some b → own a ≠ label b := by
  constructor
  · intro hdistinct a hkeeps a' ha' b hwants hsame
    obtain ⟨first, hfirst⟩ := served_of_wanted ha' hwants
    have := List.inj_on_of_nodup_map hdistinct hkeeps hfirst
      (by simpa [finalLabel] using hsame)
    simp at this
  · intro hfree
    have hnodup : (served wants [] claimants).Nodup := by
      apply List.Nodup.of_map Prod.fst
      rw [served_map_fst]
      exact List.Nodup.of_map own hown
    have hmem : ∀ a r, (a, r) ∈ served wants [] claimants →
        a ∈ claimants ∧ ∀ b, r = some b → wants a = some b := by
      intro a r hgot
      obtain ⟨before, after, hsplit, hgranted⟩ := mem_served.mp hgot
      refine ⟨by simp [hsplit], ?_⟩
      rintro b rfl
      exact (granted_eq_some_iff.mp hgranted.symm).1
    apply List.Nodup.map_on _ hnodup
    rintro ⟨a, got⟩ ha ⟨a', got'⟩ ha' hsame
    obtain ⟨hin, hwants⟩ := hmem a got ha
    obtain ⟨hin', hwants'⟩ := hmem a' got' ha'
    cases got with
    | none =>
        cases got' with
        | none =>
            have := List.inj_on_of_nodup_map hown hin hin'
              (by simpa [finalLabel] using hsame)
            rw [this]
        | some b =>
            exact absurd (by simpa [finalLabel] using hsame)
              (hfree a ha a' hin' b (hwants' b rfl))
    | some b =>
        cases got' with
        | none =>
            exact absurd (by simpa [finalLabel] using hsame.symm)
              (hfree a' ha' a hin b (hwants b rfl))
        | some b' =>
            have hgoods : b = b' := hlabel a hin b (hwants b rfl) a' hin' b'
              (hwants' b' rfl) (by simpa [finalLabel] using hsame)
            subst hgoods
            rw [served_unique ha ha']

end Machine

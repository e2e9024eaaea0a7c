import XrayChecker.Go.Text

/-
The most frequent of several codes, among those frequent enough: what a loop
over the codes in order ends with.
-/

namespace Go

variable (required : Nat) (count : Text → Nat)

/-- The step of a loop over codes in order that keeps the most frequent one. -/
def selectStep (selected : Option Text) (code : Text) : Option Text :=
  if count code < required then selected
  else
    match selected with
    | none => some code
    | some best => if count code > count best then some code else some best

/-- The choice among the codes seen: none of them is frequent enough, or the
first of the most frequent ones. -/
def Chosen (seen : List Text) : Option Text → Prop
  | none => ∀ code ∈ seen, count code < required
  | some best =>
      best ∈ seen ∧ required ≤ count best ∧
        ∀ code ∈ seen,
          count code < count best ∨ count code = count best ∧ best ≤ code

variable {required count}

theorem chosen_step {seen : List Text} {selected : Option Text} {code : Text}
    (h : Chosen required count seen selected)
    (hlater : ∀ other ∈ seen, other ≤ code) :
    Chosen required count (seen ++ [code])
      (selectStep required count selected code) := by
  unfold selectStep
  split
  · rename_i hfew
    cases selected with
    | none =>
        intro other hother
        rcases List.mem_append.mp hother with hold | hnew
        · exact h other hold
        · rw [List.mem_singleton.mp hnew]
          exact hfew
    | some best =>
        obtain ⟨hmem, hbest, hmost⟩ := h
        refine ⟨List.mem_append_left _ hmem, hbest, ?_⟩
        intro other hother
        rcases List.mem_append.mp hother with hold | hnew
        · exact hmost other hold
        · rw [List.mem_singleton.mp hnew]
          exact Or.inl (by omega)
  · rename_i hmany
    cases selected with
    | none =>
        refine ⟨by simp, by omega, ?_⟩
        intro other hother
        rcases List.mem_append.mp hother with hold | hnew
        · have hfew := h other hold
          exact Or.inl (by omega)
        · rw [List.mem_singleton.mp hnew]
          exact Or.inr ⟨rfl, le_rfl⟩
    | some best =>
        obtain ⟨hmem, hbest, hmost⟩ := h
        simp only
        split
        · rename_i hmore
          refine ⟨by simp, by omega, ?_⟩
          intro other hother
          rcases List.mem_append.mp hother with hold | hnew
          · rcases hmost other hold with hless | ⟨hsame, -⟩
            · exact Or.inl (by omega)
            · exact Or.inl (by omega)
          · rw [List.mem_singleton.mp hnew]
            exact Or.inr ⟨rfl, le_rfl⟩
        · rename_i hnotMore
          refine ⟨List.mem_append_left _ hmem, hbest, ?_⟩
          intro other hother
          rcases List.mem_append.mp hother with hold | hnew
          · exact hmost other hold
          · rw [List.mem_singleton.mp hnew]
            -- The codes come in order, so a tie is won by the one seen first.
            rcases Nat.lt_or_ge (count code) (count best) with hless | hmore
            · exact Or.inl hless
            · exact Or.inr ⟨by omega, hlater best hmem⟩

theorem chosen_foldl {codes : List Text} (hsorted : codes.Pairwise (· ≤ ·)) :
    Chosen required count codes
      (codes.foldl (selectStep required count) none) := by
  have hgeneral : ∀ (rest seen : List Text) (selected : Option Text),
      (seen ++ rest).Pairwise (· ≤ ·) →
      Chosen required count seen selected →
      Chosen required count (seen ++ rest)
        (rest.foldl (selectStep required count) selected) := by
    intro rest
    induction rest with
    | nil =>
        intro seen selected _ h
        simpa using h
    | cons code rest ih =>
        intro seen selected hsorted h
        have hlater : ∀ other ∈ seen, other ≤ code := by
          intro other hother
          exact (List.pairwise_append.mp hsorted).2.2 other hother code
            List.mem_cons_self
        have hrest := ih (seen ++ [code]) _ (by simpa using hsorted)
          (chosen_step h hlater)
        simpa using hrest
  have hempty : Chosen required count [] none := fun _ h => nomatch h
  simpa using hgeneral codes [] none hsorted hempty

section Items

variable {α : Type} (required : Nat) (key : α → Text) (items : List α)

/-- How many items have the code. -/
def occurrences (code : Text) : Nat :=
  (items.filter fun item => key item = code).length

/-- The most frequent code of the items that at least `required` of them have,
the first in order on a tie. -/
def mostFrequent : Option Text :=
  (sortStrings (items.map key).dedup).foldl
    (selectStep required (occurrences key items)) none

variable {required key items}

theorem mem_sorted_codes {code : Text} :
    code ∈ sortStrings (items.map key).dedup ↔
      0 < occurrences key items code := by
  rw [sortStrings, List.mem_insertionSort, List.mem_dedup, List.mem_map,
    occurrences, List.length_pos_iff_exists_mem]
  simp only [List.mem_filter, decide_eq_true_eq]

/-- The choice is right among all codes, not only those that occur. -/
theorem mostFrequent_spec (hrequired : 0 < required) :
    match mostFrequent required key items with
    | none => ∀ code, occurrences key items code < required
    | some best =>
        required ≤ occurrences key items best ∧
          ∀ code,
            occurrences key items code < occurrences key items best ∨
              occurrences key items code = occurrences key items best ∧
                best ≤ code := by
  have hchosen : Chosen required (occurrences key items)
      (sortStrings (items.map key).dedup) (mostFrequent required key items) :=
    chosen_foldl (List.pairwise_insertionSort _ _)
  cases hselected : mostFrequent required key items with
  | none =>
      rw [hselected] at hchosen
      intro code
      by_cases hseen : 0 < occurrences key items code
      · exact hchosen code (mem_sorted_codes.mpr hseen)
      · omega
  | some best =>
      rw [hselected] at hchosen
      obtain ⟨-, hmany, hmost⟩ := hchosen
      refine ⟨hmany, fun code => ?_⟩
      by_cases hseen : 0 < occurrences key items code
      · exact hmost code (mem_sorted_codes.mpr hseen)
      · exact Or.inl (by omega)

theorem occurrences_perm {other : List α} (h : items.Perm other)
    (code : Text) : occurrences key items code = occurrences key other code :=
  (h.filter _).length_eq

end Items

end Go

import Mathlib.Data.List.Forall2

/-
Two lists whose items belong together, one by one.
-/

namespace Go

variable {α β : Type} {R : β → α → Prop}

/-- The items a partial function is defined on, beside its values there. -/
theorem forall₂_filterMap {f : α → Option β} (items : List α)
    (h : ∀ a b, f a = some b → R b a) :
    List.Forall₂ R (items.filterMap f) (items.filter fun a => (f a).isSome) := by
  induction items with
  | nil => exact .nil
  | cons a rest ih =>
      cases hitem : f a with
      | none => simpa [hitem] using ih
      | some b => simpa [hitem] using ⟨h a b hitem, ih⟩

theorem exists_of_mem_right {left : List β} {right : List α}
    (h : List.Forall₂ R left right) {a : α} (ha : a ∈ right) :
    ∃ b ∈ left, R b a := by
  induction h with
  | nil => cases ha
  | cons hfirst _ ih =>
      rcases List.mem_cons.mp ha with rfl | hrest
      · exact ⟨_, List.mem_cons_self, hfirst⟩
      · obtain ⟨b, hb, hR⟩ := ih hrest
        exact ⟨b, List.mem_cons_of_mem _ hb, hR⟩

theorem exists_of_mem_left {left : List β} {right : List α}
    (h : List.Forall₂ R left right) {b : β} (hb : b ∈ left) :
    ∃ a ∈ right, R b a := by
  induction h with
  | nil => cases hb
  | cons hfirst _ ih =>
      rcases List.mem_cons.mp hb with rfl | hrest
      · exact ⟨_, List.mem_cons_self, hfirst⟩
      · obtain ⟨a, ha, hR⟩ := ih hrest
        exact ⟨a, List.mem_cons_of_mem _ ha, hR⟩

/-- Where items are told apart by what they belong to, what is distinct on the
right is distinct on the left. -/
theorem pairwise_left_of_nodup {left : List β} {right : List α}
    {S : β → β → Prop} (h : List.Forall₂ R left right) (hnodup : right.Nodup)
    (hS : ∀ b b' a a', R b a → R b' a' → a ≠ a' → S b b') :
    left.Pairwise S := by
  induction h with
  | nil => exact .nil
  | cons hfirst hrest ih =>
      rw [List.nodup_cons] at hnodup
      refine .cons ?_ (ih hnodup.2)
      intro b' hb'
      obtain ⟨a', ha', hR⟩ := exists_of_mem_left hrest hb'
      exact hS _ _ _ _ hfirst hR fun hsame => hnodup.1 (hsame ▸ ha')

end Go

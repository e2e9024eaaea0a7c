import Mathlib.Data.List.Nodup
import Mathlib.Data.List.Perm.Basic

/-
A loop that keeps an item unless an earlier one had its key: the first item of
every key, in their order.
-/

namespace Go

variable {α κ : Type} [DecidableEq κ] (key : α → κ)

/-- The loop; `seen` holds the keys already met. -/
def distinctFrom : List κ → List α → List α
  | _, [] => []
  | seen, item :: rest =>
      if seen.elem (key item) then distinctFrom seen rest
      else item :: distinctFrom (key item :: seen) rest

/-- The first item of every key. -/
def distinctBy (items : List α) : List α :=
  distinctFrom key [] items

theorem distinctFrom_sublist (seen : List κ) (items : List α) :
    (distinctFrom key seen items).Sublist items := by
  induction items generalizing seen with
  | nil => exact List.Sublist.refl _
  | cons item rest ih =>
      rw [distinctFrom]
      split
      · exact (ih seen).cons item
      · exact (ih _).cons_cons item

/-- The keys that are kept: those of the list that were not met before. -/
theorem mem_map_distinctFrom (seen : List κ) (items : List α) (k : κ) :
    k ∈ (distinctFrom key seen items).map key ↔
      k ∈ items.map key ∧ k ∉ seen := by
  induction items generalizing seen with
  | nil => simp [distinctFrom]
  | cons item rest ih =>
      rw [distinctFrom]
      by_cases hseen : key item ∈ seen
      · rw [if_pos (List.elem_iff.mpr hseen), ih, List.map_cons, List.mem_cons]
        constructor
        · rintro ⟨hrest, hnot⟩
          exact ⟨Or.inr hrest, hnot⟩
        · rintro ⟨rfl | hrest, hnot⟩
          · exact absurd hseen hnot
          · exact ⟨hrest, hnot⟩
      · rw [if_neg (by simpa using hseen), List.map_cons, List.mem_cons, ih,
          List.map_cons, List.mem_cons, List.mem_cons]
        by_cases hk : k = key item
        · simp [hk, hseen]
        · simp [hk]

theorem distinctFrom_nodup (seen : List κ) (items : List α) :
    ((distinctFrom key seen items).map key).Nodup := by
  induction items generalizing seen with
  | nil => exact List.nodup_nil
  | cons item rest ih =>
      rw [distinctFrom]
      split
      · exact ih seen
      · rw [List.map_cons, List.nodup_cons]
        refine ⟨?_, ih _⟩
        intro hagain
        exact ((mem_map_distinctFrom key _ rest _).mp hagain).2
          List.mem_cons_self

theorem distinctBy_sublist (items : List α) :
    (distinctBy key items).Sublist items :=
  distinctFrom_sublist key [] items

/-- No two kept items have one key. -/
theorem distinctBy_nodup (items : List α) :
    ((distinctBy key items).map key).Nodup :=
  distinctFrom_nodup key [] items

/-- Every key of the list is kept. -/
theorem mem_map_distinctBy (items : List α) (k : κ) :
    k ∈ (distinctBy key items).map key ↔ k ∈ items.map key := by
  simp [distinctBy, mem_map_distinctFrom]

/-- With a key that tells the items apart, exactly the items of the list are
kept. -/
theorem mem_distinctBy_of_injective (hkey : Function.Injective key)
    (items : List α) (item : α) :
    item ∈ distinctBy key items ↔ item ∈ items := by
  have h := mem_map_distinctBy key items (key item)
  rwa [List.mem_map_of_injective hkey, List.mem_map_of_injective hkey] at h

end Go

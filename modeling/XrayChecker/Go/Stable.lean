import Mathlib.Data.List.Sort
import Mathlib.Order.Defs.LinearOrder

/-
Stable sorting by a key, the greatest first: what such a sort keeps, and when
a list that is turned around is sorted back into what it was.
-/

namespace Go

variable {α κ : Type} [LinearOrder κ] (key : α → κ)

/-- `sort.SliceStable` by a key, the greatest first. -/
def sortDesc (items : List α) : List α :=
  items.insertionSort fun a b => key b ≤ key a

instance total_le_key : Std.Total fun a b : α => key b ≤ key a where
  total a b := le_total (key b) (key a)

instance trans_le_key : IsTrans α fun a b : α => key b ≤ key a where
  trans _ _ _ hab hbc := hbc.trans hab

theorem sortDesc_perm (items : List α) : (sortDesc key items).Perm items :=
  List.perm_insertionSort _ _

@[simp] theorem mem_sortDesc {items : List α} {a : α} :
    a ∈ sortDesc key items ↔ a ∈ items :=
  (sortDesc_perm key items).mem_iff

theorem sortDesc_sorted (items : List α) :
    (sortDesc key items).Pairwise fun a b => key b ≤ key a :=
  List.pairwise_insertionSort _ _

theorem filter_orderedInsert (a : α) (items : List α) (k : κ) :
    (items.orderedInsert (fun a b => key b ≤ key a) a).filter
        (fun item => key item = k) =
      (a :: items).filter fun item => key item = k := by
  induction items with
  | nil => rfl
  | cons b rest ih =>
      rw [List.orderedInsert_cons]
      split
      · rfl
      next hlt =>
        -- `b` stays in front of `a`, so its key is another one.
        have hne : key a ≠ key b := fun hsame => hlt (le_of_eq hsame.symm)
        rw [List.filter_cons, ih, List.filter_cons, List.filter_cons,
          List.filter_cons]
        by_cases hb : key b = k
        · have ha : key a ≠ k := fun ha => hne (ha.trans hb.symm)
          simp [ha]
        · simp [hb]

/-- Items of one key keep their order. -/
theorem sortDesc_fibre (items : List α) (k : κ) :
    (sortDesc key items).filter (fun item => key item = k) =
      items.filter fun item => key item = k := by
  induction items with
  | nil => rfl
  | cons a rest ih =>
      rw [sortDesc, List.insertionSort_cons, filter_orderedInsert]
      rw [sortDesc] at ih
      rw [List.filter_cons, ih, List.filter_cons]

variable {key}

/-- A sorted list is determined by its items of each key. -/
theorem eq_of_fibres {left right : List α}
    (hleft : left.Pairwise fun a b => key b ≤ key a)
    (hright : right.Pairwise fun a b => key b ≤ key a)
    (h : ∀ k, left.filter (fun item => key item = k) =
      right.filter fun item => key item = k) : left = right := by
  have hmem : ∀ a, a ∈ left ↔ a ∈ right := by
    intro a
    have hfibre := congrArg (a ∈ ·) (h (key a))
    simpa using hfibre
  induction left generalizing right with
  | nil =>
      cases right with
      | nil => rfl
      | cons b rest => exact absurd ((hmem b).mpr List.mem_cons_self) (by simp)
  | cons a rest ih =>
      cases right with
      | nil => exact absurd ((hmem a).mp List.mem_cons_self) (by simp)
      | cons b others =>
          rw [List.pairwise_cons] at hleft hright
          have hkey : key a = key b := by
            apply le_antisymm
            · rcases List.mem_cons.mp ((hmem a).mp List.mem_cons_self)
                with rfl | ha
              · exact le_rfl
              · exact hright.1 a ha
            · rcases List.mem_cons.mp ((hmem b).mpr List.mem_cons_self)
                with rfl | hb
              · exact le_rfl
              · exact hleft.1 b hb
          have hfirst := h (key a)
          rw [List.filter_cons_of_pos (by simp),
            List.filter_cons_of_pos (by simp [hkey])] at hfirst
          obtain ⟨rfl, htail⟩ := List.cons.inj hfirst
          have hrest : ∀ k, rest.filter (fun item => key item = k) =
              others.filter fun item => key item = k := by
            intro k
            by_cases hk : key a = k
            · rw [← hk]
              exact htail
            · have hother := h k
              rwa [List.filter_cons_of_neg (by simpa using hk),
                List.filter_cons_of_neg (by simpa using hk)] at hother
          have hsame : ∀ c, c ∈ rest ↔ c ∈ others := by
            intro c
            have hfibre := congrArg (c ∈ ·) (hrest (key c))
            simpa using hfibre
          rw [ih hleft.2 hright.2 hrest hsame]

theorem filter_swap (p q : α → Bool) (items : List α) :
    (items.filter p).filter q = (items.filter q).filter p := by
  rw [List.filter_filter, List.filter_filter]
  congr 1
  funext a
  exact Bool.and_comm _ _

/-- Sorting and leaving out items may be exchanged. -/
theorem sortDesc_filter (p : α → Bool) (items : List α) :
    (sortDesc key items).filter p = sortDesc key (items.filter p) := by
  apply eq_of_fibres ((sortDesc_sorted key items).filter p)
    (sortDesc_sorted key _)
  intro k
  rw [filter_swap, sortDesc_fibre, sortDesc_fibre, filter_swap]

/-- A sorted list that is turned around is sorted back, where the items of
each key read the same in both directions. -/
theorem sortDesc_reverse {items : List α}
    (hsorted : items.Pairwise fun a b => key b ≤ key a)
    (hmirror : ∀ k, (items.filter fun item => key item = k).reverse =
      items.filter fun item => key item = k) :
    sortDesc key items.reverse = items := by
  apply eq_of_fibres (sortDesc_sorted key _) hsorted
  intro k
  rw [sortDesc_fibre, List.filter_reverse, hmirror]

/-- Cutting a sorted list and leaving out its last items may be exchanged. -/
theorem filter_take_of_sorted {p : α → Bool} {items : List α}
    (hsorted : items.Pairwise fun a b => key b ≤ key a)
    (hup : ∀ a ∈ items, ∀ b ∈ items, key a ≤ key b → p a → p b) (n : Nat) :
    (items.take n).filter p = (items.filter p).take n := by
  induction items generalizing n with
  | nil => simp
  | cons a rest ih =>
      rw [List.pairwise_cons] at hsorted
      cases n with
      | zero => simp
      | succ n =>
          have hrest := ih hsorted.2
            (fun b hb c hc => hup b (List.mem_cons_of_mem _ hb) c
              (List.mem_cons_of_mem _ hc)) n
          by_cases ha : p a
          · simp [ha, hrest]
          · have hnone : rest.filter p = [] := by
              rw [List.filter_eq_nil_iff]
              intro b hb hpb
              exact ha (hup b (List.mem_cons_of_mem _ hb) a
                List.mem_cons_self (hsorted.1 b hb) hpb)
            simp [ha, hrest, hnone]

end Go

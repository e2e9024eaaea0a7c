import Mathlib.Algebra.BigOperators.Fin
import Mathlib.Algebra.Order.Ring.Unbundled.Rat
import Mathlib.Data.List.Sort

/-
Loops that file every item into one of several accumulators: what one of them
holds in the end, the first of the best items, and medians.
-/

namespace Go

section Filing

variable {α σ τ : Type} {step : σ → α → σ} {proj : σ → τ} {keep : α → Bool}
  {f : τ → α → τ}

/-- An accumulator that a loop changes only at the items of one kind holds what
these items make of it. -/
theorem foldl_project
    (h : ∀ s x, proj (step s x) = if keep x then f (proj s) x else proj s)
    (s : σ) (xs : List α) :
    proj (xs.foldl step s) = (xs.filter keep).foldl f (proj s) := by
  induction xs generalizing s with
  | nil => rfl
  | cons x rest ih =>
      rw [List.foldl_cons, ih, h, List.filter_cons]
      split
      · rw [List.foldl_cons]
      · rfl

/-- Every item is filed under exactly one of the keys. -/
theorem sum_countP_key {ι : Type} [Fintype ι] [DecidableEq ι] (key : α → ι)
    (kind : α → Bool) (xs : List α) :
    ∑ i, (xs.filter fun x => key x = i).countP kind = xs.countP kind := by
  induction xs with
  | nil => simp
  | cons x rest ih =>
      have hcons : ∀ i, ((x :: rest).filter fun x => key x = i).countP kind =
          (rest.filter fun x => key x = i).countP kind +
            (if key x = i then if kind x then 1 else 0 else 0) := by
        intro i
        by_cases hkey : key x = i
        · simp [hkey, List.countP_cons]
        · simp [hkey]
      simp only [hcons, Finset.sum_add_distrib, ih, Finset.sum_ite_eq,
        Finset.mem_univ, if_true, List.countP_cons]

/-- Items of two kinds that exclude each other are counted separately. -/
theorem countP_filter_or {either left right : α → Bool}
    (hor : ∀ x, either x = (left x || right x))
    (hand : ∀ x, left x = true → right x = false) (kind : α → Bool)
    (xs : List α) :
    (xs.filter either).countP kind =
      (xs.filter left).countP kind + (xs.filter right).countP kind := by
  induction xs with
  | nil => rfl
  | cons x rest ih =>
      cases hleft : left x with
      | true =>
          have heither : either x = true := by rw [hor, hleft, Bool.true_or]
          rw [List.filter_cons_of_pos heither, List.filter_cons_of_pos hleft,
            List.filter_cons_of_neg (by simp [hand x hleft]),
            List.countP_cons, List.countP_cons, ih]
          omega
      | false =>
          have heither : either x = right x := by rw [hor, hleft, Bool.false_or]
          cases hright : right x with
          | true =>
              rw [List.filter_cons_of_pos (heither.trans hright),
                List.filter_cons_of_neg (by simp [hleft]),
                List.filter_cons_of_pos hright, List.countP_cons,
                List.countP_cons, ih]
              omega
          | false =>
              rw [List.filter_cons_of_neg (by simp [heither, hright]),
                List.filter_cons_of_neg (by simp [hleft]),
                List.filter_cons_of_neg (by simp [hright]), ih]

end Filing

section Best

variable {α : Type} (ok : α → Bool) (value : α → Rat)

/-- The better of the best so far and the next item. -/
def better (best : Option α) (x : α) : Option α :=
  if ok x && best.all fun b => value b < value x then some x else best

/-- The first of the best items. -/
def firstBest (xs : List α) : Option α :=
  xs.foldl (better ok value) none

variable {ok value}

theorem firstBest_eq_none {xs : List α} (h : firstBest ok value xs = none) :
    ∀ x ∈ xs, ok x = false := by
  induction xs using List.reverseRecOn with
  | nil => exact fun x hx => absurd hx List.not_mem_nil
  | append_singleton xs x ih =>
      rw [firstBest, List.foldl_concat, ← firstBest, better] at h
      split at h
      next => cases h
      next hworse =>
        rw [h] at hworse
        rw [List.forall_mem_append]
        refine ⟨ih h, ?_⟩
        simpa using hworse

/-- The best item of a list stands behind worse ones and before none that is
better. -/
theorem firstBest_eq_some {xs : List α} {b : α}
    (h : firstBest ok value xs = some b) :
    ok b = true ∧ ∃ before after, xs = before ++ b :: after ∧
      (∀ x ∈ before, ok x = true → value x < value b) ∧
        ∀ x ∈ after, ok x = true → value x ≤ value b := by
  induction xs using List.reverseRecOn generalizing b with
  | nil => cases h
  | append_singleton xs x ih =>
      rw [firstBest, List.foldl_concat, ← firstBest, better] at h
      split at h
      next hbetter =>
        cases h
        rw [Bool.and_eq_true] at hbetter
        refine ⟨hbetter.1, xs, [], rfl, ?_, fun y hy => absurd hy
          List.not_mem_nil⟩
        intro y hy hok
        cases hbest : firstBest ok value xs with
        | none =>
            have hnone := firstBest_eq_none hbest y hy
            rw [hok] at hnone
            cases hnone
        | some best =>
            obtain ⟨-, before, after, rfl, hbefore, hafter⟩ := ih hbest
            have hlt : value best < value x := by
              simpa [hbest] using hbetter.2
            rcases List.mem_append.mp hy with hy | hy
            · exact lt_trans (hbefore y hy hok) hlt
            · rcases List.mem_cons.mp hy with rfl | hy
              · exact hlt
              · exact lt_of_le_of_lt (hafter y hy hok) hlt
      next hworse =>
        obtain ⟨hok, before, after, rfl, hbefore, hafter⟩ := ih h
        refine ⟨hok, before, after ++ [x], by simp, hbefore, ?_⟩
        intro y hy hyok
        rcases List.mem_append.mp hy with hy | hy
        · exact hafter y hy hyok
        · obtain rfl := List.mem_singleton.mp hy
          rw [Bool.and_eq_true, hyok, h] at hworse
          simpa using hworse

end Best

section Median

def median (values : List Rat) : Rat :=
  let sorted := values.insertionSort (· ≤ ·)
  let middle := sorted.length / 2
  if values = [] then 0
  else if sorted.length % 2 = 1 then sorted.getD middle 0
  else (sorted.getD (middle - 1) 0 + sorted.getD middle 0) / 2

theorem median_perm {values others : List Rat} (h : values.Perm others) :
    median values = median others := by
  have hsorted : values.insertionSort (· ≤ ·) =
      others.insertionSort (· ≤ ·) := by
    refine List.Perm.eq_of_pairwise' (r := (· ≤ ·)) ?_ ?_ ?_
    · exact List.pairwise_insertionSort _ _
    · exact List.pairwise_insertionSort _ _
    · exact ((List.perm_insertionSort _ _).trans h).trans
        (List.perm_insertionSort _ _).symm
  have hnil : values = [] ↔ others = [] := by
    rw [← List.length_eq_zero_iff, ← List.length_eq_zero_iff, h.length_eq]
  rw [median, median]
  simp only [hsorted, hnil]

end Median

end Go

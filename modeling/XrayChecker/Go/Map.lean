import XrayChecker.Go.Check

/-
Go maps as extensional ordered maps.  Two maps with the same entries are
equal, and a `range` loop visits the entries in key order: one of the orders
Go may choose.
-/

namespace Go

/-- `map[K]V`. -/
abbrev GoMap (K V : Type) [Ord K] := Std.ExtTreeMap K V compare

namespace GoMap

variable {K V W : Type} [Ord K] [Std.TransOrd K] [Std.LawfulEqOrd K]

theorem get_insert [DecidableEq K] (m : GoMap K V) (k j : K) (v : V) :
    (m.insert k v)[j]? = if k = j then some v else m[j]? := by
  simp [Std.ExtTreeMap.getElem?_insert]

theorem get_erase [DecidableEq K] (m : GoMap K V) (k j : K) :
    (m.erase k)[j]? = if k = j then none else m[j]? := by
  simp [Std.ExtTreeMap.getElem?_erase]

/-- `m[k] = v` or `delete(m, k)`. -/
def set (m : GoMap K V) (k : K) : Option V → GoMap K V
  | some v => m.insert k v
  | none => m.erase k

theorem get_set [DecidableEq K] (m : GoMap K V) (k j : K) (v : Option V) :
    (m.set k v)[j]? = if k = j then v else m[j]? := by
  cases v with
  | some v => exact get_insert m k j v
  | none => exact get_erase m k j

@[simp] theorem get_set_self (m : GoMap K V) (k : K) (v : Option V) :
    (m.set k v)[k]? = v := by
  classical
  simp [get_set]

theorem get_set_of_ne (m : GoMap K V) {k j : K} (h : k ≠ j) (v : Option V) :
    (m.set k v)[j]? = m[j]? := by
  classical
  simp [get_set, h]

/-- Writing back what a map holds changes nothing. -/
@[simp] theorem set_get (m : GoMap K V) (k : K) : m.set k m[k]? = m := by
  classical
  apply Std.ExtTreeMap.ext_getElem?
  intro j
  rw [get_set]
  split
  · rename_i h
    rw [h]
  · rfl

/-- Putting back what an insertion replaced undoes it. -/
theorem insert_insert_of_get {m : GoMap K V} {k : K} {old : V}
    (h : m[k]? = some old) (v : V) : (m.insert k v).insert k old = m := by
  classical
  apply Std.ExtTreeMap.ext_getElem?
  intro j
  rw [get_insert, get_insert]
  by_cases hj : k = j
  · rw [if_pos hj, ← hj, h]
  · rw [if_neg hj, if_neg hj]

/-- Erasing what was inserted at a free key undoes it. -/
theorem erase_insert_of_none {m : GoMap K V} {k : K} (h : m[k]? = none)
    (v : V) : (m.insert k v).erase k = m := by
  classical
  apply Std.ExtTreeMap.ext_getElem?
  intro j
  rw [get_erase, get_insert]
  by_cases hj : k = j
  · rw [if_pos hj, ← hj, h]
  · rw [if_neg hj, if_neg hj]

/-- Putting back what was erased undoes it. -/
theorem insert_erase_of_get {m : GoMap K V} {k : K} {old : V}
    (h : m[k]? = some old) : (m.erase k).insert k old = m := by
  classical
  apply Std.ExtTreeMap.ext_getElem?
  intro j
  rw [get_insert, get_erase]
  by_cases hj : k = j
  · rw [if_pos hj, ← hj, h]
  · rw [if_neg hj, if_neg hj]

/-- Filling a map from entries that give each key one value. -/
theorem get_foldl_insert [DecidableEq K] {entries : List (K × V)}
    (hone : ∀ e ∈ entries, ∀ e' ∈ entries, e.1 = e'.1 → e.2 = e'.2)
    (k : K) (v : V) :
    (entries.foldl (fun acc e => acc.insert e.1 e.2) (∅ : GoMap K V))[k]? =
      some v ↔ (k, v) ∈ entries := by
  refine (foldl_invariant
    (fun done (acc : GoMap K V) => (∀ e ∈ done, e ∈ entries) ∧
      ∀ k v, acc[k]? = some v ↔ (k, v) ∈ done)
    entries (by simp) ?_).2 k v
  rintro done ⟨key, value⟩ acc hitem ⟨hdone, hacc⟩
  refine ⟨?_, ?_⟩
  · intro e he
    rcases List.mem_append.mp he with hold | hnew
    · exact hdone e hold
    · rw [List.mem_singleton.mp hnew]
      exact hitem
  · intro k v
    rw [get_insert]
    by_cases hk : key = k
    · subst hk
      simp only [↓reduceIte, Option.some.injEq, List.mem_append,
        List.mem_singleton, Prod.mk.injEq, true_and]
      constructor
      · rintro rfl
        exact Or.inr rfl
      · rintro (hold | rfl)
        · exact hone _ hitem _ (hdone _ hold) rfl
        · rfl
    · simp [hk, hacc, Ne.symm hk]

/-- Rebuilding a map entry by entry gives it back. -/
theorem foldl_insert_toList (m : GoMap K V) :
    m.toList.foldl (fun acc e => acc.insert e.1 e.2) (∅ : GoMap K V) = m := by
  classical
  apply Std.ExtTreeMap.ext_getElem?
  intro k
  apply Option.ext
  intro v
  rw [get_foldl_insert _ k v, Std.ExtTreeMap.mem_toList_iff_getElem?_eq_some]
  intro e he e' he' hkey
  rw [Std.ExtTreeMap.mem_toList_iff_getElem?_eq_some] at he he'
  rw [hkey, he'] at he
  exact (Option.some.inj he).symm

end GoMap

/-- Steps at distinct keys do not meet: after a loop over distinct keys, each
of which touches only its own part of the state, the part of a key is what
its own step made of it, and the rest is as before. -/
theorem foldl_at {S K V : Type} [DecidableEq K] (view : S → K → V)
    (step : S → K → S) (update : K → V → V) {keys : List K}
    (hself : ∀ s, ∀ k ∈ keys, view (step s k) k = update k (view s k))
    (hother : ∀ s, ∀ k ∈ keys, ∀ j, j ≠ k → view (step s k) j = view s j)
    (hnodup : keys.Nodup) (s : S) (k : K) :
    view (keys.foldl step s) k =
      if k ∈ keys then update k (view s k) else view s k := by
  induction keys generalizing s with
  | nil => simp
  | cons head rest ih =>
      rw [List.nodup_cons] at hnodup
      have hrest := ih
        (fun s j hj => hself s j (List.mem_cons_of_mem _ hj))
        (fun s j hj => hother s j (List.mem_cons_of_mem _ hj)) hnodup.2
        (step s head)
      rw [List.foldl_cons, hrest]
      by_cases hhead : k = head
      · subst hhead
        simp [hnodup.1, hself s k List.mem_cons_self]
      · simp [hhead, hother s head List.mem_cons_self k hhead]

end Go

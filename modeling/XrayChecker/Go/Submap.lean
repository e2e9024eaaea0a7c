import XrayChecker.Go.Map

/-
Comparing maps the way a program does it: as many entries on either side, and
every entry of the one looked up in the other.
-/

namespace Go.GoMap

variable {K V : Type} [Ord K] [Std.TransOrd K] [Std.LawfulEqOrd K]

/-- The entries of a map are distinct. -/
theorem nodup_toList (m : GoMap K V) : m.toList.Nodup := by
  refine m.distinct_keys_toList.imp ?_
  intro a b hkeys heq
  exact hkeys (heq ▸ Std.ReflCmp.compare_self)

omit [Std.LawfulEqOrd K] in
theorem nodup_map_fst_toList (m : GoMap K V) :
    (m.toList.map Prod.fst).Nodup := by
  rw [Std.ExtTreeMap.map_fst_toList_eq_keys]
  exact Std.ExtTreeMap.nodup_keys

/-- A map all of whose entries another one of the same size has is that
map. -/
theorem eq_of_entries_of_size {left right : GoMap K V}
    (hentries : ∀ (k : K) (v : V), left[k]? = some v → right[k]? = some v)
    (hsize : left.size = right.size) : left = right := by
  have hsubset : left.toList ⊆ right.toList := by
    rintro ⟨k, v⟩ hmem
    rw [Std.ExtTreeMap.mem_toList_iff_getElem?_eq_some] at hmem ⊢
    exact hentries k v hmem
  have hperm : left.toList.Perm right.toList := by
    refine (left.nodup_toList.subperm hsubset).perm_of_length_le ?_
    rw [Std.ExtTreeMap.length_toList, Std.ExtTreeMap.length_toList, hsize]
  apply Std.ExtTreeMap.ext_getElem?
  intro k
  apply Option.ext
  intro v
  rw [← Std.ExtTreeMap.mem_toList_iff_getElem?_eq_some,
    ← Std.ExtTreeMap.mem_toList_iff_getElem?_eq_some, hperm.mem_iff]

/-- The entries before and after the one of a key have other keys. -/
theorem toList_split (m : GoMap K V) {k : K} {v : V} (h : m[k]? = some v) :
    ∃ front back, m.toList = front ++ (k, v) :: back ∧
      (∀ entry ∈ front, entry.1 ≠ k) ∧ ∀ entry ∈ back, entry.1 ≠ k := by
  have hmem : (k, v) ∈ m.toList :=
    Std.ExtTreeMap.mem_toList_iff_getElem?_eq_some.mpr h
  obtain ⟨front, back, hsplit⟩ := List.append_of_mem hmem
  have hdistinct := m.distinct_keys_toList
  rw [hsplit, List.pairwise_append, List.pairwise_cons] at hdistinct
  obtain ⟨-, ⟨hback, -⟩, hfront⟩ := hdistinct
  refine ⟨front, back, hsplit, ?_, ?_⟩
  · intro entry hentry heq
    exact hfront entry hentry _ List.mem_cons_self
      (by rw [heq]; exact Std.ReflCmp.compare_self)
  · intro entry hentry heq
    exact hback entry hentry (by rw [heq]; exact Std.ReflCmp.compare_self)

/-- What a loop over the entries collects at one key. -/
theorem filterMap_key {B : Type} [DecidableEq K] (m : GoMap K V) (k : K)
    (f : V → Option B) :
    (m.toList.filterMap fun entry => if entry.1 = k then f entry.2 else none) =
      (m[k]?.bind f).toList := by
  have hother : ∀ rest : List (K × V), (∀ entry ∈ rest, entry.1 ≠ k) →
      (rest.filterMap fun entry =>
        if entry.1 = k then f entry.2 else none) = [] := by
    intro rest hrest
    rw [List.filterMap_eq_nil_iff]
    intro entry hentry
    rw [if_neg (hrest entry hentry)]
  cases hfound : m[k]? with
  | none =>
      refine hother m.toList fun entry hentry heq => ?_
      have hget := Std.ExtTreeMap.mem_toList_iff_getElem?_eq_some.mp hentry
      rw [heq, hfound] at hget
      cases hget
  | some v =>
      obtain ⟨front, back, hsplit, hfront, hback⟩ := m.toList_split hfound
      rw [hsplit, List.filterMap_append, List.filterMap_cons, if_pos rfl,
        hother front hfront, hother back hback]
      cases hf : f v <;> simp [hf]

end Go.GoMap

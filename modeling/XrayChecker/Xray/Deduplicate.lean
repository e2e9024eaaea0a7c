import XrayChecker.Models.ProxyConfig

/-
Copies of one node are dropped by identity, the first one is kept.
-/

namespace XrayChecker.Xray

open Go

/-- The key under which `DeduplicateByStableID` remembers a node. -/
def copyKey (digest : Text → Text) (proxy : ProxyConfig) : Text :=
  let stableID := trimSpace proxy.stableID
  toLower (if stableID = [] then proxy.generateStableID digest else stableID)

/-- The loop of `DeduplicateByStableID`. -/
def deduplicateLoop (digest : Text → Text) :
    GoMap Text Bool → List (Option ProxyConfig) →
      List (Option ProxyConfig) × Nat
  | _, [] => ([], 0)
  | seen, none :: rest =>
      let (unique, dropped) := deduplicateLoop digest seen rest
      (none :: unique, dropped)
  | seen, some proxy :: rest =>
      let key := copyKey digest proxy
      if seen[key]?.getD false then
        let (unique, dropped) := deduplicateLoop digest seen rest
        (unique, dropped + 1)
      else
        let (unique, dropped) :=
          deduplicateLoop digest (seen.insert key true) rest
        (some proxy :: unique, dropped)

/-- `DeduplicateByStableID`, with the number of copies it removed. -/
def deduplicateByStableID (digest : Text → Text)
    (proxies : List (Option ProxyConfig)) : List (Option ProxyConfig) × Nat :=
  deduplicateLoop digest ∅ proxies

variable {digest : Text → Text}

/-- A kept node is the first of its identity. -/
theorem deduplicateLoop_first {seen : GoMap Text Bool}
    {proxies : List (Option ProxyConfig)} {kept : ProxyConfig}
    (h : some kept ∈ (deduplicateLoop digest seen proxies).1) :
    seen[copyKey digest kept]?.getD false = false ∧
      ∃ before after, proxies = before ++ some kept :: after ∧
        ∀ proxy, some proxy ∈ before →
          copyKey digest proxy ≠ copyKey digest kept := by
  induction proxies generalizing seen with
  | nil => exact absurd h List.not_mem_nil
  | cons head rest ih =>
      cases head with
      | none =>
          have hrest : some kept ∈ (deduplicateLoop digest seen rest).1 :=
            (List.mem_cons.mp h).resolve_left (Option.some_ne_none _)
          obtain ⟨hseen, before, after, rfl, hbefore⟩ := ih hrest
          refine ⟨hseen, none :: before, after, rfl, ?_⟩
          intro proxy hproxy
          exact hbefore proxy
            ((List.mem_cons.mp hproxy).resolve_left (Option.some_ne_none _))
      | some proxy =>
          rw [deduplicateLoop] at h
          by_cases hcopy : seen[copyKey digest proxy]?.getD false = true
          · simp only [hcopy, ↓reduceIte] at h
            obtain ⟨hseen, before, after, rfl, hbefore⟩ := ih h
            refine ⟨hseen, some proxy :: before, after, rfl, ?_⟩
            intro other hother hsame
            rcases List.mem_cons.mp hother with hhead | hmem
            · obtain rfl := Option.some.inj hhead
              rw [hsame, hseen] at hcopy
              contradiction
            · exact hbefore other hmem hsame
          · simp only [hcopy, Bool.false_eq_true, ↓reduceIte,
              List.mem_cons, Option.some.injEq] at h
            rcases h with rfl | hrest
            · exact ⟨by simpa using hcopy, [], rest, rfl,
              fun _ hmem => absurd hmem List.not_mem_nil⟩
            · obtain ⟨hseen, before, after, rfl, hbefore⟩ := ih hrest
              rw [GoMap.get_insert] at hseen
              split_ifs at hseen with hkey
              · exact Bool.noConfusion hseen
              refine ⟨hseen, some proxy :: before, after, rfl, ?_⟩
              intro other hother hsame
              rcases List.mem_cons.mp hother with hhead | hmem
              · obtain rfl := Option.some.inj hhead
                exact hkey hsame
              · exact hbefore other hmem hsame

/-- Every node is kept, or another one of its identity is. -/
theorem deduplicateLoop_covers {seen : GoMap Text Bool}
    {proxies : List (Option ProxyConfig)} {proxy : ProxyConfig}
    (h : some proxy ∈ proxies) :
    seen[copyKey digest proxy]?.getD false = true ∨
      ∃ kept, some kept ∈ (deduplicateLoop digest seen proxies).1 ∧
        copyKey digest kept = copyKey digest proxy := by
  induction proxies generalizing seen with
  | nil => exact absurd h List.not_mem_nil
  | cons head rest ih =>
      cases head with
      | none =>
          have hrest := (List.mem_cons.mp h).resolve_left
            (Option.some_ne_none _)
          rcases @ih seen hrest with hseen | ⟨kept, hkept, hsame⟩
          · exact Or.inl hseen
          · exact Or.inr ⟨kept, List.mem_cons_of_mem _ hkept, hsame⟩
      | some first =>
          rw [deduplicateLoop]
          by_cases hcopy : seen[copyKey digest first]?.getD false = true
          · simp only [hcopy, ↓reduceIte]
            rcases List.mem_cons.mp h with hhead | hrest
            · obtain rfl := Option.some.inj hhead
              exact Or.inl hcopy
            · exact ih hrest
          · simp only [hcopy, Bool.false_eq_true, ↓reduceIte]
            rcases List.mem_cons.mp h with hhead | hrest
            · obtain rfl := Option.some.inj hhead
              exact Or.inr ⟨_, List.mem_cons_self, rfl⟩
            · rcases @ih (seen.insert (copyKey digest first) true)
                hrest with hseen | ⟨kept, hkept, hsame⟩
              · rw [GoMap.get_insert] at hseen
                split_ifs at hseen with hkey
                · exact Or.inr ⟨first, List.mem_cons_self, hkey⟩
                · exact Or.inl hseen
              · exact Or.inr ⟨kept, List.mem_cons_of_mem _ hkept, hsame⟩

/-- Every kept node is one of the list. -/
theorem deduplicateLoop_sublist (seen : GoMap Text Bool)
    (proxies : List (Option ProxyConfig)) :
    (deduplicateLoop digest seen proxies).1.Sublist proxies := by
  induction proxies generalizing seen with
  | nil => exact List.Sublist.refl _
  | cons head rest ih =>
      cases head with
      | none => exact (ih seen).cons_cons none
      | some proxy =>
          rw [deduplicateLoop]
          split
          · exact (ih seen).cons _
          · exact (ih _).cons_cons _

/-- No two kept nodes have one key. -/
theorem deduplicateLoop_nodup (seen : GoMap Text Bool)
    (proxies : List (Option ProxyConfig)) :
    ((deduplicateLoop digest seen proxies).1.reduceOption.map
      (copyKey digest)).Nodup := by
  induction proxies generalizing seen with
  | nil => exact List.nodup_nil
  | cons head rest ih =>
      cases head with
      | none => exact ih seen
      | some proxy =>
          rw [deduplicateLoop]
          split
          · exact ih seen
          · refine List.nodup_cons.mpr ⟨?_, ih _⟩
            intro hcopy
            obtain ⟨kept, hkept, hsame⟩ := List.mem_map.mp hcopy
            have hfirst := (deduplicateLoop_first
              (List.reduceOption_mem_iff.mp hkept)).1
            rw [hsame, GoMap.get_insert, if_pos rfl] at hfirst
            cases hfirst

theorem deduplicateByStableID_first {proxies : List (Option ProxyConfig)}
    {kept : ProxyConfig}
    (h : some kept ∈ (deduplicateByStableID digest proxies).1) :
    ∃ before after, proxies = before ++ some kept :: after ∧
      ∀ proxy, some proxy ∈ before →
        copyKey digest proxy ≠ copyKey digest kept :=
  (deduplicateLoop_first h).2

end XrayChecker.Xray

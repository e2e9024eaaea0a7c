import XrayChecker.Models.ProxyConfig

/-
Identities across a subscription refresh: `PreserveStableIDs` hands the
identities of the old nodes to the new ones and `ValidateStableIDs` refuses a
list in which two nodes share one.  A list of node pointers is a list of
options; `digest` stands for the first 16 hex digits of the SHA-256 sum.
-/

namespace XrayChecker.Xray

open Go

/-- The errors of `ValidateStableIDs`, with what their texts name. -/
inductive StableIDError where
  | nilProxy (index : Nat)
  | emptyStableID (name : Text)
  | collision (stableID previousName previousServer : Text) (previousPort : Int)
      (name server : Text) (port : Int)
deriving DecidableEq

/-- The loop of `ValidateStableIDs` from position `index` on.  It writes the
generated and the trimmed identities back into the nodes. -/
def validateLoop (digest : Text → Text) :
    Nat → GoMap Text ProxyConfig → List (Option ProxyConfig) →
      Except StableIDError (List (Option ProxyConfig))
  | _, _, [] => .ok []
  | index, _, none :: _ => .error (.nilProxy index)
  | index, seen, some proxy :: rest =>
      let stableID := trimSpace (proxy.effectiveStableID digest)
      if stableID = [] then
        .error (.emptyStableID proxy.name)
      else
        let proxy := { proxy with stableID := stableID }
        match seen[toLower stableID]? with
        | some previous =>
            .error (.collision stableID previous.name previous.server
              previous.port proxy.name proxy.server proxy.port)
        | none =>
            (some proxy :: ·) <$> validateLoop digest (index + 1)
              (seen.insert (toLower stableID) proxy) rest

/-- `ValidateStableIDs`, with the nodes as it leaves them. -/
def validateStableIDs (digest : Text → Text)
    (proxies : List (Option ProxyConfig)) :
    Except StableIDError (List (Option ProxyConfig)) :=
  validateLoop digest 0 ∅ proxies

def normalizeIdentityPart (value : Text) : Text :=
  toLower (trimSpace value)

/-- The character `\x00` that separates the parts of a key. -/
def keySeparator : Text := [Char.ofNat 0]

def strictIdentityKey (proxy : ProxyConfig) : Text :=
  let name := normalizeIdentityPart proxy.name
  let protocol := normalizeIdentityPart proxy.protocol
  if name = [] ∨ protocol = [] then []
  else join [normalizeIdentityPart proxy.subName, protocol, name] keySeparator

def relaxedIdentityKey (proxy : ProxyConfig) : Text :=
  let name := normalizeIdentityPart proxy.name
  let protocol := normalizeIdentityPart proxy.protocol
  if name = [] ∨ protocol = [] then []
  else join [protocol, name] keySeparator

/-- The two maps of `uniqueProxyMap`; a repeated key is kept with a nil
node. -/
structure UniqueMap where
  result : GoMap Text (Option ProxyConfig) := ∅
  duplicates : GoMap Text Bool := ∅

/-- One iteration of `uniqueProxyMap`. -/
def uniqueStep (keyFn : ProxyConfig → Text) (acc : UniqueMap) :
    Option ProxyConfig → UniqueMap
  | none => acc
  | some proxy =>
      let key := keyFn proxy
      if key = [] then acc
      else if acc.result[key]?.isSome then
        { result := acc.result.insert key none,
          duplicates := acc.duplicates.insert key true }
      else if acc.duplicates[key]?.getD false then acc
      else { acc with result := acc.result.insert key (some proxy) }

def uniqueProxyMap (proxies : List (Option ProxyConfig))
    (keyFn : ProxyConfig → Text) : GoMap Text (Option ProxyConfig) :=
  (proxies.foldl (uniqueStep keyFn) {}).result

/-- One iteration of `identityCounts`. -/
def countStep (keyFn : ProxyConfig → Text) (counts : GoMap Text Nat) :
    Option ProxyConfig → GoMap Text Nat
  | none => counts
  | some proxy =>
      let key := keyFn proxy
      if key = [] then counts
      else counts.insert key (counts[key]?.getD 0 + 1)

def identityCounts (proxies : List (Option ProxyConfig))
    (keyFn : ProxyConfig → Text) : GoMap Text Nat :=
  proxies.foldl (countStep keyFn) ∅

/-- The look-up tables `PreserveStableIDs` builds before its loop. -/
structure IdentityTables where
  oldByStableID : GoMap Text (Option ProxyConfig)
  oldByGeneratedID : GoMap Text (Option ProxyConfig)
  oldByStrictIdentity : GoMap Text (Option ProxyConfig)
  oldByRelaxedIdentity : GoMap Text (Option ProxyConfig)
  newStrictCounts : GoMap Text Nat
  newRelaxedCounts : GoMap Text Nat

def identityTables (digest : Text → Text)
    (old new : List (Option ProxyConfig)) : IdentityTables where
  oldByStableID := uniqueProxyMap old ProxyConfig.stableID
  oldByGeneratedID := uniqueProxyMap old (ProxyConfig.generateStableID digest)
  oldByStrictIdentity := uniqueProxyMap old strictIdentityKey
  oldByRelaxedIdentity := uniqueProxyMap old relaxedIdentityKey
  newStrictCounts := identityCounts new strictIdentityKey
  newRelaxedCounts := identityCounts new relaxedIdentityKey

/-- The look-ups by name: only a key no other new node has is tried. -/
def nameMatch (oldByKey : GoMap Text (Option ProxyConfig))
    (newCounts : GoMap Text Nat) (key : Text) : Option ProxyConfig :=
  if key ≠ [] ∧ newCounts[key]?.getD 0 = 1 then oldByKey[key]?.join else none

/-- The old node the loop body settles on: the first of the four look-ups
that finds one. -/
def IdentityTables.matchOld (tables : IdentityTables) (generatedID : Text)
    (proxy : ProxyConfig) : Option ProxyConfig :=
  tables.oldByStableID[generatedID]?.join <|>
    tables.oldByGeneratedID[generatedID]?.join <|>
    nameMatch tables.oldByStrictIdentity tables.newStrictCounts
      (strictIdentityKey proxy) <|>
    nameMatch tables.oldByRelaxedIdentity tables.newRelaxedCounts
      (relaxedIdentityKey proxy)

/-- What the loop of `PreserveStableIDs` carries. -/
structure Preserving where
  new : List (Option ProxyConfig) := []
  usedOldIDs : GoMap Text Bool := ∅
  preserved : Nat := 0

/-- `assignPreservedStableID`, with the node it writes, appended to the nodes
already passed. -/
def assignPreservedStableID (digest : Text → Text) (acc : Preserving)
    (newProxy oldProxy : ProxyConfig) (generatedID : Text) : Preserving :=
  let oldID := oldProxy.effectiveStableID digest
  if oldID = [] ∨ acc.usedOldIDs[oldID]?.getD false then
    { acc with new := acc.new ++ [some newProxy] }
  else
    { new := acc.new ++ [some { newProxy with stableID := oldID }],
      usedOldIDs := acc.usedOldIDs.insert oldID true,
      preserved := acc.preserved + if oldID ≠ generatedID then 1 else 0 }

/-- One iteration of `PreserveStableIDs`. -/
def preserveStep (digest : Text → Text) (tables : IdentityTables)
    (acc : Preserving) : Option ProxyConfig → Preserving
  | none => { acc with new := acc.new ++ [none] }
  | some proxy =>
      let generatedID := proxy.generateStableID digest
      let proxy := { proxy with stableID := generatedID }
      match tables.matchOld generatedID proxy with
      | some oldProxy =>
          assignPreservedStableID digest acc proxy oldProxy generatedID
      | none => { acc with new := acc.new ++ [some proxy] }

/-- The first look-up table fills the empty identities of the old nodes. -/
def fillStableID (digest : Text → Text) (proxy : ProxyConfig) : ProxyConfig :=
  { proxy with stableID := proxy.effectiveStableID digest }

/-- `PreserveStableIDs`: the new nodes as it leaves them and how many were
given another identity than their own. -/
def preserveStableIDs (digest : Text → Text)
    (old new : List (Option ProxyConfig)) : Preserving :=
  let old := old.map (Option.map (fillStableID digest))
  new.foldl (preserveStep digest (identityTables digest old new)) {}

/-- The key under which `DeduplicateByStableID` and `ValidateStableIDs` know a
node. -/
def identityKey (digest : Text → Text) (proxy : ProxyConfig) : Text :=
  toLower (trimSpace (proxy.effectiveStableID digest))

/-- The node as `ValidateStableIDs` leaves it. -/
def trimmed (digest : Text → Text) (proxy : ProxyConfig) : ProxyConfig :=
  { proxy with stableID := trimSpace (proxy.effectiveStableID digest) }

theorem validateLoop_ok_iff (digest : Text → Text) (index : Nat)
    (seen : GoMap Text ProxyConfig) (proxies : List ProxyConfig)
    (out : List (Option ProxyConfig)) :
    validateLoop digest index seen (proxies.map some) = .ok out ↔
      (∀ p ∈ proxies, trimSpace (p.effectiveStableID digest) ≠ [] ∧
        seen[identityKey digest p]? = none) ∧
      (proxies.map (identityKey digest)).Nodup ∧
      out = proxies.map (some ∘ trimmed digest) := by
  induction proxies generalizing index seen out with
  | nil =>
      simp only [List.map_nil, validateLoop, Except.ok.injEq, List.nodup_nil,
        List.not_mem_nil, false_imp_iff, implies_true, true_and]
      exact eq_comm
  | cons head rest ih =>
      have hkey : toLower (trimSpace (head.effectiveStableID digest)) =
          identityKey digest head := rfl
      simp only [List.map_cons, validateLoop, hkey]
      by_cases hempty : trimSpace (head.effectiveStableID digest) = []
      · simp [hempty]
      · rw [if_neg hempty]
        cases hseen : seen[identityKey digest head]? with
        | some previous =>
            constructor
            · intro hcollision
              cases hcollision
            · rintro ⟨hall, -, -⟩
              have := (hall head List.mem_cons_self).2
              rw [hseen] at this
              cases this
        | none =>
            have hmap : ∀ (r : Except StableIDError
                (List (Option ProxyConfig))),
                (some (trimmed digest head) :: ·) <$> r = .ok out ↔
                  ∃ l, r = .ok l ∧ some (trimmed digest head) :: l = out := by
              intro r
              cases r with
              | error e => simp [Functor.map, Except.map]
              | ok l => simp [Functor.map, Except.map]
            refine (hmap _).trans ?_
            simp only [ih, GoMap.get_insert]
            constructor
            · rintro ⟨l, ⟨hrest, hnodup, rfl⟩, rfl⟩
              refine ⟨?_, ?_, rfl⟩
              · intro p hp
                rcases List.mem_cons.mp hp with rfl | hp
                · exact ⟨hempty, hseen⟩
                · have := hrest p hp
                  split at this <;> simp_all
              · rw [List.nodup_cons]
                refine ⟨?_, hnodup⟩
                intro hmem
                obtain ⟨p, hp, hsame⟩ := List.mem_map.mp hmem
                have := (hrest p hp).2
                rw [if_pos hsame.symm] at this
                cases this
            · rintro ⟨hall, hnodup, rfl⟩
              rw [List.nodup_cons] at hnodup
              refine ⟨_, ⟨?_, hnodup.2, rfl⟩, rfl⟩
              intro p hp
              obtain ⟨htrim, hfresh⟩ := hall p (List.mem_cons_of_mem _ hp)
              refine ⟨htrim, ?_⟩
              rw [if_neg]
              · exact hfresh
              · intro hsame
                exact hnodup.1 (List.mem_map.mpr ⟨p, hp, hsame.symm⟩)

/-- `ValidateStableIDs` accepts a list without nil exactly if every identity
is non-blank and no two agree up to spaces and letter case. -/
theorem validateStableIDs_ok_iff (digest : Text → Text)
    (proxies : List ProxyConfig) (out : List (Option ProxyConfig)) :
    validateStableIDs digest (proxies.map some) = .ok out ↔
      (∀ p ∈ proxies, trimSpace (p.effectiveStableID digest) ≠ []) ∧
      (proxies.map (identityKey digest)).Nodup ∧
      out = proxies.map (some ∘ trimmed digest) := by
  rw [validateStableIDs, validateLoop_ok_iff]
  simp

/-- What `uniqueProxyMap` stores for a key that these nodes have. -/
def uniqueEntry : List ProxyConfig → Option (Option ProxyConfig)
  | [] => none
  | [proxy] => some (some proxy)
  | _ :: _ :: _ => some none

theorem uniqueEntry_append (before : List ProxyConfig) (proxy : ProxyConfig) :
    uniqueEntry (before ++ [proxy]) =
      if (uniqueEntry before).isSome then some none else some (some proxy) := by
  match before with
  | [] => rfl
  | [_] => rfl
  | _ :: _ :: _ => rfl

theorem uniqueProxyMap_get (proxies : List ProxyConfig)
    (keyFn : ProxyConfig → Text) (key : Text) :
    (uniqueProxyMap (proxies.map some) keyFn)[key]? =
      if key = [] then none
      else uniqueEntry (proxies.filter (fun p => keyFn p = key)) := by
  rw [uniqueProxyMap, List.foldl_map]
  -- A duplicate stays in the first map, so the second is never asked.
  refine (foldl_invariant
    (fun done (acc : UniqueMap) =>
      (∀ k : Text, acc.duplicates[k]?.getD false = true →
        acc.result[k]?.isSome) ∧
      ∀ k : Text, acc.result[k]? = if k = [] then none
        else uniqueEntry (done.filter (fun p => keyFn p = k)))
    proxies (by simp [uniqueEntry]) ?_).2 key
  intro done proxy acc hproxy ⟨hduplicates, hresult⟩
  have hother : ∀ k, keyFn proxy ≠ k →
      (done ++ [proxy]).filter (fun p => keyFn p = k) =
        done.filter (fun p => keyFn p = k) := by
    intro k hk
    simp [List.filter_append, hk]
  have hself : (done ++ [proxy]).filter (fun p => keyFn p = keyFn proxy) =
      done.filter (fun p => keyFn p = keyFn proxy) ++ [proxy] := by
    simp [List.filter_append]
  simp only [uniqueStep]
  by_cases hempty : keyFn proxy = []
  · rw [if_pos hempty]
    refine ⟨hduplicates, ?_⟩
    intro k
    by_cases hk : k = []
    · rw [hresult, if_pos hk, if_pos hk]
    · rw [hother k (fun h => hk (h ▸ hempty)), hresult]
  · have hentry := hresult (keyFn proxy)
    rw [if_neg hempty] at hentry
    have hnext : ∀ k v, some v = uniqueEntry
        ((done ++ [proxy]).filter (fun p => keyFn p = keyFn proxy)) →
        (acc.result.insert (keyFn proxy) v)[k]? = if k = [] then none
          else uniqueEntry ((done ++ [proxy]).filter (fun p => keyFn p =
            k)) := by
      intro k v hv
      rw [GoMap.get_insert]
      by_cases hk : keyFn proxy = k
      · subst hk
        rw [if_pos rfl, if_neg hempty, hv]
      · rw [if_neg hk, hresult, hother k hk]
    rw [hself, uniqueEntry_append, ← hentry] at hnext
    rw [if_neg hempty]
    by_cases hpresent : acc.result[keyFn proxy]?.isSome
    · rw [if_pos hpresent]
      rw [if_pos hpresent] at hnext
      refine ⟨?_, fun k => hnext k none rfl⟩
      intro k hk
      simp only [GoMap.get_insert] at hk ⊢
      by_cases hsame : keyFn proxy = k
      · simp [hsame]
      · rw [if_neg hsame] at hk ⊢
        exact hduplicates k hk
    · rw [if_neg hpresent] at hnext
      rw [if_neg hpresent, if_neg (fun h => hpresent (hduplicates _ h))]
      refine ⟨?_, fun k => hnext k (some proxy) rfl⟩
      intro k hk
      simp only [GoMap.get_insert]
      by_cases hsame : keyFn proxy = k
      · simp [hsame]
      · rw [if_neg hsame]
        exact hduplicates k hk

theorem identityCounts_get (proxies : List ProxyConfig)
    (keyFn : ProxyConfig → Text) {key : Text} (hkey : key ≠ []) :
    (identityCounts (proxies.map some) keyFn)[key]?.getD 0 =
      proxies.countP (fun p => keyFn p = key) := by
  rw [identityCounts, List.foldl_map]
  refine foldl_invariant
    (fun done (counts : GoMap Text Nat) =>
      counts[key]?.getD 0 = done.countP (fun p => keyFn p = key))
    proxies (by simp) ?_
  intro done proxy counts hproxy hcount
  simp only [countStep, List.countP_append, List.countP_singleton]
  by_cases hempty : keyFn proxy = []
  · rw [if_pos hempty, hcount]
    simp [hempty, hkey.symm]
  · rw [if_neg hempty, GoMap.get_insert]
    by_cases hsame : keyFn proxy = key
    · simp [hsame, hcount]
    · simp [hsame, hcount]

end XrayChecker.Xray

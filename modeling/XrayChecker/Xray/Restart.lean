import XrayChecker.Machine.Run
import XrayChecker.Xray.Deduplicate
import XrayChecker.Xray.Lifecycle
import XrayChecker.Xray.Refresh

/-
Identities over a restart.  A refresh may hand a new node the identity of an
old one of its name, and that identity is in force until the next refresh; a
restart knows the feeds alone and gives every node the identity of its own
configuration.
-/

namespace XrayChecker.Xray

open Go Machine

/-- The nodes of the feeds, with domains resolved: each carries the identity
generated from its configuration. -/
structure Delivery (digest : Text → Text) where
  nodes : List ProxyConfig
  fresh : ∀ p ∈ nodes, p.stableID = p.generateStableID digest

/-- `DeduplicateByStableID` on a list without nil. -/
def deduplicated (digest : Text → Text) (proxies : List ProxyConfig) :
    List ProxyConfig :=
  (deduplicateByStableID digest (proxies.map some)).1.reduceOption

/-- `ValidateStableIDs`, with the nodes it leaves when it accepts. -/
def validated (digest : Text → Text) (proxies : List (Option ProxyConfig)) :
    Except StableIDError (List ProxyConfig) :=
  List.reduceOption <$> validateStableIDs digest proxies

/-- `InitializeConfiguration` up to the file it writes, from the nodes of the
feeds on. -/
def initializeConfiguration (digest : Text → Text)
    (delivered : List ProxyConfig) : Except StableIDError (List ProxyConfig) :=
  validated digest
    ((prepareProxyConfigs digest (deduplicated digest delivered)).map some)

/-- The nodes in force, and what the feeds delivered when they were put in
force. -/
structure InForce (digest : Text → Text) where
  proxies : List ProxyConfig
  delivery : Delivery digest

/-- A refresh: what the feeds deliver, and whether the steps behind the check
of the identities (the suspicious and the unchanged update, maintenance, the
restart of Xray) let it through. -/
structure FeedRefresh (digest : Text → Text) where
  delivery : Delivery digest
  carriedOut : Bool

variable {digest : Text → Text}

/-- The nodes of the feeds without copies. -/
def FeedRefresh.new (r : FeedRefresh digest) : List ProxyConfig :=
  deduplicated digest r.delivery.nodes

/-- The new nodes with their identities, unless these are refused. -/
def FeedRefresh.candidate (w : InForce digest) (r : FeedRefresh digest) :
    Except StableIDError (List ProxyConfig) :=
  validated digest (preserveStableIDs digest (w.proxies.map some)
    (r.new.map some)).new

/-- `refreshSubscription`, as far as it moves identities. -/
def feedRefreshStep (w : InForce digest) (r : FeedRefresh digest) :
    InForce digest :=
  match r.candidate w with
  | .error _ => w
  | .ok newConfigs =>
      if r.carriedOut then
        { proxies := prepareProxyConfigs digest newConfigs,
          delivery := r.delivery }
      else w

/-- The refresh is applied. -/
def FeedRefresh.Applied (w : InForce digest) (r : FeedRefresh digest) : Prop :=
  r.carriedOut = true ∧ ∃ newConfigs, r.candidate w = .ok newConfigs

/-- Whoever asks for an old node has its configuration, or comes after a new
node that has it. -/
def FeedRefresh.LeavesOwners (w : InForce digest) (r : FeedRefresh digest) :
    Prop :=
  ∀ before n after o, r.new = before ++ n :: after →
    askedFor digest w.proxies r.new n = some o →
      n.generateStableID digest = o.generateStableID digest ∨
        ∃ earlier ∈ before,
          earlier.generateStableID digest = o.generateStableID digest

/-- The feeds deliver the same nodes, in any order.  The position of a node is
not part of it. -/
def DeliverSame (again before : Delivery digest) : Prop :=
  (again.nodes.map fun p => { p with index := 0 }).Perm
    (before.nodes.map fun p => { p with index := 0 })

/-- Every node keeps its identity, and no other node takes it over.  A node is
its configuration: copies are one node. -/
structure IdentitiesSurvive (digest : Text → Text)
    (before after : List ProxyConfig) : Prop where
  kept : ∀ p ∈ before, ∃ q ∈ after,
    q.generateStableID digest = p.generateStableID digest ∧
      q.stableID = p.stableID
  untaken : ∀ p ∈ before, ∀ q ∈ after, q.stableID = p.stableID →
    q.generateStableID digest = p.generateStableID digest

/-- A restart on the nodes delivered last keeps every identity. -/
def SurvivesRestart (w : InForce digest) : Prop :=
  ∀ again, DeliverSame again w.delivery →
    ∃ nodes, initializeConfiguration digest again.nodes = .ok nodes ∧
      IdentitiesSurvive digest w.proxies nodes

/-- Every node in force carries the identity of its own configuration. -/
def OwnIdentities (digest : Text → Text) (proxies : List ProxyConfig) : Prop :=
  ∀ p ∈ proxies, p.stableID = p.generateStableID digest

/-- What holds of the nodes in force: their identities are settled, and they
are the nodes of the delivery, once each. -/
structure InForce.Tracks (w : InForce digest) : Prop where
  settled : Settled w.proxies
  distinct : (w.proxies.map (ProxyConfig.generateStableID digest)).Nodup
  delivered : ∀ id, id ∈ w.proxies.map (ProxyConfig.generateStableID digest) ↔
    id ∈ w.delivery.nodes.map (ProxyConfig.generateStableID digest)

theorem validated_ok_iff {proxies out : List ProxyConfig} :
    validated digest (proxies.map some) = .ok out ↔
      (∀ p ∈ proxies, trimSpace (p.effectiveStableID digest) ≠ []) ∧
      (proxies.map (identityKey digest)).Nodup ∧
      out = proxies.map (trimmed digest) := by
  have hreduce : (proxies.map (some ∘ trimmed digest)).reduceOption =
      proxies.map (trimmed digest) := by
    rw [← List.map_map, List.reduceOption, List.filterMap_map]
    exact List.filterMap_some
  unfold validated
  constructor
  · intro h
    cases hvalid : validateStableIDs digest (proxies.map some) with
    | error e => simp [hvalid, Functor.map, Except.map] at h
    | ok checked =>
        obtain ⟨hblank, hnodup, hchecked⟩ :=
          (validateStableIDs_ok_iff digest proxies checked).mp hvalid
        refine ⟨hblank, hnodup, ?_⟩
        rw [hvalid] at h
        have hout : checked.reduceOption = out := Except.ok.inj h
        rw [← hout, hchecked, hreduce]
  · rintro ⟨hblank, hnodup, rfl⟩
    rw [(validateStableIDs_ok_iff digest proxies _).mpr
      ⟨hblank, hnodup, rfl⟩]
    exact congrArg Except.ok hreduce

/-- `PrepareProxyConfigs` writes positions and missing identities. -/
theorem prepareProxyConfigs_map {B : Type} {f : ProxyConfig → B}
    (hindex : ∀ (p : ProxyConfig) i, f { p with index := i } = f p)
    {proxies : List ProxyConfig} (hids : ∀ p ∈ proxies, p.stableID ≠ []) :
    (prepareProxyConfigs digest proxies).map f = proxies.map f := by
  have hsame : ∀ p ∈ proxies, ∀ i : Int,
      f (fillStableID digest { p with index := i }) = f p := by
    intro p hp i
    have hfill : fillStableID digest { p with index := i } =
        { p with index := i } := by
      rw [fillStableID]
      congr 1
      exact if_neg (hids p hp)
    rw [hfill, hindex]
  apply List.ext_getElem
  · simp [prepareProxyConfigs]
  · intro i hi hi'
    simp only [prepareProxyConfigs, List.getElem_map, List.getElem_mapIdx]
    exact hsame _ (List.getElem_mem _) _

theorem copyKey_of_own (hdigest : HexDigest digest) {p : ProxyConfig}
    (hown : p.stableID = p.generateStableID digest) :
    copyKey digest p = p.generateStableID digest := by
  have htrim : trimSpace p.stableID = p.stableID :=
    hown ▸ hdigest.trimSpace_digest _
  have hne : p.stableID ≠ [] := hown ▸ hdigest.ne_nil _
  rw [copyKey]
  simp only [htrim, if_neg hne]
  rw [hown]
  exact hdigest.toLower_digest _

theorem mem_deduplicated {proxies : List ProxyConfig} {p : ProxyConfig}
    (hp : p ∈ deduplicated digest proxies) : p ∈ proxies := by
  have hkept := (deduplicateLoop_sublist _ _).mem
    (List.reduceOption_mem_iff.mp hp)
  simpa using hkept

namespace Delivery

/-- Deduplication leaves one node of every configuration. -/
theorem deduplicated_nodup (hdigest : HexDigest digest)
    (d : Delivery digest) :
    ((deduplicated digest d.nodes).map
      (ProxyConfig.generateStableID digest)).Nodup := by
  have hkeys := @deduplicateLoop_nodup digest ∅ (d.nodes.map some)
  rwa [← List.map_congr_left (f := copyKey digest)]
  intro p hp
  exact copyKey_of_own hdigest (d.fresh p (mem_deduplicated hp))

theorem deduplicated_ids (hdigest : HexDigest digest) (d : Delivery digest)
    (id : Text) :
    id ∈ (deduplicated digest d.nodes).map
        (ProxyConfig.generateStableID digest) ↔
      id ∈ d.nodes.map (ProxyConfig.generateStableID digest) := by
  constructor
  · intro hid
    obtain ⟨p, hp, rfl⟩ := List.mem_map.mp hid
    exact List.mem_map_of_mem (mem_deduplicated hp)
  · intro hid
    obtain ⟨p, hp, rfl⟩ := List.mem_map.mp hid
    have hsome : some p ∈ d.nodes.map some := List.mem_map_of_mem hp
    rcases @deduplicateLoop_covers digest ∅ _ _ hsome with
      hseen | ⟨kept, hkept, hsame⟩
    · simp at hseen
    · have hkept' : kept ∈ deduplicated digest d.nodes :=
        List.reduceOption_mem_iff.mpr hkept
      rw [copyKey_of_own hdigest (d.fresh p hp),
        copyKey_of_own hdigest (d.fresh _ (mem_deduplicated hkept'))] at hsame
      exact hsame ▸ List.mem_map_of_mem hkept'

end Delivery

/-- What a restart has to do with: the identity generated from a node's
configuration and the one it carries. -/
def identities (digest : Text → Text) (p : ProxyConfig) : Text × Text :=
  (p.generateStableID digest, p.stableID)

theorem map_generateStableID (proxies : List ProxyConfig) :
    proxies.map (ProxyConfig.generateStableID digest) =
      (proxies.map (identities digest)).map Prod.fst := by
  rw [List.map_map]
  rfl

theorem ownIdentities_iff {proxies : List ProxyConfig} :
    OwnIdentities digest proxies ↔
      ∀ ids ∈ proxies.map (identities digest), ids.2 = ids.1 := by
  rw [List.forall_mem_map]
  rfl

theorem OwnIdentities.settled (hdigest : HexDigest digest)
    {proxies : List ProxyConfig} (hown : OwnIdentities digest proxies)
    (hdistinct :
      (proxies.map (ProxyConfig.generateStableID digest)).Nodup) :
    Settled proxies := by
  have hlower : proxies.map (fun o => toLower o.stableID) =
      proxies.map (ProxyConfig.generateStableID digest) := by
    apply List.map_congr_left
    intro o ho
    rw [hown o ho]
    exact hdigest.toLower_digest _
  refine ⟨?_, ?_, hlower ▸ hdistinct⟩
  · intro o ho
    exact hown o ho ▸ hdigest.ne_nil _
  · intro o ho
    exact hown o ho ▸ hdigest.trimSpace_digest _

/-- Settled identities are accepted as they are. -/
theorem validated_settled {proxies : List ProxyConfig}
    (h : Settled proxies) :
    validated digest (proxies.map some) = .ok proxies := by
  have htrimmed : ∀ o ∈ proxies, trimmed digest o = o := by
    intro o ho
    rw [trimmed, h.effectiveStableID_eq ho, h.trimmed o ho]
  have hkey : proxies.map (identityKey digest) =
      proxies.map (fun o => toLower o.stableID) := by
    apply List.map_congr_left
    intro o ho
    rw [identityKey, h.effectiveStableID_eq ho, h.trimmed o ho]
  refine validated_ok_iff.mpr ⟨?_, hkey ▸ h.distinct, ?_⟩
  · intro o ho
    rw [h.effectiveStableID_eq ho, h.trimmed o ho]
    exact h.nonempty o ho
  · rw [List.map_congr_left htrimmed, List.map_id']

/-- A start is never refused, and every node gets the identity of its own
configuration. -/
theorem initializeConfiguration_ok (hdigest : HexDigest digest)
    (d : Delivery digest) :
    ∃ out, initializeConfiguration digest d.nodes = .ok out ∧
      OwnIdentities digest out ∧
      (out.map (ProxyConfig.generateStableID digest)).Nodup ∧
      ∀ id, id ∈ out.map (ProxyConfig.generateStableID digest) ↔
        id ∈ d.nodes.map (ProxyConfig.generateStableID digest) := by
  have hfresh : OwnIdentities digest (deduplicated digest d.nodes) :=
    fun p hp => d.fresh p (mem_deduplicated hp)
  have hids : ∀ p ∈ deduplicated digest d.nodes, p.stableID ≠ [] :=
    fun p hp => hfresh p hp ▸ hdigest.ne_nil _
  have hprepared := @prepareProxyConfigs_map digest _ (identities digest)
    (fun _ _ => rfl) _ hids
  have hown : OwnIdentities digest
      (prepareProxyConfigs digest (deduplicated digest d.nodes)) := by
    rw [ownIdentities_iff, hprepared, ← ownIdentities_iff]
    exact hfresh
  have hgen : (prepareProxyConfigs digest (deduplicated digest d.nodes)).map
      (ProxyConfig.generateStableID digest) =
        (deduplicated digest d.nodes).map
          (ProxyConfig.generateStableID digest) := by
    rw [map_generateStableID, hprepared, ← map_generateStableID]
  have hnodup := d.deduplicated_nodup hdigest
  rw [← hgen] at hnodup
  refine ⟨_, validated_settled (hown.settled hdigest hnodup), hown, hnodup, ?_⟩
  intro id
  rw [hgen]
  exact d.deduplicated_ids hdigest id

theorem Settled.congr {proxies others : List ProxyConfig}
    (hsame : proxies.map ProxyConfig.stableID =
      others.map ProxyConfig.stableID) (h : Settled others) :
    Settled proxies := by
  have hmem : ∀ o ∈ proxies, ∃ other ∈ others,
      other.stableID = o.stableID := by
    intro o ho
    have hid := @List.mem_map_of_mem _ _ _ _ ProxyConfig.stableID ho
    rw [hsame] at hid
    exact List.mem_map.mp hid
  refine ⟨?_, ?_, ?_⟩
  · intro o ho
    obtain ⟨other, hother, hid⟩ := hmem o ho
    exact hid ▸ h.nonempty other hother
  · intro o ho
    obtain ⟨other, hother, hid⟩ := hmem o ho
    exact hid ▸ h.trimmed other hother
  · have hlower := congrArg (List.map toLower) hsame
    rw [List.map_map, List.map_map] at hlower
    exact (congrArg List.Nodup hlower).mpr h.distinct

/-- What `ValidateStableIDs` accepts is settled. -/
theorem settled_trimmed {proxies : List ProxyConfig}
    (hblank : ∀ p ∈ proxies, trimSpace (p.effectiveStableID digest) ≠ [])
    (hnodup : (proxies.map (identityKey digest)).Nodup) :
    Settled (proxies.map (trimmed digest)) := by
  refine ⟨?_, ?_, ?_⟩
  · rw [List.forall_mem_map]
    exact hblank
  · rw [List.forall_mem_map]
    intro p hp
    exact trimSpace_idem _
  · rw [List.map_map]
    exact hnodup

/-- An applied refresh leaves every new node with the identity of the old node
it got, or its own. -/
theorem FeedRefresh.candidate_identities (hdigest : HexDigest digest)
    {w : InForce digest} (hold : Settled w.proxies) {r : FeedRefresh digest}
    {newConfigs : List ProxyConfig} (h : r.candidate w = .ok newConfigs) :
    (prepareProxyConfigs digest newConfigs).map (identities digest) =
      (served (askedFor digest w.proxies r.new) [] r.new).map (fun got =>
        (got.1.generateStableID digest,
          finalLabel (ProxyConfig.generateStableID digest)
            ProxyConfig.stableID got)) ∧
      Settled (prepareProxyConfigs digest newConfigs) := by
  rw [candidate, preserveStableIDs_new hold] at h
  obtain ⟨hblank, hnodup, rfl⟩ := validated_ok_iff.mp h
  have hsettled := settled_trimmed hblank hnodup
  have hprepared := @prepareProxyConfigs_map digest _ (identities digest)
    (fun _ _ => rfl) _ hsettled.nonempty
  constructor
  · rw [hprepared, List.map_map, List.map_map]
    apply List.map_congr_left
    intro got hserved
    exact congrArg (Prod.mk (got.1.generateStableID digest))
      (refreshed_identity hdigest hold hserved).2
  · exact hsettled.congr (prepareProxyConfigs_map (fun _ _ => rfl)
      hsettled.nonempty)

namespace InForce.Tracks

variable {w : InForce digest} {r : FeedRefresh digest}

/-- A refresh that is applied, and one that is not. -/
theorem step_cases (r : FeedRefresh digest) :
    (¬ r.Applied w ∧ feedRefreshStep w r = w) ∨
      ∃ newConfigs, r.Applied w ∧ r.candidate w = .ok newConfigs ∧
        feedRefreshStep w r =
          { proxies := prepareProxyConfigs digest newConfigs,
            delivery := r.delivery } := by
  unfold feedRefreshStep
  cases hcandidate : r.candidate w with
  | error e =>
      refine Or.inl ⟨?_, rfl⟩
      rintro ⟨-, newConfigs, hok⟩
      cases hcandidate.symm.trans hok
  | ok newConfigs =>
      by_cases hcarried : r.carriedOut = true
      · refine Or.inr ⟨newConfigs, ⟨hcarried, newConfigs, hcandidate⟩, rfl, ?_⟩
        simp only [hcarried, ↓reduceIte]
      · refine Or.inl ⟨fun h => hcarried h.1, ?_⟩
        simp only [hcarried, Bool.false_eq_true, ↓reduceIte]

/-- A refresh leaves settled identities and the nodes of its delivery. -/
theorem step (hdigest : HexDigest digest) (h : w.Tracks)
    (r : FeedRefresh digest) : (feedRefreshStep w r).Tracks := by
  rcases step_cases r with ⟨-, hsame⟩ | ⟨newConfigs, -, hcandidate, hsame⟩
  · rwa [hsame]
  · rw [hsame]
    obtain ⟨hids, hsettled⟩ :=
      FeedRefresh.candidate_identities hdigest h.settled hcandidate
    have hgen : (prepareProxyConfigs digest newConfigs).map
        (ProxyConfig.generateStableID digest) =
          r.new.map (ProxyConfig.generateStableID digest) := by
      rw [map_generateStableID, hids, List.map_map]
      conv_rhs =>
        rw [← served_map_fst (askedFor digest w.proxies r.new) [] r.new,
          List.map_map]
      rfl
    refine ⟨hsettled, ?_, ?_⟩
    · exact hgen ▸ r.delivery.deduplicated_nodup hdigest
    · intro id
      rw [hgen]
      exact r.delivery.deduplicated_ids hdigest id

/-- After a start every node in force carries the identity of its own
configuration. -/
theorem start (hdigest : HexDigest digest) {d : Delivery digest}
    (hstart : initializeConfiguration digest d.nodes = .ok w.proxies)
    (hdelivery : w.delivery = d) :
    w.Tracks ∧ OwnIdentities digest w.proxies := by
  obtain ⟨out, hout, hown, hnodup, hids⟩ := initializeConfiguration_ok hdigest d
  have hsame : out = w.proxies := Except.ok.inj (hout.symm.trans hstart)
  subst hdelivery
  rw [hsame] at hown hnodup hids
  exact ⟨⟨hown.settled hdigest hnodup, hnodup, hids⟩, hown⟩

/-- From a state in which every node carries its own identity, an applied
refresh leads to such a state exactly if it leaves the owners alone. -/
theorem own_step_iff (hdigest : HexDigest digest) (h : w.Tracks)
    (hown : OwnIdentities digest w.proxies) (r : FeedRefresh digest)
    (happlied : r.Applied w) :
    OwnIdentities digest (feedRefreshStep w r).proxies ↔
      r.LeavesOwners w := by
  rcases step_cases r with ⟨hnot, -⟩ | ⟨newConfigs, -, hcandidate, hsame⟩
  · exact absurd happlied hnot
  obtain ⟨hids, -⟩ :=
    FeedRefresh.candidate_identities hdigest h.settled hcandidate
  rw [hsame, ownIdentities_iff, hids, List.forall_mem_map]
  constructor
  · intro hfinal before n after o hsplit hasked
    have howner := hown o (askedFor_mem hasked)
    cases hgot : granted (askedFor digest w.proxies r.new) before n with
    | some o' =>
        have hserved : (n, some o') ∈
            served (askedFor digest w.proxies r.new) [] r.new :=
          mem_served.mpr ⟨before, after, hsplit, hgot.symm⟩
        have hsame : o' = o :=
          Option.some.inj ((granted_eq_some_iff.mp hgot).1.symm.trans hasked)
        have hid : o'.stableID = n.generateStableID digest :=
          hfinal _ hserved
        left
        rw [← hid, hsame, howner]
    | none =>
        obtain ⟨other, hother, hwants⟩ := granted_eq_none_iff.mp hgot o hasked
        -- The first who asks gets the old node.
        obtain ⟨first, hfirst⟩ := served_of_wanted hother hwants
        obtain ⟨front, rest, hbefore, hgranted⟩ := mem_served.mp hfirst
        have hserved : (first, some o) ∈
            served (askedFor digest w.proxies r.new) [] r.new :=
          mem_served.mpr
            ⟨front, rest ++ n :: after, by simp [hsplit, hbefore], hgranted⟩
        have hid : o.stableID = first.generateStableID digest :=
          hfinal _ hserved
        refine Or.inr ⟨first, by simp [hbefore], ?_⟩
        rw [← hid, howner]
  · rintro hleaves ⟨n, goods⟩ hserved
    cases goods with
    | none => rfl
    | some o =>
        obtain ⟨before, after, hsplit, hgranted⟩ := mem_served.mp hserved
        obtain ⟨hasked, hfree⟩ := granted_eq_some_iff.mp hgranted.symm
        have ho := askedFor_mem hasked
        have howner := hown o ho
        have hkeeps : n.generateStableID digest =
            o.generateStableID digest := by
          rcases hleaves before n after o hsplit hasked with
            hsame | ⟨earlier, hearlier, hsame⟩
          · exact hsame
          · exact absurd
              (h.settled.askedFor_owner ho (hsame.trans howner.symm))
              (hfree earlier hearlier)
        exact howner.trans hkeeps.symm

/-- After a restart on the nodes of the last delivery every node has the
identity it had, and no other node has it, exactly if every node in force
carried the identity of its own configuration. -/
theorem restart_iff (hdigest : HexDigest digest) (h : w.Tracks)
    {again : Delivery digest} (hagain : DeliverSame again w.delivery) :
    ∃ after, initializeConfiguration digest again.nodes = .ok after ∧
      (IdentitiesSurvive digest w.proxies after ↔
        OwnIdentities digest w.proxies) := by
  obtain ⟨after, hafter, hown, -, hids⟩ :=
    initializeConfiguration_ok hdigest again
  have hgens : ∀ nodes : List ProxyConfig,
      (nodes.map fun p => { p with index := 0 }).map
        (ProxyConfig.generateStableID digest) =
          nodes.map (ProxyConfig.generateStableID digest) := by
    intro nodes
    rw [List.map_map]
    rfl
  have hperm := hagain.map (ProxyConfig.generateStableID digest)
  rw [hgens, hgens] at hperm
  have hsame : ∀ id, id ∈ after.map (ProxyConfig.generateStableID digest) ↔
      id ∈ w.proxies.map (ProxyConfig.generateStableID digest) := by
    intro id
    rw [hids, hperm.mem_iff, h.delivered]
  refine ⟨after, hafter, ?_⟩
  constructor
  · intro hsurvive p hp
    obtain ⟨q, hq, hgen, hid⟩ := hsurvive.kept p hp
    rw [← hid, hown q hq, hgen]
  · intro howned
    refine ⟨?_, ?_⟩
    · intro p hp
      obtain ⟨q, hq, hgen⟩ := List.mem_map.mp
        ((hsame _).mpr (List.mem_map_of_mem hp))
      refine ⟨q, hq, hgen, ?_⟩
      rw [hown q hq, hgen, howned p hp]
    · intro p hp q hq hid
      rw [← hown q hq, hid, howned p hp]

theorem survivesRestart_iff (hdigest : HexDigest digest) (h : w.Tracks) :
    SurvivesRestart w ↔ OwnIdentities digest w.proxies := by
  constructor
  · intro hsurvives
    obtain ⟨nodes, hnodes, hkept⟩ :=
      hsurvives w.delivery (List.Perm.refl _)
    obtain ⟨after, hafter, hiff⟩ :=
      h.restart_iff hdigest (List.Perm.refl _ : DeliverSame w.delivery _)
    have hsame : nodes = after := Except.ok.inj (hnodes.symm.trans hafter)
    exact hiff.mp (hsame ▸ hkept)
  · intro hown again hagain
    obtain ⟨after, hafter, hiff⟩ := h.restart_iff hdigest hagain
    exact ⟨after, hafter, hiff.mpr hown⟩

end InForce.Tracks

/-- Every restart along a run of refreshes keeps every identity exactly if
every applied refresh leaves the owners of the old nodes alone: whoever asks
for an old node has its configuration, or comes after one that has it. -/
theorem restarts_survive_iff (hdigest : HexDigest digest)
    (first : Delivery digest) {w : InForce digest}
    (hstart : initializeConfiguration digest first.nodes = .ok w.proxies)
    (hdelivery : w.delivery = first) (refreshes : List (FeedRefresh digest)) :
    (∀ before after, refreshes = before ++ after →
      SurvivesRestart (run feedRefreshStep w before)) ↔
      Admissible feedRefreshStep (fun w r => r.Applied w → r.LeavesOwners w) w
        refreshes := by
  obtain ⟨htracks, hown⟩ := InForce.Tracks.start hdigest hstart hdelivery
  clear hstart hdelivery
  induction refreshes generalizing w with
  | nil =>
      refine iff_of_true ?_ (admissible_nil w)
      intro before after hsplit
      obtain ⟨rfl, -⟩ := List.append_eq_nil_iff.mp hsplit.symm
      exact (htracks.survivesRestart_iff hdigest).mpr hown
  | cons r rest ih =>
      have hnext := htracks.step hdigest r
      rw [admissible_cons]
      -- The first refresh that disturbs an owner is the first restart lost.
      by_cases hkeeps : OwnIdentities digest (feedRefreshStep w r).proxies
      · have hleaves : r.Applied w → r.LeavesOwners w :=
          fun happlied => (htracks.own_step_iff hdigest hown r happlied).mp
            hkeeps
        rw [and_iff_right hleaves, ← ih hnext hkeeps]
        constructor
        · intro hall before after hsplit
          exact hall (r :: before) after (by rw [hsplit]; rfl)
        · intro hall before after hsplit
          cases before with
          | nil => exact (htracks.survivesRestart_iff hdigest).mpr hown
          | cons head before =>
              obtain ⟨rfl, hrest⟩ := List.cons.inj hsplit
              exact hall before after hrest
      · refine iff_of_false ?_ ?_
        · intro hall
          exact hkeeps ((hnext.survivesRestart_iff hdigest).mp
            (hall [r] rest rfl))
        · rintro ⟨hleaves, -⟩
          rcases InForce.Tracks.step_cases r with
            ⟨-, hsame⟩ | ⟨-, happlied, -, -⟩
          · rw [hsame] at hkeeps
            exact hkeeps hown
          · exact hkeeps ((htracks.own_step_iff hdigest hown r happlied).mpr
              (hleaves happlied))

namespace Sample

/-- The subscription before its server moved, and after. -/
def beforeMove : Delivery sampleDigest where
  nodes := [current]
  fresh := by decide

def afterMove : Delivery sampleDigest where
  nodes := [{ namesake with
    stableID := sampleDigest "vless|b.example.com|443|u1" }]
  fresh := by decide

def started : InForce sampleDigest where
  proxies := [current]
  delivery := beforeMove

/-- The node under a new name: its configuration stays. -/
def afterRename : Delivery sampleDigest where
  nodes := [{ renamed with stableID := current.stableID }]
  fresh := by decide

theorem restarts_survive_iff_sample :
    (∀ before after, [FeedRefresh.mk afterRename true] = before ++ after →
      SurvivesRestart (run feedRefreshStep started before)) ↔
      Admissible feedRefreshStep (fun w r => r.Applied w → r.LeavesOwners w)
        started [FeedRefresh.mk afterRename true] :=
  restarts_survive_iff sampleDigest_hex beforeMove (by decide) rfl _

/-- The server of the node moves and the node keeps its identity by its name;
the restart on the same feed gives it another one. -/
theorem moved_node_loses_identity :
    HexDigest sampleDigest ∧
      initializeConfiguration sampleDigest beforeMove.nodes =
        .ok started.proxies ∧
      (FeedRefresh.mk afterMove true).Applied started ∧
      ¬ SurvivesRestart
        (run feedRefreshStep started [FeedRefresh.mk afterMove true]) := by
  refine ⟨sampleDigest_hex, by decide, ⟨rfl, by exact ⟨_, rfl⟩⟩, ?_⟩
  intro hsurvives
  obtain ⟨nodes, hnodes, hkept⟩ := hsurvives afterMove (List.Perm.refl _)
  have hmoved : (run feedRefreshStep started
      [FeedRefresh.mk afterMove true]).proxies =
        [{ namesake with stableID := current.stableID }] := by
    decide
  have hrestarted : initializeConfiguration sampleDigest afterMove.nodes =
      .ok afterMove.nodes := by
    decide
  rw [hmoved] at hkept
  obtain ⟨q, hq, -, hid⟩ := hkept.kept _ List.mem_cons_self
  rw [← Except.ok.inj (hrestarted.symm.trans hnodes)] at hq
  obtain rfl := List.mem_singleton.mp hq
  revert hid
  decide

end Sample

end XrayChecker.Xray

import XrayChecker.Go.Decimal
import XrayChecker.Machine.Grants
import XrayChecker.Xray.StableIDs

/-
When a subscription refresh keeps every identity.  Each new node asks for at
most one old node, and an old node goes to the first who asks; the refresh is
right exactly if no new node asks before the one that has the old node's
configuration or identity.
-/

namespace XrayChecker.Xray

open Go Machine

/-- The digits `%x` writes. -/
def hexDigits : List Char :=
  ['0', '1', '2', '3', '4', '5', '6', '7', '8', '9', 'a', 'b', 'c', 'd', 'e',
    'f']

/-- The first 16 hex digits of a SHA-256 sum are written in lower case. -/
structure HexDigest (digest : Text → Text) : Prop where
  length : ∀ t, (digest t).length = 16
  digits : ∀ t, ∀ c ∈ digest t, c ∈ hexDigits

namespace HexDigest

variable {digest : Text → Text}

theorem ne_nil (h : HexDigest digest) (t : Text) : digest t ≠ [] := by
  intro hempty
  have := h.length t
  simp [hempty] at this

theorem toLower_digest (h : HexDigest digest) (t : Text) :
    toLower (digest t) = digest t := by
  have hdigits : ∀ c ∈ hexDigits, toLowerRune c = c := by
    simp [hexDigits, toLowerRune]
  rw [toLower]
  conv_rhs => rw [← List.map_id (digest t)]
  apply List.map_congr_left
  intro c hc
  exact hdigits c (h.digits t c hc)

theorem trimSpace_digest (h : HexDigest digest) (t : Text) :
    trimSpace (digest t) = digest t := by
  have hdigits : ∀ c ∈ hexDigits, isSpace c = false := by
    simp [hexDigits, isSpace]
  rw [trimSpace_eq_self_iff]
  exact ⟨fun c hc => hdigits c (h.digits t c (List.mem_of_mem_head? hc)),
    fun c hc => hdigits c (h.digits t c (List.mem_of_mem_getLast? hc))⟩

end HexDigest

/-- The only node that has a key. -/
def onlyWith (proxies : List ProxyConfig) (keyFn : ProxyConfig → Text)
    (key : Text) : Option ProxyConfig :=
  if key = [] then none
  else (uniqueEntry (proxies.filter (fun p => keyFn p = key))).join

/-- The only old node with the name key of a new node, if no other new node
has that key. -/
def onlyNamesake (old new : List ProxyConfig) (keyFn : ProxyConfig → Text)
    (proxy : ProxyConfig) : Option ProxyConfig :=
  if new.countP (fun p => keyFn p = keyFn proxy) = 1 then
    onlyWith old keyFn (keyFn proxy)
  else none

/-- The old node a new node asks for: the one that carries its generated
identity, else the one with its configuration, else its namesake in the
subscription, else its namesake. -/
def askedFor (digest : Text → Text) (old new : List ProxyConfig)
    (proxy : ProxyConfig) : Option ProxyConfig :=
  onlyWith old ProxyConfig.stableID (proxy.generateStableID digest) <|>
    onlyWith old (ProxyConfig.generateStableID digest)
      (proxy.generateStableID digest) <|>
    onlyNamesake old new strictIdentityKey proxy <|>
    onlyNamesake old new relaxedIdentityKey proxy

theorem onlyWith_mem {proxies : List ProxyConfig} {keyFn : ProxyConfig → Text}
    {key : Text} {proxy : ProxyConfig}
    (h : onlyWith proxies keyFn key = some proxy) : proxy ∈ proxies := by
  unfold onlyWith at h
  split at h
  · cases h
  · cases hfilter : proxies.filter (fun p => decide (keyFn p = key)) with
    | nil => simp [hfilter, uniqueEntry] at h
    | cons first rest =>
        cases rest with
        | nil =>
            have hfirst : first = proxy := by
              simpa [hfilter, uniqueEntry] using h
            subst hfirst
            have : first ∈ proxies.filter (fun p => decide (keyFn p = key)) :=
              by simp [hfilter]
            exact List.mem_of_mem_filter this
        | cons _ _ => simp [hfilter, uniqueEntry] at h

theorem onlyNamesake_mem {old new : List ProxyConfig}
    {keyFn : ProxyConfig → Text} {proxy found : ProxyConfig}
    (h : onlyNamesake old new keyFn proxy = some found) : found ∈ old := by
  unfold onlyNamesake at h
  split at h
  · exact onlyWith_mem h
  · cases h

/-- Only old nodes are asked for. -/
theorem askedFor_mem {digest : Text → Text} {old new : List ProxyConfig}
    {proxy found : ProxyConfig}
    (h : askedFor digest old new proxy = some found) : found ∈ old := by
  simp only [askedFor, Option.orElse_eq_orElse, Option.orElse_eq_or,
    Option.or_eq_some_iff] at h
  rcases h with h | ⟨-, h | ⟨-, h | ⟨-, h⟩⟩⟩
  · exact onlyWith_mem h
  · exact onlyWith_mem h
  · exact onlyNamesake_mem h
  · exact onlyNamesake_mem h

theorem nameMatch_eq (old new : List ProxyConfig)
    (keyFn : ProxyConfig → Text) (proxy : ProxyConfig) :
    nameMatch (uniqueProxyMap (old.map some) keyFn)
        (identityCounts (new.map some) keyFn) (keyFn proxy) =
      onlyNamesake old new keyFn proxy := by
  unfold nameMatch onlyNamesake onlyWith
  by_cases hempty : keyFn proxy = []
  · simp [hempty]
  · rw [identityCounts_get new keyFn hempty, uniqueProxyMap_get]
    simp [hempty]

/-- The look-ups of the loop body find the old node asked for. -/
theorem matchOld_eq (digest : Text → Text) (old new : List ProxyConfig)
    (proxy : ProxyConfig) (stableID : Text) :
    (identityTables digest (old.map some) (new.map some)).matchOld
        (proxy.generateStableID digest)
        { proxy with stableID := stableID } =
      askedFor digest old new proxy := by
  have hstrict : strictIdentityKey { proxy with stableID := stableID } =
      strictIdentityKey proxy := rfl
  have hrelaxed : relaxedIdentityKey { proxy with stableID := stableID } =
      relaxedIdentityKey proxy := rfl
  have honly : ∀ keyFn key,
      (uniqueProxyMap (old.map some) keyFn)[key]?.join =
        onlyWith old keyFn key := by
    intro keyFn key
    rw [uniqueProxyMap_get, onlyWith]
    split <;> rfl
  simp only [IdentityTables.matchOld, identityTables, hstrict, hrelaxed,
    nameMatch_eq, honly, askedFor]

section

variable {digest : Text → Text} {old new : List ProxyConfig}

/-- What an accepted old list looks like: every identity is trimmed and not
empty, and no two agree up to letter case. -/
structure Settled (old : List ProxyConfig) : Prop where
  nonempty : ∀ o ∈ old, o.stableID ≠ []
  trimmed : ∀ o ∈ old, trimSpace o.stableID = o.stableID
  distinct : (old.map (fun o => toLower o.stableID)).Nodup

theorem settled_of_valid
    (hold : validateStableIDs digest (old.map some) = .ok (old.map some)) :
    Settled old := by
  obtain ⟨hblank, hdistinct, hsame⟩ :=
    (validateStableIDs_ok_iff digest old _).mp hold
  have hid : ∀ o ∈ old, o.stableID = trimSpace
    (o.effectiveStableID digest) := by
    intro o ho
    have := List.map_inj_left.mp hsame o ho
    exact congrArg ProxyConfig.stableID (Option.some.inj this)
  have hkey : old.map (fun o => toLower o.stableID) =
      old.map (identityKey digest) := by
    apply List.map_congr_left
    intro o ho
    rw [hid o ho, identityKey]
  refine ⟨?_, ?_, hkey ▸ hdistinct⟩
  · intro o ho
    rw [hid o ho]
    exact hblank o ho
  · intro o ho
    rw [hid o ho, trimSpace_idem]

namespace Settled

theorem effectiveStableID_eq (h : Settled old) {o : ProxyConfig}
    (ho : o ∈ old) : o.effectiveStableID digest = o.stableID :=
  if_neg (h.nonempty o ho)

/-- Two old nodes whose identities agree up to letter case are one. -/
theorem eq_of_toLower (h : Settled old) {o o' : ProxyConfig} (ho : o ∈ old)
    (ho' : o' ∈ old) (hsame : toLower o.stableID = toLower o'.stableID) :
    o = o' :=
  List.inj_on_of_nodup_map h.distinct ho ho' hsame

/-- An old node is the only one with its identity. -/
theorem onlyWith_stableID (h : Settled old) {o : ProxyConfig} (ho : o ∈ old) :
    onlyWith old ProxyConfig.stableID o.stableID = some o := by
  have hfilter : old.filter (fun p => decide (p.stableID = o.stableID)) =
      [o] := by
    have hnodup : old.Nodup := List.Nodup.of_map _ h.distinct
    apply List.perm_singleton.mp
    rw [List.perm_ext_iff_of_nodup (hnodup.filter _) (List.nodup_singleton o)]
    intro p
    rw [List.mem_filter, List.mem_singleton, decide_eq_true_eq]
    constructor
    · rintro ⟨hp, hsame⟩
      exact h.eq_of_toLower hp ho (congrArg toLower hsame)
    · rintro rfl
      exact ⟨ho, rfl⟩
  rw [onlyWith, if_neg (h.nonempty o ho), hfilter]
  rfl

/-- A new node whose generated identity is that of an old node asks for that
node. -/
theorem askedFor_owner (h : Settled old) {o n : ProxyConfig} (ho : o ∈ old)
    (hid : n.generateStableID digest = o.stableID) :
    askedFor digest old new n = some o := by
  rw [askedFor, hid, h.onlyWith_stableID ho]
  rfl

/-- Filling the identities of a settled list changes nothing. -/
theorem fill_eq (h : Settled old) :
    old.map (fillStableID digest) = old := by
  conv_rhs => rw [← List.map_id old]
  apply List.map_congr_left
  intro o ho
  rw [fillStableID, h.effectiveStableID_eq ho]
  rfl

end Settled

/-- The new node as `PreserveStableIDs` leaves it, given what it got. -/
def refreshed (digest : Text → Text) (got : ProxyConfig × Option ProxyConfig) :
    ProxyConfig :=
  { got.1 with
    stableID := finalLabel (ProxyConfig.generateStableID digest)
      ProxyConfig.stableID got }

/-- `PreserveStableIDs` serves the new nodes in their order. -/
theorem preserveStableIDs_new (hold : Settled old) :
    (preserveStableIDs digest (old.map some) (new.map some)).new =
      ((served (askedFor digest old new) [] new).map
        (refreshed digest)).map some := by
  have hfill : (old.map some).map (Option.map (fillStableID digest)) =
      old.map some := by
    rw [List.map_map]
    conv_rhs => rw [← @Settled.fill_eq digest old hold, List.map_map]
    rfl
  rw [preserveStableIDs, hfill, List.foldl_map]
  -- The used identities are those of the old nodes asked for so far.
  refine (foldl_invariant
    (fun done (acc : Preserving) =>
      acc.new = ((served (askedFor digest old new) [] done).map
        (refreshed digest)).map some ∧
      ∀ o ∈ old, acc.usedOldIDs[o.stableID]?.getD false = true ↔
        ∃ n ∈ done, askedFor digest old new n = some o)
    new (by simp [served]) ?_).1
  rintro done n acc hn ⟨hnew, hused⟩
  rw [served_append, List.nil_append, List.map_append, List.map_append,
    ← hnew]
  simp only [preserveStep, matchOld_eq]
  cases hasked : askedFor digest old new n with
  | none =>
      have hgot : granted (askedFor digest old new) done n = none :=
        granted_eq_none_iff.mpr (by simp [hasked])
      refine ⟨by simp [hgot, refreshed, finalLabel], ?_⟩
      intro o ho
      simp [hused o ho, hasked]
  | some old' =>
      have hin := askedFor_mem hasked
      have hempty := hold.nonempty old' hin
      simp only [assignPreservedStableID, hold.effectiveStableID_eq hin,
        hempty, false_or]
      by_cases htaken : ∃ n ∈ done, askedFor digest old new n = some old'
      · rw [if_pos ((hused old' hin).mpr htaken)]
        have hgot : granted (askedFor digest old new) done n = none := by
          rw [granted_eq_none_iff]
          intro b hb
          rw [hasked] at hb
          exact Option.some.inj hb ▸ htaken
        refine ⟨by simp [hgot, refreshed, finalLabel], ?_⟩
        intro o ho
        rw [hused o ho]
        constructor
        · rintro ⟨m, hm, hwants⟩
          exact ⟨m, List.mem_append_left _ hm, hwants⟩
        · rintro ⟨m, hm, hwants⟩
          rcases List.mem_append.mp hm with hm | hm
          · exact ⟨m, hm, hwants⟩
          · rw [List.mem_singleton.mp hm, hasked] at hwants
            exact Option.some.inj hwants ▸ htaken
      · rw [if_neg (fun h => htaken ((hused old' hin).mp h))]
        have hgot : granted (askedFor digest old new) done n = some old' := by
          rw [granted_eq_some_iff]
          exact ⟨hasked, fun m hm hwants => htaken ⟨m, hm, hwants⟩⟩
        refine ⟨by simp [hgot, refreshed, finalLabel], ?_⟩
        intro o ho
        rw [GoMap.get_insert]
        by_cases hsame : old'.stableID = o.stableID
        · have : old' = o :=
            hold.eq_of_toLower hin ho (congrArg toLower hsame)
          subst this
          simp [hasked]
        · rw [if_neg hsame, hused o ho]
          have hne : askedFor digest old new n ≠ some o := by
            rw [hasked]
            intro h
            exact hsame (congrArg ProxyConfig.stableID (Option.some.inj h))
          simp [or_and_right, exists_or, hne]

/-- A new node has the configuration of an old node, or the identity it was
given. -/
def Owns (digest : Text → Text) (n o : ProxyConfig) : Prop :=
  n.generateStableID digest = o.stableID ∨
    n.generateStableID digest = o.generateStableID digest

/-- What a refresh promises of the new list it leaves. -/
structure Refreshed (digest : Text → Text) (old : List ProxyConfig)
    (left : List (Option ProxyConfig)) : Prop where
  accepted : ∃ out, validateStableIDs digest left = .ok out
  taken : ∀ n, some n ∈ left → n.stableID ≠ n.generateStableID digest →
    ∃! o, o ∈ old ∧ o.stableID = n.stableID
  owned : ∀ n, some n ∈ left → ∀ o ∈ old, Owns digest n o →
    n.stableID = o.stableID

/-- Nobody asks for the old node of another: a new node with the configuration
or the identity of an old node asks for it before all others, and a new node
that gets nothing has an identity that differs from every old one asked for by
more than letter case. -/
structure Undisputed (digest : Text → Text) (old new : List ProxyConfig) :
    Prop where
  first : ∀ before n after, new = before ++ n :: after → ∀ o ∈ old,
    Owns digest n o → askedFor digest old new n = some o ∧
      ∀ earlier ∈ before, askedFor digest old new earlier ≠ some o
  spare : ∀ before n after, new = before ++ n :: after →
    (∀ o, askedFor digest old new n = some o →
      ∃ earlier ∈ before, askedFor digest old new earlier = some o) →
    ∀ other ∈ new, ∀ o, askedFor digest old new other = some o →
      n.generateStableID digest ≠ toLower o.stableID

/-- The identity a new node ends with is that of the old node it got, or its
own, as `ValidateStableIDs` reads it. -/
theorem refreshed_identity (hdigest : HexDigest digest) (hold : Settled old)
    {got : ProxyConfig × Option ProxyConfig}
    (hserved : got ∈ served (askedFor digest old new) [] new) :
    finalLabel (ProxyConfig.generateStableID digest) ProxyConfig.stableID
        got ≠ [] ∧
      trimSpace ((refreshed digest got).effectiveStableID digest) =
        finalLabel (ProxyConfig.generateStableID digest)
          ProxyConfig.stableID got := by
  obtain ⟨n, goods⟩ := got
  cases goods with
  | none =>
      have heff : (refreshed digest (n, none)).effectiveStableID digest =
          n.generateStableID digest := if_neg (hdigest.ne_nil _)
      rw [heff]
      exact ⟨hdigest.ne_nil _, hdigest.trimSpace_digest _⟩
  | some o =>
      obtain ⟨before, after, hsplit, hgranted⟩ := mem_served.mp hserved
      have ho := askedFor_mem (granted_eq_some_iff.mp hgranted.symm).1
      have heff : (refreshed digest (n, some o)).effectiveStableID digest =
          o.stableID := if_neg (hold.nonempty o ho)
      rw [heff]
      exact ⟨hold.nonempty o ho, hold.trimmed o ho⟩

/-- Between new nodes with distinct generated identities, `ValidateStableIDs`
accepts what `PreserveStableIDs` leaves exactly if no node that got nothing
has, up to letter case, an identity that somebody asks for. -/
theorem accepted_iff (hdigest : HexDigest digest) (hold : Settled old)
    (hnew : (new.map (ProxyConfig.generateStableID digest)).Nodup) :
    (∃ out, validateStableIDs digest
      (preserveStableIDs digest (old.map some) (new.map some)).new = .ok out) ↔
      ∀ n, (n, none) ∈ served (askedFor digest old new) [] new →
        ∀ other ∈ new, ∀ o, askedFor digest old new other = some o →
          n.generateStableID digest ≠ toLower o.stableID := by
  have hgot : ∀ got ∈ served (askedFor digest old new) [] new,
      trimSpace ((refreshed digest got).effectiveStableID digest) ≠ [] ∧
        identityKey digest (refreshed digest got) =
          finalLabel (ProxyConfig.generateStableID digest)
            (fun o => toLower o.stableID) got := by
    intro got hserved
    obtain ⟨hne, hid⟩ := refreshed_identity hdigest hold hserved
    rw [identityKey, hid]
    refine ⟨hne, ?_⟩
    cases hgoods : got.2 with
    | none =>
        simp only [finalLabel, hgoods]
        exact hdigest.toLower_digest _
    | some o => simp only [finalLabel, hgoods]
  have hlabel : ∀ a ∈ new, ∀ b, askedFor digest old new a = some b →
      ∀ a' ∈ new, ∀ b', askedFor digest old new a' = some b' →
        toLower b.stableID = toLower b'.stableID → b = b' :=
    fun a _ b hb a' _ b' hb' hsame =>
      hold.eq_of_toLower (askedFor_mem hb) (askedFor_mem hb') hsame
  rw [← finalLabel_nodup_iff hnew hlabel, preserveStableIDs_new hold]
  simp only [validateStableIDs_ok_iff]
  have hkeys : ((served (askedFor digest old new) [] new).map
      (refreshed digest)).map (identityKey digest) =
        (served (askedFor digest old new) [] new).map
          (finalLabel (ProxyConfig.generateStableID digest)
            (fun o => toLower o.stableID)) := by
    rw [List.map_map]
    exact List.map_congr_left (fun got hgot' => (hgot got hgot').2)
  rw [hkeys]
  constructor
  · rintro ⟨_, -, hdistinct, -⟩
    exact hdistinct
  · intro hdistinct
    refine ⟨_, ?_, hdistinct, rfl⟩
    intro p hp
    obtain ⟨got, hserved, rfl⟩ := List.mem_map.mp hp
    exact (hgot got hserved).1

theorem mem_left_iff (hold : Settled old) {n : ProxyConfig} :
    some n ∈ (preserveStableIDs digest (old.map some) (new.map some)).new ↔
      ∃ got ∈ served (askedFor digest old new) [] new,
        refreshed digest got = n := by
  rw [preserveStableIDs_new hold]
  simp

/-- Every identity other than the generated one comes from one old node. -/
theorem taken_from_one (hold : Settled old) :
    ∀ n, some n ∈
        (preserveStableIDs digest (old.map some) (new.map some)).new →
      n.stableID ≠ n.generateStableID digest →
      ∃! o, o ∈ old ∧ o.stableID = n.stableID := by
  intro n hn hne
  obtain ⟨⟨m, got⟩, hserved, rfl⟩ := (mem_left_iff hold).mp hn
  cases got with
  | none => exact absurd rfl hne
  | some o =>
      obtain ⟨before, after, hsplit, hgranted⟩ := mem_served.mp hserved
      have ho := askedFor_mem (granted_eq_some_iff.mp hgranted.symm).1
      refine ⟨o, ⟨ho, rfl⟩, ?_⟩
      rintro o' ⟨ho', hsame⟩
      exact hold.eq_of_toLower ho' ho (congrArg toLower hsame)

end

/-- A refresh between valid lists keeps every identity, and is accepted,
exactly if no new node asks for the old node of another. -/
theorem refreshed_iff_undisputed {digest : Text → Text}
    (hdigest : HexDigest digest) (old new : List ProxyConfig)
    (hold : validateStableIDs digest (old.map some) = .ok (old.map some))
    (hnew : (new.map (ProxyConfig.generateStableID digest)).Nodup) :
    Refreshed digest old
        (preserveStableIDs digest (old.map some) (new.map some)).new ↔
      Undisputed digest old new := by
  have hsettled := settled_of_valid hold
  constructor
  · intro h
    have hspare := (accepted_iff hdigest hsettled hnew).mp h.accepted
    refine ⟨?_, ?_⟩
    · intro before n after hsplit o ho howns
      have hserved : (n, granted (askedFor digest old new) before n) ∈
          served (askedFor digest old new) [] new :=
        mem_served.mpr ⟨before, after, hsplit, rfl⟩
      have hid := h.owned _
        ((mem_left_iff hsettled).mpr ⟨_, hserved, rfl⟩) o ho howns
      cases hgot : granted (askedFor digest old new) before n with
      | some o' =>
          rw [hgot] at hid
          have hin := askedFor_mem (granted_eq_some_iff.mp hgot).1
          have hsame : o' = o :=
            hsettled.eq_of_toLower hin ho (congrArg toLower hid)
          rw [hsame] at hgot
          exact granted_eq_some_iff.mp hgot
      | none =>
          rw [hgot] at hid hserved
          have hown : n.generateStableID digest = o.stableID := hid
          have hne := hspare n hserved n (by simp [hsplit]) o
            (hsettled.askedFor_owner ho hown)
          rw [← hown, ProxyConfig.generateStableID, hdigest.toLower_digest]
            at hne
          exact absurd rfl hne
    · intro before n after hsplit htaken
      apply hspare n
      exact mem_served.mpr
        ⟨before, after, hsplit, (granted_eq_none_iff.mpr htaken).symm⟩
  · intro h
    refine ⟨(accepted_iff hdigest hsettled hnew).mpr ?_,
      taken_from_one hsettled, ?_⟩
    · intro n hserved
      obtain ⟨before, after, hsplit, hgot⟩ := mem_served.mp hserved
      exact h.spare before n after hsplit (granted_eq_none_iff.mp hgot.symm)
    · intro n hn o ho howns
      obtain ⟨⟨m, got⟩, hserved, rfl⟩ := (mem_left_iff hsettled).mp hn
      obtain ⟨before, after, hsplit, hgot⟩ := mem_served.mp hserved
      have hfirst := h.first before m after hsplit o ho howns
      have : got = some o := hgot.trans (granted_eq_some_iff.mpr hfirst)
      rw [this]
      rfl

namespace Sample

/-- The digests of the two configurations below. -/
def sampleDigest (t : Text) : Text :=
  if t = "vless|a.example.com|443|u1" then
    ['0', 'a', 'b', 'd', '6', 'a', 'e', 'f', '5', '5', 'a', '0', '7', '7', '9',
      '6']
  else
    ['e', 'a', '4', '8', 'e', '3', 'c', '9', 'e', '5', '5', '3', 'c', 'c', '8',
      '0']

theorem sampleDigest_hex : HexDigest sampleDigest := by
  constructor
  · intro t
    unfold sampleDigest
    split <;> rfl
  · intro t c hc
    unfold sampleDigest at hc
    split at hc <;> revert c hc <;> simp [hexDigits]

/-- The node of the current list. -/
def current : ProxyConfig :=
  { protocol := "vless", server := "a.example.com", port := 443,
    name := "NL 1", uuid := "u1",
    stableID := sampleDigest "vless|a.example.com|443|u1" }

/-- A new node that took over the name. -/
def namesake : ProxyConfig :=
  { protocol := "vless", server := "b.example.com", port := 443,
    name := "NL 1", uuid := "u1" }

/-- The node of the current list under its new name. -/
def renamed : ProxyConfig :=
  { protocol := "vless", server := "a.example.com", port := 443,
    name := "NL 2", uuid := "u1" }

/-- The new node with the old name comes first and takes the identity of the
renamed node, which keeps the same one as its own: the refresh is refused. -/
theorem refresh_collides :
    HexDigest sampleDigest ∧
      validateStableIDs sampleDigest [some current] = .ok [some current] ∧
      ([namesake, renamed].map
        (ProxyConfig.generateStableID sampleDigest)).Nodup ∧
      ¬ Refreshed sampleDigest [current]
        (preserveStableIDs sampleDigest [some current]
          [some namesake, some renamed]).new := by
  refine ⟨sampleDigest_hex, by decide, by decide, ?_⟩
  intro h
  obtain ⟨out, hout⟩ := h.accepted
  have hcollision : validateStableIDs sampleDigest
      (preserveStableIDs sampleDigest [some current]
        [some namesake, some renamed]).new =
      .error (.collision current.stableID "NL 1" "b.example.com" 443 "NL 2"
        "a.example.com" 443) := by
    decide
  rw [hcollision] at hout
  cases hout

/-- Listed the other way round, both nodes keep what is theirs. -/
theorem refreshed_iff_undisputed_sample :
    Refreshed sampleDigest [current]
        (preserveStableIDs sampleDigest [some current]
          [some renamed, some namesake]).new ↔
      Undisputed sampleDigest [current] [renamed, namesake] :=
  refreshed_iff_undisputed sampleDigest_hex [current] [renamed, namesake]
    (by decide) (by decide)

end Sample

end XrayChecker.Xray

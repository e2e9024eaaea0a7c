import XrayChecker.Remnawave.RuntimeReload
import XrayChecker.Remnawave.Settings

/-
Saving the settings that are shown changes nothing.  A stored configuration is
a fixed point of the normalisation, its scenarios are all present, and the
server-first projection of its locations is read back as the same locations,
because no StableID belongs to two of them.
-/

namespace XrayChecker.Remnawave

open Go

theorem normalizeScenario_idem {scenario fallback : MessageScenario}
    (hfallback : trimSpace fallback.template = fallback.template) :
    normalizeScenario (normalizeScenario scenario fallback) fallback =
      normalizeScenario scenario fallback := by
  by_cases hblank : trimSpace scenario.template = []
  · rw [show normalizeScenario scenario fallback = fallback from if_pos hblank]
    unfold normalizeScenario
    rw [hfallback]
    split <;> rfl
  · simp [normalizeScenario, hblank]

theorem normalizeScenario_present {scenario fallback : MessageScenario}
    (hfallback : isBlank fallback.template = false) :
    isBlank (normalizeScenario scenario fallback).template = false := by
  by_cases hblank : trimSpace scenario.template = []
  · rw [show normalizeScenario scenario fallback = fallback from if_pos hblank]
    exact hfallback
  · simp [normalizeScenario, hblank, isBlank]

theorem normalizeFallback_idem {text fallback : Text}
    (hfallback : trimSpace fallback = fallback) :
    normalizeFallback (normalizeFallback text fallback) fallback =
      normalizeFallback text fallback := by
  by_cases hblank : trimSpace text = []
  · rw [show normalizeFallback text fallback = fallback from if_pos hblank]
    unfold normalizeFallback
    rw [hfallback]
    split <;> rfl
  · simp [normalizeFallback, hblank]

/-- No default text has blanks around it, so the defaults are normal. -/
theorem normalizeMessageScenarios_idem (messages : MessageScenarios) :
    normalizeMessageScenarios (normalizeMessageScenarios messages) =
      normalizeMessageScenarios messages := by
  simp only [normalizeMessageScenarios, MessageScenarios.mk.injEq]
  refine ⟨normalizeScenario_idem ?_, normalizeScenario_idem ?_,
    normalizeScenario_idem ?_, normalizeScenario_idem ?_,
    normalizeScenario_idem ?_, normalizeScenario_idem ?_,
    normalizeScenario_idem ?_, normalizeScenario_idem ?_,
    normalizeFallback_idem ?_, normalizeFallback_idem ?_,
    normalizeFallback_idem ?_, normalizeFallback_idem ?_⟩ <;> decide_cbv

/-- Scenarios that no client can be said to leave out. -/
structure ScenariosPresent (messages : MessageScenarios) : Prop where
  outage : isBlank messages.singleLocation.template = false
  partialAvailability :
    isBlank messages.partialSingleLocation.template = false
  maintenance : isBlank messages.maintenanceSingleLocation.template = false

theorem normalizeMessageScenarios_present (messages : MessageScenarios) :
    ScenariosPresent (normalizeMessageScenarios messages) where
  outage := normalizeScenario_present (by decide)
  partialAvailability := normalizeScenario_present (by decide_cbv)
  maintenance := normalizeScenario_present (by decide)

theorem ScenariosPresent.not_missing {messages : MessageScenarios}
    (h : ScenariosPresent messages) :
    messageScenariosMissing messages = false ∧
      partialAvailabilityScenariosMissing messages = false ∧
      maintenanceScenariosMissing messages = false := by
  simp [messageScenariosMissing, partialAvailabilityScenariosMissing,
    maintenanceScenariosMissing, h.outage, h.partialAvailability,
    h.maintenance]

/-- Nothing is preserved for a client that sends every scenario. -/
theorem preserveScenarios_of_present (current : MessageScenarios)
    {policy : Policy} (h : ScenariosPresent policy.messages) :
    preserveScenarios current policy = policy := by
  obtain ⟨hall, hpartly, hmaintenance⟩ := h.not_missing
  simp [preserveScenarios, hall, hpartly, hmaintenance]

theorem orDefault_idem {value fallback : Int} :
    orDefault (orDefault value fallback) fallback =
      orDefault value fallback := by
  unfold orDefault
  split_ifs <;> simp_all

/-- The legacy message moves into a scenario that is normal again. -/
theorem normalizePolicy_messages (version : Int) (policy : Policy) :
    ScenariosPresent (normalizePolicy version policy).messages ∧
      normalizeMessageScenarios (normalizePolicy version policy).messages =
        (normalizePolicy version policy).messages := by
  have hpresent := normalizeMessageScenarios_present policy.messages
  have hidem := normalizeMessageScenarios_idem policy.messages
  simp only [normalizePolicy]
  split_ifs with hlegacy
  · refine ⟨⟨hpresent.outage, hpresent.partialAvailability,
      hpresent.maintenance⟩, ?_⟩
    have hhealthy (fallback : MessageScenario) :
        normalizeScenario ⟨true, trimSpace policy.normalMessage⟩ fallback =
          ⟨true, trimSpace policy.normalMessage⟩ := by
      simp [normalizeScenario, hlegacy.1]
    rw [normalizeMessageScenarios, MessageScenarios.mk.injEq] at hidem
    rw [normalizeMessageScenarios, MessageScenarios.mk.injEq]
    obtain ⟨h1, h2, h3, h4, h5, h6, h7, -, h9, h10, h11, h12⟩ := hidem
    exact ⟨h1, h2, h3, h4, h5, h6, h7, hhealthy _, h9, h10, h11, h12⟩
  · exact ⟨hpresent, hidem⟩

theorem normalizePolicy_idem (version again : Int) (policy : Policy) :
    normalizePolicy again (normalizePolicy version policy) =
      normalizePolicy version policy := by
  have hmessages := (normalizePolicy_messages version policy).2
  have hlegacy : trimSpace (normalizePolicy version policy).normalMessage =
      [] := rfl
  rw [normalizePolicy, hlegacy, hmessages]
  simp only [ne_eq, not_true_eq_false, false_and, ↓reduceIte]
  simp only [normalizePolicy, orDefault_idem]

theorem normalizePair_idem (pair : SquadPair) :
    normalizePair (normalizePair pair) = normalizePair pair := by
  simp [normalizePair]

theorem normalizeLocation_idem (location : AnnounceLocation) :
    normalizeLocation (normalizeLocation location) =
      normalizeLocation location := by
  simp only [normalizeLocation, trimSpace_idem, AnnounceLocation.mk.injEq,
    true_and]
  apply Std.ExtTreeMap.ext_getElem?
  intro id
  simp

/-- Locations whose keys, labels and hosts have no blanks around them. -/
def NormalLocations (locations : GoMap Text AnnounceLocation) : Prop :=
  ∀ k location, locations[k]? = some location →
    trimSpace k = k ∧ normalizeLocation location = location

theorem normalizeLocationMap_normal
    {input result : GoMap Text AnnounceLocation}
    (h : normalizeLocationMap input = .ok result) : NormalLocations result := by
  refine foldlM_invariant (fun _ (acc : GoMap Text AnnounceLocation) =>
    NormalLocations acc) h (by simp [NormalLocations]) ?_
  intro _ entry acc acc' _ hacc hstep k location hk
  rw [normalizeLocationEntry, bind_unit_eq_ok] at hstep
  obtain rfl := Except.ok.inj hstep.2
  rw [GoMap.get_insert] at hk
  split_ifs at hk with hkey
  · obtain rfl := Option.some.inj hk
    rw [← hkey]
    exact ⟨trimSpace_idem _, normalizeLocation_idem _⟩
  · exact hacc k location hk

/-- Normalising normal locations gives them back. -/
theorem normalizeLocationMap_of_normal
    {locations : GoMap Text AnnounceLocation}
    (h : NormalLocations locations) :
    normalizeLocationMap locations = .ok locations := by
  have hloop : ∀ (rest : List (Text × AnnounceLocation))
      (acc : GoMap Text AnnounceLocation),
      (∀ e ∈ rest, trimSpace e.1 = e.1 ∧ normalizeLocation e.2 = e.2) →
      rest.Pairwise (fun e e' => e.1 ≠ e'.1) → (∀ e ∈ rest, e.1 ∉ acc) →
      rest.foldlM normalizeLocationEntry acc =
        .ok (rest.foldl (fun acc e => acc.insert e.1 e.2) acc) := by
    intro rest
    induction rest with
    | nil => exact fun _ _ _ _ => rfl
    | cons entry rest ih =>
        intro acc hnormal hkeys hfresh
        rw [List.pairwise_cons] at hkeys
        rw [List.forall_mem_cons] at hnormal hfresh
        have hstep : normalizeLocationEntry acc entry =
            .ok (acc.insert entry.1 entry.2) := by
          rw [normalizeLocationEntry, bind_unit_eq_ok, reject_eq_ok,
            hnormal.1.1, hnormal.1.2]
          have hnew := hfresh.1
          rw [← Std.ExtTreeMap.contains_iff_mem, Bool.not_eq_true] at hnew
          exact ⟨hnew, rfl⟩
        rw [List.foldlM_cons, hstep]
        refine ih _ hnormal.2 hkeys.2 fun e he hmem => ?_
        rw [Std.ExtTreeMap.mem_insert, Std.LawfulEqCmp.compare_eq_iff_eq]
          at hmem
        rcases hmem with hsame | hold
        · exact hkeys.1 e he hsame
        · exact hfresh.2 e he hold
  have hkeys : locations.toList.Pairwise fun e e' => e.1 ≠ e'.1 :=
    locations.distinct_keys_toList.imp fun hne heq =>
      hne (Std.LawfulEqCmp.compare_eq_iff_eq.mpr heq)
  rw [normalizeLocationMap, hloop _ _ _ hkeys (by simp),
    GoMap.foldl_insert_toList]
  intro e he
  exact h e.1 e.2 (Std.ExtTreeMap.mem_toList_iff_getElem?_eq_some.mp he)

/-- What validation adds about the locations: they have keys and members, and
no StableID belongs to two of them. -/
structure SeparateLocations (locations : GoMap Text AnnounceLocation) :
    Prop where
  key : ∀ (k : Text) (location : AnnounceLocation),
    locations[k]? = some location → k ≠ []
  members : ∀ (k : Text) (location : AnnounceLocation),
    locations[k]? = some location → ∃ id, id ∈ location.members
  separate : ∀ (k k' : Text) (location location' : AnnounceLocation) (id),
    locations[k]? = some location → locations[k']? = some location' →
      id ∈ location.members → id ∈ location'.members → k = k'

theorem validateMember_eq_ok {k : Text} {seen seen' : GoMap Text Text}
    {member : Text × Text} (h : validateMember k seen member = .ok seen') :
    toLower member.1 ∉ seen ∧
      seen' = seen.insert (toLower member.1) member.1 := by
  unfold validateMember at h
  rw [bind_unit_eq_ok] at h
  obtain ⟨-, h⟩ := h
  cases hseen : seen[toLower member.1]? with
  | some previous =>
      rw [hseen] at h
      dsimp only at h
      split_ifs at h <;> cases h
  | none =>
      rw [hseen] at h
      dsimp only [pure_bind] at h
      rw [bind_unit_eq_ok] at h
      rw [Std.ExtTreeMap.mem_iff_isSome_getElem?, hseen]
      exact ⟨by simp, (Except.ok.inj h.2).symm⟩

/-- An accepted location brings in only StableIDs that were not seen. -/
theorem validateLocation_eq_ok {seen seen' : GoMap Text Text}
    {entry : Text × AnnounceLocation}
    (h : validateLocation seen entry = .ok seen') :
    entry.1 ≠ [] ∧ (∃ id, id ∈ entry.2.members) ∧
      (∀ id ∈ entry.2.members, toLower id ∉ seen) ∧
      ∀ id, id ∈ seen' ↔ id ∈ seen ∨ ∃ member ∈ entry.2.members,
        id = toLower member := by
  simp only [validateLocation, bind_unit_eq_ok, reject_eq_ok,
    Bool.or_eq_false_iff, beq_eq_false_iff_ne] at h
  obtain ⟨⟨⟨hkey, -⟩, -⟩, -, hmembers, hloop⟩ := h
  have hentry (id : Text) :
      id ∈ entry.2.members ↔ id ∈ entry.2.members.toList.map Prod.fst := by
    rw [Std.ExtTreeMap.map_fst_toList_eq_keys, Std.ExtTreeMap.mem_keys]
  have hspec := foldlM_invariant
    (fun done (acc : GoMap Text Text) =>
      (∀ id ∈ done.map Prod.fst, toLower id ∉ seen) ∧
      ∀ id, id ∈ acc ↔ id ∈ seen ∨ ∃ member ∈ done.map Prod.fst,
        id = toLower member) hloop (by simp) ?_
  · refine ⟨hkey, ?_, ?_, ?_⟩
    · rw [Std.ExtTreeMap.isEmpty_eq_false_iff] at hmembers
      by_contra hnone
      refine hmembers (Std.ExtTreeMap.ext_getElem? fun id => ?_)
      rw [Std.ExtTreeMap.getElem?_eq_none fun hid => hnone ⟨id, hid⟩,
        Std.ExtTreeMap.getElem?_empty]
    · intro id hid
      exact hspec.1 id ((hentry id).mp hid)
    · simp only [hentry]
      exact hspec.2
  · rintro done member acc acc' - ⟨hfresh, hacc⟩ hstep
    obtain ⟨hnew, rfl⟩ := validateMember_eq_ok hstep
    rw [hacc, not_or] at hnew
    refine ⟨?_, fun id => ?_⟩
    · intro id hid
      rw [List.map_append, List.mem_append] at hid
      rcases hid with hold | hid
      · exact hfresh id hold
      · obtain rfl : id = member.1 := by simpa using hid
        exact hnew.1
    · rw [Std.ExtTreeMap.mem_insert, Std.LawfulEqCmp.compare_eq_iff_eq, hacc]
      simp only [List.map_append, List.mem_append, List.map_cons,
        List.map_nil, List.mem_singleton]
      constructor
      · rintro (rfl | hold | ⟨other, hother, rfl⟩)
        · exact .inr ⟨member.1, .inr rfl, rfl⟩
        · exact .inl hold
        · exact .inr ⟨other, .inl hother, rfl⟩
      · rintro (hold | ⟨other, hother | rfl, rfl⟩)
        · exact .inr (.inl hold)
        · exact .inr (.inr ⟨other, hother, rfl⟩)
        · exact .inl rfl

theorem ValidConfig.separateLocations {config : ConfigFile}
    {locations : GoMap Text AnnounceLocation} (h : ValidConfig config)
    (hlocations : config.locations = some locations) :
    SeparateLocations locations := by
  obtain ⟨stableIDs, hloop⟩ := h.locations
  rw [hlocations] at hloop
  have hspec := foldlM_invariant
    (fun done (acc : GoMap Text Text) =>
      (∀ e ∈ done, e.1 ≠ [] ∧ ∃ id, id ∈ e.2.members) ∧
      (∀ e ∈ done, ∀ id ∈ e.2.members, toLower id ∈ acc) ∧
      ∀ e ∈ done, ∀ e' ∈ done, ∀ id, id ∈ e.2.members → id ∈ e'.2.members →
        e.1 = e'.1) hloop (by simp) ?_
  · have hentry {k : Text} {location : AnnounceLocation}
        (hk : locations[k]? = some location) :
        (k, location) ∈ locations.toList :=
      Std.ExtTreeMap.mem_toList_iff_getElem?_eq_some.mpr hk
    exact ⟨fun k location hk => (hspec.1 _ (hentry hk)).1,
      fun k location hk => (hspec.1 _ (hentry hk)).2,
      fun k k' location location' id hk hk' =>
        hspec.2.2 _ (hentry hk) _ (hentry hk') id⟩
  · rintro done entry acc acc' - ⟨hshape, hseen, hseparate⟩ hstep
    obtain ⟨hkey, hmembers, hfresh, hacc⟩ := validateLocation_eq_ok hstep
    have hapart (e) (he : e ∈ done) (id) (hid : id ∈ e.2.members) :
        id ∉ entry.2.members := fun hid' =>
      hfresh id hid' (hseen e he id hid)
    simp only [List.mem_append, List.mem_singleton]
    refine ⟨?_, ?_, ?_⟩
    · rintro e (he | rfl)
      · exact hshape e he
      · exact ⟨hkey, hmembers⟩
    · rintro e (he | rfl) id hid
      · exact (hacc _).mpr (.inl (hseen e he id hid))
      · exact (hacc _).mpr (.inr ⟨id, hid, rfl⟩)
    · rintro e (he | rfl) e' (he' | rfl) id hid hid'
      · exact hseparate e he e' he' id hid hid'
      · exact absurd hid' (hapart e he id hid)
      · exact absurd hid (hapart e' he' id hid')
      · rfl

/-- The projection has, for each member, the location it belongs to. -/
theorem getElem?_nodeMappingsFromLocations
    {locations : GoMap Text AnnounceLocation}
    (h : SeparateLocations locations) (id : Text) (mapping : NodeMapping) :
    (nodeMappingsFromLocations locations)[id]? = some mapping ↔
      ∃ (k : Text) (location : AnnounceLocation) (host : Text),
        locations[k]? = some location ∧ location.members[id]? = some host ∧
          mapping = memberMapping k location host := by
  have hflat : nodeMappingsFromLocations locations =
      (locations.toList.flatMap fun entry => entry.2.members.toList.map
        fun member => (member.1, memberMapping entry.1 entry.2 member.2)).foldl
        (fun acc e => acc.insert e.1 e.2) ∅ := by
    rw [List.foldl_flatMap]
    simp only [List.foldl_map]
    rfl
  have hentry (e : Text × NodeMapping) :
      (e ∈ locations.toList.flatMap fun entry => entry.2.members.toList.map
        fun member => (member.1, memberMapping entry.1 entry.2 member.2)) ↔
      ∃ (k : Text) (location : AnnounceLocation) (host : Text),
        locations[k]? = some location ∧ location.members[e.1]? = some host ∧
          e.2 = memberMapping k location host := by
    simp only [List.mem_flatMap, List.mem_map, Prod.exists,
      Std.ExtTreeMap.mem_toList_iff_getElem?_eq_some]
    constructor
    · rintro ⟨k, location, hk, member, host, hmember, rfl⟩
      exact ⟨k, location, host, hk, hmember, rfl⟩
    · rintro ⟨k, location, host, hk, hmember, he⟩
      exact ⟨k, location, hk, e.1, host, hmember, by rw [← he]⟩
  rw [hflat, GoMap.get_foldl_insert, hentry]
  intro e he e' he' hid
  obtain ⟨k, location, host, hk, hmember, hvalue⟩ := (hentry e).mp he
  obtain ⟨k', location', host', hk', hmember', hvalue'⟩ := (hentry e').mp he'
  rw [← hid] at hmember'
  have hsame := h.separate k k' location location' e.1 hk hk'
    (Std.ExtTreeMap.mem_iff_isSome_getElem?.mpr (by rw [hmember]; rfl))
    (Std.ExtTreeMap.mem_iff_isSome_getElem?.mpr (by rw [hmember']; rfl))
  subst hsame
  obtain rfl := Option.some.inj (hk.symm.trans hk')
  obtain rfl := Option.some.inj (hmember.symm.trans hmember')
  rw [hvalue, hvalue']

/-- What reading the projection back has built after some members: those
members, each under its own location, and nothing else. -/
structure Migrating (locations : GoMap Text AnnounceLocation)
    (done : List Text) (acc : MigratedLocations) : Prop where
  explicit : ∀ (k label : Text), acc.explicitLabels[k]? = some label →
    ∃ location, locations[k]? = some location ∧
      label = location.publicLabel
  absent : ∀ (k : Text) (location : AnnounceLocation),
    locations[k]? = some location → acc.locations[k]? = none →
      ∀ id ∈ done, location.members[id]? = none
  present : ∀ (k : Text) (built : AnnounceLocation),
    acc.locations[k]? = some built → ∃ location : AnnounceLocation,
      locations[k]? = some location ∧
        built.publicLabel = location.publicLabel ∧
        ∀ id host : Text, built.members[id]? = some host ↔
          location.members[id]? = some host ∧ id ∈ done

/-- A member that is read back goes to its location under its label. -/
theorem migrateNodeMapping_member {acc : MigratedLocations}
    {k id host : Text} {location : AnnounceLocation} (hkey : trimSpace k = k)
    (hnonempty : k ≠ []) (hlabel : trimSpace location.publicLabel =
      location.publicLabel) (hhost : trimSpace host = host)
    (hexplicit : ∀ label : Text, acc.explicitLabels[k]? = some label →
      label = location.publicLabel)
    (hbuilt : ∀ built : AnnounceLocation, acc.locations[k]? = some built →
      built.publicLabel = location.publicLabel) :
    migrateNodeMapping acc (id, memberMapping k location host) = .ok
      { locations := acc.locations.insert k
          { publicLabel := location.publicLabel
            members := (acc.locations[k]?.getD {}).members.insert id host }
        explicitLabels :=
          if location.publicLabel ≠ [] then
            acc.explicitLabels.insert k location.publicLabel
          else acc.explicitLabels } := by
  simp only [migrateNodeMapping, memberMapping, hkey, hlabel, hhost,
    hnonempty, ↓reduceIte, ne_eq, not_false_eq_true, true_and]
  rw [bind_unit_eq_ok, reject_eq_ok, Bool.and_eq_false_iff]
  constructor
  · right
    cases hfound : acc.explicitLabels[k]? with
    | none => rfl
    | some label =>
        rw [hexplicit label hfound]
        simp
  · have hsame : (if location.publicLabel ≠ [] ∧
        ((acc.locations[k]?.getD {}).publicLabel = [] ∨
          lessFolded location.publicLabel
            (acc.locations[k]?.getD {}).publicLabel) then
          location.publicLabel
        else (acc.locations[k]?.getD {}).publicLabel) =
        location.publicLabel := by
      cases hfound : acc.locations[k]? with
      | none =>
          change (if location.publicLabel ≠ [] ∧ ([] = [] ∨ _) then _ else [])
            = _
          by_cases hempty : location.publicLabel = []
          · simp [hempty]
          · simp [hempty]
      | some built =>
          rw [Option.getD_some, hbuilt built hfound, ite_self]
    simp only [ne_eq] at hsame
    rw [hsame]
    by_cases hempty : location.publicLabel = []
    · simp [hempty, pure, Except.pure]
    · simp [hempty, pure, Except.pure]

theorem Migrating.step {locations : GoMap Text AnnounceLocation}
    (hseparate : SeparateLocations locations) {done : List Text}
    {acc : MigratedLocations} {k id host : Text} {location : AnnounceLocation}
    (h : Migrating locations done acc) (hk : locations[k]? = some location)
    (hmember : location.members[id]? = some host)
    (explicitLabels : GoMap Text Text)
    (hexplicit : ∀ (j label : Text), explicitLabels[j]? = some label →
      acc.explicitLabels[j]? = some label ∨
        (j = k ∧ label = location.publicLabel)) :
    Migrating locations (done ++ [id])
      { locations := acc.locations.insert k
          { publicLabel := location.publicLabel
            members := (acc.locations[k]?.getD {}).members.insert id host }
        explicitLabels := explicitLabels } := by
  have hid : id ∈ location.members :=
    Std.ExtTreeMap.mem_iff_isSome_getElem?.mpr (by rw [hmember]; rfl)
  have hother {j : Text} {other : AnnounceLocation}
      (hj : locations[j]? = some other) (hne : k ≠ j) :
      other.members[id]? = none := by
    rw [Std.ExtTreeMap.getElem?_eq_none]
    intro hid'
    exact hne (hseparate.separate k j location other id hk hj hid hid')
  constructor
  · intro j label hj
    rcases hexplicit j label hj with hold | ⟨rfl, rfl⟩
    · exact h.explicit j label hold
    · exact ⟨location, hk, rfl⟩
  · intro j other hj habsent
    rw [GoMap.get_insert] at habsent
    split_ifs at habsent with hkj
    simp only [List.mem_append, List.mem_singleton]
    rintro i (hi | rfl)
    · exact h.absent j other hj habsent i hi
    · exact hother hj hkj
  · intro j built hj
    rw [GoMap.get_insert] at hj
    split_ifs at hj with hkj
    · subst hkj
      obtain rfl := Option.some.inj hj
      refine ⟨location, hk, rfl, fun i value => ?_⟩
      rw [GoMap.get_insert, List.mem_append, List.mem_singleton]
      by_cases hi : id = i
      · subst hi
        simp [hmember]
      · rw [if_neg hi]
        cases hfound : acc.locations[k]? with
        | none =>
            have habsent := h.absent k location hk hfound i
            simp only [Option.getD_none, Std.ExtTreeMap.getElem?_empty,
              reduceCtorEq, false_iff, not_and]
            rintro hvalue (hdone | rfl)
            · rw [habsent hdone] at hvalue
              cases hvalue
            · exact hi rfl
        | some before =>
            obtain ⟨same, hsame, -, hmembers⟩ := h.present k before hfound
            obtain rfl := Option.some.inj (hk.symm.trans hsame)
            rw [Option.getD_some, hmembers]
            simp [Ne.symm hi]
    · obtain ⟨other, hother', hlabel, hmembers⟩ := h.present j built hj
      refine ⟨other, hother', hlabel, fun i value => ?_⟩
      rw [hmembers, List.mem_append, List.mem_singleton]
      constructor
      · rintro ⟨hvalue, hdone⟩
        exact ⟨hvalue, .inl hdone⟩
      · rintro ⟨hvalue, hdone | rfl⟩
        · exact ⟨hvalue, hdone⟩
        · rw [hother hother' hkj] at hvalue
          cases hvalue

/-- The server-first projection is read back as the locations it came from. -/
theorem locationsFromNodeMappings_projection
    {locations : GoMap Text AnnounceLocation}
    (hnormal : NormalLocations locations)
    (hseparate : SeparateLocations locations) :
    locationsFromNodeMappings (nodeMappingsFromLocations locations) =
      .ok locations := by
  have hloop : ∃ finish,
      (nodeMappingsFromLocations locations).toList.foldlM migrateNodeMapping
        {} = .ok finish ∧ Migrating locations
          ((nodeMappingsFromLocations locations).toList.map Prod.fst)
          finish := by
    refine foldlM_ok (fun done acc =>
      Migrating locations (done.map Prod.fst) acc) _
      ⟨by simp, by simp, by simp⟩ ?_
    rintro done ⟨id, mapping⟩ acc hitem hacc
    obtain ⟨k, location, host, hk, hmember, rfl⟩ :=
      (getElem?_nodeMappingsFromLocations hseparate id mapping).mp
        (Std.ExtTreeMap.mem_toList_iff_getElem?_eq_some.mp hitem)
    obtain ⟨hkey, hlocation⟩ := hnormal k location hk
    have hlabel : trimSpace location.publicLabel = location.publicLabel :=
      congrArg AnnounceLocation.publicLabel hlocation
    have hhost : trimSpace host = host := by
      have hmembers := congrArg AnnounceLocation.members hlocation
      have hget := congrArg (·[id]?) hmembers
      simpa [normalizeLocation, hmember] using hget
    refine ⟨_, migrateNodeMapping_member hkey (hseparate.key k location hk)
      hlabel hhost ?_ ?_, ?_⟩
    · intro label hfound
      obtain ⟨same, hsame, hlabel⟩ := hacc.explicit k label hfound
      obtain rfl := Option.some.inj (hk.symm.trans hsame)
      exact hlabel
    · intro built hfound
      obtain ⟨same, hsame, hlabel, -⟩ := hacc.present k built hfound
      obtain rfl := Option.some.inj (hk.symm.trans hsame)
      exact hlabel
    · rw [List.map_append]
      refine hacc.step hseparate hk hmember _ fun j label hj => ?_
      split_ifs at hj with hempty
      · rw [GoMap.get_insert] at hj
        split_ifs at hj with hkj
        · exact .inr ⟨hkj.symm, (Option.some.inj hj).symm⟩
        · exact .inl hj
      · exact .inl hj
  obtain ⟨finish, hrun, hfinish⟩ := hloop
  rw [locationsFromNodeMappings, hrun]
  suffices hsuffices : finish.locations = locations by
    rw [← hsuffices]
    rfl
  have hall {k id : Text} {location : AnnounceLocation}
      (hk : locations[k]? = some location) (hid : id ∈ location.members) :
      id ∈ (nodeMappingsFromLocations locations).toList.map Prod.fst := by
    rw [Std.ExtTreeMap.mem_iff_isSome_getElem?, Option.isSome_iff_exists]
      at hid
    obtain ⟨host, hmember⟩ := hid
    exact List.mem_map.mpr ⟨(id, memberMapping k location host),
      Std.ExtTreeMap.mem_toList_iff_getElem?_eq_some.mpr
        ((getElem?_nodeMappingsFromLocations hseparate _ _).mpr
          ⟨k, location, host, hk, hmember, rfl⟩), rfl⟩
  apply Std.ExtTreeMap.ext_getElem?
  intro k
  cases hbuilt : finish.locations[k]? with
  | none =>
      cases hk : locations[k]? with
      | none => rfl
      | some location =>
          obtain ⟨id, hid⟩ := hseparate.members k location hk
          have hgone := hfinish.absent k location hk hbuilt id (hall hk hid)
          rw [Std.ExtTreeMap.mem_iff_isSome_getElem?, hgone] at hid
          cases hid
  | some built =>
      obtain ⟨location, hk, hlabel, hmembers⟩ :=
        hfinish.present k built hbuilt
      have hsame : built.members = location.members := by
        apply Std.ExtTreeMap.ext_getElem?
        intro id
        apply Option.ext
        intro host
        rw [hmembers]
        refine ⟨And.left, fun hmember => ⟨hmember, hall hk ?_⟩⟩
        rw [Std.ExtTreeMap.mem_iff_isSome_getElem?, hmember]
        rfl
      rw [hk]
      obtain ⟨label, members⟩ := built
      cases location
      simp_all

theorem announceLocationsEqual_self (locations : GoMap Text AnnounceLocation) :
    announceLocationsEqual locations locations = true := by
  have hmembers (members : GoMap Text Text) :
      stringMapEqual members members = true := by
    rw [stringMapEqual, beq_self_eq_true, Bool.true_and, List.all_eq_true]
    intro member hmember
    rw [Std.ExtTreeMap.mem_toList_iff_getElem?_eq_some.mp hmember]
    simp
  rw [announceLocationsEqual, beq_self_eq_true, Bool.true_and,
    List.all_eq_true]
  intro entry hentry
  rw [Std.ExtTreeMap.mem_toList_iff_getElem?_eq_some.mp hentry]
  simp [hmembers]

/-- The document does not depend on when it is written, its stamp apart. -/
theorem normalizeConfig_updatedAt (config : ConfigFile) (now : Time) :
    normalizeConfig { config with updatedAt := now } =
      (normalizeConfig config).map fun normal =>
        { normal with updatedAt := now } := by
  have hlocations : configLocations { config with updatedAt := now } =
      configLocations config := rfl
  unfold normalizeConfig
  rw [hlocations]
  cases configLocations config with
  | error e => rfl
  | ok locations =>
      change normalizeLocationMap locations >>= _ =
        (normalizeLocationMap locations >>= _).map _
      cases normalizeLocationMap locations with
      | error e => rfl
      | ok locations => rfl

theorem ValidConfig.updatedAt {config : ConfigFile} (h : ValidConfig config)
    (now : Time) : validateConfig { config with updatedAt := now } = .ok () :=
  validateConfig_eq_ok.mpr
    ⟨h.version, h.bases, h.policy, h.pairs, h.locations⟩

/-- What normalisation makes of a configuration. -/
theorem normalizeConfig_eq_ok {config normal : ConfigFile}
    (h : normalizeConfig config = .ok normal) :
    ∃ locations, NormalLocations locations ∧ normal =
      { version :=
          if 0 ≤ config.version ∧ config.version < configVersion then
            configVersion
          else config.version
        updatedAt := config.updatedAt
        policy := normalizePolicy config.version config.policy
        squadPairs := config.squadPairs.map normalizePair
        locations := some locations
        nodeMappings := ∅
        announceBases := config.announceBases } := by
  rw [normalizeConfig, bind_eq_ok] at h
  obtain ⟨raw, -, h⟩ := h
  rw [bind_eq_ok] at h
  obtain ⟨locations, hlocations, h⟩ := h
  exact ⟨locations, normalizeLocationMap_normal hlocations,
    (Except.ok.inj h).symm⟩

/-- A configuration that is accepted as it stands: its normalisation changes
nothing, and the shape that its projection needs. -/
structure Settled (config : ConfigFile)
    (locations : GoMap Text AnnounceLocation) : Prop where
  normal : normalizeConfig config = .ok config
  valid : ValidConfig config
  stored : config.locations = some locations
  nodeMappings : config.nodeMappings = ∅
  normalLocations : NormalLocations locations
  separate : SeparateLocations locations
  scenarios : ScenariosPresent config.policy.messages

/-- What the writer accepts is settled. -/
theorem writeConfigFile_settled {disk : Except Text Unit}
    {config stored : ConfigFile} {now : Time}
    (h : writeConfigFile disk config now = .ok stored) :
    ∃ locations, Settled stored locations := by
  rw [writeConfigFile, bind_eq_ok] at h
  obtain ⟨normal, hnormal, h⟩ := h
  rw [bind_unit_eq_ok, bind_unit_eq_ok] at h
  obtain ⟨hvalid, -, h⟩ := h
  obtain rfl := Except.ok.inj h
  have hvalid := validateConfig_eq_ok.mp hvalid
  obtain ⟨locations, hlocations, rfl⟩ := normalizeConfig_eq_ok hnormal
  refine ⟨locations, ?_, hvalid, rfl, rfl, hlocations,
    hvalid.separateLocations rfl, (normalizePolicy_messages _ _).1⟩
  have hraw : normalizeLocationMap locations = .ok locations :=
    normalizeLocationMap_of_normal hlocations
  change (normalizeLocationMap locations >>= fun locations => _) = _
  rw [hraw]
  change Except.ok _ = Except.ok _
  simp only [normalizePolicy_idem, List.map_map, Function.comp_def,
    normalizePair_idem]
  rfl

namespace Settled

variable {config : ConfigFile} {locations : GoMap Text AnnounceLocation}

/-- The settings that are shown have the stored locations twice. -/
theorem configSettings (h : Settled config locations) :
    configSettings config =
      { policy := config.policy
        squadPairs := config.squadPairs
        locations := some locations
        nodeMappings := some (nodeMappingsFromLocations locations) } := by
  simp [Remnawave.configSettings, h.stored, h.nodeMappings]

/-- Both forms of the settings are read as the stored locations. -/
theorem canonicalSettingsLocations (h : Settled config locations)
    {settings : Settings} (hlocations : settings.locations = some locations)
    (hmappings : settings.nodeMappings = none ∨ settings.nodeMappings =
      some (nodeMappingsFromLocations locations)) :
    canonicalSettingsLocations settings = .ok locations := by
  have hnormal := normalizeLocationMap_of_normal h.normalLocations
  rcases hmappings with hmappings | hmappings
  · rw [Remnawave.canonicalSettingsLocations, hlocations, hmappings]
    exact hnormal
  · simp only [Remnawave.canonicalSettingsLocations, hlocations, hmappings]
    rw [hnormal]
    change locationsFromNodeMappings _ >>= _ = _
    rw [locationsFromNodeMappings_projection h.normalLocations h.separate]
    change reject (!announceLocationsEqual locations locations) _ >>= _ = _
    rw [announceLocationsEqual_self]
    rfl

/-- A document with the stored values is written as it was stored. -/
theorem writeConfigFile (h : Settled config locations)
    (disk : Except Text Unit) (before now : Time) :
    writeConfigFile disk { config with updatedAt := before } now =
      disk.map fun _ => { config with updatedAt := now } := by
  have hnormal : normalizeConfig { config with
      version := configVersion, updatedAt := now } =
      .ok { config with updatedAt := now } := by
    rw [show configVersion = config.version from h.valid.version.symm,
      normalizeConfig_updatedAt config now, h.normal]
    rfl
  rw [Remnawave.writeConfigFile, hnormal]
  change validateConfig _ >>= _ = _
  rw [h.valid.updatedAt now]
  cases disk <;> rfl

/-- A save of the settings that are shown only moves the stamp. -/
theorem updateSettings (h : Settled config locations) {settings : Settings}
    (hpolicy : settings.policy = config.policy)
    (hpairs : settings.squadPairs = config.squadPairs)
    (hlocations : settings.locations = some locations)
    (hmappings : settings.nodeMappings = none ∨ settings.nodeMappings =
      some (nodeMappingsFromLocations locations))
    (disk : Except Text Unit) (now : Time) :
    updateSettings config disk settings now = disk.map fun _ =>
      { config := { config with updatedAt := now }
        stored := { config with updatedAt := now } } := by
  have hpreserved : preserveScenarios config.policy.messages settings.policy =
      config.policy := by
    rw [hpolicy]
    exact preserveScenarios_of_present _ h.scenarios
  have hsame : ({ version := configVersion, policy := config.policy
                  squadPairs := config.squadPairs, locations := some locations
                  announceBases := config.announceBases } : ConfigFile) =
      { config with updatedAt := 0 } := by
    rw [← h.valid.version, ← h.stored, ← h.nodeMappings]
  have hnormal : normalizeConfig { config with updatedAt := 0 } =
      .ok { config with updatedAt := 0 } := by
    rw [normalizeConfig_updatedAt, h.normal]
    rfl
  rw [Remnawave.updateSettings, hpreserved, hpairs,
    h.canonicalSettingsLocations hlocations hmappings]
  change normalizeConfig _ >>= _ = _
  rw [hsame, hnormal]
  change validateConfig _ >>= _ = _
  rw [h.valid.updatedAt 0]
  change Remnawave.writeConfigFile _ _ _ >>= _ = _
  rw [h.writeConfigFile disk 0 now]
  cases disk <;> rfl

end Settled

theorem decodeConfig_of_settled {config : ConfigFile}
    {locations : GoMap Text AnnounceLocation} (h : Settled config locations) :
    decodeConfig config = .ok config := by
  rw [decodeConfig, h.normal]
  change validateConfig config >>= _ = _
  rw [show validateConfig config = .ok () from validateConfig_eq_ok.mpr h.valid]
  rfl

/-- Whatever a save accepts, it carries the adopted bases through. -/
theorem updateSettings_announceBases {current : ConfigFile}
    {disk : Except Text Unit} {settings : Settings} {now : Time}
    {saved : SavedConfig}
    (h : updateSettings current disk settings now = .ok saved) :
    saved.config.announceBases = current.announceBases ∧
      saved.stored.announceBases = current.announceBases := by
  rw [updateSettings, bind_eq_ok] at h
  obtain ⟨locations, -, h⟩ := h
  rw [bind_eq_ok] at h
  obtain ⟨config, hconfig, h⟩ := h
  rw [bind_unit_eq_ok, bind_eq_ok] at h
  obtain ⟨-, stored, hstored, h⟩ := h
  obtain rfl := Except.ok.inj h
  obtain ⟨_, -, rfl⟩ := normalizeConfig_eq_ok hconfig
  rw [writeConfigFile, bind_eq_ok] at hstored
  obtain ⟨written, hwritten, hstored⟩ := hstored
  rw [bind_unit_eq_ok, bind_unit_eq_ok] at hstored
  obtain rfl := Except.ok.inj hstored.2.2
  obtain ⟨_, -, rfl⟩ := normalizeConfig_eq_ok hwritten
  exact ⟨rfl, rfl⟩

/-- A stored configuration is loaded as it is, saving the settings it is shown
as (with or without an empty legacy projection) only moves its stamp, and no
save touches the adopted bases. -/
theorem settings_round_trip {disk : Except Text Unit}
    {config stored : ConfigFile} {before : Time}
    (h : writeConfigFile disk config before = .ok stored) :
    decodeConfig stored = .ok stored ∧
      (∀ settings, settings = configSettings stored ∨
          settings = (configSettings stored).transmitted →
        ∀ (disk : Except Text Unit) (now : Time),
          updateSettings stored disk settings now = disk.map fun _ =>
            { config := { stored with updatedAt := now }
              stored := { stored with updatedAt := now } }) ∧
      ∀ current disk settings now saved,
        updateSettings current disk settings now = .ok saved →
          saved.config.announceBases = current.announceBases ∧
            saved.stored.announceBases = current.announceBases := by
  obtain ⟨locations, hsettled⟩ := writeConfigFile_settled h
  refine ⟨decodeConfig_of_settled hsettled, ?_,
    fun _ _ _ _ _ hsaved => updateSettings_announceBases hsaved⟩
  intro settings hsettings disk now
  rw [hsettled.configSettings] at hsettings
  rcases hsettings with rfl | rfl
  · exact hsettled.updateSettings rfl rfl rfl (.inr rfl) disk now
  · refine hsettled.updateSettings rfl rfl rfl ?_ disk now
    simp only [Settings.transmitted, Option.filter_some]
    split_ifs
    · exact .inr rfl
    · exact .inl rfl

namespace Sample

theorem settings_round_trip_sample :
    decodeConfig { config with updatedAt := 1 } =
        .ok { config with updatedAt := 1 } ∧
      (∀ settings,
          settings = configSettings { config with updatedAt := 1 } ∨
          settings =
            (configSettings { config with updatedAt := 1 }).transmitted →
        ∀ (disk : Except Text Unit) (now : Time),
          updateSettings { config with updatedAt := 1 } disk settings now =
            disk.map fun _ =>
              { config := { config with updatedAt := now }
                stored := { config with updatedAt := now } }) ∧
      ∀ current disk settings now saved,
        updateSettings current disk settings now = .ok saved →
          saved.config.announceBases = current.announceBases ∧
            saved.stored.announceBases = current.announceBases :=
  settings_round_trip
    (show writeConfigFile (.ok ()) config 1 =
      .ok { config with updatedAt := 1 } by decide)

end Sample

end XrayChecker.Remnawave

import XrayChecker.Go.Submap
import XrayChecker.Remnawave.Settings

/-
Settings that give their locations twice, in `locations` and in the deprecated
`nodeMappings`.  The comparison of the two looks every member of the first up
in the second and takes a missing one for a member without a host.
-/

namespace XrayChecker.Remnawave

open Go

/-- What the comparison finds the same: as many members, and each member has
its host on the right too, or neither a host here nor a place there. -/
structure Alike (left right : AnnounceLocation) : Prop where
  label : left.publicLabel = right.publicLabel
  size : left.members.size = right.members.size
  members : ∀ id host : Text, left.members[id]? = some host →
    right.members[id]? = some host ∨ host = [] ∧ right.members[id]? = none

/-- Two mappings in the eyes of `announceLocationsEqual`. -/
structure AllAlike (left right : GoMap Text AnnounceLocation) : Prop where
  size : left.size = right.size
  locations : ∀ (key : Text) (location : AnnounceLocation),
    left[key]? = some location →
      ∃ other, right[key]? = some other ∧ Alike location other

/-- A member without a host that the other mapping does not have. -/
def LosesUnpaired (left right : GoMap Text AnnounceLocation) : Prop :=
  ∃ (key : Text) (location other : AnnounceLocation),
    left[key]? = some location ∧ right[key]? = some other ∧
    ∃ id : Text, location.members[id]? = some [] ∧ other.members[id]? = none

theorem stringMapEqual_iff (left right : GoMap Text Text) :
    stringMapEqual left right = true ↔ left.size = right.size ∧
      ∀ id host : Text, left[id]? = some host →
        right[id]? = some host ∨ host = [] ∧ right[id]? = none := by
  rw [stringMapEqual, Bool.and_eq_true, beq_iff_eq, List.all_eq_true]
  refine and_congr_right fun _ => ?_
  constructor
  · intro h id host hfound
    have hentry := h (id, host)
      (Std.ExtTreeMap.mem_toList_iff_getElem?_eq_some.mpr hfound)
    cases hright : right[id]? with
    | none =>
        rw [beq_iff_eq, hright] at hentry
        exact Or.inr ⟨hentry.symm, rfl⟩
    | some other =>
        rw [beq_iff_eq, hright] at hentry
        exact Or.inl (congrArg some hentry)
  · rintro h ⟨id, host⟩ hmem
    rw [Std.ExtTreeMap.mem_toList_iff_getElem?_eq_some] at hmem
    rcases h id host hmem with hfound | ⟨hempty, hnone⟩
    · rw [hfound]
      exact beq_self_eq_true host
    · rw [hnone, hempty]
      rfl

theorem announceLocationsEqual_iff (left right : GoMap Text AnnounceLocation) :
    announceLocationsEqual left right = true ↔ AllAlike left right := by
  rw [announceLocationsEqual, Bool.and_eq_true, beq_iff_eq, List.all_eq_true]
  constructor
  · rintro ⟨hsize, h⟩
    refine ⟨hsize, fun key location hfound => ?_⟩
    have hentry := h (key, location)
      (Std.ExtTreeMap.mem_toList_iff_getElem?_eq_some.mpr hfound)
    cases hright : right[key]? with
    | none =>
        rw [hright] at hentry
        cases hentry
    | some other =>
        rw [hright, Bool.and_eq_true, beq_iff_eq, stringMapEqual_iff] at hentry
        exact ⟨other, rfl, hentry.1, hentry.2.1, hentry.2.2⟩
  · rintro ⟨hsize, h⟩
    refine ⟨hsize, ?_⟩
    rintro ⟨key, location⟩ hmem
    rw [Std.ExtTreeMap.mem_toList_iff_getElem?_eq_some] at hmem
    obtain ⟨other, hother, halike⟩ := h key location hmem
    rw [hother, Bool.and_eq_true, beq_iff_eq, stringMapEqual_iff]
    exact ⟨halike.label, halike.size, halike.members⟩

theorem AllAlike.refl (locations : GoMap Text AnnounceLocation) :
    AllAlike locations locations :=
  ⟨rfl, fun _ location hfound =>
    ⟨location, hfound, rfl, rfl, fun _ _ hmember => Or.inl hmember⟩⟩

/-- Mappings the comparison takes for the same are the same, unless a member
without a host is lost. -/
theorem AllAlike.eq_iff {left right : GoMap Text AnnounceLocation}
    (h : AllAlike left right) : left = right ↔ ¬LosesUnpaired left right := by
  constructor
  · rintro rfl ⟨key, location, other, hlocation, hother, id, hhere, hthere⟩
    rw [Option.some.inj (hlocation.symm.trans hother), hthere] at hhere
    cases hhere
  · intro hkept
    refine GoMap.eq_of_entries_of_size (fun key location hlocation => ?_) h.size
    obtain ⟨other, hother, halike⟩ := h.locations key location hlocation
    have hmembers : location.members = other.members := by
      refine GoMap.eq_of_entries_of_size (fun id host hhost => ?_) halike.size
      rcases halike.members id host hhost with hsame | ⟨hempty, hlost⟩
      · exact hsame
      · exact absurd ⟨key, location, other, hlocation, hother, id,
          hempty ▸ hhost, hlost⟩ hkept
    have hsame : location = other := by
      cases location
      cases other
      rw [AnnounceLocation.mk.injEq]
      exact ⟨halike.label, hmembers⟩
    rw [hother, hsame]

/-- The two descriptions mean the same mapping. -/
def SameMapping (locations : GoMap Text AnnounceLocation)
    (mappings : GoMap Text NodeMapping) : Prop :=
  ∃ agreed, normalizeLocationMap locations = .ok agreed ∧
    locationsFromNodeMappings mappings = .ok agreed

/-- The two descriptions have the same locations and labels, as many members
in each location and the same hosts, and differ in which members without a
host they name. -/
def DifferInUnpaired (locations : GoMap Text AnnounceLocation)
    (mappings : GoMap Text NodeMapping) : Prop :=
  ∃ normal legacy, normalizeLocationMap locations = .ok normal ∧
    locationsFromNodeMappings mappings = .ok legacy ∧
    AllAlike normal legacy ∧ LosesUnpaired normal legacy

/-- Settings with both descriptions. -/
def Settings.describedTwice (settings : Settings)
    (locations : GoMap Text AnnounceLocation)
    (mappings : GoMap Text NodeMapping) : Settings :=
  { settings with
    locations := some locations
    nodeMappings := some mappings }

/-- The settings are taken as soon as the comparison finds no difference. -/
theorem canonicalSettingsLocations_both (settings : Settings)
    (locations : GoMap Text AnnounceLocation)
    (mappings : GoMap Text NodeMapping) :
    (∃ kept, canonicalSettingsLocations
        (settings.describedTwice locations mappings) = .ok kept) ↔
      ∃ normal legacy, normalizeLocationMap locations = .ok normal ∧
        locationsFromNodeMappings mappings = .ok legacy ∧
        AllAlike normal legacy := by
  simp only [canonicalSettingsLocations, Settings.describedTwice]
  cases normalizeLocationMap locations with
  | error _ => simp [bind, Except.bind]
  | ok normal =>
      cases locationsFromNodeMappings mappings with
      | error _ => simp [bind, Except.bind]
      | ok legacy =>
          simp only [Except.ok.injEq, exists_eq_left', exists_and_left,
            ← announceLocationsEqual_iff]
          change (∃ kept, (reject (!announceLocationsEqual normal legacy) _ >>=
            fun _ => pure normal) = Except.ok kept) ↔ _
          cases announceLocationsEqual normal legacy with
          | true => exact ⟨fun _ => rfl, fun _ => ⟨normal, rfl⟩⟩
          | false => exact ⟨fun ⟨_, h⟩ => (nomatch h), fun h => (nomatch h)⟩

/-- Settings described twice are taken exactly when both descriptions mean
the same mapping, unless they differ only in members without a host. -/
theorem conflicting_settings_rejected_iff (settings : Settings)
    (locations : GoMap Text AnnounceLocation)
    (mappings : GoMap Text NodeMapping) :
    ((∃ kept, canonicalSettingsLocations
        (settings.describedTwice locations mappings) = .ok kept) ↔
      SameMapping locations mappings) ↔
      ¬DifferInUnpaired locations mappings := by
  rw [canonicalSettingsLocations_both]
  constructor
  · rintro h ⟨normal, legacy, hnormal, hlegacy, halike, hlost⟩
    obtain ⟨agreed, hagreed, hsame⟩ :=
      h.mp ⟨normal, legacy, hnormal, hlegacy, halike⟩
    have heq : normal = legacy :=
      (Except.ok.inj (hnormal.symm.trans hagreed)).trans
        (Except.ok.inj (hsame.symm.trans hlegacy))
    exact halike.eq_iff.mp heq hlost
  · intro hdiffer
    constructor
    · rintro ⟨normal, legacy, hnormal, hlegacy, halike⟩
      have heq := halike.eq_iff.mpr fun hlost =>
        hdiffer ⟨normal, legacy, hnormal, hlegacy, halike, hlost⟩
      exact ⟨normal, hnormal, heq ▸ hlegacy⟩
    · rintro ⟨agreed, hnormal, hlegacy⟩
      exact ⟨agreed, agreed, hnormal, hlegacy, .refl agreed⟩

/-- One location with the member `nl-1`, to be paired automatically. -/
def pairedLater : GoMap Text AnnounceLocation :=
  (∅ : GoMap Text AnnounceLocation).insert "NL"
    ⟨"Netherlands", (∅ : GoMap Text Text).insert "nl-1" []⟩

/-- The same location with the member `nl-2` instead. -/
def otherMember : GoMap Text NodeMapping :=
  (∅ : GoMap Text NodeMapping).insert "nl-2" ⟨[], "NL", "Netherlands"⟩

/-- The settings are taken although they name different nodes. -/
theorem conflicting_settings_taken :
    canonicalSettingsLocations (Settings.describedTwice {} pairedLater
        otherMember) = .ok pairedLater ∧
      ¬SameMapping pairedLater otherMember := by
  refine ⟨by decide, ?_⟩
  rintro ⟨agreed, hnormal, hlegacy⟩
  have hpaired : normalizeLocationMap pairedLater = .ok pairedLater := by
    decide
  have hdiffer : locationsFromNodeMappings otherMember ≠ .ok pairedLater := by
    decide
  rw [hpaired] at hnormal
  exact hdiffer (Except.ok.inj hnormal ▸ hlegacy)

end XrayChecker.Remnawave

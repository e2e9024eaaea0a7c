import XrayChecker.Go.Time
import XrayChecker.Go.Decimal

/-
The subscription sources an operator adds from the panel: what a source must
look like, and how the list changes and is read back from its file.
-/

namespace XrayChecker.Subsource

open Go

/-- The set of headers one source sends. -/
structure ClientProfile where
  profile : Text := []
  userAgent : Text := []
  hwid : Text := []
  deviceOS : Text := []
  osVersion : Text := []
  deviceModel : Text := []
  locale : Text := []
deriving DecidableEq

def clientProfileChecker : Text := "checker"
def clientProfileHapp : Text := "happ"
def clientProfileINCY : Text := "incy"
def clientProfileCustom : Text := "custom"

/-- `NormalizeClientProfileName`. -/
def normalizeClientProfileName (value : Text) : Text :=
  let name := toLower (trimSpace value)
  if name = clientProfileHapp then clientProfileHapp
  else if name = clientProfileINCY then clientProfileINCY
  else if name = clientProfileCustom then clientProfileCustom
  else clientProfileChecker

def modeFull : Text := "full"
def modeAvailability : Text := "availability"
def modePaused : Text := "paused"

/-- `observation.NormalizeMode`. -/
def normalizeMode (mode : Text) : Text :=
  let mode := trimSpace mode
  if mode = modeAvailability then modeAvailability
  else if mode = modePaused then modePaused
  else modeFull

/-- The class `[a-zA-Z0-9=-]` of `hwidPattern`. -/
def isHWIDRune (c : Char) : Bool :=
  c.isAlphanum || c == '=' || c == '-'

/-- `hwidPattern.MatchString`. -/
def matchHWIDPattern (value : Text) : Bool :=
  decide (10 ≤ value.length ∧ value.length ≤ 64) && value.all isHWIDRune

/-- `ValidateHWID`. -/
def validateHWID (value : Text) : Except Text Unit :=
  let value := trimSpace value
  if value = [] then .ok ()
  else reject (!matchHWIDPattern value)
    "HWID must be 10-64 characters of latin letters, digits, '=' or '-'"

/-- The digits of `hex.EncodeToString` in upper case. -/
def upperHexDigits : List Char :=
  ['0', '1', '2', '3', '4', '5', '6', '7', '8', '9', 'A', 'B', 'C', 'D', 'E',
    'F']

def upperHexDigit (n : Nat) : Char :=
  upperHexDigits.getD n '0'

/-- `GenerateHWID`, from what `rand.Read` fills its buffer with. -/
def generateHWID (random : Except Text (Fin 16 → UInt8)) :
    Except Text Text := do
  let buffer ← random.mapError ("generate HWID: " ++ ·)
  let encoded := (List.ofFn buffer).flatMap fun b =>
    [upperHexDigit (b.toNat / 16), upperHexDigit (b.toNat % 16)]
  return join [encoded.take 8, (encoded.drop 8).take 4,
    (encoded.drop 12).take 4, (encoded.drop 16).take 4, encoded.drop 20] "-"

/-- One subscription feed the operator added from the panel. -/
structure Source where
  id : Text := []
  url : Text
  name : Text := []
  enabled : Bool := true
  profile : ClientProfile := {}
  mode : Text := []
  unlisted : Bool := false
  createdAt : Time := 0
  updatedAt : Time := 0
deriving DecidableEq

/-- The trimmed fields of `normalize`. -/
def Source.trimmed (source : Source) : Source :=
  { source with
    id := trimSpace source.id
    url := trimSpace source.url
    name := trimSpace source.name
    mode := normalizeMode source.mode
    profile :=
      { profile := normalizeClientProfileName source.profile.profile
        userAgent := trimSpace source.profile.userAgent
        hwid := trimSpace source.profile.hwid
        deviceOS := trimSpace source.profile.deviceOS
        osVersion := trimSpace source.profile.osVersion
        deviceModel := trimSpace source.profile.deviceModel
        locale := trimSpace source.profile.locale } }

/-- The checks of `normalize`. -/
def Source.validate (source : Source) : Except Text Unit := do
  reject (source.url = []) "subscription URL is required"
  reject (!hasPrefix source.url "http://" && !hasPrefix source.url "https://")
    "subscription URL must start with http:// or https://"
  validateHWID source.profile.hwid
  reject (source.profile.profile = clientProfileCustom ∧
      source.profile.userAgent = [])
    "a custom client profile needs a User-Agent"

def normalize (source : Source) : Except Text Source := do
  source.trimmed.validate
  return source.trimmed

/-- Whether a profile should carry a generated HWID. -/
def profileNeedsHWID (profile : Text) : Bool :=
  profile != clientProfileChecker

/-- `a` may stand before `b`. -/
def Source.le (a b : Source) : Prop :=
  a.createdAt < b.createdAt ∨ a.createdAt = b.createdAt ∧ a.id ≤ b.id

instance : DecidableRel Source.le := fun _ _ =>
  inferInstanceAs (Decidable (_ ∨ _))

def sortSources (sources : List Source) : List Source :=
  sources.insertionSort Source.le

def newID (now : Time) : Text :=
  "src-" ++ itoa now

/-- A source with the HWID its profile needs: the one it has, or `kept`, or a
generated one. -/
def withHWID (source : Source) (kept : Text)
    (random : Except Text (Fin 16 → UInt8)) : Except Text Source :=
  if source.profile.hwid = [] ∧ profileNeedsHWID source.profile.profile then
    if kept = [] then do
      let hwid ← generateHWID random
      return { source with profile := { source.profile with hwid := hwid } }
    else
      .ok { source with profile := { source.profile with hwid := kept } }
  else .ok source

/-- `Add` up to its `save`, with the list it leaves. -/
def add (sources : List Source) (input : Source) (now : Time)
    (random : Except Text (Fin 16 → UInt8)) :
    Except Text (List Source × Source) := do
  let normalized ← normalize input
  let normalized ← withHWID normalized [] random
  let normalized := { normalized with createdAt := now, updatedAt := now }
  let normalized :=
    if normalized.id = [] then { normalized with id := newID now }
    else normalized
  reject (sources.any fun existing => existing.url = normalized.url)
    "this subscription URL is already added"
  return (sortSources (sources ++ [normalized]), normalized)

/-- What `Update` makes of a blank URL under its read lock. -/
def resolveURL (sources : List Source) (id : Text) (input : Source) : Source :=
  if trimSpace input.url = [] then
    match sources.find? fun existing => existing.id = id with
    | some existing => { input with url := existing.url }
    | none => input
  else input

/-- The loop of `Update`: the position of the last source of that ID, unless
another source has the URL. -/
def updateIndex (id url : Text) :
    Nat → Option Nat → List Source → Except Text (Option Nat)
  | _, index, [] => .ok index
  | i, index, existing :: rest =>
      if existing.id = id then updateIndex id url (i + 1) (some i) rest
      else if existing.url = url then
        .error "this subscription URL is already added"
      else updateIndex id url (i + 1) index rest

/-- `Update` from its validation up to its `save`, with the list it leaves and
the source it replaces. -/
def update (sources : List Source) (id : Text) (input : Source) (now : Time)
    (random : Except Text (Fin 16 → UInt8)) :
    Except Text (List Source × Source × Source) := do
  let normalized ← normalize input
  match ← updateIndex id normalized.url 0 none sources with
  | none => .error "subscription source not found"
  | some index =>
      match sources[index]? with
      | none => .error "subscription source not found"
      | some previous =>
          let normalized :=
            { normalized with
              id := previous.id, createdAt := previous.createdAt,
              updatedAt := now }
          let normalized ← withHWID normalized previous.profile.hwid random
          return (sortSources (sources.set index normalized), previous,
            normalized)

/-- `Delete` up to its `save`. -/
def delete (sources : List Source) (id : Text) : Except Text (List Source) :=
  if sources.any fun source => source.id = id then
    .ok (sources.filter fun source => source.id ≠ id)
  else .error "subscription source not found"

/-- What the file of the sources holds; one that was not written to its end
does not parse. -/
inductive FileContent where
  | state (version : Nat) (updatedAt : Time) (sources : List Source)
  | damaged
deriving DecidableEq

def stateVersion : Nat := 1

/-- `Load`: a malformed entry is dropped and the rest still load. -/
def load : Option FileContent → Except Text (List Source)
  | none => .ok []
  | some .damaged => .error "parse subscription sources"
  | some (.state version _ sources) =>
      if version = stateVersion then
        .ok (sortSources (sources.filterMap fun source =>
          (normalize source).toOption))
      else .error
        ("unsupported subscription source schema version " ++ itoa version)

@[simp]
theorem normalizeClientProfileName_idem (value : Text) :
    normalizeClientProfileName (normalizeClientProfileName value) =
      normalizeClientProfileName value := by
  have hname : normalizeClientProfileName value ∈ [clientProfileHapp,
      clientProfileINCY, clientProfileCustom, clientProfileChecker] := by
    rw [normalizeClientProfileName]
    split_ifs <;> simp
  simp only [List.mem_cons, List.not_mem_nil, or_false] at hname
  rcases hname with h | h | h | h <;> rw [h] <;> decide

@[simp]
theorem normalizeMode_idem (mode : Text) :
    normalizeMode (normalizeMode mode) = normalizeMode mode := by
  have hmode : normalizeMode mode ∈ [modeAvailability, modePaused,
      modeFull] := by
    rw [normalizeMode]
    split_ifs <;> simp
  simp only [List.mem_cons, List.not_mem_nil, or_false] at hmode
  rcases hmode with h | h | h <;> rw [h] <;> decide

@[simp]
theorem trimmed_idem (source : Source) :
    source.trimmed.trimmed = source.trimmed := by
  simp [Source.trimmed]

/-- A source as `normalize` leaves it. -/
def Source.Valid (source : Source) : Prop :=
  normalize source = .ok source

theorem normalize_eq_ok {source normalized : Source} :
    normalize source = .ok normalized ↔
      source.trimmed.validate = .ok () ∧ source.trimmed = normalized := by
  rw [normalize, bind_unit_eq_ok]
  simp [pure, Except.pure]

namespace Source.Valid

variable {source : Source}

theorem of_normalize {input : Source} (h : normalize input = .ok source) :
    source.Valid := by
  obtain ⟨hvalid, rfl⟩ := normalize_eq_ok.mp h
  exact normalize_eq_ok.mpr ⟨by rwa [trimmed_idem], trimmed_idem input⟩

theorem trimmed_eq (h : source.Valid) : source.trimmed = source :=
  (normalize_eq_ok.mp h).2

theorem validate_eq (h : source.Valid) : source.validate = .ok () := by
  have hvalid := (normalize_eq_ok.mp h).1
  rwa [h.trimmed_eq] at hvalid

theorem url_trimmed (h : source.Valid) : trimSpace source.url = source.url :=
  congrArg Source.url h.trimmed_eq

theorem hwid_trimmed (h : source.Valid) :
    trimSpace source.profile.hwid = source.profile.hwid :=
  congrArg (fun s => s.profile.hwid) h.trimmed_eq

theorem hwid_valid (h : source.Valid) :
    validateHWID source.profile.hwid = .ok () := by
  have hvalid := h.validate_eq
  simp only [Source.validate, bind_unit_eq_ok] at hvalid
  exact hvalid.2.2.1

theorem url_ne_nil (h : source.Valid) : source.url ≠ [] := by
  have hvalid := h.validate_eq
  simp only [Source.validate, bind_unit_eq_ok, reject_eq_ok,
    decide_eq_false_iff_not] at hvalid
  exact hvalid.1

/-- The identity and the times of a source are not validated. -/
theorem restamp (h : source.Valid) {id : Text} (hid : trimSpace id = id)
    (createdAt updatedAt : Time) :
    ({ source with id := id, createdAt := createdAt, updatedAt := updatedAt } :
      Source).Valid := by
  apply normalize_eq_ok.mpr
  have hsame : ({ source with
      id := id, createdAt := createdAt, updatedAt := updatedAt } :
      Source).trimmed =
      { source.trimmed with
        id := trimSpace id, createdAt := createdAt, updatedAt := updatedAt } :=
    rfl
  rw [hsame, h.trimmed_eq, hid]
  exact ⟨h.validate_eq, rfl⟩

/-- A source may be given any HWID the panel accepts. -/
theorem rehwid (h : source.Valid) {hwid : Text}
    (htrim : trimSpace hwid = hwid) (hvalid : validateHWID hwid = .ok ()) :
    ({ source with profile := { source.profile with hwid := hwid } } :
      Source).Valid := by
  apply normalize_eq_ok.mpr
  have hsame : ({ source with profile :=
      { source.profile with hwid := hwid } } : Source).trimmed =
      { source.trimmed with profile :=
        { source.trimmed.profile with hwid := trimSpace hwid } } :=
    rfl
  rw [hsame, h.trimmed_eq, htrim]
  have hchecks := h.validate_eq
  simp only [Source.validate, bind_unit_eq_ok] at hchecks ⊢
  exact ⟨⟨hchecks.1, hchecks.2.1, hvalid, hchecks.2.2.2⟩, trivial⟩

end Source.Valid

theorem trimSpace_newID (now : Time) : trimSpace (newID now) = newID now := by
  apply trimSpace_of_no_space
  intro c hc
  rcases List.mem_append.mp hc with hletter | hdigit
  · have hletters : ∀ c ∈ "src-".toList, isSpace c = false := by simp [isSpace]
    exact hletters c hletter
  · exact isSpace_of_isDigit
      (Nat.isDigit_of_mem_toDigits (by omega) (by omega) hdigit)

theorem upperHexDigit_mem (n : Nat) : upperHexDigit n ∈ upperHexDigits := by
  rw [upperHexDigit, List.getD_eq_getElem?_getD]
  cases hdigit : upperHexDigits[n]? with
  | none => decide
  | some digit => exact List.mem_of_getElem? hdigit

/-- A generated HWID is one the panel accepts. -/
theorem generateHWID_valid {random : Except Text (Fin 16 → UInt8)}
    {hwid : Text} (h : generateHWID random = .ok hwid) :
    trimSpace hwid = hwid ∧ validateHWID hwid = .ok () := by
  simp only [generateHWID, bind_eq_ok] at h
  obtain ⟨buffer, -, h⟩ := h
  obtain rfl := Except.ok.inj h
  generalize hencoded : (List.ofFn buffer).flatMap (fun b =>
    [upperHexDigit (b.toNat / 16), upperHexDigit (b.toNat % 16)]) = encoded
  have hlength : encoded.length = 32 := by
    simp [← hencoded]
  have hdigit : ∀ c ∈ encoded, c ∈ upperHexDigits := by
    intro c hc
    rw [← hencoded, List.mem_flatMap] at hc
    obtain ⟨b, -, hc⟩ := hc
    simp only [List.mem_cons, List.not_mem_nil, or_false] at hc
    rcases hc with rfl | rfl <;> exact upperHexDigit_mem _
  generalize hgenerated : join [encoded.take 8, (encoded.drop 8).take 4,
    (encoded.drop 12).take 4, (encoded.drop 16).take 4, encoded.drop 20]
    "-" = hwid
  have hlen : hwid.length = 36 := by
    simp [← hgenerated, join, List.intercalate, hlength]
  have hrune : ∀ c ∈ hwid, c = '-' ∨ c ∈ upperHexDigits := by
    intro c hc
    simp only [← hgenerated, join, List.intercalate, List.intersperse,
      List.flatten_cons, List.mem_append, List.flatten_nil,
      List.append_nil] at hc
    have hdash : c ∈ "-".toList → c = '-' := by simp
    rcases hc with h | h | h | h | h | h | h | h | h
    · exact Or.inr (hdigit c (List.mem_of_mem_take h))
    · exact Or.inl (hdash h)
    · exact Or.inr (hdigit c (List.mem_of_mem_drop (List.mem_of_mem_take h)))
    · exact Or.inl (hdash h)
    · exact Or.inr (hdigit c (List.mem_of_mem_drop (List.mem_of_mem_take h)))
    · exact Or.inl (hdash h)
    · exact Or.inr (hdigit c (List.mem_of_mem_drop (List.mem_of_mem_take h)))
    · exact Or.inl (hdash h)
    · exact Or.inr (hdigit c (List.mem_of_mem_drop h))
  have hallowed : ∀ c ∈ hwid, isSpace c = false ∧ isHWIDRune c = true := by
    have hdigits : ∀ c ∈ '-' :: upperHexDigits,
        isSpace c = false ∧ isHWIDRune c = true := by
      simp [upperHexDigits, isSpace, isHWIDRune, Char.isAlphanum]
    exact fun c hc => hdigits c (List.mem_cons.mpr (hrune c hc))
  have htrim := trimSpace_of_no_space fun c hc => (hallowed c hc).1
  refine ⟨htrim, ?_⟩
  simp only [validateHWID, htrim]
  split
  · rfl
  · rw [reject_eq_ok, Bool.not_eq_false', matchHWIDPattern, hlen,
      Bool.and_eq_true, List.all_eq_true]
    exact ⟨by decide, fun c hc => (hallowed c hc).2⟩

theorem withHWID_valid {source completed : Source} {kept : Text}
    {random : Except Text (Fin 16 → UInt8)} (hsource : source.Valid)
    (htrim : trimSpace kept = kept) (hkept : validateHWID kept = .ok ())
    (h : withHWID source kept random = .ok completed) :
    completed.Valid ∧ completed =
      { source with profile := completed.profile } := by
  rw [withHWID] at h
  split_ifs at h
  · rw [bind_eq_ok] at h
    obtain ⟨hwid, hgenerated, h⟩ := h
    obtain rfl := Except.ok.inj h
    obtain ⟨htrimmed, hvalid⟩ := generateHWID_valid hgenerated
    exact ⟨hsource.rehwid htrimmed hvalid, rfl⟩
  · obtain rfl := Except.ok.inj h
    exact ⟨hsource.rehwid htrim hkept, rfl⟩
  · obtain rfl := Except.ok.inj h
    exact ⟨hsource, rfl⟩

section Sorting

variable {sources : List Source}

instance : Std.Total Source.le where
  total a b := by
    rcases Nat.lt_trichotomy a.createdAt b.createdAt with h | h | h
    · exact Or.inl (Or.inl h)
    · exact (le_total a.id b.id).imp (fun hid => Or.inr ⟨h, hid⟩)
        fun hid => Or.inr ⟨h.symm, hid⟩
    · exact Or.inr (Or.inl h)

instance : IsTrans Source Source.le where
  trans a b c hab hbc := by
    rcases hab with hab | ⟨hab, hid⟩ <;> rcases hbc with hbc | ⟨hbc, hid'⟩
    · exact Or.inl (hab.trans hbc)
    · exact Or.inl (hbc ▸ hab)
    · exact Or.inl (hab ▸ hbc)
    · exact Or.inr ⟨hab.trans hbc, hid.trans hid'⟩

theorem sortSources_perm (sources : List Source) :
    (sortSources sources).Perm sources :=
  List.perm_insertionSort _ _

theorem sortSources_sorted (sources : List Source) :
    (sortSources sources).Pairwise Source.le :=
  List.pairwise_insertionSort _ _

theorem sortSources_of_sorted (h : sources.Pairwise Source.le) :
    sortSources sources = sources :=
  h.insertionSort_eq

end Sorting

/-- The sources of a file are loaded as they were saved. -/
theorem load_state {sources : List Source} (now : Time)
    (hvalid : ∀ source ∈ sources, source.Valid)
    (hsorted : sources.Pairwise Source.le) :
    load (some (.state stateVersion now sources)) = .ok sources := by
  have hkept : sources.filterMap (fun source =>
      (normalize source).toOption) = sources := by
    have hsame : ∀ source ∈ sources,
        (normalize source).toOption = some source := by
      intro source hsource
      rw [hvalid source hsource]
      rfl
    rw [List.filterMap_congr hsame]
    exact List.filterMap_some
  rw [load, if_pos rfl, hkept, sortSources_of_sorted hsorted]

/-- What is loaded is normalized and sorted. -/
theorem load_valid {file : Option FileContent} {sources : List Source}
    (h : load file = .ok sources) :
    (∀ source ∈ sources, source.Valid) ∧ sources.Pairwise Source.le := by
  cases file with
  | none =>
      obtain rfl := Except.ok.inj h
      exact ⟨nofun, List.Pairwise.nil⟩
  | some content =>
      cases content with
      | damaged => exact nomatch h
      | state version updatedAt stored =>
          rw [load] at h
          split_ifs at h
          obtain rfl := Except.ok.inj h
          refine ⟨?_, sortSources_sorted _⟩
          intro source hsource
          rw [(sortSources_perm _).mem_iff, List.mem_filterMap] at hsource
          obtain ⟨entry, -, hentry⟩ := hsource
          cases hnormal : normalize entry with
          | error text =>
              rw [hnormal] at hentry
              exact nomatch hentry
          | ok normalized =>
              rw [hnormal] at hentry
              obtain rfl := Option.some.inj hentry
              exact .of_normalize hnormal

section Commits

variable {sources after : List Source} {input : Source} {now : Time}
  {random : Except Text (Fin 16 → UInt8)}

/-- An added source is one of a new URL. -/
theorem add_ok {added : Source}
    (h : add sources input now random = .ok (after, added)) :
    added.Valid ∧ (∀ source ∈ sources, source.url ≠ added.url) ∧
      after = sortSources (sources ++ [added]) := by
  simp only [add, bind_eq_ok] at h
  obtain ⟨normalized, hnormal, completed, hcompleted, h⟩ := h
  obtain ⟨u, hunique, h⟩ := h
  obtain ⟨rfl, rfl⟩ := Prod.mk.inj (Except.ok.inj h)
  obtain ⟨hvalid, -⟩ := withHWID_valid (.of_normalize hnormal) rfl rfl
    hcompleted
  refine ⟨?_, ?_, rfl⟩
  · split
    · exact hvalid.restamp (trimSpace_newID now) now now
    · exact hvalid.restamp (congrArg Source.id hvalid.trimmed_eq) now now
  · simpa using hunique

/-- The sources of an ID. -/
def twins (sources : List Source) (id : Text) : List Source :=
  sources.filter fun source => source.id = id

/-- The loop of `Update` ends at the last source of the ID, and no source of
another ID has the URL. -/
theorem updateIndex_ok {id url : Text} {index : Nat} {rest : List Source}
    {i : Nat} {found : Option Nat}
    (h : updateIndex id url i found rest = .ok (some index)) :
    (∀ source ∈ rest, source.id ≠ id → source.url ≠ url) ∧
      ((∀ source ∈ rest, source.id ≠ id) ∧ found = some index ∨
        ∃ before previous tail, rest = before ++ previous :: tail ∧
          index = i + before.length ∧ previous.id = id ∧
          ∀ source ∈ tail, source.id ≠ id) := by
  induction rest generalizing i found with
  | nil => exact ⟨nofun, Or.inl ⟨nofun, Except.ok.inj h⟩⟩
  | cons existing rest ih =>
      rw [updateIndex] at h
      split_ifs at h with hid hurl
      · obtain ⟨hother, hlast⟩ := ih h
        constructor
        · rw [List.forall_mem_cons]
          exact ⟨fun hne => absurd hid hne, hother⟩
        · right
          rcases hlast with ⟨hnone, hfound⟩ | ⟨before, previous, tail, hlast⟩
          · exact ⟨[], existing, rest, rfl, (Option.some.inj hfound).symm,
              hid, hnone⟩
          · obtain ⟨rfl, rfl, hlast⟩ := hlast
            exact ⟨existing :: before, previous, tail, rfl,
              by simp only [List.length_cons]; omega, hlast⟩
      · obtain ⟨hother, hlast⟩ := ih h
        constructor
        · rw [List.forall_mem_cons]
          exact ⟨fun _ => hurl, hother⟩
        · rcases hlast with ⟨hnone, hfound⟩ | ⟨before, previous, tail, hlast⟩
          · exact Or.inl ⟨List.forall_mem_cons.mpr ⟨hid, hnone⟩, hfound⟩
          · obtain ⟨rfl, rfl, hlast⟩ := hlast
            exact Or.inr ⟨existing :: before, previous, tail, rfl,
              by simp only [List.length_cons]; omega, hlast⟩

/-- An update replaces the last source of its ID by one with the URL it is
given, which no source of another ID has. -/
theorem update_ok {id : Text} {previous updated : Source}
    (hsources : ∀ source ∈ sources, source.Valid)
    (h : update sources id input now random = .ok (after, previous, updated)) :
    updated.Valid ∧ updated.url = trimSpace input.url ∧
      updated.createdAt = previous.createdAt ∧ updated.id = previous.id ∧
      (twins sources id).getLast? = some previous ∧
      ∃ before tail, sources = before ++ previous :: tail ∧
        after = sortSources (before ++ updated :: tail) ∧
        ∀ source ∈ before ++ tail, source.url = updated.url →
          source ∈ (twins sources id).dropLast := by
  simp only [update, bind_eq_ok] at h
  obtain ⟨normalized, hnormal, found, hfound, h⟩ := h
  cases found with
  | none => exact nomatch h
  | some index =>
      obtain ⟨hother, hlast⟩ := updateIndex_ok hfound
      rcases hlast with ⟨-, hnone⟩ | ⟨before, last, tail, hlast⟩
      · exact nomatch hnone
      obtain ⟨hsplit, hindex, hid, htail⟩ := hlast
      rw [Nat.zero_add] at hindex
      have hget : sources[index]? = some last := by
        rw [hsplit, hindex]
        simp
      simp only [hget, bind_eq_ok] at h
      obtain ⟨completed, hcompleted, h⟩ := h
      obtain ⟨hafter, hpair⟩ := Prod.mk.inj (Except.ok.inj h)
      obtain ⟨rfl, rfl⟩ := Prod.mk.inj hpair
      have hnormalized := Source.Valid.of_normalize hnormal
      have hprevious : last.Valid := hsources last (by simp [hsplit])
      obtain ⟨hvalid, hsame⟩ := withHWID_valid
        (hnormalized.restamp (congrArg Source.id hprevious.trimmed_eq)
          last.createdAt now)
        hprevious.hwid_trimmed hprevious.hwid_valid hcompleted
      have hurl : completed.url = normalized.url := by rw [hsame]
      have htwins : twins sources id = twins before id ++ [last] := by
        have hnone : tail.filter (fun source => source.id = id) = [] :=
          List.filter_eq_nil_iff.mpr (by simpa using htail)
        rw [hsplit, twins, List.filter_append, List.filter_cons_of_pos
          (by simpa using hid), hnone]
        rfl
      refine ⟨hvalid, ?_, by rw [hsame], by rw [hsame], ?_, before, tail,
        hsplit, ?_, ?_⟩
      · rw [hurl, ← (normalize_eq_ok.mp hnormal).2]
        rfl
      · rw [htwins, List.getLast?_concat]
      · rw [← hafter, hsplit, hindex]
        simp
      · intro source hsource hsameurl
        rw [htwins, List.dropLast_concat]
        have hmem : source ∈ sources := by
          rw [hsplit]
          rcases List.mem_append.mp hsource with hbefore | hafter
          · exact List.mem_append_left _ hbefore
          · exact List.mem_append_right _ (List.mem_cons_of_mem _ hafter)
        have htwin : source.id = id := by
          by_contra hne
          exact hother source hmem hne (hsameurl.trans hurl)
        rcases List.mem_append.mp hsource with hbefore | hafter
        · exact List.mem_filter.mpr ⟨hbefore, by simpa using htwin⟩
        · exact absurd htwin (htail source hafter)

theorem delete_ok {id : Text} (h : delete sources id = .ok after) :
    after = sources.filter fun source => source.id ≠ id := by
  rw [delete] at h
  split_ifs at h
  exact (Except.ok.inj h).symm

end Commits

end XrayChecker.Subsource

import XrayChecker.Go.Url
import XrayChecker.Subsource.Store

/-
The masked URLs the panel shows: what a mask tells, and what becomes of the
stored URL when a row is sent back as it was shown.
-/

namespace XrayChecker.Subsource

open Go

/-- `strings.Trim(path, "/")`. -/
def trimSlashes (path : Bytes) : Bytes :=
  (path.dropWhile (· = 0x2f)).rdropWhile (· = 0x2f)

def ellipsis : Text := ['…']

def bullet : Text := ['•']

/-- The mask of a URL that was parsed. -/
def maskParsed (parsed : Url) : Bytes :=
  let path := trimSlashes parsed.path
  let origin := parsed.scheme ++ encode "://" ++ parsed.host
  if path = [] then origin
  else if path.length ≤ 8 then
    origin ++ encode "/" ++ (List.replicate path.length (encode bullet)).flatten
  else
    origin ++ encode "/" ++ path.take 3 ++ encode ellipsis ++
      path.drop (path.length - 3)

section Mask

variable (ipLiteral : Bytes → Bool)

/-- `MaskSubscriptionURL`. -/
def maskSubscriptionURL (value : Text) : Bytes :=
  let value := trimSpace value
  if value = [] then []
  else if !hasPrefix value "http://" && !hasPrefix value "https://" then
    encode value
  else
    match parseHttp ipLiteral (encode value) with
    | none => encode ellipsis
    | some parsed =>
        if parsed.host = [] then encode ellipsis else maskParsed parsed

/-- The mask as the JSON of the answer shows it. -/
def shownURL (value : Text) : Text :=
  runes (maskSubscriptionURL ipLiteral value)

end Mask

def isMaskedSubscriptionURL (value : Text) : Bool :=
  containsAny value "…•"

/-- `AdminSubscriptionSourceRequest`. -/
structure AdminSubscriptionSourceRequest where
  id : Text := []
  url : Text := []
  name : Text := []
  enabled : Option Bool := none
  profile : ClientProfile := {}
  mode : Text := []
  unlisted : Option Bool := none

/-- The source a request describes. -/
def AdminSubscriptionSourceRequest.source
    (req : AdminSubscriptionSourceRequest) : Source where
  url := if isMaskedSubscriptionURL req.url then [] else req.url
  name := req.name
  enabled := req.enabled.getD true
  profile := req.profile
  mode := req.mode
  unlisted := req.unlisted.getD false

/-- The sources after a POST or PUT of `AdminSubscriptionSourcesHandler`. -/
def saveSource (sources : List Source) (req : AdminSubscriptionSourceRequest)
    (now : Time) (random : Except Text (Fin 16 → UInt8)) : List Source :=
  if trimSpace req.id = [] then
    match add sources req.source now random with
    | .ok (after, _) => after
    | .error _ => sources
  else
    let id := trimSpace req.id
    match update sources id (resolveURL sources id req.source) now random with
    | .ok (after, _, _) => after
    | .error _ => sources

/-! ### Rows sent back -/

/-- Sending a row back with its URL as it was shown keeps the stored URL,
whatever else is changed. -/
def EchoKeeps (ipLiteral : Bytes → Bool) (url : Text) : Prop :=
  ∀ (sources : List Source) (source : Source),
    (∀ stored ∈ sources, stored.Valid) → twins sources source.id = [source] →
    source.url = url →
    ∀ req : AdminSubscriptionSourceRequest, req.id = source.id →
      req.url = shownURL ipLiteral url →
      ∀ now random, ∀ kept ∈ saveSource sources req now random,
        kept.id = source.id → kept.url = url

/-- The origin of a URL, as the mask shows it. -/
def shownOrigin (parsed : Url) : Text :=
  runes (parsed.scheme ++ encode "://" ++ parsed.host)

/-- The URL is one whose mask can be told, or is the whole URL. -/
def Tellable (ipLiteral : Bytes → Bool) (url : Text) : Prop :=
  ∀ parsed, parseHttp ipLiteral (encode url) = some parsed →
    parsed.host = [] ∨ trimSlashes parsed.path ≠ [] ∨
      isMaskedSubscriptionURL (shownOrigin parsed) = true ∨
      trimSpace (shownOrigin parsed) = url

/-- Two URLs with the same scheme, host and visible part of the path, and
paths of one length. -/
structure SameVisible (parsed other : Url) : Prop where
  scheme : parsed.scheme = other.scheme
  host : parsed.host = other.host
  length : (trimSlashes parsed.path).length = (trimSlashes other.path).length
  visible : 8 < (trimSlashes parsed.path).length →
    (trimSlashes parsed.path).take 3 = (trimSlashes other.path).take 3 ∧
      (trimSlashes parsed.path).drop ((trimSlashes parsed.path).length - 3) =
        (trimSlashes other.path).drop ((trimSlashes other.path).length - 3)

section Masks

variable {ipLiteral : Bytes → Bool} {url : Text}

/-- A URL as `Add` accepts it. -/
structure Accepted (url : Text) : Prop where
  trimmed : trimSpace url = url
  scheme : (hasPrefix url "http://" || hasPrefix url "https://") = true

theorem Accepted.of_valid {source : Source} (h : source.Valid) :
    Accepted source.url := by
  have hchecks := h.validate_eq
  simp only [Source.validate, bind_unit_eq_ok, reject_eq_ok] at hchecks
  refine ⟨h.url_trimmed, ?_⟩
  have hscheme := hchecks.2.1
  rw [← Bool.not_or, Bool.not_eq_false'] at hscheme
  exact hscheme

theorem isMasked_of_mem {c : Char} {value : Text} (hc : c ∈ value)
    (hmark : c ∈ (['…', '•'] : Text)) :
    isMaskedSubscriptionURL value = true := by
  rw [isMaskedSubscriptionURL, containsAny, List.any_eq_true]
  exact ⟨c, hc, by simpa using hmark⟩

/-- The mask of a URL with a path can be told. -/
theorem isMasked_maskParsed {parsed : Url}
    (h : trimSlashes parsed.path ≠ []) :
    isMaskedSubscriptionURL (runes (maskParsed parsed)) = true := by
  simp only [maskParsed, if_neg h]
  split
  · obtain ⟨n, hn⟩ := Nat.exists_eq_succ_of_ne_zero
      (fun hzero => h (List.length_eq_zero_iff.mp hzero))
    rw [hn, List.replicate_succ, List.flatten_cons, ← List.append_assoc]
    apply isMasked_of_mem _ (List.mem_cons_of_mem _ (List.mem_singleton_self _))
    have hmem := mem_runes '•'
      (parsed.scheme ++ encode "://" ++ parsed.host ++ encode "/")
      (List.replicate n (encode bullet)).flatten
    simpa [bullet] using hmem
  · apply isMasked_of_mem _ List.mem_cons_self
    have hmem := mem_runes '…'
      (parsed.scheme ++ encode "://" ++ parsed.host ++ encode "/" ++
        (trimSlashes parsed.path).take 3)
      ((trimSlashes parsed.path).drop ((trimSlashes parsed.path).length - 3))
    simpa [ellipsis] using hmem

theorem maskSubscriptionURL_eq (h : Accepted url) :
    maskSubscriptionURL ipLiteral url =
      match parseHttp ipLiteral (encode url) with
      | none => encode ellipsis
      | some parsed =>
          if parsed.host = [] then encode ellipsis else maskParsed parsed := by
  have hne : url ≠ [] := by
    rintro rfl
    exact absurd h.scheme (by decide)
  have hscheme : (!hasPrefix url "http://" && !hasPrefix url "https://") =
      false := by
    rw [← Bool.not_or, h.scheme]
    rfl
  simp only [maskSubscriptionURL, h.trimmed, if_neg hne, hscheme,
    Bool.false_eq_true, ↓reduceIte]

/-- What a row shows can be told to be a mask, or the URL has an origin only. -/
theorem tellable_iff (h : Accepted url) :
    Tellable ipLiteral url ↔
      isMaskedSubscriptionURL (shownURL ipLiteral url) = true ∨
        trimSpace (shownURL ipLiteral url) = url := by
  have hellipsis : isMaskedSubscriptionURL (runes (encode ellipsis)) = true :=
    by decide
  rw [Tellable, shownURL, maskSubscriptionURL_eq h]
  cases hparsed : parseHttp ipLiteral (encode url) with
  | none =>
      simp only [reduceCtorEq, false_imp_iff, implies_true, hellipsis, true_or]
  | some parsed =>
      simp only [Option.some.injEq, forall_eq']
      by_cases hhost : parsed.host = []
      · simp only [hhost, ↓reduceIte, hellipsis, true_or]
      · simp only [hhost, ↓reduceIte, false_or]
        by_cases hpath : trimSlashes parsed.path = []
        · have horigin : maskParsed parsed =
              parsed.scheme ++ encode "://" ++ parsed.host := by
            simp only [maskParsed, hpath, ↓reduceIte]
          simp only [hpath, ne_eq, not_true_eq_false, false_or, horigin,
            shownOrigin]
        · simp only [hpath, ne_eq, not_false_eq_true, true_or,
            isMasked_maskParsed hpath]

/-- The mask tells the scheme, the host and the visible part of the path. -/
theorem maskParsed_visible {parsed other : Url}
    (h : SameVisible parsed other) : maskParsed parsed = maskParsed other := by
  have hempty : trimSlashes parsed.path = [] ↔ trimSlashes other.path = [] := by
    rw [← List.length_eq_zero_iff, ← List.length_eq_zero_iff, h.length]
  simp only [maskParsed, h.scheme, h.host, hempty]
  split
  · rfl
  · split
    · rename_i hshort
      rw [if_pos (h.length ▸ hshort), h.length]
    · rename_i hlong
      rw [if_neg (h.length ▸ hlong)]
      obtain ⟨hfront, hback⟩ := h.visible (Nat.not_le.mp hlong)
      rw [hfront, hback]

end Masks

section Echo

variable {ipLiteral : Bytes → Bool} {url : Text}

/-- What an update leaves under an ID that names one source. -/
theorem update_url {sources after : List Source} {source previous updated :
    Source} {id : Text} {input : Source} {now : Time}
    {random : Except Text (Fin 16 → UInt8)}
    (hvalid : ∀ stored ∈ sources, stored.Valid)
    (hone : twins sources id = [source])
    (h : update sources id input now random = .ok (after, previous, updated)) :
    ∀ kept ∈ after, kept.id = id → kept.url = trimSpace input.url := by
  obtain ⟨-, hurl, -, -, hlast, before, tail, hsplit, hafter, -⟩ :=
    update_ok hvalid h
  rw [hone] at hlast
  obtain rfl : source = previous := by simpa using hlast
  intro kept hkept hid
  rw [hafter, (sortSources_perm _).mem_iff] at hkept
  have hrest : ∀ other ∈ before ++ tail, other.id ≠ id := by
    intro other hother hsame
    have hsource : source.id = id := by
      have hmem : source ∈ twins sources id := by
        rw [hone]
        exact List.mem_singleton_self _
      simpa using (List.mem_filter.mp hmem).2
    have hlength := congrArg List.length hone
    rw [hsplit, twins, List.filter_append, List.filter_cons_of_pos
      (by simpa using hsource)] at hlength
    have hfound : 0 < ((before.filter fun s => s.id = id) ++
        tail.filter fun s => s.id = id).length := by
      rw [← List.filter_append]
      exact List.length_pos_of_mem
        (List.mem_filter.mpr ⟨hother, by simpa using hsame⟩)
    simp only [List.length_append, List.length_cons, List.length_nil]
      at hlength hfound
    omega
  rcases List.mem_append.mp hkept with hbefore | hkept
  · exact absurd hid (hrest kept (List.mem_append_left _ hbefore))
  · rcases List.mem_cons.mp hkept with rfl | htail
    · exact hurl
    · exact absurd hid (hrest kept (List.mem_append_right _ htail))

/-- A mask that is told, or that is the URL, keeps the stored URL. -/
theorem echoKeeps_of_told
    (h : isMaskedSubscriptionURL (shownURL ipLiteral url) = true ∨
      trimSpace (shownURL ipLiteral url) = url) : EchoKeeps ipLiteral url := by
  rintro sources source hvalid hone rfl req hid hurl now random kept hkept
    hkeptId
  have hmem : source ∈ sources := by
    have htwin : source ∈ twins sources source.id := by
      rw [hone]
      exact List.mem_singleton_self _
    exact List.mem_of_mem_filter htwin
  have hown : ∀ stored ∈ sources, stored.id = source.id →
      stored = source := by
    intro stored hstored hsame
    have htwin : stored ∈ twins sources source.id :=
      List.mem_filter.mpr ⟨hstored, by simpa using hsame⟩
    rw [hone] at htwin
    exact List.mem_singleton.mp htwin
  have hsourceValid := hvalid source hmem
  have htrimId : trimSpace source.id = source.id :=
    congrArg Source.id hsourceValid.trimmed_eq
  rw [saveSource, hid, htrimId] at hkept
  dsimp only at hkept
  split at hkept
  · rename_i hempty
    cases hadd : add sources req.source now random with
    | error _ =>
        rw [hadd] at hkept
        rw [hown kept hkept hkeptId]
    | ok result =>
        obtain ⟨after, added⟩ := result
        rw [hadd] at hkept
        obtain ⟨-, -, hafter⟩ := add_ok hadd
        simp only [hafter, (sortSources_perm _).mem_iff, List.mem_append,
          List.mem_singleton] at hkept
        rcases hkept with hkept | rfl
        · rw [hown kept hkept hkeptId]
        · -- An added source has an ID.
          have hadded : kept.id ≠ [] := by
            simp only [add, bind_eq_ok] at hadd
            obtain ⟨normalized, -, completed, -, hadd⟩ := hadd
            obtain ⟨u, -, hadd⟩ := hadd
            obtain ⟨-, hkept⟩ := Prod.mk.inj (Except.ok.inj hadd)
            rw [← hkept]
            split
            · simp [newID]
            · assumption
          exact absurd (hkeptId.trans hempty) hadded
  · cases hupdate : update sources source.id
      (resolveURL sources source.id req.source) now random with
    | error _ =>
        rw [hupdate] at hkept
        rw [hown kept hkept hkeptId]
    | ok result =>
        obtain ⟨after, previous, updated⟩ := result
        rw [hupdate] at hkept
        rw [update_url hvalid hone hupdate kept hkept hkeptId]
        have hresolved : trimSpace (resolveURL sources source.id
            req.source).url = source.url := by
          have hfound : sources.find? (fun existing =>
              existing.id = source.id) = some source := by
            rw [← List.head?_filter]
            exact congrArg List.head? hone
          rcases h with htold | hsame
          · simp only [resolveURL, AdminSubscriptionSourceRequest.source, hurl,
              htold, ↓reduceIte, hfound, trimSpace, List.dropWhile_nil,
              List.rdropWhile_nil]
            exact hsourceValid.url_trimmed
          · by_cases htold : isMaskedSubscriptionURL
                (shownURL ipLiteral source.url) = true
            · simp only [resolveURL, AdminSubscriptionSourceRequest.source,
                hurl, htold, ↓reduceIte, hfound, trimSpace,
                List.dropWhile_nil, List.rdropWhile_nil]
              exact hsourceValid.url_trimmed
            · simp only [resolveURL, AdminSubscriptionSourceRequest.source,
                hurl, htold, Bool.false_eq_true, ↓reduceIte, hsame,
                if_neg hsourceValid.url_ne_nil]
        exact hresolved

/-- The source a row without a device profile makes. -/
def plainSource (url : Text) : Source where
  url := url
  mode := modeFull
  profile := { profile := clientProfileChecker }

theorem normalize_plainSource (h : Accepted (trimSpace url)) :
    normalize (plainSource url) = .ok (plainSource (trimSpace url)) := by
  have hne : trimSpace url ≠ [] := by
    intro hnil
    have hscheme := h.scheme
    rw [hnil] at hscheme
    exact absurd hscheme (by decide)
  have hscheme : (!hasPrefix (trimSpace url) "http://" &&
      !hasPrefix (trimSpace url) "https://") = false := by
    rw [← Bool.not_or, h.scheme]
    rfl
  have htrimmed : (plainSource url).trimmed = plainSource (trimSpace url) := by
    have hprofile : normalizeClientProfileName clientProfileChecker =
        clientProfileChecker := by decide
    have hmode : normalizeMode modeFull = modeFull := by decide
    simp only [Source.trimmed, plainSource, hprofile, hmode]
    rfl
  rw [normalize_eq_ok, htrimmed]
  refine ⟨?_, rfl⟩
  have hhwid : validateHWID [] = .ok () := by decide
  simp only [Source.validate, plainSource, bind_unit_eq_ok, reject_eq_ok,
    decide_eq_false_iff_not, hne, not_false_eq_true, hscheme, hhwid, true_and]
  decide

theorem parseRest_scheme {scheme rest : Bytes} {parsed : Url}
    (h : parseRest ipLiteral scheme rest = some parsed) :
    parsed.scheme = scheme := by
  simp only [parseRest] at h
  split at h
  · cases h
  · simp only [Option.bind_eq_bind, Option.bind_eq_some_iff] at h
    obtain ⟨host, -, path, -, frag, -, hparsed⟩ := h
    rw [← Option.some.inj hparsed]

theorem parseHttp_scheme {value : Bytes} {parsed : Url}
    (h : parseHttp ipLiteral value = some parsed) :
    parsed.scheme = encode "http" ∨ parsed.scheme = encode "https" := by
  rw [parseHttp] at h
  split at h
  · exact Or.inl (parseRest_scheme h)
  · split at h
    · exact Or.inr (parseRest_scheme h)
    · cases h

/-- Trimming a text keeps a front that is trimmed itself. -/
theorem prefix_trimSpace {front : Text} (rest : Text) (hne : front ≠ [])
    (h : trimSpace front = front) : front <+: trimSpace (front ++ rest) := by
  obtain ⟨hhead, hlast⟩ := trimSpace_eq_self_iff.mp h
  obtain ⟨c, tail, rfl⟩ := List.exists_cons_of_ne_nil hne
  have hdrop : ∀ after : Text,
      (c :: tail ++ after).dropWhile isSpace = c :: tail ++ after :=
    fun after => List.dropWhile_cons_of_neg (by simp [hhead c rfl])
  rw [trimSpace, hdrop]
  induction rest using List.reverseRecOn with
  | nil =>
      rw [List.append_nil, List.rdropWhile_eq_self_iff.mpr]
      intro hcons
      simpa using hlast _ (List.getLast?_eq_getLast_of_ne_nil hcons)
  | append_singleton rest e ih =>
      rw [← List.append_assoc]
      by_cases hspace : isSpace e = true
      · rw [List.rdropWhile_concat_pos _ _ _ hspace]
        exact ih
      · rw [List.rdropWhile_concat_neg _ _ _ hspace, List.append_assoc]
        exact List.prefix_append _ _

/-- The scheme survives where the mask of a URL is an origin. -/
theorem shownOrigin_accepted {parsed : Url}
    (h : parseHttp ipLiteral (encode url) = some parsed) :
    Accepted (trimSpace (shownOrigin parsed)) := by
  refine ⟨trimSpace_idem _, ?_⟩
  rw [shownOrigin, Bool.or_eq_true, hasPrefix, hasPrefix,
    List.isPrefixOf_iff_prefix, List.isPrefixOf_iff_prefix]
  rcases parseHttp_scheme h with hscheme | hscheme
  · left
    rw [hscheme, ← encode_append, runes_encode_append]
    exact @prefix_trimSpace ("http://" : Text) _ (by decide) (by decide)
  · right
    rw [hscheme, ← encode_append, runes_encode_append]
    exact @prefix_trimSpace ("https://" : Text) _ (by decide) (by decide)

/-- The only source of a store, and the row it is sent back as. -/
def storedSource (url : Text) : Source :=
  { plainSource url with id := "src-1" }

def echoRequest (shown : Text) : AdminSubscriptionSourceRequest where
  id := "src-1"
  url := shown
  profile := { profile := clientProfileChecker }
  mode := modeFull

/-- A row that is sent back with another URL replaces the stored one. -/
theorem saveSource_echo {shown : Text} (hshown : Accepted (trimSpace shown))
    (htold : isMaskedSubscriptionURL shown = false) :
    saveSource [storedSource url] (echoRequest shown) 0 (.ok fun _ => 0) =
      [storedSource (trimSpace shown)] := by
  have hne : trimSpace shown ≠ [] := by
    intro hnil
    have hscheme := hshown.scheme
    rw [hnil] at hscheme
    exact absurd hscheme (by decide)
  have hsource : (echoRequest shown).source = plainSource shown := by
    simp only [AdminSubscriptionSourceRequest.source, echoRequest, htold,
      Bool.false_eq_true, ↓reduceIte]
    rfl
  have hid : trimSpace (echoRequest shown).id = "src-1" := by
    have htrim : trimSpace ("src-1" : Text) = "src-1" := by decide
    exact htrim
  have hresolved : resolveURL [storedSource url] "src-1" (plainSource shown) =
      plainSource shown := if_neg hne
  have hindex : ∀ other : Text,
      updateIndex "src-1" other 0 none [storedSource url] = .ok (some 0) :=
    fun _ => rfl
  have hupdate : update [storedSource url] "src-1" (plainSource shown) 0
      (.ok fun _ => 0) = .ok ([storedSource (trimSpace shown)],
        storedSource url, storedSource (trimSpace shown)) := by
    simp only [update, normalize_plainSource hshown, hindex]
    rfl
  rw [saveSource, hid, hsource, if_neg (by decide)]
  simp only [hresolved, hupdate]

/-- A mask that is not told replaces the URL it hides. -/
theorem not_echoKeeps (hurl : Accepted url)
    (hshown : Accepted (trimSpace (shownURL ipLiteral url)))
    (htold : isMaskedSubscriptionURL (shownURL ipLiteral url) = false)
    (hother : trimSpace (shownURL ipLiteral url) ≠ url) :
    ¬EchoKeeps ipLiteral url := by
  intro h
  have hstored : (storedSource url).Valid := by
    have hnormal := normalize_plainSource (hurl.trimmed.symm ▸ hurl)
    rw [hurl.trimmed] at hnormal
    exact Source.Valid.restamp hnormal (by decide) 0 0
  refine hother (h [storedSource url] (storedSource url)
    (by simpa using hstored) (by simp [twins]) rfl
    (echoRequest (shownURL ipLiteral url)) rfl rfl 0 (.ok fun _ => 0)
    (storedSource (trimSpace (shownURL ipLiteral url))) ?_ rfl)
  rw [saveSource_echo hshown htold]
  exact List.mem_singleton_self _

/-- What a URL that is not tellable shows is an origin, and no mask. -/
theorem shown_of_not_tellable (hurl : Accepted url)
    (h : ¬Tellable ipLiteral url) :
    Accepted (trimSpace (shownURL ipLiteral url)) := by
  rw [Tellable] at h
  simp only [not_forall, not_or, not_not] at h
  obtain ⟨parsed, hparsed, hhost, hpath, -, -⟩ := h
  have hshown : shownURL ipLiteral url = shownOrigin parsed := by
    rw [shownURL, maskSubscriptionURL_eq hurl, hparsed]
    simp only [hhost, ↓reduceIte, maskParsed, hpath, shownOrigin]
  rw [hshown]
  exact shownOrigin_accepted hparsed

/-- Sending a row back keeps the URL exactly where the mask can be told or is
the URL, and the mask tells no more than the visible parts. -/
theorem echoKeeps_iff (ipLiteral : Bytes → Bool) {sources after : List Source}
    {input added : Source} {now : Time}
    {random : Except Text (Fin 16 → UInt8)}
    (h : add sources input now random = .ok (after, added)) :
    (EchoKeeps ipLiteral added.url ↔ Tellable ipLiteral added.url) ∧
      ∀ (other : Source) (parsed parsed' : Url), other.Valid →
        parseHttp ipLiteral (encode added.url) = some parsed →
        parseHttp ipLiteral (encode other.url) = some parsed' →
        SameVisible parsed parsed' →
        maskSubscriptionURL ipLiteral added.url =
          maskSubscriptionURL ipLiteral other.url := by
  have hurl := Accepted.of_valid (add_ok h).1
  constructor
  · rw [tellable_iff hurl]
    constructor
    · intro hkeeps
      by_contra hnot
      have hshown := shown_of_not_tellable hurl
        (fun htellable => hnot ((tellable_iff hurl).mp htellable))
      rw [not_or, Bool.not_eq_true] at hnot
      exact not_echoKeeps hurl hshown hnot.1 hnot.2 hkeeps
    · exact echoKeeps_of_told
  · intro other parsed parsed' hother hparsed hparsed' hvisible
    rw [maskSubscriptionURL_eq hurl,
      maskSubscriptionURL_eq (Accepted.of_valid hother), hparsed, hparsed']
    simp only [hvisible.host, maskParsed_visible hvisible]

end Echo

namespace Sample

/-- A URL whose token stands in its query. -/
def queryURL : Text := "https://panel.example/?token=secret"

def querySource : Source :=
  { plainSource queryURL with id := newID 1, createdAt := 1, updatedAt := 1 }

theorem accepted_queryURL : Accepted queryURL :=
  ⟨by decide, by decide⟩

theorem add_querySource :
    add [] (plainSource queryURL) 1 (.ok fun _ => 0) =
      .ok ([querySource], querySource) := by
  have hnormal := normalize_plainSource
    (accepted_queryURL.trimmed.symm ▸ accepted_queryURL)
  simp only [add, hnormal, accepted_queryURL.trimmed]
  rfl

theorem shown_queryURL :
    shownURL (fun _ => false) queryURL = "https://panel.example" := by
  have hparsed : parseHttp (fun _ => false) (encode queryURL) =
      some { scheme := encode "https", host := encode "panel.example",
             path := encode "/" } := by
    decide +kernel
  have hcons : ("panel.example" : Text) = 'p' :: "anel.example" := rfl
  have hhost : encode "panel.example" ≠ [] := by
    rw [hcons, encode_cons]
    exact List.append_ne_nil_of_left_ne_nil String.utf8EncodeChar_ne_nil _
  have hpath : trimSlashes (encode "/") = [] := by decide
  rw [shownURL, maskSubscriptionURL_eq accepted_queryURL, hparsed]
  simp only [hhost, ↓reduceIte, maskParsed, hpath, ← encode_append,
    runes_encode]
  rfl

/-- The row of a source with its token in the query, sent back as it was
shown, replaces the URL by its origin. -/
theorem query_token_replaced :
    add [] (plainSource queryURL) 1 (.ok fun _ => 0) =
      .ok ([querySource], querySource) ∧
      ¬EchoKeeps (fun _ => false) querySource.url := by
  refine ⟨add_querySource, @not_echoKeeps _ queryURL accepted_queryURL
    ?_ ?_ ?_⟩
  · rw [shown_queryURL]
    exact ⟨trimSpace_idem _, by decide⟩
  · rw [shown_queryURL]
    decide
  · rw [shown_queryURL]
    decide

theorem echoKeeps_iff_query :
    (EchoKeeps (fun _ => false) querySource.url ↔
      Tellable (fun _ => false) querySource.url) ∧
      ∀ (other : Source) (parsed parsed' : Url), other.Valid →
        parseHttp (fun _ => false) (encode querySource.url) = some parsed →
        parseHttp (fun _ => false) (encode other.url) = some parsed' →
        SameVisible parsed parsed' →
        maskSubscriptionURL (fun _ => false) querySource.url =
          maskSubscriptionURL (fun _ => false) other.url :=
  echoKeeps_iff (fun _ => false) add_querySource

end Sample

end XrayChecker.Subsource

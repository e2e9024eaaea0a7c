import XrayChecker.Go.Decimal
import XrayChecker.Go.Replacer
import XrayChecker.Remnawave.Messages

/-
The placeholders of an announce text.  The validator deletes the allowed
placeholders one kind after another and looks for braces in what is left; the
renderer replaces all of them in one pass.  A placeholder that only comes about
when another one is deleted passes the validator and is not rendered.
-/

namespace XrayChecker.Remnawave

open Go

def openBrace : Char := '\x7b'
def closeBrace : Char := '\x7d'

/-- A text without braces. -/
def Braceless (s : Text) : Prop :=
  openBrace ∉ s ∧ closeBrace ∉ s

instance : DecidablePred Braceless := fun s =>
  inferInstanceAs (Decidable (openBrace ∉ s ∧ closeBrace ∉ s))

theorem braceless_append {front rest : Text} :
    Braceless (front ++ rest) ↔ Braceless front ∧ Braceless rest := by
  simp only [Braceless, List.mem_append, not_or]
  tauto

theorem braceless_cons {c : Char} {rest : Text} :
    Braceless (c :: rest) ↔
      (c ≠ openBrace ∧ c ≠ closeBrace) ∧ Braceless rest := by
  simp only [Braceless, List.mem_cons, not_or, ne_comm (a := c)]
  tauto

theorem containsAny_braces {s : Text} :
    containsAny s "\x7b\x7d" = false ↔ Braceless s := by
  rw [containsAny_eq_false_iff]
  constructor
  · exact fun h => ⟨fun hmem => h _ hmem (by decide),
      fun hmem => h _ hmem (by decide)⟩
  · rintro ⟨hopen, hclose⟩ c hc hbrace
    change c ∈ [openBrace, closeBrace] at hbrace
    rcases List.mem_cons.mp hbrace with rfl | hrest
    · exact hopen hc
    · exact hclose (List.mem_singleton.mp hrest ▸ hc)

/-- A word in braces. -/
def block (word : Text) : Text :=
  openBrace :: (word ++ [closeBrace])

theorem block_append (word rest : Text) :
    block word ++ rest = openBrace :: (word ++ closeBrace :: rest) := by
  rw [block, List.cons_append, List.append_assoc, List.singleton_append]

/-- Whether a brace is opened before the last one is closed; `inside` tells
whether one is open at the start. -/
def bracesNested : Bool → Text → Bool
  | _, [] => false
  | inside, c :: rest =>
      if c = openBrace then inside || bracesNested true rest
      else if c = closeBrace then bracesNested false rest
      else bracesNested inside rest

/-- A text all of whose braces belong to some of the placeholders. -/
inductive TokenText (tokens : List Text) : Text → Prop
  | nil : TokenText tokens []
  | plain {c : Char} {rest : Text} : c ≠ openBrace → c ≠ closeBrace →
      TokenText tokens rest → TokenText tokens (c :: rest)
  | token {t rest : Text} : t ∈ tokens → TokenText tokens rest →
      TokenText tokens (t ++ rest)

theorem TokenText.mono {tokens more : List Text} (h : tokens ⊆ more)
    {s : Text} (hs : TokenText tokens s) : TokenText more s := by
  induction hs with
  | nil => exact .nil
  | plain hopen hclose _ ih => exact .plain hopen hclose ih
  | token ht _ ih => exact .token (h ht) ih

/-- The placeholders are words in braces. -/
def Blocks (tokens : List Text) : Prop :=
  ∀ t ∈ tokens, ∃ word, Braceless word ∧ t = block word

/-- What the validator looks at. -/
def deleteAll (tokens : List Text) (s : Text) : Text :=
  tokens.foldl (fun remaining token => replaceAll remaining token []) s

section Scan

theorem bracesNested_word {word : Text} (h : Braceless word) (inside : Bool)
    (rest : Text) :
    bracesNested inside (word ++ rest) = bracesNested inside rest := by
  induction word with
  | nil => rfl
  | cons c word ih =>
      obtain ⟨⟨hopen, hclose⟩, hword⟩ := braceless_cons.mp h
      rw [List.cons_append, bracesNested, if_neg hopen, if_neg hclose,
        ih hword]

/-- A text up to its first brace. -/
theorem exists_word (s : Text) : ∃ word rest, Braceless word ∧
    s = word ++ rest ∧ (rest = [] ∨ (∃ tail, rest = openBrace :: tail) ∨
      ∃ tail, rest = closeBrace :: tail) := by
  induction s with
  | nil => exact ⟨[], [], ⟨List.not_mem_nil, List.not_mem_nil⟩, rfl, Or.inl rfl⟩
  | cons c s ih =>
      by_cases hopen : c = openBrace
      · exact ⟨[], c :: s, ⟨List.not_mem_nil, List.not_mem_nil⟩, rfl,
          Or.inr (Or.inl ⟨s, hopen ▸ rfl⟩)⟩
      by_cases hclose : c = closeBrace
      · exact ⟨[], c :: s, ⟨List.not_mem_nil, List.not_mem_nil⟩, rfl,
          Or.inr (Or.inr ⟨s, hclose ▸ rfl⟩)⟩
      obtain ⟨word, rest, hword, hs, hrest⟩ := ih
      exact ⟨c :: word, rest, braceless_cons.mpr ⟨⟨hopen, hclose⟩, hword⟩,
        congrArg (c :: ·) hs, hrest⟩

/-- A word in braces starts with another one only if it is that one. -/
theorem block_prefix {word other rest : Text} (hword : Braceless word)
    (hother : Braceless other) :
    block word <+: block other ++ rest ↔ word = other := by
  constructor
  · rintro ⟨tail, h⟩
    simp only [block, List.cons_append, List.append_assoc, List.nil_append,
      List.cons.injEq, true_and] at h
    exact (append_cons_cancel hword.2 hother.2 h).1
  · rintro rfl
    exact ⟨rest, rfl⟩

end Scan

section Delete

variable {tokens : List Text} {t word rest : Text} {c : Char}

/-- Before a brace is opened nothing is deleted. -/
theorem replaceAll_plain (ht : ∃ word, Braceless word ∧ t = block word)
    (hc : c ≠ openBrace) :
    replaceAll (c :: rest) t [] = c :: replaceAll rest t [] := by
  refine replacer_kept (List.find?_eq_none.mpr ?_)
  rintro pair hpair hfront
  obtain rfl := List.mem_singleton.mp hpair
  obtain ⟨word, -, rfl⟩ := ht
  rw [List.isPrefixOf_iff_prefix, block, List.cons_prefix_cons] at hfront
  exact hc hfront.1.symm

theorem replaceAll_braceless (ht : ∃ word, Braceless word ∧ t = block word)
    (hword : Braceless word) :
    replaceAll (word ++ rest) t [] = word ++ replaceAll rest t [] := by
  induction word with
  | nil => rfl
  | cons c word ih =>
      obtain ⟨⟨hopen, -⟩, hrest⟩ := braceless_cons.mp hword
      rw [List.cons_append, replaceAll_plain ht hopen, ih hrest]
      rfl

/-- A word in braces is deleted as a whole or stays as it is. -/
theorem replaceAll_block (ht : ∃ word, Braceless word ∧ t = block word)
    (hword : Braceless word) :
    replaceAll (block word ++ rest) t [] =
      if t = block word then replaceAll rest t []
      else block word ++ replaceAll rest t [] := by
  obtain ⟨other, hother, rfl⟩ := ht
  split
  · rename_i heq
    rw [heq]
    have hmatch : matchPair [(block word, [])] (block word ++ rest) =
        some (block word, []) := by
      rw [matchPair, List.find?_cons_of_pos]
      rw [List.isPrefixOf_iff_prefix]
      exact List.prefix_append _ _
    exact replacer_taken (List.cons_ne_nil _ _) hmatch
  · rename_i hne
    have hkept : matchPair [(block other, [])] (block word ++ rest) = none := by
      refine List.find?_eq_none.mpr ?_
      rintro pair hpair hfront
      obtain rfl := List.mem_singleton.mp hpair
      rw [List.isPrefixOf_iff_prefix, block_prefix hother hword] at hfront
      exact hne (congrArg block hfront)
    have hblock : ∃ word, Braceless word ∧ block other = block word :=
      ⟨other, hother, rfl⟩
    rw [block_append] at hkept ⊢
    rw [replaceAll, replacer_kept hkept, block_append]
    change openBrace :: replaceAll (word ++ _) (block other) [] = _
    rw [replaceAll_braceless hblock hword, replaceAll_plain hblock (by decide)]

/-- A brace that is never closed stays. -/
theorem replaceAll_unclosed (ht : ∃ word, Braceless word ∧ t = block word)
    (hword : Braceless word) :
    replaceAll (openBrace :: word) t [] = openBrace :: word := by
  have hkept : matchPair [(t, [])] (openBrace :: word) = none := by
    refine List.find?_eq_none.mpr ?_
    rintro pair hpair hfront
    obtain rfl := List.mem_singleton.mp hpair
    obtain ⟨other, -, rfl⟩ := ht
    rw [List.isPrefixOf_iff_prefix, block, List.cons_prefix_cons] at hfront
    exact hword.2 (hfront.2.subset (by simp))
  have hrest := @replaceAll_braceless t word [] ht hword
  rw [List.append_nil] at hrest
  rw [replaceAll, replacer_kept hkept]
  change openBrace :: replaceAll word t [] = _
  rw [hrest]
  change openBrace :: (word ++ replacer _ []) = _
  rw [replacer_nil, List.append_nil]

theorem deleteAll_plain (htokens : Blocks tokens) (hc : c ≠ openBrace) :
    deleteAll tokens (c :: rest) = c :: deleteAll tokens rest := by
  induction tokens generalizing rest with
  | nil => rfl
  | cons t tokens ih =>
      rw [deleteAll, List.foldl_cons,
        replaceAll_plain (htokens t List.mem_cons_self) hc]
      exact ih fun t ht => htokens t (List.mem_cons_of_mem _ ht)

theorem deleteAll_block (htokens : Blocks tokens) (hword : Braceless word) :
    deleteAll tokens (block word ++ rest) =
      if block word ∈ tokens then deleteAll tokens rest
      else block word ++ deleteAll tokens rest := by
  induction tokens generalizing rest with
  | nil => rfl
  | cons t tokens ih =>
      have hrest : Blocks tokens :=
        fun t ht => htokens t (List.mem_cons_of_mem _ ht)
      rw [deleteAll, List.foldl_cons,
        replaceAll_block (htokens t List.mem_cons_self) hword]
      by_cases ht : t = block word
      · rw [if_pos ht, if_pos (ht ▸ List.mem_cons_self)]
        rfl
      · rw [if_neg ht]
        refine (ih hrest).trans ?_
        simp only [List.mem_cons, Ne.symm ht, false_or]
        rfl

theorem deleteAll_unclosed (htokens : Blocks tokens) (hword : Braceless word) :
    deleteAll tokens (openBrace :: word) = openBrace :: word := by
  induction tokens with
  | nil => rfl
  | cons t tokens ih =>
      rw [deleteAll, List.foldl_cons,
        replaceAll_unclosed (htokens t List.mem_cons_self) hword]
      exact ih fun t ht => htokens t (List.mem_cons_of_mem _ ht)

end Delete

/-- Where no brace is opened inside another one, the validator deletes only
what was a placeholder from the start. -/
theorem tokenText_of_deleted {tokens : List Text} (htokens : Blocks tokens)
    (s : Text) (hnested : bracesNested false s = false)
    (hclean : Braceless (deleteAll tokens s)) : TokenText tokens s := by
  induction hn : s.length using Nat.strong_induction_on generalizing s with
  | _ n ih =>
    cases s with
    | nil => exact .nil
    | cons c rest =>
        by_cases hopen : c = openBrace
        · subst hopen
          obtain ⟨word, tail, hword, rfl, htail⟩ := exists_word rest
          rw [bracesNested, if_pos rfl, Bool.false_or,
            bracesNested_word hword] at hnested
          rcases htail with rfl | ⟨tail, rfl⟩ | ⟨tail, rfl⟩
          · rw [List.append_nil, deleteAll_unclosed htokens hword] at hclean
            exact absurd List.mem_cons_self hclean.1
          · rw [bracesNested, if_pos rfl] at hnested
            cases hnested
          · rw [bracesNested, if_neg (by decide), if_pos rfl] at hnested
            rw [← block_append, deleteAll_block htokens hword] at hclean
            rw [← block_append] at hn ⊢
            have hlength : tail.length < n := by
              rw [← hn, List.length_append, block, List.length_cons]
              omega
            split at hclean
            · rename_i hmem
              exact .token hmem (ih _ hlength tail hnested hclean rfl)
            · exact absurd List.mem_cons_self
                (braceless_append.mp hclean).1.1
        · rw [deleteAll_plain htokens hopen, braceless_cons] at hclean
          rw [bracesNested, if_neg hopen, if_neg hclean.1.2] at hnested
          refine .plain hopen hclean.1.2 (ih rest.length ?_ rest hnested
            hclean.2 rfl)
          rw [← hn]
          exact Nat.lt_succ_self _

/-- Placeholders do not stand inside each other. -/
theorem TokenText.not_nested {tokens : List Text} (htokens : Blocks tokens)
    {s : Text} (h : TokenText tokens s) : bracesNested false s = false := by
  induction h with
  | nil => rfl
  | plain hopen hclose _ ih => rwa [bracesNested, if_neg hopen, if_neg hclose]
  | token ht _ ih =>
      obtain ⟨word, hword, rfl⟩ := htokens _ ht
      rw [block_append, bracesNested, if_pos rfl, Bool.false_or,
        bracesNested_word hword, bracesNested, if_neg (by decide), if_pos rfl,
        ih]

section Render

variable {pairs : List (Text × Text)} {s : Text}

/-- The placeholders of a rendering and what they stand for. -/
structure Rendering (pairs : List (Text × Text)) : Prop where
  blocks : Blocks (pairs.map Prod.fst)
  clean : ∀ pair ∈ pairs, Braceless pair.2

namespace Rendering

theorem ne_nil (h : Rendering pairs) : ∀ pair ∈ pairs, pair.1 ≠ [] := by
  intro pair hpair
  obtain ⟨word, -, hword⟩ := h.blocks _ (List.mem_map_of_mem hpair)
  rw [hword]
  exact List.cons_ne_nil _ _

/-- One pass over a text of placeholders leaves no brace. -/
theorem braceless (h : Rendering pairs)
    (hs : TokenText (pairs.map Prod.fst) s) : Braceless (replacer pairs s) := by
  induction hs with
  | nil => exact ⟨List.not_mem_nil, List.not_mem_nil⟩
  | @plain c rest hopen hclose _ ih =>
      have hkept : matchPair pairs (c :: rest) = none := by
        refine List.find?_eq_none.mpr ?_
        intro pair hpair hfront
        obtain ⟨word, -, hword⟩ := h.blocks _ (List.mem_map_of_mem hpair)
        rw [List.isPrefixOf_iff_prefix, hword, block,
          List.cons_prefix_cons] at hfront
        exact hopen hfront.1.symm
      rw [replacer_kept hkept]
      exact braceless_cons.mpr ⟨⟨hopen, hclose⟩, ih⟩
  | @token t rest ht _ ih =>
      obtain ⟨pair, hpair, rfl⟩ := List.mem_map.mp ht
      obtain ⟨word, hword, hblock⟩ := h.blocks _ ht
      cases hmatch : matchPair pairs (pair.1 ++ rest) with
      | none =>
          have hfront := List.find?_eq_none.mp hmatch pair hpair
          rw [List.isPrefixOf_iff_prefix] at hfront
          exact absurd (List.prefix_append _ _) hfront
      | some found =>
          have hfound := List.mem_of_find?_eq_some hmatch
          have hfront := List.find?_some hmatch
          obtain ⟨other, hother, heq⟩ :=
            h.blocks _ (List.mem_map_of_mem hfound)
          rw [List.isPrefixOf_iff_prefix, heq, hblock,
            block_prefix hother hword] at hfront
          have hsame : found.1 = pair.1 := by
            rw [heq, hblock, hfront]
          have htaken : matchPair pairs (pair.1 ++ rest) =
              some (pair.1, found.2) := by
            rw [hmatch, ← hsame]
          rw [replacer_taken (h.ne_nil pair hpair) htaken]
          exact braceless_append.mpr ⟨h.clean found hfound, ih⟩

/-- A rendering without braces had nothing but placeholders before it. -/
theorem tokenText (h : Rendering pairs) (hs : Braceless (replacer pairs s)) :
    TokenText (pairs.map Prod.fst) s := by
  revert hs
  refine replacer_induction (motive := fun s out => Braceless out →
    TokenText (pairs.map Prod.fst) s) h.ne_nil (fun _ => .nil) ?_ ?_ s
  · intro old new rest hpair ih hs
    exact .token (List.mem_map_of_mem hpair) (ih (braceless_append.mp hs).2)
  · intro c rest _ ih hs
    obtain ⟨⟨hopen, hclose⟩, hrest⟩ := braceless_cons.mp hs
    exact .plain hopen hclose (ih hrest)

end Rendering

end Render

/-- The pairs `renderMessageTemplate` gives its replacer. -/
def templatePairs (data : MessageTemplateData) : List (Text × Text) :=
  [ (messageTokenLocation, data.labels.headD []),
    (messageTokenLocations,
      join (data.labels.map fun label => '«' :: label ++ "»") ", "),
    (messageTokenUnavailable, itoa data.unavailable),
    (messageTokenAffected, itoa data.affected),
    (messageTokenTotal, itoa data.total) ]

def messageTokens : List Text :=
  [messageTokenLocation, messageTokenLocations, messageTokenUnavailable,
    messageTokenAffected, messageTokenTotal]

theorem messageTokens_blocks : Blocks messageTokens := by
  intro t ht
  simp only [messageTokens, List.mem_cons, List.not_mem_nil, or_false] at ht
  rcases ht with rfl | rfl | rfl | rfl | rfl
  · exact ⟨"location", ⟨by decide, by decide⟩, rfl⟩
  · exact ⟨"locations", ⟨by decide, by decide⟩, rfl⟩
  · exact ⟨"unavailable", ⟨by decide, by decide⟩, rfl⟩
  · exact ⟨"affected", ⟨by decide, by decide⟩, rfl⟩
  · exact ⟨"total", ⟨by decide, by decide⟩, rfl⟩

theorem braceless_itoa (n : Nat) : Braceless (itoa n) :=
  ⟨not_mem_itoa (by decide) n, not_mem_itoa (by decide) n⟩

theorem braceless_labels {labels : List Text}
    (h : ∀ label ∈ labels, Braceless label) :
    Braceless (join (labels.map fun label => '«' :: label ++ "»") ", ") := by
  have hquoted : ∀ label ∈ labels.map (fun label : Text =>
      ('«' :: label ++ "»" : Text)), Braceless label := by
    intro quoted hquoted
    obtain ⟨label, hlabel, rfl⟩ := List.mem_map.mp hquoted
    exact braceless_append.mpr ⟨braceless_cons.mpr ⟨by decide, h label hlabel⟩,
      by decide, by decide⟩
  generalize labels.map (fun label : Text => ('«' :: label ++ "»" : Text)) =
    parts at hquoted ⊢
  rw [join]
  induction parts with
  | nil => exact ⟨List.not_mem_nil, List.not_mem_nil⟩
  | cons part parts ih =>
      cases parts with
      | nil =>
          rw [List.intercalate_singleton]
          exact hquoted part List.mem_cons_self
      | cons next parts =>
          rw [List.intercalate_cons_cons]
          refine braceless_append.mpr ⟨braceless_append.mpr
            ⟨hquoted part List.mem_cons_self, by decide, by decide⟩, ?_⟩
          exact ih fun label hlabel =>
            hquoted label (List.mem_cons_of_mem _ hlabel)

theorem templatePairs_rendering {data : MessageTemplateData}
    (hlabels : ∀ label ∈ data.labels, Braceless label) :
    Rendering (templatePairs data) := by
  refine ⟨messageTokens_blocks, ?_⟩
  intro pair hpair
  simp only [templatePairs, List.mem_cons, List.not_mem_nil, or_false] at hpair
  rcases hpair with rfl | rfl | rfl | rfl | rfl
  · cases hdata : data.labels with
    | nil => exact ⟨List.not_mem_nil, List.not_mem_nil⟩
    | cons label labels => exact hlabels label (hdata ▸ List.mem_cons_self)
  · exact braceless_labels hlabels
  · exact braceless_itoa _
  · exact braceless_itoa _
  · exact braceless_itoa _

/-- One short location, and no counts. -/
def shortData : MessageTemplateData where
  labels := ["x"]

/-- The runes that stand for the placeholders in `shortData`. -/
def shortRunes : List Char := ['x', '«', '»', '0']

/-- What stands for the placeholders in `shortData` cannot be part of anything
the display checks look for, and makes no text longer. -/
theorem displayable_short {template : Text} {maxRunes : Nat}
    (h : Displayable template maxRunes) :
    Displayable (expandTemplate template shortData) maxRunes := by
  have hrendering : Rendering (templatePairs shortData) :=
    templatePairs_rendering (by decide)
  have hpairs := hrendering.ne_nil
  have hnew : ∀ pair ∈ templatePairs shortData, pair.2 ≠ [] := by decide
  have hrunes : ∀ pair ∈ templatePairs shortData, ∀ c ∈ pair.2,
      c ∈ shortRunes := by
    simp [templatePairs, shortData, shortRunes, join, itoa]
  have hneedle (view : Char → Char) (needle : Text) (hne : needle ≠ [])
      (hview : shortRunes.map view = shortRunes)
      (hfresh : ∀ c ∈ shortRunes, c ∉ needle)
      (habsent : contains (template.map view) needle = false) :
      contains ((expandTemplate template shortData).map view) needle =
        false := by
    rw [Bool.eq_false_iff, Ne, contains_iff_sublist] at habsent ⊢
    refine fun hfound => habsent (infix_of_replacer hpairs hnew hne ?_
      template hfound)
    intro pair hpair c hc
    apply hfresh
    rw [← hview]
    exact List.mem_map_of_mem (hrunes pair hpair c hc)
  have hdelimiters := h.noDelimiters
  have hurl := h.noURL
  rw [Bool.or_eq_false_iff] at hdelimiters hurl
  refine ⟨?_, ?_, ?_, ?_⟩
  · rw [containsAny_eq_false_iff]
    intro c hc
    rcases mem_replacer hpairs hc with hold | ⟨pair, hpair, hnew⟩
    · exact containsAny_eq_false_iff.mp h.oneLine c hold
    · have hall : ∀ c ∈ shortRunes, c ∉ ("\r\n" : Text) := by
        simp [shortRunes]
      exact hall c (hrunes pair hpair c hnew)
  · rw [Bool.or_eq_false_iff]
    have hopen := hneedle id "\x7b\x7b" (by decide) rfl
      (by simp [shortRunes])
    have hclose := hneedle id "\x7d\x7d" (by decide) rfl
      (by simp [shortRunes])
    rw [List.map_id, List.map_id] at hopen hclose
    exact ⟨hopen hdelimiters.1, hclose hdelimiters.2⟩
  · rw [Bool.or_eq_false_iff]
    have hlower : shortRunes.map toLowerRune = shortRunes := by decide
    exact ⟨hneedle toLowerRune "http://" (by decide) hlower
        (by simp [shortRunes]) hurl.1,
      hneedle toLowerRune "https://" (by decide) hlower
        (by simp [shortRunes]) hurl.2⟩
  · exact (length_replacer_le hpairs (by decide) template).trans h.short

/-- A template passes when it may be displayed and deleting the allowed
placeholders leaves no brace. -/
theorem validateMessageTemplate_ok {name value : Text} {allowed : List Text}
    (h : validateMessageTemplate name value allowed = .ok ()) :
    Publishable value ∧ Braceless (deleteAll allowed value) := by
  rw [validateMessageTemplate, bind_unit_eq_ok, bind_unit_eq_ok,
    validateDisplayText_eq_ok] at h
  exact ⟨h.2.1, containsAny_braces.mp (reject_eq_ok.mp h.2.2)⟩

theorem templateChecks_tokens {messages : MessageScenarios}
    {check : TemplateCheck} (h : check ∈ templateChecks messages) :
    check.allowed ⊆ messageTokens := by
  simp only [templateChecks, List.mem_cons, List.not_mem_nil, or_false] at h
  rcases h with rfl | rfl | rfl | rfl | rfl | rfl | rfl | rfl | rfl | rfl |
    rfl | rfl <;>
    · dsimp only
      decide

/-- The templates that pass the validator and are rendered without a brace,
whatever the labels, are those in which no brace is opened inside another
one. -/
theorem accepted_templates_render_clean_iff (messages : MessageScenarios)
    (check : TemplateCheck) (hcheck : check ∈ templateChecks messages)
    (haccepted : validateMessageTemplate check.name check.value
      check.allowed = .ok ()) :
    (∀ (name : Text) (data : MessageTemplateData) (message : Text),
      (∀ label ∈ data.labels, Braceless label) →
      renderMessageTemplate name check.value data = .ok message →
        Braceless message) ↔
      bracesNested false check.value = false := by
  have htokens := templateChecks_tokens hcheck
  obtain ⟨hdisplayable, hdeleted⟩ := validateMessageTemplate_ok haccepted
  constructor
  · intro hclean
    have hrendering : Rendering (templatePairs shortData) :=
      templatePairs_rendering (by decide)
    have hmessage := hclean [] shortData _ (by decide)
      (renderMessageTemplate_eq_ok.mpr ⟨rfl, displayable_short hdisplayable⟩)
    exact (hrendering.tokenText hmessage).not_nested hrendering.blocks
  · intro hnested name data message hlabels hmessage
    have hrendering := templatePairs_rendering hlabels
    obtain ⟨rfl, -⟩ := renderMessageTemplate_eq_ok.mp hmessage
    have hallowed : TokenText check.allowed check.value :=
      tokenText_of_deleted (fun t ht => messageTokens_blocks t (htokens ht)) _
        hnested hdeleted
    exact hrendering.braceless (hallowed.mono htokens)

/-- The scenarios with another text for a single location. -/
def withSingle (template : Text) : MessageScenarios :=
  { defaultMessageScenarios with singleLocation := ⟨true, template⟩ }

/-- The check of that text. -/
def singleCheck (template : Text) : TemplateCheck :=
  ⟨"messages.singleLocation.template", template,
    [messageTokenLocation, messageTokenUnavailable, messageTokenTotal]⟩

def plainTemplate : Text := "\x7blocation\x7d is down"

def nestedTemplate : Text := "\x7bto\x7blocation\x7dtal\x7d"

theorem plain_template_renders_clean :
    bracesNested false plainTemplate = false ∧
      ∀ (name : Text) (data : MessageTemplateData) (message : Text),
        (∀ label ∈ data.labels, Braceless label) →
        renderMessageTemplate name plainTemplate data = .ok message →
          Braceless message :=
  ⟨by decide, (accepted_templates_render_clean_iff (withSingle plainTemplate)
    (singleCheck plainTemplate) List.mem_cons_self (by decide)).mpr
      (by decide)⟩

/-- The second placeholder comes about only when the first one is deleted;
the renderer puts a name between its braces. -/
theorem nested_template_renders_braces :
    singleCheck nestedTemplate ∈ templateChecks (withSingle nestedTemplate) ∧
      validateMessageTemplate "messages.singleLocation.template" nestedTemplate
        [messageTokenLocation, messageTokenUnavailable, messageTokenTotal] =
        .ok () ∧
      renderMessageTemplate "single-location announce" nestedTemplate
        { labels := ["NL"], unavailable := 1, total := 2 } =
        .ok "\x7btoNLtal\x7d" :=
  ⟨List.mem_cons_self, by decide, by decide⟩

end XrayChecker.Remnawave

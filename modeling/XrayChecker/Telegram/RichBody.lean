import XrayChecker.Telegram.Shorten

/-
`richAlertBody`: the first line of a compact message becomes a heading, the
others a paragraph.  The tags nest where none is open at the first line break.
-/

namespace XrayChecker.Telegram

open Go

/-- `strings.SplitN(s, "\n", 2)`: the first line and, where there are more,
the others. -/
def firstLine (text : Text) : Text × Option Text :=
  (text.takeWhile (· != '\n'),
    if '\n' ∈ text then some ((text.dropWhile (· != '\n')).drop 1) else none)

/-- `strings.ReplaceAll(s, "\n", "<br>")`. -/
def breakLines (text : Text) : Text :=
  text.flatMap fun c => if c = '\n' then "<br>" else [c]

def richAlertBody (compactHTML : Text) : Text :=
  let lines := firstLine compactHTML
  ("<h2>" : Text) ++ lines.1 ++ ("</h2>" : Text) ++
    match lines.2 with
    | none => []
    | some rest => ("<p>" : Text) ++ breakLines rest ++ ("</p>" : Text)

/-- The token is no line break. -/
def Token.stays (token : Token) : Bool :=
  token != .plain ⟨'\n', by decide⟩

def Token.rich (token : Token) : Token :=
  if token.stays then token else .lineBreak

section Tokens

variable {tokens : List Token}

theorem newline_mem_text {token : Token} (h : token.stays) :
    '\n' ∉ token.text := by
  cases token with
  | plain c =>
      intro hmem
      have hc : c.val = '\n' := (List.mem_singleton.mp hmem).symm
      have hsame : c = ⟨'\n', by decide⟩ := Subtype.ext hc
      rw [hsame] at h
      exact absurd h (by decide)
  | entity e => cases e <;> decide
  | opening tag => cases tag <;> decide
  | closing tag => cases tag <;> decide
  | lineBreak => decide

theorem not_stays {token : Token} (h : ¬token.stays) :
    token = .plain ⟨'\n', by decide⟩ := by
  simpa [Token.stays] using h

theorem takeWhile_text {token : Token} (h : token.stays) (rest : Text) :
    (token.text ++ rest).takeWhile (· != '\n') =
      token.text ++ rest.takeWhile (· != '\n') := by
  rw [List.takeWhile_append_of_pos]
  intro c hc
  rw [bne_iff_ne]
  rintro rfl
  exact newline_mem_text h hc

theorem dropWhile_text {token : Token} (h : token.stays) (rest : Text) :
    (token.text ++ rest).dropWhile (· != '\n') =
      rest.dropWhile (· != '\n') := by
  rw [List.dropWhile_append_of_pos]
  intro c hc
  rw [bne_iff_ne]
  rintro rfl
  exact newline_mem_text h hc

theorem takeWhile_render (tokens : List Token) :
    (render tokens).takeWhile (· != '\n') =
      render (tokens.takeWhile Token.stays) := by
  induction tokens with
  | nil => rfl
  | cons token rest ih =>
      by_cases h : token.stays
      · rw [List.takeWhile_cons_of_pos h, render_cons, takeWhile_text h, ih,
          render_cons]
      · rw [List.takeWhile_cons_of_neg h, not_stays h]
        rfl

theorem dropWhile_break_render (tokens : List Token) :
    (render tokens).dropWhile (· != '\n') =
      render (tokens.dropWhile Token.stays) := by
  induction tokens with
  | nil => rfl
  | cons token rest ih =>
      by_cases h : token.stays
      · rw [List.dropWhile_cons_of_pos h, render_cons, dropWhile_text h, ih]
      · rw [List.dropWhile_cons_of_neg h, not_stays h]
        rfl

theorem newline_mem_render :
    '\n' ∈ render tokens ↔ ∃ token ∈ tokens, ¬token.stays := by
  constructor
  · intro hmem
    obtain ⟨token, htoken, hin⟩ := List.mem_flatMap.mp hmem
    exact ⟨token, htoken, fun h => newline_mem_text h hin⟩
  · rintro ⟨token, htoken, h⟩
    refine List.mem_flatMap.mpr ⟨token, htoken, ?_⟩
    rw [not_stays h]
    exact List.mem_singleton_self _

theorem breakLines_render (tokens : List Token) :
    breakLines (render tokens) = render (tokens.map Token.rich) := by
  induction tokens with
  | nil => rfl
  | cons token rest ih =>
      rw [render_cons, breakLines, List.flatMap_append, List.map_cons,
        render_cons]
      refine congrArg₂ (· ++ ·) ?_ ih
      by_cases h : token.stays
      · rw [Token.rich, if_pos h]
        have hnone := newline_mem_text h
        generalize token.text = text at hnone
        induction text with
        | nil => rfl
        | cons c others ih =>
            rw [List.mem_cons, not_or] at hnone
            rw [List.flatMap_cons, ih hnone.2, if_neg (Ne.symm hnone.1)]
            rfl
      · rw [Token.rich, if_neg h, not_stays h]
        rfl

theorem nest_rich (openTags : List Tag) (tokens : List Token) :
    nest openTags (tokens.map Token.rich) = nest openTags tokens := by
  induction tokens generalizing openTags with
  | nil => rfl
  | cons token rest ih =>
      rw [List.map_cons]
      by_cases h : token.stays
      · rw [Token.rich, if_pos h]
        cases token with
        | plain c => exact ih openTags
        | entity e => exact ih openTags
        | lineBreak => exact ih openTags
        | opening tag => exact ih (tag :: openTags)
        | closing tag =>
            cases openTags with
            | nil => rfl
            | cons top under =>
                rw [nest, nest]
                split
                · exact ih under
                · rfl
      · rw [Token.rich, if_neg h, not_stays h]
        exact ih openTags

/-- The tokens of the first line. -/
def headline (tokens : List Token) : List Token :=
  tokens.takeWhile Token.stays

/-- The tokens behind the first line break. -/
def body (tokens : List Token) : List Token :=
  (tokens.dropWhile Token.stays).drop 1

/-- Behind the first line comes its line break. -/
theorem dropWhile_stays (h : ∃ token ∈ tokens, ¬token.stays) :
    tokens.dropWhile Token.stays =
      .plain ⟨'\n', by decide⟩ :: body tokens := by
  cases hrest : tokens.dropWhile Token.stays with
  | nil =>
      rw [List.dropWhile_eq_nil_iff] at hrest
      obtain ⟨token, htoken, hbreak⟩ := h
      exact absurd (hrest token htoken) hbreak
  | cons token rest =>
      have hhead := List.head?_dropWhile_not Token.stays tokens
      rw [hrest] at hhead
      have htoken : token = _ := not_stays (by simpa using hhead)
      rw [body, hrest, htoken]
      rfl

/-- The tokens of the rich body. -/
def richTokens (tokens : List Token) : List Token :=
  [.opening .h2] ++ headline tokens ++ [.closing .h2] ++
    if ∃ token ∈ tokens, ¬token.stays then
      [.opening .p] ++ (body tokens).map Token.rich ++ [.closing .p]
    else []

theorem richAlertBody_render (tokens : List Token) :
    richAlertBody (render tokens) = render (richTokens tokens) := by
  have hdrop : ((render tokens).dropWhile (· != '\n')).drop 1 =
      if ∃ token ∈ tokens, ¬token.stays then render (body tokens)
      else [] := by
    rw [dropWhile_break_render]
    split
    next hbreak =>
      rw [dropWhile_stays hbreak]
      rfl
    next hnone =>
      have hall : tokens.dropWhile Token.stays = [] := by
        rw [List.dropWhile_eq_nil_iff]
        intro token htoken
        by_contra h
        exact hnone ⟨token, htoken, h⟩
      rw [hall]
      rfl
  rw [richAlertBody, firstLine]
  dsimp only
  rw [takeWhile_render, hdrop, richTokens, ← headline]
  by_cases hbreak : ∃ token ∈ tokens, ¬token.stays
  · rw [if_pos (newline_mem_render.mpr hbreak), if_pos hbreak,
      if_pos hbreak]
    dsimp only
    rw [breakLines_render]
    simp only [render_append, List.append_assoc]
    rfl
  · rw [if_neg (newline_mem_render.not.mpr hbreak), if_neg hbreak]
    simp only [render_append, List.append_assoc, List.append_nil]
    rfl

/-- The rich body is properly nested exactly where no tag is open at the end
of the first line. -/
theorem properlyNested_richAlertBody
    (hcompact : ∀ token ∈ tokens, token.compact) (hnested : Nested tokens) :
    ProperlyNested (richAlertBody (render tokens)) ↔
      Nested (headline tokens) := by
  have hpre : headline tokens <+: tokens := List.takeWhile_prefix _
  obtain ⟨left, hleft⟩ := nest_prefix hpre hnested
  rw [richAlertBody_render, properlyNested_render]
  constructor
  · intro hrich
    cases left with
    | nil => exact hleft
    | cons tag others =>
        -- The heading is closed while the tag is open.
        have htag := compact_of_nest
          (fun token h => hcompact token (hpre.subset h))
          (fun _ h => absurd h List.not_mem_nil) hleft tag
          List.mem_cons_self
        have hne : tag ≠ .h2 := by
          rintro rfl
          exact absurd htag (by decide)
        rw [Nested, richTokens, List.append_assoc, List.append_assoc,
          nest_append] at hrich
        change (nest [.h2] _) = _ at hrich
        rw [nest_append, show [Tag.h2] = [] ++ [Tag.h2] from rfl,
          nest_inside [.h2] hleft] at hrich
        change (if tag = .h2 then _ else none) = _ at hrich
        rw [if_neg hne] at hrich
        cases hrich
  · intro hline
    have hbody : Nested (body tokens) ∨ ¬∃ token ∈ tokens, ¬token.stays := by
      by_cases hbreak : ∃ token ∈ tokens, ¬token.stays
      · left
        have hwhole := hnested
        rw [← List.takeWhile_append_dropWhile (p := Token.stays)
          (l := tokens), Nested, nest_append] at hwhole
        rw [show nest [] (tokens.takeWhile Token.stays) = some [] from hline,
          dropWhile_stays hbreak] at hwhole
        exact hwhole
      · exact .inr hbreak
    have hheading : Nested ([.opening .h2] ++ headline tokens ++
        [.closing .h2]) := by
      rw [Nested, List.append_assoc, nest_append]
      change nest [.h2] _ = _
      rw [nest_append, hline.inside]
      rfl
    rw [richTokens]
    refine hheading.append ?_
    split
    next hbreak =>
      have hrich : nest [.p] ((body tokens).map Token.rich) =
          some [.p] := by
        rw [nest_rich]
        exact (hbody.resolve_right fun h => h hbreak).inside [.p]
      rw [Nested, List.append_assoc, nest_append]
      change nest [.p] _ = _
      rw [nest_append, hrich]
      rfl
    · rfl

end Tokens

end XrayChecker.Telegram

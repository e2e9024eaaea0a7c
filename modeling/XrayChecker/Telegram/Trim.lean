import XrayChecker.Telegram.Markup

/-
`trimHTMLMessage`, and what it does to the tokens of a compact message: the
first visible runes are kept with the tags around them, the tags left open are
closed, and a note is put behind.
-/

namespace XrayChecker.Telegram

open Go

/-- One rune of `html.EscapeString`. -/
def escapeToken (c : Char) : Token :=
  if c = '&' then .entity .amp
  else if c = '\'' then .entity .apos
  else if c = '<' then .entity .lt
  else if c = '>' then .entity .gt
  else if c = '"' then .entity .quot
  else if h : IsPlain c then .plain ⟨c, h⟩
  else .entity .amp

def htmlEscape (value : Text) : Text :=
  render (value.map escapeToken)

def htmlCode (value : Text) : Text :=
  ("<code>" : Text) ++ htmlEscape value ++ ("</code>" : Text)

/-- The runes a message may have before it is shortened. -/
def messageRunes : Nat := 3900

def shortenedNote : Text := "\n…Сообщение сокращено"

def removeLastOpenTag (openTags : List Tag) (tag : Tag) : List Tag :=
  openTags.erase tag

/-- The runes of the text that make up the next visible one. -/
def visibleSize (rest : Text) : Nat :=
  if rest.head? = some '&' ∧ ';' ∈ rest then rest.idxOf ';' + 1 else 1

/-- The loop of `trimHTMLMessage`: what it writes, the tags left open, the
last opened first, and whether the message is truncated. -/
def trimLoop (limit : Nat) :
    Nat → Text → Nat → List Tag → Text × List Tag × Bool
  | 0, _, _, openTags => ([], openTags, false)
  | bound + 1, rest, shown, openTags =>
      if rest = [] then ([], openTags, false)
      else if hasPrefix rest "<b>" then
        let (result, left, cut) :=
          trimLoop limit bound (rest.drop 3) shown (.b :: openTags)
        (("<b>" : Text) ++ result, left, cut)
      else if hasPrefix rest "</b>" then
        let (result, left, cut) :=
          trimLoop limit bound (rest.drop 4) shown
            (removeLastOpenTag openTags .b)
        (("</b>" : Text) ++ result, left, cut)
      else if hasPrefix rest "<code>" then
        let (result, left, cut) :=
          trimLoop limit bound (rest.drop 6) shown (.code :: openTags)
        (("<code>" : Text) ++ result, left, cut)
      else if hasPrefix rest "</code>" then
        let (result, left, cut) :=
          trimLoop limit bound (rest.drop 7) shown
            (removeLastOpenTag openTags .code)
        (("</code>" : Text) ++ result, left, cut)
      else if limit ≤ shown then ([], openTags, true)
      else
        let size := visibleSize rest
        let (result, left, cut) :=
          trimLoop limit bound (rest.drop size) (shown + 1) openTags
        (rest.take size ++ result, left, cut)

def trimHTMLMessage (text : Text) : Text :=
  let text := trimSpace text
  if runeCount text ≤ messageRunes then text
  else
    let limit := messageRunes - runeCount shortenedNote
    match trimLoop limit text.length text 0 [] with
    | (_, _, false) => text
    | (result, openTags, true) =>
        trimSpace (result ++ render (openTags.map Token.closing)) ++
          shortenedNote

section Tokens

/-- The tokens up to a number of visible ones, and whether there are more. -/
def cut (limit : Nat) : Nat → List Token → List Token × Bool
  | _, [] => ([], false)
  | shown, token :: rest =>
      match token.shown with
      | none => (token :: (cut limit shown rest).1, (cut limit shown rest).2)
      | some _ =>
          if limit ≤ shown then ([], true)
          else (token :: (cut limit (shown + 1) rest).1,
            (cut limit (shown + 1) rest).2)

def Token.isSpace : Token → Bool
  | .plain c => Go.isSpace c.val
  | _ => false

/-- The tokens without the white space around them. -/
def strip (tokens : List Token) : List Token :=
  (tokens.dropWhile Token.isSpace).rdropWhile Token.isSpace

def noteTokens : List Token := shortenedNote.map escapeToken

/-- The visible runes of a message that is shortened. -/
def shownLimit : Nat := messageRunes - runeCount shortenedNote

/-- The message is shortened. -/
def Long (tokens : List Token) : Prop :=
  messageRunes < runeCount (render tokens) ∧
    shownLimit < (visible tokens).length

instance (tokens : List Token) : Decidable (Long tokens) :=
  inferInstanceAs (Decidable (_ ∧ _))

/-- What is kept of a message that is shortened: its first visible runes, the
tags open there closed, without the white space at the cut. -/
def headOf (tokens : List Token) : List Token :=
  let kept := (cut shownLimit 0 tokens).1
  strip (kept ++ ((nest [] kept).getD []).map Token.closing)

/-- The tokens of a message once it is trimmed. -/
def shorten (tokens : List Token) : List Token :=
  if Long tokens then headOf tokens ++ noteTokens else tokens

end Tokens

section Loop

theorem hasPrefix_markup {pre : Text} {other : Token}
    (htext : pre = other.text) (h : other ∈ markup) (token : Token)
    (rest : Text) : hasPrefix (token.text ++ rest) pre ↔ token = other := by
  rw [htext]
  exact isPrefixOf_text h rest

/-- A visible token is taken whole. -/
theorem visibleSize_text {token : Token} {c : Char}
    (h : token.shown = some c) (rest : Text) :
    visibleSize (token.text ++ rest) = token.text.length := by
  cases token with
  | plain d =>
      refine if_neg fun hamp => d.property.2.2 ?_
      exact Option.some.inj hamp.1
  | entity e => cases e <;> rfl
  | opening tag => cases h
  | closing tag => cases h
  | lineBreak => cases h

theorem render_eq_nil {tokens : List Token} (h : render tokens = []) :
    tokens = [] := by
  cases tokens with
  | nil => rfl
  | cons token rest =>
      rw [render_cons, List.append_eq_nil_iff] at h
      exact absurd h.1 token.text_ne_nil

/-- The loop walks the tokens of a compact message one by one. -/
theorem trimLoop_render {limit bound : Nat} {tokens : List Token}
    (hcompact : ∀ token ∈ tokens, token.compact)
    (hbound : (render tokens).length ≤ bound) {shown : Nat}
    {openTags final : List Tag} (hnest : nest openTags tokens = some final) :
    ∃ left, nest openTags (cut limit shown tokens).1 = some left ∧
      trimLoop limit bound (render tokens) shown openTags =
        (render (cut limit shown tokens).1, left,
          (cut limit shown tokens).2) := by
  induction tokens generalizing bound shown openTags with
  | nil =>
      refine ⟨openTags, rfl, ?_⟩
      cases bound <;> rfl
  | cons token rest ih =>
      rw [List.forall_mem_cons] at hcompact
      have hpos := List.length_pos_iff.mpr token.text_ne_nil
      rw [render_cons, List.length_append] at hbound
      obtain ⟨bound, rfl⟩ : ∃ n, bound = n + 1 := ⟨bound - 1, by omega⟩
      have hne : token.text ++ render rest ≠ [] := fun hnil =>
        token.text_ne_nil (List.append_eq_nil_iff.mp hnil).1
      have hb := @hasPrefix_markup "<b>" (.opening .b) rfl (by decide) token
        (render rest)
      have hb' := @hasPrefix_markup "</b>" (.closing .b) rfl (by decide) token
        (render rest)
      have hcode := @hasPrefix_markup "<code>" (.opening .code) rfl (by decide)
        token (render rest)
      have hcode' := @hasPrefix_markup "</code>" (.closing .code) rfl
        (by decide) token (render rest)
      rw [render_cons, trimLoop, if_neg hne]
      simp only [hb, hb', hcode, hcode']
      cases htoken : token.shown with
      | some c =>
          have hb : token ≠ .opening .b := by
            rintro rfl
            cases htoken
          have hb' : token ≠ .closing .b := by
            rintro rfl
            cases htoken
          have hcode : token ≠ .opening .code := by
            rintro rfl
            cases htoken
          have hcode' : token ≠ .closing .code := by
            rintro rfl
            cases htoken
          rw [if_neg hb, if_neg hb', if_neg hcode, if_neg hcode']
          by_cases hfull : limit ≤ shown
          · refine ⟨openTags, ?_, ?_⟩
            · simp [cut, htoken, hfull, nest]
            · simp [cut, htoken, hfull]
          · have hsame : nest openTags (token :: rest) =
                nest openTags rest := by
              cases token <;> first | rfl | cases htoken
            have hsame' : nest openTags (token :: (cut limit (shown + 1)
                rest).1) = nest openTags (cut limit (shown + 1) rest).1 := by
              cases token <;> first | rfl | cases htoken
            have hrest : ∃ left,
                nest openTags (cut limit (shown + 1) rest).1 = some left ∧
                trimLoop limit bound (render rest) (shown + 1) openTags =
                  (render (cut limit (shown + 1) rest).1, left,
                    (cut limit (shown + 1) rest).2) :=
              ih hcompact.2 (by omega) (hsame ▸ hnest)
            obtain ⟨left, hleft, hloop⟩ := hrest
            refine ⟨left, ?_, ?_⟩
            · simp only [cut, htoken, if_neg hfull]
              rw [hsame', hleft]
            · rw [if_neg hfull, visibleSize_text htoken, List.drop_left,
                List.take_left, hloop]
              simp [cut, htoken, hfull]
      | none =>
          cases token with
          | plain c => cases htoken
          | entity e => cases htoken
          | lineBreak => exact absurd hcompact.1 (by decide)
          | opening tag =>
              have hrest : ∃ left,
                  nest (tag :: openTags) (cut limit shown rest).1 =
                    some left ∧
                  trimLoop limit bound (render rest) shown (tag :: openTags) =
                    (render (cut limit shown rest).1, left,
                      (cut limit shown rest).2) :=
                ih hcompact.2 (by omega) hnest
              obtain ⟨left, hleft, hloop⟩ := hrest
              refine ⟨left, hleft, ?_⟩
              rcases of_decide_eq_true hcompact.1 with rfl | rfl
              · have hdrop : ((Token.opening .b).text ++ render rest).drop 3 =
                    render rest := rfl
                rw [if_pos rfl, hdrop, hloop]
                rfl
              · have hdrop : ((Token.opening .code).text ++
                    render rest).drop 6 = render rest := rfl
                rw [if_neg (by decide), if_neg (by decide), if_pos rfl, hdrop,
                  hloop]
                rfl
          | closing tag =>
              cases openTags with
              | nil => cases hnest
              | cons top under =>
                  rw [nest] at hnest
                  split at hnest
                  next hsame =>
                    subst hsame
                    have hrest : ∃ left,
                        nest under (cut limit shown rest).1 = some left ∧
                        trimLoop limit bound (render rest) shown under =
                          (render (cut limit shown rest).1, left,
                            (cut limit shown rest).2) :=
                      ih hcompact.2 (by omega) hnest
                    obtain ⟨left, hleft, hloop⟩ := hrest
                    have hpop : removeLastOpenTag (top :: under) top = under :=
                      List.erase_cons_head top under
                    refine ⟨left, ?_, ?_⟩
                    · change (if top = top then
                        nest under (cut limit shown rest).1 else none) = _
                      rw [if_pos rfl, hleft]
                    rcases of_decide_eq_true hcompact.1 with rfl | rfl
                    · have hdrop : ((Token.closing .b).text ++
                          render rest).drop 4 = render rest := rfl
                      rw [if_neg (by decide), if_pos rfl, hdrop, hpop, hloop]
                      rfl
                    · have hdrop : ((Token.closing .code).text ++
                          render rest).drop 7 = render rest := rfl
                      rw [if_neg (by decide), if_neg (by decide),
                        if_neg (by decide), if_pos rfl, hdrop, hpop, hloop]
                      rfl
                  · cases hnest

end Loop

section Strip

/-- The last rune of a token that is no white space is none. -/
theorem text_end {token : Token} (h : token.isSpace = false) :
    ∃ front c, token.text = front ++ [c] ∧ Go.isSpace c = false := by
  cases token with
  | plain c => exact ⟨[], c.val, rfl, h⟩
  | entity e => exact ⟨e.text.dropLast, ';', by cases e <;> rfl, by decide⟩
  | opening tag => exact ⟨'<' :: tag.name, '>', rfl, by decide⟩
  | closing tag => exact ⟨'<' :: '/' :: tag.name, '>', rfl, by decide⟩
  | lineBreak => exact ⟨"<br".toList, '>', rfl, by decide⟩

theorem text_start {token : Token} (h : token.isSpace = false) :
    ∃ c rest, token.text = c :: rest ∧ Go.isSpace c = false := by
  cases token with
  | plain c => exact ⟨c.val, [], rfl, h⟩
  | entity e => exact ⟨'&', e.text.tail, by cases e <;> rfl, by decide⟩
  | opening tag => exact ⟨'<', _, rfl, by decide⟩
  | closing tag => exact ⟨'<', _, rfl, by decide⟩
  | lineBreak => exact ⟨'<', "br>".toList, rfl, by decide⟩

theorem text_space {token : Token} (h : token.isSpace) :
    ∃ c : Plain, token = .plain c ∧ Go.isSpace c.val := by
  cases token with
  | plain c => exact ⟨c, rfl, h⟩
  | entity e => cases h
  | opening tag => cases h
  | closing tag => cases h
  | lineBreak => cases h

theorem dropWhile_render (tokens : List Token) :
    (render tokens).dropWhile Go.isSpace =
      render (tokens.dropWhile Token.isSpace) := by
  induction tokens with
  | nil => rfl
  | cons token rest ih =>
      cases hspace : token.isSpace with
      | true =>
          obtain ⟨c, rfl, hc⟩ := text_space hspace
          rw [List.dropWhile_cons_of_pos hspace, ← ih]
          exact List.dropWhile_cons_of_pos hc
      | false =>
          obtain ⟨c, others, htext, hc⟩ := text_start hspace
          rw [List.dropWhile_cons_of_neg (by simp [hspace]), render_cons,
            htext, List.cons_append,
            List.dropWhile_cons_of_neg (by simp [hc])]

theorem rdropWhile_render (tokens : List Token) :
    (render tokens).rdropWhile Go.isSpace =
      render (tokens.rdropWhile Token.isSpace) := by
  induction tokens using List.reverseRecOn with
  | nil => rfl
  | append_singleton rest token ih =>
      have hrender : render (rest ++ [token]) =
          render rest ++ token.text := by simp
      cases hspace : token.isSpace with
      | true =>
          obtain ⟨c, rfl, hc⟩ := text_space hspace
          rw [hrender, List.rdropWhile_concat_pos _ _ _ hspace, ← ih]
          exact List.rdropWhile_concat_pos _ _ _ hc
      | false =>
          obtain ⟨front, c, htext, hc⟩ := text_end hspace
          rw [List.rdropWhile_concat_neg _ _ _ (by simp [hspace]), hrender,
            htext, ← List.append_assoc,
            List.rdropWhile_concat_neg _ _ _ (by simp [hc])]

/-- Trimming the text leaves out the white space around the tokens. -/
theorem trimSpace_render (tokens : List Token) :
    trimSpace (render tokens) = render (strip tokens) := by
  rw [trimSpace, dropWhile_render, rdropWhile_render, strip]

theorem nest_spaces {openTags : List Tag} {tokens : List Token}
    (h : ∀ token ∈ tokens, token.isSpace) :
    nest openTags tokens = some openTags := by
  induction tokens with
  | nil => rfl
  | cons token rest ih =>
      rw [List.forall_mem_cons] at h
      obtain ⟨c, rfl, -⟩ := text_space h.1
      exact ih h.2

theorem nest_rdropWhile (openTags : List Tag) (tokens : List Token) :
    nest openTags (tokens.rdropWhile Token.isSpace) =
      nest openTags tokens := by
  conv_rhs => rw [← @List.rdropWhile_append_rtakeWhile _ Token.isSpace tokens]
  rw [nest_append]
  cases nest openTags (tokens.rdropWhile Token.isSpace) with
  | none => rfl
  | some left =>
      exact (nest_spaces fun token h => List.mem_rtakeWhile_imp h).symm

theorem nest_strip (openTags : List Tag) (tokens : List Token) :
    nest openTags (strip tokens) = nest openTags tokens := by
  rw [strip, nest_rdropWhile]
  conv_rhs => rw [← List.takeWhile_append_dropWhile (p := Token.isSpace)
    (l := tokens)]
  rw [nest_append, nest_spaces fun token h => List.mem_takeWhile_imp h]
  rfl

theorem strip_sublist (tokens : List Token) :
    (strip tokens).Sublist tokens :=
  ((List.rdropWhile_prefix _ _).sublist).trans
    (List.dropWhile_suffix _).sublist

theorem dropWhile_strip (tokens : List Token) :
    (strip tokens).dropWhile Token.isSpace = strip tokens :=
  dropWhile_rdropWhile_dropWhile _ _

theorem strip_strip (tokens : List Token) :
    strip (strip tokens) = strip tokens := by
  rw [strip, dropWhile_strip, strip, List.rdropWhile_idempotent]

end Strip

section Cut

variable {limit shown : Nat} {tokens : List Token}

theorem cut_front (limit shown : Nat) (tokens : List Token) :
    (cut limit shown tokens).1 <+: tokens := by
  induction tokens generalizing shown with
  | nil => exact List.prefix_rfl
  | cons token rest ih =>
      rw [cut]
      split
      · exact List.cons_prefix_cons.mpr ⟨rfl, ih shown⟩
      · split
        · exact List.nil_prefix
        · exact List.cons_prefix_cons.mpr ⟨rfl, ih (shown + 1)⟩

theorem visible_cons (token : Token) (rest : List Token) :
    visible (token :: rest) = token.shown.toList ++ visible rest := by
  cases h : token.shown <;> simp [visible, h]

/-- The first runes are kept, and all tokens when there are no more. -/
theorem cut_spec (h : shown ≤ limit) :
    visible (cut limit shown tokens).1 =
        (visible tokens).take (limit - shown) ∧
      ((cut limit shown tokens).2 ↔
        limit - shown < (visible tokens).length) := by
  induction tokens generalizing shown with
  | nil => simp [cut]
  | cons token rest ih =>
      rw [cut]
      split
      next hnone =>
        obtain ⟨hkept, hmore⟩ := ih h
        rw [visible_cons, visible_cons, hnone]
        exact ⟨hkept, hmore⟩
      next c hsome =>
        rw [visible_cons token rest, hsome]
        by_cases hfull : limit ≤ shown
        · rw [if_pos hfull]
          have hzero : limit - shown = 0 := by omega
          simp [hzero]
        · rw [if_neg hfull]
          obtain ⟨hkept, hmore⟩ := @ih (shown + 1) (by omega)
          have hsucc : limit - shown = limit - (shown + 1) + 1 := by omega
          rw [visible_cons, hsome, hkept, hsucc]
          refine ⟨rfl, hmore.trans ?_⟩
          simp

theorem nest_prefix {openTags final : List Tag} {front : List Token}
    (hpre : front <+: tokens) (h : nest openTags tokens = some final) :
    ∃ left, nest openTags front = some left := by
  obtain ⟨rest, rfl⟩ := hpre
  rw [nest_append] at h
  cases hfront : nest openTags front with
  | none =>
      rw [hfront] at h
      cases h
  | some left => exact ⟨left, rfl⟩

theorem nest_closings (openTags : List Tag) :
    nest openTags (openTags.map Token.closing) = some [] := by
  induction openTags with
  | nil => rfl
  | cons tag rest ih =>
      rw [List.map_cons, nest, if_pos rfl]
      exact ih

theorem render_noteTokens : render noteTokens = shortenedNote := by
  decide

/-- `trimHTMLMessage` on the text of a compact message. -/
theorem trimHTMLMessage_render
    (hcompact : ∀ token ∈ tokens, token.compact) (hnested : Nested tokens) :
    trimHTMLMessage (render tokens) = render (shorten (strip tokens)) := by
  have hnest : nest [] (strip tokens) = some [] := by
    rw [nest_strip]
    exact hnested
  rw [trimHTMLMessage, trimSpace_render]
  by_cases hshort : runeCount (render (strip tokens)) ≤ messageRunes
  · have hnot : ¬Long (strip tokens) := fun hlong =>
      absurd hlong.1 (by omega)
    rw [if_pos hshort, shorten, if_neg hnot]
  · obtain ⟨left, hleft, hloop⟩ := @trimLoop_render shownLimit
      (render (strip tokens)).length (strip tokens)
      (fun token h => hcompact token ((strip_sublist tokens).subset h))
      le_rfl 0 [] [] hnest
    obtain ⟨-, hmore⟩ := @cut_spec shownLimit 0 (strip tokens)
      (Nat.zero_le _)
    rw [if_neg hshort]
    change (match trimLoop shownLimit _ _ 0 [] with
      | (_, _, false) => _
      | (_, _, true) => _) = _
    rw [hloop, shorten]
    cases hcut : (cut shownLimit 0 (strip tokens)).2 with
    | false =>
        have hnot : ¬Long (strip tokens) := fun hlong => by
          rw [hmore.mpr hlong.2] at hcut
          cases hcut
        rw [if_neg hnot]
    | true =>
        have hlong : Long (strip tokens) := ⟨by omega, hmore.mp hcut⟩
        rw [if_pos hlong]
        dsimp only
        rw [render_append, render_noteTokens, headOf, hleft,
          Option.getD_some, ← trimSpace_render, render_append]

end Cut

end XrayChecker.Telegram

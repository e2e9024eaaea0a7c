import XrayChecker.Go.Text

/-
The HTML that messages are written in, as a sequence of tokens: tags, entities
and the runes that stand for themselves.
-/

namespace XrayChecker.Telegram

open Go

inductive Tag where
  | b
  | code
  | h2
  | p
deriving DecidableEq

def Tag.name : Tag → Text
  | .b => "b"
  | .code => "code"
  | .h2 => "h2"
  | .p => "p"

/-- The entities `html.EscapeString` writes. -/
inductive Entity where
  | amp
  | apos
  | lt
  | gt
  | quot
deriving DecidableEq

def Entity.text : Entity → Text
  | .amp => "&amp;"
  | .apos => "&#39;"
  | .lt => "&lt;"
  | .gt => "&gt;"
  | .quot => "&#34;"

def Entity.rune : Entity → Char
  | .amp => '&'
  | .apos => '\''
  | .lt => '<'
  | .gt => '>'
  | .quot => '"'

/-- The rune starts neither a tag nor an entity, and ends no tag. -/
def IsPlain (c : Char) : Prop :=
  c ≠ '<' ∧ c ≠ '>' ∧ c ≠ '&'

instance (c : Char) : Decidable (IsPlain c) :=
  inferInstanceAs (Decidable (_ ∧ _ ∧ _))

abbrev Plain := { c : Char // IsPlain c }

inductive Token where
  | plain (c : Plain)
  | entity (e : Entity)
  | opening (tag : Tag)
  | closing (tag : Tag)
  | lineBreak
deriving DecidableEq

def Token.text : Token → Text
  | .plain c => [c.val]
  | .entity e => e.text
  | .opening tag => '<' :: (tag.name ++ ['>'])
  | .closing tag => '<' :: '/' :: (tag.name ++ ['>'])
  | .lineBreak => "<br>"

def render (tokens : List Token) : Text :=
  tokens.flatMap Token.text

/-- The rune a token shows. -/
def Token.shown : Token → Option Char
  | .plain c => some c.val
  | .entity e => some e.rune
  | _ => none

/-- The text that is seen. -/
def visible (tokens : List Token) : Text :=
  tokens.filterMap Token.shown

/-- The tags left open behind the tokens, the last opened first; `none` where
a tag is closed that is not the last opened. -/
def nest : List Tag → List Token → Option (List Tag)
  | openTags, [] => some openTags
  | openTags, .opening tag :: rest => nest (tag :: openTags) rest
  | openTags, .closing tag :: rest =>
      match openTags with
      | [] => none
      | top :: under => if top = tag then nest under rest else none
  | openTags, _ :: rest => nest openTags rest

def Nested (tokens : List Token) : Prop :=
  nest [] tokens = some []

instance (tokens : List Token) : Decidable (Nested tokens) :=
  inferInstanceAs (Decidable (_ = _))

/-- The tokens the compact variant is made of. -/
def Token.compact : Token → Bool
  | .plain _ => true
  | .entity _ => true
  | .opening tag => tag = .b ∨ tag = .code
  | .closing tag => tag = .b ∨ tag = .code
  | .lineBreak => false

/-- Every token that is not a rune standing for itself. -/
def markup : List Token :=
  [.entity .amp, .entity .apos, .entity .lt, .entity .gt, .entity .quot,
    .opening .b, .opening .code, .opening .h2, .opening .p, .closing .b,
    .closing .code, .closing .h2, .closing .p, .lineBreak]

/-- The first token of a text. -/
def lexToken (text : Text) : Option (Token × Text) :=
  match markup.find? fun token => token.text.isPrefixOf text with
  | some token => some (token, text.drop token.text.length)
  | none =>
      match text with
      | [] => none
      | c :: rest => if h : IsPlain c then some (.plain ⟨c, h⟩, rest) else none

def lexLoop : Nat → Text → Option (List Token)
  | _, [] => some []
  | 0, _ => none
  | bound + 1, c :: rest =>
      match lexToken (c :: rest) with
      | none => none
      | some (token, rest) => (lexLoop bound rest).map (token :: ·)

/-- The tokens of a text; `none` where a tag or an entity is none of these, or
one of their runes stands alone. -/
def lex (text : Text) : Option (List Token) :=
  lexLoop text.length text

/-- The text is well-formed in the compact subset. -/
def WellFormed (text : Text) : Prop :=
  ∃ tokens, lex text = some tokens ∧
    (∀ token ∈ tokens, token.compact) ∧ Nested tokens

/-- The tags of the text are properly nested. -/
def ProperlyNested (text : Text) : Prop :=
  ∃ tokens, lex text = some tokens ∧ Nested tokens

section Lexing

theorem markup_prefix_free {token other : Token} (h : token ∈ markup)
    (hother : other ∈ markup) (hpre : token.text <+: other.text) :
    token = other := by
  have hall : ∀ token ∈ markup, ∀ other ∈ markup,
      token.text.isPrefixOf other.text → token = other := by
    decide
  exact hall token h other hother (List.isPrefixOf_iff_prefix.mpr hpre)

theorem mem_markup {token : Token} (h : ∀ c, token ≠ .plain c) :
    token ∈ markup := by
  cases token with
  | plain c => exact absurd rfl (h c)
  | entity e => cases e <;> decide
  | opening tag => cases tag <;> decide
  | closing tag => cases tag <;> decide
  | lineBreak => decide

/-- Markup starts with one of two runes. -/
theorem markup_head {token : Token} (h : token ∈ markup) :
    ∃ rest, token.text = '<' :: rest ∨ token.text = '&' :: rest := by
  have hall : ∀ token ∈ markup, token.text = '<' :: token.text.tail ∨
      token.text = '&' :: token.text.tail := by
    decide
  exact ⟨_, hall token h⟩

theorem Token.text_ne_nil (token : Token) : token.text ≠ [] := by
  cases token with
  | plain c => exact List.cons_ne_nil _ _
  | entity e => cases e <;> decide
  | opening tag => exact List.cons_ne_nil _ _
  | closing tag => exact List.cons_ne_nil _ _
  | lineBreak => decide

/-- Markup starts a text exactly where it is the first token. -/
theorem isPrefixOf_text {other token : Token} (h : other ∈ markup)
    (rest : Text) :
    other.text.isPrefixOf (token.text ++ rest) ↔ token = other := by
  rw [List.isPrefixOf_iff_prefix]
  constructor
  · intro hpre
    by_cases hplain : ∃ c, token = .plain c
    · obtain ⟨c, rfl⟩ := hplain
      obtain ⟨tail, htail | htail⟩ := markup_head h
      · rw [htail] at hpre
        exact absurd (List.cons_prefix_cons.mp hpre).1.symm c.property.1
      · rw [htail] at hpre
        exact absurd (List.cons_prefix_cons.mp hpre).1.symm c.property.2.2
    · have hmem := mem_markup fun c hc => hplain ⟨c, hc⟩
      rcases List.prefix_or_prefix_of_prefix hpre
          (List.prefix_append token.text rest) with h' | h'
      · exact (markup_prefix_free h hmem h').symm
      · exact markup_prefix_free hmem h h'
  · rintro rfl
    exact List.prefix_append _ _

/-- A token is told by the text that starts with it. -/
theorem lexToken_text (token : Token) (rest : Text) :
    lexToken (token.text ++ rest) = some (token, rest) := by
  cases hfind : markup.find? fun other =>
      other.text.isPrefixOf (token.text ++ rest) with
  | none =>
      rw [List.find?_eq_none] at hfind
      have hplain : ∃ c, token = .plain c := by
        by_contra hnone
        have hmem := mem_markup fun c hc => hnone ⟨c, hc⟩
        exact hfind token hmem ((isPrefixOf_text hmem rest).mpr rfl)
      obtain ⟨c, rfl⟩ := hplain
      rw [lexToken.eq_def, List.find?_eq_none.mpr hfind]
      exact dif_pos c.property
  | some found =>
      have hpre := List.find?_some hfind
      obtain rfl := (isPrefixOf_text (List.mem_of_find?_eq_some hfind)
        rest).mp hpre
      rw [lexToken.eq_def, hfind]
      simp

theorem lexLoop_render {tokens : List Token} {bound : Nat}
    (h : (render tokens).length ≤ bound) :
    lexLoop bound (render tokens) = some tokens := by
  induction tokens generalizing bound with
  | nil =>
      change lexLoop bound [] = some []
      rw [lexLoop]
  | cons token rest ih =>
      have htext : render (token :: rest) = token.text ++ render rest := rfl
      have hlex := lexToken_text token (render rest)
      cases hshape : token.text ++ render rest with
      | nil =>
          exact absurd (List.append_eq_nil_iff.mp hshape).1 token.text_ne_nil
      | cons c others =>
          have hpos := List.length_pos_iff.mpr token.text_ne_nil
          rw [htext, List.length_append] at h
          cases bound with
          | zero => omega
          | succ bound =>
              rw [htext, hshape, lexLoop, ← hshape, hlex]
              dsimp only
              rw [ih (by omega)]
              rfl

/-- The tokens can be read back from the text. -/
@[simp] theorem lex_render (tokens : List Token) :
    lex (render tokens) = some tokens :=
  lexLoop_render le_rfl

theorem properlyNested_render {tokens : List Token} :
    ProperlyNested (render tokens) ↔ Nested tokens := by
  simp [ProperlyNested]

theorem wellFormed_render {tokens : List Token} :
    WellFormed (render tokens) ↔
      (∀ token ∈ tokens, token.compact) ∧ Nested tokens := by
  simp [WellFormed]

end Lexing

section Pieces

@[simp] theorem render_nil : render [] = [] := rfl

@[simp] theorem render_cons (token : Token) (rest : List Token) :
    render (token :: rest) = token.text ++ render rest := rfl

@[simp] theorem render_append (left right : List Token) :
    render (left ++ right) = render left ++ render right :=
  List.flatMap_append

@[simp] theorem visible_nil : visible [] = [] := rfl

@[simp] theorem visible_append (left right : List Token) :
    visible (left ++ right) = visible left ++ visible right :=
  List.filterMap_append

theorem nest_append (openTags : List Tag) (left right : List Token) :
    nest openTags (left ++ right) =
      (nest openTags left).bind fun tags => nest tags right := by
  induction left generalizing openTags with
  | nil => rfl
  | cons token rest ih =>
      cases token with
      | plain c => exact ih openTags
      | entity e => exact ih openTags
      | lineBreak => exact ih openTags
      | opening tag => exact ih (tag :: openTags)
      | closing tag =>
          cases openTags with
          | nil => rfl
          | cons top under =>
              simp only [List.cons_append, nest]
              split
              · exact ih under
              · rfl

/-- Tags that were open before stay open. -/
theorem nest_inside (openTags : List Tag) {tokens : List Token}
    {inner left : List Tag} (h : nest inner tokens = some left) :
    nest (inner ++ openTags) tokens = some (left ++ openTags) := by
  induction tokens generalizing inner with
  | nil =>
      obtain rfl := Option.some.inj h
      rfl
  | cons token rest ih =>
      cases token with
      | plain c => exact ih h
      | entity e => exact ih h
      | lineBreak => exact ih h
      | opening tag => exact ih h
      | closing tag =>
          cases inner with
          | nil => cases h
          | cons top under =>
              simp only [nest, List.cons_append] at h ⊢
              split at h
              next hsame =>
                rw [if_pos hsame]
                exact ih h
              · cases h

/-- Nested tokens may stand anywhere. -/
theorem Nested.inside {tokens : List Token} (h : Nested tokens)
    (openTags : List Tag) : nest openTags tokens = some openTags :=
  nest_inside openTags h

theorem Nested.append {left right : List Token} (hleft : Nested left)
    (hright : Nested right) : Nested (left ++ right) := by
  rw [Nested, nest_append, hleft]
  exact hright

end Pieces

end XrayChecker.Telegram

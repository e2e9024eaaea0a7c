import XrayChecker.Telegram.Trim

/-
A message that is shortened: what stays of it, how long it is, and when
shortening it once more leaves it alone.
-/

namespace XrayChecker.Telegram

open Go

/-- The rune takes two units of UTF-16. -/
def isAstral (c : Char) : Bool :=
  decide (0x10000 ≤ c.val)

def astral (text : Text) : Nat :=
  text.countP isAstral

/-- The length Telegram counts. -/
def utf16Len (text : Text) : Nat :=
  (text.map fun c => if isAstral c then 2 else 1).sum

/-- The white space left out where a message is cut. -/
def cutSpaces (tokens : List Token) : Nat :=
  shownLimit - (visible (headOf tokens)).length

/-- The part that is kept is not too long for its astral runes. -/
def Fits (tokens : List Token) : Prop :=
  if Long tokens then
    astral ((visible tokens).take shownLimit) ≤ 196 + cutSpaces tokens
  else (visible tokens).length + astral (visible tokens) ≤ 4096

/-- Where the message is shortened, there is no white space at the cut that a
second cut would fill with the note. -/
def Settled (tokens : List Token) : Prop :=
  Long tokens → cutSpaces tokens ≤ 1 ∨
    runeCount shortenedNote ≤ cutSpaces tokens ∨
    runeCount (render (headOf tokens)) + runeCount shortenedNote ≤
      messageRunes

theorem utf16Len_eq (text : Text) :
    utf16Len text = text.length + astral text := by
  induction text with
  | nil => rfl
  | cons c rest ih =>
      rw [utf16Len] at ih ⊢
      rw [astral] at ih ⊢
      rw [List.map_cons, List.sum_cons, ih, List.countP_cons,
        List.length_cons]
      split <;> omega

theorem astral_append (left right : Text) :
    astral (left ++ right) = astral left + astral right :=
  List.countP_append

theorem not_isAstral_of_isSpace {c : Char} (h : Go.isSpace c) :
    isAstral c = false := by
  rw [isAstral, decide_eq_false_iff_not, UInt32.le_iff_toNat_le]
  simp only [Go.isSpace, Bool.or_eq_true, Bool.and_eq_true, decide_eq_true_eq,
    beq_iff_eq, Char.toNat] at h
  change ¬65536 ≤ c.val.toNat
  omega

theorem astral_spaces {text : Text} (h : ∀ c ∈ text, Go.isSpace c) :
    astral text = 0 := by
  rw [astral, List.countP_eq_zero]
  intro c hc
  simp [not_isAstral_of_isSpace (h c hc)]

theorem length_shortenedNote : runeCount shortenedNote = 21 := by
  decide

theorem shownLimit_eq : shownLimit = 3879 := by
  rw [shownLimit, length_shortenedNote]
  rfl

section Head

variable {tokens : List Token}

/-- What is kept of a message with the tags closed behind it. -/
theorem headOf_eq (hnested : Nested tokens) :
    ∃ left, headOf tokens =
        strip ((cut shownLimit 0 tokens).1 ++ left.map Token.closing) ∧
      nest [] (cut shownLimit 0 tokens).1 = some left := by
  obtain ⟨left, hleft⟩ := nest_prefix (cut_front shownLimit 0 tokens) hnested
  exact ⟨left, by rw [headOf, hleft, Option.getD_some], hleft⟩

theorem nested_headOf (hnested : Nested tokens) : Nested (headOf tokens) := by
  obtain ⟨left, hhead, hleft⟩ := headOf_eq hnested
  rw [Nested, hhead, nest_strip, nest_append, hleft]
  exact nest_closings left

theorem strip_headOf : strip (headOf tokens) = headOf tokens :=
  strip_strip _

/-- Compact tags are closed by compact tags. -/
theorem compact_of_nest {openTags left : List Tag}
    (hcompact : ∀ token ∈ tokens, token.compact)
    (hopen : ∀ tag ∈ openTags, (Token.closing tag).compact)
    (h : nest openTags tokens = some left) :
    ∀ tag ∈ left, (Token.closing tag).compact := by
  induction tokens generalizing openTags with
  | nil =>
      obtain rfl := Option.some.inj h
      exact hopen
  | cons token rest ih =>
      rw [List.forall_mem_cons] at hcompact
      cases token with
      | plain c => exact ih hcompact.2 hopen h
      | entity e => exact ih hcompact.2 hopen h
      | lineBreak => exact ih hcompact.2 hopen h
      | opening tag =>
          refine ih hcompact.2 ?_ h
          rw [List.forall_mem_cons]
          exact ⟨hcompact.1, hopen⟩
      | closing tag =>
          cases openTags with
          | nil => cases h
          | cons top under =>
              rw [nest] at h
              split at h
              · exact ih hcompact.2 (List.forall_mem_cons.mp hopen).2 h
              · cases h

theorem compact_headOf (hcompact : ∀ token ∈ tokens, token.compact)
    (hnested : Nested tokens) : ∀ token ∈ headOf tokens, token.compact := by
  obtain ⟨left, hhead, hleft⟩ := headOf_eq hnested
  intro token htoken
  rw [hhead] at htoken
  have hkept : ∀ token ∈ (cut shownLimit 0 tokens).1, token.compact :=
    fun token h => hcompact token ((cut_front _ _ _).subset h)
  rcases List.mem_append.mp ((strip_sublist _).subset htoken) with h | h
  · exact hkept token h
  · obtain ⟨tag, htag, rfl⟩ := List.mem_map.mp h
    exact compact_of_nest hkept
      (fun _ h => absurd h List.not_mem_nil) hleft tag htag

theorem visible_closings (left : List Tag) :
    visible (left.map Token.closing) = [] := by
  induction left with
  | nil => rfl
  | cons tag rest ih => exact ih

theorem visible_spaces {spaces : List Token}
    (h : ∀ token ∈ spaces, token.isSpace) :
    ∀ c ∈ visible spaces, Go.isSpace c := by
  intro c hc
  obtain ⟨token, htoken, hshown⟩ := List.mem_filterMap.mp hc
  obtain ⟨d, rfl, hd⟩ := text_space (h token htoken)
  exact Option.some.inj hshown ▸ hd

theorem cut_ne_nil (hlong : Long tokens) :
    (cut shownLimit 0 tokens).1 ≠ [] := by
  intro hnil
  have hspec := (@cut_spec shownLimit 0 tokens (Nat.zero_le _)).1
  have hlength := congrArg List.length hspec
  have hmany := hlong.2
  rw [hnil, visible_nil, List.length_nil, List.length_take] at hlength
  rw [shownLimit_eq] at *
  omega

/-- The message starts with no white space. -/
theorem dropWhile_cut (hfirst : tokens.dropWhile Token.isSpace = tokens)
    (hlong : Long tokens) (closings : List Token) :
    ((cut shownLimit 0 tokens).1 ++ closings).dropWhile Token.isSpace =
      (cut shownLimit 0 tokens).1 ++ closings := by
  have hne := cut_ne_nil hlong
  obtain ⟨rest, hrest⟩ := cut_front shownLimit 0 tokens
  cases hkept : (cut shownLimit 0 tokens).1 with
  | nil => exact absurd hkept hne
  | cons token others =>
      rw [hkept] at hrest
      have hspace : token.isSpace = false := by
        by_contra hspace
        rw [← hrest, List.cons_append, List.dropWhile_cons_of_pos
          (by simpa using hspace)] at hfirst
        have hlength := congrArg List.length hfirst
        have hle := (List.dropWhile_suffix Token.isSpace
          (l := others ++ rest)).length_le
        rw [List.length_cons] at hlength
        omega
      rw [List.cons_append, List.dropWhile_cons_of_neg (by simp [hspace])]

/-- The runes up to the cut are the ones kept and white space. -/
theorem take_visible (hnested : Nested tokens)
    (hfirst : tokens.dropWhile Token.isSpace = tokens)
    (hlong : Long tokens) :
    ∃ spaces, (visible tokens).take shownLimit =
        visible (headOf tokens) ++ spaces ∧
      (∀ c ∈ spaces, Go.isSpace c) ∧ spaces.length = cutSpaces tokens := by
  obtain ⟨left, hhead, -⟩ := headOf_eq hnested
  have hspec := (@cut_spec shownLimit 0 tokens (Nat.zero_le _)).1
  rw [strip, dropWhile_cut hfirst hlong] at hhead
  have hsplit : visible (cut shownLimit 0 tokens).1 =
      visible (headOf tokens) ++ visible (List.rtakeWhile Token.isSpace
        ((cut shownLimit 0 tokens).1 ++ left.map Token.closing)) := by
    rw [hhead, ← visible_append, List.rdropWhile_append_rtakeWhile,
      visible_append, visible_closings, List.append_nil]
  rw [hspec, Nat.sub_zero] at hsplit
  refine ⟨_, hsplit, visible_spaces fun token h =>
    List.mem_rtakeWhile_imp h, ?_⟩
  have hlength := congrArg List.length hsplit
  have hmany := hlong.2
  rw [List.length_append, List.length_take] at hlength
  rw [cutSpaces]
  omega

end Head

section Once

variable {tokens : List Token}

theorem nested_noteTokens : Nested noteTokens := by
  decide

theorem compact_noteTokens : ∀ token ∈ noteTokens, token.compact := by
  decide

theorem visible_noteTokens : visible noteTokens = shortenedNote := by
  decide

theorem nested_shorten (hnested : Nested tokens) : Nested (shorten tokens) := by
  rw [shorten]
  split
  · exact (nested_headOf hnested).append nested_noteTokens
  · exact hnested

theorem compact_shorten (hcompact : ∀ token ∈ tokens, token.compact)
    (hnested : Nested tokens) : ∀ token ∈ shorten tokens, token.compact := by
  rw [shorten]
  split
  · intro token htoken
    rcases List.mem_append.mp htoken with h | h
    · exact compact_headOf hcompact hnested token h
    · exact compact_noteTokens token h
  · exact hcompact

theorem visible_shorten_long (hlong : Long tokens) :
    visible (shorten tokens) = visible (headOf tokens) ++ shortenedNote := by
  rw [shorten, if_pos hlong, visible_append, visible_noteTokens]

theorem visible_headOf_front (hnested : Nested tokens)
    (hfirst : tokens.dropWhile Token.isSpace = tokens)
    (hlong : Long tokens) : visible (headOf tokens) <+: visible tokens := by
  obtain ⟨spaces, htake, -⟩ := take_visible hnested hfirst hlong
  exact (List.prefix_append _ spaces).trans (htake ▸ List.take_prefix _ _)

/-- What is shown is the message, or a first part of it and the note. -/
def ShownOf (text shown : Text) : Prop :=
  shown = text ∨ ∃ front, front <+: text ∧ shown = front ++ shortenedNote

theorem shownOf_shorten (hnested : Nested tokens)
    (hfirst : tokens.dropWhile Token.isSpace = tokens) :
    ShownOf (visible tokens) (visible (shorten tokens)) := by
  by_cases hlong : Long tokens
  · exact .inr ⟨_, visible_headOf_front hnested hfirst hlong,
      visible_shorten_long hlong⟩
  · exact .inl (by rw [shorten, if_neg hlong])

theorem astral_shortenedNote : astral shortenedNote = 0 := by
  decide

/-- The shortened message is short enough for Telegram exactly when it is not
too long for its astral runes. -/
theorem utf16Len_shorten (hnested : Nested tokens)
    (hfirst : tokens.dropWhile Token.isSpace = tokens) :
    utf16Len (visible (shorten tokens)) ≤ 4096 ↔ Fits tokens := by
  rw [Fits, utf16Len_eq]
  split
  next hlong =>
    obtain ⟨spaces, htake, hspaces, hlength⟩ :=
      take_visible hnested hfirst hlong
    have hcount := congrArg List.length htake
    have hnote : shortenedNote.length = 21 := length_shortenedNote
    have hmany := hlong.2
    rw [List.length_append, List.length_take, hlength] at hcount
    rw [visible_shorten_long hlong, List.length_append, astral_append,
      astral_shortenedNote, hnote, htake, astral_append,
      astral_spaces hspaces]
    rw [shownLimit_eq] at *
    omega
  next hlong => rw [shorten, if_neg hlong]

end Once

section Twice

variable {tokens : List Token}

theorem cut_append {limit shown : Nat} {left right : List Token}
    (h : shown + (visible left).length ≤ limit) :
    (cut limit shown (left ++ right)).1 =
      left ++ (cut limit (shown + (visible left).length) right).1 := by
  induction left generalizing shown with
  | nil => rfl
  | cons token rest ih =>
      rw [visible_cons, List.length_append] at h
      rw [visible_cons, List.length_append, List.cons_append, cut]
      split
      next hnone =>
        rw [hnone] at h ⊢
        rw [Option.toList_none, List.length_nil, Nat.zero_add] at h ⊢
        rw [ih h, List.cons_append]
      next c hsome =>
        rw [hsome] at h ⊢
        rw [Option.toList_some, List.length_singleton] at h ⊢
        rw [if_neg (by omega), ih (by omega), List.cons_append,
          Nat.add_assoc]

theorem cut_shown {limit shown : Nat} {plain : List Token}
    (h : ∀ token ∈ plain, token.shown.isSome) :
    (cut limit shown plain).1 = plain.take (limit - shown) := by
  induction plain generalizing shown with
  | nil => simp [cut]
  | cons token rest ih =>
      rw [List.forall_mem_cons] at h
      rw [cut]
      split
      next hnone =>
        rw [hnone] at h
        exact absurd h.1 (by decide)
      next c hsome =>
        split
        next hfull =>
          rw [Nat.sub_eq_zero_of_le hfull, List.take_zero]
        next hfull =>
          have hsucc : limit - shown = limit - (shown + 1) + 1 := by omega
          rw [ih h.2, hsucc, List.take_succ_cons]

theorem nest_shown {openTags : List Tag} {plain : List Token}
    (h : ∀ token ∈ plain, token.shown.isSome) :
    nest openTags plain = some openTags := by
  induction plain with
  | nil => rfl
  | cons token rest ih =>
      rw [List.forall_mem_cons] at h
      cases token with
      | plain c => exact ih h.2
      | entity e => exact ih h.2
      | opening tag => exact absurd h.1 (by simp [Token.shown])
      | closing tag => exact absurd h.1 (by simp [Token.shown])
      | lineBreak => exact absurd h.1 (by simp [Token.shown])

theorem noteTokens_shown : ∀ token ∈ noteTokens, token.shown.isSome := by
  decide

theorem headOf_ne_nil (hnested : Nested tokens)
    (hfirst : tokens.dropWhile Token.isSpace = tokens)
    (hlong : Long tokens) : headOf tokens ≠ [] := by
  obtain ⟨left, hhead, -⟩ := headOf_eq hnested
  have hstart := dropWhile_cut hfirst hlong (left.map Token.closing)
  rw [hhead, strip, hstart]
  intro hnil
  rw [List.rdropWhile_eq_nil_iff] at hnil
  rw [List.dropWhile_eq_nil_iff.mpr hnil] at hstart
  exact cut_ne_nil hlong (List.append_eq_nil_iff.mp hstart.symm).1

/-- Behind the head of a message nothing in front of it is white space. -/
theorem dropWhile_headOf (hne : headOf tokens ≠ []) (behind : List Token) :
    (headOf tokens ++ behind).dropWhile Token.isSpace =
      headOf tokens ++ behind := by
  have hself := dropWhile_strip (headOf tokens)
  rw [strip_headOf] at hself
  cases hhead : headOf tokens with
  | nil => exact absurd hhead hne
  | cons token rest =>
      have hspace : ¬token.isSpace := by
        intro hspace
        rw [hhead, List.dropWhile_cons_of_pos hspace] at hself
        have hlength := congrArg List.length hself
        have hle := (List.dropWhile_suffix Token.isSpace (l := rest)).length_le
        rw [List.length_cons] at hlength
        omega
      rw [List.cons_append, List.dropWhile_cons_of_neg hspace]

theorem rdropWhile_headOf :
    (headOf tokens).rdropWhile Token.isSpace = headOf tokens := by
  have hself := @strip_headOf tokens
  rw [strip] at hself
  have hidem := @List.rdropWhile_idempotent _ Token.isSpace
    ((headOf tokens).dropWhile Token.isSpace)
  rwa [hself] at hidem

theorem strip_shorten (hnested : Nested tokens)
    (hstrip : strip tokens = tokens) :
    strip (shorten tokens) = shorten tokens := by
  have hfirst : tokens.dropWhile Token.isSpace = tokens := by
    rw [← hstrip]
    exact dropWhile_strip tokens
  rw [shorten]
  split
  next hlong =>
    have hlast : ∀ hne : headOf tokens ++ noteTokens ≠ [],
        ¬((headOf tokens ++ noteTokens).getLast hne).isSpace := by
      intro hne
      rw [List.getLast_append_of_ne_nil hne (by decide)]
      decide
    rw [strip, dropWhile_headOf (headOf_ne_nil hnested hfirst hlong),
      List.rdropWhile_eq_self_iff]
    exact hlast
  · exact hstrip

/-- The second cut keeps the head and what the note fills it up with. -/
theorem headOf_shorten (hnested : Nested tokens)
    (hfirst : tokens.dropWhile Token.isSpace = tokens)
    (hlong : Long tokens) :
    headOf (headOf tokens ++ noteTokens) =
      (headOf tokens ++
        noteTokens.take (cutSpaces tokens)).rdropWhile Token.isSpace := by
  have hfew : 0 + (visible (headOf tokens)).length ≤ shownLimit := by
    obtain ⟨spaces, htake, -⟩ := take_visible hnested hfirst hlong
    have hlength := congrArg List.length htake
    rw [List.length_append, List.length_take] at hlength
    omega
  have hkept : (cut shownLimit 0 (headOf tokens ++ noteTokens)).1 =
      headOf tokens ++ noteTokens.take (cutSpaces tokens) := by
    rw [cut_append hfew, cut_shown noteTokens_shown, Nat.zero_add, cutSpaces]
  have hnest : nest [] (headOf tokens ++
      noteTokens.take (cutSpaces tokens)) = some [] := by
    rw [nest_append, nested_headOf hnested]
    exact nest_shown fun token h => noteTokens_shown token
      (List.mem_of_mem_take h)
  rw [headOf, hkept, hnest, Option.getD_some, List.map_nil, List.append_nil,
    strip, dropWhile_headOf (headOf_ne_nil hnested hfirst hlong)]

theorem long_shorten :
    Long (headOf tokens ++ noteTokens) ↔
      messageRunes < runeCount (render (headOf tokens)) +
          runeCount shortenedNote ∧
        shownLimit < (visible (headOf tokens)).length +
          runeCount shortenedNote := by
  rw [Long, render_append, render_noteTokens, visible_append,
    visible_noteTokens]
  simp only [runeCount, List.length_append]

/-- A settled message is left alone by the second cut. -/
theorem shorten_settled (hnested : Nested tokens)
    (hfirst : tokens.dropWhile Token.isSpace = tokens)
    (hsettled : Settled tokens) :
    shorten (shorten tokens) = shorten tokens := by
  by_cases hlong : Long tokens
  · have hone : shorten tokens = headOf tokens ++ noteTokens := by
      rw [shorten, if_pos hlong]
    rw [hone, shorten]
    split
    next hagain =>
      rw [long_shorten] at hagain
      have hfew : cutSpaces tokens ≤ 1 := by
        rcases hsettled hlong with h | h | h
        · exact h
        · have hnote := length_shortenedNote
          rw [cutSpaces] at h
          omega
        · omega
      rw [headOf_shorten hnested hfirst hlong]
      rcases Nat.le_one_iff_eq_zero_or_eq_one.mp hfew with hnone | hsingle
      · rw [hnone, List.take_zero, List.append_nil, rdropWhile_headOf]
      · have hbreak : noteTokens.take 1 = [.plain ⟨'\n', by decide⟩] := by
          decide
        rw [hsingle, hbreak, List.rdropWhile_concat_pos _ _ _ (by decide),
          rdropWhile_headOf]
    · rfl
  · have hone : shorten tokens = tokens := by
      rw [shorten, if_neg hlong]
    rw [hone, hone]

theorem prefix_rdropWhile {α : Type} {p : α → Bool} {a : α} (ha : ¬p a)
    (front rest : List α) :
    front ++ [a] <+: (front ++ [a] ++ rest).rdropWhile p := by
  induction rest using List.reverseRecOn with
  | nil =>
      rw [List.append_nil, List.rdropWhile_concat_neg _ _ _ ha]
  | append_singleton rest b ih =>
      rw [← List.append_assoc]
      by_cases hb : p b
      · rw [List.rdropWhile_concat_pos _ _ _ hb]
        exact ih
      · rw [List.rdropWhile_concat_neg _ _ _ hb, List.append_assoc]
        exact List.prefix_append _ _

/-- Where a message is not settled, the second cut leaves a part of the note in
front of the note. -/
theorem not_shownOf_twice (hnested : Nested tokens)
    (hfirst : tokens.dropWhile Token.isSpace = tokens)
    (hsettled : ¬Settled tokens) {text : Text}
    (htext : visible tokens <+: text) :
    ¬ShownOf text (visible (shorten (shorten tokens))) := by
  rw [Settled, Classical.not_imp, not_or, not_or] at hsettled
  obtain ⟨hlong, hmany, hfew, hruns⟩ := hsettled
  obtain ⟨spaces, htake, hspaces, hlength⟩ := take_visible hnested hfirst hlong
  have hagain : Long (headOf tokens ++ noteTokens) := by
    rw [long_shorten]
    refine ⟨by omega, ?_⟩
    have hnote := length_shortenedNote
    rw [cutSpaces] at hmany hfew
    omega
  have hone : shorten tokens = headOf tokens ++ noteTokens := by
    rw [shorten, if_pos hlong]
  -- The white space at the cut is followed by the line break of the note and
  -- its first dots.
  have hdots : visible (headOf tokens) ++ ['\n', '…'] <+:
      visible (headOf (headOf tokens ++ noteTokens)) := by
    have hnote : noteTokens = [.plain ⟨'\n', by decide⟩,
        .plain ⟨'…', by decide⟩] ++ noteTokens.drop 2 := by
      decide
    obtain ⟨more, hmore⟩ : ∃ n, cutSpaces tokens = n + 2 :=
      ⟨cutSpaces tokens - 2, by omega⟩
    have hkept : headOf tokens ++ noteTokens.take (cutSpaces tokens) =
        headOf tokens ++ [.plain ⟨'\n', by decide⟩] ++
          [.plain ⟨'…', by decide⟩] ++ (noteTokens.drop 2).take more := by
      rw [hmore, hnote]
      simp
    obtain ⟨rest, hrest⟩ := @prefix_rdropWhile _ Token.isSpace
      (.plain ⟨'…', by decide⟩) (by decide)
      (headOf tokens ++ [.plain ⟨'\n', by decide⟩])
      ((noteTokens.drop 2).take more)
    rw [headOf_shorten hnested hfirst hlong, hkept, ← hrest]
    refine ⟨visible rest, ?_⟩
    simp [visible_append, visible_cons, Token.shown]
  have hshown : ¬visible (headOf tokens) ++ ['\n', '…'] <+: text := by
    intro hpre
    have hfront : visible (headOf tokens) ++ spaces <+: text :=
      (htake ▸ List.take_prefix _ _ :
        visible (headOf tokens) ++ spaces <+: visible tokens).trans htext
    have hboth : ['\n', '…'] <+: spaces ∨ spaces <+: ['\n', '…'] := by
      rcases List.prefix_or_prefix_of_prefix hpre hfront with h | h
      · exact .inl ((List.prefix_append_right_inj _).mp h)
      · exact .inr ((List.prefix_append_right_inj _).mp h)
    have hin : '…' ∈ spaces := by
      rcases hboth with h | h
      · exact h.subset (by decide)
      · have heq := h.eq_of_length_le (by simp; omega)
        rw [heq]
        decide
    exact absurd (hspaces _ hin) (by decide)
  rw [hone, visible_shorten_long hagain]
  rintro (hsame | ⟨front, hfront, hsame⟩)
  · exact hshown (hsame ▸ hdots.trans (List.prefix_append _ _))
  · rw [← List.append_cancel_right hsame] at hfront
    exact hshown (hdots.trans hfront)

end Twice

end XrayChecker.Telegram

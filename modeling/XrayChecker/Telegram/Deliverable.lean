import XrayChecker.Telegram.Compact

/-
Which alerts can be delivered as they are: well-formed, short enough for
Telegram, and with a rich body whose tags nest.
-/

namespace XrayChecker.Telegram

open Go Checker Speedtest

/-- The text a message shows. -/
def visibleText (text : Text) : Text :=
  visible ((lex text).getD [])

@[simp] theorem visibleText_render (tokens : List Token) :
    visibleText (render tokens) = visible tokens := by
  simp [visibleText]

section Heading

theorem escapeToken_stays {c : Char} (h : c ≠ '\n') :
    (escapeToken c).stays := by
  unfold escapeToken
  split_ifs with h1 h2 h3 h4 h5 h6
  · rfl
  · rfl
  · rfl
  · rfl
  · rfl
  · simpa [Token.stays, Subtype.ext_iff] using h
  · rfl

theorem stays_escape {text : Text} (h : '\n' ∉ text) :
    ∀ token ∈ text.map escapeToken, token.stays := by
  intro token htoken
  obtain ⟨c, hc, rfl⟩ := List.mem_map.mp htoken
  exact escapeToken_stays fun hbreak => h (hbreak ▸ hc)

/-- The first line of an alert is properly nested exactly when the name in its
heading is on one line. -/
theorem nested_headline_name {lead title tail : List Token} {name : Text}
    (hlead : ∀ token ∈ lead, token.stays ∧ token.shown.isSome)
    (htitle : ∀ token ∈ title, token.stays ∧ token.shown.isSome)
    (htail : tail.takeWhile Token.stays = []) :
    Nested (headline (lead ++ ([.opening .b] ++ (name.map escapeToken ++
      ([.closing .b] ++ (title ++ tail)))))) ↔ '\n' ∉ name := by
  have hopen : ∀ token ∈ [Token.opening .b], token.stays := by decide
  have hclose : ∀ token ∈ [Token.closing .b], token.stays := by decide
  rw [headline, List.takeWhile_append_of_pos fun token h => (hlead token h).1,
    List.takeWhile_append_of_pos hopen, Nested, nest_append,
    nest_shown fun token h => (hlead token h).2, Option.bind_some,
    List.singleton_append, nest]
  constructor
  · intro hnested hbreak
    -- The bold tag is still open where the name breaks.
    have hstop : ((name.map escapeToken ++ ([Token.closing .b] ++
        (title ++ tail))).takeWhile Token.stays) =
          (name.map escapeToken).takeWhile Token.stays := by
      rw [List.takeWhile_append]
      split
      next hall =>
        have hkept := (List.takeWhile_prefix (p := Token.stays)
          (l := name.map escapeToken)).eq_of_length hall
        rw [List.takeWhile_eq_self_iff] at hkept
        have hstays := hkept _ (List.mem_map_of_mem hbreak)
        exact absurd hstays (by decide)
      · rfl
    rw [hstop, nest_shown fun token h =>
      escape_shown name token ((List.takeWhile_prefix _).subset h)] at hnested
    cases hnested
  · intro hline
    rw [List.takeWhile_append_of_pos (stays_escape hline),
      List.takeWhile_append_of_pos hclose,
      List.takeWhile_append_of_pos fun token h => (htitle token h).1, htail,
      List.append_nil, nest_append, nest_shown (escape_shown name),
      Option.bind_some, List.singleton_append, nest, if_pos rfl,
      nest_shown fun token h => (htitle token h).2]

theorem isCompact_tokens {text : Text} (h : IsCompact text) :
    ∃ tokens, lex text = some tokens ∧ render tokens = text ∧
      (∀ token ∈ tokens, token.compact) ∧ Nested tokens := by
  obtain ⟨tokens, rfl, hcompact, hnested⟩ := h
  exact ⟨tokens, lex_render tokens, rfl, hcompact, hnested⟩

/-- A line behind which nothing or the next line comes. -/
theorem join_newline (part : Text) {rest : List Text}
    (h : ∀ line ∈ rest, IsCompact line) :
    ∃ tail : List Token, join (part :: rest) "\n" = part ++ render tail ∧
      tail.takeWhile Token.stays = [] := by
  cases rest with
  | nil => exact ⟨[], by simp [join], rfl⟩
  | cons next others =>
      obtain ⟨tokens, hrender, -⟩ := isCompact_join h isCompact_newline
      refine ⟨.plain ⟨'\n', by decide⟩ :: tokens, ?_, ?_⟩
      · rw [join, List.intercalate_cons_cons, ← join, render_cons, hrender]
        exact List.append_assoc _ _ _
      · exact List.takeWhile_cons_of_neg (by decide)

/-- Runes of the source on one line. -/
theorem plainTokens_line {text : Text} (h : ∀ c ∈ text, IsPlain c)
    (hline : '\n' ∉ text) :
    ∀ token ∈ plainTokens text h, token.stays ∧ token.shown.isSome := by
  intro token htoken
  obtain ⟨c, rfl, hc⟩ := plainTokens_shape token htoken
  refine ⟨?_, rfl⟩
  simp only [Token.stays, bne_iff_ne, ne_eq, Token.plain.injEq,
    Subtype.ext_iff]
  rintro hbreak
  exact hline (hbreak ▸ hc)

/-- The rich body of an alert whose heading has a name. -/
theorem properlyNested_heading {lead title : Text} {name : Text}
    {tail : List Token} (hlead : ∀ c ∈ lead, IsPlain c)
    (hlead' : '\n' ∉ lead) (htitle : ∀ c ∈ title, IsPlain c)
    (htitle' : '\n' ∉ title) (htail : tail.takeWhile Token.stays = [])
    (hcompact : IsCompact (lead ++ (bold name ++ (title ++ render tail)))) :
    ProperlyNested (richAlertBody
      (lead ++ (bold name ++ (title ++ render tail)))) ↔ '\n' ∉ name := by
  obtain ⟨tokens, hlex, hrender, hall, hnested⟩ := isCompact_tokens hcompact
  have hshape : lead ++ (bold name ++ (title ++ render tail)) =
      render (plainTokens lead hlead ++ ([.opening .b] ++
        (name.map escapeToken ++ ([.closing .b] ++
          (plainTokens title htitle ++ tail))))) := by
    simp only [render_append, render_plainTokens, bold, htmlEscape,
      List.append_assoc]
    rfl
  rw [hshape] at hlex ⊢
  obtain rfl := Option.some.inj ((lex_render _).symm.trans hlex)
  rw [properlyNested_richAlertBody hall hnested]
  exact nested_headline_name (plainTokens_line hlead hlead')
    (plainTokens_line htitle htitle') htail

end Heading

section Start

/-- A compact text that starts with no white space. -/
theorem dropWhile_start {tokens : List Token} {c : Char} {rest : Text}
    (htext : render tokens = c :: rest) (hspace : Go.isSpace c = false) :
    tokens.dropWhile Token.isSpace = tokens := by
  have hdrop := dropWhile_render tokens
  rw [htext, List.dropWhile_cons_of_neg (by simp [hspace]), ← htext] at hdrop
  have hlex := lex_render (tokens.dropWhile Token.isSpace)
  rw [← hdrop, lex_render] at hlex
  exact (Option.some.inj hlex).symm

variable (location : Location)

theorem compact_start (message : AlertMessage) :
    ∃ c rest, message.compact location = c :: rest ∧
      Go.isSpace c = false := by
  cases message with
  | down alert now =>
      have hmarker : ∃ c rest, nodeDownMarker alert.state = c :: rest ∧
          Go.isSpace c = false := by
        unfold nodeDownMarker
        split
        · exact ⟨'🟡', [], rfl, by decide⟩
        · exact ⟨'🔴', [], rfl, by decide⟩
      obtain ⟨c, rest, hc, hspace⟩ := hmarker
      obtain ⟨tail, hjoin, -⟩ := join_newline
        (nodeDownMarker alert.state ++ (" " : Text) ++ bold alert.proxy.name ++
          (" · " : Text) ++ htmlEscape (nodeDownTitle alert.state))
        (isCompact_nodeDownLines location alert now)
      refine ⟨c, rest ++ ((" " : Text) ++ bold alert.proxy.name ++
        (" · " : Text) ++ htmlEscape (nodeDownTitle alert.state) ++
          render tail), ?_, hspace⟩
      rw [AlertMessage.compact, formatNodeDown, hjoin, hc]
      simp only [List.append_assoc, List.cons_append]
  | group alerts now => exact ⟨'<', _, rfl, by decide⟩
  | mass incident now => exact ⟨'<', _, rfl, by decide⟩
  | recovery proxy latency previous recoveredAt =>
      exact ⟨'✅', _, rfl, by decide⟩

end Start

section Deliverable

variable (location : Location)

namespace AlertMessage

/-- The messages that are trimmed when they are built and again when they are
sent. -/
def trimmedTwice : AlertMessage → Bool
  | .down _ _ => false
  | .group _ _ => true
  | .mass _ _ => true
  | .recovery _ _ _ _ => false

/-- The name in the heading of a message with a rich body made of it. -/
def headingName : AlertMessage → Option Text
  | .down alert _ => some alert.proxy.name
  | .group _ _ => none
  | .mass _ _ => none
  | .recovery proxy _ _ _ => some proxy.name

/-- The tokens of the compact HTML, before it is trimmed. -/
def tokens (message : AlertMessage) : List Token :=
  (lex (message.compact location)).getD []

end AlertMessage

/-- Telegram takes the message, and what it shows is the alert. -/
structure Delivered (message : AlertMessage) : Prop where
  wellFormed : WellFormed (message.sent location)
  shown : ShownOf (visibleText (message.compact location))
    (visibleText (message.sent location))
  size : utf16Len (visibleText (message.sent location)) ≤ 4096
  rich : ∀ body ∈ message.richBody location, ProperlyNested body

/-- The message is shortened, or there is nothing for `strings.TrimSpace` to
take away that is not put there again. -/
def Untrimmed (tokens : List Token) : Prop :=
  Long (strip tokens) ∨ strip tokens = tokens ∨
    shortenedNote <:+ visible (strip tokens)

/-- The alerts the code can deliver. -/
structure Sendable (message : AlertMessage) : Prop where
  untrimmed : Untrimmed (message.tokens location)
  fits : Fits (strip (message.tokens location))
  settled : message.trimmedTwice → Settled (strip (message.tokens location))
  line : ∀ name ∈ message.headingName, '\n' ∉ name

/-- The compact tokens of a message, nested and without white space in
front. -/
theorem tokens_spec (message : AlertMessage) :
    render (message.tokens location) = message.compact location ∧
      (∀ token ∈ message.tokens location, token.compact) ∧
      Nested (message.tokens location) ∧
      (message.tokens location).dropWhile Token.isSpace =
        message.tokens location := by
  obtain ⟨tokens, hlex, hrender, hcompact, hnested⟩ :=
    isCompact_tokens (isCompact_compact location message)
  have htokens : message.tokens location = tokens := by
    rw [AlertMessage.tokens, hlex, Option.getD_some]
  obtain ⟨c, rest, htext, hspace⟩ := compact_start location message
  rw [htokens]
  exact ⟨hrender, hcompact, hnested,
    dropWhile_start (hrender.trans htext) hspace⟩

theorem visible_strip_front {tokens : List Token}
    (hfirst : tokens.dropWhile Token.isSpace = tokens) :
    visible (strip tokens) <+: visible tokens := by
  rw [strip, hfirst]
  obtain ⟨rest, hrest⟩ := List.rdropWhile_prefix Token.isSpace tokens
  conv_rhs => rw [← hrest]
  rw [visible_append]
  exact List.prefix_append _ _

/-- White space that is cut off is seen to be missing. -/
theorem strip_eq_of_visible {tokens : List Token}
    (hfirst : tokens.dropWhile Token.isSpace = tokens)
    (h : visible (strip tokens) = visible tokens) : strip tokens = tokens := by
  rw [strip, hfirst] at h ⊢
  have hsplit := @List.rdropWhile_append_rtakeWhile _ Token.isSpace tokens
  conv_rhs at h => rw [← hsplit, visible_append]
  have hnone : visible (tokens.rtakeWhile Token.isSpace) = [] :=
    List.self_eq_append_right.mp h
  have hspaces : tokens.rtakeWhile Token.isSpace = [] := by
    cases hcut : tokens.rtakeWhile Token.isSpace with
    | nil => rfl
    | cons token rest =>
        obtain ⟨c, rfl, -⟩ := text_space (List.mem_rtakeWhile_imp
          (hcut ▸ List.mem_cons_self : token ∈ tokens.rtakeWhile _))
        rw [hcut, visible_cons] at hnone
        cases hnone
  rw [hspaces, List.append_nil] at hsplit
  exact hsplit

/-- Trimmed once, the message shows itself or a first part and the note exactly
where no white space is lost. -/
theorem shownOf_shorten_strip {tokens : List Token} (hnested : Nested tokens)
    (hfirst : tokens.dropWhile Token.isSpace = tokens) :
    ShownOf (visible tokens) (visible (shorten (strip tokens))) ↔
      Untrimmed tokens := by
  have hnest : Nested (strip tokens) := (nest_strip [] tokens).trans hnested
  have hpre := visible_strip_front hfirst
  by_cases hlong : Long (strip tokens)
  · refine ⟨fun _ => .inl hlong, fun _ => .inr ⟨_, ?_,
      visible_shorten_long hlong⟩⟩
    exact (visible_headOf_front hnest (dropWhile_strip tokens) hlong).trans
      hpre
  · rw [shorten, if_neg hlong]
    constructor
    · rintro (hsame | ⟨front, -, hsame⟩)
      · exact .inr (.inl (strip_eq_of_visible hfirst hsame))
      · exact .inr (.inr ⟨front, hsame.symm⟩)
    · rintro (h | hsame | ⟨front, hfront⟩)
      · exact absurd h hlong
      · exact .inl (congrArg visible hsame)
      · refine .inr ⟨front, ?_, hfront.symm⟩
        exact (hfront ▸ List.prefix_append _ _ :
          front <+: visible (strip tokens)).trans hpre

theorem sent_trimmed (message : AlertMessage) :
    message.sent location =
      if message.trimmedTwice then
        trimHTMLMessage (trimHTMLMessage (message.compact location))
      else trimHTMLMessage (message.compact location) := by
  cases message with
  | down alert now => exact (if_neg Bool.false_ne_true).symm
  | group alerts now => exact (if_pos (Eq.refl true)).symm
  | mass incident now => exact (if_pos (Eq.refl true)).symm
  | recovery proxy latency previous recoveredAt =>
      exact (if_neg Bool.false_ne_true).symm

/-- The tokens that are sent. -/
theorem sent_eq (message : AlertMessage) :
    message.sent location = render
      (if message.trimmedTwice then
        shorten (shorten (strip (message.tokens location)))
      else shorten (strip (message.tokens location))) := by
  obtain ⟨hrender, hcompact, hnested, -⟩ := tokens_spec location message
  have honce := trimHTMLMessage_render hcompact hnested
  have hnest : Nested (strip (message.tokens location)) :=
    (nest_strip [] _).trans hnested
  have hstripped : ∀ token ∈ strip (message.tokens location),
      token.compact :=
    fun token h => hcompact token ((strip_sublist _).subset h)
  have htwice := trimHTMLMessage_render (compact_shorten hstripped hnest)
    (nested_shorten hnest)
  rw [strip_shorten hnest (strip_strip _), ← honce, hrender] at htwice
  rw [hrender] at honce
  rw [sent_trimmed]
  split
  · exact htwice
  · exact honce

theorem properlyNested_formatNodeDown (alert : NodeDownAlert) (now : Time) :
    ProperlyNested (richAlertBody (formatNodeDown location alert now)) ↔
      '\n' ∉ alert.proxy.name := by
  obtain ⟨tail, hjoin, htail⟩ := join_newline
    (nodeDownMarker alert.state ++ (" " : Text) ++ bold alert.proxy.name ++
      (" · " : Text) ++ htmlEscape (nodeDownTitle alert.state))
    (isCompact_nodeDownLines location alert now)
  have hlead : (∀ c ∈ nodeDownMarker alert.state ++ (" " : Text),
      IsPlain c) ∧ '\n' ∉ nodeDownMarker alert.state ++ (" " : Text) := by
    unfold nodeDownMarker
    split <;> simp [IsPlain]
  have hsame : htmlEscape (nodeDownTitle alert.state) =
      nodeDownTitle alert.state := by
    unfold nodeDownTitle
    split_ifs <;> decide
  have htitle : (∀ c ∈ (" · " : Text) ++ nodeDownTitle alert.state,
      IsPlain c) ∧ '\n' ∉ (" · " : Text) ++ nodeDownTitle alert.state := by
    unfold nodeDownTitle
    split_ifs <;> simp [IsPlain]
  have hshape : formatNodeDown location alert now =
      nodeDownMarker alert.state ++ (" " : Text) ++
        (bold alert.proxy.name ++ ((" · " : Text) ++
          nodeDownTitle alert.state ++ render tail)) := by
    rw [formatNodeDown, hjoin, hsame]
    simp only [List.append_assoc]
  have hcompact := isCompact_formatNodeDown location alert now
  rw [hshape] at hcompact ⊢
  exact properlyNested_heading hlead.1 hlead.2 htitle.1 htitle.2 htail hcompact

theorem properlyNested_formatNodeRecovery (proxy : ProxyConfig)
    (latency : Int) (previous : NodeAlertState) (recoveredAt : Time) :
    ProperlyNested (richAlertBody
      (formatNodeRecovery proxy latency previous recoveredAt)) ↔
        '\n' ∉ proxy.name := by
  have hlines := isCompact_recoveryRest latency previous recoveredAt
  have hcompact := isCompact_formatNodeRecovery proxy latency previous
    recoveredAt
  have htitle : ∃ title rest, recoveryRest latency previous recoveredAt =
      title :: rest ∧ (∀ c ∈ title, IsPlain c) ∧ '\n' ∉ title := by
    unfold recoveryRest
    split
    · exact ⟨_, _, rfl, by simp [IsPlain], by simp⟩
    · exact ⟨_, _, rfl, by simp [IsPlain], by simp⟩
  obtain ⟨title, rest, hrest, hplain, hline⟩ := htitle
  rw [hrest, List.forall_mem_cons] at hlines
  obtain ⟨tail, hjoin, htail⟩ := join_newline title hlines.2
  rw [formatNodeRecovery, hrest, hjoin, List.append_assoc] at hcompact ⊢
  exact properlyNested_heading (by simp [IsPlain]) (by simp) hplain hline htail
    hcompact

theorem rich_iff (message : AlertMessage) :
    (∀ body ∈ message.richBody location, ProperlyNested body) ↔
      ∀ name ∈ message.headingName, '\n' ∉ name := by
  cases message with
  | group alerts now =>
      simp [AlertMessage.richBody, AlertMessage.headingName]
  | mass incident now =>
      simp [AlertMessage.richBody, AlertMessage.headingName]
  | down alert now =>
      have hbody := properlyNested_formatNodeDown location alert now
      simpa [AlertMessage.richBody, AlertMessage.headingName] using hbody
  | recovery proxy latency previous recoveredAt =>
      have hbody := properlyNested_formatNodeRecovery proxy latency previous
        recoveredAt
      simpa [AlertMessage.richBody, AlertMessage.headingName] using hbody

/-- An alert is delivered exactly where it can be: it is not too long for its
astral runes, no white space stands where a list is cut, and the name in the
heading of a rich body is on one line. -/
theorem delivered_iff (message : AlertMessage) :
    Delivered location message ↔ Sendable location message := by
  obtain ⟨hrender, hcompact, hnested, hfirst⟩ := tokens_spec location message
  have hsent := sent_eq location message
  have hrich := rich_iff location message
  have hnest : Nested (strip (message.tokens location)) :=
    (nest_strip [] _).trans hnested
  have hstripped : ∀ token ∈ strip (message.tokens location),
      token.compact :=
    fun token h => hcompact token ((strip_sublist _).subset h)
  have hshown := shownOf_shorten_strip hnested hfirst
  have hsize := utf16Len_shorten hnest (dropWhile_strip _)
  by_cases honce : message.trimmedTwice →
      Settled (strip (message.tokens location))
  · -- One cut or two, the same is sent.
    have hsame : message.sent location =
        render (shorten (strip (message.tokens location))) := by
      rw [hsent]
      split
      next htwice =>
        rw [shorten_settled hnest (dropWhile_strip _) (honce htwice)]
      · rfl
    constructor
    · rintro ⟨-, hkept, hlength, hbody⟩
      rw [hsame, visibleText_render, ← hrender, visibleText_render] at hkept
      rw [hsame, visibleText_render] at hlength
      exact ⟨hshown.mp hkept, hsize.mp hlength, honce, hrich.mp hbody⟩
    · rintro ⟨hkept, hfits, -, hline⟩
      refine ⟨?_, ?_, ?_, hrich.mpr hline⟩
      · rw [hsame, wellFormed_render]
        exact ⟨compact_shorten hstripped hnest, nested_shorten hnest⟩
      · rw [hsame, visibleText_render, ← hrender, visibleText_render]
        exact hshown.mpr hkept
      · rw [hsame, visibleText_render]
        exact hsize.mpr hfits
  · rw [Classical.not_imp] at honce
    constructor
    · rintro ⟨-, hkept, -, -⟩
      rw [hsent, if_pos honce.1, visibleText_render, ← hrender,
        visibleText_render] at hkept
      exact absurd hkept (not_shownOf_twice hnest (dropWhile_strip _) honce.2
        (visible_strip_front hfirst))
    · rintro ⟨-, -, hsettled, -⟩
      exact absurd (hsettled honce.1) honce.2

/-- A recovery of a node whose name breaks has a heading closed inside its bold
tag. -/
theorem broken_name_not_delivered :
    ¬Delivered ⟨fun _ => [], fun _ => [], fun _ => []⟩
      (.recovery { name := "a\nb" } 0 {} 0) := by
  intro h
  exact absurd ((rich_iff _ _).mp h.rich _ rfl) (by simp)

end Deliverable

end XrayChecker.Telegram

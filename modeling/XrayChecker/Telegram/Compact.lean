import XrayChecker.Go.Decimal
import XrayChecker.Telegram.Alerts

/-
Every alert is compact HTML: what comes from outside is escaped, and each tag
is closed where it is opened.
-/

namespace XrayChecker.Telegram

open Go Checker Speedtest

/-- The text is made of compact tokens, all of whose tags are closed. -/
def IsCompact (text : Text) : Prop :=
  ∃ tokens, render tokens = text ∧ (∀ token ∈ tokens, token.compact) ∧
    Nested tokens

section Pieces

/-- The tokens of runes that stand for themselves. -/
def plainTokens (text : Text) (h : ∀ c ∈ text, IsPlain c) : List Token :=
  text.pmap (fun c hc => Token.plain ⟨c, hc⟩) h

theorem render_plainTokens (text : Text) (h : ∀ c ∈ text, IsPlain c) :
    render (plainTokens text h) = text := by
  induction text with
  | nil => rfl
  | cons c rest ih =>
      rw [List.forall_mem_cons] at h
      exact congrArg (c :: ·) (ih h.2)

theorem plainTokens_shape {text : Text} {h : ∀ c ∈ text, IsPlain c} :
    ∀ token ∈ plainTokens text h, ∃ c : Plain, token = .plain c ∧
      c.val ∈ text := by
  intro token htoken
  obtain ⟨c, hc, rfl⟩ := List.mem_pmap.mp htoken
  exact ⟨⟨c, h c hc⟩, rfl, hc⟩

theorem isCompact_plain {text : Text} (h : ∀ c ∈ text, IsPlain c) :
    IsCompact text := by
  refine ⟨plainTokens text h, render_plainTokens text h, ?_, nest_shown ?_⟩
  · intro token htoken
    obtain ⟨c, rfl, -⟩ := plainTokens_shape token htoken
    rfl
  · intro token htoken
    obtain ⟨c, rfl, -⟩ := plainTokens_shape token htoken
    rfl

/-- A text of the source itself. -/
theorem isCompact_const {text : Text}
    (h : text.all (fun c => decide (IsPlain c)) = true) : IsCompact text := by
  rw [List.all_eq_true] at h
  exact isCompact_plain fun c hc => of_decide_eq_true (h c hc)

theorem isCompact_nil : IsCompact [] :=
  ⟨[], rfl, fun _ h => absurd h List.not_mem_nil, rfl⟩

theorem IsCompact.append {left right : Text} (hleft : IsCompact left)
    (hright : IsCompact right) : IsCompact (left ++ right) := by
  obtain ⟨tokens, rfl, hcompact, hnested⟩ := hleft
  obtain ⟨others, rfl, hcompact', hnested'⟩ := hright
  refine ⟨tokens ++ others, render_append _ _, ?_, hnested.append hnested'⟩
  intro token htoken
  rcases List.mem_append.mp htoken with h | h
  · exact hcompact token h
  · exact hcompact' token h

theorem escapeToken_shown (c : Char) :
    (escapeToken c).compact ∧ (escapeToken c).shown.isSome := by
  unfold escapeToken
  split_ifs <;> exact ⟨rfl, rfl⟩

theorem escape_shown (value : Text) :
    ∀ token ∈ value.map escapeToken, token.shown.isSome := by
  intro token htoken
  obtain ⟨c, -, rfl⟩ := List.mem_map.mp htoken
  exact (escapeToken_shown c).2

theorem escape_compact (value : Text) :
    ∀ token ∈ value.map escapeToken, token.compact := by
  intro token htoken
  obtain ⟨c, -, rfl⟩ := List.mem_map.mp htoken
  exact (escapeToken_shown c).1

theorem isCompact_htmlEscape (value : Text) : IsCompact (htmlEscape value) :=
  ⟨value.map escapeToken, rfl, escape_compact value,
    nest_shown (escape_shown value)⟩

/-- A tag around a compact text. -/
theorem isCompact_inside {tag : Tag} (htag : tag = .b ∨ tag = .code)
    {text : Text} (h : IsCompact text) :
    IsCompact ((Token.opening tag).text ++ text ++
      (Token.closing tag).text) := by
  obtain ⟨tokens, rfl, hcompact, hnested⟩ := h
  refine ⟨[.opening tag] ++ tokens ++ [.closing tag], ?_, ?_, ?_⟩
  · simp [render]
  · intro token htoken
    simp only [List.mem_append, List.mem_singleton] at htoken
    rcases htoken with (rfl | h) | rfl
    · exact decide_eq_true htag
    · exact hcompact token h
    · exact decide_eq_true htag
  · rw [Nested, List.append_assoc, nest_append]
    change nest [tag] _ = _
    rw [nest_append, hnested.inside]
    change (if tag = tag then some [] else none) = _
    rw [if_pos rfl]

theorem isCompact_bold (value : Text) : IsCompact (bold value) :=
  isCompact_inside (.inl rfl) (isCompact_htmlEscape value)

theorem isCompact_htmlCode (value : Text) : IsCompact (htmlCode value) :=
  isCompact_inside (.inr rfl) (isCompact_htmlEscape value)

theorem isPlain_itoa (n : Nat) : ∀ c ∈ itoa n, IsPlain c := by
  intro c hc
  refine ⟨?_, ?_, ?_⟩ <;> rintro rfl <;>
    exact not_mem_itoa (by decide) n hc

theorem isPlain_itoaInt (n : Int) : ∀ c ∈ itoaInt n, IsPlain c := by
  rw [itoaInt]
  split
  · rw [List.forall_mem_cons]
    exact ⟨by decide, isPlain_itoa _⟩
  · exact isPlain_itoa _

theorem isCompact_itoaInt (n : Int) : IsCompact (itoaInt n) :=
  isCompact_plain (isPlain_itoaInt n)

theorem isCompact_join {parts : List Text} {separator : Text}
    (hparts : ∀ part ∈ parts, IsCompact part)
    (hseparator : IsCompact separator) : IsCompact (join parts separator) := by
  induction parts with
  | nil => exact isCompact_nil
  | cons part rest ih =>
      rw [List.forall_mem_cons] at hparts
      cases rest with
      | nil => simpa [join] using hparts.1
      | cons next others =>
          rw [join, List.intercalate_cons_cons]
          exact (hparts.1.append hseparator).append (ih hparts.2)

theorem isCompact_nonEmpty {line : Text} (h : IsCompact line) :
    ∀ part ∈ nonEmpty line, IsCompact part := by
  rw [nonEmpty]
  split
  · exact fun _ h => absurd h List.not_mem_nil
  · intro part hpart
    exact List.mem_singleton.mp hpart ▸ h

theorem isCompact_ite {p : Prop} [Decidable p] {left right : Text}
    (hleft : IsCompact left) (hright : IsCompact right) :
    IsCompact (if p then left else right) := by
  split
  · exact hleft
  · exact hright

theorem forall_mem_ite {p : Prop} [Decidable p] {left right : List Text}
    (hleft : ∀ part ∈ left, IsCompact part)
    (hright : ∀ part ∈ right, IsCompact part) :
    ∀ part ∈ if p then left else right, IsCompact part := by
  split
  · exact hleft
  · exact hright

theorem forall_mem_append {left right : List Text}
    (hleft : ∀ part ∈ left, IsCompact part)
    (hright : ∀ part ∈ right, IsCompact part) :
    ∀ part ∈ left ++ right, IsCompact part :=
  List.forall_mem_append.mpr ⟨hleft, hright⟩

theorem forall_mem_single {part : Text} (h : IsCompact part) :
    ∀ other ∈ [part], IsCompact other := by
  intro other hother
  exact List.mem_singleton.mp hother ▸ h

theorem forall_mem_none : ∀ part ∈ ([] : List Text), IsCompact part :=
  fun _ h => absurd h List.not_mem_nil

end Pieces

section Evidence

theorem isCompact_milliseconds (latency : Int) :
    IsCompact (milliseconds latency) :=
  (isCompact_itoaInt _).append (isCompact_const (by simp [IsPlain]))

theorem isCompact_formatTCPCheckHTML (hostCheck : HostCheckDetails) :
    IsCompact (formatTCPCheckHTML hostCheck) :=
  isCompact_ite
    (isCompact_ite
      ((isCompact_const (by simp [IsPlain])).append (isCompact_milliseconds _))
      (isCompact_const (by simp [IsPlain])))
    (isCompact_const (by simp [IsPlain]))

theorem isCompact_formatPingCheckHTML (pingCheck : PingCheckDetails) :
    IsCompact (formatPingCheckHTML pingCheck) :=
  isCompact_ite
    (isCompact_ite
      ((isCompact_const (by simp [IsPlain])).append (isCompact_milliseconds _))
      (isCompact_const (by simp [IsPlain])))
    (isCompact_const (by simp [IsPlain]))

theorem isCompact_formatHostDiagnosticsHTML (hostCheck : HostCheckDetails)
    (pingCheck : PingCheckDetails) :
    IsCompact (formatHostDiagnosticsHTML hostCheck pingCheck) :=
  isCompact_join
    (forall_mem_append
      (forall_mem_ite
        (forall_mem_single (isCompact_formatTCPCheckHTML hostCheck))
        forall_mem_none)
      (forall_mem_ite
        (forall_mem_single (isCompact_formatPingCheckHTML pingCheck))
        forall_mem_none))
    (isCompact_const (by simp [IsPlain]))

theorem isCompact_formatFailureHTML (failure : FailureDetails) :
    IsCompact (formatFailureHTML failure) :=
  isCompact_ite isCompact_nil
    (((isCompact_const (by simp [IsPlain])).append (isCompact_bold _)).append
      (isCompact_ite isCompact_nil
        ((isCompact_const (by simp [IsPlain])).append (isCompact_htmlCode _))))

theorem isCompact_formatAvailabilityAgentHTML (agent : Option AgentAnswer) :
    IsCompact (formatAvailabilityAgentHTML agent) := by
  cases agent with
  | none => exact isCompact_nil
  | some agent =>
      exact ((isCompact_bold _).append
        (isCompact_const (by simp [IsPlain]))).append (isCompact_htmlEscape _)

variable (location : Location)

theorem isCompact_formatNodeAgentDiagnosticHTML (agent : Option AgentAnswer) :
    IsCompact (formatNodeAgentDiagnosticHTML location agent) :=
  isCompact_ite isCompact_nil
    (isCompact_ite (isCompact_formatAvailabilityAgentHTML agent)
      (((isCompact_formatAvailabilityAgentHTML agent).append
        (isCompact_const (by simp [IsPlain]))).append
          (isCompact_htmlEscape _)))

theorem isCompact_formatPanelStatusHTML (panel : Option PanelView) :
    IsCompact (formatPanelStatusHTML panel) := by
  cases panel with
  | none => exact isCompact_nil
  | some view =>
      refine IsCompact.append ?_ (isCompact_htmlEscape _)
      exact ⟨[.opening .b] ++ ("Панель" : Text).map escapeToken ++
        [.closing .b] ++ (": " : Text).map escapeToken, by decide,
        by decide, by decide⟩

theorem isCompact_durationLabel (state : NodeAlertState) :
    IsCompact (durationLabel state) :=
  isCompact_ite (isCompact_const (by simp [IsPlain]))
    (isCompact_const (by simp [IsPlain]))

theorem isCompact_nodeDownMarker (state : NodeAlertState) :
    IsCompact (nodeDownMarker state) :=
  isCompact_ite (isCompact_const (by simp [IsPlain]))
    (isCompact_const (by simp [IsPlain]))

theorem isCompact_nodeDownLines (alert : NodeDownAlert) (now : Time) :
    ∀ line ∈ nodeDownLines location alert now, IsCompact line := by
  refine forall_mem_append (forall_mem_append (forall_mem_append
    (forall_mem_append (forall_mem_append ?_
      (isCompact_nonEmpty (isCompact_formatFailureHTML _))) ?_)
    (isCompact_nonEmpty (isCompact_formatNodeAgentDiagnosticHTML _ _)))
    (isCompact_nonEmpty (isCompact_formatPanelStatusHTML _))) ?_
  · refine forall_mem_ite forall_mem_none ?_
    rw [List.forall_mem_cons]
    refine ⟨isCompact_htmlEscape _, forall_mem_single ?_⟩
    exact ((((isCompact_ite (isCompact_const (by simp [IsPlain]))
      (isCompact_const (by simp [IsPlain]))).append
        (isCompact_const (by simp [IsPlain]))).append
          (isCompact_bold _)).append
            (isCompact_const (by simp [IsPlain]))).append
              (isCompact_htmlEscape _)
  · exact forall_mem_single (isCompact_ite
      (isCompact_const (by simp [IsPlain]))
      (isCompact_formatHostDiagnosticsHTML _ _))
  · exact forall_mem_ite (forall_mem_single
      ((isCompact_const (by simp [IsPlain])).append (isCompact_bold _)))
      forall_mem_none

theorem isCompact_flatMap {lines : List Text} {lead : Text}
    (hlead : IsCompact lead) (h : ∀ line ∈ lines, IsCompact line) :
    IsCompact (lines.flatMap fun line => lead ++ line) := by
  induction lines with
  | nil => exact isCompact_nil
  | cons line rest ih =>
      rw [List.forall_mem_cons] at h
      exact (hlead.append h.1).append (ih h.2)

end Evidence

section Alerts

variable (location : Location)

/-- A heading of the source in bold. -/
theorem isCompact_boldConst {text : Text}
    (h : text.all (fun c => decide (IsPlain c)) = true) :
    IsCompact (("<b>" : Text) ++ text ++ ("</b>" : Text)) :=
  isCompact_inside (.inl rfl) (isCompact_const h)

theorem isCompact_affected (n : Nat) (total : Int) :
    IsCompact (("Затронуто: <b>" : Text) ++ itoa n ++ (" из " : Text) ++
      itoaInt total ++ ("</b>" : Text)) := by
  have hcount : IsCompact (("<b>" : Text) ++
      (itoa n ++ (" из " : Text) ++ itoaInt total) ++ ("</b>" : Text)) :=
    isCompact_inside (.inl rfl) (((isCompact_plain (isPlain_itoa n)).append
      (isCompact_const (by simp [IsPlain]))).append (isCompact_itoaInt total))
  have hlead : ("Затронуто: <b>" : Text) =
      ("Затронуто: " : Text) ++ ("<b>" : Text) := by
    decide
  have hcaption : IsCompact ("Затронуто: " : Text) :=
    isCompact_const (by simp [IsPlain])
  have hwhole := hcaption.append hcount
  rw [hlead]
  simpa only [List.append_assoc] using hwhole

theorem isCompact_troubled (n : Nat) :
    IsCompact (("<b>⚠️ Проблемы у " : Text) ++ itoa n ++
      (" нод</b>" : Text)) := by
  have hcount : IsCompact (("<b>" : Text) ++
      (("⚠️ Проблемы у " : Text) ++ itoa n ++ (" нод" : Text)) ++
      ("</b>" : Text)) :=
    isCompact_inside (.inl rfl) (((isCompact_const (by simp [IsPlain])).append
      (isCompact_plain (isPlain_itoa n))).append
      (isCompact_const (by simp [IsPlain])))
  have hlead : ("<b>⚠️ Проблемы у " : Text) =
      ("<b>" : Text) ++ ("⚠️ Проблемы у " : Text) := by
    decide
  have htail : (" нод</b>" : Text) = (" нод" : Text) ++ ("</b>" : Text) := by
    decide
  rw [hlead, htail]
  simpa only [List.append_assoc] using hcount

theorem isCompact_massHeading :
    IsCompact "<b>🚨 Массовый сбой нод</b>".toList := by
  have hsplit : "<b>🚨 Массовый сбой нод</b>".toList =
      ("<b>" : Text) ++ ("🚨 Массовый сбой нод" : Text) ++
        ("</b>" : Text) := by
    decide
  rw [hsplit]
  exact isCompact_boldConst (by simp [IsPlain])

theorem isCompact_newline : IsCompact ("\n" : Text) :=
  isCompact_const (by simp [IsPlain])

theorem isCompact_dot : IsCompact (" · " : Text) :=
  isCompact_const (by simp [IsPlain])

theorem isCompact_formatNodeDown (alert : NodeDownAlert) (now : Time) :
    IsCompact (formatNodeDown location alert now) := by
  refine isCompact_join ?_ isCompact_newline
  rw [List.forall_mem_cons]
  exact ⟨(((((isCompact_nodeDownMarker _).append
    (isCompact_const (by simp [IsPlain]))).append (isCompact_bold _)).append
      isCompact_dot).append (isCompact_htmlEscape _)),
    isCompact_nodeDownLines location alert now⟩

/-- The agent's answer and the panel's behind a node. -/
theorem isCompact_answers (alert : NodeDownAlert) :
    ∀ line ∈ nonEmpty (formatNodeAgentDiagnosticHTML location alert.agent) ++
      nonEmpty (formatPanelStatusHTML alert.panel), IsCompact line :=
  forall_mem_append
    (isCompact_nonEmpty (isCompact_formatNodeAgentDiagnosticHTML _ _))
    (isCompact_nonEmpty (isCompact_formatPanelStatusHTML _))

theorem isCompact_massNodeDown (group : NodeDownIncidentGroup) (now : Time) :
    IsCompact (massNodeDown location group now) := by
  refine isCompact_join (forall_mem_append ?_ ?_) isCompact_newline
  · simp only [List.forall_mem_cons]
    refine ⟨isCompact_massHeading, ?_, isCompact_affected _ _, ?_,
      isCompact_nil, forall_mem_none⟩
    · exact (isCompact_const (by simp [IsPlain])).append (isCompact_bold _)
    · exact (((isCompact_const (by simp [IsPlain])).append
        (isCompact_bold _)).append isCompact_dot).append
          (isCompact_htmlCode _)
  · intro line hline
    obtain ⟨alert, -, rfl⟩ := List.mem_map.mp hline
    refine IsCompact.append ?_
      (isCompact_flatMap isCompact_dot (isCompact_answers location alert))
    exact ((((((isCompact_const (by simp [IsPlain])).append
      (isCompact_nodeDownMarker _)).append
        (isCompact_const (by simp [IsPlain]))).append
          (isCompact_bold _)).append isCompact_dot).append
            (isCompact_durationLabel _)).append
              (isCompact_const (by simp [IsPlain])) |>.append
                (isCompact_htmlEscape _)

theorem isCompact_nodeDownGroup (alerts : List NodeDownAlert) (now : Time) :
    IsCompact (nodeDownGroup location alerts now) := by
  refine isCompact_join (forall_mem_append ?_ ?_) isCompact_newline
  · simp only [List.forall_mem_cons]
    exact ⟨isCompact_troubled _, isCompact_nil, forall_mem_none⟩
  · intro line hline
    obtain ⟨alert, -, rfl⟩ := List.mem_map.mp hline
    refine (((isCompact_const (by simp [IsPlain])).append
      (isCompact_bold _)).append (isCompact_const (by simp [IsPlain]))).append
        (isCompact_join ?_ isCompact_dot)
    refine forall_mem_append (forall_mem_append (forall_mem_append
      (forall_mem_append ?_ ?_) ?_)
      (isCompact_nonEmpty (isCompact_formatNodeAgentDiagnosticHTML _ _)))
      (isCompact_nonEmpty (isCompact_formatPanelStatusHTML _))
    · exact forall_mem_single (((isCompact_durationLabel _).append
        (isCompact_const (by simp [IsPlain]))).append
          (isCompact_htmlEscape _))
    · exact forall_mem_ite forall_mem_none (forall_mem_single
        ((isCompact_const (by simp [IsPlain])).append
          (isCompact_htmlEscape _)))
    · exact forall_mem_single (isCompact_ite
        (isCompact_const (by simp [IsPlain]))
        (isCompact_formatHostDiagnosticsHTML _ _))

theorem isCompact_recoveryRest (latency : Int) (previous : NodeAlertState)
    (recoveredAt : Time) :
    ∀ line ∈ recoveryRest latency previous recoveredAt, IsCompact line := by
  refine forall_mem_ite ?_ (forall_mem_append ?_ ?_)
  · simp only [List.forall_mem_cons]
    exact ⟨isCompact_const (by simp [IsPlain]),
      (((isCompact_const (by simp [IsPlain])).append (isCompact_bold _)).append
        (isCompact_const (by simp [IsPlain]))).append (isCompact_htmlEscape _),
      forall_mem_none⟩
  · simp only [List.forall_mem_cons]
    exact ⟨isCompact_const (by simp [IsPlain]),
      (isCompact_const (by simp [IsPlain])).append (isCompact_bold _),
      forall_mem_none⟩
  · exact forall_mem_ite forall_mem_none (forall_mem_single
      ((isCompact_const (by simp [IsPlain])).append (isCompact_bold _)))

theorem isCompact_formatNodeRecovery (proxy : ProxyConfig) (latency : Int)
    (previous : NodeAlertState) (recoveredAt : Time) :
    IsCompact (formatNodeRecovery proxy latency previous recoveredAt) :=
  ((isCompact_const (by simp [IsPlain])).append (isCompact_bold _)).append
    (isCompact_join (isCompact_recoveryRest latency previous recoveredAt)
      isCompact_newline)

/-- What an alert shows from outside cannot break its markup. -/
theorem isCompact_compact (message : AlertMessage) :
    IsCompact (message.compact location) := by
  cases message with
  | down alert now => exact isCompact_formatNodeDown location alert now
  | group alerts now => exact isCompact_nodeDownGroup location alerts now
  | mass incident now => exact isCompact_massNodeDown location incident now
  | recovery proxy latency previous recoveredAt =>
      exact isCompact_formatNodeRecovery proxy latency previous recoveredAt

end Alerts

end XrayChecker.Telegram

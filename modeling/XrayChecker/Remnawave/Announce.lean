import XrayChecker.Remnawave.Types

/-
The announce value: which operator texts the checker can build on, how a
status message is joined to one, and how a joined value is taken apart again.
-/

namespace XrayChecker.Remnawave

open Go

/-- The checks a text must pass before subscribers may see it. -/
def validateDisplayText (name value : Text) (maxRunes : Nat) :
    Except Text Unit := do
  reject (containsAny value "\r\n") (name ++ " must not contain line breaks")
  reject (contains value "\x7b\x7b" || contains value "\x7d\x7d")
    (name ++ " must not contain Remnawave template delimiters")
  reject (contains (toLower value) "http://" ||
      contains (toLower value) "https://")
    (name ++ " must not contain URLs")
  reject (maxRunes < runeCount value)
    (name ++ " must not exceed " ++ itoa maxRunes ++ " characters")

def invalidIdentifier (value : Text) : Bool :=
  value == [] || 128 < byteLen value || containsAny value "\r\n\t "

def isManagedBaseAnnounce (value : Text) : Bool :=
  byteLen announceValuePrefix < byteLen value &&
    byteLen value ≤ maxBaseAnnounceBytes &&
    hasPrefix value announceValuePrefix &&
    !contains value "\x00" && !contains value "\r"

def isAppendableBaseAnnounce (value : Text) : Bool :=
  isManagedBaseAnnounce value && !containsAny value "\r\n"

/-- `composeManagedAnnounce`. -/
def composeManagedAnnounce (basePresent : Bool) (baseValue message : Text) :
    Text :=
  if message = [] then (if basePresent then baseValue else [])
  else if basePresent then baseValue ++ '\n' :: message
  else announceValuePrefix ++ message

/-- `splitKnownManagedAnnounce`: the base under a recognised message. -/
def splitKnownManagedAnnounce (value : Text) :
    List Text → Option (Bool × Text)
  | [] => none
  | message :: messages =>
      if message = [] then splitKnownManagedAnnounce value messages
      else if value = announceValuePrefix ++ message then some (false, [])
      else if hasSuffix value ('\n' :: message) &&
          isManagedBaseAnnounce (trimSuffix value ('\n' :: message)) then
        some (true, trimSuffix value ('\n' :: message))
      else splitKnownManagedAnnounce value messages

/-- What `validateDisplayText` accepts. -/
structure Displayable (value : Text) (maxRunes : Nat) : Prop where
  oneLine : containsAny value "\r\n" = false
  noDelimiters :
    (contains value "\x7b\x7b" || contains value "\x7d\x7d") = false
  noURL : (contains (toLower value) "http://" ||
    contains (toLower value) "https://") = false
  short : runeCount value ≤ maxRunes

theorem validateDisplayText_eq_ok {name value : Text} {maxRunes : Nat}
    {u : Unit} :
    validateDisplayText name value maxRunes = .ok u ↔
      Displayable value maxRunes := by
  simp only [validateDisplayText, bind_unit_eq_ok, reject_eq_ok,
    decide_eq_false_iff_not, Nat.not_lt]
  constructor
  · rintro ⟨hline, hdelimiters, hurl, hshort⟩
    exact ⟨hline, hdelimiters, hurl, hshort⟩
  · rintro ⟨hline, hdelimiters, hurl, hshort⟩
    exact ⟨hline, hdelimiters, hurl, hshort⟩

theorem displayable_nil (maxRunes : Nat) : Displayable [] maxRunes where
  oneLine := rfl
  noDelimiters := rfl
  noURL := rfl
  short := Nat.zero_le _

namespace Displayable

variable {value : Text} {maxRunes : Nat}

theorem not_mem_newline (h : Displayable value maxRunes) : '\n' ∉ value :=
  fun hmem => containsAny_eq_false_iff.mp h.oneLine _ hmem (by simp)

end Displayable

theorem isManagedBaseAnnounce_iff {value : Text} :
    isManagedBaseAnnounce value = true ↔
      byteLen announceValuePrefix < byteLen value ∧
        byteLen value ≤ maxBaseAnnounceBytes ∧
        hasPrefix value announceValuePrefix = true ∧
        contains value "\x00" = false ∧ contains value "\r" = false := by
  simp [isManagedBaseAnnounce, and_assoc]

theorem isAppendableBaseAnnounce_iff {value : Text} :
    isAppendableBaseAnnounce value = true ↔
      isManagedBaseAnnounce value = true ∧ '\n' ∉ value := by
  rw [isAppendableBaseAnnounce, Bool.and_eq_true, Bool.not_eq_true',
    containsAny_eq_false_iff]
  constructor
  · rintro ⟨hmanaged, hline⟩
    exact ⟨hmanaged, fun hmem => hline _ hmem (by simp)⟩
  · rintro ⟨hmanaged, hline⟩
    refine ⟨hmanaged, fun c hc hbreak => ?_⟩
    have hreturn : '\r' ∉ value := by
      have := (isManagedBaseAnnounce_iff.mp hmanaged).2.2.2.2
      intro hmem
      exact absurd (contains_singleton.mpr hmem) (by simpa using this)
    rcases List.mem_cons.mp hbreak with rfl | hbreak
    · exact hreturn hc
    · rw [List.mem_singleton.mp hbreak] at hc
      exact hline hc

@[simp] theorem composeManagedAnnounce_nil (present : Bool) (base : Text) :
    composeManagedAnnounce present base [] = if present then base else [] := by
  simp [composeManagedAnnounce]

theorem composeManagedAnnounce_base {base message : Text}
    (h : message ≠ []) :
    composeManagedAnnounce true base message = base ++ '\n' :: message := by
  simp [composeManagedAnnounce, h]

theorem composeManagedAnnounce_none {base message : Text}
    (h : message ≠ []) :
    composeManagedAnnounce false base message =
      announceValuePrefix ++ message := by
  simp [composeManagedAnnounce, h]

/-- Two values that end in a line each have the same last line only if they
are the same text before it. -/
theorem append_line_inj {base base' message message' : Text}
    (hmessage : '\n' ∉ message) (hmessage' : '\n' ∉ message')
    (h : base ++ '\n' :: message = base' ++ '\n' :: message') :
    base = base' ∧ message = message' := by
  rcases List.append_eq_append_iff.mp h with
    ⟨middle, hbase, htail⟩ | ⟨middle, hbase, htail⟩
  · cases middle with
    | nil =>
        rw [List.append_nil] at hbase
        exact ⟨hbase.symm, (List.cons.inj htail).2⟩
    | cons c rest =>
        have hrest : message = rest ++ '\n' :: message' := by
          simpa using (List.cons.inj htail).2
        exact absurd (by simp [hrest]) hmessage
  · cases middle with
    | nil =>
        rw [List.append_nil] at hbase
        exact ⟨hbase, (List.cons.inj htail).2.symm⟩
    | cons c rest =>
        have hrest : message' = rest ++ '\n' :: message := by
          simpa using (List.cons.inj htail).2
        exact absurd (by simp [hrest]) hmessage'

/-- A recognised value is a base the checker can build on, or none, under one
of the messages. -/
theorem splitKnownManagedAnnounce_sound {value : Text} {messages : List Text}
    {known : Bool × Text}
    (h : splitKnownManagedAnnounce value messages = some known) :
    ∃ message ∈ messages, message ≠ [] ∧
      value = composeManagedAnnounce known.1 known.2 message ∧
      (known = (false, []) ∨
        known.1 = true ∧ isManagedBaseAnnounce known.2 = true) := by
  induction messages with
  | nil => simp [splitKnownManagedAnnounce] at h
  | cons message rest ih =>
      have hlater (hrest : splitKnownManagedAnnounce value rest = some known) :
          ∃ m ∈ message :: rest, m ≠ [] ∧
            value = composeManagedAnnounce known.1 known.2 m ∧
            (known = (false, []) ∨
              known.1 = true ∧ isManagedBaseAnnounce known.2 = true) := by
        obtain ⟨m, hm, hfacts⟩ := ih hrest
        exact ⟨m, List.mem_cons_of_mem _ hm, hfacts⟩
      rw [splitKnownManagedAnnounce] at h
      split at h
      · exact hlater h
      · rename_i hmessage
        split at h
        · rename_i hvalue
          obtain rfl := Option.some.inj h
          exact ⟨message, List.mem_cons_self, hmessage,
            by rw [composeManagedAnnounce_none hmessage, hvalue], .inl rfl⟩
        · split at h
          · rename_i hsuffix
            rw [Bool.and_eq_true] at hsuffix
            obtain rfl := Option.some.inj h
            obtain ⟨base, hbase⟩ := hasSuffix_iff.mp hsuffix.1
            have htrim : trimSuffix value ('\n' :: message) = base := by
              rw [hbase, trimSuffix_append]
            refine ⟨message, List.mem_cons_self, hmessage, ?_, .inr
              ⟨rfl, hsuffix.2⟩⟩
            change value = composeManagedAnnounce true
              (trimSuffix value ('\n' :: message)) message
            rw [htrim, composeManagedAnnounce_base hmessage, hbase]
          · exact hlater h

/-- A value that is some text over one of the messages is recognised. -/
theorem splitKnownManagedAnnounce_isSome {base message : Text}
    {messages : List Text} (hbase : isManagedBaseAnnounce base = true)
    (hmem : message ∈ messages) (hmessage : message ≠ []) :
    (splitKnownManagedAnnounce (base ++ '\n' :: message) messages).isSome := by
  induction messages with
  | nil => cases hmem
  | cons head rest ih =>
      rw [splitKnownManagedAnnounce]
      rcases List.mem_cons.mp hmem with rfl | hrest
      · rw [if_neg hmessage]
        split_ifs with hnone hsuffix
        · rfl
        · rfl
        · rw [hasSuffix_append, trimSuffix_append, hbase] at hsuffix
          exact absurd rfl hsuffix
      · split_ifs
        · exact ih hrest
        · rfl
        · rfl
        · exact ih hrest

/-- The value a message makes with a base starts as every announce value
does. -/
theorem hasPrefix_composeManagedAnnounce {present : Bool}
    {base message : Text} (hmessage : message ≠ [])
    (hbase : present = true → isManagedBaseAnnounce base = true) :
    hasPrefix (composeManagedAnnounce present base message)
      announceValuePrefix = true := by
  cases present with
  | false =>
      rw [composeManagedAnnounce_none hmessage]
      exact hasPrefix_append _ _
  | true =>
      rw [composeManagedAnnounce_base hmessage]
      obtain ⟨rest, hrest⟩ := hasPrefix_iff.mp
        (isManagedBaseAnnounce_iff.mp (hbase rfl)).2.2.1
      rw [hrest, List.append_assoc]
      exact hasPrefix_append _ _

end XrayChecker.Remnawave

import XrayChecker.Go.Decimal

/-
JSON as `encoding/json` writes it.  What is written can be told apart: two
values with one rendering are the same.
-/

namespace Go

/-- A JSON value; the members of an object in the order they are written. -/
inductive Json where
  | null
  | bool (value : Bool)
  | int (value : Int)
  | str (value : Text)
  | arr (items : List Json)
  | obj (members : List (Text × Json))

section Strings

/-- The escapes of one letter. -/
def shortEscape (c : Char) : Option Char :=
  if c = '"' then some '"'
  else if c = '\\' then some '\\'
  else if c = Char.ofNat 8 then some 'b'
  else if c = Char.ofNat 12 then some 'f'
  else if c = '\n' then some 'n'
  else if c = '\r' then some 'r'
  else if c = '\t' then some 't'
  else none

def hexDigit (n : Nat) : Char :=
  ("0123456789abcdef".toList)[n]?.getD '0'

/-- The runes written by their number: the other control characters, and those
that are special in HTML and JavaScript. -/
def numbered (c : Char) : Bool :=
  c.toNat < 32 || c = '<' || c = '>' || c = '&' || c.toNat = 0x2028 ||
    c.toNat = 0x2029

def escapeRune (c : Char) : Text :=
  match shortEscape c with
  | some letter => ['\\', letter]
  | none =>
      if numbered c then
        ['\\', 'u', hexDigit (c.toNat / 4096 % 16),
          hexDigit (c.toNat / 256 % 16), hexDigit (c.toNat / 16 % 16),
          hexDigit (c.toNat % 16)]
      else [c]

/-- A string in quotes. -/
def quote (s : Text) : Text :=
  '"' :: s.flatMap escapeRune ++ ['"']

end Strings

mutual

/-- `json.Marshal`. -/
def Json.render : Json → Text
  | .null => ['n', 'u', 'l', 'l']
  | .bool true => ['t', 'r', 'u', 'e']
  | .bool false => ['f', 'a', 'l', 's', 'e']
  | .int value => itoaInt value
  | .str value => quote value
  | .arr items => '[' :: renderItems items
  | .obj members => '{' :: renderMembers members

/-- The items of an array and the closing bracket, each item after the first
behind a comma. -/
def renderItems : List Json → Text
  | [] => [']']
  | item :: rest => item.render ++ renderMoreItems rest

def renderMoreItems : List Json → Text
  | [] => [']']
  | item :: rest => ',' :: (item.render ++ renderMoreItems rest)

/-- The members of an object and the closing brace. -/
def renderMembers : List (Text × Json) → Text
  | [] => ['}']
  | (name, value) :: rest =>
      quote name ++ ':' :: (value.render ++ renderMoreMembers rest)

def renderMoreMembers : List (Text × Json) → Text
  | [] => ['}']
  | (name, value) :: rest =>
      ',' :: (quote name ++ ':' :: (value.render ++ renderMoreMembers rest))

end

section Quoted

theorem hexDigit_injective : ∀ a < 16, ∀ b < 16,
    hexDigit a = hexDigit b → a = b := by
  decide

/-- The rune a short escape stands for. -/
def letterRune (letter : Char) : Char :=
  if letter = 'b' then Char.ofNat 8
  else if letter = 'f' then Char.ofNat 12
  else if letter = 'n' then '\n'
  else if letter = 'r' then '\r'
  else if letter = 't' then '\t'
  else letter

theorem letterRune_shortEscape {c letter : Char}
    (h : shortEscape c = some letter) :
    letterRune letter = c ∧ letter ≠ 'u' := by
  unfold shortEscape at h
  split_ifs at h <;> obtain rfl := Option.some.inj h <;>
    exact ⟨by rename_i hc; rw [hc]; decide, by decide⟩

/-- The three ways a rune is written. -/
theorem escapeRune_cases (c : Char) :
    (∃ letter, escapeRune c = ['\\', letter] ∧ letterRune letter = c ∧
      letter ≠ 'u') ∨
    (escapeRune c = ['\\', 'u', hexDigit (c.toNat / 4096 % 16),
      hexDigit (c.toNat / 256 % 16), hexDigit (c.toNat / 16 % 16),
      hexDigit (c.toNat % 16)] ∧ c.toNat < 65536) ∨
    (escapeRune c = [c] ∧ c ≠ '\\' ∧ c ≠ '"') := by
  unfold escapeRune
  cases hshort : shortEscape c with
  | some letter => exact Or.inl ⟨letter, rfl, letterRune_shortEscape hshort⟩
  | none =>
      by_cases hnumbered : numbered c = true
      · refine Or.inr (Or.inl ⟨if_pos hnumbered, ?_⟩)
        simp only [numbered, Bool.or_eq_true, decide_eq_true_eq] at hnumbered
        rcases hnumbered with ((((h | rfl) | rfl) | rfl) | h) | h
        · omega
        · decide
        · decide
        · decide
        · omega
        · omega
      · refine Or.inr (Or.inr ⟨if_neg hnumbered, ?_, ?_⟩)
        · rintro rfl
          cases hshort
        · rintro rfl
          cases hshort

theorem escapeRune_cancel {c d : Char} {r s : Text}
    (h : escapeRune c ++ r = escapeRune d ++ s) : c = d ∧ r = s := by
  rcases escapeRune_cases c with ⟨e, hc, hce, hcu⟩ | ⟨hc, hcn⟩ | ⟨hc, hcs, -⟩
  · rcases escapeRune_cases d with ⟨f, hd, hdf, -⟩ | ⟨hd, -⟩ | ⟨hd, hds, -⟩
    · rw [hc, hd] at h
      obtain ⟨rfl, hrest⟩ := List.cons.inj (List.cons.inj h).2
      exact ⟨hce.symm.trans hdf, hrest⟩
    · rw [hc, hd] at h
      exact absurd (List.cons.inj (List.cons.inj h).2).1 hcu
    · rw [hc, hd] at h
      exact absurd (List.cons.inj h).1.symm hds
  · rcases escapeRune_cases d with ⟨f, hd, -, hdu⟩ | ⟨hd, hdn⟩ | ⟨hd, hds, -⟩
    · rw [hc, hd] at h
      exact absurd (List.cons.inj (List.cons.inj h).2).1.symm hdu
    · rw [hc, hd] at h
      simp only [List.cons_append, List.nil_append, List.cons.injEq,
        true_and] at h
      obtain ⟨h3, h2, h1, h0, hrest⟩ := h
      have hlt : ∀ n : Nat, n % 16 < 16 := fun n => Nat.mod_lt n (by omega)
      have hn3 := hexDigit_injective _ (hlt _) _ (hlt _) h3
      have hn2 := hexDigit_injective _ (hlt _) _ (hlt _) h2
      have hn1 := hexDigit_injective _ (hlt _) _ (hlt _) h1
      have hn0 := hexDigit_injective _ (hlt _) _ (hlt _) h0
      exact ⟨Char.toNat_inj.mp (by omega), hrest⟩
    · rw [hc, hd] at h
      exact absurd (List.cons.inj h).1.symm hds
  · rcases escapeRune_cases d with ⟨f, hd, -, -⟩ | ⟨hd, -⟩ | ⟨hd, -, -⟩
    · rw [hc, hd] at h
      exact absurd (List.cons.inj h).1 hcs
    · rw [hc, hd] at h
      exact absurd (List.cons.inj h).1 hcs
    · rw [hc, hd] at h
      exact List.cons.inj h

theorem escapeRune_ne_quote (c : Char) (r s : Text) :
    escapeRune c ++ r ≠ '"' :: s := by
  intro h
  rcases escapeRune_cases c with ⟨e, hc, -, -⟩ | ⟨hc, -⟩ | ⟨hc, -, hquote⟩
  · rw [hc] at h
    exact absurd (List.cons.inj h).1 (by decide)
  · rw [hc] at h
    exact absurd (List.cons.inj h).1 (by decide)
  · rw [hc] at h
    exact hquote (List.cons.inj h).1

/-- A string in quotes ends where its closing quote stands. -/
theorem quote_cancel {a b r s : Text} (h : quote a ++ r = quote b ++ s) :
    a = b ∧ r = s := by
  simp only [quote, List.cons_append, List.append_assoc, List.nil_append,
    List.cons.injEq, true_and] at h
  induction a generalizing b with
  | nil =>
      cases b with
      | nil => exact ⟨rfl, (List.cons.inj h).2⟩
      | cons d other =>
          rw [List.flatMap_cons, List.append_assoc] at h
          exact absurd h.symm (escapeRune_ne_quote _ _ _)
  | cons c rest ih =>
      cases b with
      | nil =>
          rw [List.flatMap_cons, List.append_assoc] at h
          exact absurd h (escapeRune_ne_quote _ _ _)
      | cons d other =>
          rw [List.flatMap_cons, List.flatMap_cons, List.append_assoc,
            List.append_assoc] at h
          obtain ⟨rfl, hafter⟩ := escapeRune_cancel h
          obtain ⟨rfl, hrest⟩ := ih hafter
          exact ⟨rfl, hrest⟩

/-- What is written has no control character. -/
theorem control_not_mem_quote {c : Char} (hc : c.toNat < 32) (s : Text) :
    c ∉ quote s := by
  intro h
  simp only [quote, List.cons_append, List.mem_cons, List.mem_append,
    List.mem_flatMap, List.not_mem_nil, or_false] at h
  have hhex : ∀ n < 16, 32 ≤ (hexDigit n).toNat := by decide
  have hlt : ∀ n : Nat, n % 16 < 16 := fun n => Nat.mod_lt n (by omega)
  have hdigit : ∀ n, c ≠ hexDigit (n % 16) := by
    rintro n rfl
    have := hhex _ (hlt n)
    omega
  rcases h with rfl | ⟨d, -, hd⟩ | rfl
  · exact absurd hc (by decide)
  · unfold escapeRune at hd
    cases hshort : shortEscape d with
    | some letter =>
        rw [hshort] at hd
        rcases List.mem_cons.mp hd with rfl | hletter
        · exact absurd hc (by decide)
        · obtain rfl := List.mem_singleton.mp hletter
          unfold shortEscape at hshort
          split_ifs at hshort <;> obtain rfl := Option.some.inj hshort <;>
            exact absurd hc (by decide)
    | none =>
        rw [hshort] at hd
        by_cases hnumbered : numbered d = true
        · simp only [hnumbered, ↓reduceIte, List.mem_cons, List.not_mem_nil,
            or_false, hdigit] at hd
          rcases hd with rfl | rfl
          · exact absurd hc (by decide)
          · exact absurd hc (by decide)
        · simp only [hnumbered, Bool.false_eq_true, ↓reduceIte,
            List.mem_singleton] at hd
          subst hd
          simp [numbered, hc] at hnumbered
  · exact absurd hc (by decide)

end Quoted

section Numbers

/-- The runes of a decimal number. -/
def numeral (c : Char) : Bool :=
  c.isDigit || c = '-'

theorem numeral_of_mem_itoaInt {n : Int} {c : Char} (h : c ∈ itoaInt n) :
    numeral c = true := by
  have hdigits : ∀ k : Nat, c ∈ itoa k → numeral c = true := by
    intro k hk
    rw [numeral, Nat.isDigit_of_mem_toDigits (by omega) (by omega) hk,
      Bool.true_or]
  unfold itoaInt at h
  split at h
  · rcases List.mem_cons.mp h with rfl | hrest
    · decide
    · exact hdigits _ hrest
  · exact hdigits _ h

/-- Nothing that would continue a number. -/
def Stops (rest : Text) : Prop :=
  ∀ c ∈ rest.head?, numeral c = false

theorem Stops.cons {c : Char} (h : numeral c = false) (rest : Text) :
    Stops (c :: rest) := by
  intro d hd
  obtain rfl := Option.some.inj hd
  exact h

theorem itoaInt_cancel {n m : Int} {r s : Text} (hr : Stops r) (hs : Stops s)
    (h : itoaInt n ++ r = itoaInt m ++ s) : n = m ∧ r = s := by
  have hspan : ∀ (k : Int) (rest : Text), Stops rest →
      (itoaInt k ++ rest).takeWhile numeral = itoaInt k := by
    intro k rest hrest
    rw [List.takeWhile_append_of_pos fun c hc => numeral_of_mem_itoaInt hc]
    cases rest with
    | nil => simp
    | cons c after =>
        rw [List.takeWhile_cons_of_neg (by simp [hrest c rfl]), List.append_nil]
  have hsame : itoaInt n = itoaInt m := by
    rw [← hspan n r hr, h, hspan m s hs]
  refine ⟨itoaInt_injective hsame, ?_⟩
  rw [hsame] at h
  exact List.append_cancel_left h

theorem itoaInt_ne_nil (n : Int) : itoaInt n ≠ [] := by
  unfold itoaInt
  split
  · exact List.cons_ne_nil _ _
  · exact Nat.toDigits_ne_nil

end Numbers

section Rendering

/-- What the first rune of a rendering tells of the value. -/
inductive JsonKind where
  | null | true | false | str | arr | obj | int
deriving DecidableEq

def kindOf (c : Char) : JsonKind :=
  if c = 'n' then .null
  else if c = 't' then .true
  else if c = 'f' then .false
  else if c = '"' then .str
  else if c = '[' then .arr
  else if c = '\x7b' then .obj
  else .int

def Json.kind : Json → JsonKind
  | .null => .null
  | .bool true => .true
  | .bool false => .false
  | .int _ => .int
  | .str _ => .str
  | .arr _ => .arr
  | .obj _ => .obj

theorem kindOf_numeral {c : Char} (h : numeral c = true) : kindOf c = .int := by
  unfold kindOf
  split_ifs with h1 h2 h3 h4 h5 h6
  · exact absurd (h1 ▸ h) (by decide)
  · exact absurd (h2 ▸ h) (by decide)
  · exact absurd (h3 ▸ h) (by decide)
  · exact absurd (h4 ▸ h) (by decide)
  · exact absurd (h5 ▸ h) (by decide)
  · exact absurd (h6 ▸ h) (by decide)
  · rfl

theorem Json.render_opening (v : Json) :
    ∃ c rest, v.render = c :: rest ∧ kindOf c = v.kind ∧
      c ≠ ']' ∧ c ≠ '\x7d' ∧ c ≠ ',' := by
  cases v with
  | null => exact ⟨_, _, rfl, by decide⟩
  | bool value =>
      cases value with
      | false => exact ⟨_, _, rfl, by decide⟩
      | true => exact ⟨_, _, rfl, by decide⟩
  | int value =>
      obtain ⟨c, rest, hdigits⟩ := List.exists_cons_of_ne_nil
        (itoaInt_ne_nil value)
      have hnumeral : numeral c = true := by
        apply @numeral_of_mem_itoaInt value
        rw [hdigits]
        exact List.mem_cons_self
      refine ⟨c, rest, hdigits, kindOf_numeral hnumeral, ?_⟩
      refine ⟨?_, ?_, ?_⟩ <;> rintro rfl <;> exact absurd hnumeral (by decide)
  | str value => exact ⟨_, _, rfl, rfl, by decide, by decide, by decide⟩
  | arr items => exact ⟨_, _, rfl, rfl, by decide, by decide, by decide⟩
  | obj members => exact ⟨_, _, rfl, rfl, by decide, by decide, by decide⟩

theorem Json.kind_eq_of_render {v w : Json} {r s : Text}
    (h : v.render ++ r = w.render ++ s) : v.kind = w.kind := by
  obtain ⟨c, rest, hv, hvkind, -⟩ := v.render_opening
  obtain ⟨d, other, hw, hwkind, -⟩ := w.render_opening
  rw [hv, hw] at h
  rw [← hvkind, ← hwkind, (List.cons.inj h).1]

theorem stops_renderMoreItems (items : List Json) (r : Text) :
    Stops (renderMoreItems items ++ r) := by
  cases items with
  | nil => exact Stops.cons (by decide) _
  | cons item rest => exact Stops.cons (by decide) _

theorem stops_renderMoreMembers (members : List (Text × Json)) (r : Text) :
    Stops (renderMoreMembers members ++ r) := by
  cases members with
  | nil => exact Stops.cons (by decide) _
  | cons member rest => exact Stops.cons (by decide) _

mutual

/-- A value can be read off the front of a text. -/
theorem Json.render_cancel : ∀ (v w : Json) {r s : Text}, Stops r → Stops s →
    v.render ++ r = w.render ++ s → v = w ∧ r = s
  | .null, w, r, s, _, _, h => by
      have hkind := Json.kind_eq_of_render h
      cases w with
      | null => exact ⟨rfl, List.append_cancel_left h⟩
      | bool value => cases value <;> cases hkind
      | int _ | str _ | arr _ | obj _ => cases hkind
  | .bool value, w, r, s, _, _, h => by
      have hkind := Json.kind_eq_of_render h
      cases w with
      | bool other =>
          have hvalue : value = other := by
            cases value <;> cases other <;> first | rfl | cases hkind
          subst hvalue
          exact ⟨rfl, List.append_cancel_left h⟩
      | null | int _ | str _ | arr _ | obj _ => cases value <;> cases hkind
  | .int value, w, r, s, hr, hs, h => by
      have hkind := Json.kind_eq_of_render h
      cases w with
      | int other =>
          obtain ⟨rfl, hrest⟩ := itoaInt_cancel hr hs h
          exact ⟨rfl, hrest⟩
      | bool other => cases other <;> cases hkind
      | null | str _ | arr _ | obj _ => cases hkind
  | .str value, w, r, s, _, _, h => by
      have hkind := Json.kind_eq_of_render h
      cases w with
      | str other =>
          obtain ⟨rfl, hrest⟩ := quote_cancel h
          exact ⟨rfl, hrest⟩
      | bool other => cases other <;> cases hkind
      | null | int _ | arr _ | obj _ => cases hkind
  | .arr items, w, r, s, _, _, h => by
      have hkind := Json.kind_eq_of_render h
      cases w with
      | arr others =>
          obtain ⟨rfl, hrest⟩ := renderItems_cancel items others
            (List.cons.inj h).2
          exact ⟨rfl, hrest⟩
      | bool other => cases other <;> cases hkind
      | null | int _ | str _ | obj _ => cases hkind
  | .obj members, w, r, s, _, _, h => by
      have hkind := Json.kind_eq_of_render h
      cases w with
      | obj others =>
          obtain ⟨rfl, hrest⟩ := renderMembers_cancel members others
            (List.cons.inj h).2
          exact ⟨rfl, hrest⟩
      | bool other => cases other <;> cases hkind
      | null | int _ | str _ | arr _ => cases hkind

theorem renderItems_cancel : ∀ (items others : List Json) {r s : Text},
    renderItems items ++ r = renderItems others ++ s → items = others ∧ r = s
  | [], [], _, _, h => ⟨rfl, (List.cons.inj h).2⟩
  | [], other :: after, r, s, h => by
      obtain ⟨c, rest, hw, -, hne, -⟩ := other.render_opening
      rw [renderItems, renderItems, hw] at h
      exact absurd (List.cons.inj h).1.symm hne
  | item :: rest, [], r, s, h => by
      obtain ⟨c, after, hv, -, hne, -⟩ := item.render_opening
      rw [renderItems, renderItems, hv] at h
      exact absurd (List.cons.inj h).1 hne
  | item :: rest, other :: after, r, s, h => by
      rw [renderItems, renderItems, List.append_assoc, List.append_assoc] at h
      obtain ⟨rfl, hmore⟩ := Json.render_cancel item other
        (stops_renderMoreItems _ _) (stops_renderMoreItems _ _) h
      obtain ⟨rfl, hend⟩ := renderMoreItems_cancel rest after hmore
      exact ⟨rfl, hend⟩

theorem renderMoreItems_cancel : ∀ (items others : List Json) {r s : Text},
    renderMoreItems items ++ r = renderMoreItems others ++ s →
      items = others ∧ r = s
  | [], [], _, _, h => ⟨rfl, (List.cons.inj h).2⟩
  | [], other :: after, r, s, h =>
      absurd (List.cons.inj h).1 (by decide)
  | item :: rest, [], r, s, h =>
      absurd (List.cons.inj h).1 (by decide)
  | item :: rest, other :: after, r, s, h => by
      rw [renderMoreItems, renderMoreItems, List.cons_append,
        List.cons_append, List.append_assoc, List.append_assoc] at h
      obtain ⟨rfl, hmore⟩ := Json.render_cancel item other
        (stops_renderMoreItems _ _) (stops_renderMoreItems _ _)
        (List.cons.inj h).2
      obtain ⟨rfl, hend⟩ := renderMoreItems_cancel rest after hmore
      exact ⟨rfl, hend⟩

theorem renderMembers_cancel : ∀ (members others : List (Text × Json))
    {r s : Text}, renderMembers members ++ r = renderMembers others ++ s →
      members = others ∧ r = s
  | [], [], _, _, h => ⟨rfl, (List.cons.inj h).2⟩
  | [], (name, other) :: after, r, s, h =>
      absurd (List.cons.inj h).1 (by decide)
  | (name, value) :: rest, [], r, s, h =>
      absurd (List.cons.inj h).1 (by decide)
  | (name, value) :: rest, (name', other) :: after, r, s, h => by
      rw [renderMembers, renderMembers, List.append_assoc, List.append_assoc]
        at h
      obtain ⟨rfl, hvalue⟩ := quote_cancel h
      rw [List.cons_append, List.cons_append, List.append_assoc,
        List.append_assoc] at hvalue
      obtain ⟨rfl, hmore⟩ := Json.render_cancel value other
        (stops_renderMoreMembers _ _) (stops_renderMoreMembers _ _)
        (List.cons.inj hvalue).2
      obtain ⟨rfl, hend⟩ := renderMoreMembers_cancel rest after hmore
      exact ⟨rfl, hend⟩

theorem renderMoreMembers_cancel : ∀ (members others : List (Text × Json))
    {r s : Text},
    renderMoreMembers members ++ r = renderMoreMembers others ++ s →
      members = others ∧ r = s
  | [], [], _, _, h => ⟨rfl, (List.cons.inj h).2⟩
  | [], (name, other) :: after, r, s, h =>
      absurd (List.cons.inj h).1 (by decide)
  | (name, value) :: rest, [], r, s, h =>
      absurd (List.cons.inj h).1 (by decide)
  | (name, value) :: rest, (name', other) :: after, r, s, h => by
      rw [renderMoreMembers, renderMoreMembers, List.cons_append,
        List.cons_append, List.append_assoc, List.append_assoc] at h
      obtain ⟨rfl, hvalue⟩ := quote_cancel (List.cons.inj h).2
      rw [List.cons_append, List.cons_append, List.append_assoc,
        List.append_assoc] at hvalue
      obtain ⟨rfl, hmore⟩ := Json.render_cancel value other
        (stops_renderMoreMembers _ _) (stops_renderMoreMembers _ _)
        (List.cons.inj hvalue).2
      obtain ⟨rfl, hend⟩ := renderMoreMembers_cancel rest after hmore
      exact ⟨rfl, hend⟩

end

theorem Json.render_injective {v w : Json} (h : v.render = w.render) :
    v = w := by
  have hempty : Stops [] := fun _ hc => nomatch hc
  refine (Json.render_cancel v w hempty hempty ?_).1
  rw [h]

mutual

/-- A rendering is one line of printable text. -/
theorem Json.control_not_mem_render {c : Char} (hc : c.toNat < 32) :
    ∀ v : Json, c ∉ v.render
  | .null => by
      intro h
      simp only [Json.render, List.mem_cons, List.not_mem_nil, or_false] at h
      rcases h with rfl | rfl | rfl | rfl <;> exact absurd hc (by decide)
  | .bool true => by
      intro h
      simp only [Json.render, List.mem_cons, List.not_mem_nil, or_false] at h
      rcases h with rfl | rfl | rfl | rfl <;> exact absurd hc (by decide)
  | .bool false => by
      intro h
      simp only [Json.render, List.mem_cons, List.not_mem_nil, or_false] at h
      rcases h with rfl | rfl | rfl | rfl | rfl <;>
        exact absurd hc (by decide)
  | .int value => by
      intro h
      have hnumeral := numeral_of_mem_itoaInt h
      simp only [numeral, Char.isDigit, Bool.or_eq_true, Bool.and_eq_true,
        decide_eq_true_eq, ge_iff_le, UInt32.le_iff_toNat_le] at hnumeral
      rcases hnumeral with ⟨hlow, -⟩ | rfl
      · exact absurd (Nat.lt_of_le_of_lt hlow hc) (by decide)
      · exact absurd hc (by decide)
  | .str value => control_not_mem_quote hc value
  | .arr items => by
      rw [Json.render, List.mem_cons, not_or]
      exact ⟨by rintro rfl; exact absurd hc (by decide),
        control_not_mem_renderItems hc items⟩
  | .obj members => by
      rw [Json.render, List.mem_cons, not_or]
      exact ⟨by rintro rfl; exact absurd hc (by decide),
        control_not_mem_renderMembers hc members⟩

theorem control_not_mem_renderItems {c : Char} (hc : c.toNat < 32) :
    ∀ items : List Json, c ∉ renderItems items
  | [] => by
      rw [renderItems, List.mem_singleton]
      rintro rfl
      exact absurd hc (by decide)
  | item :: rest => by
      rw [renderItems, List.mem_append, not_or]
      exact ⟨Json.control_not_mem_render hc item,
        control_not_mem_renderMoreItems hc rest⟩

theorem control_not_mem_renderMoreItems {c : Char} (hc : c.toNat < 32) :
    ∀ items : List Json, c ∉ renderMoreItems items
  | [] => by
      rw [renderMoreItems, List.mem_singleton]
      rintro rfl
      exact absurd hc (by decide)
  | item :: rest => by
      rw [renderMoreItems, List.mem_cons, List.mem_append, not_or, not_or]
      exact ⟨by rintro rfl; exact absurd hc (by decide),
        Json.control_not_mem_render hc item,
        control_not_mem_renderMoreItems hc rest⟩

theorem control_not_mem_renderMembers {c : Char} (hc : c.toNat < 32) :
    ∀ members : List (Text × Json), c ∉ renderMembers members
  | [] => by
      rw [renderMembers, List.mem_singleton]
      rintro rfl
      exact absurd hc (by decide)
  | (name, value) :: rest => by
      rw [renderMembers, List.mem_append, List.mem_cons, List.mem_append,
        not_or, not_or, not_or]
      exact ⟨control_not_mem_quote hc name,
        by rintro rfl; exact absurd hc (by decide),
        Json.control_not_mem_render hc value,
        control_not_mem_renderMoreMembers hc rest⟩

theorem control_not_mem_renderMoreMembers {c : Char} (hc : c.toNat < 32) :
    ∀ members : List (Text × Json), c ∉ renderMoreMembers members
  | [] => by
      rw [renderMoreMembers, List.mem_singleton]
      rintro rfl
      exact absurd hc (by decide)
  | (name, value) :: rest => by
      rw [renderMoreMembers, List.mem_cons, List.mem_append, List.mem_cons,
        List.mem_append, not_or, not_or, not_or, not_or]
      exact ⟨by rintro rfl; exact absurd hc (by decide),
        control_not_mem_quote hc name,
        by rintro rfl; exact absurd hc (by decide),
        Json.control_not_mem_render hc value,
        control_not_mem_renderMoreMembers hc rest⟩

end

end Rendering

end Go

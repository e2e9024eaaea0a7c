import Mathlib.Data.List.Basic

/-
Procedures that change a state step by step and may be cut off after any of
the steps.  A specification says what holds of every state a procedure leaves
behind on its way, of what it answers, and of the state it ends in.
-/

namespace Machine

/-- One execution of a procedure: the states after its single steps, its
answer, and the state it ends in. -/
structure Execution (S E A : Type) where
  passed : List S
  answer : Except E A
  final : S

/-- A procedure over states `S` that fails with an `E` or answers an `A`. -/
def Proc (S E A : Type) : Type :=
  S → Execution S E A

namespace Proc

variable {S E A B : Type}

instance monad : Monad (Proc S E) where
  pure a := fun s => ⟨[], .ok a, s⟩
  bind p f := fun s =>
    match (p s).answer with
    | .error e => ⟨(p s).passed, .error e, (p s).final⟩
    | .ok a =>
        ⟨(p s).passed ++ (f a (p s).final).passed, (f a (p s).final).answer,
          (f a (p s).final).final⟩

/-- Gives up. -/
def fail (e : E) : Proc S E A := fun s =>
  ⟨[], .error e, s⟩

/-- Goes on with an answer that may be a failure. -/
def ofExcept (answer : Except E A) : Proc S E A := fun s =>
  ⟨[], answer, s⟩

/-- Runs a procedure and answers whether and how it failed. -/
def attempt (p : Proc S E A) : Proc S E (Except E A) := fun s =>
  ⟨(p s).passed, .ok (p s).answer, (p s).final⟩

/-- `if c { ... }`. -/
def when (c : Bool) (p : Proc S E Unit) : Proc S E Unit :=
  if c then p else pure ()

/-- A loop over a list that stops at the first failure. -/
def each {N : Type} (body : N → Proc S E Unit) : List N → Proc S E Unit
  | [] => pure ()
  | name :: rest => body name >>= fun _ => each body rest

/-- What is left when the procedure is cut off after so many steps; a
procedure with fewer steps has ended by then. -/
def cutAfter (p : Proc S E A) (count : Nat) (s : S) : S :=
  ((s :: (p s).passed)[count]?).getD (p s).final

/-- A procedure, begun in a state, meets a condition on what may be left of
it and a postcondition. -/
structure Meets (Crash : S → Prop) (p : Proc S E A) (s : S)
    (Post : Except E A → S → Prop) : Prop where
  passes : ∀ t ∈ (p s).passed, Crash t
  post : Post (p s).answer (p s).final

section Rules

variable {Crash : S → Prop} {s : S} {p : Proc S E A} {f : A → Proc S E B}

theorem Meets.mono {Post Post' : Except E A → S → Prop}
    (h : Meets Crash p s Post)
    (himp : ∀ answer t, Post answer t → Post' answer t) :
    Meets Crash p s Post' :=
  ⟨h.passes, himp _ _ h.post⟩

theorem Meets.weaken {Crash' : S → Prop} {Post : Except E A → S → Prop}
    (h : Meets Crash p s Post) (himp : ∀ t, Crash t → Crash' t) :
    Meets Crash' p s Post :=
  ⟨fun t ht => himp t (h.passes t ht), h.post⟩

theorem meets_pure {a : A} {Post : Except E A → S → Prop}
    (h : Post (.ok a) s) : Meets Crash (pure a : Proc S E A) s Post := by
  constructor
  · intro t ht
    cases ht
  · exact h

theorem meets_ofExcept {answer : Except E A} {Post : Except E A → S → Prop}
    (h : Post answer s) : Meets Crash (ofExcept answer) s Post := by
  constructor
  · intro t ht
    cases ht
  · exact h

theorem meets_fail {e : E} {Post : Except E A → S → Prop}
    (h : Post (.error e) s) : Meets Crash (fail e : Proc S E A) s Post :=
  meets_ofExcept h

/-- One procedure after another. -/
theorem meets_bind {Post : Except E B → S → Prop}
    (h : Meets Crash p s fun answer t =>
      match answer with
      | .error e => Post (.error e) t
      | .ok a => Meets Crash (f a) t Post) :
    Meets Crash (p >>= f) s Post := by
  obtain ⟨hpasses, hpost⟩ := h
  have heq : (p >>= f) s = match (p s).answer with
      | .error e => ⟨(p s).passed, .error e, (p s).final⟩
      | .ok a =>
          ⟨(p s).passed ++ (f a (p s).final).passed,
            (f a (p s).final).answer, (f a (p s).final).final⟩ := rfl
  cases hanswer : (p s).answer with
  | error e =>
      rw [hanswer] at heq hpost
      constructor
      · rw [heq]
        exact hpasses
      · rw [heq]
        exact hpost
  | ok a =>
      rw [hanswer] at heq hpost
      constructor
      · rw [heq]
        intro t ht
        rcases List.mem_append.mp ht with hfirst | hsecond
        · exact hpasses t hfirst
        · exact hpost.passes t hsecond
      · rw [heq]
        exact hpost.post

theorem meets_attempt {Post : Except E (Except E A) → S → Prop}
    (h : Meets Crash p s fun answer t => Post (.ok answer) t) :
    Meets Crash (attempt p) s Post :=
  ⟨h.passes, h.post⟩

theorem meets_when {c : Bool} {body : Proc S E Unit}
    {Post : Except E Unit → S → Prop}
    (hyes : c = true → Meets Crash body s Post)
    (hno : c = false → Post (.ok ()) s) :
    Meets Crash (when c body) s Post := by
  cases c with
  | true => exact hyes rfl
  | false => exact meets_pure (hno rfl)

/-- A loop over a list: what holds before each round holds after it, of the
rounds left, unless the round fails. -/
theorem meets_each {N : Type} {body : N → Proc S E Unit}
    {Post : Except E Unit → S → Prop} (Inv : List N → S → Prop)
    (names : List N)
    (hround : ∀ name rest s, name :: rest <:+ names → Inv (name :: rest) s →
      Meets Crash (body name) s fun answer t =>
        match answer with
        | .error e => Post (.error e) t
        | .ok _ => Inv rest t)
    (hstart : Inv names s) (hend : ∀ t, Inv [] t → Post (.ok ()) t) :
    Meets Crash (each body names) s Post := by
  have hloop : ∀ rest s, rest <:+ names → Inv rest s →
      Meets Crash (each body rest) s Post := by
    intro rest
    induction rest with
    | nil =>
        intro s _ hinv
        exact meets_pure (hend s hinv)
    | cons name rest ih =>
        intro s hsuffix hinv
        apply meets_bind
        apply (hround name rest s hsuffix hinv).mono
        intro answer t hanswer
        cases answer with
        | error e => exact hanswer
        | ok u =>
            exact ih t ((List.suffix_cons name rest).trans hsuffix) hanswer
  exact hloop names s List.suffix_rfl hstart

/-- Where a procedure is cut off, nothing has happened, the crash condition
holds, or it has come to its end. -/
theorem Meets.cut {Post : Except E A → S → Prop} (h : Meets Crash p s Post)
    (count : Nat) :
    p.cutAfter count s = s ∨ Crash (p.cutAfter count s) ∨
      (p.cutAfter count s = (p s).final ∧
        Post (p s).answer (p.cutAfter count s)) := by
  simp only [cutAfter]
  cases count with
  | zero => exact Or.inl rfl
  | succ count =>
      rw [List.getElem?_cons_succ]
      cases hstate : (p s).passed[count]? with
      | some t =>
          exact Or.inr (Or.inl (h.passes t (List.mem_of_getElem? hstate)))
      | none => exact Or.inr (Or.inr ⟨rfl, h.post⟩)

end Rules

end Proc

end Machine

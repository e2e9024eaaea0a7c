import XrayChecker.Go.Text

/-
Go functions that return an error, as `Except`: early returns, the loops that
stop at the first error, and the rules that take an accepted run apart.
-/

namespace Go

variable {ε α β : Type}

/-- `if bad { return errors.New(message) }`. -/
def reject (bad : Bool) (message : Text) : Except Text Unit :=
  if bad then .error message else .ok ()

@[simp] theorem reject_eq_ok {bad : Bool} {message : Text} {u : Unit} :
    reject bad message = .ok u ↔ bad = false := by
  cases bad <;> simp [reject]

/-- `if p { return err }`: the rest is reached when the guard does not
apply. -/
theorem guard_eq_ok {p : Prop} [Decidable p] {error : ε} {rest : Except ε α}
    {answer : α} :
    (if p then .error error else rest) = .ok answer ↔
      ¬p ∧ rest = .ok answer := by
  by_cases hp : p <;> simp [hp]

/-- A computation that goes on after a first step went through the step. -/
theorem bind_eq_ok {first : Except ε α} {next : α → Except ε β} {b : β} :
    first >>= next = .ok b ↔ ∃ a, first = .ok a ∧ next a = .ok b := by
  cases first with
  | error e => simp [bind, Except.bind]
  | ok a => simp [bind, Except.bind]

theorem bind_unit_eq_ok {first : Except ε Unit} {next : Unit → Except ε β}
    {b : β} :
    first >>= next = .ok b ↔ first = .ok () ∧ next () = .ok b := by
  rw [bind_eq_ok]
  constructor
  · rintro ⟨_, hfirst, hnext⟩
    exact ⟨hfirst, hnext⟩
  · rintro ⟨hfirst, hnext⟩
    exact ⟨_, hfirst, hnext⟩

/-- A loop without state that returns the first error of its body. -/
def checkAll (check : α → Except ε Unit) : List α → Except ε Unit
  | [] => .ok ()
  | item :: rest => check item >>= fun _ => checkAll check rest

@[simp] theorem checkAll_eq_ok {check : α → Except ε Unit} {items : List α}
    {u : Unit} :
    checkAll check items = .ok u ↔ ∀ item ∈ items, check item = .ok () := by
  induction items with
  | nil => simp [checkAll]
  | cons item rest ih =>
      rw [checkAll, bind_unit_eq_ok, ih, List.forall_mem_cons]

/-- Loop rule for a loop with an accumulator and early return: what holds at
the start and is kept by every completed iteration holds at the end.  The
invariant may mention the items already passed, and an iteration may use where
it stands in the loop. -/
theorem foldlM_prefix_invariant {step : β → α → Except ε β}
    (Inv : List α → β → Prop) {items : List α} {start finish : β}
    (hrun : items.foldlM step start = .ok finish) (hstart : Inv [] start)
    (hstep : ∀ done item rest acc acc', items = done ++ item :: rest →
      Inv done acc → step acc item = .ok acc' → Inv (done ++ [item]) acc') :
    Inv items finish := by
  have hgeneral : ∀ (rest done : List α) (acc : β),
      items = done ++ rest → Inv done acc →
      rest.foldlM step acc = .ok finish → Inv (done ++ rest) finish := by
    intro rest
    induction rest with
    | nil =>
        intro done acc _ hacc hfinish
        have : acc = finish := by simpa [pure, Except.pure] using hfinish
        simpa [this] using hacc
    | cons item rest ih =>
        intro done acc hitems hacc hfinish
        rw [List.foldlM_cons, bind_eq_ok] at hfinish
        obtain ⟨acc', hitem, hrest⟩ := hfinish
        have hnext := hstep done item rest acc acc' hitems hacc hitem
        have := ih (done ++ [item]) acc' (by simp [hitems]) hnext hrest
        simpa using this
  simpa using hgeneral items [] start rfl hstart hrun

/-- The loop rule for iterations that only use which item they are at. -/
theorem foldlM_invariant {step : β → α → Except ε β}
    (Inv : List α → β → Prop) {items : List α} {start finish : β}
    (hrun : items.foldlM step start = .ok finish) (hstart : Inv [] start)
    (hstep : ∀ done item acc acc', item ∈ items → Inv done acc →
      step acc item = .ok acc' → Inv (done ++ [item]) acc') :
    Inv items finish := by
  refine foldlM_prefix_invariant Inv hrun hstart ?_
  intro done item rest acc acc' hitems hacc hitem
  exact hstep done item acc acc' (by simp [hitems]) hacc hitem

/-- Loop rule for a loop with an accumulator that always runs to its end. -/
theorem foldl_invariant {step : β → α → β} (Inv : List α → β → Prop)
    (items : List α) {start : β} (hstart : Inv [] start)
    (hstep : ∀ done item acc, item ∈ items → Inv done acc →
      Inv (done ++ [item]) (step acc item)) :
    Inv items (items.foldl step start) := by
  have hgeneral : ∀ (rest done : List α) (acc : β),
      (∀ item ∈ rest, item ∈ items) → Inv done acc →
      Inv (done ++ rest) (rest.foldl step acc) := by
    intro rest
    induction rest with
    | nil =>
        intro done acc _ hacc
        simpa using hacc
    | cons item rest ih =>
        intro done acc hmem hacc
        have := ih (done ++ [item]) (step acc item)
          (fun other hother => hmem other (List.mem_cons_of_mem _ hother))
          (hstep done item acc (hmem item List.mem_cons_self) hacc)
        simpa using this
  simpa using hgeneral items [] start (fun _ h => h) hstart

/-- A loop with early return completes when no iteration can fail, under an
invariant that the iterations keep. -/
theorem foldlM_ok {step : β → α → Except ε β} (Inv : List α → β → Prop)
    (items : List α) {start : β} (hstart : Inv [] start)
    (hstep : ∀ done item acc, item ∈ items → Inv done acc →
      ∃ acc', step acc item = .ok acc' ∧ Inv (done ++ [item]) acc') :
    ∃ finish, items.foldlM step start = .ok finish ∧ Inv items finish := by
  have hgeneral : ∀ (rest done : List α) (acc : β),
      (∀ item ∈ rest, item ∈ items) → Inv done acc →
      ∃ finish, rest.foldlM step acc = .ok finish ∧
        Inv (done ++ rest) finish := by
    intro rest
    induction rest with
    | nil =>
        intro done acc _ hacc
        exact ⟨acc, rfl, by simpa using hacc⟩
    | cons item rest ih =>
        intro done acc hmem hacc
        obtain ⟨acc', hitem, hnext⟩ :=
          hstep done item acc (hmem item List.mem_cons_self) hacc
        obtain ⟨finish, hrest, hfinish⟩ := ih (done ++ [item]) acc'
          (fun other hother => hmem other (List.mem_cons_of_mem _ hother))
          hnext
        refine ⟨finish, ?_, by simpa using hfinish⟩
        rw [List.foldlM_cons, hitem]
        exact hrest
  simpa using hgeneral items [] start (fun _ h => h) hstart

end Go

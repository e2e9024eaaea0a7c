import Mathlib.Data.List.Basic

/-
Runs of a state machine whose events come from outside: the state after a
list of events, the steps of the run, and the rules that carry an invariant
along it.  A side condition on the events may look at the state they meet.
-/

namespace Machine

variable {S E : Type}

/-- The state after the events. -/
def run (step : S → E → S) (start : S) (events : List E) : S :=
  events.foldl step start

/-- The steps of a run: each event with the state it met. -/
def steps (step : S → E → S) : S → List E → List (S × E)
  | _, [] => []
  | s, e :: rest => (s, e) :: steps step (step s e) rest

/-- Every event of the run meets a state in which it is allowed. -/
def Admissible (step : S → E → S) (allowed : S → E → Prop) (start : S)
    (events : List E) : Prop :=
  ∀ taken ∈ steps step start events, allowed taken.1 taken.2

variable {step : S → E → S} {allowed : S → E → Prop}

instance [∀ s e, Decidable (allowed s e)] (start : S) (events : List E) :
    Decidable (Admissible step allowed start events) :=
  inferInstanceAs (Decidable (∀ _ ∈ _, _))

@[simp] theorem run_nil (s : S) : run step s [] = s := rfl

@[simp] theorem run_cons (s : S) (e : E) (rest : List E) :
    run step s (e :: rest) = run step (step s e) rest := rfl

theorem run_append (s : S) (before after : List E) :
    run step s (before ++ after) = run step (run step s before) after :=
  List.foldl_append

theorem steps_append (s : S) (before after : List E) :
    steps step s (before ++ after) =
      steps step s before ++ steps step (run step s before) after := by
  induction before generalizing s with
  | nil => rfl
  | cons e rest ih =>
      change (s, e) :: steps step (step s e) (rest ++ after) = _
      rw [ih]
      rfl

@[simp] theorem map_snd_steps (s : S) (events : List E) :
    (steps step s events).map Prod.snd = events := by
  induction events generalizing s with
  | nil => rfl
  | cons e rest ih =>
      change e :: (steps step (step s e) rest).map Prod.snd = _
      rw [ih]

theorem admissible_nil (s : S) : Admissible step allowed s [] := by
  intro taken htaken
  cases htaken

theorem admissible_cons {s : S} {e : E} {rest : List E} :
    Admissible step allowed s (e :: rest) ↔
      allowed s e ∧ Admissible step allowed (step s e) rest := by
  simp only [Admissible, steps, List.forall_mem_cons]

theorem admissible_append {s : S} {before after : List E} :
    Admissible step allowed s (before ++ after) ↔
      Admissible step allowed s before ∧
        Admissible step allowed (run step s before) after := by
  simp only [Admissible, steps_append, List.forall_mem_append]

theorem admissible_snoc {s : S} {before : List E} {e : E} :
    Admissible step allowed s (before ++ [e]) ↔
      Admissible step allowed s before ∧ allowed (run step s before) e := by
  rw [admissible_append, admissible_cons]
  simp [admissible_nil]

/-- An invariant that may mention the steps taken so far. -/
theorem history_invariant (Inv : List (S × E) → S → Prop) {start : S}
    {events : List E} (hrun : Admissible step allowed start events)
    (hstart : Inv [] start)
    (hstep : ∀ past s e, Inv past s → allowed s e →
      Inv (past ++ [(s, e)]) (step s e)) :
    Inv (steps step start events) (run step start events) := by
  have hgeneral : ∀ (rest : List E) (past : List (S × E)) (s : S),
      Inv past s → Admissible step allowed s rest →
      Inv (past ++ steps step s rest) (run step s rest) := by
    intro rest
    induction rest with
    | nil =>
        intro past s hpast _
        simpa [steps] using hpast
    | cons e rest ih =>
        intro past s hpast hrest
        rw [admissible_cons] at hrest
        have := ih _ _ (hstep past s e hpast hrest.1) hrest.2
        simpa [steps] using this
  simpa using hgeneral events [] start hstart hrun

/-- An invariant of the states. -/
theorem run_invariant (Inv : S → Prop) {start : S} {events : List E}
    (hrun : Admissible step allowed start events) (hstart : Inv start)
    (hstep : ∀ s e, Inv s → allowed s e → Inv (step s e)) :
    Inv (run step start events) :=
  history_invariant (fun _ s => Inv s) hrun hstart
    fun _ s e hs he => hstep s e hs he

/-- An invariant holds wherever an event of the run is met. -/
theorem steps_invariant (Inv : S → Prop) {start : S} {events : List E}
    (hrun : Admissible step allowed start events) (hstart : Inv start)
    (hstep : ∀ s e, Inv s → allowed s e → Inv (step s e)) :
    ∀ taken ∈ steps step start events, Inv taken.1 := by
  induction events generalizing start with
  | nil =>
      intro taken htaken
      cases htaken
  | cons e rest ih =>
      rw [admissible_cons] at hrun
      simp only [steps, List.forall_mem_cons]
      exact ⟨hstart, ih hrun.2 (hstep start e hstart hrun.1)⟩

end Machine

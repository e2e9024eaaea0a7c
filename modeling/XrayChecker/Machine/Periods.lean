import Mathlib.Data.List.Pairwise
import Mathlib.Algebra.BigOperators.Group.List.Basic
import Mathlib.Algebra.Order.BigOperators.Group.List
import Mathlib.Algebra.Ring.Nat

/-
Periods of time that follow one another, the newest first, and how much of
the time since a given instant they can cover.
-/

namespace Machine

/-- A period of time: its start and its end. -/
abbrev Period := Nat × Nat

/-- The periods follow one another without overlap between `first` and
`last`, the newest first. -/
structure Follow (first last : Nat) (periods : List Period) : Prop where
  apart : periods.Pairwise fun later earlier => earlier.2 ≤ later.1
  within : ∀ period ∈ periods,
    first ≤ period.1 ∧ period.1 ≤ period.2 ∧ period.2 ≤ last

namespace Follow

variable {first last : Nat} {periods : List Period}

theorem nil (first last : Nat) : Follow first last [] :=
  ⟨List.Pairwise.nil, by simp⟩

theorem mono {later : Nat} (h : Follow first last periods)
    (hlater : last ≤ later) : Follow first later periods :=
  ⟨h.apart, fun period hperiod =>
    have hwithin := h.within period hperiod
    ⟨hwithin.1, hwithin.2.1, hwithin.2.2.trans hlater⟩⟩

/-- One more period, which starts when all the others are over. -/
theorem cons {start stop : Nat} (h : Follow first last periods)
    (hfirst : first ≤ start) (hstart : start ≤ stop) (hstop : stop ≤ last)
    (hover : ∀ period ∈ periods, period.2 ≤ start) :
    Follow first last ((start, stop) :: periods) := by
  constructor
  · exact List.pairwise_cons.mpr ⟨hover, h.apart⟩
  · intro period hperiod
    rcases List.mem_cons.mp hperiod with rfl | hold
    · exact ⟨hfirst, hstart, hstop⟩
    · exact h.within period hold

end Follow

end Machine

import XrayChecker.Remnawave.Evaluate

/-
What an aggregate stands for: the parts counted in it.  A server is counted
over its members and a location over its servers by the same rules.
-/

namespace XrayChecker.Remnawave

open Go Checker

/-- What a member is to its server, or a server to its location. -/
inductive Part where
  | healthy
  | pending
  | ambiguous
  | down
  | maintenance
deriving DecidableEq

def Part.failing : Part → Bool
  | .down => true
  | .maintenance => true
  | _ => false

def count (item : Aggregate) (part : Part) : Aggregate :=
  let item := { item with members := item.members + 1 }
  match part with
  | .healthy => { item with hasHealthy := true }
  | .pending => { item with hasPending := true }
  | .ambiguous => { item with hasAmbiguous := true }
  | .down => { item with down := item.down + 1 }
  | .maintenance =>
      { item with
        down := item.down + 1
        maintenanceDown := item.maintenanceDown + 1 }

def tally (parts : List Part) : Aggregate :=
  parts.foldl count {}

/-- Two parts can be counted in either order. -/
theorem count_right_comm (item : Aggregate) (part other : Part) :
    count (count item part) other = count (count item other) part := by
  cases part <;> cases other <;> rfl

theorem tally_concat (parts : List Part) (part : Part) :
    tally (parts ++ [part]) = count (tally parts) part := by
  rw [tally, List.foldl_append]
  rfl

section Fields

theorem tally_spec (parts : List Part) :
    tally parts = {
      hasHealthy := decide (.healthy ∈ parts)
      hasPending := decide (.pending ∈ parts)
      hasAmbiguous := decide (.ambiguous ∈ parts)
      members := parts.length
      down := parts.countP Part.failing
      maintenanceDown := parts.count .maintenance } := by
  induction parts using List.reverseRecOn with
  | nil => rfl
  | append_singleton parts part ih =>
      rw [tally_concat, ih]
      cases part <;> simp [count, Part.failing, List.countP_append]

theorem countP_failing_eq_length {parts : List Part} :
    parts.countP Part.failing = parts.length ↔
      ∀ part ∈ parts, part.failing :=
  List.countP_eq_length

theorem not_failing_of_healthy {parts : List Part}
    (h : .healthy ∈ parts) : ¬∀ part ∈ parts, part.failing :=
  fun hall => absurd (hall _ h) (by decide)

/-- A part that is not failing is one of three. -/
theorem exists_of_not_failing {parts : List Part}
    (h : ¬∀ part ∈ parts, part.failing) :
    .healthy ∈ parts ∨ .pending ∈ parts ∨ .ambiguous ∈ parts := by
  simp only [not_forall] at h
  obtain ⟨part, hmem, hpart⟩ := h
  cases part with
  | healthy => exact .inl hmem
  | pending => exact .inr (.inl hmem)
  | ambiguous => exact .inr (.inr hmem)
  | down => exact absurd rfl hpart
  | maintenance => exact absurd rfl hpart

end Fields

section States

variable {parts : List Part}

/-- The state of an aggregate, by what is counted in it. -/
theorem stateOf_tally (parts : List Part) :
    stateOf (tally parts) =
      if .healthy ∈ parts then
        if ∃ part ∈ parts, part.failing then .groupPartial else .groupHealthy
      else if .ambiguous ∈ parts then .groupAmbiguous
      else if .pending ∈ parts then .groupPending
      else if ∀ part ∈ parts, part = .maintenance then .groupMaintenance
      else .groupDown := by
  rw [tally_spec, stateOf]
  by_cases hhealthy : .healthy ∈ parts
  · simp [hhealthy, List.countP_pos_iff]
  · by_cases hambiguous : .ambiguous ∈ parts
    · simp [hhealthy, hambiguous]
    · by_cases hpending : .pending ∈ parts
      · simp [hhealthy, hambiguous, hpending]
      · have hall : parts.countP Part.failing = parts.length := by
          rw [countP_failing_eq_length]
          by_contra h
          rcases exists_of_not_failing h with h | h | h
          · exact hhealthy h
          · exact hpending h
          · exact hambiguous h
        have hmaintenance : parts.count .maintenance = parts.length ↔
            ∀ part ∈ parts, part = .maintenance := by
          rw [List.count_eq_length]
          exact forall₂_congr fun part _ => eq_comm
        simp [hhealthy, hambiguous, hpending, hall, hmaintenance]

theorem stateOf_eq_groupHealthy :
    stateOf (tally parts) = .groupHealthy ↔
      .healthy ∈ parts ∧ ¬∃ part ∈ parts, part.failing := by
  rw [stateOf_tally]
  split_ifs <;> simp_all

theorem stateOf_eq_groupPartial :
    stateOf (tally parts) = .groupPartial ↔
      .healthy ∈ parts ∧ ∃ part ∈ parts, part.failing := by
  rw [stateOf_tally]
  split_ifs <;> simp_all

theorem stateOf_up :
    stateOf (tally parts) = .groupHealthy ∨
        stateOf (tally parts) = .groupPartial ↔ .healthy ∈ parts := by
  rw [stateOf_eq_groupHealthy, stateOf_eq_groupPartial]
  tauto

theorem stateOf_lost :
    stateOf (tally parts) = .groupDown ∨
        stateOf (tally parts) = .groupMaintenance ↔
      ∀ part ∈ parts, part.failing := by
  constructor
  · intro h
    by_contra hsome
    rw [stateOf_tally] at h
    rcases exists_of_not_failing hsome with hmem | hmem | hmem
    · rw [if_pos hmem] at h
      split at h <;> rcases h with h | h <;> cases h
    · split_ifs at h <;> rcases h with h | h <;> cases h
    · split_ifs at h <;> rcases h with h | h <;> cases h
  · intro hall
    have hnone : ∀ part : Part, part.failing = false → part ∉ parts :=
      fun part hpart hmem => by
        rw [hall part hmem] at hpart
        cases hpart
    rw [stateOf_tally, if_neg (hnone .healthy rfl),
      if_neg (hnone .ambiguous rfl), if_neg (hnone .pending rfl)]
    split
    · exact .inr rfl
    · exact .inl rfl

theorem stateOf_eq_groupMaintenance :
    stateOf (tally parts) = .groupMaintenance ↔
      ∀ part ∈ parts, part = .maintenance := by
  constructor
  · intro h
    rw [stateOf_tally] at h
    split_ifs at h with h1 h2 h3 h4 h5
    exact h5
  · intro hall
    have hnone : ∀ part : Part, part ≠ .maintenance → part ∉ parts :=
      fun part hpart hmem => hpart (hall part hmem)
    rw [stateOf_tally, if_neg (hnone .healthy (by decide)),
      if_neg (hnone .ambiguous (by decide)),
      if_neg (hnone .pending (by decide)), if_pos hall]

end States

section Servers

/-- What a server in a state is to its location. -/
def serverPart : GroupState → Part
  | .groupHealthy => .healthy
  | .groupPartial => .healthy
  | .groupAmbiguous => .ambiguous
  | .groupPending => .pending
  | .groupMaintenance => .maintenance
  | .groupDown => .down

theorem countServer_eq (overall server : Aggregate) :
    countServer overall server = count overall
      (serverPart (stateOf server)) := by
  rw [countServer]
  cases stateOf server <;> rfl

theorem foldl_countServer (servers : List Aggregate) :
    servers.foldl countServer {} =
      tally (servers.map fun server => serverPart (stateOf server)) := by
  rw [tally, List.foldl_map]
  exact congrArg (fun step => List.foldl step {} servers)
    (funext₂ countServer_eq)

theorem serverPart_eq_healthy {state : GroupState} :
    serverPart state = .healthy ↔
      state = .groupHealthy ∨ state = .groupPartial := by
  cases state <;> simp [serverPart]

theorem serverPart_failing {state : GroupState} :
    (serverPart state).failing ↔
      state = .groupDown ∨ state = .groupMaintenance := by
  cases state <;> simp [serverPart, Part.failing]

theorem serverPart_eq_maintenance {state : GroupState} :
    serverPart state = .maintenance ↔ state = .groupMaintenance := by
  cases state <;> simp [serverPart]

end Servers

end XrayChecker.Remnawave

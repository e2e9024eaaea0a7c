import Mathlib.Data.Prod.Lex
import XrayChecker.Go.Submap
import XrayChecker.Reachability.Confirmed

/-
The findings against the cells of the matrix: which vantage points are listed,
in which order, and what the answer for a row depends on.
-/

namespace XrayChecker.Reachability

open Go Diagnostics

/-! ### The order of the findings -/

/-- What findings are ordered by: confirmed ones first, then newest. -/
def Finding.key (finding : Finding) : Bool ×ₗ Timeᵒᵈ ×ₗ Text ×ₗ Text :=
  toLex (!finding.confirmed, toLex (OrderDual.toDual finding.since,
    toLex (finding.stableID, finding.agentID)))

theorem Finding.before_iff {a b : Finding} :
    a.before b = true ↔ a.key < b.key := by
  simp only [before, key, Prod.Lex.toLex_lt_toLex, OrderDual.toDual_lt_toDual,
    OrderDual.toDual_inj]
  by_cases hconfirmed : a.confirmed = b.confirmed
  · by_cases hsince : a.since = b.since
    · by_cases hstable : a.stableID = b.stableID
      · simp [hconfirmed, hsince, hstable]
      · simp [hconfirmed, hsince, hstable]
    · simp [hconfirmed, hsince]
  · cases ha : a.confirmed <;> cases hb : b.confirmed <;> simp_all

theorem Finding.not_before_iff {a b : Finding} :
    (!b.before a) = true ↔ a.key ≤ b.key := by
  rw [Bool.not_eq_true', ← Bool.not_eq_true, before_iff, not_lt]

instance : Std.Total fun a b : Finding => (!b.before a) = true where
  total a b := by
    simp only [Finding.not_before_iff]
    exact le_total a.key b.key

instance : IsTrans Finding fun a b => (!b.before a) = true where
  trans a b c := by
    simp only [Finding.not_before_iff]
    exact le_trans

/-- The vantage point of a finding, with the row it is about. -/
def Finding.place (finding : Finding) : Text × Text :=
  (finding.stableID, finding.agentID)

/-- Findings about different vantage points are listed in strict order. -/
theorem sorted_before {findings : List Finding}
    (hdistinct : (findings.map Finding.place).Nodup) :
    (findings.insertionSort fun a b => !b.before a).Pairwise
      fun a b => a.before b = true := by
  have hsorted := List.pairwise_insertionSort
    (fun a b : Finding => (!b.before a) = true) findings
  have hplaces : ((findings.insertionSort fun a b => !b.before a).map
      Finding.place).Nodup :=
    ((List.perm_insertionSort _ findings).map _).nodup_iff.mpr hdistinct
  refine (hsorted.and (List.pairwise_map.mp hplaces)).imp ?_
  rintro a b ⟨hle, hne⟩
  rw [Finding.not_before_iff] at hle
  rw [Finding.before_iff]
  refine lt_of_le_of_ne hle fun hsame => hne ?_
  have hrest := congrArg (fun key => (ofLex (ofLex (ofLex key).2).2)) hsame
  exact hrest

/-- Lists in strict order with the same findings are the same. -/
theorem eq_of_sorted {left right : List Finding} (hperm : left.Perm right)
    (hleft : left.Pairwise fun a b => a.before b = true)
    (hright : right.Pairwise fun a b => a.before b = true) : left = right := by
  refine hperm.eq_of_pairwise ?_ hleft hright
  intro a b _ _ hab hba
  rw [Finding.before_iff] at hab hba
  exact absurd (hab.trans hba) (lt_irrefl _)

/-! ### Matrix states -/

/-- An operation on the matrix, with the file or the cell it is given. -/
inductive Operation where
  | load (state : StateFile)
  | record (stableID : Text) (cell : Cell) (now : Time)
  | beginSweep
  | retain (nodes : GoMap Text Text) (agents : List Text)
  | markSweep (now : Time)

namespace Matrix

/-- The matrix after an operation; a file that is refused changes nothing. -/
def perform (m : Matrix) : Operation → Matrix
  | .load state =>
      match load state with
      | .ok loaded => loaded
      | .error _ => m
  | .record stableID cell now => m.record stableID cell now
  | .beginSweep => m.beginSweep
  | .retain nodes agents => m.retain nodes fun id => agents.contains id
  | .markSweep now => m.markSweep now

/-- Every cell is stored under its agent, which has a name. -/
def Keyed (m : Matrix) : Prop :=
  Stored (fun _ agentID cell => cell.agentID = agentID ∧ agentID ≠ []) m.cells

theorem loadRow_keyed {row : GoMap Text Cell} {agentID : Text} {cell : Cell}
    (h : (loadRow row)[agentID]? = some cell) :
    cell.agentID = agentID ∧ agentID ≠ [] := by
  revert agentID cell
  apply foldl_invariant (fun _ (kept : GoMap Text Cell) =>
    ∀ {agentID : Text} {cell : Cell}, kept[agentID]? = some cell →
      cell.agentID = agentID ∧ agentID ≠ [])
  · intro agentID cell hcell
    rw [Std.ExtTreeMap.getElem?_empty] at hcell
    cases hcell
  · rintro done ⟨key, old⟩ kept - hkept agentID cell hcell
    dsimp only at hcell
    split at hcell
    · exact hkept hcell
    · rename_i hnamed
      rw [GoMap.get_insert] at hcell
      split at hcell
      · rename_i hsame
        rw [Option.some.injEq] at hcell
        rw [← hcell, ← hsame]
        exact ⟨rfl, fun hempty => hnamed (Or.inl hempty)⟩
      · exact hkept hcell

theorem Keyed.load {state : StateFile} {m : Matrix}
    (h : Matrix.load state = .ok m) : m.Keyed := by
  rw [Matrix.load] at h
  split at h
  · cases h
  · cases h
    refine foldl_invariant (fun _ (cells : GoMap Text (GoMap Text Cell)) =>
      Stored (fun _ agentID cell => cell.agentID = agentID ∧ agentID ≠ [])
        cells) _ (stored_empty _) ?_
    rintro done ⟨key, row⟩ cells - hcells stableID loaded hloaded
    dsimp only at hloaded
    split at hloaded
    · exact hcells stableID loaded hloaded
    · rw [GoMap.get_insert] at hloaded
      split at hloaded
      · rw [Option.some.injEq] at hloaded
        intro agentID cell hcell
        exact loadRow_keyed (hloaded ▸ hcell)
      · exact hcells stableID loaded hloaded

theorem recorded_agentID (previous : Option Cell) (cell : Cell) :
    (recorded previous cell).agentID = cell.agentID := by
  obtain ⟨since, streak, hrecorded⟩ := recorded_eq previous cell
  rw [hrecorded]

theorem Keyed.record {m : Matrix} (h : m.Keyed) (stableID : Text) (cell : Cell)
    (now : Time) : (m.record stableID cell now).Keyed := by
  simp only [Matrix.record]
  split
  · exact h
  · rename_i hnamed
    intro other row hrow agentID stored hstored
    rw [GoMap.get_insert] at hrow
    split at hrow
    · rw [Option.some.injEq] at hrow
      rw [← hrow, GoMap.get_insert] at hstored
      split at hstored
      · rename_i hagent
        rw [Option.some.injEq] at hstored
        rw [← hstored, recorded_agentID]
        exact ⟨hagent, hagent ▸ fun hempty => hnamed (Or.inr hempty)⟩
      · cases hold : m.cells[trimSpace stableID]? with
        | none =>
            rw [hold, Option.getD_none, Std.ExtTreeMap.getElem?_empty]
              at hstored
            cases hstored
        | some old =>
            rw [hold, Option.getD_some] at hstored
            exact h _ old hold agentID stored hstored
    · exact h other row hrow agentID stored hstored

theorem Keyed.perform {m : Matrix} (h : m.Keyed) (operation : Operation) :
    (m.perform operation).Keyed := by
  cases operation with
  | load state =>
      simp only [Matrix.perform]
      split
      · rename_i loaded hloaded
        exact Keyed.load hloaded
      · exact h
  | record stableID cell now => exact h.record stableID cell now
  | beginSweep => exact h
  | retain nodes agents => exact Stored.retain h nodes _
  | markSweep now => exact h

/-- Every state of the matrix stores cells under their agents. -/
theorem keyed_run (operations : List Operation) :
    (Machine.run perform {} operations).Keyed :=
  @Machine.run_invariant _ _ perform (fun _ _ => True) Keyed {} operations
    (fun _ _ => trivial) (stored_empty _)
    fun _ operation h _ => Keyed.perform h operation

end Matrix

/-! ### What one row contributes -/

section Row

variable {raw : NodeRow} {cell : Cell}

/-- The current cells of a row. -/
def currentCells (raw : NodeRow) : List Cell :=
  raw.cells.filter Cell.counted

/-- A row as it is before anything is derived from it. -/
structure Plain (raw : NodeRow) : Prop where
  alive : raw.alive = false
  localUnreachable : raw.localUnreachable = false

theorem reached_iff : reached raw = true ↔ ∃ cell ∈ currentCells raw,
    cell.agentStatus = .online ∨ cell.localStatus = .online := by
  simp only [reached, localUp, Bool.or_eq_true, List.any_eq_true,
    decide_eq_true_eq, currentCells]
  constructor
  · rintro (⟨cell, hcell, honline⟩ | ⟨cell, hcell, honline⟩)
    · exact ⟨cell, hcell, Or.inr honline⟩
    · exact ⟨cell, hcell, Or.inl honline⟩
  · rintro ⟨cell, hcell, honline | honline⟩
    · exact Or.inr ⟨cell, hcell, honline⟩
    · exact Or.inl ⟨cell, hcell, honline⟩

theorem localUp_iff : localUp raw = true ↔
    ∃ cell ∈ currentCells raw, cell.localStatus = .online := by
  simp only [localUp, List.any_eq_true, decide_eq_true_eq, currentCells]

/-- The finding about the checker, read off the row before the derivation. -/
def checkerFinding (raw : NodeRow) : Finding :=
  let streak := (blind raw).foldl (fun streak cell =>
    if streak < cell.streak then cell.streak else streak) raw.localStreak
  { stableID := raw.stableID
    name := raw.name
    isLocal := true
    status := ((currentCells raw).head?.map (·.localStatus)).getD .unknown
    since := (blind raw).foldl (fun since cell =>
      if since.isZero || cell.since < since then cell.since else since)
      raw.localSince
    streak := streak
    confirmed := confirmSweeps ≤ streak }

theorem exposed_counted (cell : Cell) :
    (exposed cell).counted = cell.counted := by
  unfold exposed
  split <;> rfl

theorem localStatusOf_deriveRow (h : reached raw = true) :
    localStatusOf (deriveRow raw) =
      ((currentCells raw).head?.map (·.localStatus)).getD .unknown := by
  have hfind : (raw.cells.map exposed).find? Cell.counted =
      (raw.cells.find? Cell.counted).map exposed := by
    rw [List.find?_map]
    congr 1
    apply List.find?_congr
    intro cell _
    exact exposed_counted cell
  rw [currentCells, List.head?_filter, deriveRow_of_reached h, localStatusOf,
    hfind]
  cases hfirst : raw.cells.find? Cell.counted with
  | none => rfl
  | some cell =>
      simp only [Option.map_some, Option.getD_some, exposed]
      split <;> rfl

/-- The flags of a row that was reached are those of its current cells: no
other cell came with the flag set. -/
def FlagsCurrent (raw : NodeRow) : Prop :=
  reached raw = true → ∀ cell ∈ raw.cells,
    cell.unreachable = true → cell.counted = true

/-- The findings of a row depend on its current cells alone. -/
theorem rowFindings_deriveRow (hplain : Plain raw)
    (hflags : FlagsCurrent raw) :
    rowFindings (deriveRow raw) =
      if reached raw then
        (if localUp raw then [] else [checkerFinding raw]) ++
          ((currentCells raw).filter (·.agentStatus ≠ .online)).map
            fun cell => agentFinding raw (exposed cell)
      else [] := by
  cases halive : reached raw with
  | false =>
      rw [deriveRow_of_not_reached halive, rowFindings, hplain.alive]
      rfl
  | true =>
      have hstatus := localStatusOf_deriveRow halive
      have hagents : ((deriveRow raw).cells.filter (·.unreachable)) =
          ((currentCells raw).filter (·.agentStatus ≠ .online)).map
            exposed := by
        rw [deriveRow_of_reached halive, List.filter_map, currentCells,
          List.filter_filter]
        congr 1
        apply List.filter_congr
        intro cell hcell
        simp only [Function.comp_apply, exposed]
        cases hcounted : cell.counted with
        | true => simp
        | false =>
            have hflag : cell.unreachable = false := by
              rw [← Bool.not_eq_true]
              intro hset
              have hshown := hflags halive cell hcell hset
              rw [hcounted] at hshown
              cases hshown
            simp [hflag]
      have hsome : (blind raw).isEmpty = localUp raw := by
        rw [blind]
        cases hup : localUp raw with
        | true => rfl
        | false =>
            obtain ⟨cell, hcell, -⟩ := reached_iff.mp halive
            rw [currentCells] at hcell
            simp only [Bool.false_eq_true, ↓reduceIte]
            rw [List.isEmpty_eq_false_iff]
            exact List.ne_nil_of_mem hcell
      have hrow : (deriveRow raw).alive = true ∧
          (deriveRow raw).localUnreachable = !localUp raw ∧
          localFinding (deriveRow raw) = checkerFinding raw := by
        rw [localFinding, hstatus, deriveRow_of_reached halive, hsome]
        exact ⟨rfl, rfl, rfl⟩
      have hcells : agentFinding (deriveRow raw) = agentFinding raw := by
        funext cell
        rw [agentFinding, agentFinding, deriveRow_of_reached halive]
      rw [rowFindings, hrow.1, hrow.2.1, hrow.2.2, hagents, hcells,
        List.map_map]
      cases localUp raw with
      | true => rfl
      | false => rfl

end Row

/-! ### The vantage points -/

namespace Matrix

variable {m : Matrix}

/-- A cell that was compared, in the last full pass. -/
def Speaks (m : Matrix) (cell : Cell) : Prop :=
  cell.verdict ≠ .unknown ∧
    ¬(0 < m.sweepGeneration ∧ cell.generation ≠ m.sweepGeneration)

instance (m : Matrix) (cell : Cell) : Decidable (m.Speaks cell) :=
  inferInstanceAs (Decidable (_ ∧ _))

/-- The cells of a node that are neither unknown nor stale. -/
def Current (m : Matrix) (stableID : Text) (cell : Cell) : Prop :=
  ∃ (row : GoMap Text Cell) (agentID : Text),
    m.cells[stableID]? = some row ∧ row[agentID]? = some cell ∧ m.Speaks cell

/-- The vantage point failed at the node, and a current one reached it; the
checker is `none`. -/
def Failed (m : Matrix) (stableID : Text) : Option Text → Prop
  | some agentID => ∃ cell, m.Current stableID cell ∧ cell.agentID = agentID ∧
      cell.agentStatus ≠ .online ∧
      (cell.localStatus = .online ∨ ∃ other, m.Current stableID other ∧
        other.agentID ≠ agentID ∧
        (other.agentStatus = .online ∨ other.localStatus = .online))
  | none => (∀ cell, m.Current stableID cell → cell.localStatus ≠ .online) ∧
      ∃ cell, m.Current stableID cell ∧ cell.agentStatus = .online

/-- The matrix with nothing but the current cells of one node. -/
def only (m : Matrix) (stableID : Text) : Matrix :=
  { m with
    cells := m.cells.filterMap fun other row =>
      if other = stableID then some (row.filter fun _ cell => m.Speaks cell)
      else none }

/-- The findings are exactly the current vantage points that failed where
another one did not, each once and in order, and those of a node depend on its
current cells alone. -/
structure FindingsExact (m : Matrix) : Prop where
  exact : ∀ stableID vantage,
    (∃ finding ∈ m.findings,
      finding.stableID = stableID ∧ finding.vantage = vantage) ↔
      m.Failed stableID vantage
  once : (m.findings.map fun finding =>
    (finding.stableID, finding.vantage)).Nodup
  ordered : m.findings.Pairwise fun a b => a.before b = true
  alone : ∀ stableID, m.findings.filter (·.stableID = stableID) =
    (m.only stableID).findings

/-- Where a current vantage point reached the node, no unknown or stale cell of
it came with the mark that `deriveRow` sets. -/
def MarksCurrent (m : Matrix) : Prop :=
  ∀ stableID, (∃ cell, m.Current stableID cell ∧
      (cell.agentStatus = .online ∨ cell.localStatus = .online)) →
    ∀ row, m.cells[stableID]? = some row → ∀ (agentID : Text) (cell : Cell),
      row[agentID]? = some cell → cell.unreachable = true → m.Speaks cell

theorem counted_marked {cell : Cell} :
    (m.marked cell).counted = true ↔ m.Speaks cell := by
  by_cases hverdict : cell.verdict = .unknown
  · simp [marked, Cell.counted, Speaks, hverdict]
  · simp [marked, Cell.counted, Speaks, hverdict, imp_iff_not_or]

/-- The current cells of a row, as they are stored. -/
theorem mem_currentCells {stableID : Text} {stored : GoMap Text Cell}
    (hstored : m.cells[stableID]? = some stored) {cell : Cell} :
    cell ∈ currentCells (m.rawRow (stableID, stored)) ↔
      ∃ kept, m.Current stableID kept ∧ cell = m.marked kept := by
  rw [currentCells, List.mem_filter, mem_rawRow_cells]
  constructor
  · rintro ⟨⟨agentID, kept, hkept, rfl⟩, hcounted⟩
    exact ⟨kept, ⟨stored, agentID, hstored, hkept,
      counted_marked.mp hcounted⟩, rfl⟩
  · rintro ⟨kept, ⟨row, agentID, hrow, hkept, hspeaks⟩, rfl⟩
    rw [hstored, Option.some.injEq] at hrow
    subst hrow
    exact ⟨⟨agentID, kept, hkept, rfl⟩, counted_marked.mpr hspeaks⟩

theorem plain_rawRow (entry : Text × GoMap Text Cell) :
    Plain (m.rawRow entry) :=
  ⟨rfl, rfl⟩

theorem MarksCurrent.flags (h : m.MarksCurrent) {stableID : Text}
    {stored : GoMap Text Cell} (hstored : m.cells[stableID]? = some stored) :
    FlagsCurrent (m.rawRow (stableID, stored)) := by
  intro hreached cell hcell hset
  obtain ⟨other, hother, honline⟩ := reached_iff.mp hreached
  obtain ⟨kept, hcurrent, rfl⟩ := (mem_currentCells hstored).mp hother
  obtain ⟨agentID, stale, hstale, rfl⟩ := mem_rawRow_cells.mp hcell
  exact counted_marked.mpr
    (h stableID ⟨kept, hcurrent, honline⟩ stored hstored agentID stale hstale
      hset)

/-- Two current cells of one agent are the same. -/
theorem Keyed.current_unique (h : m.Keyed) {stableID : Text}
    {cell other : Cell} (hcell : m.Current stableID cell)
    (hother : m.Current stableID other) (hsame : other.agentID = cell.agentID) :
    other = cell := by
  obtain ⟨row, agentID, hrow, hstored, -⟩ := hcell
  obtain ⟨row', agentID', hrow', hstored', -⟩ := hother
  rw [hrow, Option.some.injEq] at hrow'
  subst hrow'
  have hkey := (h stableID row hrow agentID cell hstored).1
  have hkey' := (h stableID row hrow agentID' other hstored').1
  rw [← hkey', hsame, hkey, hstored, Option.some.injEq] at hstored'
  exact hstored'.symm

/-- A current vantage point that failed, where another one did not. -/
theorem failed_of_reached (hkeyed : m.Keyed) {stableID : Text} {cell : Cell}
    (hcell : m.Current stableID cell) (hdown : cell.agentStatus ≠ .online)
    (hreached : ∃ other, m.Current stableID other ∧
      (other.agentStatus = .online ∨ other.localStatus = .online)) :
    m.Failed stableID (some cell.agentID) := by
  refine ⟨cell, hcell, rfl, hdown, ?_⟩
  obtain ⟨other, hother, honline⟩ := hreached
  by_cases hsame : other.agentID = cell.agentID
  · have hself := hkeyed.current_unique hcell hother hsame
    subst hself
    rcases honline with hagent | hlocal
    · exact absurd hagent hdown
    · exact Or.inl hlocal
  · exact Or.inr ⟨other, hother, hsame, honline⟩

theorem Failed.reached {stableID : Text} {vantage : Option Text}
    (h : m.Failed stableID vantage) : ∃ other, m.Current stableID other ∧
      (other.agentStatus = .online ∨ other.localStatus = .online) := by
  cases vantage with
  | none =>
      obtain ⟨-, cell, hcell, honline⟩ := h
      exact ⟨cell, hcell, Or.inl honline⟩
  | some agentID =>
      obtain ⟨cell, hcell, -, -, hlocal | ⟨other, hother, -, honline⟩⟩ := h
      · exact ⟨cell, hcell, Or.inr hlocal⟩
      · exact ⟨other, hother, honline⟩

/-- A row was reached where one of its current cells says so. -/
theorem reached_rawRow {stableID : Text} {stored : GoMap Text Cell}
    (hstored : m.cells[stableID]? = some stored) :
    reached (m.rawRow (stableID, stored)) = true ↔
      ∃ other, m.Current stableID other ∧
        (other.agentStatus = .online ∨ other.localStatus = .online) := by
  rw [reached_iff]
  constructor
  · rintro ⟨cell, hcell, honline⟩
    obtain ⟨kept, hcurrent, rfl⟩ := (mem_currentCells hstored).mp hcell
    exact ⟨kept, hcurrent, honline⟩
  · rintro ⟨kept, hcurrent, honline⟩
    exact ⟨m.marked kept, (mem_currentCells hstored).mpr ⟨kept, hcurrent, rfl⟩,
      honline⟩

theorem localUp_rawRow {stableID : Text} {stored : GoMap Text Cell}
    (hstored : m.cells[stableID]? = some stored) :
    localUp (m.rawRow (stableID, stored)) = true ↔
      ∃ cell, m.Current stableID cell ∧ cell.localStatus = .online := by
  rw [localUp_iff]
  constructor
  · rintro ⟨cell, hcell, honline⟩
    obtain ⟨kept, hcurrent, rfl⟩ := (mem_currentCells hstored).mp hcell
    exact ⟨kept, hcurrent, honline⟩
  · rintro ⟨kept, hcurrent, honline⟩
    exact ⟨m.marked kept, (mem_currentCells hstored).mpr ⟨kept, hcurrent, rfl⟩,
      honline⟩

theorem agentID_exposed (cell : Cell) : (exposed cell).agentID = cell.agentID := by
  unfold exposed
  split <;> rfl

/-- The findings of a matrix without foreign marks are those of its rows. -/
theorem mem_findings_iff (hmarks : m.MarksCurrent) {finding : Finding} :
    finding ∈ m.findings ↔ ∃ stableID stored,
      m.cells[stableID]? = some stored ∧
        (∃ other, m.Current stableID other ∧
          (other.agentStatus = .online ∨ other.localStatus = .online)) ∧
        ((∀ cell, m.Current stableID cell → cell.localStatus ≠ .online) ∧
            finding = checkerFinding (m.rawRow (stableID, stored)) ∨
          ∃ cell, m.Current stableID cell ∧ cell.agentStatus ≠ .online ∧
            finding = agentFinding (m.rawRow (stableID, stored))
              (exposed (m.marked cell))) := by
  rw [mem_findings]
  constructor
  · rintro ⟨row, hrow, hfinding⟩
    obtain ⟨stableID, stored, hstored, rfl⟩ := mem_rows.mp hrow
    refine ⟨stableID, stored, hstored, ?_⟩
    rw [rowFindings_deriveRow (plain_rawRow _) (hmarks.flags hstored)]
      at hfinding
    split at hfinding
    · rename_i hreached
      refine ⟨(reached_rawRow hstored).mp hreached, ?_⟩
      rcases List.mem_append.mp hfinding with hlocal | hagent
      · left
        split at hlocal
        · cases hlocal
        · rename_i hup
          refine ⟨fun cell hcell honline => hup ?_, List.mem_singleton.mp hlocal⟩
          exact (localUp_rawRow hstored).mpr ⟨cell, hcell, honline⟩
      · right
        obtain ⟨cell, hcell, rfl⟩ := List.mem_map.mp hagent
        rw [List.mem_filter, decide_eq_true_eq] at hcell
        obtain ⟨kept, hcurrent, rfl⟩ := (mem_currentCells hstored).mp hcell.1
        exact ⟨kept, hcurrent, hcell.2, rfl⟩
    · cases hfinding
  · rintro ⟨stableID, stored, hstored, hreached, hfinding⟩
    refine ⟨_, mem_rows.mpr ⟨stableID, stored, hstored, rfl⟩, ?_⟩
    rw [rowFindings_deriveRow (plain_rawRow _) (hmarks.flags hstored),
      if_pos ((reached_rawRow hstored).mpr hreached), List.mem_append]
    rcases hfinding with ⟨hdown, rfl⟩ | ⟨cell, hcell, hdown, rfl⟩
    · left
      have hup : ¬localUp (m.rawRow (stableID, stored)) = true := by
        rw [localUp_rawRow hstored]
        rintro ⟨cell, hcell, honline⟩
        exact hdown cell hcell honline
      rw [if_neg hup]
      exact List.mem_singleton_self _
    · right
      refine List.mem_map_of_mem (List.mem_filter.mpr ⟨?_, ?_⟩)
      · exact (mem_currentCells hstored).mpr ⟨cell, hcell, rfl⟩
      · rw [decide_eq_true_eq]
        exact hdown

/-- The vantage points listed are those that failed. -/
theorem exact_of_marksCurrent (hkeyed : m.Keyed) (hmarks : m.MarksCurrent)
    (stableID : Text) (vantage : Option Text) :
    (∃ finding ∈ m.findings,
      finding.stableID = stableID ∧ finding.vantage = vantage) ↔
      m.Failed stableID vantage := by
  simp only [mem_findings_iff hmarks]
  constructor
  · rintro ⟨finding, ⟨id, stored, hstored, hreached, hfinding⟩, rfl, rfl⟩
    rcases hfinding with ⟨hdown, rfl⟩ | ⟨cell, hcell, hdown, rfl⟩
    · obtain ⟨other, hother, hagent | hlocal⟩ := hreached
      · exact ⟨hdown, other, hother, hagent⟩
      · exact absurd hlocal (hdown other hother)
    · have hfailed := failed_of_reached hkeyed hcell hdown hreached
      simpa [Finding.vantage, agentFinding, agentID_exposed, marked, rawRow]
        using hfailed
  · intro hfailed
    have hreached := hfailed.reached
    cases vantage with
    | none =>
        obtain ⟨hdown, cell, hcell, -⟩ := hfailed
        obtain ⟨row, -, hrow, -⟩ := hcell
        exact ⟨_, ⟨stableID, row, hrow, hreached, Or.inl ⟨hdown, rfl⟩⟩, rfl, rfl⟩
    | some agentID =>
        obtain ⟨cell, hcell, rfl, hdown, -⟩ := hfailed
        have hin := hcell
        obtain ⟨row, -, hrow, -⟩ := hin
        refine ⟨_, ⟨stableID, row, hrow, hreached,
          Or.inr ⟨cell, hcell, hdown, rfl⟩⟩, rfl, ?_⟩
        simp [Finding.vantage, agentFinding, agentID_exposed, marked]

/-- The agents of a row are in strict order. -/
theorem rawRow_sorted (hkeyed : m.Keyed) {stableID : Text}
    {stored : GoMap Text Cell} (hstored : m.cells[stableID]? = some stored) :
    (m.rawRow (stableID, stored)).cells.Pairwise
      fun a b => a.agentID < b.agentID := by
  have hkeys : ∀ entry ∈ stored.toList, (m.marked entry.2).agentID = entry.1 := by
    rintro ⟨agentID, cell⟩ hentry
    exact (hkeyed stableID stored hstored agentID cell
      (Std.ExtTreeMap.mem_toList_iff_getElem?_eq_some.mp hentry)).1
  have hagents : (stored.toList.map fun entry =>
      (m.marked entry.2).agentID).Nodup := by
    rw [List.map_congr_left hkeys]
    exact GoMap.nodup_map_fst_toList stored
  have hdistinct : ((stored.toList.map fun entry =>
      m.marked entry.2).map (·.agentID)).Nodup := by
    rw [List.map_map]
    exact hagents
  have hsorted := List.pairwise_insertionSort
    (fun a b : Cell => a.agentID ≤ b.agentID)
    (stored.toList.map fun entry => m.marked entry.2)
  have hnodup := ((List.perm_insertionSort
    (fun a b : Cell => a.agentID ≤ b.agentID)
    (stored.toList.map fun entry => m.marked entry.2)).map
      (·.agentID)).nodup_iff.mpr hdistinct
  exact (hsorted.and (List.pairwise_map.mp hnodup)).imp
    fun h => lt_of_le_of_ne h.1 h.2

theorem place_stableID {row : NodeRow} {finding : Finding}
    (h : finding ∈ rowFindings row) : finding.stableID = row.stableID := by
  obtain ⟨-, ⟨-, rfl⟩ | ⟨cell, -, -, rfl⟩⟩ := mem_rowFindings.mp h
  · rfl
  · rfl

/-- The findings of one row are about different vantage points. -/
theorem rowFindings_places (hkeyed : m.Keyed) {stableID : Text}
    {stored : GoMap Text Cell} (hstored : m.cells[stableID]? = some stored) :
    ((rowFindings (deriveRow (m.rawRow (stableID, stored)))).map
      Finding.place).Nodup := by
  have hagents : ((deriveRow (m.rawRow (stableID, stored))).cells.map
      (·.agentID)) = (m.rawRow (stableID, stored)).cells.map (·.agentID) := by
    rw [deriveRow_cells, List.map_map]
    apply List.map_congr_left
    intro cell _
    exact (shown_same _ cell).2.1
  have hdistinct : ((deriveRow (m.rawRow (stableID, stored))).cells.map
      (·.agentID)).Nodup := by
    rw [hagents]
    exact List.pairwise_map.mpr ((rawRow_sorted hkeyed hstored).imp ne_of_lt)
  have hnamed : ∀ cell ∈ (deriveRow (m.rawRow (stableID, stored))).cells,
      cell.agentID ≠ [] := by
    intro cell hcell
    have hmem := List.mem_map_of_mem (f := (·.agentID)) hcell
    rw [hagents, List.mem_map] at hmem
    obtain ⟨raw, hraw, hsame⟩ := hmem
    obtain ⟨agentID, kept, hkept, rfl⟩ := mem_rawRow_cells.mp hraw
    have hkey := hkeyed stableID stored hstored agentID kept hkept
    rw [← hsame]
    exact fun hempty => hkey.2 (hkey.1.symm.trans hempty)
  generalize deriveRow (m.rawRow (stableID, stored)) = row at hdistinct hnamed
  rw [rowFindings]
  split
  · exact List.nodup_nil
  · rw [List.map_append, List.map_map, List.nodup_append]
    refine ⟨?_, ?_, ?_⟩
    · split
      · exact List.nodup_singleton _
      · exact List.nodup_nil
    · have hkept := (hdistinct.sublist
        ((row.cells.filter_sublist (p := (·.unreachable))).map (·.agentID)))
      rw [List.nodup_iff_pairwise_ne, List.pairwise_map] at hkept ⊢
      exact hkept.imp fun hne hsame => hne (Prod.ext_iff.mp hsame).2
    · intro place hplace other hother hsame
      obtain ⟨cell, hcell, rfl⟩ := List.mem_map.mp hother
      have hne := hnamed cell (List.mem_of_mem_filter hcell)
      split at hplace
      · rw [List.map_singleton, List.mem_singleton] at hplace
        rw [hplace] at hsame
        exact hne (Prod.ext_iff.mp hsame).2.symm
      · cases hplace

/-- The findings of a matrix are about different vantage points. -/
theorem findings_places (hkeyed : m.Keyed) :
    ((m.rows.flatMap rowFindings).map Finding.place).Nodup := by
  rw [List.map_flatMap, List.nodup_flatMap]
  constructor
  · intro row hrow
    obtain ⟨stableID, stored, hstored, rfl⟩ := mem_rows.mp hrow
    exact rowFindings_places hkeyed hstored
  · rw [rows, List.pairwise_map]
    have hkeys := GoMap.nodup_map_fst_toList m.cells
    rw [List.nodup_iff_pairwise_ne, List.pairwise_map] at hkeys
    refine hkeys.imp ?_
    intro left right hne
    rw [Function.onFun, List.disjoint_left]
    intro place hleft hright
    obtain ⟨finding, hfinding, rfl⟩ := List.mem_map.mp hleft
    obtain ⟨other, hother, hsame⟩ := List.mem_map.mp hright
    have hids := (Prod.ext_iff.mp hsame).1
    simp only [Finding.place, place_stableID hfinding, place_stableID hother,
      deriveRow_stableID] at hids
    exact hne hids.symm

theorem findings_ordered (hkeyed : m.Keyed) :
    m.findings.Pairwise fun a b => a.before b = true :=
  sorted_before (findings_places hkeyed)

theorem findings_once (hkeyed : m.Keyed) :
    (m.findings.map fun finding =>
      (finding.stableID, finding.vantage)).Nodup := by
  have hplaces : (m.findings.map Finding.place).Nodup :=
    ((List.perm_insertionSort _ _).map _).nodup_iff.mpr
      (findings_places hkeyed)
  have hdetermined : m.findings.map Finding.place =
      (m.findings.map fun finding => (finding.stableID, finding.vantage)).map
        fun place => (place.1, place.2.getD []) := by
    rw [List.map_map]
    apply List.map_congr_left
    intro finding hfinding
    obtain ⟨row, -, hrow⟩ := mem_findings.mp hfinding
    obtain ⟨-, ⟨-, rfl⟩ | ⟨cell, -, -, rfl⟩⟩ := mem_rowFindings.mp hrow
    · rfl
    · rfl
  rw [hdetermined] at hplaces
  exact hplaces.of_map _

/-! ### One node alone -/

/-- The findings about a node are those of its row. -/
theorem findings_of_row (stableID : Text) :
    (m.rows.flatMap rowFindings).filter (·.stableID = stableID) =
      ((m.cells[stableID]?).map fun stored =>
        rowFindings (deriveRow (m.rawRow (stableID, stored)))).getD [] := by
  have hown : ∀ entry : Text × GoMap Text Cell,
      (rowFindings (deriveRow (m.rawRow entry))).filter
          (·.stableID = stableID) =
        if entry.1 = stableID then rowFindings (deriveRow (m.rawRow entry))
        else [] := by
    intro entry
    split
    · rename_i hsame
      rw [List.filter_eq_self]
      intro finding hfinding
      rw [place_stableID hfinding, deriveRow_stableID, decide_eq_true_eq]
      exact hsame
    · rename_i hother
      rw [List.filter_eq_nil_iff]
      intro finding hfinding hsame
      rw [place_stableID hfinding, deriveRow_stableID, decide_eq_true_eq]
        at hsame
      exact hother hsame
  rw [rows, List.flatMap_map, List.filter_flatMap]
  simp only [hown]
  cases hfound : m.cells[stableID]? with
  | none =>
      simp only [Option.map_none, Option.getD_none, List.flatMap_eq_nil_iff]
      rintro ⟨key, stored⟩ hentry
      rw [if_neg]
      rintro rfl
      rw [Std.ExtTreeMap.mem_toList_iff_getElem?_eq_some, hfound] at hentry
      cases hentry
  | some stored =>
      obtain ⟨front, back, hsplit, hfront, hback⟩ :=
        GoMap.toList_split m.cells hfound
      have hnone : ∀ rest : List (Text × GoMap Text Cell),
          (∀ entry ∈ rest, entry.1 ≠ stableID) →
          (rest.flatMap fun entry =>
            if entry.1 = stableID then
              rowFindings (deriveRow (m.rawRow entry)) else []) = [] := by
        intro rest hrest
        rw [List.flatMap_eq_nil_iff]
        intro entry hentry
        rw [if_neg (hrest entry hentry)]
      rw [hsplit, List.flatMap_append, List.flatMap_cons, hnone front hfront,
        hnone back hback]
      simp

theorem cells_only (m : Matrix) (stableID other : Text) :
    (m.only stableID).cells[other]? =
      if other = stableID then
        (m.cells[other]?).map fun row =>
          row.filter fun _ cell => m.Speaks cell
      else none := by
  rw [only, Std.ExtTreeMap.getElem?_filterMap']
  cases m.cells[other]? with
  | none => simp
  | some row =>
      rw [Option.bind_some, Option.map_some]

theorem Keyed.only (h : m.Keyed) (stableID : Text) :
    (m.only stableID).Keyed := by
  intro other row hrow agentID cell hcell
  rw [cells_only] at hrow
  split at hrow
  · obtain ⟨old, hold, rfl⟩ := Option.map_eq_some_iff.mp hrow
    rw [Std.ExtTreeMap.getElem?_filter', Option.filter_eq_some_iff] at hcell
    exact h other old hold agentID cell hcell.1
  · cases hrow

/-- The row of a node alone is the row without the cells that do not count. -/
theorem rawRow_only (hkeyed : m.Keyed) {stableID : Text}
    {stored : GoMap Text Cell} (hstored : m.cells[stableID]? = some stored) :
    (m.only stableID).rawRow
        (stableID, stored.filter fun _ cell => m.Speaks cell) =
      { m.rawRow (stableID, stored) with
        cells := currentCells (m.rawRow (stableID, stored)) } := by
  have honly : (m.only stableID).cells[stableID]? =
      some (stored.filter fun _ cell => m.Speaks cell) := by
    rw [cells_only, if_pos rfl, hstored, Option.map_some]
  have hperm : ((m.only stableID).rawRow
      (stableID, stored.filter fun _ cell => m.Speaks cell)).cells.Perm
        (currentCells (m.rawRow (stableID, stored))) := by
    refine (List.perm_insertionSort _ _).trans ?_
    refine List.Perm.trans ?_ ((List.perm_insertionSort _ _).symm.filter _)
    rw [Std.ExtTreeMap.toList_filter, List.filter_map]
    refine List.Perm.of_eq (congrArg _ (List.filter_congr ?_))
    intro entry _
    rw [Function.comp_apply, Bool.eq_iff_iff, decide_eq_true_eq,
      counted_marked]
  have hsorted := rawRow_sorted (hkeyed.only stableID) honly
  have hcurrent := (rawRow_sorted hkeyed hstored).filter Cell.counted
  have hcells : ((m.only stableID).rawRow
      (stableID, stored.filter fun _ cell => m.Speaks cell)).cells =
        currentCells (m.rawRow (stableID, stored)) :=
    hperm.eq_of_pairwise (fun a b _ _ hab hba =>
      absurd (hab.trans hba) (lt_irrefl _)) hsorted hcurrent
  rw [← hcells]
  rfl

theorem currentCells_only (raw : NodeRow) :
    currentCells { raw with cells := currentCells raw } = currentCells raw := by
  simp [currentCells]

/-- A row without the cells that do not count has the same findings. -/
theorem rowFindings_current {raw : NodeRow} (hplain : Plain raw)
    (hflags : FlagsCurrent raw) :
    rowFindings (deriveRow { raw with cells := currentCells raw }) =
      rowFindings (deriveRow raw) := by
  have hcurrent := currentCells_only raw
  have hreached : reached { raw with cells := currentCells raw } =
      reached raw := by
    rw [Bool.eq_iff_iff, reached_iff, reached_iff, hcurrent]
  have hup : localUp { raw with cells := currentCells raw } =
      localUp raw := by
    rw [Bool.eq_iff_iff, localUp_iff, localUp_iff, hcurrent]
  have hblind : blind { raw with cells := currentCells raw } = blind raw := by
    rw [blind, blind, hup, ← currentCells, ← currentCells, hcurrent]
  have hshown : FlagsCurrent { raw with cells := currentCells raw } := by
    intro _ cell hcell _
    exact (List.mem_filter.mp hcell).2
  have hstill : Plain { raw with cells := currentCells raw } :=
    ⟨hplain.alive, hplain.localUnreachable⟩
  rw [rowFindings_deriveRow hstill hshown, rowFindings_deriveRow hplain hflags,
    hreached, hup, hcurrent]
  simp only [checkerFinding, hblind, hcurrent]
  rfl

/-- The findings about a node are those of its current cells alone. -/
theorem findings_alone (hkeyed : m.Keyed) (hmarks : m.MarksCurrent)
    (stableID : Text) :
    m.findings.filter (·.stableID = stableID) =
      (m.only stableID).findings := by
  have hleft := (findings_ordered hkeyed).filter (·.stableID = stableID)
  have hright := findings_ordered (hkeyed.only stableID)
  refine eq_of_sorted ?_ hleft hright
  refine ((List.perm_insertionSort _ _).filter _).trans ?_
  refine List.Perm.trans ?_ (List.perm_insertionSort _ _).symm
  have hall : ((m.only stableID).rows.flatMap rowFindings).filter
      (·.stableID = stableID) = (m.only stableID).rows.flatMap rowFindings := by
    rw [List.filter_eq_self]
    intro finding hfinding
    obtain ⟨row, hrow, hmem⟩ := List.mem_flatMap.mp hfinding
    obtain ⟨other, stored, hstored, rfl⟩ := mem_rows.mp hrow
    rw [place_stableID hmem, deriveRow_stableID, decide_eq_true_eq]
    rw [cells_only] at hstored
    split at hstored
    · assumption
    · cases hstored
  rw [← hall, findings_of_row, findings_of_row]
  cases hfound : m.cells[stableID]? with
  | none =>
      simp [cells_only, hfound]
  | some stored =>
      have honly : (m.only stableID).cells[stableID]? =
          some (stored.filter fun _ cell => m.Speaks cell) := by
        rw [cells_only, if_pos rfl, hfound, Option.map_some]
      rw [honly, Option.map_some, Option.map_some, Option.getD_some,
        Option.getD_some, rawRow_only hkeyed hfound,
        rowFindings_current (plain_rawRow _) (hmarks.flags hfound)]

/-- In every state of the matrix the findings are exact if and only if no mark
was stored with a cell that does not count, where a node was reached. -/
theorem findings_exact_iff (operations : List Operation) :
    FindingsExact (Machine.run perform {} operations) ↔
      MarksCurrent (Machine.run perform {} operations) := by
  have hkeyed := keyed_run operations
  generalize Machine.run perform {} operations = m at hkeyed
  constructor
  · intro h stableID hreached row hrow agentID cell hcell hset
    by_contra hsilent
    obtain ⟨finding, hfinding, hid, hvantage⟩ : ∃ finding ∈ m.findings,
        finding.stableID = stableID ∧
          finding.vantage = some cell.agentID := by
      refine ⟨_, mem_findings.mpr ⟨_, mem_rows.mpr ⟨stableID, row, hrow, rfl⟩,
        mem_rowFindings.mpr ⟨?_, Or.inr ⟨m.marked cell, ?_, hset, rfl⟩⟩⟩, ?_,
        rfl⟩
      · rw [deriveRow_of_reached ((reached_rawRow hrow).mpr hreached)]
      · rw [deriveRow_of_reached ((reached_rawRow hrow).mpr hreached)]
        refine List.mem_map.mpr ⟨m.marked cell,
          mem_rawRow_cells.mpr ⟨agentID, cell, hcell, rfl⟩, ?_⟩
        rw [exposed, if_neg fun hcounted => hsilent (counted_marked.mp hcounted)]
      · exact deriveRow_stableID _
    obtain ⟨other, hother, hsame, -⟩ :=
      (h.exact stableID _).mp ⟨finding, hfinding, hid, hvantage⟩
    obtain ⟨row', agentID', hrow', hstored', hspeaks⟩ := hother
    rw [hrow, Option.some.injEq] at hrow'
    subst hrow'
    have hkey := (hkeyed stableID row hrow agentID cell hcell).1
    have hkey' := (hkeyed stableID row hrow agentID' other hstored').1
    rw [← hkey', hsame, hkey, hcell, Option.some.injEq] at hstored'
    exact hsilent (hstored' ▸ hspeaks)
  · intro hmarks
    exact ⟨exact_of_marksCurrent hkeyed hmarks, findings_once hkeyed,
      findings_ordered hkeyed, findings_alone hkeyed hmarks⟩

end Matrix

/-- Over the runs of the program on its own files, no mark is ever stored. -/
theorem marksCurrent_run (events : List Event) :
    (Machine.run World.step {} events).matrix.MarksCurrent := by
  intro stableID _ row hrow agentID cell hcell hset
  have hgood := (World.evident_run events).memory stableID row hrow agentID cell hcell
  rw [hgood.plain] at hset
  cases hset

namespace Sample

/-- A state file in which a cell without a verdict carries the mark. -/
def markedFile : StateFile where
  version := stateVersion
  updatedAt := 100
  lastSweepAt := 100
  sweepGeneration := 0
  nodes := (∅ : GoMap Text (GoMap Text Cell)).insert "n1"
    (((∅ : GoMap Text Cell).insert "a"
        { agentID := "a", verdict := .agreedUp, agentStatus := .online
          localStatus := .online, checkedAt := 100, localCheckedAt := 90
          since := 100, streak := 1 }).insert "b"
      { agentID := "b", localStatus := .online, checkedAt := 100
        localCheckedAt := 90, unreachable := true, since := 100, streak := 1 })
  names := ∅

/-- The mark of the file is shown as a finding about `b`, whose cell is
unknown. -/
theorem stored_mark_listed :
    ¬Matrix.FindingsExact
      (Machine.run Matrix.perform {} [.load markedFile]) := by
  intro h
  have hlength := congrArg List.length (h.alone "n1")
  exact absurd hlength (by decide +kernel)

end Sample

end XrayChecker.Reachability

import XrayChecker.Machine.Run
import XrayChecker.Reachability.Matrix

/-
When a confirmed finding rests on repeated evidence.  Over a run every
disagreement that ever stood in the matrix is noted: a vantage point whose
current cell is a failure beside another one that reached the node.
-/

namespace XrayChecker.Reachability

open Go Diagnostics Machine

/-- One vantage point failing while another one reached the node; the checker
is `none`. -/
structure Disagreement where
  stableID : Text
  failing : Option Text
  /-- The local sample the failure was compared with. -/
  sample : Time
  reachedBy : Option Text
  /-- The local sample of the success, and when it was observed. -/
  reachedSample : Time
  reachedAt : Time
deriving DecidableEq

/-- The successes one cell shows. -/
def successes (cell : Cell) : List (Option Text × Time × Time) :=
  (if cell.agentStatus = .online then
      [(some cell.agentID, cell.localCheckedAt, cell.checkedAt)] else []) ++
    if cell.localStatus = .online then
      [(none, cell.localCheckedAt, cell.localCheckedAt)] else []

/-- The failures one cell shows. -/
def failures (cell : Cell) : List (Option Text × Time) :=
  (if cell.agentStatus = .online then []
    else [(some cell.agentID, cell.localCheckedAt)]) ++
      if cell.localStatus = .online then []
      else [(none, cell.localCheckedAt)]

/-- The disagreements within one row. -/
def rowDisagreements (row : NodeRow) : List Disagreement :=
  let counted := row.cells.filter Cell.counted
  (counted.flatMap failures).flatMap fun failure =>
    ((counted.flatMap successes).filter fun success =>
      success.1 ≠ failure.1).map fun success =>
      { stableID := row.stableID
        failing := failure.1
        sample := failure.2
        reachedBy := success.1
        reachedSample := success.2.1
        reachedAt := success.2.2 }

def Matrix.disagreements (m : Matrix) : List Disagreement :=
  m.rows.flatMap rowDisagreements

/-- The matrix, its file, and every disagreement that was seen. -/
structure World where
  matrix : Matrix := {}
  file : Option StateFile := none
  seen : List Disagreement := []

inductive Event where
  | beginSweep
  | record (stableID : Text) (session : DiagnosticSession) (agentID : Text)
      (now : Time)
  | retain (nodes : GoMap Text Text) (agents : List Text)
  | markSweep (now : Time)
  | save (now : Time)
  | restart

namespace World

/-- The matrix after an event; a restart loads what was saved last. -/
def changed (w : World) : Event → Matrix
  | .beginSweep => w.matrix.beginSweep
  | .record stableID session agentID now =>
      w.matrix.record stableID (cellFor session agentID now) now
  | .retain nodes agents => w.matrix.retain nodes fun id => agents.contains id
  | .markSweep now => w.matrix.markSweep now
  | .save _ => w.matrix
  | .restart =>
      match w.file.map Matrix.load with
      | some (.ok matrix) => matrix
      | some (.error _) | none => {}

def step (w : World) (event : Event) : World :=
  let matrix := w.changed event
  { matrix := matrix
    file :=
      match event with
      | .save now => some (w.matrix.save now)
      | _ => w.file
    seen := w.seen ++ matrix.disagreements }

end World

/-- Two disagreements of one vantage point at a node, against two local
samples and not with one success. -/
def Repeated (seen : List Disagreement) (stableID : Text)
    (failing : Option Text) : Prop :=
  ∃ first ∈ seen, ∃ second ∈ seen,
    (first.stableID = stableID ∧ first.failing = failing) ∧
      (second.stableID = stableID ∧ second.failing = failing) ∧
      first.sample ≠ second.sample ∧
      (first.reachedBy, first.reachedSample, first.reachedAt) ≠
        (second.reachedBy, second.reachedSample, second.reachedAt)

instance (seen : List Disagreement) (stableID : Text)
    (failing : Option Text) : Decidable (Repeated seen stableID failing) :=
  inferInstanceAs (Decidable (∃ _ ∈ _, _))

/-- The vantage point a finding is about. -/
def Finding.vantage (finding : Finding) : Option Text :=
  if finding.isLocal then none else some finding.agentID

/-- Every confirmed finding was seen repeatedly. -/
def ConfirmedRepeatedly (w : World) : Prop :=
  ∀ finding ∈ w.matrix.findings, finding.confirmed = true →
    Repeated w.seen finding.stableID finding.vantage

instance (w : World) : Decidable (ConfirmedRepeatedly w) :=
  inferInstanceAs (Decidable (∀ _ ∈ _, _))

/-- An agreement in failure counts only where it outlived disagreements: the
agent of a current `agreed_down` cell with a streak was seen failing beside
others repeatedly, and so was the checker, unless an agent has contradicted it
in a streak of its own. -/
def AgreementsTested (w : World) : Prop :=
  ∀ row ∈ w.matrix.rows, row.alive = true → ∀ cell ∈ row.cells,
    cell.counted = true → cell.verdict = .agreedDown →
    confirmSweeps ≤ cell.streak →
    Repeated w.seen row.stableID (some cell.agentID) ∧
      (row.localUnreachable = true →
        (∃ other ∈ row.cells, other.counted = true ∧
          other.verdict = .localOnlyFailure ∧
          confirmSweeps ≤ other.streak) ∨
        Repeated w.seen row.stableID none)

/-- What is known of every stored cell. -/
def Stored (P : Text → Text → Cell → Prop)
    (cells : GoMap Text (GoMap Text Cell)) : Prop :=
  ∀ stableID row, cells[stableID]? = some row →
    ∀ agentID cell, row[agentID]? = some cell → P stableID agentID cell

/-- A disagreement a cell shows by itself. -/
def Own (stableID : Text) (failing reachedBy : Option Text) (sample : Time)
    (d : Disagreement) : Prop :=
  d.stableID = stableID ∧ d.failing = failing ∧ d.reachedBy = reachedBy ∧
    d.sample = sample ∧ d.reachedSample = sample

/-- A cell whose disagreement was seen, and seen at another sample too where
its streak is more than one. -/
def Streaked (seen : List Disagreement) (stableID : Text)
    (failing reachedBy : Option Text) (cell : Cell) : Prop :=
  (∃ d ∈ seen, Own stableID failing reachedBy cell.localCheckedAt d) ∧
    (confirmSweeps ≤ cell.streak → ∃ sample, sample ≠ cell.localCheckedAt ∧
      ∃ d ∈ seen, Own stableID failing reachedBy sample d)

/-- A stored cell. -/
structure Good (seen : List Disagreement) (stableID agentID : Text)
    (cell : Cell) : Prop where
  trimmed : trimSpace stableID = stableID ∧ trimSpace agentID = agentID
  key : cell.agentID = agentID
  plain : cell.unreachable = false
  known : cell.verdict = .unknown ∨ cell.verdict =
    compared (cell.localStatus = .online) (cell.agentStatus = .online)
  agentOnly : cell.verdict = .agentOnlyFailure →
    Streaked seen stableID (some agentID) none cell
  localOnly : cell.verdict = .localOnlyFailure →
    Streaked seen stableID none (some agentID) cell

section

variable {seen later : List Disagreement} {stableID agentID : Text}
  {failing reachedBy : Option Text} {cell previous : Cell}

theorem Streaked.mono (h : Streaked seen stableID failing reachedBy cell)
    (hsub : ∀ d ∈ seen, d ∈ later) :
    Streaked later stableID failing reachedBy cell := by
  obtain ⟨⟨d, hd, hown⟩, hrepeated⟩ := h
  refine ⟨⟨d, hsub d hd, hown⟩, ?_⟩
  intro hstreak
  obtain ⟨sample, hne, d, hd, hown⟩ := hrepeated hstreak
  exact ⟨sample, hne, d, hsub d hd, hown⟩

theorem Good.mono (h : Good seen stableID agentID cell)
    (hsub : ∀ d ∈ seen, d ∈ later) : Good later stableID agentID cell where
  trimmed := h.trimmed
  key := h.key
  plain := h.plain
  known := h.known
  agentOnly hverdict := (h.agentOnly hverdict).mono hsub
  localOnly hverdict := (h.localOnly hverdict).mono hsub

/-- A streak of two is repeated evidence. -/
theorem Streaked.repeated (h : Streaked seen stableID failing reachedBy cell)
    (hstreak : confirmSweeps ≤ cell.streak) :
    Repeated seen stableID failing := by
  obtain ⟨⟨first, hfirst, hid, hfailing, -, hsample, hreached⟩, hrepeated⟩ := h
  obtain ⟨sample, hne, second, hsecond, hid', hfailing', -, hsample',
    hreached'⟩ := hrepeated hstreak
  refine ⟨first, hfirst, second, hsecond, ⟨hid, hfailing⟩, ⟨hid', hfailing'⟩,
    ?_, ?_⟩
  · rw [hsample, hsample']
    exact hne.symm
  · intro hsame
    simp only [Prod.mk.injEq] at hsame
    rw [hreached, hreached'] at hsame
    exact hne hsame.2.1.symm

/-- Only the streak and its start depend on the previous cell. -/
theorem recorded_eq (previous : Option Cell) (cell : Cell) :
    ∃ since streak, Matrix.recorded previous cell =
      { cell with since := since, streak := streak } := by
  cases previous with
  | none => exact ⟨_, _, rfl⟩
  | some old =>
      simp only [Matrix.recorded]
      split
      · exact ⟨_, _, rfl⟩
      · exact ⟨_, _, rfl⟩

theorem recorded_localCheckedAt (previous : Option Cell) (cell : Cell) :
    (Matrix.recorded previous cell).localCheckedAt = cell.localCheckedAt := by
  obtain ⟨since, streak, hcell⟩ := recorded_eq previous cell
  rw [hcell]

/-- One more observation of a disagreement. -/
theorem Streaked.recorded {previous : Option Cell}
    (hown : ∃ d ∈ later, Own stableID failing reachedBy cell.localCheckedAt d)
    (hprevious : ∀ old, previous = some old → old.verdict = cell.verdict →
      Streaked seen stableID failing reachedBy old)
    (hsub : ∀ d ∈ seen, d ∈ later) :
    Streaked later stableID failing reachedBy
      (Matrix.recorded previous cell) := by
  rw [Streaked, recorded_localCheckedAt]
  refine ⟨hown, ?_⟩
  intro hstreak
  cases previous with
  | none => exact absurd hstreak (by simp [Matrix.recorded, confirmSweeps])
  | some old =>
      by_cases hsame : old.verdict = cell.verdict ∧ old.since.isZero = false
      · obtain ⟨⟨d, hd, hold⟩, hmore⟩ := hprevious old rfl hsame.1
        by_cases hagain : old.localCheckedAt = cell.localCheckedAt
        · -- The same sample read again leaves the streak as it was.
          have hkept : confirmSweeps ≤ old.streak := by
            simpa [Matrix.recorded, hsame, hagain] using hstreak
          obtain ⟨sample, hne, e, he, hearlier⟩ := hmore hkept
          exact ⟨sample, hagain ▸ hne, e, hsub e he, hearlier⟩
        · exact ⟨_, hagain, d, hsub d hd, hold⟩
      · exact absurd hstreak (by simp [Matrix.recorded, hsame, confirmSweeps])

end

/-- A cell as `deriveRow` shows it. -/
def shown (alive : Bool) (cell : Cell) : Cell :=
  if alive then exposed cell else cell

/-- What `deriveRow` leaves of a cell as it is. -/
theorem shown_same (alive : Bool) (cell : Cell) :
    (shown alive cell).counted = cell.counted ∧
      (shown alive cell).agentID = cell.agentID ∧
      (shown alive cell).verdict = cell.verdict ∧
      (shown alive cell).streak = cell.streak ∧
      failures (shown alive cell) = failures cell ∧
      successes (shown alive cell) = successes cell := by
  rw [shown, exposed]
  split
  · split
    · exact ⟨rfl, rfl, rfl, rfl, rfl, rfl⟩
    · exact ⟨rfl, rfl, rfl, rfl, rfl, rfl⟩
  · exact ⟨rfl, rfl, rfl, rfl, rfl, rfl⟩

theorem deriveRow_of_reached {row : NodeRow} (h : reached row = true) :
    deriveRow row =
      { row with
        alive := true
        cells := row.cells.map exposed
        localUnreachable := !(blind row).isEmpty
        localStreak := (blind row).foldl (fun streak cell =>
          if streak < cell.streak then cell.streak else streak) row.localStreak
        localSince := (blind row).foldl (fun since cell =>
          if since.isZero || cell.since < since then cell.since else since)
          row.localSince } := by
  simp [deriveRow, h]

theorem deriveRow_of_not_reached {row : NodeRow} (h : reached row = false) :
    deriveRow row = row := by
  simp [deriveRow, h]

theorem deriveRow_cells (row : NodeRow) :
    (deriveRow row).cells = row.cells.map (shown (reached row)) := by
  cases h : reached row with
  | true =>
      rw [deriveRow_of_reached h]
      rfl
  | false =>
      rw [deriveRow_of_not_reached h]
      exact (List.map_id row.cells).symm

theorem deriveRow_stableID (row : NodeRow) :
    (deriveRow row).stableID = row.stableID := by
  cases h : reached row with
  | true => rw [deriveRow_of_reached h]
  | false => rw [deriveRow_of_not_reached h]

/-- The disagreements are those of the stored cells. -/
theorem rowDisagreements_deriveRow (row : NodeRow) :
    rowDisagreements (deriveRow row) = rowDisagreements row := by
  have hcounted : (deriveRow row).cells.filter Cell.counted =
      (row.cells.filter Cell.counted).map (shown (reached row)) := by
    rw [deriveRow_cells, List.filter_map]
    congr 1
    apply List.filter_congr
    intro cell _
    exact (shown_same _ cell).1
  have hfailures : ∀ cell, failures (shown (reached row) cell) =
      failures cell := fun cell => (shown_same _ cell).2.2.2.2.1
  have hsuccesses : ∀ cell, successes (shown (reached row) cell) =
      successes cell := fun cell => (shown_same _ cell).2.2.2.2.2
  simp only [rowDisagreements, hcounted, deriveRow_stableID, List.flatMap_map,
    hfailures, hsuccesses]

namespace Matrix

variable {m : Matrix}

theorem mem_rows {row : NodeRow} :
    row ∈ m.rows ↔ ∃ stableID stored, m.cells[stableID]? = some stored ∧
      row = deriveRow (m.rawRow (stableID, stored)) := by
  simp only [rows, List.mem_map, Prod.exists]
  constructor
  · rintro ⟨stableID, stored, hentry, rfl⟩
    exact ⟨stableID, stored,
      Std.ExtTreeMap.mem_toList_iff_getElem?_eq_some.mp hentry, rfl⟩
  · rintro ⟨stableID, stored, hentry, rfl⟩
    exact ⟨stableID, stored,
      Std.ExtTreeMap.mem_toList_iff_getElem?_eq_some.mpr hentry, rfl⟩

theorem mem_rawRow_cells {stableID : Text} {stored : GoMap Text Cell}
    {cell : Cell} :
    cell ∈ (m.rawRow (stableID, stored)).cells ↔
      ∃ (agentID : Text) (kept : Cell), stored[agentID]? = some kept ∧
        cell = m.marked kept := by
  simp only [rawRow, List.mem_insertionSort, List.mem_map, Prod.exists]
  constructor
  · rintro ⟨agentID, kept, hentry, rfl⟩
    exact ⟨agentID, kept,
      Std.ExtTreeMap.mem_toList_iff_getElem?_eq_some.mp hentry, rfl⟩
  · rintro ⟨agentID, kept, hentry, rfl⟩
    exact ⟨agentID, kept,
      Std.ExtTreeMap.mem_toList_iff_getElem?_eq_some.mpr hentry, rfl⟩

/-- A current cell shows its own disagreements. -/
theorem own_disagreement {stableID agentID : Text}
    {stored : GoMap Text Cell} {cell : Cell}
    (hstored : m.cells[stableID]? = some stored)
    (hcell : stored[agentID]? = some cell)
    (hcounted : (m.marked cell).counted = true)
    {failure : Option Text × Time} (hfailure : failure ∈ failures cell)
    {success : Option Text × Time × Time} (hsuccess : success ∈ successes cell)
    (hother : success.1 ≠ failure.1) :
    ⟨stableID, failure.1, failure.2, success.1, success.2.1, success.2.2⟩ ∈
      m.disagreements := by
  have hmem : m.marked cell ∈ (m.rawRow (stableID, stored)).cells.filter
      Cell.counted :=
    List.mem_filter.mpr ⟨mem_rawRow_cells.mpr ⟨agentID, cell, hcell, rfl⟩,
      hcounted⟩
  rw [disagreements, List.mem_flatMap]
  refine ⟨_, mem_rows.mpr ⟨stableID, stored, hstored, rfl⟩, ?_⟩
  rw [rowDisagreements_deriveRow]
  simp only [rowDisagreements, List.mem_flatMap, List.mem_map, List.mem_filter,
    decide_eq_true_eq]
  exact ⟨failure, ⟨_, List.mem_filter.mp hmem, hfailure⟩, success,
    ⟨⟨_, List.mem_filter.mp hmem, hsuccess⟩, hother⟩, rfl⟩

end Matrix

/-- What `CellFor` promises. -/
theorem cellFor_known (session : DiagnosticSession) (agentID : Text)
    (now : Time) :
    (cellFor session agentID now).unreachable = false ∧
      ((cellFor session agentID now).verdict = .unknown ∨
        (cellFor session agentID now).verdict =
          compared ((cellFor session agentID now).localStatus = .online)
            ((cellFor session agentID now).agentStatus = .online)) := by
  simp only [cellFor]
  cases observationFor session (trimSpace agentID) with
  | none => exact ⟨rfl, Or.inl rfl⟩
  | some accepted =>
      dsimp only
      split
      · exact ⟨rfl, Or.inl rfl⟩
      · split
        · exact ⟨rfl, Or.inl rfl⟩
        · exact ⟨rfl, Or.inr rfl⟩

theorem compared_agentOnly {localUp agentUp : Bool} :
    compared localUp agentUp = .agentOnlyFailure ↔
      localUp = true ∧ agentUp = false := by
  cases localUp <;> cases agentUp <;> decide

theorem compared_localOnly {localUp agentUp : Bool} :
    compared localUp agentUp = .localOnlyFailure ↔
      localUp = false ∧ agentUp = true := by
  cases localUp <;> cases agentUp <;> decide

theorem compared_agentDown {localUp agentUp : Bool} :
    agentUp = false ↔ compared localUp agentUp = .agentOnlyFailure ∨
      compared localUp agentUp = .agreedDown := by
  cases localUp <;> cases agentUp <;> decide

theorem compared_localDown {localUp agentUp : Bool} :
    localUp = false ↔ compared localUp agentUp = .localOnlyFailure ∨
      compared localUp agentUp = .agreedDown := by
  cases localUp <;> cases agentUp <;> decide

/-- A cell that was just recorded. -/
theorem good_recorded {m : Matrix} {seen : List Disagreement}
    {stableID agentID : Text} {stored : GoMap Text Cell} {cell : Cell}
    {previous : Option Cell} (hstored : m.cells[stableID]? = some stored)
    (hcell : stored[agentID]? = some (Matrix.recorded previous cell))
    (htrimmed : trimSpace stableID = stableID ∧ trimSpace agentID = agentID)
    (hkey : cell.agentID = agentID) (hplain : cell.unreachable = false)
    (hknown : cell.verdict = .unknown ∨ cell.verdict =
      compared (cell.localStatus = .online) (cell.agentStatus = .online))
    (hcurrent : cell.generation = m.sweepGeneration)
    (hprevious : ∀ old, previous = some old →
      Good seen stableID agentID old) :
    Good (seen ++ m.disagreements) stableID agentID
      (Matrix.recorded previous cell) := by
  have hown : ∀ failure success, cell.verdict ≠ .unknown →
      failure ∈ failures cell → success ∈ successes cell →
      success.1 ≠ failure.1 → success.2.1 = cell.localCheckedAt →
      failure.2 = cell.localCheckedAt →
      ∃ d ∈ seen ++ m.disagreements,
        Own stableID failure.1 success.1 cell.localCheckedAt d := by
    intro failure success hverdict hfailure hsuccess hother hreached hsample
    refine ⟨_, List.mem_append_right seen
      (Matrix.own_disagreement hstored hcell ?_ ?_ ?_ hother),
      rfl, rfl, rfl, hsample, hreached⟩
    · obtain ⟨since, streak, heq⟩ := recorded_eq previous cell
      rw [heq]
      simp [Matrix.marked, Cell.counted, hcurrent, hverdict]
    · obtain ⟨since, streak, heq⟩ := recorded_eq previous cell
      rw [heq]
      exact hfailure
    · obtain ⟨since, streak, heq⟩ := recorded_eq previous cell
      rw [heq]
      exact hsuccess
  have hstreaked : ∀ {failing reachedBy},
      (∃ d ∈ seen ++ m.disagreements,
        Own stableID failing reachedBy cell.localCheckedAt d) →
      (∀ old, previous = some old → old.verdict = cell.verdict →
        Streaked seen stableID failing reachedBy old) →
      Streaked (seen ++ m.disagreements) stableID failing reachedBy
        (Matrix.recorded previous cell) := by
    intro failing reachedBy hnow hold
    exact Streaked.recorded hnow hold fun d hd => List.mem_append_left _ hd
  have hrest : (Matrix.recorded previous cell).agentID = cell.agentID ∧
      (Matrix.recorded previous cell).unreachable = cell.unreachable ∧
      (Matrix.recorded previous cell).verdict = cell.verdict ∧
      (Matrix.recorded previous cell).localStatus = cell.localStatus ∧
      (Matrix.recorded previous cell).agentStatus = cell.agentStatus := by
    obtain ⟨since, streak, heq⟩ := recorded_eq previous cell
    rw [heq]
    exact ⟨rfl, rfl, rfl, rfl, rfl⟩
  obtain ⟨hagent, hunreachable, hverdict, hlocal, hremote⟩ := hrest
  constructor
  · exact htrimmed
  · rw [hagent, hkey]
  · rw [hunreachable, hplain]
  · rw [hverdict, hlocal, hremote]
    exact hknown
  · intro honly
    rw [hverdict] at honly
    have hup : cell.localStatus = .online ∧ cell.agentStatus ≠ .online := by
      rcases hknown with hunknown | hcompared
      · rw [hunknown] at honly
        cases honly
      · rw [honly] at hcompared
        simpa using compared_agentOnly.mp hcompared.symm
    apply hstreaked
    · apply hown (some agentID, cell.localCheckedAt)
        (none, cell.localCheckedAt, cell.localCheckedAt)
      · rw [honly]
        exact Verdict.noConfusion
      · simp [failures, hup.2, hkey]
      · simp [successes, hup.1]
      · exact nofun
      · rfl
      · rfl
    · intro old hold hsame
      exact (hprevious old hold).agentOnly (hsame.trans honly)
  · intro honly
    rw [hverdict] at honly
    have hup : cell.localStatus ≠ .online ∧ cell.agentStatus = .online := by
      rcases hknown with hunknown | hcompared
      · rw [hunknown] at honly
        cases honly
      · rw [honly] at hcompared
        simpa using compared_localOnly.mp hcompared.symm
    apply hstreaked
    · apply hown (none, cell.localCheckedAt)
        (some agentID, cell.localCheckedAt, cell.checkedAt)
      · rw [honly]
        exact Verdict.noConfusion
      · simp [failures, hup.1]
      · simp [successes, hup.2, hkey]
      · exact nofun
      · rfl
      · rfl
    · intro old hold hsame
      exact (hprevious old hold).localOnly (hsame.trans honly)

end XrayChecker.Reachability

import XrayChecker.Reachability.Repeated

/-
Every stored cell keeps its evidence over a run, so a confirmed finding can
lack it only where it rests on an agreement.
-/

namespace XrayChecker.Reachability

open Go Diagnostics Machine

theorem Stored.mono {P Q : Text → Text → Cell → Prop}
    {cells : GoMap Text (GoMap Text Cell)} (h : Stored P cells)
    (hsub : ∀ stableID agentID cell, P stableID agentID cell →
      Q stableID agentID cell) : Stored Q cells := by
  intro stableID row hrow agentID cell hcell
  exact hsub _ _ _ (h stableID row hrow agentID cell hcell)

theorem stored_empty (P : Text → Text → Cell → Prop) : Stored P ∅ := by
  intro stableID row hrow
  rw [Std.ExtTreeMap.getElem?_empty] at hrow
  cases hrow

/-- `Retain` only drops cells. -/
theorem Stored.retain {P : Text → Text → Cell → Prop} {m : Matrix}
    (h : Stored P m.cells) (nodes : GoMap Text Text) (agents : Text → Bool) :
    Stored P (m.retain nodes agents).cells := by
  intro stableID row hrow agentID cell hcell
  simp only [Matrix.retain, Std.ExtTreeMap.getElem?_filterMap',
    Option.bind_eq_some_iff] at hrow
  obtain ⟨old, hold, hkept⟩ := hrow
  split at hkept
  · cases hkept
  · rw [Option.some.injEq] at hkept
    rw [← hkept, Std.ExtTreeMap.getElem?_filter',
      Option.filter_eq_some_iff] at hcell
    exact h stableID old hold agentID cell hcell.1

/-- `Load` of a file whose keys are trimmed takes its cells as they are. -/
theorem Stored.load {P : Text → Text → Cell → Prop} {state : StateFile}
    {m : Matrix} (h : Stored P state.nodes)
    (htrimmed : ∀ stableID agentID cell, P stableID agentID cell →
      trimSpace stableID = stableID ∧ trimSpace agentID = agentID ∧
        cell.agentID = agentID)
    (hload : Matrix.load state = .ok m) : Stored P m.cells := by
  have hrow : ∀ stableID row, state.nodes[stableID]? = some row →
      ∀ agentID cell, (Matrix.loadRow row)[agentID]? = some cell →
        P stableID agentID cell := by
    intro stableID row hstored
    apply foldl_invariant
      (fun _ (kept : GoMap Text Cell) => ∀ agentID cell,
        kept[agentID]? = some cell → P stableID agentID cell)
    · intro agentID cell hcell
      rw [Std.ExtTreeMap.getElem?_empty] at hcell
      cases hcell
    · rintro done ⟨key, old⟩ kept hitem hkept agentID cell hcell
      have hold := h stableID row hstored key old
        (Std.ExtTreeMap.mem_toList_iff_getElem?_eq_some.mp hitem)
      obtain ⟨-, hkey, hagent⟩ := htrimmed _ _ _ hold
      simp only [hkey] at hcell
      split at hcell
      · exact hkept agentID cell hcell
      · rw [GoMap.get_insert] at hcell
        split at hcell
        · rename_i hsame
          rw [Option.some.injEq] at hcell
          have hunchanged : ({ old with agentID := key } : Cell) = old := by
            rw [← hagent]
          rw [← hcell, ← hsame, hunchanged]
          exact hold
        · exact hkept agentID cell hcell
  rw [Matrix.load] at hload
  split at hload
  · cases hload
  · cases hload
    refine foldl_invariant
      (fun _ (cells : GoMap Text (GoMap Text Cell)) => Stored P cells) _
      (stored_empty P) ?_
    rintro done ⟨key, row⟩ cells hitem hcells stableID loaded hloaded
    have hstored := Std.ExtTreeMap.mem_toList_iff_getElem?_eq_some.mp hitem
    dsimp only at hloaded
    split at hloaded
    · exact hcells stableID loaded hloaded
    · rw [GoMap.get_insert] at hloaded
      split at hloaded
      · rename_i hsame
        rw [Option.some.injEq] at hloaded
        intro agentID cell hcell
        rw [← hloaded] at hcell
        have hold := hrow key row hstored agentID cell hcell
        rw [(htrimmed _ _ _ hold).1] at hsame
        exact hsame ▸ hold
      · exact hcells stableID loaded hloaded

/-- `Record` replaces one cell, by one that has its evidence. -/
theorem Stored.record {seen : List Disagreement} {m : Matrix}
    (h : Stored (Good seen) m.cells) (stableID : Text)
    (session : DiagnosticSession) (agentID : Text) (now : Time) :
    Stored (Good (seen ++ (m.record stableID (cellFor session agentID now)
      now).disagreements))
      (m.record stableID (cellFor session agentID now) now).cells := by
  generalize hnext :
    m.record stableID (cellFor session agentID now) now = next
  have hmono : ∀ id agent cell, Good seen id agent cell →
      Good (seen ++ next.disagreements) id agent cell :=
    fun _ _ _ hgood => hgood.mono fun d hd => List.mem_append_left _ hd
  by_cases hblank : trimSpace stableID = [] ∨
      trimSpace (cellFor session agentID now).agentID = []
  · have hsame : next = m := by
      rw [← hnext]
      exact if_pos hblank
    rw [hsame] at hmono ⊢
    exact h.mono hmono
  · have hfields := cellFor_known session agentID now
    generalize cellFor session agentID now = taken at hnext hblank hfields
    generalize hid : trimSpace stableID = id at hblank
    generalize hagent : trimSpace taken.agentID = agent at hblank
    generalize hrow : (m.cells[id]?).getD ∅ = row
    have hold : ∀ other cell, row[other]? = some cell →
        Good seen id other cell := by
      intro other cell hcell
      cases hstored : m.cells[id]? with
      | none =>
          rw [hstored, Option.getD_none] at hrow
          rw [← hrow, Std.ExtTreeMap.getElem?_empty] at hcell
          cases hcell
      | some stored =>
          rw [hstored, Option.getD_some] at hrow
          exact h id stored hstored other cell (hrow ▸ hcell)
    generalize hnew : ({ taken with
      agentID := agent
      checkedAt := if taken.checkedAt.isZero then now else taken.checkedAt
      generation := m.sweepGeneration } : Cell) = new
    generalize hkept : row.insert agent (Matrix.recorded row[agent]? new) = kept
    have hrecord : next = { m with cells := m.cells.insert id kept } := by
      rw [← hnext, Matrix.record]
      simp only [hid, hagent, if_neg hblank, hrow, ← hnew, ← hkept]
    have hrowNext : next.cells[id]? = some kept := by
      rw [hrecord, GoMap.get_insert, if_pos rfl]
    intro other stored hstored asked cell hcell
    by_cases hthis : id = other
    · subst hthis
      rw [hrowNext, Option.some.injEq] at hstored
      subst hstored
      have hat := hcell
      rw [← hkept, GoMap.get_insert] at hcell
      by_cases hasked : agent = asked
      · subst hasked
        rw [if_pos rfl, Option.some.injEq] at hcell
        subst hcell
        apply good_recorded hrowNext hat
        · exact ⟨by rw [← hid, trimSpace_idem],
            by rw [← hagent, trimSpace_idem]⟩
        · rw [← hnew]
        · rw [← hnew]
          exact hfields.1
        · rw [← hnew]
          exact hfields.2
        · rw [← hnew, hrecord]
        · exact fun old hprevious => hold agent old hprevious
      · rw [if_neg hasked] at hcell
        exact hmono _ _ _ (hold asked cell hcell)
    · rw [hrecord, GoMap.get_insert, if_neg hthis] at hstored
      exact hmono _ _ _ (h other stored hstored asked cell hcell)

namespace World

/-- Every cell, in memory and in the file, has its evidence. -/
structure Evident (w : World) : Prop where
  memory : Stored (Good w.seen) w.matrix.cells
  file : ∀ state, w.file = some state → Stored (Good w.seen) state.nodes

theorem Evident.start : Evident {} where
  memory := stored_empty _
  file _ hfile := nomatch hfile

theorem Evident.step {w : World} (h : Evident w) (event : Event) :
    Evident (w.step event) := by
  have hmono : ∀ id agent cell, Good w.seen id agent cell →
      Good (w.step event).seen id agent cell :=
    fun _ _ _ hgood => hgood.mono fun d hd => List.mem_append_left _ hd
  have hfile : ∀ state, w.file = some state →
      Stored (Good (w.step event).seen) state.nodes :=
    fun state hstate => (h.file state hstate).mono hmono
  cases event with
  | beginSweep => exact ⟨h.memory.mono hmono, hfile⟩
  | record stableID session agentID now =>
      exact ⟨h.memory.record stableID session agentID now, hfile⟩
  | retain nodes agents =>
      exact ⟨(h.memory.mono hmono).retain nodes _, hfile⟩
  | markSweep now => exact ⟨h.memory.mono hmono, hfile⟩
  | save now =>
      refine ⟨h.memory.mono hmono, ?_⟩
      rintro _ ⟨rfl⟩
      exact h.memory.mono hmono
  | restart =>
      refine ⟨?_, hfile⟩
      generalize (w.step .restart).seen = seen at hfile
      simp only [World.step, changed]
      cases hstate : w.file with
      | none => exact stored_empty _
      | some state =>
          cases hload : Matrix.load state with
          | error text =>
              simp only [Option.map_some, hload]
              exact stored_empty _
          | ok matrix =>
              simp only [Option.map_some, hload]
              apply (hfile state hstate).load _ hload
              intro id agent cell hgood
              exact ⟨hgood.trimmed.1, hgood.trimmed.2, hgood.key⟩

theorem evident_run (events : List Event) :
    Evident (run step {} events) := by
  have hadmissible : Admissible step (fun _ _ => True) {} events :=
    fun _ _ => trivial
  exact run_invariant Evident hadmissible Evident.start
    fun _ event h _ => h.step event

end World

/-- The longest streak is one of the streaks. -/
theorem longest_streak (cells : List Cell) (start : Int) (bound : Int) :
    bound ≤ cells.foldl (fun streak cell =>
        if streak < cell.streak then cell.streak else streak) start ↔
      bound ≤ start ∨ ∃ cell ∈ cells, bound ≤ cell.streak := by
  induction cells generalizing start with
  | nil => simp
  | cons cell rest ih =>
      rw [List.foldl_cons, ih]
      simp only [List.exists_mem_cons_iff]
      split
      · constructor
        · rintro (hcell | hrest)
          · exact Or.inr (Or.inl hcell)
          · exact Or.inr (Or.inr hrest)
        · rintro (hstart | hcell | hrest)
          · left
            omega
          · exact Or.inl hcell
          · exact Or.inr hrest
      · constructor
        · rintro (hstart | hrest)
          · exact Or.inl hstart
          · exact Or.inr (Or.inr hrest)
        · rintro (hstart | hcell | hrest)
          · exact Or.inl hstart
          · left
            omega
          · exact Or.inr hrest

/-- A row of the matrix, and what is known of its cells. -/
structure Row (seen : List Disagreement) (row raw : NodeRow) : Prop where
  derived : row = deriveRow raw
  start : raw.alive = false ∧ raw.localUnreachable = false ∧
    raw.localStreak = 0
  good : ∀ cell ∈ raw.cells, Good seen raw.stableID cell.agentID cell

theorem row_of_mem {m : Matrix} {seen : List Disagreement}
    (h : Stored (Good seen) m.cells) {row : NodeRow} (hrow : row ∈ m.rows) :
    ∃ raw, Row seen row raw := by
  obtain ⟨stableID, stored, hstored, rfl⟩ := Matrix.mem_rows.mp hrow
  refine ⟨_, rfl, ⟨rfl, rfl, rfl⟩, ?_⟩
  intro cell hcell
  obtain ⟨agentID, kept, hkept, rfl⟩ := Matrix.mem_rawRow_cells.mp hcell
  have hgood := h stableID stored hstored agentID kept hkept
  have hkey : (m.marked kept).agentID = agentID := hgood.key
  rw [hkey]
  exact ⟨hgood.trimmed, hgood.key, hgood.plain, hgood.known, hgood.agentOnly,
    hgood.localOnly⟩

section

variable {seen : List Disagreement} {row raw : NodeRow} {cell : Cell}

/-- What a counted cell compared. -/
theorem Row.compared (h : Row seen row raw) (hcell : cell ∈ raw.cells)
    (hcounted : cell.counted = true) :
    cell.verdict = Reachability.compared (cell.localStatus = .online)
      (cell.agentStatus = .online) := by
  rcases (h.good cell hcell).known with hunknown | hcompared
  · simp [Cell.counted, hunknown] at hcounted
  · exact hcompared

/-- The cells of a row that some vantage point reached. -/
theorem Row.cells (h : Row seen row raw) (halive : reached raw = true) :
    row.cells = raw.cells.map exposed := by
  rw [h.derived, deriveRow_of_reached halive]

theorem Row.alive (h : Row seen row raw) : row.alive = reached raw := by
  cases halive : reached raw with
  | true => rw [h.derived, deriveRow_of_reached halive]
  | false => rw [h.derived, deriveRow_of_not_reached halive, h.start.1]

/-- Whether a row says that the checker is cut off. -/
theorem Row.localUnreachable (h : Row seen row raw) (halive : reached raw) :
    row.localUnreachable = true ↔
      localUp raw = false ∧ ∃ cell ∈ raw.cells, cell.counted = true := by
  rw [h.derived, deriveRow_of_reached halive]
  cases hup : localUp raw with
  | true => simp [blind, hup]
  | false => simp [blind, hup]

/-- Whether the streak of the checker is enough. -/
theorem Row.localStreak (h : Row seen row raw) (halive : reached raw)
    (hup : localUp raw = false) :
    confirmSweeps ≤ row.localStreak ↔ ∃ cell ∈ raw.cells,
      cell.counted = true ∧ confirmSweeps ≤ cell.streak := by
  rw [h.derived, deriveRow_of_reached halive]
  dsimp only
  rw [longest_streak, h.start.2.2, blind, hup]
  simp [confirmSweeps, and_assoc]

/-- Where the checker is not up, it failed in every counted cell. -/
theorem localDown_of_not_up (hup : localUp raw = false)
    (hcell : cell ∈ raw.cells) (hcounted : cell.counted = true) :
    cell.localStatus ≠ .online := by
  intro honline
  rw [localUp, List.any_eq_false] at hup
  exact hup cell (List.mem_filter.mpr ⟨hcell, hcounted⟩)
    (decide_eq_true honline)

/-- What is confirmed of an agent. -/
theorem confirmed_exposed (hplain : cell.unreachable = false) :
    ((exposed cell).unreachable = true ↔
        cell.counted = true ∧ cell.agentStatus ≠ .online) ∧
      (exposed cell).agentID = cell.agentID ∧
      (exposed cell).streak = cell.streak := by
  rw [exposed]
  by_cases hcounted : cell.counted = true
  · simp [hcounted]
  · simp [hcounted, hplain]

end

theorem mem_rowFindings {row : NodeRow} {finding : Finding} :
    finding ∈ rowFindings row ↔ row.alive = true ∧
      ((row.localUnreachable = true ∧ finding = localFinding row) ∨
        ∃ cell ∈ row.cells, cell.unreachable = true ∧
          finding = agentFinding row cell) := by
  have hagents : finding ∈ (row.cells.filter (·.unreachable)).map
      (agentFinding row) ↔ ∃ cell ∈ row.cells, cell.unreachable = true ∧
        finding = agentFinding row cell := by
    simp only [List.mem_map, List.mem_filter, and_assoc]
    constructor
    · rintro ⟨cell, hcell, hunreachable, rfl⟩
      exact ⟨cell, hcell, hunreachable, rfl⟩
    · rintro ⟨cell, hcell, hunreachable, rfl⟩
      exact ⟨cell, hcell, hunreachable, rfl⟩
  rw [rowFindings]
  cases row.alive with
  | false => simp
  | true =>
      cases row.localUnreachable with
      | false => simp [← hagents]
      | true => simp [← hagents]

theorem mem_findings {m : Matrix} {finding : Finding} :
    finding ∈ m.findings ↔ ∃ row ∈ m.rows, finding ∈ rowFindings row := by
  rw [Matrix.findings, List.mem_insertionSort, List.mem_flatMap]

/-- What the confirmed findings of one row ask for. -/
structure RowRepeated (seen : List Disagreement) (row : NodeRow) : Prop where
  checker : row.localUnreachable = true → confirmSweeps ≤ row.localStreak →
    Repeated seen row.stableID none
  agents : ∀ cell ∈ row.cells, cell.unreachable = true →
    confirmSweeps ≤ cell.streak →
    Repeated seen row.stableID (some cell.agentID)

theorem confirmedRepeatedly_rows (w : World) :
    ConfirmedRepeatedly w ↔ ∀ row ∈ w.matrix.rows, row.alive = true →
      RowRepeated w.seen row := by
  constructor
  · intro h row hrow halive
    constructor
    · intro hunreachable hstreak
      exact h (localFinding row) (mem_findings.mpr ⟨row, hrow,
        mem_rowFindings.mpr ⟨halive, Or.inl ⟨hunreachable, rfl⟩⟩⟩)
        (decide_eq_true hstreak)
    · intro cell hcell hunreachable hstreak
      apply h (agentFinding row cell) (mem_findings.mpr ⟨row, hrow,
        mem_rowFindings.mpr
          ⟨halive, Or.inr ⟨cell, hcell, hunreachable, rfl⟩⟩⟩)
      simp [agentFinding, Cell.confirmed, hunreachable, hstreak]
  · intro h finding hfinding hconfirmed
    obtain ⟨row, hrow, hmem⟩ := mem_findings.mp hfinding
    obtain ⟨halive, hkind⟩ := mem_rowFindings.mp hmem
    rcases hkind with ⟨hunreachable, rfl⟩ | ⟨cell, hcell, hunreachable, rfl⟩
    · exact (h row hrow halive).checker hunreachable
        (of_decide_eq_true hconfirmed)
    · apply (h row hrow halive).agents cell hcell hunreachable
      simp only [agentFinding, Cell.confirmed, Bool.and_eq_true,
        decide_eq_true_eq] at hconfirmed
      exact hconfirmed.2

/-- What an agreement in one row asks for. -/
def RowTested (seen : List Disagreement) (row : NodeRow) : Prop :=
  ∀ cell ∈ row.cells, cell.counted = true → cell.verdict = .agreedDown →
    confirmSweeps ≤ cell.streak →
    Repeated seen row.stableID (some cell.agentID) ∧
      (row.localUnreachable = true →
        (∃ other ∈ row.cells, other.counted = true ∧
          other.verdict = .localOnlyFailure ∧
          confirmSweeps ≤ other.streak) ∨
        Repeated seen row.stableID none)

section

variable {seen : List Disagreement} {row raw : NodeRow}

/-- An agent whose own verdict is a disagreement has its evidence. -/
theorem Row.agent_repeated (h : Row seen row raw) {cell : Cell}
    (hcell : cell ∈ raw.cells) (hverdict : cell.verdict = .agentOnlyFailure)
    (hstreak : confirmSweeps ≤ cell.streak) :
    Repeated seen raw.stableID (some cell.agentID) :=
  ((h.good cell hcell).agentOnly hverdict).repeated hstreak

/-- So has the checker where an agent contradicted it in a streak. -/
theorem Row.checker_repeated (h : Row seen row raw) {cell : Cell}
    (hcell : cell ∈ raw.cells) (hverdict : cell.verdict = .localOnlyFailure)
    (hstreak : confirmSweeps ≤ cell.streak) :
    Repeated seen raw.stableID none :=
  ((h.good cell hcell).localOnly hverdict).repeated hstreak

theorem Row.stableID (h : Row seen row raw) : row.stableID = raw.stableID := by
  rw [h.derived, deriveRow_stableID]

/-- A cell of the row comes from a stored one. -/
theorem Row.exists_raw (h : Row seen row raw) (halive : reached raw = true)
    {cell : Cell} (hcell : cell ∈ row.cells) :
    ∃ old ∈ raw.cells, cell = exposed old ∧ cell.counted = old.counted ∧
      cell.agentID = old.agentID ∧ cell.verdict = old.verdict ∧
      cell.streak = old.streak := by
  rw [h.cells halive] at hcell
  obtain ⟨old, hold, rfl⟩ := List.mem_map.mp hcell
  obtain ⟨hcounted, hagent, hverdict, hstreak, -⟩ := shown_same true old
  exact ⟨old, hold, rfl, hcounted, hagent, hverdict, hstreak⟩

theorem Row.mem_cells (h : Row seen row raw) (halive : reached raw = true)
    {old : Cell} (hold : old ∈ raw.cells) : exposed old ∈ row.cells := by
  rw [h.cells halive]
  exact List.mem_map_of_mem hold

theorem Row.tested_of_repeated (h : Row seen row raw)
    (halive : reached raw = true) (hrepeated : RowRepeated seen row) :
    RowTested seen row := by
  intro cell hcell hcounted hverdict hstreak
  obtain ⟨old, hold, rfl, hsame, hagent, hsameVerdict, hsameStreak⟩ :=
    h.exists_raw halive hcell
  rw [hsame] at hcounted
  have hdown : old.agentStatus ≠ .online := by
    have hcompared := h.compared hold hcounted
    rw [← hsameVerdict, hverdict] at hcompared
    simpa using compared_agentDown.mpr (Or.inr hcompared.symm)
  refine ⟨hrepeated.agents _ hcell ?_ hstreak, ?_⟩
  · exact (confirmed_exposed (h.good old hold).plain).1.mpr ⟨hcounted, hdown⟩
  · intro hunreachable
    right
    apply hrepeated.checker hunreachable
    have hup := ((h.localUnreachable halive).mp hunreachable).1
    exact (h.localStreak halive hup).mpr
      ⟨old, hold, hcounted, hsameStreak ▸ hstreak⟩

theorem Row.repeated_of_tested (h : Row seen row raw)
    (halive : reached raw = true) (htested : RowTested seen row) :
    RowRepeated seen row := by
  constructor
  · intro hunreachable hstreak
    have hup := ((h.localUnreachable halive).mp hunreachable).1
    obtain ⟨old, hold, hcounted, holdStreak⟩ :=
      (h.localStreak halive hup).mp hstreak
    have hdown := localDown_of_not_up hup hold hcounted
    have hcompared := h.compared hold hcounted
    rcases compared_localDown.mp (decide_eq_false hdown) with hlocal | hagreed
    · rw [h.stableID]
      exact h.checker_repeated hold (hcompared.trans hlocal) holdStreak
    · obtain ⟨hsame, -, hverdict, hsameStreak, -⟩ := shown_same true old
      obtain ⟨-, hchecker⟩ := htested (exposed old) (h.mem_cells halive hold)
        (hsame.trans hcounted) (hverdict.trans (hcompared.trans hagreed))
        (hsameStreak.symm ▸ holdStreak)
      rcases hchecker hunreachable with ⟨other, hother, -, hlocal,
        hmore⟩ | hdone
      · obtain ⟨kept, hkept, rfl, -, -, hkeptVerdict, hkeptStreak⟩ :=
          h.exists_raw halive hother
        rw [h.stableID]
        exact h.checker_repeated hkept (hkeptVerdict ▸ hlocal)
          (hkeptStreak ▸ hmore)
      · exact hdone
  · intro cell hcell hunreachable hstreak
    obtain ⟨old, hold, rfl, hsame, hagent, hsameVerdict, hsameStreak⟩ :=
      h.exists_raw halive hcell
    obtain ⟨hcounted, hdown⟩ :=
      (confirmed_exposed (h.good old hold).plain).1.mp hunreachable
    have hcompared := h.compared hold hcounted
    rcases compared_agentDown.mp (decide_eq_false hdown) with honly | hagreed
    · rw [h.stableID, hagent]
      exact h.agent_repeated hold (hcompared.trans honly)
        (hsameStreak ▸ hstreak)
    · exact (htested _ hcell (hsame.trans hcounted)
        (hsameVerdict.trans (hcompared.trans hagreed)) hstreak).1

end

/-- A confirmed finding was seen repeatedly, unless it rests on an agreement
that was not. -/
theorem confirmed_repeatedly_iff (events : List Event) :
    ConfirmedRepeatedly (run World.step {} events) ↔
      AgreementsTested (run World.step {} events) := by
  have hevident := World.evident_run events
  generalize run World.step {} events = w at hevident
  rw [confirmedRepeatedly_rows]
  constructor
  · intro h row hrow halive
    obtain ⟨raw, hraw⟩ := row_of_mem hevident.memory hrow
    exact hraw.tested_of_repeated (hraw.alive ▸ halive) (h row hrow halive)
  · intro h row hrow halive
    obtain ⟨raw, hraw⟩ := row_of_mem hevident.memory hrow
    exact hraw.repeated_of_tested (hraw.alive ▸ halive) (h row hrow halive)

namespace Sample

/-- An answer of an agent about `n1`, beside a failed local check. -/
def session (agentID : Text) (status : ProbeStatus) (sample : Time) :
    DiagnosticSession :=
  { sessionID := "s"
    stableID := "n1"
    trigger := .reachabilitySweep
    configGeneration := 1
    configFingerprint := []
    localResultSnapshot := { status := .offline, checkedAt := sample }
    automationContext := {}
    requestedAgents := [agentID]
    agentObservations :=
      [{ observation :=
          { schemaVersion := observationSchemaVersion
            agentID := agentID
            sessionID := "s"
            jobID := "j"
            nonce := []
            stableID := "n1"
            configGeneration := 1
            configFingerprint := []
            checkedAt := sample + 1
            endpointProfile := []
            status := status }
         acceptedAt := sample + 1
         reliable := true }]
    maintenanceDiagnostic := false
    createdAt := sample
    expiresAt := sample + 10
    state := .completed }

/-- Two sweeps in which nobody reaches the node, and one success after. -/
def events : List Event :=
  [.beginSweep,
    .record "n1" (session "a" .offline 100) "a" 102,
    .record "n1" (session "b" .offline 100) "b" 102,
    .beginSweep,
    .record "n1" (session "a" .offline 200) "a" 202,
    .record "n1" (session "b" .offline 200) "b" 202,
    .record "n1" (session "a" .online 300) "a" 302]

/-- One success confirms a finding about the other agent at once. -/
theorem one_success_confirms :
    ¬ ConfirmedRepeatedly (run World.step {} events) := by
  decide

end Sample

end XrayChecker.Reachability

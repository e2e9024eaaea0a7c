import XrayChecker.Pathquality.Partition

/-
What the counts of a report add up to, over hours, nodes and ranges, and what
they do not depend on.
-/

namespace XrayChecker.Pathquality

open Go Speedtest

section Sums

variable {ipLiteral : Bytes → Bool} {options : Options}

theorem ranAt_eq (hour : Fin 24) (results : List Result) :
    ranAt options hour results =
      (results.filter (included · options)).filter fun r =>
        options.zone.hour r.checkedAt = hour := by
  rw [ranAt, List.filter_filter]
  simp only [Bool.and_comm]

theorem ranIn_eq (peak : Bool) (results : List Result) :
    ranIn options peak results =
      (results.filter (included · options)).filter fun r =>
        peakHour options r = peak := by
  rw [ranIn, List.filter_filter]
  simp only [Bool.and_comm]

/-- The hours of a node add up to its peak and the rest of its day. -/
theorem sum_ranAt (kind : Result → Bool) (results : List Result) :
    ∑ hour, (ranAt options hour results).countP kind =
      (ranIn options true results).countP kind +
        (ranIn options false results).countP kind := by
  have hwindows := sum_countP_key (peakHour options) kind
    (results.filter (included · options))
  rw [Fintype.sum_bool] at hwindows
  simp only [ranAt_eq, ranIn_eq, sum_countP_key, hwindows]

/-- The hours of the fleet add up those of its nodes. -/
theorem ranAt_flatMap (kind : Result → Bool) (hour : Fin 24)
    (nodes : List NodeInput) :
    (ranAt options hour (nodes.flatMap (·.results))).countP kind =
      (nodes.map fun node =>
        (ranAt options hour node.results).countP kind).sum := by
  rw [ranAt, List.filter_flatMap, List.countP_flatMap]
  rfl

end Sums

section Ranges

variable {ipLiteral : Bytes → Bool} {options : Options} {a b c : Time}

/-- The options of a range; an instant `0` leaves its end open. -/
def Options.over (options : Options) (a b : Time) : Options :=
  { options with fromTime := a, toTime := b }

/-- A range that is cut at an instant. -/
structure CutAt (a b c : Time) : Prop where
  left : a ≤ b
  bound : b ≠ 0
  right : b ≤ c ∨ c = 0

theorem cut_iff {a b c t : Nat} (hleft : a ≤ b) (hbound : b ≠ 0)
    (hright : b ≤ c ∨ c = 0) :
    ((a = 0 ∨ a ≤ t) ∧ (c = 0 ∨ t < c)) ↔
      ((a = 0 ∨ a ≤ t) ∧ (b = 0 ∨ t < b)) ∨
        ((b = 0 ∨ b ≤ t) ∧ (c = 0 ∨ t < c)) := by
  omega

theorem cut_disjoint {b c t : Nat} (hbound : b ≠ 0)
    (h : b = 0 ∨ t < b) : ¬ ((b = 0 ∨ b ≤ t) ∧ (c = 0 ∨ t < c)) := by
  omega

theorem inRange_iff {t a b : Time} :
    inRange t (options.over a b) = true ↔
      (a = 0 ∨ a ≤ t) ∧ (b = 0 ∨ t < b) := by
  simp only [inRange, Options.over, Time.isZero]
  grind

theorem CutAt.inRange (h : CutAt a b c) (t : Time) :
    inRange t (options.over a c) =
      (Pathquality.inRange t (options.over a b) ||
        Pathquality.inRange t (options.over b c)) := by
  rw [Bool.eq_iff_iff, Bool.or_eq_true, inRange_iff, inRange_iff, inRange_iff]
  exact cut_iff h.left h.bound h.right

theorem CutAt.disjoint (h : CutAt a b c) {t : Time}
    (ht : Pathquality.inRange t (options.over a b) = true) :
    Pathquality.inRange t (options.over b c) = false := by
  rw [Bool.eq_false_iff, Ne, inRange_iff]
  exact cut_disjoint h.bound (inRange_iff.mp ht).2

theorem CutAt.included (h : CutAt a b c) (r : Result) :
    included r (options.over a c) =
      (Pathquality.included r (options.over a b) ||
        Pathquality.included r (options.over b c)) := by
  simp only [Pathquality.included, h.inRange]
  grind

theorem CutAt.included_disjoint (h : CutAt a b c) {r : Result}
    (hr : Pathquality.included r (options.over a b) = true) :
    Pathquality.included r (options.over b c) = false := by
  have hrange : Pathquality.inRange r.checkedAt (options.over a b) = true := by
    revert hr
    simp only [Pathquality.included]
    grind
  simp [Pathquality.included, h.disjoint hrange]

/-- What is counted of a range is counted of either part of it. -/
theorem CutAt.countP_ranAt (h : CutAt a b c) (kind : Result → Bool)
    (hour : Fin 24) (results : List Result) :
    (ranAt (options.over a c) hour results).countP kind =
      (ranAt (options.over a b) hour results).countP kind +
        (ranAt (options.over b c) hour results).countP kind := by
  refine countP_filter_or (fun r => ?_) (fun r hr => ?_) kind results
  · rw [h.included, Bool.and_or_distrib_right]
    rfl
  · rw [Bool.and_eq_true] at hr
    rw [h.included_disjoint hr.1, Bool.false_and]

theorem CutAt.countP_ranIn (h : CutAt a b c) (kind : Result → Bool)
    (peak : Bool) (results : List Result) :
    (ranIn (options.over a c) peak results).countP kind =
      (ranIn (options.over a b) peak results).countP kind +
        (ranIn (options.over b c) peak results).countP kind := by
  refine countP_filter_or (fun r => ?_) (fun r hr => ?_) kind results
  · rw [h.included, Bool.and_or_distrib_right]
    rfl
  · rw [Bool.and_eq_true] at hr
    rw [h.included_disjoint hr.1, Bool.false_and]

theorem CutAt.countP_included (h : CutAt a b c) (kind : Result → Bool)
    (results : List Result) :
    (results.filter (Pathquality.included · (options.over a c))).countP kind =
      (results.filter (Pathquality.included · (options.over a b))).countP
          kind +
        (results.filter (Pathquality.included · (options.over b c))).countP
          kind :=
  countP_filter_or h.included (fun _ => h.included_disjoint) kind results

theorem CutAt.length_reruns (h : CutAt a b c) (results : List Result) :
    (reruns (options.over a c) results).length =
      (reruns (options.over a b) results).length +
        (reruns (options.over b c) results).length := by
  simp only [← List.countP_true]
  refine countP_filter_or (fun r => ?_) (fun r hr => ?_) (fun _ => true)
    results
  · rw [h.inRange, Bool.and_or_distrib_left]
  · rw [Bool.and_eq_true] at hr
    rw [h.disjoint hr.2, Bool.and_false]

end Ranges

section Counters

/-- What was counted under a name. -/
def Counters.count (counters : Counters) (name : Text) : Nat :=
  ((counters.getD ∅)[name]?).getD 0

theorem increment_count (counters : Counters) (name other : Text) :
    (increment counters name).count other =
      counters.count other + if name = other then 1 else 0 := by
  simp only [increment, Counters.count, Option.getD_some, GoMap.get_insert]
  split
  next hname => rw [hname, Option.getD_some]
  next => rfl

theorem countersOf_count (names : List Text) (name : Text) :
    (countersOf names).count name = names.count name := by
  have hfold : ∀ counters : Counters,
      (names.foldl increment counters).count name =
        counters.count name + names.count name := by
    induction names with
    | nil => exact fun counters => rfl
    | cons first rest ih =>
        intro counters
        rw [List.foldl_cons, ih, increment_count, List.count_cons]
        simp only [beq_iff_eq]
        omega
  have hnone : Counters.count none name = 0 := by
    simp [Counters.count]
  rw [countersOf, hfold, hnone, Nat.zero_add]

/-- The names that items are counted under, counted among the items. -/
theorem count_filterMap (name : Result → Option Text) (label : Text)
    (results : List Result) :
    (results.filterMap name).count label =
      results.countP fun r => name r = some label := by
  rw [List.count, List.countP_filterMap]
  congr 1
  funext r
  cases name r with
  | none => rfl
  | some other =>
      rw [Bool.eq_iff_iff]
      simp

instance : RightCommutative increment where
  right_comm counters a b := by
    rw [increment, increment, increment, increment]
    simp only [Option.getD_some, Option.some.injEq]
    apply Std.ExtTreeMap.ext_getElem?
    intro name
    simp only [GoMap.get_insert]
    grind

theorem countersOf_perm {names others : List Text} (h : names.Perm others) :
    countersOf names = countersOf others :=
  h.foldl_eq none

end Counters

section Order

variable {ipLiteral : Bytes → Bool} {options : Options}

/-- The same node, with its results in another order. -/
structure Reordered (node other : NodeInput) : Prop where
  same : other = { node with results := other.results }
  results : node.results.Perm other.results

theorem cellOf_perm {results others : List Result} (h : results.Perm others) :
    cellOf options results = cellOf options others := by
  funext hour
  have hran : (ranAt options hour results).Perm (ranAt options hour others) :=
    h.filter _
  rw [cellOf, cellOf, hran.length_eq, hran.countP_eq,
    median_perm (hran.filterMap _)]

theorem windowOf_perm {results others : List Result} (peak : Bool)
    (h : results.Perm others) :
    windowOf options peak results = windowOf options peak others := by
  have hran : (ranIn options peak results).Perm (ranIn options peak others) :=
    h.filter _
  rw [windowOf, windowOf]
  simp only [Window.finish, hran.length_eq, hran.countP_eq,
    median_perm (hran.filterMap _)]

theorem rowOf_reordered {node other : NodeInput} (h : Reordered node other) :
    rowOf ipLiteral options node = rowOf ipLiteral options other := by
  have hran := h.results.filter (included · options)
  rw [h.same]
  simp only [rowOf, cellOf_perm h.results, windowOf_perm _ h.results,
    countersOf_perm (hran.filterMap _)]

theorem flatMap_reordered {nodes others : List NodeInput}
    (h : List.Forall₂ Reordered nodes others) :
    (nodes.flatMap (·.results)).Perm (others.flatMap (·.results)) := by
  induction h with
  | nil => exact List.Perm.refl _
  | cons hnode hrest ih => exact hnode.results.append ih

/-- The report does not depend on the order of a node's results. -/
theorem build_reordered {nodes others : List NodeInput}
    (h : List.Forall₂ Reordered nodes others) :
    build ipLiteral options nodes = build ipLiteral options others := by
  have hrows : nodes.map (rowOf ipLiteral options) =
      others.map (rowOf ipLiteral options) := by
    induction h with
    | nil => rfl
    | cons hnode hrest ih =>
        rw [List.map_cons, List.map_cons, rowOf_reordered hnode, ih]
  have hresults := flatMap_reordered h
  have hreruns : (reruns options (nodes.flatMap (·.results))).length =
      (reruns options (others.flatMap (·.results))).length :=
    (hresults.filter _).length_eq
  rw [build_eq, build_eq]
  simp only [reportOf, hrows, cellOf_perm hresults, hreruns]

end Order

section Worst

/-- The earliest hour of maximal bad share among those with at least two runs,
or `-1` where that share is zero or there is none. -/
def IsWorstHour (hours : Fin 24 → Cell) (worst : Int) : Prop :=
  (worst = -1 ∧ ∀ h, 2 ≤ (hours h).runs → (hours h).share = 0) ∨
    ∃ h : Fin 24, worst = h.val ∧ 2 ≤ (hours h).runs ∧ (hours h).share ≠ 0 ∧
      (∀ k, 2 ≤ (hours k).runs → (hours k).share ≤ (hours h).share) ∧
        ∀ k < h, 2 ≤ (hours k).runs → (hours k).share < (hours h).share

theorem Cell.share_eq_zero_iff {cell : Cell} (h : 2 ≤ cell.runs) :
    cell.share = 0 ↔ cell.bad = 0 := by
  have hruns : cell.runs ≠ 0 := by omega
  have hrat : (cell.runs : Rat) ≠ 0 := by exact_mod_cast hruns
  rw [Cell.share, if_neg hruns, div_eq_zero_iff]
  simp [hrat]

theorem Cell.share_nonneg (cell : Cell) : 0 ≤ cell.share := by
  rw [Cell.share]
  split
  · exact le_refl 0
  · positivity

theorem worstHour_spec (hours : Fin 24 → Cell) :
    IsWorstHour hours (worstHour hours) := by
  rw [worstHour]
  split
  next hnone =>
    refine Or.inl ⟨rfl, fun h hruns => ?_⟩
    have hno := firstBest_eq_none hnone h (List.mem_finRange h)
    rw [decide_eq_false_iff_not] at hno
    exact absurd hruns hno
  next worst hsome =>
    obtain ⟨hok, before, after, hcut, hbefore, hafter⟩ :=
      firstBest_eq_some hsome
    have hruns : 2 ≤ (hours worst).runs := of_decide_eq_true hok
    have hmost : ∀ k, 2 ≤ (hours k).runs →
        (hours k).share ≤ (hours worst).share := by
      intro k hk
      have hmem := List.mem_finRange k
      rw [hcut] at hmem
      rcases List.mem_append.mp hmem with hk' | hk'
      · exact le_of_lt (hbefore k hk' (decide_eq_true hk))
      · rcases List.mem_cons.mp hk' with rfl | hk'
        · exact le_refl _
        · exact hafter k hk' (decide_eq_true hk)
    split
    next hbad =>
      refine Or.inl ⟨rfl, fun h hh => ?_⟩
      have hzero := (Cell.share_eq_zero_iff hruns).mpr hbad
      exact le_antisymm (hzero ▸ hmost h hh) (Cell.share_nonneg _)
    next hbad =>
      refine Or.inr ⟨worst, rfl, hruns, ?_, hmost, fun k hlt hk => ?_⟩
      · rwa [Ne, Cell.share_eq_zero_iff hruns]
      · -- An hour before the worst one stands before it in the list.
        have hsorted := List.pairwise_lt_finRange 24
        rw [hcut, List.pairwise_append] at hsorted
        have hmem := List.mem_finRange k
        rw [hcut] at hmem
        rcases List.mem_append.mp hmem with hk' | hk'
        · exact hbefore k hk' (decide_eq_true hk)
        · rcases List.mem_cons.mp hk' with rfl | hk'
          · exact absurd hlt (lt_irrefl _)
          · have hgt := List.rel_of_pairwise_cons hsorted.2.1 hk'
            exact absurd hlt (lt_asymm hgt)

end Worst

section Partitioned

variable (ipLiteral : Bytes → Bool) (options : Options)

/-- The counts of a row are those of two others together. -/
structure RowAddsUp (whole left right : NodeReport) : Prop where
  hours : ∀ hour,
    (whole.hours hour).runs =
        (left.hours hour).runs + (right.hours hour).runs ∧
      (whole.hours hour).bad = (left.hours hour).bad + (right.hours hour).bad
  peak : whole.peak.runs = left.peak.runs + right.peak.runs ∧
    whole.peak.bad = left.peak.bad + right.peak.bad
  offPeak : whole.offPeak.runs = left.offPeak.runs + right.offPeak.runs ∧
    whole.offPeak.bad = left.offPeak.bad + right.offPeak.bad
  verdicts : ∀ name, whole.verdicts.count name =
    left.verdicts.count name + right.verdicts.count name
  servers : ∀ name, whole.servers.count name =
    left.servers.count name + right.servers.count name

/-- A report counts what two others count together. -/
structure AddsUp (whole left right : Report) : Prop where
  rows : ∀ (i : Nat) (w l r : NodeReport), whole.nodes[i]? = some w →
    left.nodes[i]? = some l → right.nodes[i]? = some r → RowAddsUp w l r
  fleet : ∀ hour,
    (whole.fleet hour).runs =
        (left.fleet hour).runs + (right.fleet hour).runs ∧
      (whole.fleet hour).bad = (left.fleet hour).bad + (right.fleet hour).bad
  excluded : whole.excluded = left.excluded + right.excluded

/-- The hours of a row add up to its peak and the rest of the day. -/
def HoursAddUp (row : NodeReport) : Prop :=
  ∑ hour, (row.hours hour).runs = row.peak.runs + row.offPeak.runs ∧
    ∑ hour, (row.hours hour).bad = row.peak.bad + row.offPeak.bad

/-- The cells of the fleet add up those of the rows. -/
def FleetAddsUp (report : Report) : Prop :=
  ∀ hour,
    (report.fleet hour).runs =
        (report.nodes.map fun row => (row.hours hour).runs).sum ∧
      (report.fleet hour).bad =
        (report.nodes.map fun row => (row.hours hour).bad).sum

theorem rowOf_addsUp {a b c : Time} (h : CutAt a b c) (node : NodeInput) :
    RowAddsUp (rowOf ipLiteral (options.over a c) node)
      (rowOf ipLiteral (options.over a b) node)
      (rowOf ipLiteral (options.over b c) node) where
  hours hour := by
    refine ⟨?_, h.countP_ranAt _ hour node.results⟩
    have hruns := @CutAt.countP_ranAt options a b c h (fun _ => true) hour
      node.results
    simp only [List.countP_true] at hruns
    exact hruns
  peak := by
    refine ⟨?_, h.countP_ranIn _ true node.results⟩
    have hruns := @CutAt.countP_ranIn options a b c h (fun _ => true) true
      node.results
    simp only [List.countP_true] at hruns
    exact hruns
  offPeak := by
    refine ⟨?_, h.countP_ranIn _ false node.results⟩
    have hruns := @CutAt.countP_ranIn options a b c h (fun _ => true) false
      node.results
    simp only [List.countP_true] at hruns
    exact hruns
  verdicts name := by
    simp only [rowOf, countersOf_count, count_filterMap]
    exact h.countP_included _ node.results
  servers name := by
    simp only [rowOf, countersOf_count, count_filterMap]
    exact h.countP_included _ node.results

theorem build_addsUp {a b c : Time} (h : CutAt a b c)
    (nodes : List NodeInput) :
    AddsUp (build ipLiteral (options.over a c) nodes)
      (build ipLiteral (options.over a b) nodes)
      (build ipLiteral (options.over b c) nodes) := by
  simp only [build_eq]
  refine ⟨fun i w l r hw hl hr => ?_, fun hour => ⟨?_, ?_⟩, ?_⟩
  · simp only [reportOf, List.getElem?_map, Option.map_eq_some_iff] at hw hl hr
    obtain ⟨node, hnode, rfl⟩ := hw
    obtain ⟨other, hother, rfl⟩ := hl
    obtain ⟨another, hanother, rfl⟩ := hr
    rw [hnode] at hother hanother
    cases hother
    cases hanother
    exact rowOf_addsUp ipLiteral options h node
  · have hruns := @CutAt.countP_ranAt options a b c h (fun _ => true) hour
      (nodes.flatMap (·.results))
    simp only [List.countP_true] at hruns
    exact hruns
  · exact h.countP_ranAt _ hour _
  · exact h.length_reruns _

theorem rowOf_hoursAddUp (node : NodeInput) :
    HoursAddUp (rowOf ipLiteral options node) := by
  refine ⟨?_, sum_ranAt _ node.results⟩
  have hruns := @sum_ranAt options (fun _ => true) node.results
  simp only [List.countP_true] at hruns
  exact hruns

theorem build_fleetAddsUp (nodes : List NodeInput) :
    FleetAddsUp (build ipLiteral options nodes) := by
  intro hour
  simp only [build_eq, reportOf, List.map_map]
  refine ⟨?_, ranAt_flatMap _ hour nodes⟩
  have hruns := @ranAt_flatMap options (fun _ => true) hour nodes
  simp only [List.countP_true] at hruns
  exact hruns

/-- The report partitions the measurements: it is made of the included ones of
each hour, in the peak and outside it; hours add up to windows, nodes to the
fleet and parts of a range to the range; the order of the results plays no
part; and the worst hour is the earliest of the worst. -/
theorem build_partitions (nodes : List NodeInput) :
    build ipLiteral options nodes = reportOf ipLiteral options nodes ∧
      (∀ row ∈ (build ipLiteral options nodes).nodes,
        HoursAddUp row ∧ IsWorstHour row.hours row.worstHour) ∧
      FleetAddsUp (build ipLiteral options nodes) ∧
      (∀ a b c, CutAt a b c →
        AddsUp (build ipLiteral (options.over a c) nodes)
          (build ipLiteral (options.over a b) nodes)
          (build ipLiteral (options.over b c) nodes)) ∧
      ∀ others, List.Forall₂ Reordered nodes others →
        build ipLiteral options others = build ipLiteral options nodes := by
  refine ⟨build_eq nodes, fun row hrow => ?_,
    build_fleetAddsUp ipLiteral options nodes,
    fun a b c h => build_addsUp ipLiteral options h nodes,
    fun others hothers => (build_reordered hothers).symm⟩
  rw [build_eq] at hrow
  obtain ⟨node, -, rfl⟩ := List.mem_map.mp hrow
  exact ⟨rowOf_hoursAddUp ipLiteral options node, worstHour_spec _⟩

end Partitioned

end XrayChecker.Pathquality

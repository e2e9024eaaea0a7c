import XrayChecker.Pathquality.Report

/-
The report as counts of measurements: every included one stands in one hour of
its node, in the same hour of the fleet, and in the peak or outside it.
-/

namespace XrayChecker.Pathquality

open Go Speedtest

/-- The included measurements of one hour. -/
def ranAt (options : Options) (hour : Fin 24) (results : List Result) :
    List Result :=
  results.filter fun r =>
    included r options && options.zone.hour r.checkedAt = hour

/-- The included measurements in the peak, or outside it. -/
def ranIn (options : Options) (peak : Bool) (results : List Result) :
    List Result :=
  results.filter fun r => included r options && peakHour options r = peak

/-- The cell that the measurements of an hour make. -/
def cellOf (options : Options) (results : List Result) (hour : Fin 24) :
    Cell where
  hour := hour
  runs := (ranAt options hour results).length
  bad := (ranAt options hour results).countP (isBad · options.threshold)
  medianMbps := median ((ranAt options hour results).filterMap successfulRate)

/-- The window that measurements make. -/
def windowOf (options : Options) (peak : Bool) (results : List Result) :
    Window :=
  let ran := ranIn options peak results
  Window.finish
    { runs := ran.length, bad := ran.countP (isBad · options.threshold) }
    (ran.filterMap successfulRate)

def countersOf (names : List Text) : Counters :=
  names.foldl increment none

/-- The confirmation re-runs in range. -/
def reruns (options : Options) (results : List Result) : List Result :=
  results.filter fun r =>
    r.source = confirmationRetrySource && inRange r.checkedAt options

def rowOf (ipLiteral : Bytes → Bool) (options : Options) (node : NodeInput) :
    NodeReport :=
  let ran := node.results.filter (included · options)
  { stableID := node.stableID
    name := node.name
    subscription := node.subscription
    environment := node.environment
    hours := cellOf options node.results
    peak := windowOf options true node.results
    offPeak := windowOf options false node.results
    worstHour := worstHour (cellOf options node.results)
    verdicts := countersOf (ran.filterMap verdictOf)
    servers := countersOf (ran.filterMap (serverOf ipLiteral)) }

/-- The report that the measurements of the nodes make. -/
def reportOf (ipLiteral : Bytes → Bool) (options : Options)
    (nodes : List NodeInput) : Report :=
  let results := nodes.flatMap (·.results)
  { fromTime := options.fromTime
    toTime := options.toTime
    timeZone := options.zone.name
    peakZone := options.peakZone.name
    peakStart := options.peakStart
    peakEnd := options.peakEnd
    nodes := nodes.map (rowOf ipLiteral options)
    fleet := cellOf options results
    excluded := (reruns options results).length }

section Filing

variable {ipLiteral : Bytes → Bool} {options : Options}

theorem foldl_count (bad : Result → Bool) (cell : Cell)
    (results : List Result) :
    results.foldl (fun cell r => cell.count (bad r)) cell =
      { cell with
        runs := cell.runs + results.length
        bad := cell.bad + results.countP bad } := by
  induction results generalizing cell with
  | nil => rfl
  | cons r rest ih =>
      rw [List.foldl_cons, ih, List.countP_cons]
      simp only [Cell.count, List.length_cons, Cell.mk.injEq, true_and,
        and_true]
      refine ⟨by omega, ?_⟩
      cases bad r with
      | false => simp
      | true =>
          simp only [Bool.toNat_true, if_true]
          omega

theorem foldl_count_window (bad : Result → Bool) (window : Window)
    (results : List Result) :
    results.foldl (fun window r => window.count (bad r)) window =
      { window with
        runs := window.runs + results.length
        bad := window.bad + results.countP bad } := by
  induction results generalizing window with
  | nil => rfl
  | cons r rest ih =>
      rw [List.foldl_cons, ih, List.countP_cons]
      simp only [Window.count, List.length_cons, Window.mk.injEq, and_true]
      refine ⟨by omega, ?_⟩
      cases bad r with
      | false => simp
      | true =>
          simp only [Bool.toNat_true, if_true]
          omega

theorem foldl_rates (rates : List Rat) (results : List Result) :
    results.foldl (fun rates r => rates ++ (successfulRate r).toList) rates =
      rates ++ results.filterMap successfulRate := by
  induction results generalizing rates with
  | nil => simp
  | cons r rest ih =>
      rw [List.foldl_cons, ih, List.filterMap_cons, List.append_assoc]
      cases successfulRate r with
      | none => rfl
      | some rate => rfl

theorem foldl_increment (name : Result → Option Text) (counters : Counters)
    (results : List Result) :
    results.foldl (fun counters r =>
        (name r).elim counters (increment counters)) counters =
      (results.filterMap name).foldl increment counters := by
  induction results generalizing counters with
  | nil => rfl
  | cons r rest ih =>
      rw [List.foldl_cons, ih, List.filterMap_cons]
      cases name r with
      | none => rfl
      | some name => rfl

/-- A confirmation re-run is never included. -/
theorem not_included_of_rerun {r : Result}
    (h : r.source = confirmationRetrySource) : included r options = false := by
  simp [included, h]

/-- What filing one measurement changes. -/
theorem fileResult_included {r : Result} (h : included r options = true)
    (s : RowState) :
    fileResult ipLiteral options s r =
      let bad := isBad r options.threshold
      let hour := options.zone.hour r.checkedAt
      let rate := (successfulRate r).toList
      { hours := setAt s.hours hour (·.count bad)
        fleet := setAt s.fleet hour (·.count bad)
        rates := setAt s.rates hour (· ++ rate)
        fleetRates := setAt s.fleetRates hour (· ++ rate)
        peak := if peakHour options r then s.peak.count bad else s.peak
        peakRates := if peakHour options r then s.peakRates ++ rate
          else s.peakRates
        offPeak := if peakHour options r then s.offPeak
          else s.offPeak.count bad
        offRates := if peakHour options r then s.offRates
          else s.offRates ++ rate
        verdicts := (verdictOf r).elim s.verdicts (increment s.verdicts)
        servers := (serverOf ipLiteral r).elim s.servers
          (increment s.servers)
        excluded := s.excluded } := by
  rw [fileResult, h]
  cases hpeak : peakHour options r with
  | false => simp
  | true => simp

theorem fileResult_excluded {r : Result} (h : included r options = false)
    (s : RowState) :
    fileResult ipLiteral options s r =
      { s with excluded := s.excluded +
          if r.source = confirmationRetrySource &&
            inRange r.checkedAt options then 1 else 0 } := by
  rw [fileResult, h]
  split
  · split
    · rfl
    · rfl
  · contradiction

/-- A part of the state that the included measurements of one kind change. -/
theorem foldl_fileResult {T : Type} (proj : RowState → T)
    (kind : Result → Bool) (f : T → Result → T)
    (hcount : ∀ s r, included r options = true →
      proj (fileResult ipLiteral options s r) =
        if kind r then f (proj s) r else proj s)
    (hskip : ∀ (s : RowState) n, proj { s with excluded := n } = proj s)
    (s : RowState) (results : List Result) :
    proj (results.foldl (fileResult ipLiteral options) s) =
      (results.filter fun r => included r options && kind r).foldl f
        (proj s) := by
  refine @foldl_project _ _ _ _ proj (fun r => included r options && kind r)
    f ?_ s results
  intro s r
  cases hincluded : included r options with
  | false =>
      rw [fileResult_excluded hincluded, hskip]
      rfl
  | true =>
      rw [hcount s r hincluded, Bool.true_and]

variable (s : RowState) (results : List Result)

theorem hours_foldl (hour : Fin 24) :
    (results.foldl (fileResult ipLiteral options) s).hours hour =
      (ranAt options hour results).foldl
        (fun cell r => cell.count (isBad r options.threshold))
        (s.hours hour) := by
  refine foldl_fileResult (fun s => s.hours hour)
    (fun r => options.zone.hour r.checkedAt = hour) _ ?_ (fun s n => rfl) s
    results
  intro s r hincluded
  rw [fileResult_included hincluded]
  simp [setAt, eq_comm]

theorem fleet_foldl (hour : Fin 24) :
    (results.foldl (fileResult ipLiteral options) s).fleet hour =
      (ranAt options hour results).foldl
        (fun cell r => cell.count (isBad r options.threshold))
        (s.fleet hour) := by
  refine foldl_fileResult (fun s => s.fleet hour)
    (fun r => options.zone.hour r.checkedAt = hour) _ ?_ (fun s n => rfl) s
    results
  intro s r hincluded
  rw [fileResult_included hincluded]
  simp [setAt, eq_comm]

theorem rates_foldl (hour : Fin 24) :
    (results.foldl (fileResult ipLiteral options) s).rates hour =
      (ranAt options hour results).foldl
        (fun rates r => rates ++ (successfulRate r).toList)
        (s.rates hour) := by
  refine foldl_fileResult (fun s => s.rates hour)
    (fun r => options.zone.hour r.checkedAt = hour) _ ?_ (fun s n => rfl) s
    results
  intro s r hincluded
  rw [fileResult_included hincluded]
  simp [setAt, eq_comm]

theorem fleetRates_foldl (hour : Fin 24) :
    (results.foldl (fileResult ipLiteral options) s).fleetRates hour =
      (ranAt options hour results).foldl
        (fun rates r => rates ++ (successfulRate r).toList)
        (s.fleetRates hour) := by
  refine foldl_fileResult (fun s => s.fleetRates hour)
    (fun r => options.zone.hour r.checkedAt = hour) _ ?_ (fun s n => rfl) s
    results
  intro s r hincluded
  rw [fileResult_included hincluded]
  simp [setAt, eq_comm]

theorem peak_foldl :
    (results.foldl (fileResult ipLiteral options) s).peak =
      (ranIn options true results).foldl
        (fun window r => window.count (isBad r options.threshold)) s.peak := by
  refine foldl_fileResult (fun s => s.peak)
    (fun r => peakHour options r = true) _ ?_ (fun s n => rfl) s results
  intro s r hincluded
  rw [fileResult_included hincluded]
  simp

theorem peakRates_foldl :
    (results.foldl (fileResult ipLiteral options) s).peakRates =
      (ranIn options true results).foldl
        (fun rates r => rates ++ (successfulRate r).toList) s.peakRates := by
  refine foldl_fileResult (fun s => s.peakRates)
    (fun r => peakHour options r = true) _ ?_ (fun s n => rfl) s results
  intro s r hincluded
  rw [fileResult_included hincluded]
  simp

theorem offPeak_foldl :
    (results.foldl (fileResult ipLiteral options) s).offPeak =
      (ranIn options false results).foldl
        (fun window r => window.count (isBad r options.threshold))
        s.offPeak := by
  refine foldl_fileResult (fun s => s.offPeak)
    (fun r => peakHour options r = false) _ ?_ (fun s n => rfl) s results
  intro s r hincluded
  rw [fileResult_included hincluded]
  cases hpeak : peakHour options r with
  | false => simp
  | true => simp

theorem offRates_foldl :
    (results.foldl (fileResult ipLiteral options) s).offRates =
      (ranIn options false results).foldl
        (fun rates r => rates ++ (successfulRate r).toList) s.offRates := by
  refine foldl_fileResult (fun s => s.offRates)
    (fun r => peakHour options r = false) _ ?_ (fun s n => rfl) s results
  intro s r hincluded
  rw [fileResult_included hincluded]
  cases hpeak : peakHour options r with
  | false => simp
  | true => simp

theorem verdicts_foldl :
    (results.foldl (fileResult ipLiteral options) s).verdicts =
      (((results.filter (included · options)).filterMap verdictOf).foldl
        increment s.verdicts) := by
  rw [← foldl_increment]
  have hfold := @foldl_fileResult ipLiteral options _ (fun s => s.verdicts)
    (fun _ => true) (fun counters r =>
      (verdictOf r).elim counters (increment counters)) ?_ (fun s n => rfl) s
    results
  · simpa only [Bool.and_true] using hfold
  · intro s r hincluded
    rw [fileResult_included hincluded]
    rfl

theorem servers_foldl :
    (results.foldl (fileResult ipLiteral options) s).servers =
      (((results.filter (included · options)).filterMap
        (serverOf ipLiteral)).foldl increment s.servers) := by
  rw [← foldl_increment]
  have hfold := @foldl_fileResult ipLiteral options _ (fun s => s.servers)
    (fun _ => true) (fun counters r =>
      (serverOf ipLiteral r).elim counters (increment counters)) ?_
    (fun s n => rfl) s results
  · simpa only [Bool.and_true] using hfold
  · intro s r hincluded
    rw [fileResult_included hincluded]
    rfl

theorem excluded_foldl :
    (results.foldl (fileResult ipLiteral options) s).excluded =
      s.excluded + (reruns options results).length := by
  induction results generalizing s with
  | nil => rfl
  | cons r rest ih =>
      have hreruns : reruns options (r :: rest) =
          if r.source = confirmationRetrySource &&
              inRange r.checkedAt options then
            r :: reruns options rest
          else reruns options rest := List.filter_cons
      rw [List.foldl_cons, ih, hreruns]
      cases hincluded : included r options with
      | false =>
          rw [fileResult_excluded hincluded]
          split
          · simp only [List.length_cons]
            omega
          · rfl
      | true =>
          rw [fileResult_included hincluded]
          have hsource : r.source ≠ confirmationRetrySource := by
            intro hsource
            rw [not_included_of_rerun hsource] at hincluded
            cases hincluded
          simp [hsource]

/-- What is gathered of one node, before and over the fleet so far. -/
theorem finishRow_foldl (fleet : FleetState) (node : NodeInput) :
    finishRow node (node.results.foldl (fileResult ipLiteral options)
      { toFleetState := fleet }) = rowOf ipLiteral options node := by
  have hhours : finishHours
      (node.results.foldl (fileResult ipLiteral options)
        { toFleetState := fleet }).hours
      (node.results.foldl (fileResult ipLiteral options)
        { toFleetState := fleet }).rates = cellOf options node.results := by
    funext hour
    rw [finishHours, hours_foldl, rates_foldl, foldl_rates]
    simp only [foldl_count, newHours, noRates, cellOf, Nat.zero_add,
      List.nil_append]
  have hpeak : (node.results.foldl (fileResult ipLiteral options)
      { toFleetState := fleet }).peak.finish
        (node.results.foldl (fileResult ipLiteral options)
          { toFleetState := fleet }).peakRates =
        windowOf options true node.results := by
    rw [peak_foldl, peakRates_foldl, foldl_rates, windowOf]
    simp only [foldl_count_window, Nat.zero_add, List.nil_append]
  have hoff : (node.results.foldl (fileResult ipLiteral options)
      { toFleetState := fleet }).offPeak.finish
        (node.results.foldl (fileResult ipLiteral options)
          { toFleetState := fleet }).offRates =
        windowOf options false node.results := by
    rw [offPeak_foldl, offRates_foldl, foldl_rates, windowOf]
    simp only [foldl_count_window, Nat.zero_add, List.nil_append]
  rw [finishRow, hhours, hpeak, hoff, verdicts_foldl, servers_foldl]
  rfl

/-- What the loop over the nodes has gathered. -/
structure Gathered (ipLiteral : Bytes → Bool) (options : Options)
    (nodes : List NodeInput) (before after : List NodeReport × FleetState) :
    Prop where
  rows : after.1 = before.1 ++ nodes.map (rowOf ipLiteral options)
  fleet : ∀ hour, after.2.fleet hour =
    (ranAt options hour (nodes.flatMap (·.results))).foldl
      (fun cell r => cell.count (isBad r options.threshold))
      (before.2.fleet hour)
  fleetRates : ∀ hour, after.2.fleetRates hour =
    before.2.fleetRates hour ++
      (ranAt options hour (nodes.flatMap (·.results))).filterMap successfulRate
  excluded : after.2.excluded = before.2.excluded +
    (reruns options (nodes.flatMap (·.results))).length

theorem foldl_fileNode (nodes : List NodeInput)
    (before : List NodeReport × FleetState) :
    Gathered ipLiteral options nodes before
      (nodes.foldl (fileNode ipLiteral options) before) := by
  induction nodes generalizing before with
  | nil => exact ⟨by simp, fun hour => rfl, fun hour => by simp [ranAt], rfl⟩
  | cons node rest ih =>
      have hrest := ih (fileNode ipLiteral options before node)
      have hsplit : ∀ hour, ranAt options hour
          ((node :: rest).flatMap (·.results)) =
            ranAt options hour node.results ++
              ranAt options hour (rest.flatMap (·.results)) :=
        fun hour => List.filter_append ..
      have hreruns : reruns options ((node :: rest).flatMap (·.results)) =
          reruns options node.results ++
            reruns options (rest.flatMap (·.results)) :=
        List.filter_append ..
      refine ⟨?_, fun hour => ?_, fun hour => ?_, ?_⟩
      · rw [List.foldl_cons, hrest.rows, fileNode, finishRow_foldl,
          List.append_assoc]
        rfl
      · rw [List.foldl_cons, hrest.fleet, hsplit, List.foldl_append, fileNode,
          fleet_foldl]
      · rw [List.foldl_cons, hrest.fleetRates, hsplit, List.filterMap_append,
          fileNode, fleetRates_foldl, foldl_rates, List.append_assoc]
      · rw [List.foldl_cons, hrest.excluded, hreruns, List.length_append,
          fileNode, excluded_foldl, Nat.add_assoc]

/-- The loops compute the report that the measurements make. -/
theorem build_eq (nodes : List NodeInput) :
    build ipLiteral options nodes = reportOf ipLiteral options nodes := by
  have hall := @foldl_fileNode ipLiteral options nodes ([], {})
  have hfleet : finishHours
      (nodes.foldl (fileNode ipLiteral options) ([], {})).2.fleet
      (nodes.foldl (fileNode ipLiteral options) ([], {})).2.fleetRates =
        cellOf options (nodes.flatMap (·.results)) := by
    funext hour
    rw [finishHours, hall.fleet, hall.fleetRates]
    simp only [foldl_count, newHours, noRates, cellOf, Nat.zero_add,
      List.nil_append]
  rw [build, hfleet, hall.rows, hall.excluded, Nat.zero_add, List.nil_append]
  rfl

end Filing

end XrayChecker.Pathquality

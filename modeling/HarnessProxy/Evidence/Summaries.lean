import HarnessProxy.Evidence.Matched

namespace HarnessProxy.Evidence

/-! # What a summary says about its pairs -/

@[simp] theorem liftDecimal_eq_ok {α : Type} {result : Except DecimalError α} {value : α} :
    liftDecimal result = .ok value ↔ result = .ok value := by
  cases result <;> simp [liftDecimal]

/-- The figures of a summary. -/
structure SummaryOf (pairs : List Pair) (summary : Summary) : Prop where
  nonempty : pairs ≠ []
  rowCount : summary.rowCount = pairs.length
  directValidCount : summary.directValidCount = pairs.countP fun pair => pair.direct.passed
  proxyValidCount : summary.proxyValidCount = pairs.countP fun pair => pair.proxy.passed
  successDeltaPpm : summary.successDeltaPpm =
    ((summary.proxyValidCount : Int) - summary.directValidCount) * 1000000 / (summary.rowCount : Int)
  critical : summary.proxyOnlyCriticalIntegrityViolationCount = pairs.countP Pair.proxyOnlyCritical
  bothValidCount : summary.bothValidCount = (pairs.filter Pair.bothValid).length
  conditional : conditional (p95 ((pairs.filter Pair.bothValid).map fun pair => pair.direct.wallS.value))
    (p95 ((pairs.filter Pair.bothValid).map fun pair => pair.proxy.wallS.value)) = .ok summary.conditional
  directLoss : sumDecimals 0 (pairs.map fun pair => pair.direct.penalized) = .ok summary.directLoss
  proxyLoss : sumDecimals 0 (pairs.map fun pair => pair.proxy.penalized) = .ok summary.proxyLoss
  directMean : meanMicroseconds summary.directLoss pairs.length = .ok summary.directPenalizedMeanWallUs
  proxyMean : meanMicroseconds summary.proxyLoss pairs.length = .ok summary.proxyPenalizedMeanWallUs
  ratio : ratioPpm (some summary.proxyLoss) (some summary.directLoss) = .ok summary.penalizedMeanRatioPpm
  directPercentiles : penalizedPercentiles (pairs.map fun pair => pair.direct.penalized) = .ok summary.directPercentiles
  proxyPercentiles : penalizedPercentiles (pairs.map fun pair => pair.proxy.penalized) = .ok summary.proxyPercentiles

theorem summarizePairs_eq_ok {pairs : List Pair} {summary : Summary} (summarized : summarizePairs pairs = .ok summary) :
    SummaryOf pairs summary := by
  simp only [summarizePairs, bind_eq_ok, raiseIf_eq_ok, liftDecimal_eq_ok, decide_eq_false_iff_not, pure, Except.pure,
    Except.ok.injEq] at summarized
  obtain ⟨_, nonempty, directLoss, direct, proxyLoss, proxy, figures, figured, directMean, directMeant, proxyMean,
    proxyMeant, ratio, rated, directPercentiles, directCut, proxyPercentiles, proxyCut, same⟩ := summarized
  subst same
  exact ⟨nonempty, rfl, rfl, rfl, rfl, rfl, rfl, figured, direct, proxy, directMeant, proxyMeant, rated, directCut,
    proxyCut⟩

/-! ## Signs -/

theorem fix_nonneg {q result : ℚ} (nonneg : 0 ≤ q) (fixed : Decimal.fix q = .ok result) : 0 ≤ result := by
  rw [Decimal.fix_eq_ok fixed]
  exact Decimal.rounded_nonneg nonneg

theorem div_nonneg_of_ok {left right result : ℚ} (leftNonneg : 0 ≤ left) (rightNonneg : 0 ≤ right)
    (divided : Decimal.div left right = .ok result) : 0 ≤ result := by
  unfold Decimal.div at divided
  split at divided
  · cases divided
  · exact fix_nonneg (div_nonneg leftNonneg rightNonneg) divided

theorem microseconds_nonneg {value : ℚ} {result : Int} (nonneg : 0 ≤ value) (converted : microseconds value = .ok result) :
    0 ≤ result := by
  simp only [microseconds, bind_eq_ok, pure, Except.pure, Except.ok.injEq] at converted
  obtain ⟨scaled, multiplied, rfl⟩ := converted
  exact Int.ceil_nonneg (fix_nonneg (mul_nonneg nonneg (by norm_num)) multiplied)

theorem meanMicroseconds_nonneg {total : ℚ} {count : Nat} {result : Int} (nonneg : 0 ≤ total)
    (converted : meanMicroseconds total count = .ok result) : 0 ≤ result := by
  simp only [meanMicroseconds, bind_eq_ok, pure, Except.pure, Except.ok.injEq] at converted
  obtain ⟨scaled, multiplied, mean, divided, rfl⟩ := converted
  exact Int.ceil_nonneg (div_nonneg_of_ok (fix_nonneg (mul_nonneg nonneg (by norm_num)) multiplied)
    (by exact_mod_cast Nat.zero_le count) divided)

/-- A ratio is there exactly for a positive denominator, and is not negative. -/
theorem ratioPpm_some {numerator denominator : ℚ} {result : Option Int} (nonneg : 0 ≤ numerator)
    (rated : ratioPpm (some numerator) (some denominator) = .ok result) :
    (result.isSome = true ↔ 0 < denominator) ∧ ∀ ratio, result = some ratio → 0 ≤ ratio := by
  by_cases small : denominator ≤ 0
  · rw [ratioPpm, if_pos small] at rated
    cases rated
    exact ⟨iff_of_false (by simp) (not_lt.mpr small), fun _ none => (by cases none)⟩
  · rw [ratioPpm, if_neg small] at rated
    simp only [bind_eq_ok, pure, Except.pure, Except.ok.injEq] at rated
    obtain ⟨scaled, multiplied, quotient, divided, rfl⟩ := rated
    have positive := not_le.mp small
    refine ⟨iff_of_true rfl positive, fun ratio same => ?_⟩
    cases same
    exact Int.ceil_nonneg (div_nonneg_of_ok (fix_nonneg (mul_nonneg nonneg (by norm_num)) multiplied) positive.le divided)

theorem sortedAt_mem {values : List ℚ} {index : Nat} (inside : index < values.length) : sortedAt values index ∈ values := by
  have perm := List.perm_insertionSort (· ≤ ·) values
  have bound : index < (values.insertionSort (· ≤ ·)).length := by rwa [perm.length_eq]
  rw [sortedAt, List.getD_eq_getElem?_getD, List.getElem?_eq_getElem bound, Option.getD_some]
  exact perm.mem_iff.mp (List.getElem_mem bound)

/-- An index into a nonempty list that a fraction of its length gives. -/
theorem scaled_index_lt {length part whole : Nat} (nonempty : 0 < length) (proper : part ≤ whole) (positive : 0 < whole) :
    (length - 1) * part / whole < length := by
  have bound : (length - 1) * part ≤ (length - 1) * whole := Nat.mul_le_mul_left _ proper
  have divided : (length - 1) * part / whole ≤ length - 1 := by
    calc (length - 1) * part / whole ≤ (length - 1) * whole / whole := Nat.div_le_div_right bound
      _ = length - 1 := Nat.mul_div_cancel _ positive
  omega

theorem percentile_mem {values : List ℚ} (nonempty : values ≠ []) {ppm : Nat} (proper : ppm ≤ 1000000) :
    percentile values ppm ∈ values :=
  sortedAt_mem (scaled_index_lt (List.length_pos_iff.mpr nonempty) proper (by norm_num))

theorem p95_some {values : List ℚ} (nonempty : values ≠ []) : ∃ value ∈ values, p95 values = some value :=
  ⟨_, sortedAt_mem (scaled_index_lt (List.length_pos_iff.mpr nonempty) (by norm_num) (by norm_num)), if_neg nonempty⟩

theorem penalizedPercentiles_nonneg {values : List ℚ} {cut : Percentiles} (nonempty : values ≠ [])
    (nonneg : ∀ value ∈ values, 0 ≤ value) (computed : penalizedPercentiles values = .ok cut) :
    0 ≤ cut.p50 ∧ 0 ≤ cut.p95 ∧ 0 ≤ cut.p99 := by
  simp only [penalizedPercentiles, bind_eq_ok, pure, Except.pure, Except.ok.injEq] at computed
  obtain ⟨p50, at50, p95, at95, p99, at99, rfl⟩ := computed
  exact ⟨microseconds_nonneg (nonneg _ (percentile_mem nonempty (by norm_num))) at50,
    microseconds_nonneg (nonneg _ (percentile_mem nonempty (by norm_num))) at95,
    microseconds_nonneg (nonneg _ (percentile_mem nonempty (by norm_num))) at99⟩

/-! ## Sums -/

/-- A sum is zero, or on the grid. -/
def OnGrid (total : ℚ) : Prop := total = 0 ∨ 10 ^ Decimal.etiny ≤ total

theorem onGrid_rounded {q : ℚ} (nonneg : 0 ≤ q) : OnGrid (Decimal.rounded q) := by
  rcases (Decimal.rounded_nonneg nonneg).eq_or_lt with zero | positive
  · exact .inl zero.symm
  · exact .inr (Decimal.etiny_le_rounded positive)

theorem OnGrid.nonneg {total : ℚ} (grid : OnGrid total) : 0 ≤ total :=
  grid.elim (fun zero => zero.ge) fun large => (zpow_pos (by norm_num) _).le.trans large

/-- A sum is positive when one of its numbers does not round to zero. -/
theorem sumDecimals_pos_iff {values : List ℚ} {total result : ℚ} (grid : OnGrid total)
    (nonneg : ∀ value ∈ values, 0 ≤ value) (summed : sumDecimals total values = .ok result) :
    0 ≤ result ∧ (0 < result ↔ 0 < total ∨ ∃ value ∈ values, 0 < Decimal.rounded value) := by
  induction values generalizing total with
  | nil =>
      cases summed
      exact ⟨grid.nonneg, by simp⟩
  | cons value rest ih =>
      simp only [sumDecimals, Decimal.add, bind_eq_ok] at summed
      obtain ⟨next, added, remaining⟩ := summed
      obtain ⟨head, tail⟩ := List.forall_mem_cons.mp nonneg
      have same := Decimal.fix_eq_ok added
      have nextGrid : OnGrid next := same ▸ onGrid_rounded (add_nonneg grid.nonneg head)
      obtain ⟨resultNonneg, iff⟩ := ih nextGrid tail remaining
      refine ⟨resultNonneg, iff.trans ?_⟩
      have nextPos : 0 < next ↔ 0 < total ∨ 0 < Decimal.rounded value := by
        rcases grid with zero | large
        · rw [same, zero, zero_add]
          simp
        · have totalPos : 0 < total := lt_of_lt_of_le (zpow_pos (by norm_num) _) large
          rw [same]
          exact iff_of_true (Decimal.rounded_pos (large.trans (le_add_of_nonneg_right head))) (.inl totalPos)
      rw [nextPos]
      simp only [List.mem_cons, exists_eq_or_imp, or_assoc]

/-! ## The whole evaluation -/

/-- The pairs of one lane. -/
def ofLane (pairs : List Pair) (lane : Lane) : List Pair := pairs.filter fun pair => pair.lane = lane

/-- What an evaluation says about the pairs. -/
structure EvaluationOf (pairs : List Pair) (evaluation : Evaluation) : Prop where
  pooled : SummaryOf pairs evaluation.pooled
  lanes : List.Forall₂ (fun lane report => report.lane = lane ∧ SummaryOf (ofLane pairs lane) report.summary) lanes
    evaluation.lanes
  replicates : ∀ report ∈ evaluation.lanes,
    report.replicates.map ReplicateReport.replicate = List.range' 1 replicatesPerLane
  mcnemar : evaluation.mcnemar =
    exactOneSidedMcnemar evaluation.pooled.proxyOnlySuccessCount evaluation.pooled.directOnlySuccessCount
  supports : evaluation.supportsProxyBenefit = mcnemarSupportsProxyBenefit evaluation.mcnemar mcnemarAlphaPpm
  safe : evaluation.gates.qualitySafety = true → evaluation.pooled.proxyOnlyCriticalIntegrityViolationCount = 0
  diagnostic : evaluation.gates.conditionalLatencyDiagnostic =
    overallConditionalStatus (evaluation.lanes.map LaneReport.conditional)

theorem reportReplicate_eq_ok {pairs : List Pair} {lane : Lane} {replicate : Nat} {report : ReplicateReport}
    (reported : reportReplicate pairs lane replicate = .ok report) : report.replicate = replicate := by
  simp only [reportReplicate, bind_eq_ok, pure, Except.pure, Except.ok.injEq] at reported
  obtain ⟨_, _, _, _, rfl⟩ := reported
  rfl

theorem reportLane_eq_ok {pairs : List Pair} {lane : Lane} {report : LaneReport}
    (reported : reportLane pairs lane = .ok report) :
    (report.lane = lane ∧ SummaryOf (ofLane pairs lane) report.summary) ∧
      report.replicates.map ReplicateReport.replicate = List.range' 1 replicatesPerLane := by
  simp only [reportLane, bind_eq_ok, pure, Except.pure, Except.ok.injEq] at reported
  obtain ⟨summary, summarized, _, _, _, _, replicates, ran, rfl⟩ := reported
  refine ⟨⟨rfl, summarizePairs_eq_ok summarized⟩, ?_⟩
  have numbered := (mapEach_eq_ok_iff.mp ran).imp fun _ _ => reportReplicate_eq_ok
  exact (List.forall₂_eq_eq_eq ▸ List.forall₂_map_right_iff.mpr (numbered.imp fun _ _ => Eq.symm)).symm

theorem evaluate_eq_ok {records : List V2OutcomeRecord} {evaluation : Evaluation}
    (evaluated : evaluateQualificationV2 records = .ok evaluation) :
    ∃ pairs, AcceptedSet records pairs ∧ EvaluationOf pairs evaluation := by
  simp only [evaluateQualificationV2, bind_eq_ok, pure, Except.pure, Except.ok.injEq] at evaluated
  obtain ⟨pairs, paired, pooled, summarized, reports, reported, pooledTime, _, same⟩ := evaluated
  subst same
  have laneReports := (mapEach_eq_ok_iff.mp reported).imp fun _ _ => reportLane_eq_ok
  refine ⟨pairs, validateAndPair_eq_ok_iff.mp paired, summarizePairs_eq_ok summarized,
    laneReports.imp fun _ _ => And.left, fun report member => ?_, rfl, rfl, fun safe => ?_, rfl⟩
  · obtain ⟨_, _, shown⟩ := forall₂_mem_right laneReports member
    exact shown.2
  · simp only [Bool.and_eq_true, decide_eq_true_eq] at safe
    exact safe.1.1

end HarnessProxy.Evidence

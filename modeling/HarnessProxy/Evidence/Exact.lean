import HarnessProxy.Evidence.Evaluator

namespace HarnessProxy.Evidence

/-! # The evaluator over any arithmetic

The evaluation is written again over fractions, with the rounding of each
operation as a parameter.  The context of the decimals gives the evaluator of
the source; no rounding gives exact arithmetic.
-/

/-- An outcome with exact times. -/
structure TimedRecord where
  caseOrdinal : Int
  cacheLane : Text
  replicate : Int
  arm : Text
  passed : Bool
  wallS : ℚ
  deadlineS : ℚ
  criticalIntegrityViolation : Bool

namespace TimedRecord

def valid (record : TimedRecord) : Bool :=
  decide (1 ≤ record.caseOrdinal ∧ record.caseOrdinal ≤ caseCount) &&
    decide (record.cacheLane ∈ lanes.map Lane.name) &&
    decide (1 ≤ record.replicate ∧ record.replicate ≤ replicatesPerLane) &&
    (record.arm = "direct" || record.arm = "proxy") &&
    decide (0 < record.wallS) && decide (0 < record.deadlineS) &&
    !(record.passed && decide (record.deadlineS < record.wallS))

def isAt (record : TimedRecord) (cacheLane : Text) (replicate caseOrdinal : Int) (arm : Text) : Bool :=
  record.caseOrdinal = caseOrdinal && record.replicate = replicate && record.arm = arm && record.cacheLane = cacheLane

def penalized (record : TimedRecord) : ℚ := if record.passed then record.wallS else record.deadlineS

end TimedRecord

structure TimedPair where
  lane : Lane
  replicate : Nat
  direct : TimedRecord
  proxy : TimedRecord

namespace TimedPair

def directOnly (pair : TimedPair) : Bool := pair.direct.passed && !pair.proxy.passed
def proxyOnly (pair : TimedPair) : Bool := pair.proxy.passed && !pair.direct.passed
def bothValid (pair : TimedPair) : Bool := pair.direct.passed && pair.proxy.passed

def proxyOnlyCritical (pair : TimedPair) : Bool :=
  pair.proxy.criticalIntegrityViolation && !pair.direct.criticalIntegrityViolation

end TimedPair

namespace Timed

def gather (raw : List TimedRecord) : List TimedRecord → Except EvaluationError (List TimedRecord)
  | [] => .ok raw
  | record :: rest => do
    raiseIf (!record.valid) (.failure "qualification_v2_row_invalid")
    raiseIf (raw.any fun before => before.isAt record.cacheLane record.replicate record.caseOrdinal record.arm)
      (.failure "qualification_v2_duplicate_row")
    let prior := ((raw.find? fun before => before.caseOrdinal = record.caseOrdinal).getD record).deadlineS
    raiseIf (prior ≠ record.deadlineS) (.failure "qualification_v2_pair_mismatch")
    gather (raw ++ [record]) rest

def selectPair (raw : List TimedRecord) (lane : Lane) (replicate caseOrdinal : Nat) : Except EvaluationError TimedPair :=
  match raw.find? (·.isAt lane.name replicate caseOrdinal "direct"), raw.find? (·.isAt lane.name replicate caseOrdinal "proxy") with
  | some direct, some proxy =>
    if direct.deadlineS ≠ proxy.deadlineS then .error (.failure "qualification_v2_pair_mismatch")
    else .ok ⟨lane, replicate, direct, proxy⟩
  | _, _ => .error (.failure "qualification_v2_evidence_incomplete")

def validateAndPair (records : List TimedRecord) : Except EvaluationError (List TimedPair) := do
  raiseIf (records.length ≠ caseCount * lanes.length * replicatesPerLane * 2)
    (.failure "qualification_v2_evidence_incomplete")
  let raw ← gather [] records
  mapEach (fun (lane, replicate, ordinal) => selectPair raw lane replicate ordinal) cohort

section
variable (fix : ℚ → Except DecimalError ℚ)

def sumDecimals (total : ℚ) : List ℚ → Except DecimalError ℚ
  | [] => .ok total
  | value :: rest => do sumDecimals (← fix (total + value)) rest

def microseconds (value : ℚ) : Except DecimalError Int := do return ⌈← fix (value * 1000000)⌉

def optionalMicroseconds : Option ℚ → Except DecimalError (Option Int)
  | none => .ok none
  | some value => do return some (← microseconds fix value)

def divide (left right : ℚ) : Except DecimalError ℚ :=
  if right = 0 then .error .divisionByZero else fix (left / right)

def meanMicroseconds (total : ℚ) (count : Nat) : Except DecimalError Int := do
  return ⌈← divide fix (← fix (total * 1000000)) count⌉

def ratioPpm : Option ℚ → Option ℚ → Except DecimalError (Option Int)
  | some numerator, some denominator =>
    if denominator ≤ 0 then .ok none
    else do return some ⌈← divide fix (← fix (numerator * 1000000)) denominator⌉
  | _, _ => .ok none

def penalizedPercentiles (values : List ℚ) : Except DecimalError Percentiles := do
  return ⟨← microseconds fix (percentile values 500000), ← microseconds fix (percentile values 950000),
    ← microseconds fix (percentile values 990000)⟩

def conditional (direct proxy : Option ℚ) : Except DecimalError Conditional := do
  return ⟨← optionalMicroseconds fix direct, ← optionalMicroseconds fix proxy, ← ratioPpm fix proxy direct⟩

def summarizePairs (pairs : List TimedPair) : Except EvaluationError Summary := do
  raiseIf pairs.isEmpty (.failure "qualification_v2_evidence_incomplete")
  let directWalls := pairs.map fun pair => pair.direct.penalized
  let proxyWalls := pairs.map fun pair => pair.proxy.penalized
  let directLoss ← liftDecimal (sumDecimals fix 0 directWalls)
  let proxyLoss ← liftDecimal (sumDecimals fix 0 proxyWalls)
  let valid := pairs.filter TimedPair.bothValid
  let directSuccess := pairs.countP fun pair => pair.direct.passed
  let proxySuccess := pairs.countP fun pair => pair.proxy.passed
  return {
    rowCount := pairs.length
    directValidCount := directSuccess
    proxyValidCount := proxySuccess
    successDeltaPpm := ((proxySuccess : Int) - directSuccess) * 1000000 / (pairs.length : Int)
    directOnlySuccessCount := pairs.countP TimedPair.directOnly
    proxyOnlySuccessCount := pairs.countP TimedPair.proxyOnly
    proxyOnlyCriticalIntegrityViolationCount := pairs.countP TimedPair.proxyOnlyCritical
    bothValidCount := valid.length
    conditional := ← liftDecimal (conditional fix (p95 (valid.map fun pair => pair.direct.wallS))
      (p95 (valid.map fun pair => pair.proxy.wallS)))
    directPenalizedMeanWallUs := ← liftDecimal (meanMicroseconds fix directLoss pairs.length)
    proxyPenalizedMeanWallUs := ← liftDecimal (meanMicroseconds fix proxyLoss pairs.length)
    penalizedMeanRatioPpm := ← liftDecimal (ratioPpm fix (some proxyLoss) (some directLoss))
    directPercentiles := ← liftDecimal (penalizedPercentiles fix directWalls)
    proxyPercentiles := ← liftDecimal (penalizedPercentiles fix proxyWalls)
    directLoss := directLoss
    proxyLoss := proxyLoss
  }

def ratioAtMost (summary : Summary) (thresholdPpm : Nat) : Except EvaluationError Bool := do
  return decide ((← liftDecimal (fix (summary.proxyLoss * 1000000))) ≤
    (← liftDecimal (fix (summary.directLoss * thresholdPpm))))

def reportReplicate (pairs : List TimedPair) (lane : Lane) (replicate : Nat) : Except EvaluationError ReplicateReport := do
  let summary ← summarizePairs fix (pairs.filter fun pair => pair.lane = lane ∧ pair.replicate = replicate)
  return ⟨replicate, summary, qualityDeltaAtLeast summary 0, ← ratioAtMost fix summary timeReplicateMaxRatioPpm⟩

def reportLane (pairs : List TimedPair) (lane : Lane) : Except EvaluationError LaneReport := do
  let summary ← summarizePairs fix (pairs.filter fun pair => pair.lane = lane)
  let timePass ← ratioAtMost fix summary timeLaneMaxRatioPpm
  let conditional ← conditionalStatus summary
  let replicates ← mapEach (reportReplicate fix pairs lane) (List.range' 1 replicatesPerLane)
  return ⟨lane, summary, conditional, replicates, timePass⟩

/-- `evaluate_qualification_v2` with this rounding. -/
def evaluateQualificationV2 (records : List TimedRecord) : Except EvaluationError Evaluation := do
  let matched ← validateAndPair records
  let pooled ← summarizePairs fix matched
  let reports ← mapEach (reportLane fix matched) lanes
  let mcnemar := exactOneSidedMcnemar pooled.proxyOnlySuccessCount pooled.directOnlySuccessCount
  let supports := mcnemarSupportsProxyBenefit mcnemar mcnemarAlphaPpm
  let qualitySafety := decide (pooled.proxyOnlyCriticalIntegrityViolationCount = 0) &&
    qualityDeltaAtLeast pooled qualitySafetyNoninferiorityPpm &&
    reports.all fun report => qualityDeltaAtLeast report.summary qualitySafetyNoninferiorityPpm
  let qualityEfficacy := qualityDeltaAtLeast pooled qualityEfficacyBenefitPpm &&
    reports.all LaneReport.qualityPass &&
    (reports.all fun report => decide (minQualityNoninferiorReplicates ≤ report.qualityWins)) && supports
  let pooledTime ← ratioAtMost fix pooled timePooledMaxRatioPpm
  let unconditionalTime := pooledTime && reports.all LaneReport.timePass &&
    reports.all fun report => decide (minTimePassingReplicates ≤ report.timeWins)
  return {
    pooled := pooled
    lanes := reports
    mcnemar := mcnemar
    supportsProxyBenefit := supports
    gates := {
      qualitySafety := qualitySafety
      qualityEfficacy := qualityEfficacy
      unconditionalTimeToValid := unconditionalTime
      conditionalLatencyDiagnostic := overallConditionalStatus (reports.map LaneReport.conditional)
    }
  }

end

end Timed

/-! ## The context of the decimals -/

/-- The exact times of an outcome. -/
def V2OutcomeRecord.timed (record : V2OutcomeRecord) : TimedRecord where
  caseOrdinal := record.caseOrdinal
  cacheLane := record.cacheLane
  replicate := record.replicate
  arm := record.arm
  passed := record.passed
  wallS := record.wallS.value
  deadlineS := record.deadlineS.value
  criticalIntegrityViolation := record.criticalIntegrityViolation

def Pair.timed (pair : Pair) : TimedPair := ⟨pair.lane, pair.replicate, pair.direct.timed, pair.proxy.timed⟩

theorem positiveFinite_iff (d : Decimal) : d.positiveFinite = decide (0 < d.value) := by
  rw [Bool.eq_iff_iff, decide_eq_true_eq]
  refine ⟨Decimal.value_pos, fun positive => ?_⟩
  cases d with
  | finite coefficient exponent =>
      have scale : (0 : ℚ) < 10 ^ exponent := zpow_pos (by norm_num) exponent
      have counted := (mul_pos_iff_of_pos_right scale).mp positive
      simpa [Decimal.positiveFinite] using counted
  | infinity negative => exact absurd positive (lt_irrefl 0)
  | nan => exact absurd positive (lt_irrefl 0)

theorem valid_timed (record : V2OutcomeRecord) : record.timed.valid = validRecord record := by
  rw [TimedRecord.valid, validRecord, positiveFinite_iff, positiveFinite_iff]
  rfl

theorem gather_timed (raw records : List V2OutcomeRecord) :
    Timed.gather (raw.map V2OutcomeRecord.timed) (records.map V2OutcomeRecord.timed) =
      (gather raw records).map (List.map V2OutcomeRecord.timed) := by
  induction records generalizing raw with
  | nil => rfl
  | cons record rest ih =>
      have tail := ih (raw ++ [record])
      rw [List.map_append] at tail
      have repeated : ((raw.map V2OutcomeRecord.timed).any fun before => before.isAt record.timed.cacheLane
          record.timed.replicate record.timed.caseOrdinal record.timed.arm) =
          raw.any fun before => before.isAt record.cacheLane record.replicate record.caseOrdinal record.arm := by
        rw [List.any_map]
        rfl
      have prior : (((raw.map V2OutcomeRecord.timed).find? fun before : TimedRecord =>
          decide (before.caseOrdinal = record.timed.caseOrdinal)).getD record.timed).deadlineS =
          ((raw.find? fun before : V2OutcomeRecord => before.caseOrdinal = record.caseOrdinal).getD record).deadlineS.value := by
        rw [List.find?_map]
        change TimedRecord.deadlineS ((Option.map _ (raw.find? fun before : V2OutcomeRecord =>
          before.caseOrdinal = record.caseOrdinal)).getD _) = _
        cases raw.find? fun before : V2OutcomeRecord => before.caseOrdinal = record.caseOrdinal <;> rfl
      rw [List.map_cons, Timed.gather, gather, valid_timed, repeated, prior]
      cases raiseIf (!validRecord record) (EvaluationError.failure "qualification_v2_row_invalid") with
      | error error => rfl
      | ok _ =>
          cases raiseIf (raw.any fun before => before.isAt record.cacheLane record.replicate record.caseOrdinal record.arm)
            (EvaluationError.failure "qualification_v2_duplicate_row") with
          | error error => rfl
          | ok _ =>
              dsimp only [bind, Except.bind]
              change Except.bind (raiseIf (decide (_ ≠ record.deadlineS.value)) _) _ = _
              cases raiseIf (decide (((raw.find? fun before : V2OutcomeRecord => before.caseOrdinal = record.caseOrdinal).getD
                record).deadlineS.value ≠ record.deadlineS.value)) (EvaluationError.failure "qualification_v2_pair_mismatch") with
              | error error => rfl
              | ok _ => exact tail

theorem selectPair_timed (raw : List V2OutcomeRecord) (lane : Lane) (replicate caseOrdinal : Nat) :
    Timed.selectPair (raw.map V2OutcomeRecord.timed) lane replicate caseOrdinal =
      (selectPair raw lane replicate caseOrdinal).map Pair.timed := by
  have found (arm : Text) : (raw.map V2OutcomeRecord.timed).find? (·.isAt lane.name replicate caseOrdinal arm) =
      (raw.find? (·.isAt lane.name replicate caseOrdinal arm)).map V2OutcomeRecord.timed := by
    rw [List.find?_map]
    rfl
  rw [Timed.selectPair, selectPair, found, found]
  cases raw.find? (·.isAt lane.name replicate caseOrdinal "direct") with
  | none => rfl
  | some direct =>
      cases raw.find? (·.isAt lane.name replicate caseOrdinal "proxy") with
      | none => rfl
      | some proxy =>
          dsimp only [Option.map_some]
          by_cases same : direct.deadlineS.value = proxy.deadlineS.value
          · rw [if_neg (not_not.mpr same), if_neg (not_not.mpr (show direct.timed.deadlineS = proxy.timed.deadlineS from same))]
            rfl
          · rw [if_pos same, if_pos (show direct.timed.deadlineS ≠ proxy.timed.deadlineS from same)]
            rfl

theorem mapEach_result {ε α β γ : Type} {function : α → Except ε β} {other : α → Except ε γ} {after : β → γ}
    (related : ∀ item, other item = (function item).map after) (items : List α) :
    mapEach other items = (mapEach function items).map (List.map after) := by
  induction items with
  | nil => rfl
  | cons item rest ih =>
      rw [mapEach, mapEach, related, ih]
      cases function item with
      | error error => rfl
      | ok first => cases mapEach function rest <;> rfl

theorem validateAndPair_timed (records : List V2OutcomeRecord) :
    Timed.validateAndPair (records.map V2OutcomeRecord.timed) = (validateAndPair records).map (List.map Pair.timed) := by
  rw [Timed.validateAndPair, validateAndPair, List.length_map]
  cases raiseIf (decide (records.length ≠ caseCount * lanes.length * replicatesPerLane * 2))
    (EvaluationError.failure "qualification_v2_evidence_incomplete") with
  | error error => rfl
  | ok _ =>
      have gathered := gather_timed [] records
      rw [List.map_nil] at gathered
      simp only [bind, Except.bind, gathered]
      cases gather [] records with
      | error error => rfl
      | ok raw => exact mapEach_result (fun item => selectPair_timed raw item.1 item.2.1 item.2.2) cohort

theorem sumDecimals_fix (total : ℚ) (values : List ℚ) :
    Timed.sumDecimals Decimal.fix total values = sumDecimals total values := by
  induction values generalizing total with
  | nil => rfl
  | cons value rest ih =>
      rw [Timed.sumDecimals, sumDecimals, Decimal.add]
      cases Decimal.fix (total + value) with
      | error error => rfl
      | ok next => exact ih next

theorem ratioPpm_fix (numerator denominator : Option ℚ) :
    Timed.ratioPpm Decimal.fix numerator denominator = ratioPpm numerator denominator := by
  cases numerator with
  | none => rfl
  | some numerator => cases denominator <;> rfl

theorem optionalMicroseconds_fix (value : Option ℚ) :
    Timed.optionalMicroseconds Decimal.fix value = optionalMicroseconds value := by
  cases value <;> rfl

theorem summarizePairs_timed (pairs : List Pair) :
    Timed.summarizePairs Decimal.fix (pairs.map Pair.timed) = summarizePairs pairs := by
  have empty : (pairs.map Pair.timed).isEmpty = decide (pairs = []) := by cases pairs <;> rfl
  have penalized (record : V2OutcomeRecord) : record.timed.penalized = record.penalized := by
    cases passed : record.passed <;> simp [TimedRecord.penalized, V2OutcomeRecord.penalized, V2OutcomeRecord.timed, passed]
  have both : (pairs.map Pair.timed).filter TimedPair.bothValid = (pairs.filter Pair.bothValid).map Pair.timed := by
    rw [List.filter_map]
    rfl
  simp only [Timed.summarizePairs, summarizePairs, empty, List.map_map, Function.comp_def, List.length_map, both,
    List.countP_map, sumDecimals_fix, ratioPpm_fix]
  rfl

theorem summarizePairs_filter (pairs : List Pair) (kept : Lane → Nat → Bool) :
    Timed.summarizePairs Decimal.fix ((pairs.map Pair.timed).filter fun pair => kept pair.lane pair.replicate) =
      summarizePairs (pairs.filter fun pair => kept pair.lane pair.replicate) := by
  rw [List.filter_map]
  exact summarizePairs_timed _

theorem reportReplicate_timed (pairs : List Pair) (lane : Lane) (replicate : Nat) :
    Timed.reportReplicate Decimal.fix (pairs.map Pair.timed) lane replicate = reportReplicate pairs lane replicate := by
  have selected := summarizePairs_filter pairs fun l r => decide (l = lane ∧ r = replicate)
  rw [Timed.reportReplicate, reportReplicate, selected]
  rfl

theorem reportLane_timed (pairs : List Pair) (lane : Lane) :
    Timed.reportLane Decimal.fix (pairs.map Pair.timed) lane = reportLane pairs lane := by
  have selected := summarizePairs_filter pairs fun l _ => decide (l = lane)
  have replicates : Timed.reportReplicate Decimal.fix (pairs.map Pair.timed) lane = reportReplicate pairs lane :=
    funext (reportReplicate_timed pairs lane)
  rw [Timed.reportLane, reportLane, selected, replicates]
  rfl

/-- With the rounding of the decimals the evaluator is the one of the source. -/
theorem evaluateQualificationV2_timed (records : List V2OutcomeRecord) :
    Timed.evaluateQualificationV2 Decimal.fix (records.map V2OutcomeRecord.timed) = evaluateQualificationV2 records := by
  rw [Timed.evaluateQualificationV2, evaluateQualificationV2, validateAndPair_timed]
  cases validateAndPair records with
  | error error => rfl
  | ok matched =>
      have reports : Timed.reportLane Decimal.fix (matched.map Pair.timed) = reportLane matched :=
        funext (reportLane_timed matched)
      dsimp only [bind, Except.bind, Except.map]
      rw [summarizePairs_timed, reports]
      rfl

end HarnessProxy.Evidence

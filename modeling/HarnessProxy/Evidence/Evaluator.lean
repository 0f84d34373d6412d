import HarnessProxy.Json.Value
import HarnessProxy.Python.Decimal
import Mathlib.Data.Nat.Choose.Basic

namespace HarnessProxy.Evidence

open HarnessProxy.Json

/-! # The evaluator of the second campaign version

Matched outcomes of both arms are counted and compared.  The decimals round as
Python's do, and everything else is exact.
-/

/-- Why an evaluation gives up. -/
inductive EvaluationError where
  | failure (category : Text)
  | decimal (error : DecimalError)
deriving DecidableEq

def liftDecimal {α : Type} : Except DecimalError α → Except EvaluationError α
  | .ok value => .ok value
  | .error error => .error (.decimal error)

structure V2OutcomeRecord where
  caseOrdinal : Int
  cacheLane : Text
  replicate : Int
  arm : Text
  passed : Bool
  wallS : Decimal
  deadlineS : Decimal
  criticalIntegrityViolation : Bool
deriving DecidableEq

inductive Lane where
  | cold
  | warmPrefix
deriving DecidableEq

def Lane.name : Lane → Text
  | .cold => "cold"
  | .warmPrefix => "warm-prefix"

def lanes : List Lane := [.cold, .warmPrefix]

def caseCount : Nat := 30
def replicatesPerLane : Nat := 4
def conditionalMinBothValidRows : Nat := 22
def qualitySafetyNoninferiorityPpm : Int := -50000
def qualityEfficacyBenefitPpm : Int := 100000
def minQualityNoninferiorReplicates : Nat := 3
def mcnemarAlphaPpm : Nat := 25000
def timePooledMaxRatioPpm : Nat := 800000
def timeLaneMaxRatioPpm : Nat := 900000
def timeReplicateMaxRatioPpm : Nat := 900000
def minTimePassingReplicates : Nat := 3
def conditionalMaxP95RatioPpm : Int := 1250000

/-! ## Pairing -/

/-- `_validate_record`, beyond what the types of the fields promise. -/
def validRecord (record : V2OutcomeRecord) : Bool :=
  decide (1 ≤ record.caseOrdinal ∧ record.caseOrdinal ≤ caseCount) &&
    decide (record.cacheLane ∈ lanes.map Lane.name) &&
    decide (1 ≤ record.replicate ∧ record.replicate ≤ replicatesPerLane) &&
    (record.arm = "direct" || record.arm = "proxy") &&
    record.wallS.positiveFinite && record.deadlineS.positiveFinite &&
    !(record.passed && decide (record.deadlineS.value < record.wallS.value))

/-- The record stands for this case in this replicate of the lane. -/
def V2OutcomeRecord.isAt (record : V2OutcomeRecord) (cacheLane : Text) (replicate caseOrdinal : Int) (arm : Text) : Bool :=
  record.caseOrdinal = caseOrdinal && record.replicate = replicate && record.arm = arm && record.cacheLane = cacheLane

/-- The loop of `_validate_and_pair` over the records; `raw` are the records
before. -/
def gather (raw : List V2OutcomeRecord) : List V2OutcomeRecord → Except EvaluationError (List V2OutcomeRecord)
  | [] => .ok raw
  | record :: rest => do
    raiseIf (!validRecord record) (.failure "qualification_v2_row_invalid")
    raiseIf (raw.any fun before => before.isAt record.cacheLane record.replicate record.caseOrdinal record.arm)
      (.failure "qualification_v2_duplicate_row")
    let prior := ((raw.find? fun before => before.caseOrdinal = record.caseOrdinal).getD record).deadlineS
    raiseIf (prior.value ≠ record.deadlineS.value) (.failure "qualification_v2_pair_mismatch")
    gather (raw ++ [record]) rest

/-- Both outcomes of one case in one replicate of a lane. -/
structure Pair where
  lane : Lane
  replicate : Nat
  direct : V2OutcomeRecord
  proxy : V2OutcomeRecord
deriving DecidableEq

def selectPair (raw : List V2OutcomeRecord) (lane : Lane) (replicate caseOrdinal : Nat) : Except EvaluationError Pair :=
  match raw.find? (·.isAt lane.name replicate caseOrdinal "direct"), raw.find? (·.isAt lane.name replicate caseOrdinal "proxy") with
  | some direct, some proxy =>
    if direct.deadlineS.value ≠ proxy.deadlineS.value then .error (.failure "qualification_v2_pair_mismatch")
    else .ok ⟨lane, replicate, direct, proxy⟩
  | _, _ => .error (.failure "qualification_v2_evidence_incomplete")

/-- The cases in the order of the loops. -/
def cohort : List (Lane × Nat × Nat) :=
  lanes.flatMap fun lane => (List.range' 1 replicatesPerLane).flatMap fun replicate =>
    (List.range' 1 caseCount).map fun ordinal => (lane, replicate, ordinal)

/-- `_validate_and_pair` -/
def validateAndPair (records : List V2OutcomeRecord) : Except EvaluationError (List Pair) := do
  raiseIf (records.length ≠ caseCount * lanes.length * replicatesPerLane * 2)
    (.failure "qualification_v2_evidence_incomplete")
  let raw ← gather [] records
  mapEach (fun (lane, replicate, ordinal) => selectPair raw lane replicate ordinal) cohort

/-! ## Summaries -/

/-- The time of an outcome, or its deadline if it is invalid. -/
def V2OutcomeRecord.penalized (record : V2OutcomeRecord) : ℚ :=
  if record.passed then record.wallS.value else record.deadlineS.value

def sumDecimals (total : ℚ) : List ℚ → Except DecimalError ℚ
  | [] => .ok total
  | value :: rest => do sumDecimals (← Decimal.add total value) rest

/-- `_microseconds` of a number that is there. -/
def microseconds (value : ℚ) : Except DecimalError Int := do return ⌈← Decimal.mul value 1000000⌉

def optionalMicroseconds : Option ℚ → Except DecimalError (Option Int)
  | none => .ok none
  | some value => do return some (← microseconds value)

/-- `_mean_microseconds` -/
def meanMicroseconds (total : ℚ) (count : Nat) : Except DecimalError Int := do
  return ⌈← Decimal.div (← Decimal.mul total 1000000) count⌉

/-- `_ratio_ppm` -/
def ratioPpm : Option ℚ → Option ℚ → Except DecimalError (Option Int)
  | some numerator, some denominator =>
    if denominator ≤ 0 then .ok none
    else do return some ⌈← Decimal.div (← Decimal.mul numerator 1000000) denominator⌉
  | _, _ => .ok none

def sortedAt (values : List ℚ) (index : Nat) : ℚ := (values.insertionSort (· ≤ ·)).getD index 0

/-- `_percentile` of values that are there. -/
def percentile (values : List ℚ) (percentilePpm : Nat) : ℚ :=
  sortedAt values ((values.length - 1) * percentilePpm / 1000000)

/-- `_p95` -/
def p95 (values : List ℚ) : Option ℚ :=
  if values = [] then none else some (sortedAt values ((values.length - 1) * 95 / 100))

/-- `_penalized_percentiles` -/
structure Percentiles where
  p50 : Int
  p95 : Int
  p99 : Int
deriving DecidableEq

def penalizedPercentiles (values : List ℚ) : Except DecimalError Percentiles := do
  return ⟨← microseconds (percentile values 500000), ← microseconds (percentile values 950000),
    ← microseconds (percentile values 990000)⟩

/-- The three figures about the cases that both arms solve. -/
structure Conditional where
  directP95 : Option Int
  proxyP95 : Option Int
  ratio : Option Int
deriving DecidableEq

def conditional (direct proxy : Option ℚ) : Except DecimalError Conditional := do
  return ⟨← optionalMicroseconds direct, ← optionalMicroseconds proxy, ← ratioPpm proxy direct⟩

structure Summary where
  rowCount : Nat
  directValidCount : Nat
  proxyValidCount : Nat
  successDeltaPpm : Int
  directOnlySuccessCount : Nat
  proxyOnlySuccessCount : Nat
  proxyOnlyCriticalIntegrityViolationCount : Nat
  bothValidCount : Nat
  conditional : Conditional
  directPenalizedMeanWallUs : Int
  proxyPenalizedMeanWallUs : Int
  penalizedMeanRatioPpm : Option Int
  directPercentiles : Percentiles
  proxyPercentiles : Percentiles
  directLoss : ℚ
  proxyLoss : ℚ
deriving DecidableEq

namespace Pair

def directOnly (pair : Pair) : Bool := pair.direct.passed && !pair.proxy.passed
def proxyOnly (pair : Pair) : Bool := pair.proxy.passed && !pair.direct.passed
def bothValid (pair : Pair) : Bool := pair.direct.passed && pair.proxy.passed

def proxyOnlyCritical (pair : Pair) : Bool :=
  pair.proxy.criticalIntegrityViolation && !pair.direct.criticalIntegrityViolation

end Pair

/-- `_summarize_pairs` -/
def summarizePairs (pairs : List Pair) : Except EvaluationError Summary := do
  raiseIf (pairs = []) (.failure "qualification_v2_evidence_incomplete")
  let directWalls := pairs.map fun pair => pair.direct.penalized
  let proxyWalls := pairs.map fun pair => pair.proxy.penalized
  let directLoss ← liftDecimal (sumDecimals 0 directWalls)
  let proxyLoss ← liftDecimal (sumDecimals 0 proxyWalls)
  let valid := pairs.filter Pair.bothValid
  let directSuccess := pairs.countP fun pair => pair.direct.passed
  let proxySuccess := pairs.countP fun pair => pair.proxy.passed
  return {
    rowCount := pairs.length
    directValidCount := directSuccess
    proxyValidCount := proxySuccess
    successDeltaPpm := ((proxySuccess : Int) - directSuccess) * 1000000 / (pairs.length : Int)
    directOnlySuccessCount := pairs.countP Pair.directOnly
    proxyOnlySuccessCount := pairs.countP Pair.proxyOnly
    proxyOnlyCriticalIntegrityViolationCount := pairs.countP Pair.proxyOnlyCritical
    bothValidCount := valid.length
    conditional := ← liftDecimal (conditional (p95 (valid.map fun pair => pair.direct.wallS.value))
      (p95 (valid.map fun pair => pair.proxy.wallS.value)))
    directPenalizedMeanWallUs := ← liftDecimal (meanMicroseconds directLoss pairs.length)
    proxyPenalizedMeanWallUs := ← liftDecimal (meanMicroseconds proxyLoss pairs.length)
    penalizedMeanRatioPpm := ← liftDecimal (ratioPpm (some proxyLoss) (some directLoss))
    directPercentiles := ← liftDecimal (penalizedPercentiles directWalls)
    proxyPercentiles := ← liftDecimal (penalizedPercentiles proxyWalls)
    directLoss := directLoss
    proxyLoss := proxyLoss
  }

/-- `_quality_delta_at_least` -/
def qualityDeltaAtLeast (summary : Summary) (thresholdPpm : Int) : Bool :=
  decide (thresholdPpm * summary.rowCount ≤ ((summary.proxyValidCount : Int) - summary.directValidCount) * 1000000)

/-- `_ratio_at_most` -/
def ratioAtMost (summary : Summary) (thresholdPpm : Nat) : Except EvaluationError Bool := do
  return decide ((← liftDecimal (Decimal.mul summary.proxyLoss 1000000)) ≤
    (← liftDecimal (Decimal.mul summary.directLoss thresholdPpm)))

inductive ConditionalStatus where
  | passed
  | failed
  | unavailable
deriving DecidableEq

def ConditionalStatus.name : ConditionalStatus → Text
  | .passed => "passed"
  | .failed => "failed"
  | .unavailable => "unavailable"

/-- `_conditional_status` -/
def conditionalStatus (summary : Summary) : Except EvaluationError ConditionalStatus :=
  if summary.bothValidCount < conditionalMinBothValidRows then .ok .unavailable
  else match summary.conditional.ratio with
    | none => .error (.failure "qualification_v2_internal_invalid")
    | some ratio => .ok (if ratio ≤ conditionalMaxP95RatioPpm then .passed else .failed)

/-- `_overall_conditional_status` -/
def overallConditionalStatus (states : List ConditionalStatus) : ConditionalStatus :=
  if states.any (· = .unavailable) then .unavailable
  else if states.any (· = .failed) then .failed
  else .passed

/-! ## McNemar's test -/

structure Mcnemar where
  proxyOnlySuccessCount : Nat
  directOnlySuccessCount : Nat
  discordantPairCount : Nat
  oneSidedTailNumerator : Nat
  oneSidedTailDenominator : Nat
deriving DecidableEq

/-- `sum(comb(discordant, value) for value in range(proxy_only, discordant + 1))` -/
def tail (proxyOnly discordant : Nat) : Nat :=
  ((List.range' proxyOnly (discordant + 1 - proxyOnly)).map fun value => discordant.choose value).sum

/-- `_exact_one_sided_mcnemar` -/
def exactOneSidedMcnemar (proxyOnly directOnly : Nat) : Mcnemar where
  proxyOnlySuccessCount := proxyOnly
  directOnlySuccessCount := directOnly
  discordantPairCount := proxyOnly + directOnly
  oneSidedTailNumerator := tail proxyOnly (proxyOnly + directOnly)
  oneSidedTailDenominator := 2 ^ (proxyOnly + directOnly)

/-- `_mcnemar_supports_proxy_benefit` -/
def mcnemarSupportsProxyBenefit (mcnemar : Mcnemar) (alphaPpm : Nat) : Bool :=
  decide (mcnemar.oneSidedTailNumerator * 1000000 < mcnemar.oneSidedTailDenominator * alphaPpm)

/-! ## The evaluation -/

structure ReplicateReport where
  replicate : Nat
  summary : Summary
  qualityPassed : Bool
  timePassed : Bool
deriving DecidableEq

structure LaneReport where
  lane : Lane
  summary : Summary
  conditional : ConditionalStatus
  replicates : List ReplicateReport
  timePass : Bool
deriving DecidableEq

namespace LaneReport

def qualityPass (report : LaneReport) : Bool := qualityDeltaAtLeast report.summary 0
def qualityWins (report : LaneReport) : Nat := report.replicates.countP ReplicateReport.qualityPassed
def timeWins (report : LaneReport) : Nat := report.replicates.countP ReplicateReport.timePassed

end LaneReport

def reportReplicate (pairs : List Pair) (lane : Lane) (replicate : Nat) : Except EvaluationError ReplicateReport := do
  let summary ← summarizePairs (pairs.filter fun pair => pair.lane = lane ∧ pair.replicate = replicate)
  return ⟨replicate, summary, qualityDeltaAtLeast summary 0, ← ratioAtMost summary timeReplicateMaxRatioPpm⟩

def reportLane (pairs : List Pair) (lane : Lane) : Except EvaluationError LaneReport := do
  let summary ← summarizePairs (pairs.filter fun pair => pair.lane = lane)
  let timePass ← ratioAtMost summary timeLaneMaxRatioPpm
  let conditional ← conditionalStatus summary
  let replicates ← mapEach (reportReplicate pairs lane) (List.range' 1 replicatesPerLane)
  return ⟨lane, summary, conditional, replicates, timePass⟩

structure Gates where
  qualitySafety : Bool
  qualityEfficacy : Bool
  unconditionalTimeToValid : Bool
  conditionalLatencyDiagnostic : ConditionalStatus
deriving DecidableEq

def Gates.promotionPassed (gates : Gates) : Bool :=
  gates.qualitySafety && gates.qualityEfficacy && gates.unconditionalTimeToValid

structure Evaluation where
  pooled : Summary
  lanes : List LaneReport
  mcnemar : Mcnemar
  supportsProxyBenefit : Bool
  gates : Gates
deriving DecidableEq

/-- `evaluate_qualification_v2`, before its result is written as a dictionary. -/
def evaluateQualificationV2 (records : List V2OutcomeRecord) : Except EvaluationError Evaluation := do
  let matched ← validateAndPair records
  let pooled ← summarizePairs matched
  let reports ← mapEach (reportLane matched) lanes
  let mcnemar := exactOneSidedMcnemar pooled.proxyOnlySuccessCount pooled.directOnlySuccessCount
  let supports := mcnemarSupportsProxyBenefit mcnemar mcnemarAlphaPpm
  let qualitySafety := decide (pooled.proxyOnlyCriticalIntegrityViolationCount = 0) &&
    qualityDeltaAtLeast pooled qualitySafetyNoninferiorityPpm &&
    reports.all fun report => qualityDeltaAtLeast report.summary qualitySafetyNoninferiorityPpm
  let qualityEfficacy := qualityDeltaAtLeast pooled qualityEfficacyBenefitPpm &&
    reports.all LaneReport.qualityPass &&
    (reports.all fun report => decide (minQualityNoninferiorReplicates ≤ report.qualityWins)) && supports
  let pooledTime ← ratioAtMost pooled timePooledMaxRatioPpm
  let unconditionalTime := pooledTime && reports.all LaneReport.timePass &&
    reports.all fun report => decide (minTimePassingReplicates ≤ report.timeWins)
  return {
    pooled := pooled
    lanes := reports
    mcnemar := mcnemar
    supportsProxyBenefit := supports
    gates := {
      qualitySafety := qualitySafety
      qualityEfficacy := qualityEfficacy
      unconditionalTimeToValid := unconditionalTime
      conditionalLatencyDiagnostic := overallConditionalStatus (reports.map LaneReport.conditional)
    }
  }

/-! ## The dictionary -/

/-- A number that may be missing. -/
def optionalInt : Option Int → Value
  | none => .null
  | some value => .int value

/-- `_contract` -/
def contract : Object :=
  [("case_count", .int caseCount), ("lanes", .arr (lanes.map fun lane => .str lane.name)),
    ("replicates_per_lane", .int replicatesPerLane),
    ("arm_order_per_replicate", .arr [.str "direct", .str "proxy"]),
    ("quality_safety_noninferiority_ppm", .int qualitySafetyNoninferiorityPpm),
    ("quality_efficacy_benefit_ppm", .int qualityEfficacyBenefitPpm),
    ("min_quality_noninferior_replicates", .int minQualityNoninferiorReplicates),
    ("mcnemar_alpha_ppm", .int mcnemarAlphaPpm),
    ("time_pooled_max_ratio_ppm", .int timePooledMaxRatioPpm),
    ("time_lane_max_ratio_ppm", .int timeLaneMaxRatioPpm),
    ("time_replicate_max_ratio_ppm", .int timeReplicateMaxRatioPpm),
    ("min_time_passing_replicates", .int minTimePassingReplicates),
    ("conditional_min_both_valid_rows", .int conditionalMinBothValidRows),
    ("conditional_max_p95_ratio_ppm", .int conditionalMaxP95RatioPpm)]

/-- `_public_summary` of what `_summarize_pairs` returns. -/
def Summary.document (summary : Summary) : Object :=
  [("row_count", .int summary.rowCount),
    ("direct_valid_count", .int summary.directValidCount),
    ("proxy_valid_count", .int summary.proxyValidCount),
    ("success_delta_ppm", .int summary.successDeltaPpm),
    ("direct_only_success_count", .int summary.directOnlySuccessCount),
    ("proxy_only_success_count", .int summary.proxyOnlySuccessCount),
    ("proxy_only_critical_integrity_violation_count", .int summary.proxyOnlyCriticalIntegrityViolationCount),
    ("both_valid_count", .int summary.bothValidCount),
    ("conditional_direct_p95_wall_us", optionalInt summary.conditional.directP95),
    ("conditional_proxy_p95_wall_us", optionalInt summary.conditional.proxyP95),
    ("conditional_proxy_to_direct_p95_ratio_ppm", optionalInt summary.conditional.ratio),
    ("direct_penalized_mean_wall_us", .int summary.directPenalizedMeanWallUs),
    ("proxy_penalized_mean_wall_us", .int summary.proxyPenalizedMeanWallUs),
    ("proxy_to_direct_penalized_mean_ratio_ppm", optionalInt summary.penalizedMeanRatioPpm),
    ("direct_penalized_p50_wall_us", .int summary.directPercentiles.p50),
    ("direct_penalized_p95_wall_us", .int summary.directPercentiles.p95),
    ("direct_penalized_p99_wall_us", .int summary.directPercentiles.p99),
    ("proxy_penalized_p50_wall_us", .int summary.proxyPercentiles.p50),
    ("proxy_penalized_p95_wall_us", .int summary.proxyPercentiles.p95),
    ("proxy_penalized_p99_wall_us", .int summary.proxyPercentiles.p99)]

/-- A dictionary with one entry for each lane. -/
def byLane (reports : List LaneReport) (value : LaneReport → Value) : Value :=
  .obj (reports.map fun report => (report.lane.name, value report))

def byReplicate (report : LaneReport) (value : ReplicateReport → Value) : Value :=
  .obj (report.replicates.map fun replicate => (Text.ofNat replicate.replicate, value replicate))

namespace Evaluation

variable (evaluation : Evaluation)

def mcnemarDocument : Object :=
  [("proxy_only_success_count", .int evaluation.mcnemar.proxyOnlySuccessCount),
    ("direct_only_success_count", .int evaluation.mcnemar.directOnlySuccessCount),
    ("discordant_pair_count", .int evaluation.mcnemar.discordantPairCount),
    ("one_sided_tail_numerator", .int evaluation.mcnemar.oneSidedTailNumerator),
    ("one_sided_tail_denominator", .int evaluation.mcnemar.oneSidedTailDenominator),
    ("supports_proxy_benefit", .bool evaluation.supportsProxyBenefit)]

def gatesDocument : Object :=
  [("quality_safety", .bool evaluation.gates.qualitySafety),
    ("quality_efficacy", .bool evaluation.gates.qualityEfficacy),
    ("unconditional_time_to_valid", .bool evaluation.gates.unconditionalTimeToValid),
    ("conditional_latency_diagnostic", .str evaluation.gates.conditionalLatencyDiagnostic.name),
    ("promotion_passed", .bool evaluation.gates.promotionPassed)]

def conditionalDocument : Object :=
  [("status", .str evaluation.gates.conditionalLatencyDiagnostic.name),
    ("lanes", byLane evaluation.lanes fun report => .str report.conditional.name)]

def gateDetails : Object :=
  [("quality", .obj
      [("lane_pass", byLane evaluation.lanes fun report => .bool report.qualityPass),
        ("replicate_pass", byLane evaluation.lanes fun report =>
          byReplicate report fun replicate => .bool replicate.qualityPassed),
        ("passing_replicate_count_by_lane", byLane evaluation.lanes fun report => .int report.qualityWins)]),
    ("time_to_valid", .obj
      [("lane_pass", byLane evaluation.lanes fun report => .bool report.timePass),
        ("replicate_pass", byLane evaluation.lanes fun report =>
          byReplicate report fun replicate => .bool replicate.timePassed),
        ("passing_replicate_count_by_lane", byLane evaluation.lanes fun report => .int report.timeWins)])]

/-- The result of `evaluate_qualification_v2`. -/
def document : Object :=
  [("schema_version", .str "2.0"),
    ("row_count_per_arm", .int evaluation.pooled.rowCount),
    ("contract", .obj contract),
    ("case_count", .int caseCount),
    ("lane_count", .int Evidence.lanes.length),
    ("replicates_per_lane", .int replicatesPerLane),
    ("pooled", .obj evaluation.pooled.document),
    ("lanes", byLane evaluation.lanes fun report => .obj report.summary.document),
    ("replicates", byLane evaluation.lanes fun report =>
      byReplicate report fun replicate => .obj replicate.summary.document),
    ("mcnemar", .obj evaluation.mcnemarDocument),
    ("gates", .obj evaluation.gatesDocument),
    ("conditional_latency", .obj evaluation.conditionalDocument),
    ("gate_details", .obj evaluation.gateDetails)]

end Evaluation

/-! ## The outcome of a campaign -/

/-- The outcome that `_complete_v2_campaign` writes; no evaluation stands for
evidence that could not be evaluated. -/
def v2Outcome (manifestSha256 headEventSha256 : Text) (reconciliations : List Text) (evaluation : Option Evaluation) : Object :=
  let passed := (evaluation.map fun evaluation => evaluation.gates.promotionPassed) = some true
  [("schema_version", .str "2.0"), ("record_type", .str "qualification_campaign_outcome"),
    ("status", .str (if evaluation.isSome then "scored_complete" else "failed")),
    ("scored_decision", .str (if passed then "scored_passed" else "scored_failed")),
    ("failure_category", if evaluation.isNone then .str "v2_evidence_invalid"
      else if passed then .null else .str "v2_scored_gate_failed"),
    ("campaign_manifest_sha256", .str manifestSha256), ("head_event_sha256", .str headEventSha256),
    ("event_count", .int 17), ("slot_count", .int 8), ("scored_stage_count", .int 16),
    ("scored_model_instance_count", .int 16),
    ("proxy_reconciliation_sha256s", .arr ((if evaluation.isSome then reconciliations else []).map .str)),
    ("evaluator", evaluation.elim .null fun evaluation => .obj evaluation.document)]

end HarnessProxy.Evidence

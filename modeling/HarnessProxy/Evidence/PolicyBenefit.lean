import HarnessProxy.Evidence.PublicExport
import HarnessProxy.Evidence.Recomputed
import HarnessProxy.Evidence.Scenarios

namespace HarnessProxy.Evidence

open HarnessProxy.Json Data

/-! # The policy benefit of the first campaign version

The rows of a few scenario families are compared in every slot.  `none` stands
for the errors that the gate catches.
-/

structure CampaignSlot where
  ordinal : Nat
  cacheLane : Text
  pairIndex : Nat
deriving DecidableEq

/-- `_CampaignSpec`, without the fields of the second version. -/
structure CampaignSpec where
  campaignIdSha256 : Text
  slots : List CampaignSlot
  policyBenefitFamilies : List Text
  policyBenefitCaseCount : Int
  policyBenefitCaseIdsSha256 : Text
  benchmarkScenarioCount : Int
  benchmarkScenarioOrderSha256 : Text

/-- The files of one arm in a slot, as far as `_read_regular_file` reads them, and
the digest of its event. -/
structure ScoredFiles where
  ledger : Option Bytes
  outcome : Option Bytes
  runtimeOutcomeSha256 : Value

/-! ## Rows -/

/-- `row.get(key)` in a tree of `_unique_object`. -/
def treeAt (key : Text) : Json.Syntax → Option Json.Syntax
  | .obj members => members.lookup key
  | _ => none

def treeText : Json.Syntax → Option Text
  | .str text => some text
  | _ => none

def treeBool : Json.Syntax → Option Bool
  | .bool b => some b
  | _ => none

section
variable (decimal : Text → Option Decimal)

mutual
/-- `parse_float=Decimal` accepts every literal of a float. -/
def decimalTree : Json.Syntax → Bool
  | .float literal => (decimal literal).isSome
  | .arr items => decimalTrees items
  | .obj members => decimalMembers members
  | _ => true

def decimalTrees : List Json.Syntax → Bool
  | [] => true
  | item :: rest => decimalTree item && decimalTrees rest

def decimalMembers : List (Text × Json.Syntax) → Bool
  | [] => true
  | (_, tree) :: rest => decimalTree tree && decimalMembers rest
end

/-- A wall time that is an integer or a decimal, finite and positive. -/
def wallTime : Json.Syntax → Option ℚ
  | .int i => if 0 < i then some i else none
  | .float literal => (decimal literal).bind fun d => if d.positiveFinite then some d.value else none
  | _ => none

structure PolicyRow where
  caseId : Text
  family : Text
  passed : Bool
  wall : ℚ

/-- One row, in the loop of `_policy_benefit_rows`. -/
def policyRow (row : Json.Syntax) : Option PolicyRow := do
  guard (decimalTree decimal row)
  let caseId ← (treeAt "case_id" row).bind treeText
  let family ← ((treeAt "metadata" row).bind (treeAt "agentic_family")).bind treeText
  let passed ← (treeAt "passed" row).bind treeBool
  guard (isSafeId caseId ∧ isSafeId family)
  let wall ← ((treeAt "telemetry" row).bind (treeAt "wall_s")).bind (wallTime decimal)
  return ⟨caseId, family, passed, wall⟩

variable (platform : ExportPlatform) (spec : CampaignSpec)

def outcomeKeys : List Text :=
  ["schema_version", "record_type", "stage", "status", "action_exit_code", "failure_category", "run_manifest_sha256",
    "attestation_sha256", "model_evidence_sha256", "output_ledger_sha256", "output_record_count",
    "proxy_reconciliation_sha256", "campaign_id_sha256", "slot_ordinal", "cache_lane", "pair_index"]

/-- `_validate_scored_ledger_outcome` -/
def validateScoredLedgerOutcome (outcome : Bytes) (expectedOutcomeSha256 : Value) (ledger : Bytes) (expectedStage : Text)
    (slot : CampaignSlot) : Option Unit := do
  let document ← (← loadUnique platform.py platform.wide outcome).asObject?
  let equals (key : Text) (value : Value) := ((document.get? key).getD .null).equal platform.floatEqual value
  guard (expectedOutcomeSha256 = .str (platform.sha256 outcome))
  requireExactKeys document outcomeKeys
  requireExact document "schema_version" "1.0"
  requireExact document "record_type" "qualification_runtime_outcome"
  requireExact document "stage" expectedStage
  requireExact document "status" "passed"
  guard (document.get? "action_exit_code" = some (.int 0))
  guard ((document.get? "failure_category").getD .null = .null)
  requireExact document "output_ledger_sha256" (platform.sha256 ledger)
  guard (document.get? "output_record_count" = some (.int spec.benchmarkScenarioCount))
  requireExact document "campaign_id_sha256" spec.campaignIdSha256
  guard (equals "slot_ordinal" (.int slot.ordinal))
  requireExact document "cache_lane" slot.cacheLane
  guard (equals "pair_index" (.int slot.pairIndex))

/-- `hashlib.sha256(json.dumps(case_ids, separators=(",", ":")).encode()).hexdigest()` -/
def caseIdsSha256 (py : Python) (caseIds : List Text) : Text := py.sha256 (dumps false (.arr (caseIds.map .str)))

/-- `_policy_benefit_rows` -/
def policyBenefitRows (files : ScoredFiles) (expectedStage : Text) (slot : CampaignSlot) : Option (List PolicyRow) := do
  let ledger ← files.ledger
  validateScoredLedgerOutcome platform spec (← files.outcome) files.runtimeOutcomeSha256 ledger expectedStage slot
  let all ← (← textRows ledger).mapM (policyRow decimal)
  let allCaseIds := all.map PolicyRow.caseId
  guard allCaseIds.Nodup
  let rows := all.filter fun row => row.family ∈ spec.policyBenefitFamilies
  guard (rows.all PolicyRow.passed)
  guard (allCaseIds.length = spec.benchmarkScenarioCount ∧
    caseIdsSha256 platform.py allCaseIds = spec.benchmarkScenarioOrderSha256)
  let caseIds := (rows.map PolicyRow.caseId).insertionSort (· ≤ ·)
  guard (caseIds.length = spec.policyBenefitCaseCount ∧ caseIdsSha256 platform.py caseIds = spec.policyBenefitCaseIdsSha256)
  return rows

/-! ## The gate -/

/-- Both arms have the same cases in the same families. -/
def matchedRows (direct proxy : List PolicyRow) : Bool :=
  proxy.all (fun row => direct.any fun other => other.caseId = row.caseId) &&
    direct.all fun row => (proxy.find? fun other => other.caseId = row.caseId).any fun other => other.family = row.family

/-- The rows of both arms in one slot. -/
def slotRows (files : CampaignSlot → Text → ScoredFiles) (slot : CampaignSlot) : Option (List PolicyRow × List PolicyRow) := do
  let direct ← policyBenefitRows decimal platform spec (files slot "scored-direct") "scored-direct" slot
  let proxy ← policyBenefitRows decimal platform spec (files slot "scored-proxy") "scored-proxy" slot
  guard (matchedRows direct proxy)
  return (direct, proxy)

/-- What the gate computes with. -/
structure PolicyFigures where
  sampleCount : Nat
  directP95 : ℚ
  proxyP95 : ℚ

def policyFigures (files : CampaignSlot → Text → ScoredFiles) : Option PolicyFigures := do
  let matched ← spec.slots.mapM (slotRows decimal platform spec files)
  let directSamples := matched.flatMap fun rows => rows.1.map PolicyRow.wall
  let proxySamples := matched.flatMap fun rows => rows.2.map PolicyRow.wall
  let expected := spec.slots.length * spec.policyBenefitCaseCount
  guard (directSamples.length = expected ∧ proxySamples.length = expected)
  return ⟨directSamples.length, ← p95 directSamples, ← p95 proxySamples⟩

/-- `_policy_benefit_gate_failure` -/
def policyBenefitGateFailure (category : Text) : Object :=
  [("status", .str "failed"), ("failure_category", .str category),
    ("cohort_case_ids_sha256", .str spec.policyBenefitCaseIdsSha256),
    ("cohort_case_count", .int spec.policyBenefitCaseCount),
    ("matched_slot_count", .int 0), ("matched_sample_count", .int 0), ("direct_p95_wall_us", .null),
    ("proxy_p95_wall_us", .null), ("proxy_to_direct_p95_ratio_ppm", .null)]

/-- The gate for these figures, with this rounding. -/
def policyDecision (fix : ℚ → Except DecimalError ℚ) (figures : PolicyFigures) : Except DecimalError Object := do
  let ratioPpm := ⌈← Timed.divide fix (← fix (figures.proxyP95 * 1000000)) figures.directP95⌉
  let summary : Object := [("cohort_case_ids_sha256", .str spec.policyBenefitCaseIdsSha256),
    ("cohort_case_count", .int spec.policyBenefitCaseCount),
    ("matched_slot_count", .int spec.slots.length), ("matched_sample_count", .int figures.sampleCount),
    ("direct_p95_wall_us", .int (← Timed.microseconds fix figures.directP95)),
    ("proxy_p95_wall_us", .int (← Timed.microseconds fix figures.proxyP95)),
    ("proxy_to_direct_p95_ratio_ppm", .int ratioPpm)]
  if (← fix (figures.directP95 * (8 / 10))) < figures.proxyP95 then
    return ("status", .str "failed") :: ("failure_category", .str "policy_benefit_gate_failed") :: summary
  else return ("status", .str "passed") :: ("failure_category", .null) :: summary

/-- `_policy_benefit_gate` -/
def policyBenefitGate (fix : ℚ → Except DecimalError ℚ) (files : CampaignSlot → Text → ScoredFiles) :
    Except DecimalError Object :=
  match policyFigures decimal platform spec files with
  | none => .ok (policyBenefitGateFailure spec "policy_benefit_evidence_invalid")
  | some figures => policyDecision spec fix figures

end

/-! ## The gate from its figures -/

section
variable {decimal : Text → Option Decimal} {platform : ExportPlatform} {spec : CampaignSpec}

theorem wallTime_pos {tree : Json.Syntax} {wall : ℚ} (timed : wallTime decimal tree = some wall) : 0 < wall := by
  unfold wallTime at timed
  split at timed
  · split at timed
    · rename_i positive
      cases timed
      exact_mod_cast positive
    · cases timed
  · obtain ⟨d, _, kept⟩ := Option.bind_eq_some_iff.mp timed
    split at kept
    · rename_i positive
      cases kept
      exact Decimal.value_pos positive
    · cases kept
  · cases timed

theorem policyRow_pos {tree : Json.Syntax} {row : PolicyRow} (read : policyRow decimal tree = some row) : 0 < row.wall := by
  simp only [policyRow, Option.bind_eq_bind, Option.bind_eq_some_iff, pure, Option.some.injEq] at read
  obtain ⟨_, _, _, _, _, _, _, _, _, _, wall, timed, rfl⟩ := read
  obtain ⟨_, _, timed⟩ := timed
  exact wallTime_pos timed

theorem policyBenefitRows_pos {files : ScoredFiles} {expectedStage : Text} {slot : CampaignSlot} {rows : List PolicyRow}
    (read : policyBenefitRows decimal platform spec files expectedStage slot = some rows) : ∀ row ∈ rows, 0 < row.wall := by
  simp only [policyBenefitRows, Option.bind_eq_bind, Option.bind_eq_some_iff, pure, Option.some.injEq] at read
  obtain ⟨_, _, _, _, _, _, trees, _, all, each, _, _, _, _, _, _, _, _, rfl⟩ := read
  intro row member
  obtain ⟨tree, _, from_⟩ := forall₂_mem_right (mapM_eq_some_iff.mp each) (List.mem_of_mem_filter member)
  exact policyRow_pos from_

theorem p95_pos {values : List ℚ} {cut : ℚ} (positive : ∀ value ∈ values, 0 < value) (found : p95 values = some cut) : 0 < cut := by
  by_cases nonempty : values = []
  · rw [nonempty] at found
    cases found
  · obtain ⟨value, member, same⟩ := p95_some nonempty
    cases same.symm.trans found
    exact positive cut member

theorem policyFigures_pos {files : CampaignSlot → Text → ScoredFiles} {figures : PolicyFigures}
    (computed : policyFigures decimal platform spec files = some figures) : 0 < figures.directP95 := by
  simp only [policyFigures, Option.bind_eq_bind, Option.bind_eq_some_iff, pure, Option.some.injEq] at computed
  obtain ⟨matched, each, _, _, directP95, direct, _, _, rfl⟩ := computed
  refine p95_pos (fun value member => ?_) direct
  obtain ⟨rows, inside, sampled⟩ := List.mem_flatMap.mp member
  obtain ⟨row, rowMember, rfl⟩ := List.mem_map.mp sampled
  obtain ⟨slot, _, read⟩ := forall₂_mem_right (mapM_eq_some_iff.mp each) inside
  simp only [slotRows, Option.bind_eq_bind, Option.bind_eq_some_iff, pure, Option.some.injEq] at read
  obtain ⟨directRows, readDirect, _, _, _, _, rfl⟩ := read
  exact policyBenefitRows_pos readDirect row rowMember

/-- The status that the published ratio demands. -/
def PassesByRatio (gate : Object) : Prop :=
  gate.get? "status" = some (.str "passed") ↔
    ∃ ratio, integerAt gate "proxy_to_direct_p95_ratio_ppm" = some ratio ∧ ratio ≤ 800000

theorem failed_ne_passed : some (Value.str "failed") ≠ some (.str "passed") := by decide

theorem policyDecision_ratio {figures : PolicyFigures} (positive : 0 < figures.directP95) :
    ∃ gate, policyDecision spec .ok figures = .ok gate ∧ PassesByRatio gate := by
  have exact : ⌈figures.proxyP95 * 1000000 / figures.directP95⌉ ≤ 800000 ↔ ¬ figures.directP95 * (8 / 10) < figures.proxyP95 := by
    rw [not_lt]
    refine (ceil_ratio_le positive 800000).trans ?_
    push_cast
    constructor <;> intro bound <;> linarith
  simp only [policyDecision, Timed.divide, if_neg positive.ne', Timed.microseconds, bind, Except.bind, pure, Except.pure]
  by_cases above : figures.directP95 * (8 / 10) < figures.proxyP95
  · rw [if_pos above]
    refine ⟨_, rfl, iff_of_false failed_ne_passed ?_⟩
    rintro ⟨ratio, shown, small⟩
    cases shown
    exact exact.mp small above
  · rw [if_neg above]
    exact ⟨_, rfl, iff_of_true rfl ⟨_, rfl, exact.mpr above⟩⟩

theorem policyBenefitGate_ratio (decimal : Text → Option Decimal) (platform : ExportPlatform) (spec : CampaignSpec)
    (files : CampaignSlot → Text → ScoredFiles) :
    ∃ gate, policyBenefitGate decimal platform spec .ok files = .ok gate ∧ PassesByRatio gate := by
  unfold policyBenefitGate
  cases computed : policyFigures decimal platform spec files with
  | none =>
      refine ⟨_, rfl, iff_of_false failed_ne_passed ?_⟩
      rintro ⟨ratio, shown, _⟩
      cases shown
  | some figures => exact policyDecision_ratio (policyFigures_pos computed)

end

/-! ## Both campaign versions -/

/-- The document shows what decides its gates. -/
structure Determined (document : Object) : Prop where
  gates : (recomputedGates document).isSome = true ∧ recomputedGates document = objectAt document "gates"
  conditional : recomputedConditional document = objectAt document "conditional_latency"
  counts : ∀ key ∈ countKeys, CountsAdd document key

theorem figures_determine_gates {records : List TimedRecord} {pairs : List TimedPair}
    (complete : Timed.validateAndPair records = .ok pairs) :
    (∃ evaluation, Timed.evaluateQualificationV2 .ok records = .ok evaluation ∧ Determined evaluation.document) ∧
      ∀ decimal platform spec files,
        ∃ gate, policyBenefitGate decimal platform spec .ok files = .ok gate ∧ PassesByRatio gate := by
  refine ⟨?_, policyBenefitGate_ratio⟩
  obtain ⟨evaluation, evaluated, recomputable⟩ := evaluation_exists complete
  have gates := recomputedGates_document recomputable
  exact ⟨evaluation, evaluated, ⟨Option.isSome_of_eq_some gates, gates⟩, recomputedConditional_document recomputable,
    fun _ listed => countsAdd_document (pairs_at complete) recomputable listed⟩

theorem figures_determine_gates_winning : ∃ evaluation,
    Timed.evaluateQualificationV2 .ok (winningRecords.map V2OutcomeRecord.timed) = .ok evaluation ∧
      Determined evaluation.document := by
  obtain ⟨_, evaluated, _⟩ := winning_promoted
  simp only [Timed.evaluateQualificationV2, bind_eq_ok] at evaluated
  obtain ⟨_, complete, _⟩ := evaluated
  exact (figures_determine_gates complete).1

end HarnessProxy.Evidence

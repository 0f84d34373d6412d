import HarnessProxy.Evidence.JsonFile
import HarnessProxy.Evidence.Evaluator

namespace HarnessProxy.Evidence

open HarnessProxy.Json

/-! # The export of a public result

The outcome of a campaign is checked again field by field and projected, next to
a reviewed report and the operational evidence.  `none` stands for
`PublicQualificationExportError`, which has one text.
-/

/-- The parts of the interpreter and of `hashlib` that the export uses. -/
structure ExportPlatform where
  py : Python
  wide : JsonEncoding → Bytes → Option Text
  floatEqual : Value → Value → Bool
  sha256 : Bytes → Text
  /-- `islower() or isdigit()` of a character that is not ASCII. -/
  isLowerOrDigit : CodePoint → Bool

def maxOutcomeBytes : Nat := 1024 * 1024

/-! ## Requirements -/

def requireObject (document : Object) (key : Text) : Option Object := (document.get? key).bind Value.asObject?

def requireExactKeys (document : Object) (expected : List Text) : Option Unit :=
  guard (document.keys ⊆ expected ∧ expected ⊆ document.keys)

/-- `_require_exact` with an expected text. -/
def requireExact (document : Object) (key expected : Text) : Option Unit :=
  guard (document.get? key = some (.str expected))

def requireOneOf (document : Object) (key : Text) (expected : List Text) : Option Text := do
  let value ← (document.get? key).bind Value.asString?
  guard (value ∈ expected)
  return value

def requireNonnegativeInt (document : Object) (key : Text) : Option Nat :=
  match document.get? key with
  | some (.int i) => if 0 ≤ i then some i.toNat else none
  | _ => none

def requireBool (document : Object) (key : Text) : Option Bool :=
  match document.get? key with
  | some (.bool b) => some b
  | _ => none

def hexDigits : Text := "0123456789abcdef"

/-- The shape that `_require_sha256` asks for. -/
def matchesSha256 (text : Text) : Bool := text.length = 64 && text.all (· ∈ hexDigits)

def asSha256 : Value → Option Text
  | .str text => if matchesSha256 text then some text else none
  | _ => none

def requireSha256 (document : Object) (key : Text) : Option Text := (document.get? key).bind asSha256

def requireSha256List (document : Object) (key : Text) (length : Nat) : Option (List Text) := do
  let values ← (document.get? key).bind Value.asList?
  guard (values.length = length)
  let result ← values.mapM asSha256
  guard result.Nodup
  return result

def isSafeChar (platform : ExportPlatform) (c : CodePoint) : Bool :=
  if c.val < 0x80 then (0x61 ≤ c.val && c.val ≤ 0x7a) || (0x30 ≤ c.val && c.val ≤ 0x39) || c = codePoint '_'
  else platform.isLowerOrDigit c

/-- `_is_safe_category` of a text. -/
def isSafeCategory (platform : ExportPlatform) (text : Text) : Bool :=
  0 < text.length && text.length ≤ 64 && text.all (isSafeChar platform)

/-- `_load_json` -/
def loadJson (platform : ExportPlatform) (payload : Bytes) : Option Object := do
  guard (0 < payload.length ∧ payload.length ≤ maxOutcomeBytes)
  (← loadUnique platform.py platform.wide payload).asObject?

/-! ## The parts of the outcome -/

def summaryKeys : List Text :=
  ["row_count", "direct_valid_count", "proxy_valid_count", "success_delta_ppm", "both_valid_count",
    "direct_only_success_count", "proxy_only_success_count", "proxy_only_critical_integrity_violation_count",
    "direct_penalized_mean_wall_us", "proxy_penalized_mean_wall_us", "proxy_to_direct_penalized_mean_ratio_ppm",
    "direct_penalized_p50_wall_us", "direct_penalized_p95_wall_us", "direct_penalized_p99_wall_us",
    "proxy_penalized_p50_wall_us", "proxy_penalized_p95_wall_us", "proxy_penalized_p99_wall_us",
    "conditional_direct_p95_wall_us", "conditional_proxy_p95_wall_us", "conditional_proxy_to_direct_p95_ratio_ppm"]

def natField (field : Text × Nat) : Text × Value := (field.1, .int field.2)

/-- `_summary` -/
def exportSummary (document : Object) : Option (List (Text × Nat)) := do
  let result ← summaryKeys.mapM fun key => return (key, ← requireNonnegativeInt document key)
  let rowCount ← requireNonnegativeInt document "row_count"
  let directValid ← requireNonnegativeInt document "direct_valid_count"
  let proxyValid ← requireNonnegativeInt document "proxy_valid_count"
  guard (directValid ≤ rowCount ∧ proxyValid ≤ rowCount)
  return result

/-- `_lanes` -/
def exportLanes (document : Object) (expectedLanes : List Text) : Option (List (Text × List (Text × Nat))) := do
  requireExactKeys document expectedLanes
  expectedLanes.mapM fun lane => return (lane, ← exportSummary (← requireObject document lane))

structure ExportedGates where
  qualitySafety : Bool
  qualityEfficacy : Bool
  unconditionalTimeToValid : Bool
  promotionPassed : Bool
  conditionalLatencyDiagnostic : Text
deriving DecidableEq

def conditionalStates : List Text := ["passed", "failed", "unavailable"]

/-- `_gates` -/
def exportGates (document : Object) : Option ExportedGates := do
  return ⟨← requireBool document "quality_safety", ← requireBool document "quality_efficacy",
    ← requireBool document "unconditional_time_to_valid", ← requireBool document "promotion_passed",
    ← requireOneOf document "conditional_latency_diagnostic" conditionalStates⟩

/-- `_overall_conditional_status` of the export. -/
def overallExportedStatus (states : List Text) : Text :=
  if states.contains "unavailable" then "unavailable"
  else if states.contains "failed" then "failed"
  else "passed"

structure ExportedConditional where
  status : Text
  lanes : List (Text × Text)
deriving DecidableEq

/-- `_conditional_latency` -/
def exportConditional (document : Object) (gates : ExportedGates) (expectedLanes : List Text) :
    Option ExportedConditional := do
  let status ← requireOneOf document "status" conditionalStates
  let lanes ← requireObject document "lanes"
  requireExactKeys lanes expectedLanes
  let laneStates ← expectedLanes.mapM fun lane => return (lane, ← requireOneOf lanes lane conditionalStates)
  guard (status = gates.conditionalLatencyDiagnostic ∧ status = overallExportedStatus (laneStates.map Prod.snd))
  return ⟨status, laneStates⟩

structure ExportedMcnemar where
  directOnlySuccessCount : Nat
  proxyOnlySuccessCount : Nat
  discordantPairCount : Nat
  supportsProxyBenefit : Bool
  numerator : Nat
  denominator : Nat
deriving DecidableEq

/-- `_mcnemar` -/
def exportMcnemar (document : Object) (alphaPpm : Nat) : Option ExportedMcnemar := do
  let directOnly ← requireNonnegativeInt document "direct_only_success_count"
  let proxyOnly ← requireNonnegativeInt document "proxy_only_success_count"
  let discordant ← requireNonnegativeInt document "discordant_pair_count"
  let numerator ← requireNonnegativeInt document "one_sided_tail_numerator"
  let denominator ← requireNonnegativeInt document "one_sided_tail_denominator"
  let supports ← requireBool document "supports_proxy_benefit"
  guard (discordant = directOnly + proxyOnly ∧ denominator = 2 ^ discordant ∧ numerator = tail proxyOnly discordant ∧
    supports = decide (numerator * 1000000 < denominator * alphaPpm))
  return ⟨directOnly, proxyOnly, discordant, supports, numerator, denominator⟩

def laneNames : List Text := lanes.map Lane.name

def expectedSlotCount : Nat := lanes.length * replicatesPerLane

/-- Four counts of the outcome and what they have to be. -/
def expectedCounts : List (Text × Nat) :=
  [("event_count", 1 + 2 * expectedSlotCount), ("slot_count", expectedSlotCount),
    ("scored_stage_count", 2 * expectedSlotCount), ("scored_model_instance_count", 2 * expectedSlotCount)]

def expectedEvaluatorCounts : List (Text × Nat) :=
  [("row_count_per_arm", caseCount * expectedSlotCount), ("case_count", caseCount), ("lane_count", lanes.length),
    ("replicates_per_lane", replicatesPerLane)]

def requireCounts (document : Object) (expected : List (Text × Nat)) : Option Unit := do
  let counts ← expected.mapM fun field => return (field.1, ← requireNonnegativeInt document field.1)
  guard (counts = expected)

structure OutcomeProjection where
  scoredPassed : Bool
  failureCategory : Option Text
  manifestSha256 : Text
  headEventSha256 : Text
  reconciliations : List Text
  gates : ExportedGates
  conditionalLatency : ExportedConditional
  pooled : List (Text × Nat)
  lanes : List (Text × List (Text × Nat))
  mcnemar : ExportedMcnemar
deriving DecidableEq

/-- A category, or `None`. -/
def requireCategory (platform : ExportPlatform) (document : Object) (key : Text) : Option (Option Text) :=
  match document.get? key with
  | none | some .null => some none
  | some (.str text) => if isSafeCategory platform text then some (some text) else none
  | _ => none

/-- What `public_qualification_result` checks of the outcome. -/
def projectOutcome (platform : ExportPlatform) (outcome : Object) : Option OutcomeProjection := do
  requireExact outcome "schema_version" "2.0"
  requireExact outcome "record_type" "qualification_campaign_outcome"
  requireExact outcome "status" "scored_complete"
  let decision ← requireOneOf outcome "scored_decision" ["scored_passed", "scored_failed"]
  let failureCategory ← requireCategory platform outcome "failure_category"
  let manifestSha256 ← requireSha256 outcome "campaign_manifest_sha256"
  let headEventSha256 ← requireSha256 outcome "head_event_sha256"
  requireCounts outcome expectedCounts
  let reconciliations ← requireSha256List outcome "proxy_reconciliation_sha256s" expectedSlotCount
  let evaluator ← requireObject outcome "evaluator"
  requireExact evaluator "schema_version" "2.0"
  requireCounts evaluator expectedEvaluatorCounts
  guard ((Value.obj (← requireObject evaluator "contract")).equal platform.floatEqual (.obj contract))
  let gates ← exportGates (← requireObject evaluator "gates")
  guard (gates.promotionPassed = (gates.qualitySafety && gates.qualityEfficacy && gates.unconditionalTimeToValid))
  guard (decide (decision = "scored_passed") = gates.promotionPassed)
  guard (failureCategory.isNone = decide (decision = "scored_passed"))
  let conditionalLatency ← exportConditional (← requireObject evaluator "conditional_latency") gates laneNames
  let pooled ← exportSummary (← requireObject evaluator "pooled")
  let lanes ← exportLanes (← requireObject evaluator "lanes") laneNames
  let mcnemar ← exportMcnemar (← requireObject evaluator "mcnemar") mcnemarAlphaPpm
  return ⟨decision = "scored_passed", failureCategory, manifestSha256, headEventSha256, reconciliations, gates,
    conditionalLatency, pooled, lanes, mcnemar⟩

/-! ## The reviewed report -/

/-- Booleans by name, in the order of the names. -/
abbrev BoolTable := List (Text × Bool)

/-- `_operational_gates` -/
def operationalGates (platform : ExportPlatform) (document : Object) : Option BoolTable := do
  guard (document ≠ [])
  let gates ← document.mapM fun field => do
    guard (isSafeCategory platform field.1)
    return (field.1, ← requireBool document field.1)
  return gates.insertionSort fun left right => left.1 ≤ right.1

structure DecodeRow where
  direct : Nat
  proxy : Nat
  ratio : Nat
  gatePassed : Bool
deriving DecidableEq

def decodeKeys : List Text :=
  ["direct_weighted_tokens_per_second_milli", "proxy_weighted_tokens_per_second_milli", "proxy_to_direct_ratio_ppm",
    "gate_passed"]

def exportDecodeRow (document : Object) : Option DecodeRow := do
  requireExactKeys document decodeKeys
  let direct ← requireNonnegativeInt document "direct_weighted_tokens_per_second_milli"
  let proxy ← requireNonnegativeInt document "proxy_weighted_tokens_per_second_milli"
  let ratio ← requireNonnegativeInt document "proxy_to_direct_ratio_ppm"
  let passed ← requireBool document "gate_passed"
  guard (direct ≠ 0 ∧ decide (900000 ≤ ratio) = passed)
  return ⟨direct, proxy, ratio, passed⟩

/-- `_decode` -/
def exportDecode (document : Object) (expectedLanes : List Text) : Option (List (Text × DecodeRow)) := do
  requireExactKeys document expectedLanes
  expectedLanes.mapM fun lane => return (lane, ← exportDecodeRow (← requireObject document lane))

structure Amplification where
  mean : Nat
  maximum : Nat
  ceiling : Nat
  gatePassed : Bool
deriving DecidableEq

def amplificationKeys : List Text :=
  ["mean_upstream_calls_per_downstream_ppm", "max_upstream_calls_per_request", "configured_ceiling", "gate_passed"]

/-- `_amplification` -/
def exportAmplification (document : Object) : Option Amplification := do
  requireExactKeys document amplificationKeys
  let mean ← requireNonnegativeInt document "mean_upstream_calls_per_downstream_ppm"
  let maximum ← requireNonnegativeInt document "max_upstream_calls_per_request"
  let ceiling ← requireNonnegativeInt document "configured_ceiling"
  let passed ← requireBool document "gate_passed"
  guard (ceiling ≠ 0 ∧ decide (mean ≤ 2000000 ∧ maximum ≤ ceiling) = passed)
  return ⟨mean, maximum, ceiling, passed⟩

structure ReconciliationGate where
  artifactsBound : Bool
  accountingReconciled : Bool
  gatePassed : Bool
deriving DecidableEq

def reconciliationKeys : List Text := ["scored_artifacts_bound", "operational_accounting_reconciled", "gate_passed"]

/-- `_reconciliation` -/
def exportReconciliation (document : Object) : Option ReconciliationGate := do
  requireExactKeys document reconciliationKeys
  let bound ← requireBool document "scored_artifacts_bound"
  let reconciled ← requireBool document "operational_accounting_reconciled"
  let passed ← requireBool document "gate_passed"
  guard (passed = (bound && reconciled))
  return ⟨bound, reconciled, passed⟩

structure FinalReport where
  finalDecision : Text
  operationalEvidenceSha256 : Text
  operationalGates : BoolTable
  decode : List (Text × DecodeRow)
  amplification : Amplification
  reconciliation : ReconciliationGate
deriving DecidableEq

def finalReportKeys : List Text :=
  ["schema_version", "record_type", "review_status", "final_decision", "scored_outcome_sha256",
    "campaign_manifest_sha256", "operational_evidence_sha256", "operational_gates", "decode", "amplification",
    "reconciliation"]

def finalDecisions : List Text := ["PROMOTE", "DO NOT PROMOTE", "BLOCKED"]

/-- `_final_report` -/
def exportFinalReport (platform : ExportPlatform) (payload outcomeBytes : Bytes) (manifestSha256 : Text) :
    Option FinalReport := do
  let report ← loadJson platform payload
  requireExactKeys report finalReportKeys
  requireExact report "schema_version" "shiftedx-final-qualification-report-v1"
  requireExact report "record_type" "final_qualification_report"
  requireExact report "review_status" "reviewed"
  let finalDecision ← requireOneOf report "final_decision" finalDecisions
  guard ((← requireSha256 report "scored_outcome_sha256") = platform.sha256 outcomeBytes)
  guard ((← requireSha256 report "campaign_manifest_sha256") = manifestSha256)
  let evidenceSha256 ← requireSha256 report "operational_evidence_sha256"
  return ⟨finalDecision, evidenceSha256, ← operationalGates platform (← requireObject report "operational_gates"),
    ← exportDecode (← requireObject report "decode") laneNames,
    ← exportAmplification (← requireObject report "amplification"),
    ← exportReconciliation (← requireObject report "reconciliation")⟩

/-! ## The operational evidence -/

def digestMark : Text := "@sha256:"

/-- What follows the last occurrence of the mark, if there is one. -/
def afterLast (mark : Text) : Text → Option Text
  | [] => if mark = [] then some [] else none
  | c :: rest => match afterLast mark rest with
    | some found => some found
    | none => Text.dropPrefix? mark (c :: rest)

/-- The digest of a reference that `_is_digest_reference` accepts. -/
def digestOf (reference : Text) : Option Text := do
  let digest ← afterLast digestMark reference
  guard (matchesSha256 digest)
  return digest

structure OperationalEvidence where
  candidateDigest : Text
  rollbackDigest : Text
  gates : BoolTable
deriving DecidableEq

def requireReference (document : Object) (key : Text) : Option (Text × Text) := do
  let reference ← (document.get? key).bind Value.asString?
  return (reference, ← digestOf reference)

/-- `_operational_evidence`; the digest of a reference is what follows its last `@`. -/
def exportOperationalEvidence (platform : ExportPlatform) (payload : Bytes)
    (expectedSha256 manifestSha256 outcomeSha256 headEventSha256 : Text) : Option OperationalEvidence := do
  guard (platform.sha256 payload = expectedSha256)
  let evidence ← loadJson platform payload
  requireExact evidence "schema_version" "operational_matrix_v1"
  guard ((← requireSha256 evidence "manifest_sha256") = manifestSha256)
  let campaign ← requireObject evidence "qualification_campaign"
  requireExactKeys campaign ["manifest_sha256", "outcome_sha256", "head_event_sha256"]
  guard ((← requireSha256 campaign "manifest_sha256") = manifestSha256)
  guard ((← requireSha256 campaign "outcome_sha256") = outcomeSha256)
  guard ((← requireSha256 campaign "head_event_sha256") = headEventSha256)
  let candidate ← requireReference evidence "candidate_image"
  let rollback ← requireReference evidence "rollback_image"
  guard (candidate.1 ≠ rollback.1)
  let gates ← operationalGates platform (← requireObject evidence "gates")
  guard ((← requireBool evidence "passed") = gates.all Prod.snd)
  return ⟨"sha256:" ++ candidate.2, "sha256:" ++ rollback.2, gates⟩

/-- `_validate_final_decision` -/
def validateFinalDecision (report : FinalReport) (scoredPassed : Bool) (gates : ExportedGates) (operational : BoolTable) :
    Option Unit :=
  guard (report.finalDecision ≠ "PROMOTE" ∨
    (scoredPassed && gates.qualitySafety && gates.qualityEfficacy && gates.unconditionalTimeToValid &&
      gates.promotionPassed && operational.all Prod.snd && report.decode.all (fun lane => lane.2.gatePassed) &&
      report.amplification.gatePassed && report.reconciliation.gatePassed) = true)

/-! ## The public result -/

def ExportedGates.document (gates : ExportedGates) : Object :=
  [("quality_safety", .bool gates.qualitySafety), ("quality_efficacy", .bool gates.qualityEfficacy),
    ("unconditional_time_to_valid", .bool gates.unconditionalTimeToValid),
    ("promotion_passed", .bool gates.promotionPassed),
    ("conditional_latency_diagnostic", .str gates.conditionalLatencyDiagnostic)]

def ExportedConditional.document (conditional : ExportedConditional) : Object :=
  [("status", .str conditional.status), ("lanes", .obj (conditional.lanes.map fun lane => (lane.1, .str lane.2)))]

def ExportedMcnemar.document (mcnemar : ExportedMcnemar) : Object :=
  [("direct_only_success_count", .int mcnemar.directOnlySuccessCount),
    ("proxy_only_success_count", .int mcnemar.proxyOnlySuccessCount),
    ("discordant_pair_count", .int mcnemar.discordantPairCount),
    ("supports_proxy_benefit", .bool mcnemar.supportsProxyBenefit),
    ("one_sided_tail_numerator", .str (Text.ofNat mcnemar.numerator)),
    ("one_sided_tail_denominator", .str (Text.ofNat mcnemar.denominator))]

def DecodeRow.document (row : DecodeRow) : Object :=
  [("direct_weighted_tokens_per_second_milli", .int row.direct),
    ("proxy_weighted_tokens_per_second_milli", .int row.proxy), ("proxy_to_direct_ratio_ppm", .int row.ratio),
    ("gate_passed", .bool row.gatePassed)]

def Amplification.document (amplification : Amplification) : Object :=
  [("mean_upstream_calls_per_downstream_ppm", .int amplification.mean),
    ("max_upstream_calls_per_request", .int amplification.maximum),
    ("configured_ceiling", .int amplification.ceiling), ("gate_passed", .bool amplification.gatePassed)]

def ReconciliationGate.document (gate : ReconciliationGate) : Object :=
  [("scored_artifacts_bound", .bool gate.artifactsBound),
    ("operational_accounting_reconciled", .bool gate.accountingReconciled), ("gate_passed", .bool gate.gatePassed)]

def boolDocument (table : BoolTable) : Object := table.map fun field => (field.1, .bool field.2)

def limitations : List Text :=
  ["Measures valid agent outcomes and deadline-penalized time to a valid outcome, not raw inference throughput or token latency.",
    "The fixed direct-then-proxy sequence is not a randomized causal comparison.",
    "Conditional matched latency is a diagnostic; promotion is determined by the stated quality and time-to-valid gates."]

namespace OutcomeProjection

variable (projection : OutcomeProjection)

/-- The figures of the evaluator in the result. -/
def figures : Object :=
  [("evaluator_contract", .obj contract), ("gates", .obj projection.gates.document),
    ("conditional_latency", .obj projection.conditionalLatency.document),
    ("pooled", .obj (projection.pooled.map natField)),
    ("lanes", .obj (projection.lanes.map fun lane => (lane.1, .obj (lane.2.map natField)))),
    ("mcnemar", .obj projection.mcnemar.document)]

/-- The decisions of the result. -/
def decisions (finalDecision : Text) : Object :=
  [("status", .str "scored_complete"),
    ("scored_decision", .str (if projection.scoredPassed then "scored_passed" else "scored_failed")),
    ("final_decision", .str finalDecision), ("failure_category", projection.failureCategory.elim .null .str)]

def qualification (finalDecision : Text) : Object :=
  projection.decisions finalDecision ++ expectedCounts.map natField ++ projection.figures

end OutcomeProjection

def publicResult (outcomeSha256 : Text) (projection : OutcomeProjection) (report : FinalReport)
    (operational : OperationalEvidence) : Object :=
  [("schema_version", .str "shiftedx-public-qualification-result-v1"),
    ("record_type", .str "public_qualification_result"),
    ("provenance", .obj
      [("source_outcome_sha256", .str outcomeSha256), ("campaign_manifest_sha256", .str projection.manifestSha256),
        ("head_event_sha256", .str projection.headEventSha256),
        ("proxy_reconciliation_sha256s", .arr (projection.reconciliations.map .str)),
        ("operational_evidence_sha256", .str report.operationalEvidenceSha256)]),
    ("qualification", .obj (projection.qualification report.finalDecision)),
    ("operational", .obj
      [("artifacts", .obj
          [("candidate_digest", .str operational.candidateDigest), ("rollback_digest", .str operational.rollbackDigest)]),
        ("gates", .obj (boolDocument operational.gates)),
        ("decode", .obj (report.decode.map fun lane => (lane.1, .obj lane.2.document))),
        ("amplification", .obj report.amplification.document),
        ("reconciliation", .obj report.reconciliation.document)]),
    ("limitations", .arr (limitations.map .str))]

/-! ## Nothing private is published -/

def forbiddenPublicKeys : List Text :=
  ["prompt", "prompts", "transcript", "transcripts", "message", "messages", "output", "outputs", "response",
    "responses", "tool_call", "tool_calls", "tool_argument", "tool_arguments", "tool_result", "tool_results",
    "credential", "credentials", "secret", "secrets", "endpoint", "endpoints", "host", "hosts", "hostname", "path",
    "paths", "tenant", "tenants", "scenario", "scenarios", "scenario_id", "scenario_ids"]

def casefold (platform : ExportPlatform) (text : Text) : Text :=
  text.flatMap fun c => if c.val < 0x80 then [Text.lowerChar c] else platform.py.casefold c

def privatePrefixes : List Text := ["/users/", "/home/", "/private/", "/tmp/", "/var/"]

/-- The text holds the other one somewhere. -/
def holds (part : Text) : Text → Bool
  | [] => part = []
  | c :: rest => (Text.dropPrefix? part (c :: rest)).isSome || holds part rest

def publicText (platform : ExportPlatform) (text : Text) : Bool :=
  !holds "://" text && privatePrefixes.all fun start => (Text.dropPrefix? start (casefold platform text)).isNone

mutual
/-- `_scan_public_value` -/
def scanPublic (platform : ExportPlatform) : Value → Bool
  | .str text => publicText platform text
  | .arr items => scanItems platform items
  | .obj fields => scanFields platform fields
  | _ => true

def scanItems (platform : ExportPlatform) : List Value → Bool
  | [] => true
  | item :: rest => scanPublic platform item && scanItems platform rest

def scanFields (platform : ExportPlatform) : List (Text × Value) → Bool
  | [] => true
  | (key, value) :: rest =>
    decide (casefold platform key ∉ forbiddenPublicKeys) && scanPublic platform value && scanFields platform rest
end

/-- `_assert_public_safe_json(json.dumps(result, sort_keys=True, separators=(",", ":")).encode("utf-8"))` -/
def assertPublicSafe (platform : ExportPlatform) (result : Object) : Option Unit := do
  guard ((Value.obj result).printable)
  let payload := (dumps true (.obj result)).flatMap encodeChar
  guard (scanPublic platform (.obj (← loadJson platform payload)))

/-- `public_qualification_result` -/
def publicQualificationResult (platform : ExportPlatform) (outcomeBytes finalReportBytes operationalEvidenceBytes : Bytes) :
    Option Object := do
  let outcome ← loadJson platform outcomeBytes
  let projection ← projectOutcome platform outcome
  let report ← exportFinalReport platform finalReportBytes outcomeBytes projection.manifestSha256
  let operational ← exportOperationalEvidence platform operationalEvidenceBytes report.operationalEvidenceSha256
    projection.manifestSha256 (platform.sha256 outcomeBytes) projection.headEventSha256
  guard (report.operationalGates = operational.gates)
  validateFinalDecision report projection.scoredPassed projection.gates operational.gates
  let result := publicResult (platform.sha256 outcomeBytes) projection report operational
  assertPublicSafe platform result
  return result

end HarnessProxy.Evidence

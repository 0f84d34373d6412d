import HarnessProxy.Evidence.Published

namespace HarnessProxy.Evidence

open HarnessProxy.Json

/-! # The outcome of a campaign and its public result -/

theorem guard_true {condition : Prop} [Decidable condition] (holds : condition) :
    (guard condition : Option Unit) = some () := if_pos holds

/-- The figures of both lanes next to the summaries that they come from. -/
def SameLanes (figures : List (Text × List (Text × Nat))) (reports : List LaneReport) : Prop :=
  List.Forall₂ (fun report lane => lane.1 = report.lane.name ∧ SameFigures lane.2 report.summary.document) reports figures

/-- The projection shows what the evaluator computed. -/
structure Shows (projection : OutcomeProjection) (evaluation : Evaluation) : Prop where
  gates : projection.gates = ⟨evaluation.gates.qualitySafety, evaluation.gates.qualityEfficacy,
    evaluation.gates.unconditionalTimeToValid, evaluation.gates.promotionPassed,
    evaluation.gates.conditionalLatencyDiagnostic.name⟩
  conditional : projection.conditionalLatency = ⟨evaluation.gates.conditionalLatencyDiagnostic.name,
    evaluation.lanes.map fun report => (report.lane.name, report.conditional.name)⟩
  pooled : SameFigures projection.pooled evaluation.pooled.document
  lanes : SameLanes projection.lanes evaluation.lanes
  mcnemar : projection.mcnemar = ⟨evaluation.mcnemar.directOnlySuccessCount, evaluation.mcnemar.proxyOnlySuccessCount,
    evaluation.mcnemar.discordantPairCount, evaluation.supportsProxyBenefit, evaluation.mcnemar.oneSidedTailNumerator,
    evaluation.mcnemar.oneSidedTailDenominator⟩

theorem contract_nodup : (Object.keys contract).Nodup := by
  simp [Object.keys, contract, Text.literal_inj]

theorem contract_clean (py : Python) : Object.Clean py contract :=
  ⟨contract_nodup, by simp [contract, CleanFields, Value.Clean, CleanItems, lanes]⟩

theorem contract_floatless : (Value.obj contract).Floatless := by
  simp [contract, Value.Floatless, Value.FloatlessFields, Value.FloatlessItems, lanes]

theorem natural_natCast (n : Nat) : natural n = some n := natural_eq_some.mpr rfl

/-- Two reports, one for each lane. -/
theorem EvaluationOf.reports {pairs : List Pair} {evaluation : Evaluation} (computed : EvaluationOf pairs evaluation) :
    ∃ cold warm, evaluation.lanes = [cold, warm] ∧ cold.lane = .cold ∧ warm.lane = .warmPrefix ∧
      SummaryOf (ofLane pairs .cold) cold.summary ∧ SummaryOf (ofLane pairs .warmPrefix) warm.summary := by
  have related := computed.lanes
  generalize evaluation.lanes = reports at related
  cases related with
  | cons first rest =>
      cases rest with
      | cons second rest =>
          cases rest
          exact ⟨_, _, rfl, first.1, second.1, first.2, second.2⟩

theorem exportGates_evaluation (evaluation : Evaluation) :
    exportGates evaluation.gatesDocument = some ⟨evaluation.gates.qualitySafety, evaluation.gates.qualityEfficacy,
      evaluation.gates.unconditionalTimeToValid, evaluation.gates.promotionPassed,
      evaluation.gates.conditionalLatencyDiagnostic.name⟩ := by
  cases status : evaluation.gates.conditionalLatencyDiagnostic <;>
    simp [exportGates, requireBool, requireOneOf, Evaluation.gatesDocument, status, conditionalStates, ConditionalStatus.name,
      Object.get?_cons, Text.literal_inj, Value.asString?]

theorem exportMcnemar_evaluation {pairs : List Pair} {evaluation : Evaluation} (computed : EvaluationOf pairs evaluation) :
    exportMcnemar evaluation.mcnemarDocument mcnemarAlphaPpm =
      some ⟨evaluation.mcnemar.directOnlySuccessCount, evaluation.mcnemar.proxyOnlySuccessCount,
        evaluation.mcnemar.discordantPairCount, evaluation.supportsProxyBenefit, evaluation.mcnemar.oneSidedTailNumerator,
        evaluation.mcnemar.oneSidedTailDenominator⟩ := by
  have figure {key : Text} {n : Nat} (found : evaluation.mcnemarDocument.get? key = some (.int n)) :
      requireNonnegativeInt evaluation.mcnemarDocument key = some n :=
    (requireNonnegativeInt_int found).trans (natural_natCast n)
  have figures : requireNonnegativeInt evaluation.mcnemarDocument "direct_only_success_count" =
        some evaluation.mcnemar.directOnlySuccessCount ∧
      requireNonnegativeInt evaluation.mcnemarDocument "proxy_only_success_count" =
        some evaluation.mcnemar.proxyOnlySuccessCount ∧
      requireNonnegativeInt evaluation.mcnemarDocument "discordant_pair_count" =
        some evaluation.mcnemar.discordantPairCount ∧
      requireNonnegativeInt evaluation.mcnemarDocument "one_sided_tail_numerator" =
        some evaluation.mcnemar.oneSidedTailNumerator ∧
      requireNonnegativeInt evaluation.mcnemarDocument "one_sided_tail_denominator" =
        some evaluation.mcnemar.oneSidedTailDenominator := by
    refine ⟨figure ?_, figure ?_, figure ?_, figure ?_, figure ?_⟩ <;>
      simp [Evaluation.mcnemarDocument, Object.get?_cons, Text.literal_inj]
  have flag : requireBool evaluation.mcnemarDocument "supports_proxy_benefit" = some evaluation.supportsProxyBenefit := by
    simp [requireBool, Evaluation.mcnemarDocument, Object.get?_cons, Text.literal_inj]
  obtain ⟨directOnly, proxyOnly, discordant, numerator, denominator⟩ := figures
  rw [exportMcnemar, directOnly, proxyOnly, discordant, numerator, denominator, flag, computed.supports, computed.mcnemar]
  have holds : (exactOneSidedMcnemar evaluation.pooled.proxyOnlySuccessCount
      evaluation.pooled.directOnlySuccessCount).discordantPairCount =
      evaluation.pooled.directOnlySuccessCount + evaluation.pooled.proxyOnlySuccessCount := Nat.add_comm _ _
  simp only [Option.bind_eq_bind, Option.bind_some]
  rw [guard_true ⟨holds, rfl, rfl, rfl⟩]
  rfl

/-- An object with one member for each lane. -/
def laneObject (cold warm : Value) : Object := [("cold", cold), ("warm-prefix", warm)]

theorem laneObject_nodup (cold warm : Value) : (laneObject cold warm).keys.Nodup := by
  change (["cold", "warm-prefix"] : List Text).Nodup
  decide

theorem byLane_reports {cold warm : LaneReport} (coldLane : cold.lane = .cold) (warmLane : warm.lane = .warmPrefix)
    (value : LaneReport → Value) : byLane [cold, warm] value = .obj (laneObject (value cold) (value warm)) := by
  simp only [byLane, List.map_cons, List.map_nil, coldLane, warmLane]
  rfl

/-- The summary of no rows, whose document has the keys of every other. -/
def noSummary : Summary := ⟨0, 0, 0, 0, 0, 0, 0, 0, ⟨none, none, none⟩, 0, 0, none, ⟨0, 0, 0⟩, ⟨0, 0, 0⟩, 0, 0⟩

theorem keys_document (summary : Summary) : Object.keys summary.document = Object.keys noSummary.document := rfl

theorem summary_nodup (summary : Summary) : (Object.keys summary.document).Nodup := by
  rw [keys_document]
  simp [Object.keys, Summary.document, Text.literal_inj]

theorem exportLanes_laneObject (cold warm : Summary) :
    exportLanes (Object.canonical (laneObject (.obj cold.document) (.obj warm.document))) laneNames =
      (exportSummary cold.document).bind fun first => (exportSummary warm.document).bind fun second =>
        some [(Text.literal "cold", first), (Text.literal "warm-prefix", second)] := by
  have nodup := laneObject_nodup (.obj cold.document) (.obj warm.document)
  have keys : requireExactKeys (laneObject (.obj cold.document) (.obj warm.document)) laneNames = some () :=
    guard_true ⟨fun _ member => member, fun _ member => member⟩
  have names : laneNames = [Text.literal "cold", Text.literal "warm-prefix"] := rfl
  have first : requireObject (laneObject (.obj cold.document) (.obj warm.document)) "cold" = some cold.document := by
    simp [requireObject, laneObject, Object.get?_cons, Value.asObject?]
  have second : requireObject (laneObject (.obj cold.document) (.obj warm.document)) "warm-prefix" = some warm.document := by
    simp [requireObject, laneObject, Object.get?_cons, Text.literal_inj, Value.asObject?]
  unfold exportLanes
  rw [requireExactKeys_canonical, keys, names]
  simp -implicitDefEqProofs only [List.mapM_cons, List.mapM_nil, requireObject_canonical nodup, first, second, Option.map_some,
    Option.bind_eq_bind, Option.bind_some, exportSummary_canonical (summary_nodup cold),
    exportSummary_canonical (summary_nodup warm)]
  cases exportSummary cold.document with
  | none => rfl
  | some figures => cases exportSummary warm.document <;> rfl

section
variable {fields : Object} (nodup : fields.keys.Nodup)
include nodup

theorem requireExact_canonical (key expected : Text) :
    requireExact fields.canonical key expected = requireExact fields key expected := by
  have same : Object.get? fields.canonical key = some (.str expected) ↔ fields.get? key = some (.str expected) := by
    rw [Value.get?_canonical nodup]
    cases fields.get? key with
    | none => rfl
    | some value => cases value <;> simp [Value.canonical]
  rw [requireExact, requireExact]
  simp only [same]

theorem requireSha256_canonical (key : Text) : requireSha256 fields.canonical key = requireSha256 fields key := by
  rw [requireSha256, requireSha256, Value.get?_canonical nodup]
  cases fields.get? key with
  | none => rfl
  | some value => cases value <;> rfl

theorem requireCategory_canonical (platform : ExportPlatform) (key : Text) :
    requireCategory platform fields.canonical key = requireCategory platform fields key := by
  unfold requireCategory
  rw [Value.get?_canonical nodup]
  cases fields.get? key with
  | none => rfl
  | some value => cases value <;> rfl

theorem getTexts_canonical {key : Text} {texts : List Text} (found : fields.get? key = some (.arr (texts.map .str))) :
    (Object.get? fields.canonical key).bind Value.asList? = some (texts.map .str) := by
  have same : canonicalItems (texts.map .str) = texts.map .str := by
    rw [canonicalItems_eq, List.map_map]
    rfl
  rw [Value.get?_canonical nodup, found, Option.map_some, Value.canonical, same]
  rfl

end

theorem mapM_asSha256 {texts : List Text} (each : ∀ text ∈ texts, matchesSha256 text = true) :
    (texts.map Value.str).mapM asSha256 = some texts := by
  induction texts with
  | nil => rfl
  | cons text rest ih =>
      obtain ⟨head, tail⟩ := List.forall_mem_cons.mp each
      have shown : asSha256 (.str text) = some text := if_pos head
      rw [List.map_cons, List.mapM_cons, shown, ih tail]
      rfl

/-- The digests that an outcome names. -/
structure OutcomeHashes where
  manifestSha256 : Text
  headEventSha256 : Text
  reconciliations : List Text
  manifest : matchesSha256 manifestSha256 = true
  head : matchesSha256 headEventSha256 = true
  each : ∀ text ∈ reconciliations, matchesSha256 text = true
  count : reconciliations.length = 8
  distinct : reconciliations.Nodup

/-- The outcome of a campaign whose evidence was evaluated. -/
def OutcomeHashes.outcome (hashes : OutcomeHashes) (evaluation : Evaluation) : Object :=
  v2Outcome hashes.manifestSha256 hashes.headEventSha256 hashes.reconciliations (some evaluation)

theorem outcome_nodup (hashes : OutcomeHashes) (evaluation : Evaluation) : (hashes.outcome evaluation).keys.Nodup := by
  simp [Object.keys, OutcomeHashes.outcome, v2Outcome, Text.literal_inj]

theorem evaluation_nodup (evaluation : Evaluation) : (Object.keys evaluation.document).Nodup := by
  simp [Object.keys, Evaluation.document, Text.literal_inj]

section
variable {pairs : List Pair} {evaluation : Evaluation} (computed : EvaluationOf pairs evaluation)
include computed

theorem exportConditional_evaluation (gates : ExportedGates)
    (same : gates.conditionalLatencyDiagnostic = evaluation.gates.conditionalLatencyDiagnostic.name) :
    exportConditional (Object.canonical evaluation.conditionalDocument) gates laneNames =
      some ⟨evaluation.gates.conditionalLatencyDiagnostic.name,
        evaluation.lanes.map fun report => (report.lane.name, report.conditional.name)⟩ := by
  obtain ⟨cold, warm, reports, coldLane, warmLane, _, _⟩ := computed.reports
  have nodup : (Object.keys evaluation.conditionalDocument).Nodup := by
    change (["status", "lanes"] : List Text).Nodup
    decide
  have lanesFound : requireObject evaluation.conditionalDocument "lanes" =
      some (laneObject (.str cold.conditional.name) (.str warm.conditional.name)) := by
    rw [Evaluation.conditionalDocument, reports, byLane_reports coldLane warmLane]
    rfl
  have lanesNodup := laneObject_nodup (.str cold.conditional.name) (.str warm.conditional.name)
  have diagnostic := computed.diagnostic
  rw [reports] at diagnostic ⊢
  rw [exportConditional, requireOneOf_canonical nodup, requireObject_canonical nodup, lanesFound]
  simp only [requireOneOf_canonical lanesNodup, requireExactKeys_canonical, Option.map_some, Option.bind_eq_bind,
    Option.bind_some, same, List.map_cons, List.map_nil, coldLane, warmLane]
  simp only [Evaluation.conditionalDocument, diagnostic, List.map_cons, List.map_nil]
  cases cold.conditional <;> cases warm.conditional <;> rfl

/-- The projection with these figures. -/
def projectionOf (hashes : OutcomeHashes) (evaluation : Evaluation) (pooled : List (Text × Nat))
    (lanes : List (Text × List (Text × Nat))) : OutcomeProjection where
  scoredPassed := evaluation.gates.promotionPassed
  failureCategory := if evaluation.gates.promotionPassed then none else some "v2_scored_gate_failed"
  manifestSha256 := hashes.manifestSha256
  headEventSha256 := hashes.headEventSha256
  reconciliations := hashes.reconciliations
  gates := ⟨evaluation.gates.qualitySafety, evaluation.gates.qualityEfficacy,
    evaluation.gates.unconditionalTimeToValid, evaluation.gates.promotionPassed,
    evaluation.gates.conditionalLatencyDiagnostic.name⟩
  conditionalLatency := ⟨evaluation.gates.conditionalLatencyDiagnostic.name,
    evaluation.lanes.map fun report => (report.lane.name, report.conditional.name)⟩
  pooled := pooled
  lanes := lanes
  mcnemar := ⟨evaluation.mcnemar.directOnlySuccessCount, evaluation.mcnemar.proxyOnlySuccessCount,
    evaluation.mcnemar.discordantPairCount, evaluation.supportsProxyBenefit, evaluation.mcnemar.oneSidedTailNumerator,
    evaluation.mcnemar.oneSidedTailDenominator⟩

/-- Every check but those of the summaries passes. -/
theorem projectOutcome_evaluation (platform : ExportPlatform) (hashes : OutcomeHashes) {cold warm : LaneReport}
    (rows : evaluation.pooled.rowCount = 240) (reports : evaluation.lanes = [cold, warm]) (coldLane : cold.lane = .cold)
    (warmLane : warm.lane = .warmPrefix) :
    projectOutcome platform (Object.canonical (hashes.outcome evaluation)) =
      (exportSummary evaluation.pooled.document).bind fun pooled =>
        (exportSummary cold.summary.document).bind fun first => (exportSummary warm.summary.document).bind fun second =>
          some (projectionOf hashes evaluation pooled [(Text.literal "cold", first), (Text.literal "warm-prefix", second)]) := by
  have nodup := outcome_nodup hashes evaluation
  have evaluatorNodup := evaluation_nodup evaluation
  have decision : requireOneOf (hashes.outcome evaluation) "scored_decision" ["scored_passed", "scored_failed"] =
      some (Text.literal (if evaluation.gates.promotionPassed then "scored_passed" else "scored_failed")) := by
    cases passed : evaluation.gates.promotionPassed <;>
      simp [requireOneOf, OutcomeHashes.outcome, v2Outcome, passed, Object.get?_cons, Text.literal_inj, Value.asString?]
  have category : requireCategory platform (hashes.outcome evaluation) "failure_category" =
      some (projectionOf hashes evaluation [] []).failureCategory := by
    cases passed : evaluation.gates.promotionPassed
    · simp only [requireCategory, OutcomeHashes.outcome, v2Outcome, projectionOf, passed, Object.get?_cons, Text.literal_inj,
        Option.map_some]
      rfl
    · simp [requireCategory, OutcomeHashes.outcome, v2Outcome, projectionOf, passed, Object.get?_cons, Text.literal_inj]
  have manifest : requireSha256 (hashes.outcome evaluation) "campaign_manifest_sha256" = some hashes.manifestSha256 := by
    simp [requireSha256, OutcomeHashes.outcome, v2Outcome, Object.get?_cons, Text.literal_inj, asSha256, hashes.manifest]
  have head : requireSha256 (hashes.outcome evaluation) "head_event_sha256" = some hashes.headEventSha256 := by
    simp [requireSha256, OutcomeHashes.outcome, v2Outcome, Object.get?_cons, Text.literal_inj, asSha256, hashes.head]
  have counts : requireCounts (hashes.outcome evaluation) expectedCounts = some () := by
    simp [requireCounts, expectedCounts, requireNonnegativeInt, OutcomeHashes.outcome, v2Outcome, Object.get?_cons,
      Text.literal_inj, expectedSlotCount, lanes, replicatesPerLane]
  have named : (hashes.outcome evaluation).get? "proxy_reconciliation_sha256s" =
      some (.arr (hashes.reconciliations.map .str)) := by
    simp [OutcomeHashes.outcome, v2Outcome, Object.get?_cons, Text.literal_inj]
  have texts := getTexts_canonical nodup named
  have reconciliations : requireSha256List (Object.canonical (hashes.outcome evaluation)) "proxy_reconciliation_sha256s"
      expectedSlotCount = some hashes.reconciliations := by
    have length : (hashes.reconciliations.map Value.str).length = expectedSlotCount := by
      rw [List.length_map, hashes.count]
      rfl
    simp only [requireSha256List, texts, Option.bind_eq_bind, Option.bind_some, guard_true length,
      mapM_asSha256 hashes.each, guard_true hashes.distinct]
    rfl
  have evaluator : requireObject (hashes.outcome evaluation) "evaluator" = some evaluation.document := by
    simp [requireObject, OutcomeHashes.outcome, v2Outcome, Object.get?_cons, Text.literal_inj, Value.asObject?]
  have evaluatorCounts : requireCounts evaluation.document expectedEvaluatorCounts = some () := by
    simp [requireCounts, expectedEvaluatorCounts, requireNonnegativeInt, Evaluation.document, Object.get?_cons,
      Text.literal_inj, rows, caseCount, expectedSlotCount, lanes, replicatesPerLane]
  have contractFound : requireObject evaluation.document "contract" = some contract := by
    simp [requireObject, Evaluation.document, Object.get?_cons, Text.literal_inj, Value.asObject?]
  have contractEqual : (Value.obj (Object.canonical contract)).equal platform.floatEqual (.obj contract) = true :=
    Value.equal_canonical (contract_clean platform.py) contract_floatless
  have gatesFound : requireObject evaluation.document "gates" = some evaluation.gatesDocument := by
    simp [requireObject, Evaluation.document, Object.get?_cons, Text.literal_inj, Value.asObject?]
  have gatesNodup : (Object.keys evaluation.gatesDocument).Nodup := by
    simp [Object.keys, Evaluation.gatesDocument, Text.literal_inj]
  have conditionalFound : requireObject evaluation.document "conditional_latency" = some evaluation.conditionalDocument := by
    simp [requireObject, Evaluation.document, Object.get?_cons, Text.literal_inj, Value.asObject?]
  have pooledFound : requireObject evaluation.document "pooled" = some evaluation.pooled.document := by
    simp [requireObject, Evaluation.document, Object.get?_cons, Text.literal_inj, Value.asObject?]
  have lanesFound : requireObject evaluation.document "lanes" =
      some (laneObject (.obj cold.summary.document) (.obj warm.summary.document)) := by
    simp [requireObject, Evaluation.document, reports, byLane_reports coldLane warmLane, Object.get?_cons, Text.literal_inj,
      Value.asObject?]
  have mcnemarFound : requireObject evaluation.document "mcnemar" = some evaluation.mcnemarDocument := by
    simp [requireObject, Evaluation.document, Object.get?_cons, Text.literal_inj, Value.asObject?]
  have mcnemarNodup : (Object.keys evaluation.mcnemarDocument).Nodup := by
    simp [Object.keys, Evaluation.mcnemarDocument, Text.literal_inj]
  have constants : requireExact (hashes.outcome evaluation) "schema_version" "2.0" = some () ∧
      requireExact (hashes.outcome evaluation) "record_type" "qualification_campaign_outcome" = some () ∧
      requireExact (hashes.outcome evaluation) "status" "scored_complete" = some () ∧
      requireExact evaluation.document "schema_version" "2.0" = some () := by
    simp [requireExact, OutcomeHashes.outcome, v2Outcome, Evaluation.document, Object.get?_cons, Text.literal_inj]
  have decided : decide (Text.literal (if evaluation.gates.promotionPassed then "scored_passed" else "scored_failed") =
      "scored_passed") = evaluation.gates.promotionPassed := by
    cases evaluation.gates.promotionPassed <;> simp [Text.literal_inj]
  have absent : (projectionOf hashes evaluation [] []).failureCategory.isNone = evaluation.gates.promotionPassed := by
    simp only [projectionOf]
    cases evaluation.gates.promotionPassed <;> rfl
  unfold projectOutcome
  simp -implicitDefEqProofs only [requireExact_canonical nodup, constants, requireOneOf_canonical nodup, decision, requireCategory_canonical nodup,
    category, requireSha256_canonical nodup, manifest, head, requireCounts_canonical nodup, counts, reconciliations,
    requireObject_canonical nodup, evaluator, Option.map_some, requireExact_canonical evaluatorNodup,
    requireCounts_canonical evaluatorNodup, evaluatorCounts, requireObject_canonical evaluatorNodup, contractFound,
    contractEqual, gatesFound, exportGates_canonical gatesNodup, exportGates_evaluation, conditionalFound, pooledFound,
    lanesFound, mcnemarFound, exportSummary_canonical (summary_nodup _), exportLanes_laneObject,
    exportMcnemar_canonical mcnemarNodup, exportMcnemar_evaluation computed, Option.bind_eq_bind, Option.bind_some, Option.pure_def,
    decided, absent, guard_true trivial]
  have promotion : evaluation.gates.promotionPassed = (evaluation.gates.qualitySafety && evaluation.gates.qualityEfficacy &&
      evaluation.gates.unconditionalTimeToValid) := rfl
  rw [guard_true promotion, Option.bind_some, exportConditional_evaluation computed _ rfl, Option.bind_some]
  cases exportSummary evaluation.pooled.document with
  | none => rfl
  | some pooled =>
      cases exportSummary cold.summary.document with
      | none => rfl
      | some first => cases exportSummary warm.summary.document <;> rfl

end

/-- The pairs of a whole set and those of each lane can be published. -/
structure PublishablePairs (pairs : List Pair) : Prop where
  pooled : PublishablePool pairs
  lanes : ∀ lane, PublishablePool (ofLane pairs lane)

/-- The outcome checks pass exactly for publishable pairs, and then the
projection shows the figures of the evaluator. -/
theorem projectOutcome_iff (platform : ExportPlatform) (hashes : OutcomeHashes) {records : List V2OutcomeRecord}
    {pairs : List Pair} {evaluation : Evaluation} (accepted : AcceptedSet records pairs)
    (computed : EvaluationOf pairs evaluation) :
    ((∃ projection, projectOutcome platform (Object.canonical (hashes.outcome evaluation)) = some projection) ↔
        PublishablePairs pairs) ∧
      ∀ projection, projectOutcome platform (Object.canonical (hashes.outcome evaluation)) = some projection →
        ∃ pooled lanes, projection = projectionOf hashes evaluation pooled lanes ∧ Shows projection evaluation := by
  obtain ⟨cold, warm, reports, coldLane, warmLane, coldSummary, warmSummary⟩ := computed.reports
  have rows : evaluation.pooled.rowCount = 240 := computed.pooled.rowCount.trans accepted.length_pairs
  have valid : ∀ pair ∈ pairs, validRecord pair.direct = true ∧ validRecord pair.proxy = true :=
    fun pair member => accepted.pair_valid member
  have laneValid (lane : Lane) : ∀ pair ∈ ofLane pairs lane, validRecord pair.direct = true ∧ validRecord pair.proxy = true :=
    fun pair member => valid pair (List.mem_of_mem_filter member)
  rw [projectOutcome_evaluation computed platform hashes rows reports coldLane warmLane]
  constructor
  · have pooledIff := exportSummary_iff computed.pooled valid
    have coldIff := exportSummary_iff coldSummary (laneValid .cold)
    have warmIff := exportSummary_iff warmSummary (laneValid .warmPrefix)
    simp only [Option.bind_eq_some_iff, Option.some.injEq]
    constructor
    · rintro ⟨_, pooled, pooledRead, first, firstRead, second, secondRead, _⟩
      refine ⟨pooledIff.mp ⟨pooled, pooledRead⟩, fun lane => ?_⟩
      cases lane with
      | cold => exact coldIff.mp ⟨first, firstRead⟩
      | warmPrefix => exact warmIff.mp ⟨second, secondRead⟩
    · intro publishable
      obtain ⟨pooled, pooledRead⟩ := pooledIff.mpr publishable.pooled
      obtain ⟨first, firstRead⟩ := coldIff.mpr (publishable.lanes .cold)
      obtain ⟨second, secondRead⟩ := warmIff.mpr (publishable.lanes .warmPrefix)
      exact ⟨_, pooled, pooledRead, first, firstRead, second, secondRead, rfl⟩
  · intro projection projected
    simp only [Option.bind_eq_some_iff, Option.some.injEq] at projected
    obtain ⟨pooled, pooledRead, first, firstRead, second, secondRead, same⟩ := projected
    subst same
    refine ⟨pooled, _, rfl, rfl, rfl, exportSummary_figures pooledRead, ?_, rfl⟩
    rw [reports]
    exact .cons ⟨congrArg Lane.name coldLane.symm, exportSummary_figures firstRead⟩
      (.cons ⟨congrArg Lane.name warmLane.symm, exportSummary_figures secondRead⟩ .nil)

end HarnessProxy.Evidence

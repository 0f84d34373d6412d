import HarnessProxy.Evidence.Presentable
import HarnessProxy.Evidence.PublicResult

namespace HarnessProxy.Evidence

open HarnessProxy.Json

/-! # Every result is published, or which ones

The outcome of a campaign, written to its file and read back, with a reviewed
report and the operational evidence.
-/

section
variable {platform : ExportPlatform}

/-! ## The outcome file -/

def summaryRoom : Nat := 87000

def mcnemarKeys : List Text :=
  ["proxy_only_success_count", "direct_only_success_count", "discordant_pair_count", "one_sided_tail_numerator",
    "one_sided_tail_denominator", "supports_proxy_benefit"]

def gatesKeys : List Text :=
  ["quality_safety", "quality_efficacy", "unconditional_time_to_valid", "conditional_latency_diagnostic", "promotion_passed"]

def conditionalEntries : List (Text × Nat) := [("status", 386), ("lanes", 802)]

def verdictEntries : List (Text × Nat) :=
  [("lane_pass", 40), ("replicate_pass", 130), ("passing_replicate_count_by_lane", 8632)]

def detailEntries : List (Text × Nat) := [("quality", 9000), ("time_to_valid", 9000)]

def evaluationEntries : List (Text × Nat) :=
  [("schema_version", 386), ("row_count_per_arm", 4301), ("contract", 8000), ("case_count", 386), ("lane_count", 386),
    ("replicates_per_lane", 386), ("pooled", summaryRoom), ("lanes", 30 + 2 * summaryRoom),
    ("replicates", 30 + 2 * (30 + 4 * summaryRoom)), ("mcnemar", 27000), ("gates", 3000), ("conditional_latency", 1300),
    ("gate_details", 19000)]

def outcomeEntries : List (Text × Nat) :=
  [("schema_version", 386), ("record_type", 386), ("status", 386), ("scored_decision", 386), ("failure_category", 386),
    ("campaign_manifest_sha256", 386), ("head_event_sha256", 386), ("event_count", 386), ("slot_count", 386),
    ("scored_stage_count", 386), ("scored_model_instance_count", 386), ("proxy_reconciliation_sha256s", 3200),
    ("evaluator", 1030000)]

def exportedMcnemarEntries : List (Text × Nat) :=
  [("direct_only_success_count", 4301), ("proxy_only_success_count", 4301), ("discordant_pair_count", 4301),
    ("supports_proxy_benefit", 5), ("one_sided_tail_numerator", 26000), ("one_sided_tail_denominator", 26000)]

def exportedGatesEntries : List (Text × Nat) :=
  [("quality_safety", 386), ("quality_efficacy", 386), ("unconditional_time_to_valid", 386), ("promotion_passed", 386),
    ("conditional_latency_diagnostic", 386)]

def provenanceEntries : List (Text × Nat) :=
  [("source_outcome_sha256", 386), ("campaign_manifest_sha256", 386), ("head_event_sha256", 386),
    ("proxy_reconciliation_sha256s", 3200), ("operational_evidence_sha256", 386)]

def qualificationEntries : List (Text × Nat) :=
  [("status", 386), ("scored_decision", 386), ("final_decision", 386), ("failure_category", 386), ("event_count", 386),
    ("slot_count", 386), ("scored_stage_count", 386), ("scored_model_instance_count", 386), ("evaluator_contract", 8000),
    ("gates", 3000), ("conditional_latency", 1300), ("pooled", summaryRoom), ("lanes", 30 + 2 * summaryRoom),
    ("mcnemar", 80000)]

def resultEntries : List (Text × Nat) :=
  [("schema_version", 386), ("record_type", 386), ("provenance", 6000), ("qualification", 400000), ("operational", 500000),
    ("limitations", 4000)]

/-- What each document below is checked for. -/
structure Layouts (fits : List (Text × Nat) → Nat → Prop) : Prop where
  document : fits ((Object.keys noSummary.document).map fun key => (key, 4301)) summaryRoom
  summary : fits (summaryKeys.map fun key => (key, 4301)) summaryRoom
  contract : fits (contract.keys.map fun key => (key, 386)) 8000
  mcnemar : fits (mcnemarKeys.map fun key => (key, 4301)) 27000
  gates : fits (gatesKeys.map fun key => (key, 386)) 3000
  conditional : fits conditionalEntries 1300
  verdict : fits verdictEntries 9000
  detail : fits detailEntries 19000
  evaluation : fits evaluationEntries 1030000
  outcome : fits outcomeEntries 1040000
  exportedMcnemar : fits exportedMcnemarEntries 80000
  exportedGates : fits exportedGatesEntries 3000
  provenance : fits provenanceEntries 6000
  qualification : fits qualificationEntries 400000
  result : fits resultEntries 1000000

theorem layouts_byCode : Layouts fun entries size => fitsByCode entries size = true := by
  constructor <;>
    (simp only [noSummary, Summary.document, Object.keys, summaryKeys, contract, mcnemarKeys, gatesKeys, conditionalEntries,
      verdictEntries, detailEntries, evaluationEntries, outcomeEntries, exportedMcnemarEntries, exportedGatesEntries,
      provenanceEntries, qualificationEntries, resultEntries, List.map_cons, List.map_nil]
     repeat rw [Text.literal_ofList]
     decide)

theorem layouts_fit : Layouts fun entries size => fitsIn entries size = true := by
  obtain ⟨document, summary, contract, mcnemar, gates, conditional, verdict, detail, evaluation, outcome, exportedMcnemar,
    exportedGates, provenance, qualification, result⟩ := layouts_byCode
  exact ⟨fitsIn_of_code document, fitsIn_of_code summary, fitsIn_of_code contract, fitsIn_of_code mcnemar, fitsIn_of_code gates,
    fitsIn_of_code conditional, fitsIn_of_code verdict, fitsIn_of_code detail, fitsIn_of_code evaluation,
    fitsIn_of_code outcome, fitsIn_of_code exportedMcnemar, fitsIn_of_code exportedGates, fitsIn_of_code provenance,
    fitsIn_of_code qualification, fitsIn_of_code result⟩

theorem summary_presentable (summary : Summary) : Presentable platform summaryRoom (.obj summary.document) := by
  refine presentable_alike (keys_document summary) 4301 layouts_fit.document ?_
  simp only [Summary.document, List.forall_mem_cons, presentable_int, presentable_optionalInt, List.not_mem_nil,
    false_implies, implies_true, and_self]

theorem laneObject_presentable {cold warm : Value} {each : Nat} (first : Presentable platform each cold)
    (second : Presentable platform each warm) : Presentable platform (30 + 2 * each) (.obj (laneObject cold warm)) := by
  have named : (["cold", "warm-prefix"] : List Text).all publicKey = true := by decide
  have laid : LaidOut platform [("cold", each), ("warm-prefix", each)] (laneObject cold warm) :=
    .cons ⟨rfl, first⟩ (.cons ⟨rfl, second⟩ .nil)
  refine (presentable_laidOut laid named (laneObject_nodup cold warm)).mono ?_
  change 2 + (4 + 4 + each + (11 + 4 + each)) ≤ 30 + 2 * each
  omega

theorem word_presentable {text : Text} (word : publicWord text = true) (short : text.length ≤ 64) :
    Presentable platform 386 (.str text) := (presentable_str word).mono (by omega)

theorem status_presentable (status : ConditionalStatus) : Presentable platform 386 (.str status.name) := by
  cases status <;> exact word_presentable (by decide) (by decide)

theorem sha256_word {text : Text} (hash : matchesSha256 text = true) : publicWord text = true ∧ text.length = 64 := by
  obtain ⟨length, digits⟩ := Bool.and_eq_true_iff.mp hash
  have each : ∀ c ∈ hexDigits, c.val < 0x7f ∧ c ≠ codePoint '/' := by
    have all : hexDigits.all (fun c => decide (c.val < 0x7f ∧ c ≠ codePoint '/')) = true := by decide
    exact fun c member => of_decide_eq_true (List.all_eq_true.mp all c member)
  have member : ∀ c ∈ text, c ∈ hexDigits := fun c inside => of_decide_eq_true (List.all_eq_true.mp digits c inside)
  refine ⟨Bool.and_eq_true_iff.mpr ⟨plain_iff.mpr fun c inside => (each c (member c inside)).1, ?_⟩, of_decide_eq_true length⟩
  exact List.all_eq_true.mpr fun c inside => decide_eq_true (each c (member c inside)).2

theorem sha256_presentable {text : Text} (hash : matchesSha256 text = true) : Presentable platform 386 (.str text) :=
  word_presentable (sha256_word hash).1 (sha256_word hash).2.le

theorem small_presentable {i : Int} (small : i.natAbs < 10000000) : Presentable platform 386 (.int i) :=
  (presentable_small small).mono (by norm_num)

theorem contract_presentable : Presentable platform 8000 (.obj contract) := by
  have names : ∀ text ∈ ["cold", "warm-prefix", "direct", "proxy"], Presentable platform 180 (.str (Text.literal text)) := by
    simp only [List.forall_mem_cons, List.not_mem_nil, false_implies, implies_true, and_true]
    exact ⟨(presentable_str (by decide)).mono (by decide), (presentable_str (by decide)).mono (by decide),
      (presentable_str (by decide)).mono (by decide), (presentable_str (by decide)).mono (by decide)⟩
  have values : ∀ field ∈ contract, Presentable platform 386 field.2 := by
    simp only [contract, List.forall_mem_cons, List.not_mem_nil, false_implies, implies_true, and_true]
    have small {n : Nat} (bound : n < 10000000) : Presentable platform 386 (.int n) := small_presentable bound
    refine ⟨small (by decide), ?_, small (by decide), ?_, small_presentable (by decide), small_presentable (by decide),
      small (by decide), small (by decide), small (by decide), small (by decide), small (by decide), small (by decide),
      small (by decide), small_presentable (by decide)⟩
    · refine (presentable_arr 180 fun item member => ?_).mono (by decide)
      simp only [lanes, List.map_cons, List.map_nil, List.mem_cons, List.not_mem_nil, or_false] at member
      rcases member with rfl | rfl
      · exact names "cold" (by decide)
      · exact names "warm-prefix" (by decide)
    · refine (presentable_arr 180 fun item member => ?_).mono (by decide)
      simp only [List.mem_cons, List.not_mem_nil, or_false] at member
      rcases member with rfl | rfl
      · exact names "direct" (by decide)
      · exact names "proxy" (by decide)
  exact presentable_alike rfl 386 layouts_fit.contract values

theorem mcnemar_presentable (evaluation : Evaluation) : Presentable platform 27000 (.obj evaluation.mcnemarDocument) := by
  have values : ∀ field ∈ evaluation.mcnemarDocument, Presentable platform 4301 field.2 := by
    simp only [Evaluation.mcnemarDocument, List.forall_mem_cons, presentable_int, (presentable_bool _).mono, Nat.reduceLeDiff,
      List.not_mem_nil, false_implies, implies_true, and_self]
  have keys : Object.keys evaluation.mcnemarDocument = mcnemarKeys := rfl
  exact presentable_alike keys 4301 layouts_fit.mcnemar values

theorem gates_presentable (evaluation : Evaluation) : Presentable platform 3000 (.obj evaluation.gatesDocument) := by
  have values : ∀ field ∈ evaluation.gatesDocument, Presentable platform 386 field.2 := by
    simp only [Evaluation.gatesDocument, List.forall_mem_cons, status_presentable, (presentable_bool _).mono,
      Nat.reduceLeDiff, List.not_mem_nil, false_implies, implies_true, and_self]
  have keys : Object.keys evaluation.gatesDocument = gatesKeys := rfl
  exact presentable_alike keys 386 layouts_fit.gates values

/-- One value for each of the four replicates. -/
theorem byReplicate_presentable {report : LaneReport} {value : ReplicateReport → Value} (each size : Nat)
    (fits : fitsIn ((["1", "2", "3", "4"] : List Text).map fun key => (key, each)) size = true)
    (numbered : report.replicates.map ReplicateReport.replicate = List.range' 1 replicatesPerLane)
    (values : ∀ replicate, Presentable platform each (value replicate)) :
    Presentable platform size (byReplicate report value) := by
  have keys : Object.keys (report.replicates.map fun replicate => (Text.ofNat replicate.replicate, value replicate)) =
      ["1", "2", "3", "4"] := by
    have texts : (report.replicates.map ReplicateReport.replicate).map Text.ofNat = ["1", "2", "3", "4"] := by
      rw [numbered]
      decide
    rw [← texts, Object.keys, List.map_map, List.map_map]
    rfl
  have values : ∀ field ∈ report.replicates.map fun replicate => (Text.ofNat replicate.replicate, value replicate),
      Presentable platform each field.2 := by
    intro field member
    obtain ⟨replicate, _, rfl⟩ := List.mem_map.mp member
    exact values replicate
  exact presentable_alike keys each fits values

theorem reconciliations_presentable (hashes : OutcomeHashes) :
    Presentable platform 3200 (.arr (hashes.reconciliations.map .str)) := by
  refine (presentable_arr 386 fun item member => ?_).mono (by
    rw [List.length_map, hashes.count]
    norm_num)
  obtain ⟨text, inside, rfl⟩ := List.mem_map.mp member
  exact sha256_presentable (hashes.each text inside)

section
variable {evaluation : Evaluation} {cold warm : LaneReport} (reports : evaluation.lanes = [cold, warm])
  (coldLane : cold.lane = .cold) (warmLane : warm.lane = .warmPrefix)
include reports coldLane warmLane

theorem byLane_presentable {value : LaneReport → Value} {each : Nat} (values : ∀ report ∈ evaluation.lanes,
    Presentable platform each (value report)) :
    Presentable platform (30 + 2 * each) (byLane evaluation.lanes value) := by
  rw [reports] at values ⊢
  rw [byLane_reports coldLane warmLane]
  exact laneObject_presentable (values cold (by simp)) (values warm (by simp))

theorem conditional_presentable : Presentable platform 1300 (.obj evaluation.conditionalDocument) := by
  have lanes : Presentable platform 802 (byLane evaluation.lanes fun report => .str report.conditional.name) :=
    byLane_presentable reports coldLane warmLane fun report _ => status_presentable report.conditional
  exact presentable_fields conditionalEntries layouts_fit.conditional
    (.cons ⟨rfl, status_presentable _⟩ (.cons ⟨rfl, lanes⟩ .nil))

variable (numbered : ∀ report ∈ evaluation.lanes,
  report.replicates.map ReplicateReport.replicate = List.range' 1 replicatesPerLane)
include numbered

/-- The verdicts of one kind by lane and replicate. -/
theorem verdicts_presentable (lanePass : LaneReport → Bool) (replicatePass : ReplicateReport → Bool) (wins : LaneReport → Nat) :
    Presentable platform 9000 (.obj
      [("lane_pass", byLane evaluation.lanes fun report => .bool (lanePass report)),
        ("replicate_pass", byLane evaluation.lanes fun report =>
          byReplicate report fun replicate => .bool (replicatePass replicate)),
        ("passing_replicate_count_by_lane", byLane evaluation.lanes fun report => .int (wins report))]) := by
  have passes : Presentable platform 40 (byLane evaluation.lanes fun report => .bool (lanePass report)) :=
    byLane_presentable reports coldLane warmLane fun report _ => presentable_bool (lanePass report)
  have counts : Presentable platform 8632 (byLane evaluation.lanes fun report => .int (wins report)) :=
    byLane_presentable reports coldLane warmLane fun report _ => presentable_int (wins report)
  have replicates : Presentable platform 130 (byLane evaluation.lanes fun report =>
      byReplicate report fun replicate => .bool (replicatePass replicate)) :=
    byLane_presentable reports coldLane warmLane fun report member =>
      byReplicate_presentable 5 50 (fitsIn_of_code (by decide)) (numbered report member) fun replicate =>
        presentable_bool (replicatePass replicate)
  exact presentable_fields verdictEntries layouts_fit.verdict
    (.cons ⟨rfl, passes⟩ (.cons ⟨rfl, replicates⟩ (.cons ⟨rfl, counts⟩ .nil)))

theorem evaluation_presentable : Presentable platform 1030000 (.obj evaluation.document) := by
  have lanes : Presentable platform (30 + 2 * summaryRoom)
      (byLane evaluation.lanes fun report => .obj report.summary.document) :=
    byLane_presentable reports coldLane warmLane fun report _ => summary_presentable report.summary
  have replicates : Presentable platform (30 + 2 * (30 + 4 * summaryRoom)) (byLane evaluation.lanes fun report =>
      byReplicate report fun replicate => .obj replicate.summary.document) :=
    byLane_presentable reports coldLane warmLane fun report member =>
      byReplicate_presentable summaryRoom (30 + 4 * summaryRoom) (fitsIn_of_code (by decide)) (numbered report member)
        fun replicate => summary_presentable replicate.summary
  have details : Presentable platform 19000 (.obj evaluation.gateDetails) :=
    presentable_fields detailEntries layouts_fit.detail
      (.cons ⟨rfl, verdicts_presentable reports coldLane warmLane numbered _ _ _⟩
        (.cons ⟨rfl, verdicts_presentable reports coldLane warmLane numbered _ _ _⟩ .nil))
  exact presentable_fields evaluationEntries layouts_fit.evaluation
    (.cons ⟨rfl, word_presentable (by decide) (by decide)⟩ (.cons ⟨rfl, presentable_int _⟩
    (.cons ⟨rfl, contract_presentable⟩ (.cons ⟨rfl, small_presentable (by decide)⟩
    (.cons ⟨rfl, small_presentable (by decide)⟩ (.cons ⟨rfl, small_presentable (by decide)⟩
    (.cons ⟨rfl, summary_presentable _⟩ (.cons ⟨rfl, lanes⟩ (.cons ⟨rfl, replicates⟩
    (.cons ⟨rfl, mcnemar_presentable _⟩ (.cons ⟨rfl, gates_presentable _⟩
    (.cons ⟨rfl, conditional_presentable reports coldLane warmLane⟩ (.cons ⟨rfl, details⟩ .nil)))))))))))))

/-- The outcome takes less than a mebibyte, whatever its figures are. -/
theorem outcome_presentable (hashes : OutcomeHashes) :
    Presentable platform 1040000 (.obj (hashes.outcome evaluation)) := by
  have status : Presentable platform 386 (.str "scored_complete") := word_presentable (by decide) (by decide)
  have decision : Presentable platform 386
      (.str (if (some evaluation).map (fun evaluation => evaluation.gates.promotionPassed) = some true then
        Text.literal "scored_passed" else Text.literal "scored_failed")) := by
    split <;> exact word_presentable (by decide) (by decide)
  have category : Presentable platform 386
      (if (some evaluation).map (fun evaluation => evaluation.gates.promotionPassed) = some true then Value.null
        else .str "v2_scored_gate_failed") := by
    split
    · exact presentable_null.mono (by norm_num)
    · exact word_presentable (by decide) (by decide)
  exact presentable_fields outcomeEntries layouts_fit.outcome
    (.cons ⟨rfl, word_presentable (by decide) (by decide)⟩ (.cons ⟨rfl, word_presentable (by decide) (by decide)⟩
    (.cons ⟨rfl, status⟩ (.cons ⟨rfl, decision⟩ (.cons ⟨rfl, category⟩
    (.cons ⟨rfl, sha256_presentable hashes.manifest⟩ (.cons ⟨rfl, sha256_presentable hashes.head⟩
    (.cons ⟨rfl, small_presentable (by decide)⟩ (.cons ⟨rfl, small_presentable (by decide)⟩
    (.cons ⟨rfl, small_presentable (by decide)⟩ (.cons ⟨rfl, small_presentable (by decide)⟩
    (.cons ⟨rfl, reconciliations_presentable hashes⟩
    (.cons ⟨rfl, evaluation_presentable reports coldLane warmLane numbered⟩ .nil)))))))))))))

end

/-! ## The public result -/

theorem SameFigures.keys {figures : List (Text × Nat)} {document : Object} (same : SameFigures figures document) :
    Object.keys (figures.map natField) = summaryKeys := by
  have names : figures.map Prod.fst = summaryKeys := by
    unfold SameFigures at same
    generalize summaryKeys = keys at same ⊢
    induction same with
    | nil => rfl
    | cons head _ ih => rw [List.map_cons, ih, head.1]
  rw [← names, Object.keys, List.map_map]
  rfl

theorem SameFigures.presentable {figures : List (Text × Nat)} {document : Object} (same : SameFigures figures document) :
    Presentable platform summaryRoom (.obj (figures.map natField)) := by
  have values : ∀ field ∈ figures.map natField, Presentable platform 4301 field.2 := by
    intro field member
    obtain ⟨figure, _, rfl⟩ := List.mem_map.mp member
    exact presentable_int _
  exact presentable_alike same.keys 4301 layouts_fit.summary values

theorem printable_get? {fields : Object} (key : Text) {value : Value} (printable : (Value.obj fields).printable = true)
    (found : fields.get? key = some value) : value.printable = true :=
  printableFields_iff.mp printable _ (fields.mem_of_get? key found)

theorem printable_cons {key : Text} {value : Value} {rest : Object} (first : value.printable = true)
    (others : (Value.obj rest).printable = true) : (Value.obj ((key, value) :: rest)).printable = true :=
  Bool.and_eq_true_iff.mpr ⟨first, others⟩

theorem contract_printable : (Value.obj contract).printable = true := by decide

theorem SameFigures.printable {figures : List (Text × Nat)} {document : Object} (same : SameFigures figures document)
    (printed : (Value.obj document).printable = true) : (Value.obj (figures.map natField)).printable = true := by
  refine printableFields_iff.mpr fun field member => ?_
  obtain ⟨figure, inside, rfl⟩ := List.mem_map.mp member
  obtain ⟨key, _, _, found⟩ := forall₂_mem_right same inside
  exact printable_get? key printed found

/-- The reviewed part of a result. -/
def operationalSection (report : FinalReport) (operational : OperationalEvidence) : Object :=
  [("artifacts", .obj
      [("candidate_digest", .str operational.candidateDigest), ("rollback_digest", .str operational.rollbackDigest)]),
    ("gates", .obj (boolDocument operational.gates)),
    ("decode", .obj (report.decode.map fun lane => (lane.1, .obj lane.2.document))),
    ("amplification", .obj report.amplification.document),
    ("reconciliation", .obj report.reconciliation.document)]

/-- A reviewed report and operational evidence that are bound to an outcome. -/
structure WellFormed (platform : ExportPlatform) (hashes : OutcomeHashes) (evaluation : Evaluation)
    (outcomeBytes reportBytes evidenceBytes : Bytes) (report : FinalReport) (operational : OperationalEvidence) : Prop where
  report_read : exportFinalReport platform reportBytes outcomeBytes hashes.manifestSha256 = some report
  evidence_read : exportOperationalEvidence platform evidenceBytes report.operationalEvidenceSha256 hashes.manifestSha256
    (platform.sha256 outcomeBytes) hashes.headEventSha256 = some operational
  same_gates : report.operationalGates = operational.gates
  decision : report.finalDecision = "PROMOTE" → evaluation.gates.promotionPassed = true ∧
    operational.gates.all Prod.snd = true ∧ report.decode.all (fun lane => lane.2.gatePassed) = true ∧
    report.amplification.gatePassed = true ∧ report.reconciliation.gatePassed = true
  presentable : Presentable platform 500000 (.obj (operationalSection report operational))
  printable : (Value.obj (operationalSection report operational)).printable = true

theorem exportFinalReport_facts {payload outcomeBytes : Bytes} {manifestSha256 : Text} {report : FinalReport}
    (read : exportFinalReport platform payload outcomeBytes manifestSha256 = some report) :
    matchesSha256 (platform.sha256 outcomeBytes) = true ∧ matchesSha256 report.operationalEvidenceSha256 = true ∧
      report.finalDecision ∈ finalDecisions := by
  have shaped {document : Object} {key text : Text} (required : requireSha256 document key = some text) :
      matchesSha256 text = true := by
    obtain ⟨value, _, shown⟩ := Option.bind_eq_some_iff.mp required
    cases value with
    | str found =>
        simp only [asSha256] at shown
        split at shown
        · next hash =>
          cases shown
          exact hash
        · cases shown
    | _ => cases shown
  simp only [exportFinalReport, Option.bind_eq_bind, Option.bind_eq_some_iff, Option.pure_def, Option.some.injEq] at read
  obtain ⟨document, _, _, _, _, _, _, _, _, _, decision, decided, outcome, outcomeRead, _, bound, _, _, _, _, evidence,
    evidenceRead, _, _, _, _, _, _, _, _, _, _, _, _, _, _, _, _, rfl⟩ := read
  refine ⟨?_, shaped evidenceRead, ?_⟩
  · have same : outcome = platform.sha256 outcomeBytes := by
      by_contra other
      simp [guard, other] at bound
    exact same ▸ shaped outcomeRead
  · simp only [requireOneOf, Option.bind_eq_bind, Option.bind_eq_some_iff, Option.pure_def, Option.some.injEq] at decided
    obtain ⟨value, _, _, member, rfl⟩ := decided
    by_contra other
    simp [guard, other] at member

section
variable {hashes : OutcomeHashes} {evaluation : Evaluation} {cold warm : LaneReport} {pooled first second : List (Text × Nat)}
  (reports : evaluation.lanes = [cold, warm]) (coldLane : cold.lane = .cold) (warmLane : warm.lane = .warmPrefix)
  (samePooled : SameFigures pooled evaluation.pooled.document) (sameFirst : SameFigures first cold.summary.document)
  (sameSecond : SameFigures second warm.summary.document)
  (printed : (Value.obj (hashes.outcome evaluation)).printable = true)

theorem length_ofNat_of_printable {n : Nat} (printable : (Value.int n).printable = true) : (Text.ofNat n).length ≤ 4300 :=
  of_decide_eq_true printable

theorem ofNat_word (n : Nat) : publicWord (Text.ofNat n) = true := by
  have digits : ∀ c ∈ Text.ofNat n, c.val < 0x7f ∧ c ≠ codePoint '/' := by
    have digit (d : Nat) : (Text.digitChar d).val < 0x7f ∧ Text.digitChar d ≠ codePoint '/' := by
      have small : d % 10 < 10 := Nat.mod_lt _ (by decide)
      unfold Text.digitChar
      generalize d % 10 = r at small
      interval_cases r <;> decide
    intro c member
    unfold Text.ofNat at member
    split at member
    · rw [List.mem_singleton.mp member]
      exact digit 0
    · obtain ⟨d, _, rfl⟩ := List.mem_map.mp member
      exact digit d
  exact Bool.and_eq_true_iff.mpr ⟨plain_iff.mpr fun c inside => (digits c inside).1,
    List.all_eq_true.mpr fun c inside => decide_eq_true (digits c inside).2⟩

include printed in
theorem evaluation_printable : (Value.obj evaluation.document).printable = true :=
  printable_get? "evaluator" printed rfl

include printed in
theorem exportedMcnemar_presentable :
    Presentable platform 80000 (.obj (projectionOf hashes evaluation pooled []).mcnemar.document) := by
  have mcnemar : (Value.obj evaluation.mcnemarDocument).printable = true :=
    printable_get? "mcnemar" (evaluation_printable printed) rfl
  have digits {n : Nat} (printable : (Value.int n).printable = true) :
      Presentable platform 26000 (.str (Text.ofNat n)) :=
    (presentable_str (ofNat_word n)).mono (by
      have bound := length_ofNat_of_printable printable
      omega)
  have numerator := digits (printable_get? "one_sided_tail_numerator" mcnemar rfl)
  have denominator := digits (printable_get? "one_sided_tail_denominator" mcnemar rfl)
  exact presentable_fields exportedMcnemarEntries layouts_fit.exportedMcnemar
    (.cons ⟨rfl, presentable_int _⟩ (.cons ⟨rfl, presentable_int _⟩ (.cons ⟨rfl, presentable_int _⟩
      (.cons ⟨rfl, presentable_bool _⟩ (.cons ⟨rfl, numerator⟩ (.cons ⟨rfl, denominator⟩ .nil))))))

theorem exportedGates_presentable (status : ConditionalStatus) (safety efficacy time promotion : Bool) :
    Presentable platform 3000 (.obj (ExportedGates.document ⟨safety, efficacy, time, promotion, status.name⟩)) := by
  have bool (b : Bool) : Presentable platform 386 (.bool b) := (presentable_bool b).mono (by norm_num)
  exact presentable_fields exportedGatesEntries layouts_fit.exportedGates
    (.cons ⟨rfl, bool _⟩ (.cons ⟨rfl, bool _⟩ (.cons ⟨rfl, bool _⟩ (.cons ⟨rfl, bool _⟩
      (.cons ⟨rfl, status_presentable status⟩ .nil)))))

include reports coldLane warmLane in
theorem exportedConditional_presentable :
    Presentable platform 1300 (.obj (projectionOf hashes evaluation pooled []).conditionalLatency.document) := by
  have lanes : (ExportedConditional.mk evaluation.gates.conditionalLatencyDiagnostic.name (evaluation.lanes.map fun report =>
      (report.lane.name, report.conditional.name))).document =
      [(Text.literal "status", Value.str evaluation.gates.conditionalLatencyDiagnostic.name), (Text.literal "lanes",
        .obj (laneObject (.str cold.conditional.name) (.str warm.conditional.name)))] := by
    simp only [ExportedConditional.document, reports, List.map_cons, List.map_nil, coldLane, warmLane]
    rfl
  change Presentable platform 1300 (.obj (ExportedConditional.mk _ _).document)
  rw [lanes]
  exact presentable_fields conditionalEntries layouts_fit.conditional
    (.cons ⟨rfl, status_presentable _⟩
      (.cons ⟨rfl, laneObject_presentable (status_presentable _) (status_presentable _)⟩ .nil))

include coldLane warmLane samePooled sameFirst sameSecond printed reports in
/-- The result of a published projection. -/
theorem result_presentable {report : FinalReport} {operational : OperationalEvidence} {bytes reportBytes evidenceBytes : Bytes}
    (bound : WellFormed platform hashes evaluation bytes reportBytes evidenceBytes report operational) :
    Presentable platform 1000000 (.obj (publicResult (platform.sha256 bytes)
      (projectionOf hashes evaluation pooled [(Text.literal "cold", first), (Text.literal "warm-prefix", second)]) report
      operational)) := by
  obtain ⟨outcomeHash, evidenceHash, decided⟩ := exportFinalReport_facts bound.report_read
  have reconciliations : Presentable platform 3200 (.arr (hashes.reconciliations.map .str)) :=
    reconciliations_presentable hashes
  have provenance : Presentable platform 6000 (.obj
      [("source_outcome_sha256", .str (platform.sha256 bytes)), ("campaign_manifest_sha256", .str hashes.manifestSha256),
        ("head_event_sha256", .str hashes.headEventSha256),
        ("proxy_reconciliation_sha256s", .arr (hashes.reconciliations.map .str)),
        ("operational_evidence_sha256", .str report.operationalEvidenceSha256)]) :=
    presentable_fields provenanceEntries layouts_fit.provenance
      (.cons ⟨rfl, sha256_presentable outcomeHash⟩ (.cons ⟨rfl, sha256_presentable hashes.manifest⟩
        (.cons ⟨rfl, sha256_presentable hashes.head⟩ (.cons ⟨rfl, reconciliations⟩
          (.cons ⟨rfl, sha256_presentable evidenceHash⟩ .nil)))))
  have scored : Presentable platform 386
      (.str (if evaluation.gates.promotionPassed then Text.literal "scored_passed" else Text.literal "scored_failed")) := by
    split <;> exact word_presentable (by decide) (by decide)
  have final : Presentable platform 386 (.str report.finalDecision) := by
    simp only [finalDecisions, List.mem_cons, List.not_mem_nil, or_false] at decided
    rcases decided with same | same | same <;> rw [same] <;> exact word_presentable (by decide) (by decide)
  have category : Presentable platform 386 ((projectionOf hashes evaluation pooled []).failureCategory.elim .null .str) := by
    unfold projectionOf
    split
    · exact presentable_null.mono (by norm_num)
    · exact word_presentable (by decide) (by decide)
  have lanes : Presentable platform (30 + 2 * summaryRoom)
      (.obj (laneObject (.obj (first.map natField)) (.obj (second.map natField)))) :=
    laneObject_presentable sameFirst.presentable sameSecond.presentable
  have conditional : Presentable platform 1300 (.obj (projectionOf hashes evaluation pooled []).conditionalLatency.document) :=
    exportedConditional_presentable reports coldLane warmLane
  have mcnemar : Presentable platform 80000 (.obj (projectionOf hashes evaluation pooled []).mcnemar.document) :=
    exportedMcnemar_presentable printed
  have qualification : Presentable platform 400000 (.obj ((projectionOf hashes evaluation pooled
      [(Text.literal "cold", first), (Text.literal "warm-prefix", second)]).qualification report.finalDecision)) :=
    presentable_fields qualificationEntries layouts_fit.qualification
      (.cons ⟨rfl, word_presentable (by decide) (by decide)⟩ (.cons ⟨rfl, scored⟩ (.cons ⟨rfl, final⟩
      (.cons ⟨rfl, category⟩ (.cons ⟨rfl, small_presentable (by decide)⟩ (.cons ⟨rfl, small_presentable (by decide)⟩
      (.cons ⟨rfl, small_presentable (by decide)⟩ (.cons ⟨rfl, small_presentable (by decide)⟩
      (.cons ⟨rfl, contract_presentable⟩ (.cons ⟨rfl, exportedGates_presentable _ _ _ _ _⟩ (.cons ⟨rfl, conditional⟩
      (.cons ⟨rfl, samePooled.presentable⟩ (.cons ⟨rfl, lanes⟩
      (.cons ⟨rfl, mcnemar⟩ .nil))))))))))))))
  have limits : Presentable platform 4000 (.arr (limitations.map .str)) := by
    refine (presentable_arr 1000 fun item member => ?_).mono (by decide)
    simp only [limitations, List.map_cons, List.map_nil, List.mem_cons, List.not_mem_nil, or_false] at member
    rcases member with rfl | rfl | rfl <;>
      (rw [Text.literal_ofList]
       exact (presentable_str (by decide)).mono (by decide +kernel))
  exact presentable_fields resultEntries layouts_fit.result
    (.cons ⟨rfl, word_presentable (by decide) (by decide)⟩ (.cons ⟨rfl, word_presentable (by decide) (by decide)⟩
    (.cons ⟨rfl, provenance⟩ (.cons ⟨rfl, qualification⟩ (.cons ⟨rfl, bound.presentable⟩
    (.cons ⟨rfl, limits⟩ .nil))))))

include coldLane warmLane samePooled sameFirst sameSecond printed reports in
theorem result_printable {report : FinalReport} {operational : OperationalEvidence} {bytes reportBytes evidenceBytes : Bytes}
    (bound : WellFormed platform hashes evaluation bytes reportBytes evidenceBytes report operational) :
    (Value.obj (publicResult (platform.sha256 bytes)
      (projectionOf hashes evaluation pooled [(Text.literal "cold", first), (Text.literal "warm-prefix", second)]) report
      operational)).printable = true := by
  have evaluated := evaluation_printable printed
  have lanes : (Value.obj (laneObject (.obj cold.summary.document) (.obj warm.summary.document))).printable = true := by
    refine printable_get? "lanes" evaluated ?_
    simp only [Evaluation.document, reports, byLane_reports coldLane warmLane]
    rfl
  have pooledPrints := samePooled.printable (printable_get? "pooled" evaluated rfl)
  have firstPrints := sameFirst.printable (printable_get? "cold" lanes rfl)
  have secondPrints := sameSecond.printable (printable_get? "warm-prefix" lanes rfl)
  have mcnemar : (Value.obj evaluation.mcnemarDocument).printable = true := printable_get? "mcnemar" evaluated rfl
  have directOnly := printable_get? "direct_only_success_count" mcnemar rfl
  have proxyOnly := printable_get? "proxy_only_success_count" mcnemar rfl
  have discordant := printable_get? "discordant_pair_count" mcnemar rfl
  have texts (words : List Text) : (Value.arr (words.map .str)).printable = true :=
    printableItems_iff.mpr fun item member => by
      obtain ⟨word, _, rfl⟩ := List.mem_map.mp member
      rfl
  have category : ((projectionOf hashes evaluation pooled []).failureCategory.elim Value.null Value.str).printable = true := by
    unfold projectionOf
    split <;> rfl
  have gates : (Value.obj (projectionOf hashes evaluation pooled []).gates.document).printable = true := rfl
  have conditional : (Value.obj (projectionOf hashes evaluation pooled []).conditionalLatency.document).printable = true := by
    refine printable_cons rfl (printable_cons (printableFields_iff.mpr fun field member => ?_) rfl)
    obtain ⟨lane, _, rfl⟩ := List.mem_map.mp member
    rfl
  have qualification : (Value.obj ((projectionOf hashes evaluation pooled
      [(Text.literal "cold", first), (Text.literal "warm-prefix", second)]).qualification report.finalDecision)).printable =
      true :=
    printable_cons rfl (printable_cons rfl (printable_cons rfl (printable_cons category (printable_cons rfl
      (printable_cons rfl (printable_cons rfl (printable_cons rfl (printable_cons contract_printable
      (printable_cons gates (printable_cons conditional (printable_cons pooledPrints
      (printable_cons (printable_cons firstPrints (printable_cons secondPrints rfl))
      (printable_cons (printable_cons directOnly (printable_cons proxyOnly (printable_cons discordant rfl))) rfl)))))))))))))
  have provenance : (Value.obj
      [("source_outcome_sha256", .str (platform.sha256 bytes)), ("campaign_manifest_sha256", .str hashes.manifestSha256),
        ("head_event_sha256", .str hashes.headEventSha256),
        ("proxy_reconciliation_sha256s", .arr (hashes.reconciliations.map .str)),
        ("operational_evidence_sha256", .str report.operationalEvidenceSha256)]).printable = true :=
    printable_cons rfl (printable_cons rfl (printable_cons rfl (printable_cons (texts hashes.reconciliations) rfl)))
  exact printable_cons rfl (printable_cons rfl (printable_cons provenance (printable_cons qualification
    (printable_cons bound.printable (printable_cons (texts limitations) rfl)))))

end

end

end HarnessProxy.Evidence

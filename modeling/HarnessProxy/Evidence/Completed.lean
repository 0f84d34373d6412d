import HarnessProxy.Evidence.Cohort
import HarnessProxy.Evidence.Publication

namespace HarnessProxy.Evidence

open HarnessProxy.Json V2OutcomeRecord

/-! # Completed campaigns and their publication -/

/-! ## Which record sets can be published -/

/-- Both records are about the same case in the same replicate of a lane. -/
structure SameCase (left right : V2OutcomeRecord) : Prop where
  caseOrdinal : left.caseOrdinal = right.caseOrdinal
  replicate : left.replicate = right.replicate
  cacheLane : left.cacheLane = right.cacheLane

/-- What the export needs of a group of records: as many valid cases through the
proxy as without it, a case that both arms solve, and a time that does not
vanish when it is rounded. -/
structure PublishableRecords (records : List V2OutcomeRecord) : Prop where
  proxyNotWorse : (ofArm "direct" records).countP (·.passed) ≤ (ofArm "proxy" records).countP (·.passed)
  bothValid : ∃ direct ∈ ofArm "direct" records, ∃ proxy ∈ ofArm "proxy" records,
    SameCase direct proxy ∧ direct.passed = true ∧ proxy.passed = true
  measurable : ∃ direct ∈ ofArm "direct" records, 0 < Decimal.rounded direct.penalized

/-- The whole record set can be published, and so can each lane. -/
structure Publishable (records : List V2OutcomeRecord) : Prop where
  pooled : PublishableRecords records
  lanes : ∀ lane, PublishableRecords (inLane lane records)

section
variable {records : List V2OutcomeRecord} {pairs : List Pair} (accepted : AcceptedSet records pairs)
include accepted

/-- The other arm of a case is in the same pair. -/
theorem proxy_of_sameCase {pair : Pair} (member : pair ∈ pairs) {proxy : V2OutcomeRecord} (inside : proxy ∈ records)
    (armed : proxy.arm = "proxy") (same : SameCase pair.direct proxy) : pair.proxy = proxy := by
  obtain ⟨lane, replicate, ordinal, matched⟩ := accepted.matches_of_pair member
  have placed := matched.directPlace
  refine eq_of_place accepted.consistent matched.proxyMember inside (matched.proxyPlace.trans ?_)
  simp only [place, Prod.mk.injEq] at placed ⊢
  obtain ⟨ordinals, replicates, _, lanes⟩ := placed
  exact ⟨ordinals.symm.trans same.caseOrdinal, replicates.symm.trans same.replicate, armed.symm,
    lanes.symm.trans same.cacheLane⟩

theorem publishableRecords_iff {pool : List Pair} {rows : List V2OutcomeRecord} (pooled : pool ⊆ pairs)
    (listed : rows ⊆ records) (directs : (pool.map Pair.direct).Perm (ofArm "direct" rows))
    (proxies : (pool.map Pair.proxy).Perm (ofArm "proxy" rows)) : PublishableRecords rows ↔ PublishablePool pool := by
  have counts : (ofArm "direct" rows).countP (·.passed) ≤ (ofArm "proxy" rows).countP (·.passed) ↔
      (pool.countP fun pair => pair.direct.passed) ≤ pool.countP fun pair => pair.proxy.passed := by
    rw [← directs.countP_eq, ← proxies.countP_eq, List.countP_map, List.countP_map]
    rfl
  have inDirects {pair : Pair} (member : pair ∈ pool) : pair.direct ∈ ofArm "direct" rows :=
    directs.mem_iff.mp (List.mem_map_of_mem member)
  have inProxies {pair : Pair} (member : pair ∈ pool) : pair.proxy ∈ ofArm "proxy" rows :=
    proxies.mem_iff.mp (List.mem_map_of_mem member)
  have ofDirect {direct : V2OutcomeRecord} (member : direct ∈ ofArm "direct" rows) : ∃ pair ∈ pool, pair.direct = direct :=
    List.mem_map.mp (directs.mem_iff.mpr member)
  constructor
  · rintro ⟨proxyNotWorse, ⟨direct, directMember, proxy, proxyMember, same, directPassed, proxyPassed⟩, slow, slowMember,
      positive⟩
    refine ⟨counts.mp proxyNotWorse, ?_, ?_⟩
    · obtain ⟨pair, member, rfl⟩ := ofDirect directMember
      obtain ⟨inRows, armed⟩ := List.mem_filter.mp proxyMember
      have other := proxy_of_sameCase accepted (pooled member) (listed inRows) (of_decide_eq_true armed) same
      exact ⟨pair, member, Bool.and_eq_true_iff.mpr ⟨directPassed, other ▸ proxyPassed⟩⟩
    · obtain ⟨pair, member, rfl⟩ := ofDirect slowMember
      exact ⟨pair, member, positive⟩
  · rintro ⟨proxyNotWorse, ⟨pair, member, bothValid⟩, slow, slowMember, positive⟩
    refine ⟨counts.mpr proxyNotWorse, ?_, slow.direct, inDirects slowMember, positive⟩
    obtain ⟨directPassed, proxyPassed⟩ := Bool.and_eq_true_iff.mp bothValid
    obtain ⟨lane, replicate, ordinal, matched⟩ := accepted.matches_of_pair (pooled member)
    have left := matched.directPlace
    have right := matched.proxyPlace
    simp only [place, Prod.mk.injEq] at left right
    exact ⟨pair.direct, inDirects member, pair.proxy, inProxies member,
      ⟨left.1.trans right.1.symm, left.2.1.trans right.2.1.symm, left.2.2.2.trans right.2.2.2.symm⟩, directPassed,
      proxyPassed⟩

theorem publishable_iff : Publishable records ↔ PublishablePairs pairs := by
  have whole := publishableRecords_iff accepted (List.Subset.refl pairs) (List.Subset.refl records)
    (side_perm accepted directSide) (side_perm accepted proxySide)
  have lane (lane : Lane) : PublishableRecords (inLane lane records) ↔ PublishablePool (ofLane pairs lane) :=
    publishableRecords_iff accepted (List.filter_subset_self _) (List.filter_subset_self _)
      (side_perm_lane accepted directSide lane) (side_perm_lane accepted proxySide lane)
  exact ⟨fun publishable => ⟨whole.mp publishable.pooled, fun one => (lane one).mp (publishable.lanes one)⟩,
    fun publishable => ⟨whole.mpr publishable.pooled, fun one => (lane one).mpr (publishable.lanes one)⟩⟩

end

/-! ## Files -/

section
variable {platform : ExportPlatform}

theorem loadJson_eq {payload : Bytes} {fields : Object} (positive : 0 < payload.length)
    (small : payload.length ≤ maxOutcomeBytes) (loaded : loadUnique platform.py platform.wide payload = some (.obj fields)) :
    loadJson platform payload = some fields := by
  rw [loadJson, guard_true ⟨positive, small⟩, loaded]
  rfl

theorem loadJson_document (document : AsciiDocument platform.py) (small : (Value.obj document.fields).room < maxOutcomeBytes) :
    loadJson platform document.bytes = some document.fields.canonical := by
  have bound := document.length_text_le
  have length := document.length_bytes
  exact loadJson_eq (by omega) (by omega) (document.loadUnique_bytes platform.wide)

/-- A presentable result passes the scan of its text. -/
theorem assertPublicSafe_eq {result : Object} (presentable : Presentable platform 1000000 (.obj result))
    (printable : (Value.obj result).printable = true) : assertPublicSafe platform result = some () := by
  let document : AsciiDocument platform.py := ⟨result, presentable.clean, printable, presentable.ascii⟩
  have payload : (dumps true (.obj result)).flatMap encodeChar = document.row.bytes := by
    rw [dumps_ascii true presentable.ascii]
    rfl
  have bound := document.length_text_le.trans presentable.room
  have length := document.length_line
  have positive := List.length_pos_iff.mpr document.row.bytes_ne_nil
  have loaded : loadJson platform document.row.bytes = some result.canonical :=
    loadJson_eq positive (by unfold maxOutcomeBytes; omega) (document.loadUnique_line platform.wide)
  have scanned := scanPublic_canonical presentable.shown
  simp only [assertPublicSafe, guard_true printable, payload, loaded, Option.bind_eq_bind, Option.bind_some]
  exact guard_true scanned

end

/-! ## Publication -/

/-- The result shows the figures that the evaluator computed. -/
def ResultShows (result : Object) (evaluation : Evaluation) : Prop :=
  ∃ projection before, Shows projection evaluation ∧ result.get? "qualification" = some (.obj (before ++ projection.figures))

/-- The outcome file passes the checks of the export, and every well-formed
report about it leads to a public result with the figures of the evaluator. -/
structure Published (platform : ExportPlatform) (hashes : OutcomeHashes) (evaluation : Evaluation) (outcomeBytes : Bytes) :
    Prop where
  projected : ∃ outcome projection, loadJson platform outcomeBytes = some outcome ∧
    projectOutcome platform outcome = some projection ∧ Shows projection evaluation
  exported : ∀ reportBytes evidenceBytes report operational,
    WellFormed platform hashes evaluation outcomeBytes reportBytes evidenceBytes report operational →
      ∃ result, publicQualificationResult platform outcomeBytes reportBytes evidenceBytes = some result ∧
        ResultShows result evaluation

section
variable (platform : ExportPlatform) (hashes : OutcomeHashes) {records : List V2OutcomeRecord} {pairs : List Pair}
  {evaluation : Evaluation} {outcomeBytes : Bytes} (computed : EvaluationOf pairs evaluation)
  (written : fileBytes (hashes.outcome evaluation) = .ok outcomeBytes)
include computed written

theorem outcome_written : (Value.obj (hashes.outcome evaluation)).printable = true ∧
    loadJson platform outcomeBytes = some (Object.canonical (hashes.outcome evaluation)) := by
  have printable : (Value.obj (hashes.outcome evaluation)).printable = true := by
    by_contra unprintable
    rw [fileBytes, if_neg unprintable] at written
    cases written
  obtain ⟨cold, warm, reports, coldLane, warmLane, _, _⟩ := computed.reports
  have presentable : Presentable platform 1040000 (.obj (hashes.outcome evaluation)) :=
    outcome_presentable reports coldLane warmLane computed.replicates hashes
  let document : AsciiDocument platform.py := ⟨hashes.outcome evaluation, presentable.clean, printable, presentable.ascii⟩
  have same : outcomeBytes = document.bytes := Except.ok.inj (written.symm.trans document.fileBytes_eq)
  have room : (Value.obj document.fields).room < maxOutcomeBytes := lt_of_le_of_lt presentable.room (by decide)
  exact ⟨printable, same ▸ loadJson_document document room⟩

/-- A projection that shows the evaluation is exported. -/
theorem exported_of_projection {projection : OutcomeProjection} {pooled : List (Text × Nat)}
    {lanes : List (Text × List (Text × Nat))} (same : projection = projectionOf hashes evaluation pooled lanes)
    (shown : Shows projection evaluation)
    (projected : projectOutcome platform (Object.canonical (hashes.outcome evaluation)) = some projection)
    {reportBytes evidenceBytes : Bytes} {report : FinalReport} {operational : OperationalEvidence}
    (bound : WellFormed platform hashes evaluation outcomeBytes reportBytes evidenceBytes report operational) :
    publicQualificationResult platform outcomeBytes reportBytes evidenceBytes =
      some (publicResult (platform.sha256 outcomeBytes) projection report operational) := by
  subst same
  obtain ⟨printed, loaded⟩ := outcome_written platform hashes computed written
  obtain ⟨cold, warm, reports, coldLane, warmLane, _, _⟩ := computed.reports
  have laneFigures : ∃ first second, lanes = [(Text.literal "cold", first), (Text.literal "warm-prefix", second)] ∧
      SameFigures first cold.summary.document ∧ SameFigures second warm.summary.document := by
    have related := shown.lanes
    rw [SameLanes, reports] at related
    change List.Forall₂ _ [cold, warm] lanes at related
    cases related with
    | @cons _ first _ rest head tail =>
        cases tail with
        | @cons _ second _ rest next tail =>
            cases tail
            obtain ⟨firstName, firstFigures⟩ := first
            obtain ⟨secondName, secondFigures⟩ := second
            obtain ⟨firstNamed, firstSame⟩ := head
            obtain ⟨secondNamed, secondSame⟩ := next
            rw [coldLane] at firstNamed
            rw [warmLane] at secondNamed
            cases firstNamed
            cases secondNamed
            exact ⟨firstFigures, secondFigures, rfl, firstSame, secondSame⟩
  obtain ⟨first, second, rfl, sameFirst, sameSecond⟩ := laneFigures
  have samePooled : SameFigures pooled evaluation.pooled.document := shown.pooled
  have safe := assertPublicSafe_eq (result_presentable reports coldLane warmLane samePooled sameFirst sameSecond printed bound)
    (result_printable reports coldLane warmLane samePooled sameFirst sameSecond printed bound)
  have decision : validateFinalDecision report evaluation.gates.promotionPassed
      (projectionOf hashes evaluation pooled [(Text.literal "cold", first), (Text.literal "warm-prefix", second)]).gates
      operational.gates = some () := by
    refine guard_true ?_
    by_cases promoted : report.finalDecision = "PROMOTE"
    · obtain ⟨passed, gates, decode, amplification, reconciliation⟩ := bound.decision promoted
      have scored := passed
      simp only [Gates.promotionPassed, Bool.and_eq_true] at scored
      refine .inr ?_
      simp only [projectionOf, passed, gates, decode, amplification, reconciliation, scored, Bool.and_self]
    · exact .inl promoted
  unfold publicQualificationResult
  rw [loaded]
  simp only [Option.bind_eq_bind, Option.bind_some, projected]
  have manifest : (projectionOf hashes evaluation pooled
    [(Text.literal "cold", first), (Text.literal "warm-prefix", second)]).manifestSha256 = hashes.manifestSha256 := rfl
  have head : (projectionOf hashes evaluation pooled
    [(Text.literal "cold", first), (Text.literal "warm-prefix", second)]).headEventSha256 = hashes.headEventSha256 := rfl
  have passed : (projectionOf hashes evaluation pooled
    [(Text.literal "cold", first), (Text.literal "warm-prefix", second)]).scoredPassed = evaluation.gates.promotionPassed := rfl
  rw [manifest, bound.report_read, Option.bind_some, head, bound.evidence_read, Option.bind_some, guard_true bound.same_gates,
    Option.bind_some, passed, decision, Option.bind_some, safe, Option.bind_some]
  rfl

/-- A passed projection is enough for the whole export. -/
theorem published_of_projection {projection : OutcomeProjection} {pooled : List (Text × Nat)}
    {lanes : List (Text × List (Text × Nat))} (same : projection = projectionOf hashes evaluation pooled lanes)
    (shown : Shows projection evaluation)
    (projected : projectOutcome platform (Object.canonical (hashes.outcome evaluation)) = some projection) :
    Published platform hashes evaluation outcomeBytes where
  projected := ⟨_, projection, (outcome_written platform hashes computed written).2, projected, shown⟩
  exported _ _ report _ bound :=
    ⟨_, exported_of_projection platform hashes computed written same shown projected bound, projection,
      projection.decisions report.finalDecision ++ expectedCounts.map natField, shown, rfl⟩

end

/-- Every outcome is valid and takes a second, but the proxy misses the first
case of every replicate. -/
def losingRecord (arm : Text) (position : Lane × Nat × Nat) : V2OutcomeRecord where
  caseOrdinal := position.2.2
  cacheLane := position.1.name
  replicate := position.2.1
  arm := arm
  passed := arm = "direct" || 1 < position.2.2
  wallS := .finite 1 0
  deadlineS := .finite 1 0
  criticalIntegrityViolation := false

def losingRecords : List V2OutcomeRecord :=
  cohort.flatMap fun position => [losingRecord "direct" position, losingRecord "proxy" position]

def losingPairs : List Pair :=
  cohort.map fun position => ⟨position.1, position.2.1, losingRecord "direct" position, losingRecord "proxy" position⟩

theorem losing_accepted : AcceptedSet losingRecords losingPairs :=
  cohort_accepted losingRecord (fun _ _ => rfl) (fun _ _ => rfl) fun _ member =>
    ⟨validRecord_at member rfl (.inl rfl) rfl rfl le_rfl, validRecord_at member rfl (.inr rfl) rfl rfl le_rfl⟩

/-- The figures of a group of rows. -/
def losingSummary (rows lost : Nat) : Summary where
  rowCount := rows
  directValidCount := rows
  proxyValidCount := rows - lost
  successDeltaPpm := -((lost : Int) * 1000000) / rows
  directOnlySuccessCount := lost
  proxyOnlySuccessCount := 0
  proxyOnlyCriticalIntegrityViolationCount := 0
  bothValidCount := rows - lost
  conditional := ⟨some 1000000, some 1000000, some 1000000⟩
  directPenalizedMeanWallUs := 1000000
  proxyPenalizedMeanWallUs := 1000000
  penalizedMeanRatioPpm := some 1000000
  directPercentiles := ⟨1000000, 1000000, 1000000⟩
  proxyPercentiles := ⟨1000000, 1000000, 1000000⟩
  directLoss := rows
  proxyLoss := rows

def losingLane (lane : Lane) : LaneReport where
  lane := lane
  summary := losingSummary 120 4
  conditional := .passed
  replicates := (List.range' 1 replicatesPerLane).map fun replicate => ⟨replicate, losingSummary 30 1, false, false⟩
  timePass := false

def losingEvaluation : Evaluation where
  pooled := losingSummary 240 8
  lanes := lanes.map losingLane
  mcnemar := exactOneSidedMcnemar 0 8
  supportsProxyBenefit := false
  gates := ⟨true, false, false, .passed⟩

theorem mem_losingPairs {pair : Pair} (member : pair ∈ losingPairs) : ∃ position : Lane × Nat × Nat,
    pair = ⟨position.1, position.2.1, losingRecord "direct" position, losingRecord "proxy" position⟩ := by
  obtain ⟨position, _, rfl⟩ := List.mem_map.mp member
  exact ⟨position, rfl⟩

/-! Every time is one second, so a summary depends on two counts only. -/

theorem fix_small {n : Nat} (small : n < 241) : Decimal.fix n = .ok n := by
  have all : ∀ n ∈ List.range 241, Decimal.fix ((n : Nat) : ℚ) = .ok ((n : Nat) : ℚ) := by decide +kernel
  exact all n (List.mem_range.mpr small)

theorem sumDecimals_ones (rows total : Nat) (small : total + rows < 241) :
    sumDecimals total (List.replicate rows 1) = .ok ((total + rows : Nat) : ℚ) := by
  induction rows generalizing total with
  | zero => rfl
  | succ rows ih =>
      have added : Decimal.add (total : ℚ) 1 = .ok ((total + 1 : Nat) : ℚ) := by
        rw [Decimal.add, ← fix_small (by omega), Nat.cast_succ]
      have step : sumDecimals (total : ℚ) (List.replicate (rows + 1) 1) =
          sumDecimals ((total + 1 : Nat) : ℚ) (List.replicate rows 1) := by
        rw [List.replicate_succ, sumDecimals, added]
        rfl
      rw [step, ih (total + 1) (by omega), Nat.add_right_comm, Nat.add_assoc]

theorem sortedAt_ones {rows index : Nat} (inside : index < rows) : sortedAt (List.replicate rows 1) index = 1 := by
  have sorted : (List.replicate rows (1 : ℚ)).insertionSort (· ≤ ·) = List.replicate rows 1 :=
    List.perm_replicate.mp (List.perm_insertionSort _ _)
  rw [sortedAt, sorted, List.getD_eq_getElem?_getD, List.getElem?_replicate_of_lt inside, Option.getD_some]

theorem percentile_ones {rows : Nat} (nonempty : 0 < rows) {percentilePpm : Nat} (partial_ : percentilePpm ≤ 1000000) :
    percentile (List.replicate rows 1) percentilePpm = 1 := by
  have index : (rows - 1) * percentilePpm / 1000000 ≤ rows - 1 :=
    Nat.div_le_of_le_mul (by rw [Nat.mul_comm 1000000]; exact Nat.mul_le_mul_left _ partial_)
  rw [percentile, List.length_replicate, sortedAt_ones (by omega)]

theorem p95_ones {rows : Nat} (nonempty : 0 < rows) : p95 (List.replicate rows 1) = some 1 := by
  have index : (rows - 1) * 95 / 100 ≤ rows - 1 := by omega
  have filled : List.replicate rows (1 : ℚ) ≠ [] := by
    rw [Ne, List.replicate_eq_nil_iff]
    omega
  rw [p95, if_neg filled, List.length_replicate, sortedAt_ones (by omega)]

/-- Some of the losing pairs, with as many lost cases. -/
structure LosingGroup (pairs : List Pair) (rows lost : Nat) : Prop where
  subset : pairs ⊆ losingPairs
  rows_eq : pairs.length = rows
  lost_eq : pairs.countP Pair.directOnly = lost
  valid_eq : (pairs.filter Pair.bothValid).length = rows - lost
  proxy_eq : pairs.countP (fun pair => pair.proxy.passed) = rows - lost
  some_valid : lost < rows
  known : rows = 30 ∨ rows = 120 ∨ rows = 240

theorem LosingGroup.ones {pairs : List Pair} {rows lost : Nat} (group : LosingGroup pairs rows lost) {part : List Pair}
    (subset : part ⊆ pairs) {time : Pair → ℚ} (second : ∀ position : Lane × Nat × Nat,
      time ⟨position.1, position.2.1, losingRecord "direct" position, losingRecord "proxy" position⟩ = 1) :
    part.map time = List.replicate part.length 1 := by
  refine List.eq_replicate_iff.mpr ⟨List.length_map _, fun value member => ?_⟩
  obtain ⟨pair, inside, rfl⟩ := List.mem_map.mp member
  obtain ⟨position, rfl⟩ := mem_losingPairs (group.subset (subset inside))
  exact second position

theorem losing_second : Decimal.value (.finite 1 0) = 1 := by decide +kernel

theorem losing_penalized (arm : Text) (position : Lane × Nat × Nat) : (losingRecord arm position).penalized = 1 := by
  simp only [V2OutcomeRecord.penalized, losingRecord, losing_second, ite_self]

theorem LosingGroup.summarized {pairs : List Pair} {rows lost : Nat} (group : LosingGroup pairs rows lost) :
    summarizePairs pairs = .ok (losingSummary rows lost) := by
  have ⟨_, rowsEq, lostEq, validEq, proxyEq, someValid, known⟩ := group
  have nonempty : pairs ≠ [] := by
    rintro rfl
    simp only [List.length_nil] at rowsEq
    omega
  have direct : (pairs.map fun pair => pair.direct.penalized) = List.replicate rows 1 :=
    rowsEq ▸ group.ones (List.Subset.refl _) (losing_penalized "direct")
  have proxy : (pairs.map fun pair => pair.proxy.penalized) = List.replicate rows 1 :=
    rowsEq ▸ group.ones (List.Subset.refl _) (losing_penalized "proxy")
  have directValid : ((pairs.filter Pair.bothValid).map fun pair => pair.direct.wallS.value) = List.replicate (rows - lost) 1 :=
    validEq ▸ group.ones (List.filter_subset_self _) fun _ => losing_second
  have proxyValid : ((pairs.filter Pair.bothValid).map fun pair => pair.proxy.wallS.value) = List.replicate (rows - lost) 1 :=
    validEq ▸ group.ones (List.filter_subset_self _) fun _ => losing_second
  have sum : sumDecimals 0 (List.replicate rows 1) = .ok (rows : ℚ) := by
    have counted := sumDecimals_ones rows 0 (by omega)
    rwa [Nat.zero_add, Nat.cast_zero] at counted
  have percentiles : penalizedPercentiles (List.replicate rows 1) = .ok ⟨1000000, 1000000, 1000000⟩ := by
    simp only [penalizedPercentiles, percentile_ones (by omega : 0 < rows) (by decide : 500000 ≤ 1000000),
      percentile_ones (by omega : 0 < rows) (by decide : 950000 ≤ 1000000),
      percentile_ones (by omega : 0 < rows) (by decide : 990000 ≤ 1000000)]
    decide +kernel
  have mean : meanMicroseconds rows rows = .ok 1000000 := by rcases known with rfl | rfl | rfl <;> decide +kernel
  have ratio : ratioPpm (some (rows : ℚ)) (some (rows : ℚ)) = .ok (some 1000000) := by
    rcases known with rfl | rfl | rfl <;> decide +kernel
  have walls : conditional (some 1) (some 1) = .ok ⟨some 1000000, some 1000000, some 1000000⟩ := by decide +kernel
  have passed : pairs.countP (fun pair => pair.direct.passed) = rows := by
    rw [← rowsEq, List.countP_eq_length]
    intro pair member
    obtain ⟨position, rfl⟩ := mem_losingPairs (group.subset member)
    rfl
  have none {counted : Pair → Bool} (never : ∀ position : Lane × Nat × Nat,
      counted ⟨position.1, position.2.1, losingRecord "direct" position, losingRecord "proxy" position⟩ = false) :
      pairs.countP counted = 0 := by
    rw [List.countP_eq_zero]
    intro pair member
    obtain ⟨position, rfl⟩ := mem_losingPairs (group.subset member)
    simp [never position]
  have proxyOnly : pairs.countP Pair.proxyOnly = 0 := none fun position => by
    simp only [Pair.proxyOnly, losingRecord, decide_true, Bool.true_or, Bool.not_true, Bool.and_false]
  have critical : pairs.countP Pair.proxyOnlyCritical = 0 := none fun _ => rfl
  have delta : ((rows - lost : Nat) : Int) - rows = -lost := by omega
  have lifted {α : Type} {computed : Except DecimalError α} {result : α} (ran : computed = .ok result) :
      liftDecimal computed = .ok result := by
    rw [ran]
    rfl
  have p95s := p95_ones (by omega : 0 < rows - lost)
  simp only [summarizePairs, direct, proxy, directValid, proxyValid, p95s, bind_eq_ok, raiseIf_eq_ok,
    decide_eq_false_iff_not, passed, proxyEq, rowsEq, lostEq, validEq, proxyOnly, critical, delta]
  refine ⟨(), nonempty, _, lifted sum, _, lifted sum, _, lifted walls, _, lifted mean, _, lifted mean, _, lifted ratio, _,
    lifted percentiles, _, lifted percentiles, ?_⟩
  rw [Int.neg_mul, losingSummary]
  rfl

theorem losing_pooled : summarizePairs losingPairs = .ok (losingSummary 240 8) :=
  LosingGroup.summarized ⟨List.Subset.refl _, by decide +kernel, by decide +kernel, by decide +kernel, by decide +kernel,
    by decide, by decide⟩

theorem losing_lane (lane : Lane) : summarizePairs (losingPairs.filter fun pair => pair.lane = lane) =
    .ok (losingSummary 120 4) := by
  apply LosingGroup.summarized
  cases lane <;>
    exact ⟨List.filter_subset_self _, by decide +kernel, by decide, by decide, by decide +kernel, by decide,
      by decide⟩

theorem losing_replicate (lane : Lane) {replicate : Nat} (member : replicate ∈ List.range' 1 replicatesPerLane) :
    reportReplicate losingPairs lane replicate = .ok ⟨replicate, losingSummary 30 1, false, false⟩ := by
  have summarized : summarizePairs (losingPairs.filter fun pair => pair.lane = lane ∧ pair.replicate = replicate) =
      .ok (losingSummary 30 1) := by
    apply LosingGroup.summarized
    simp only [replicatesPerLane, List.range', List.mem_cons, List.not_mem_nil, or_false] at member
    cases lane <;> rcases member with rfl | rfl | rfl | rfl <;>
      exact ⟨List.filter_subset_self _, by decide, by decide, by decide, by decide, by decide,
        by decide⟩
  have time : ratioAtMost (losingSummary 30 1) timeReplicateMaxRatioPpm = .ok false := by decide +kernel
  simp only [reportReplicate, bind_eq_ok]
  exact ⟨_, summarized, _, time, rfl⟩

theorem losing_evaluated : evaluateQualificationV2 losingRecords = .ok losingEvaluation := by
  have paired := validateAndPair_eq_ok_iff.mpr losing_accepted
  have reported (lane : Lane) : reportLane losingPairs lane = .ok (losingLane lane) := by
    have replicates : mapEach (reportReplicate losingPairs lane) (List.range' 1 replicatesPerLane) =
        .ok (losingLane lane).replicates :=
      mapEach_eq_ok_iff.mpr (List.forall₂_map_right_iff.mpr (List.forall₂_same.mpr fun _ => losing_replicate lane))
    have time : ratioAtMost (losingSummary 120 4) timeLaneMaxRatioPpm = .ok false := by decide +kernel
    have status : conditionalStatus (losingSummary 120 4) = .ok .passed := rfl
    simp only [reportLane, bind_eq_ok]
    exact ⟨_, losing_lane lane, _, time, _, status, _, replicates, rfl⟩
  have lanesReported : mapEach (reportLane losingPairs) lanes = .ok (lanes.map losingLane) :=
    mapEach_eq_ok_iff.mpr (List.forall₂_map_right_iff.mpr (List.forall₂_same.mpr fun lane _ => reported lane))
  have time : ratioAtMost (losingSummary 240 8) timePooledMaxRatioPpm = .ok false := by decide +kernel
  simp only [evaluateQualificationV2, bind_eq_ok]
  refine ⟨_, paired, _, losing_pooled, _, lanesReported, _, time, ?_⟩
  decide

theorem losing_computed : EvaluationOf losingPairs losingEvaluation := by
  obtain ⟨pairs, accepted, computed⟩ := evaluate_eq_ok losing_evaluated
  have same : pairs = losingPairs :=
    Except.ok.inj ((validateAndPair_eq_ok_iff.mpr accepted).symm.trans (validateAndPair_eq_ok_iff.mpr losing_accepted))
  exact same ▸ computed

/-- Digests that differ in their last digits. -/
def losingHash (n : Nat) : Text := List.replicate 63 (codePoint '0') ++ [hexChar (n % 16)]

def losingHashes : OutcomeHashes where
  manifestSha256 := losingHash 0
  headEventSha256 := losingHash 1
  reconciliations := (List.range 8).map losingHash
  manifest := by decide
  head := by decide
  each := by decide
  count := rfl
  distinct := by decide

/-- A platform whose parameters play no part here. -/
def plainPlatform : ExportPlatform where
  py := Python.reference
  wide := fun _ _ => none
  floatEqual := fun _ _ => false
  sha256 := fun _ => losingHash 2
  isLowerOrDigit := fun _ => false

theorem losing_written : ∃ outcomeBytes, fileBytes (losingHashes.outcome losingEvaluation) = .ok outcomeBytes := by
  have printable : (Value.obj (losingHashes.outcome losingEvaluation)).printable = true := by decide
  obtain ⟨cold, warm, reports, coldLane, warmLane, _, _⟩ := losing_computed.reports
  have presentable : Presentable plainPlatform 1040000 (.obj (losingHashes.outcome losingEvaluation)) :=
    outcome_presentable reports coldLane warmLane losing_computed.replicates losingHashes
  let document : AsciiDocument plainPlatform.py := ⟨_, presentable.clean, printable, presentable.ascii⟩
  exact ⟨_, document.fileBytes_eq⟩

end HarnessProxy.Evidence

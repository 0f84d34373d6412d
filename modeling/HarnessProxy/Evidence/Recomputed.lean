import HarnessProxy.Data.Partition
import HarnessProxy.Evidence.LedgerReaders
import HarnessProxy.Evidence.Promotion

namespace HarnessProxy.Evidence

open HarnessProxy.Json

/-! # The gates from the published figures

A reader of the document has rounded figures only.  They decide every gate as
the evaluator does, and the counts add up.
-/

/-! ## Reading the document -/

def integerAt (fields : Object) (key : Text) : Option Int :=
  match fields.get? key with
  | some (.int value) => some value
  | _ => none

def objectAt (fields : Object) (key : Text) : Option Object := (fields.get? key).bind Value.asObject?

/-- The objects that a dictionary has as values. -/
def members (fields : Object) : Option (List Object) := fields.mapM fun field => field.2.asObject?

def summaries (document : Object) : Option (List Object) := do members (← objectAt document "lanes")

def replicateSummaries (document : Object) : Option (List (List Object)) := do
  (← members (← objectAt document "replicates")).mapM members

/-! ## Tests on rounded figures -/

def deltaAtLeast (thresholdPpm : Int) (summary : Object) : Option Bool :=
  (integerAt summary "success_delta_ppm").map fun delta => decide (thresholdPpm ≤ delta)

def ratioWithin (thresholdPpm : Int) (summary : Object) : Option Bool :=
  (integerAt summary "proxy_to_direct_penalized_mean_ratio_ppm").map fun ratio => decide (ratio ≤ thresholdPpm)

def statusOf (summary : Object) : Option ConditionalStatus := do
  if (← integerAt summary "both_valid_count") < conditionalMinBothValidRows then return .unavailable
  return if (← integerAt summary "conditional_proxy_to_direct_p95_ratio_ppm") ≤ conditionalMaxP95RatioPpm then .passed else .failed

/-- McNemar's test on the published fraction. -/
def fractionBelow (alphaPpm : Int) (mcnemar : Object) : Option Bool := do
  return decide ((← integerAt mcnemar "one_sided_tail_numerator") * 1000000 <
    (← integerAt mcnemar "one_sided_tail_denominator") * alphaPpm)

def allPass (test : Object → Option Bool) (summaries : List Object) : Option Bool := do
  return (← summaries.mapM test).all id

/-- In every group at least so many pass. -/
def enoughPass (minimum : Nat) (test : Object → Option Bool) (groups : List (List Object)) : Option Bool := do
  let results ← groups.mapM fun group => group.mapM test
  return results.all fun passes => decide (minimum ≤ passes.countP id)

/-- The gates as a reader of the document recomputes them. -/
def recomputedGates (document : Object) : Option Object := do
  let pooled ← objectAt document "pooled"
  let lanes ← summaries document
  let replicates ← replicateSummaries document
  let critical ← integerAt pooled "proxy_only_critical_integrity_violation_count"
  let safety := critical = 0 && (← deltaAtLeast qualitySafetyNoninferiorityPpm pooled) &&
    (← allPass (deltaAtLeast qualitySafetyNoninferiorityPpm) lanes)
  let efficacy := (← deltaAtLeast qualityEfficacyBenefitPpm pooled) && (← allPass (deltaAtLeast 0) lanes) &&
    (← enoughPass minQualityNoninferiorReplicates (deltaAtLeast 0) replicates) &&
    (← fractionBelow mcnemarAlphaPpm (← objectAt document "mcnemar"))
  let time := (← ratioWithin timePooledMaxRatioPpm pooled) && (← allPass (ratioWithin timeLaneMaxRatioPpm) lanes) &&
    (← enoughPass minTimePassingReplicates (ratioWithin timeReplicateMaxRatioPpm) replicates)
  return [("quality_safety", .bool safety),
    ("quality_efficacy", .bool efficacy),
    ("unconditional_time_to_valid", .bool time),
    ("conditional_latency_diagnostic", .str (overallConditionalStatus (← lanes.mapM statusOf)).name),
    ("promotion_passed", .bool (safety && efficacy && time))]

/-- The section `conditional_latency`, from the figures of the lanes. -/
def recomputedConditional (document : Object) : Option Object := do
  let lanes ← objectAt document "lanes"
  let states ← lanes.mapM fun field => field.2.asObject?.bind fun summary => (statusOf summary).map (field.1, ·)
  return [("status", .str (overallConditionalStatus (states.map Prod.snd)).name),
    ("lanes", .obj (states.map fun state => (state.1, .str state.2.name)))]

/-- The counts of a summary. -/
def countKeys : List Text :=
  ["row_count", "direct_valid_count", "proxy_valid_count", "direct_only_success_count", "proxy_only_success_count",
    "proxy_only_critical_integrity_violation_count", "both_valid_count"]

/-- A count of a whole is the sum of the counts of its parts. -/
def Adds (key : Text) (whole : Object) (parts : List Object) : Prop :=
  ∃ counts, parts.mapM (integerAt · key) = some counts ∧ integerAt whole key = some counts.sum

structure CountsAdd (document : Object) (key : Text) : Prop where
  pooled : ∃ pooled lanes, objectAt document "pooled" = some pooled ∧ summaries document = some lanes ∧ Adds key pooled lanes
  lanes : ∃ lanes replicates, summaries document = some lanes ∧ replicateSummaries document = some replicates ∧
    List.Forall₂ (Adds key) lanes replicates

/-! ## Rounding decides as the exact figures do -/

section
variable {pairs : List TimedPair} {summary : Summary}

theorem deltaAtLeast_document (nonempty : pairs ≠ []) (figures : Figures pairs summary) (thresholdPpm : Int) :
    deltaAtLeast thresholdPpm summary.document = some (qualityDeltaAtLeast summary thresholdPpm) := by
  have rows : 0 < summary.rowCount := figures.rowCount ▸ List.length_pos_iff.mpr nonempty
  change some (decide (thresholdPpm ≤ summary.successDeltaPpm)) = _
  rw [qualityDeltaAtLeast, figures.successDelta]
  exact congrArg some (decide_eq_decide.mpr (Int.le_ediv_iff_mul_le (by exact_mod_cast rows)))

theorem ceil_ratio_le {numerator denominator : ℚ} (positive : 0 < denominator) (thresholdPpm : Nat) :
    ⌈numerator * 1000000 / denominator⌉ ≤ (thresholdPpm : Int) ↔ numerator * 1000000 ≤ denominator * thresholdPpm := by
  rw [Int.ceil_le, div_le_iff₀ positive, mul_comm denominator]
  rfl

theorem ratioWithin_document (figures : Figures pairs summary) (positive : 0 < summary.directLoss) (thresholdPpm : Nat) :
    ratioWithin thresholdPpm summary.document =
      some (decide (summary.proxyLoss * 1000000 ≤ summary.directLoss * thresholdPpm)) := by
  have rated := figures.ratio
  rw [Timed.ratioPpm, if_neg (not_le.mpr positive)] at rated
  simp only [Timed.divide, if_neg positive.ne', bind, Except.bind, pure, Except.pure, Except.ok.injEq] at rated
  have shown : integerAt summary.document "proxy_to_direct_penalized_mean_ratio_ppm" =
      some ⌈summary.proxyLoss * 1000000 / summary.directLoss⌉ := by
    change (match some (optionalInt summary.penalizedMeanRatioPpm) with | some (.int value) => some value | _ => none) = _
    rw [← rated]
    rfl
  rw [ratioWithin, shown]
  exact congrArg some (decide_eq_decide.mpr (ceil_ratio_le positive thresholdPpm))

theorem statusOf_document {status : ConditionalStatus} (rated : conditionalStatus summary = .ok status) :
    statusOf summary.document = some status := by
  have count : integerAt summary.document "both_valid_count" = some (summary.bothValidCount : Int) := rfl
  have ratio : integerAt summary.document "conditional_proxy_to_direct_p95_ratio_ppm" = summary.conditional.ratio := by
    change (match some (optionalInt summary.conditional.ratio) with | some (.int value) => some value | _ => none) = _
    cases summary.conditional.ratio <;> rfl
  rw [conditionalStatus] at rated
  simp only [statusOf, count, ratio, Option.bind_eq_bind, Option.bind_some, Nat.cast_lt]
  split at rated
  · rename_i few
    rw [if_pos few]
    cases rated
    rfl
  · rename_i enough
    rw [if_neg enough]
    cases found : summary.conditional.ratio with
    | none => rw [found] at rated; cases rated
    | some ratio =>
        rw [found] at rated
        cases rated
        rfl

end

/-! ## The pairs of a complete record set -/

/-- A pair at its place, with positive times. -/
structure PairAt (position : Lane × Nat × Nat) (pair : TimedPair) : Prop where
  lane : pair.lane = position.1
  replicate : pair.replicate = position.2.1
  wall : 0 < pair.direct.wallS
  deadline : 0 < pair.direct.deadlineS

theorem gather_valid {raw records gathered : List TimedRecord} (accepted : Timed.gather raw records = .ok gathered)
    (before : ∀ record ∈ raw, record.valid = true) : ∀ record ∈ gathered, record.valid = true := by
  induction records generalizing raw with
  | nil =>
      cases accepted
      exact before
  | cons record rest ih =>
      simp only [Timed.gather, bind_eq_ok, raiseIf_eq_ok, Bool.not_eq_false'] at accepted
      obtain ⟨_, valid, _, _, _, _, remaining⟩ := accepted
      refine ih remaining (List.forall_mem_append.mpr ⟨before, ?_⟩)
      simpa using valid

theorem selectPair_at {raw : List TimedRecord} (valid : ∀ record ∈ raw, record.valid = true) {position : Lane × Nat × Nat}
    {pair : TimedPair} (selected : Timed.selectPair raw position.1 position.2.1 position.2.2 = .ok pair) : PairAt position pair := by
  unfold Timed.selectPair at selected
  split at selected
  · rename_i direct proxy found _
    split at selected
    · cases selected
    · cases selected
      obtain ⟨_, wall, deadline, _⟩ := TimedRecord.valid_iff.mp (valid direct (List.mem_of_find?_eq_some found))
      exact ⟨rfl, rfl, wall, deadline⟩
  · cases selected

theorem pairs_at {records : List TimedRecord} {pairs : List TimedPair} (complete : Timed.validateAndPair records = .ok pairs) :
    List.Forall₂ PairAt cohort pairs := by
  simp only [Timed.validateAndPair, bind_eq_ok] at complete
  obtain ⟨_, _, raw, gathered, selected⟩ := complete
  exact (mapEach_eq_ok_iff.mp selected).imp fun _ _ => selectPair_at (gather_valid gathered (List.forall_mem_nil _))

section
variable {pairs : List TimedPair} (placed : List.Forall₂ PairAt cohort pairs)
include placed

theorem positions_covered : ∀ pair ∈ pairs, pair.lane ∈ lanes ∧ pair.replicate ∈ List.range' 1 replicatesPerLane := by
  intro pair member
  obtain ⟨position, inside, at_⟩ := forall₂_mem_right placed member
  have all : ∀ position ∈ cohort, position.1 ∈ lanes ∧ position.2.1 ∈ List.range' 1 replicatesPerLane := by decide +kernel
  rw [at_.lane, at_.replicate]
  exact all position inside

theorem times_positive : ∀ pair ∈ pairs, 0 < pair.direct.wallS ∧ 0 < pair.direct.penalized := by
  intro pair member
  obtain ⟨position, _, at_⟩ := forall₂_mem_right placed member
  refine ⟨at_.wall, ?_⟩
  unfold TimedRecord.penalized
  split
  · exact at_.wall
  · exact at_.deadline

/-- Every part of the cohort has pairs. -/
theorem part_nonempty {lane : Lane} {replicate : Nat} (laneListed : lane ∈ lanes)
    (replicateListed : replicate ∈ List.range' 1 replicatesPerLane) :
    ∃ pair ∈ pairs, pair.lane = lane ∧ pair.replicate = replicate := by
  have all : ∀ lane ∈ lanes, ∀ replicate ∈ List.range' 1 replicatesPerLane, (lane, replicate, 1) ∈ cohort := by decide
  obtain ⟨pair, member, at_⟩ := forall₂_mem_right placed.flip (all lane laneListed replicate replicateListed)
  exact ⟨pair, member, at_.lane, at_.replicate⟩

end

/-! ## Reports -/

/-- The rounded figures of the summary decide as the exact ones do. -/
structure Recomputable (part : List TimedPair) (summary : Summary) : Prop where
  nonempty : part ≠ []
  figures : Figures part summary
  positive : 0 < summary.directLoss

namespace Recomputable

variable {part : List TimedPair} {summary : Summary} (recomputable : Recomputable part summary)
include recomputable

theorem quality (thresholdPpm : Int) :
    deltaAtLeast thresholdPpm summary.document = some (qualityDeltaAtLeast summary thresholdPpm) :=
  deltaAtLeast_document recomputable.nonempty recomputable.figures thresholdPpm

theorem time (thresholdPpm : Nat) : ratioWithin thresholdPpm summary.document =
    some (decide (summary.proxyLoss * 1000000 ≤ summary.directLoss * thresholdPpm)) :=
  ratioWithin_document recomputable.figures recomputable.positive thresholdPpm

end Recomputable

structure ReplicateRecomputable (pairs : List TimedPair) (lane : Lane) (replicate : Nat) (report : ReplicateReport) : Prop where
  summary : Recomputable (pairs.filter fun pair => pair.lane = lane ∧ pair.replicate = replicate) report.summary
  quality : report.qualityPassed = qualityDeltaAtLeast report.summary 0
  time : report.timePassed = decide (report.summary.proxyLoss * 1000000 ≤ report.summary.directLoss * timeReplicateMaxRatioPpm)

structure LaneRecomputable (pairs : List TimedPair) (lane : Lane) (report : LaneReport) : Prop where
  summary : Recomputable (pairs.filter fun pair => pair.lane = lane) report.summary
  time : report.timePass = decide (report.summary.proxyLoss * 1000000 ≤ report.summary.directLoss * timeLaneMaxRatioPpm)
  status : conditionalStatus report.summary = .ok report.conditional
  replicates : List.Forall₂ (ReplicateRecomputable pairs lane) (List.range' 1 replicatesPerLane) report.replicates

section
variable {pairs : List TimedPair} (placed : List.Forall₂ PairAt cohort pairs)
include placed

theorem part_summary {part : List TimedPair} (sublist : part ⊆ pairs) (nonempty : part ≠ []) :
    ∃ summary, Timed.summarizePairs .ok part = .ok summary ∧ Recomputable part summary ∧
      ∃ status, conditionalStatus summary = .ok status := by
  obtain ⟨summary, summarized, there⟩ :=
    summary_exists nonempty fun pair member => (times_positive placed pair (sublist member)).1
  obtain ⟨_, figures⟩ := figures_of_summary summarized
  refine ⟨summary, summarized, ⟨nonempty, figures, ?_⟩, conditionalStatus_exists there⟩
  rw [figures.directLoss]
  refine List.sum_pos _ (fun time member => ?_) (by simpa using nonempty)
  obtain ⟨pair, inside, rfl⟩ := List.mem_map.mp member
  exact (times_positive placed pair (sublist inside)).2

theorem reportReplicate_recomputable {lane : Lane} {replicate : Nat} (laneListed : lane ∈ lanes)
    (replicateListed : replicate ∈ List.range' 1 replicatesPerLane) :
    ∃ report, Timed.reportReplicate .ok pairs lane replicate = .ok report ∧ ReplicateRecomputable pairs lane replicate report := by
  obtain ⟨pair, member, atLane, atReplicate⟩ := part_nonempty placed laneListed replicateListed
  have nonempty : (pairs.filter fun pair => pair.lane = lane ∧ pair.replicate = replicate) ≠ [] :=
    List.ne_nil_of_mem (List.mem_filter.mpr ⟨member, decide_eq_true ⟨atLane, atReplicate⟩⟩)
  obtain ⟨summary, summarized, recomputable, _⟩ := part_summary placed (List.filter_subset_self _) nonempty
  let timePassed := decide (summary.proxyLoss * 1000000 ≤ summary.directLoss * timeReplicateMaxRatioPpm)
  refine ⟨⟨replicate, summary, qualityDeltaAtLeast summary 0, timePassed⟩, ?_, recomputable, rfl, rfl⟩
  simp only [Timed.reportReplicate, summarized, ratioAtMost_exact, bind, Except.bind]
  rfl

theorem reportLane_recomputable {lane : Lane} (laneListed : lane ∈ lanes) :
    ∃ report, Timed.reportLane .ok pairs lane = .ok report ∧ LaneRecomputable pairs lane report := by
  obtain ⟨pair, member, atLane, _⟩ := part_nonempty placed laneListed (by decide : 1 ∈ List.range' 1 replicatesPerLane)
  have nonempty : (pairs.filter fun pair => pair.lane = lane) ≠ [] :=
    List.ne_nil_of_mem (List.mem_filter.mpr ⟨member, decide_eq_true atLane⟩)
  obtain ⟨summary, summarized, recomputable, status, rated⟩ := part_summary placed (List.filter_subset_self _) nonempty
  obtain ⟨replicates, each⟩ := exists_forall₂ fun replicate listed => reportReplicate_recomputable placed laneListed listed
  have ran : mapEach (Timed.reportReplicate .ok pairs lane) (List.range' 1 replicatesPerLane) = .ok replicates :=
    mapEach_eq_ok_iff.mpr (each.imp fun _ _ report => report.1)
  let timePass := decide (summary.proxyLoss * 1000000 ≤ summary.directLoss * timeLaneMaxRatioPpm)
  refine ⟨⟨lane, summary, status, replicates, timePass⟩, ?_, recomputable, rfl, rated, each.imp fun _ _ report => report.2⟩
  simp only [Timed.reportLane, summarized, ratioAtMost_exact, rated, ran, bind, Except.bind]
  rfl

end

/-! ## The whole document -/

theorem members_map {α : Type} (items : List α) (name : α → Text) (object : α → Object) :
    members (items.map fun item => (name item, .obj (object item))) = some (items.map object) := by
  rw [members, List.mapM_map]
  exact mapM_some fun _ _ => rfl

section
variable {α β : Type} {items : List α} {test : Object → Option Bool}

theorem allPass_map {document : α → Object} {result : α → Bool}
    (each : ∀ item ∈ items, test (document item) = some (result item)) :
    allPass test (items.map document) = some (items.all result) := by
  have tested : (items.map document).mapM test = some (items.map result) := by
    rw [List.mapM_map]
    exact mapM_some each
  rw [allPass, tested]
  simp [List.all_map]

theorem enoughPass_map {parts : α → List β} {document : β → Object} {result : β → Bool} (minimum : Nat)
    (each : ∀ item ∈ items, ∀ part ∈ parts item, test (document part) = some (result part)) :
    enoughPass minimum test (items.map fun item => (parts item).map document) =
      some (items.all fun item => decide (minimum ≤ (parts item).countP result)) := by
  have tested : (items.map fun item => (parts item).map document).mapM (fun group => group.mapM test) =
      some (items.map fun item => (parts item).map result) := by
    rw [List.mapM_map]
    refine mapM_some fun item member => ?_
    change ((parts item).map document).mapM test = _
    rw [List.mapM_map]
    exact mapM_some (each item member)
  have counted (item : α) : ((parts item).map result).countP id = (parts item).countP result := by
    rw [List.countP_map]
    rfl
  rw [enoughPass, tested]
  simp [List.all_map, Function.comp_def, counted]

end

/-- The figures and the gates of an evaluation in exact arithmetic. -/
structure EvaluationRecomputable (pairs : List TimedPair) (evaluation : Evaluation) : Prop where
  pooled : Recomputable pairs evaluation.pooled
  lanes : List.Forall₂ (LaneRecomputable pairs) lanes evaluation.lanes
  mcnemar : mcnemarSupportsProxyBenefit evaluation.mcnemar mcnemarAlphaPpm = evaluation.supportsProxyBenefit
  safety : evaluation.gates.qualitySafety = (decide (evaluation.pooled.proxyOnlyCriticalIntegrityViolationCount = 0) &&
    qualityDeltaAtLeast evaluation.pooled qualitySafetyNoninferiorityPpm &&
    evaluation.lanes.all fun report => qualityDeltaAtLeast report.summary qualitySafetyNoninferiorityPpm)
  efficacy : evaluation.gates.qualityEfficacy = (qualityDeltaAtLeast evaluation.pooled qualityEfficacyBenefitPpm &&
    evaluation.lanes.all LaneReport.qualityPass &&
    (evaluation.lanes.all fun report => decide (minQualityNoninferiorReplicates ≤ report.qualityWins)) &&
    evaluation.supportsProxyBenefit)
  time : evaluation.gates.unconditionalTimeToValid =
    (decide (evaluation.pooled.proxyLoss * 1000000 ≤ evaluation.pooled.directLoss * timePooledMaxRatioPpm) &&
      evaluation.lanes.all LaneReport.timePass &&
      evaluation.lanes.all fun report => decide (minTimePassingReplicates ≤ report.timeWins))
  diagnostic : evaluation.gates.conditionalLatencyDiagnostic =
    overallConditionalStatus (evaluation.lanes.map LaneReport.conditional)

theorem evaluation_exists {records : List TimedRecord} {pairs : List TimedPair}
    (complete : Timed.validateAndPair records = .ok pairs) :
    ∃ evaluation, Timed.evaluateQualificationV2 .ok records = .ok evaluation ∧ EvaluationRecomputable pairs evaluation := by
  have placed := pairs_at complete
  obtain ⟨pair, member, _⟩ := part_nonempty placed (by decide : Lane.cold ∈ lanes) (by decide : 1 ∈ List.range' 1 replicatesPerLane)
  obtain ⟨pooled, summarized, recomputable, _⟩ := part_summary placed (List.Subset.refl pairs) (List.ne_nil_of_mem member)
  obtain ⟨reports, each⟩ := exists_forall₂ fun lane listed => reportLane_recomputable placed listed
  have ran : mapEach (Timed.reportLane .ok pairs) lanes = .ok reports :=
    mapEach_eq_ok_iff.mpr (each.imp fun _ _ report => report.1)
  simp only [Timed.evaluateQualificationV2, ratioAtMost_exact, bind_eq_ok, Except.ok.injEq, pure, Except.pure]
  exact ⟨_, ⟨pairs, complete, pooled, summarized, reports, ran, _, rfl, rfl⟩, recomputable,
    each.imp fun _ _ report => report.2, rfl, rfl, rfl, rfl, rfl⟩

section
variable {pairs : List TimedPair} {evaluation : Evaluation} (recomputable : EvaluationRecomputable pairs evaluation)

theorem summaries_document (evaluation : Evaluation) :
    summaries evaluation.document = some (evaluation.lanes.map fun report => report.summary.document) :=
  members_map evaluation.lanes (fun report => report.lane.name) fun report => report.summary.document

theorem replicateSummaries_document (evaluation : Evaluation) : replicateSummaries evaluation.document =
    some (evaluation.lanes.map fun report => report.replicates.map fun replicate => replicate.summary.document) := by
  have grouped := members_map evaluation.lanes (fun report => report.lane.name) fun report =>
    report.replicates.map fun replicate => (Text.ofNat replicate.replicate, Value.obj replicate.summary.document)
  change ((members _).bind fun groups => groups.mapM members) = _
  refine (congrArg (Option.bind · fun groups => groups.mapM members) grouped).trans ?_
  rw [Option.bind_some, List.mapM_map]
  exact mapM_some fun report _ => members_map report.replicates (fun replicate => Text.ofNat replicate.replicate) fun replicate =>
    replicate.summary.document

include recomputable

theorem EvaluationRecomputable.lane {report : LaneReport} (member : report ∈ evaluation.lanes) :
    ∃ lane, LaneRecomputable pairs lane report := by
  obtain ⟨lane, _, of⟩ := forall₂_mem_right recomputable.lanes member
  exact ⟨lane, of⟩

theorem EvaluationRecomputable.replicate {report : LaneReport} (member : report ∈ evaluation.lanes)
    {replicate : ReplicateReport} (inside : replicate ∈ report.replicates) :
    ∃ lane number, ReplicateRecomputable pairs lane number replicate := by
  obtain ⟨lane, of⟩ := recomputable.lane member
  obtain ⟨number, _, replicated⟩ := forall₂_mem_right of.replicates inside
  exact ⟨lane, number, replicated⟩

theorem recomputedGates_document : recomputedGates evaluation.document = some evaluation.gatesDocument := by
  have pooledAt : objectAt evaluation.document "pooled" = some evaluation.pooled.document := rfl
  have mcnemarAt : objectAt evaluation.document "mcnemar" = some evaluation.mcnemarDocument := rfl
  have criticalAt : integerAt evaluation.pooled.document "proxy_only_critical_integrity_violation_count" =
    some (evaluation.pooled.proxyOnlyCriticalIntegrityViolationCount : Int) := rfl
  have lanesDelta (thresholdPpm : Int) : allPass (deltaAtLeast thresholdPpm)
      (evaluation.lanes.map fun report => report.summary.document) =
      some (evaluation.lanes.all fun report => qualityDeltaAtLeast report.summary thresholdPpm) :=
    allPass_map fun report member => (recomputable.lane member).elim fun _ of => of.summary.quality thresholdPpm
  have lanesTime : allPass (ratioWithin timeLaneMaxRatioPpm) (evaluation.lanes.map fun report => report.summary.document) =
      some (evaluation.lanes.all LaneReport.timePass) := by
    refine allPass_map fun report member => ?_
    obtain ⟨_, of⟩ := recomputable.lane member
    rw [of.time]
    exact of.summary.time timeLaneMaxRatioPpm
  have qualityWins : enoughPass minQualityNoninferiorReplicates (deltaAtLeast 0)
      (evaluation.lanes.map fun report => report.replicates.map fun replicate => replicate.summary.document) =
      some (evaluation.lanes.all fun report => decide (minQualityNoninferiorReplicates ≤ report.qualityWins)) := by
    refine enoughPass_map _ fun report member replicate inside => ?_
    obtain ⟨_, _, of⟩ := recomputable.replicate member inside
    rw [of.quality]
    exact of.summary.quality 0
  have timeWins : enoughPass minTimePassingReplicates (ratioWithin timeReplicateMaxRatioPpm)
      (evaluation.lanes.map fun report => report.replicates.map fun replicate => replicate.summary.document) =
      some (evaluation.lanes.all fun report => decide (minTimePassingReplicates ≤ report.timeWins)) := by
    refine enoughPass_map _ fun report member replicate inside => ?_
    obtain ⟨_, _, of⟩ := recomputable.replicate member inside
    rw [of.time]
    exact of.summary.time timeReplicateMaxRatioPpm
  have fraction : fractionBelow mcnemarAlphaPpm evaluation.mcnemarDocument = some evaluation.supportsProxyBenefit := by
    rw [← recomputable.mcnemar]
    refine congrArg some (decide_eq_decide.mpr ?_)
    exact_mod_cast Iff.rfl
  have states : (evaluation.lanes.map fun report => report.summary.document).mapM statusOf =
      some (evaluation.lanes.map LaneReport.conditional) := by
    rw [List.mapM_map]
    exact mapM_some fun report member => (recomputable.lane member).elim fun _ of => statusOf_document of.status
  simp only [recomputedGates, pooledAt, mcnemarAt, criticalAt, summaries_document, replicateSummaries_document, lanesDelta,
    lanesTime, qualityWins, timeWins, fraction, states, recomputable.pooled.quality, recomputable.pooled.time,
    Option.bind_eq_bind, Option.bind_some, Nat.cast_eq_zero]
  simp only [Evaluation.gatesDocument, Gates.promotionPassed, recomputable.safety, recomputable.efficacy, recomputable.time,
    recomputable.diagnostic]
  rfl

theorem recomputedConditional_document :
    recomputedConditional evaluation.document = some evaluation.conditionalDocument := by
  have lanesAt : objectAt evaluation.document "lanes" =
    some (evaluation.lanes.map fun report => (report.lane.name, Value.obj report.summary.document)) := rfl
  have states : (evaluation.lanes.map fun report => (report.lane.name, Value.obj report.summary.document)).mapM
      (fun field => field.2.asObject?.bind fun summary => (statusOf summary).map (field.1, ·)) =
      some (evaluation.lanes.map fun report => (report.lane.name, report.conditional)) := by
    rw [List.mapM_map]
    refine mapM_some fun report member => ?_
    obtain ⟨_, of⟩ := recomputable.lane member
    change (statusOf report.summary.document).map _ = _
    rw [statusOf_document of.status]
    rfl
  rw [recomputedConditional, lanesAt, Option.bind_eq_bind, Option.bind_some, states]
  simp only [Evaluation.conditionalDocument, recomputable.diagnostic, byLane]
  simp [List.map_map, Function.comp_def]

end

/-! ## Counts -/

/-- Every count of a summary counts the pairs with some property. -/
theorem count_predicate {key : Text} (listed : key ∈ countKeys) : ∃ p : TimedPair → Bool,
    ∀ {pairs : List TimedPair} {summary : Summary}, Figures pairs summary →
      integerAt summary.document key = some (pairs.countP p : Int) := by
  simp only [countKeys, List.mem_cons, List.not_mem_nil, or_false] at listed
  obtain rfl | rfl | rfl | rfl | rfl | rfl | rfl := listed
  · exact ⟨fun _ => true, fun figures => by rw [List.countP_true, ← figures.rowCount]; rfl⟩
  · exact ⟨_, fun figures => congrArg (fun count : Nat => some (count : Int)) figures.directValidCount⟩
  · exact ⟨_, fun figures => congrArg (fun count : Nat => some (count : Int)) figures.proxyValidCount⟩
  · exact ⟨_, fun figures => congrArg (fun count : Nat => some (count : Int)) figures.directOnly⟩
  · exact ⟨_, fun figures => congrArg (fun count : Nat => some (count : Int)) figures.proxyOnly⟩
  · exact ⟨_, fun figures => congrArg (fun count : Nat => some (count : Int)) figures.critical⟩
  · exact ⟨_, fun figures => congrArg (fun count : Nat => some (count : Int)) figures.bothValid⟩

theorem adds_parts {κ : Type} [DecidableEq κ] {kind : TimedPair → κ} {kinds : List κ} (nodup : kinds.Nodup)
    {pairs : List TimedPair} (covered : ∀ pair ∈ pairs, kind pair ∈ kinds) {whole : Object} {parts : List Object} {key : Text}
    {p : TimedPair → Bool} (total : integerAt whole key = some (pairs.countP p : Int))
    (each : List.Forall₂ (fun k part => integerAt part key = some ((pairs.filter fun pair => kind pair = k).countP p : Int))
      kinds parts) : Adds key whole parts := by
  refine ⟨kinds.map fun k => ((pairs.filter fun pair => kind pair = k).countP p : Int), ?_, ?_⟩
  · exact mapM_eq_some_iff.mpr (List.forall₂_map_right_iff.mpr each.flip)
  · rw [total, Data.countP_parts nodup covered p, Nat.cast_list_sum, List.map_map]
    rfl

theorem countsAdd_document {pairs : List TimedPair} {evaluation : Evaluation} (placed : List.Forall₂ PairAt cohort pairs)
    (recomputable : EvaluationRecomputable pairs evaluation) {key : Text} (listed : key ∈ countKeys) :
    CountsAdd evaluation.document key := by
  obtain ⟨p, counts⟩ := count_predicate listed
  have covered := positions_covered placed
  have numbered : (List.range' 1 replicatesPerLane).Nodup := List.nodup_range'
  refine ⟨⟨_, _, rfl, summaries_document evaluation, ?_⟩, _, _, summaries_document evaluation,
    replicateSummaries_document evaluation, ?_⟩
  · refine adds_parts (by decide : lanes.Nodup) (fun pair member => (covered pair member).1) (counts recomputable.pooled.figures) ?_
    exact List.forall₂_map_right_iff.mpr (recomputable.lanes.imp fun _ _ of => counts of.summary.figures)
  · refine List.forall₂_map_left_iff.mpr (List.forall₂_map_right_iff.mpr (List.forall₂_same.mpr fun report member => ?_))
    obtain ⟨lane, of⟩ := recomputable.lane member
    have inLane : ∀ pair ∈ pairs.filter fun pair => pair.lane = lane, pair.replicate ∈ List.range' 1 replicatesPerLane :=
      fun pair inside => (covered pair (List.mem_of_mem_filter inside)).2
    refine adds_parts numbered inLane (counts of.summary.figures) ?_
    refine List.forall₂_map_right_iff.mpr (of.replicates.imp fun replicate report replicated => ?_)
    rw [counts replicated.summary.figures, List.filter_filter]
    simp only [Bool.decide_and, and_comm]

end HarnessProxy.Evidence

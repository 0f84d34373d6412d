import HarnessProxy.Evidence.PublicExport
import HarnessProxy.Evidence.Summaries

namespace HarnessProxy.Evidence

open HarnessProxy.Json

/-! # Which evaluations can be published

The export refuses negative and missing figures.  A summary has one when the
proxy solves fewer cases, when no case is solved by both arms, or when all
direct times are too small to add up.
-/

/-! ## Sorted keys change nothing -/

section
variable {fields : Object} (nodup : fields.keys.Nodup)
include nodup

theorem requireNonnegativeInt_canonical (key : Text) :
    requireNonnegativeInt fields.canonical key = requireNonnegativeInt fields key := by
  unfold requireNonnegativeInt
  rw [Value.get?_canonical nodup]
  cases fields.get? key with
  | none => rfl
  | some value => cases value <;> rfl

theorem requireBool_canonical (key : Text) : requireBool fields.canonical key = requireBool fields key := by
  unfold requireBool
  rw [Value.get?_canonical nodup]
  cases fields.get? key with
  | none => rfl
  | some value => cases value <;> rfl

theorem getString_canonical (key : Text) :
    (Object.get? fields.canonical key).bind Value.asString? = (fields.get? key).bind Value.asString? := by
  rw [Value.get?_canonical nodup]
  cases fields.get? key with
  | none => rfl
  | some value => cases value <;> rfl

theorem requireOneOf_canonical (key : Text) (expected : List Text) :
    requireOneOf fields.canonical key expected = requireOneOf fields key expected := by
  rw [requireOneOf, getString_canonical nodup]
  rfl

theorem requireObject_canonical (key : Text) :
    requireObject fields.canonical key = (requireObject fields key).map Object.canonical := by
  rw [requireObject, requireObject, Value.get?_canonical nodup]
  cases fields.get? key with
  | none => rfl
  | some value => cases value <;> rfl

omit nodup in
theorem requireExactKeys_canonical (expected : List Text) :
    requireExactKeys fields.canonical expected = requireExactKeys fields expected := by
  have same := fun key => (Object.canonical_keys_perm fields).mem_iff (a := key)
  have left : Object.keys fields.canonical ⊆ expected ↔ fields.keys ⊆ expected :=
    ⟨fun all key member => all ((same key).mpr member), fun all key member => all ((same key).mp member)⟩
  have right : expected ⊆ Object.keys fields.canonical ↔ expected ⊆ fields.keys :=
    ⟨fun all key member => (same key).mp (all member), fun all key member => (same key).mpr (all member)⟩
  rw [requireExactKeys, requireExactKeys]
  simp only [left, right]

theorem exportSummary_canonical : exportSummary fields.canonical = exportSummary fields := by
  simp only [exportSummary, requireNonnegativeInt_canonical nodup]

theorem exportGates_canonical : exportGates fields.canonical = exportGates fields := by
  simp only [exportGates, requireBool_canonical nodup, requireOneOf_canonical nodup]

theorem exportMcnemar_canonical (alphaPpm : Nat) : exportMcnemar fields.canonical alphaPpm = exportMcnemar fields alphaPpm := by
  simp only [exportMcnemar, requireNonnegativeInt_canonical nodup, requireBool_canonical nodup]

theorem requireCounts_canonical (expected : List (Text × Nat)) :
    requireCounts fields.canonical expected = requireCounts fields expected := by
  simp only [requireCounts, requireNonnegativeInt_canonical nodup]

end

/-! ## One summary -/

/-- An integer that is not negative. -/
def natural (i : Int) : Option Nat := if 0 ≤ i then some i.toNat else none

theorem natural_eq_some {i : Int} {n : Nat} : natural i = some n ↔ i = n := by
  unfold natural
  split <;> simp <;> omega

theorem requireNonnegativeInt_int {fields : Object} {key : Text} {i : Int} (found : fields.get? key = some (.int i)) :
    requireNonnegativeInt fields key = natural i := by
  rw [requireNonnegativeInt, found]
  rfl

theorem requireNonnegativeInt_optional {fields : Object} {key : Text} {value : Option Int}
    (found : fields.get? key = some (optionalInt value)) : requireNonnegativeInt fields key = value.bind natural := by
  rw [requireNonnegativeInt, found]
  cases value <;> rfl

/-- The figures of a summary, in the order of `summaryKeys`. -/
def Summary.figures (summary : Summary) : List (Option Nat) :=
  [natural summary.rowCount, natural summary.directValidCount, natural summary.proxyValidCount,
    natural summary.successDeltaPpm, natural summary.bothValidCount, natural summary.directOnlySuccessCount,
    natural summary.proxyOnlySuccessCount, natural summary.proxyOnlyCriticalIntegrityViolationCount,
    natural summary.directPenalizedMeanWallUs, natural summary.proxyPenalizedMeanWallUs,
    summary.penalizedMeanRatioPpm.bind natural, natural summary.directPercentiles.p50,
    natural summary.directPercentiles.p95, natural summary.directPercentiles.p99,
    natural summary.proxyPercentiles.p50, natural summary.proxyPercentiles.p95, natural summary.proxyPercentiles.p99,
    summary.conditional.directP95.bind natural, summary.conditional.proxyP95.bind natural,
    summary.conditional.ratio.bind natural]

theorem requireNonnegativeInt_summary (summary : Summary) :
    summaryKeys.map (requireNonnegativeInt summary.document) = summary.figures := by
  have figure {key : Text} {i : Int} := @requireNonnegativeInt_int summary.document key i
  have optional {key : Text} {value : Option Int} :=
    @requireNonnegativeInt_optional summary.document key value
  simp only [summaryKeys, List.map_cons, List.map_nil, Summary.figures]
  rw [figure rfl, figure rfl, figure rfl, figure rfl, figure rfl, figure rfl, figure rfl, figure rfl, figure rfl,
    figure rfl, optional rfl, figure rfl, figure rfl, figure rfl, figure rfl, figure rfl, figure rfl, optional rfl,
    optional rfl, optional rfl]

/-- The figures that the export took over, next to the document that they come from. -/
def SameFigures (figures : List (Text × Nat)) (document : Object) : Prop :=
  List.Forall₂ (fun key figure => figure.1 = key ∧ document.get? key = some (.int figure.2)) summaryKeys figures

theorem requireNonnegativeInt_eq_some {document : Object} {key : Text} {n : Nat}
    (required : requireNonnegativeInt document key = some n) : document.get? key = some (.int n) := by
  unfold requireNonnegativeInt at required
  split at required
  · next i found =>
    rw [found]
    split at required
    · next nonneg =>
      cases required
      rw [Int.toNat_of_nonneg nonneg]
    · cases required
  · cases required

theorem exportSummary_figures {document : Object} {figures : List (Text × Nat)}
    (exported : exportSummary document = some figures) : SameFigures figures document := by
  simp only [exportSummary, Option.bind_eq_bind, Option.bind_eq_some_iff] at exported
  obtain ⟨result, read, _, _, _, _, _, _, _, _, same⟩ := exported
  cases same
  refine (mapM_eq_some_iff.mp read).imp fun key figure ran => ?_
  simp only [Option.bind_eq_some_iff, pure, Option.some.injEq] at ran
  obtain ⟨n, required, rfl⟩ := ran
  exact ⟨rfl, requireNonnegativeInt_eq_some required⟩

theorem exportSummary_exists_iff (document : Object) :
    (∃ figures, exportSummary document = some figures) ↔
      (∀ key ∈ summaryKeys, (requireNonnegativeInt document key).isSome = true) ∧
        ∀ rowCount directValid proxyValid, requireNonnegativeInt document "row_count" = some rowCount →
          requireNonnegativeInt document "direct_valid_count" = some directValid →
          requireNonnegativeInt document "proxy_valid_count" = some proxyValid →
          directValid ≤ rowCount ∧ proxyValid ≤ rowCount := by
  have readIff : (∃ result : List (Text × Nat),
      (summaryKeys.mapM fun key => do return (key, ← requireNonnegativeInt document key)) = some result) ↔
      ∀ key ∈ summaryKeys, (requireNonnegativeInt document key).isSome = true := by
    simp only [mapM_eq_some_iff]
    generalize summaryKeys = keys
    induction keys with
    | nil => exact iff_of_true ⟨[], .nil⟩ (fun key member => (by cases member))
    | cons key rest ih =>
        rw [List.forall_mem_cons, ← ih]
        constructor
        · rintro ⟨_, related⟩
          cases related with
          | cons head tail =>
              refine ⟨?_, _, tail⟩
              simp only [Option.bind_eq_bind, Option.bind_eq_some_iff] at head
              obtain ⟨n, required, _⟩ := head
              rw [required]
              rfl
        · rintro ⟨some, others, tail⟩
          obtain ⟨n, required⟩ := Option.isSome_iff_exists.mp some
          exact ⟨(key, n) :: others, .cons (by simp [required]) tail⟩
  simp only [exportSummary, Option.bind_eq_bind, Option.bind_eq_some_iff]
  constructor
  · rintro ⟨_, result, read, rowCount, row, directValid, direct, proxyValid, proxy, _, guarded, _⟩
    refine ⟨readIff.mp ⟨result, read⟩, fun otherRow otherDirect otherProxy sameRow sameDirect sameProxy => ?_⟩
    cases row.symm.trans sameRow
    cases direct.symm.trans sameDirect
    cases proxy.symm.trans sameProxy
    by_contra worse
    simp [guard, worse] at guarded
  · rintro ⟨all, bounded⟩
    obtain ⟨result, read⟩ := readIff.mpr all
    obtain ⟨rowCount, row⟩ := Option.isSome_iff_exists.mp (all "row_count" (by simp [summaryKeys]))
    obtain ⟨directValid, direct⟩ := Option.isSome_iff_exists.mp (all "direct_valid_count" (by simp [summaryKeys]))
    obtain ⟨proxyValid, proxy⟩ := Option.isSome_iff_exists.mp (all "proxy_valid_count" (by simp [summaryKeys]))
    exact ⟨result, result, read, rowCount, row, directValid, direct, proxyValid, proxy, (),
      if_pos (bounded rowCount directValid proxyValid row direct proxy), rfl⟩

/-- What the figures of one group of pairs need. -/
structure PublishablePool (pairs : List Pair) : Prop where
  proxyNotWorse : (pairs.countP fun pair => pair.direct.passed) ≤ pairs.countP fun pair => pair.proxy.passed
  bothValid : ∃ pair ∈ pairs, pair.bothValid = true
  measurable : ∃ pair ∈ pairs, 0 < Decimal.rounded pair.direct.penalized

theorem penalized_pos {record : V2OutcomeRecord} (valid : validRecord record = true) : 0 < record.penalized := by
  simp only [validRecord, Bool.and_eq_true] at valid
  obtain ⟨⟨⟨_, wall⟩, deadline⟩, _⟩ := valid
  unfold V2OutcomeRecord.penalized
  split
  · exact Decimal.value_pos wall
  · exact Decimal.value_pos deadline

section
variable {pairs : List Pair} {summary : Summary} (summarized : SummaryOf pairs summary)
  (valid : ∀ pair ∈ pairs, validRecord pair.direct = true ∧ validRecord pair.proxy = true)
include summarized valid

theorem losses : 0 ≤ summary.directLoss ∧ 0 ≤ summary.proxyLoss ∧
    (0 < summary.directLoss ↔ ∃ pair ∈ pairs, 0 < Decimal.rounded pair.direct.penalized) := by
  have direct := sumDecimals_pos_iff (.inl rfl) (fun value member => by
    obtain ⟨pair, inside, rfl⟩ := List.mem_map.mp member
    exact (penalized_pos (valid pair inside).1).le) summarized.directLoss
  have proxy := sumDecimals_pos_iff (.inl rfl) (fun value member => by
    obtain ⟨pair, inside, rfl⟩ := List.mem_map.mp member
    exact (penalized_pos (valid pair inside).2).le) summarized.proxyLoss
  refine ⟨direct.1, proxy.1, direct.2.trans ?_⟩
  simp [List.mem_map]

omit valid in
theorem delta_nonneg_iff : 0 ≤ summary.successDeltaPpm ↔ summary.directValidCount ≤ summary.proxyValidCount := by
  have rows : 0 < (summary.rowCount : Int) := by
    rw [summarized.rowCount]
    exact_mod_cast List.length_pos_iff.mpr summarized.nonempty
  rw [summarized.successDeltaPpm, Int.ediv_nonneg_iff_of_pos rows]
  omega

/-- The conditional figures are there exactly when both arms solve a case. -/
theorem conditional_figures :
    if (∃ pair ∈ pairs, pair.bothValid = true) then
      ∃ direct proxy ratio : Nat, summary.conditional = ⟨some direct, some proxy, some ratio⟩
    else summary.conditional = ⟨none, none, none⟩ := by
  have computed := summarized.conditional
  have wallPos : ∀ pair ∈ pairs, 0 < pair.direct.wallS.value ∧ 0 < pair.proxy.wallS.value := by
    intro pair member
    have both := valid pair member
    simp only [validRecord, Bool.and_eq_true] at both
    exact ⟨Decimal.value_pos both.1.1.1.2, Decimal.value_pos both.2.1.1.2⟩
  split
  · next solved =>
    obtain ⟨pair, member, bothValid⟩ := solved
    have nonempty : pairs.filter Pair.bothValid ≠ [] := List.ne_nil_of_mem (List.mem_filter.mpr ⟨member, bothValid⟩)
    obtain ⟨direct, directMember, directP95⟩ := @p95_some ((pairs.filter Pair.bothValid).map fun pair =>
      pair.direct.wallS.value) (by simpa using nonempty)
    obtain ⟨proxy, proxyMember, proxyP95⟩ := @p95_some ((pairs.filter Pair.bothValid).map fun pair =>
      pair.proxy.wallS.value) (by simpa using nonempty)
    obtain ⟨first, firstMember, rfl⟩ := List.mem_map.mp directMember
    obtain ⟨second, secondMember, rfl⟩ := List.mem_map.mp proxyMember
    have directPos := (wallPos first (List.mem_of_mem_filter firstMember)).1
    have proxyPos := (wallPos second (List.mem_of_mem_filter secondMember)).2
    rw [directP95, proxyP95] at computed
    simp only [conditional, optionalMicroseconds, bind_eq_ok, pure, Except.pure, Except.ok.injEq] at computed
    obtain ⟨_, ⟨a, directUs, rfl⟩, _, ⟨b, proxyUs, rfl⟩, ratio, rated, same⟩ := computed
    obtain ⟨present, nonneg⟩ := ratioPpm_some proxyPos.le rated
    obtain ⟨c, rfl⟩ := Option.isSome_iff_exists.mp (present.mpr directPos)
    rw [← same]
    refine ⟨a.toNat, b.toNat, c.toNat, ?_⟩
    rw [Int.toNat_of_nonneg (microseconds_nonneg directPos.le directUs),
      Int.toNat_of_nonneg (microseconds_nonneg proxyPos.le proxyUs), Int.toNat_of_nonneg (nonneg c rfl)]
  · next unsolved =>
    have empty : pairs.filter Pair.bothValid = [] :=
      List.filter_eq_nil_iff.mpr fun pair member bothValid => unsolved ⟨pair, member, bothValid⟩
    rw [empty] at computed
    exact (Except.ok.inj computed).symm

theorem figures_isSome_iff :
    (∀ figure ∈ summary.figures, figure.isSome = true) ↔ PublishablePool pairs := by
  obtain ⟨directNonneg, proxyNonneg, measurable⟩ := losses summarized valid
  have natCast (n : Nat) : (natural n).isSome = true := by simp [natural]
  have nonneg {i : Int} (positive : 0 ≤ i) : (natural i).isSome = true := by simp [natural, positive]
  have directWalls : ∀ value ∈ pairs.map fun pair => pair.direct.penalized, 0 ≤ value := fun value member => by
    obtain ⟨pair, inside, rfl⟩ := List.mem_map.mp member
    exact (penalized_pos (valid pair inside).1).le
  have proxyWalls : ∀ value ∈ pairs.map fun pair => pair.proxy.penalized, 0 ≤ value := fun value member => by
    obtain ⟨pair, inside, rfl⟩ := List.mem_map.mp member
    exact (penalized_pos (valid pair inside).2).le
  have nonempty := summarized.nonempty
  obtain ⟨d50, d95, d99⟩ := penalizedPercentiles_nonneg (by simpa using nonempty) directWalls summarized.directPercentiles
  obtain ⟨p50, p95, p99⟩ := penalizedPercentiles_nonneg (by simpa using nonempty) proxyWalls summarized.proxyPercentiles
  have directMean := meanMicroseconds_nonneg directNonneg summarized.directMean
  have proxyMean := meanMicroseconds_nonneg proxyNonneg summarized.proxyMean
  obtain ⟨ratioPresent, ratioNonneg⟩ := ratioPpm_some proxyNonneg summarized.ratio
  have delta : (natural summary.successDeltaPpm).isSome = true ↔
      (pairs.countP fun pair => pair.direct.passed) ≤ pairs.countP fun pair => pair.proxy.passed := by
    rw [← summarized.directValidCount, ← summarized.proxyValidCount, ← delta_nonneg_iff summarized]
    by_cases better : 0 ≤ summary.successDeltaPpm <;> simp [natural, better]
  have ratio : (summary.penalizedMeanRatioPpm.bind natural).isSome = true ↔
      ∃ pair ∈ pairs, 0 < Decimal.rounded pair.direct.penalized := by
    rw [← measurable, ← ratioPresent]
    cases shown : summary.penalizedMeanRatioPpm with
    | none => simp
    | some value => exact iff_of_true (nonneg (ratioNonneg value shown)) rfl
  have conditionals : ((summary.conditional.directP95.bind natural).isSome = true ∧
      (summary.conditional.proxyP95.bind natural).isSome = true ∧
      (summary.conditional.ratio.bind natural).isSome = true) ↔ ∃ pair ∈ pairs, pair.bothValid = true := by
    have figures := conditional_figures summarized valid
    split at figures
    · next solved =>
      obtain ⟨a, b, c, same⟩ := figures
      rw [same]
      exact iff_of_true ⟨natCast a, natCast b, natCast c⟩ solved
    · next unsolved =>
      rw [figures]
      exact iff_of_false (fun shown => by cases shown.1) unsolved
  simp only [Summary.figures, List.forall_mem_cons, List.not_mem_nil, false_implies, implies_true, natCast, nonneg d50,
    nonneg d95, nonneg d99, nonneg p50, nonneg p95, nonneg p99, nonneg directMean, nonneg proxyMean, true_and, and_true,
    delta, ratio, conditionals]
  exact ⟨fun all => ⟨all.1, all.2.2, all.2.1⟩, fun pool => ⟨pool.proxyNotWorse, pool.measurable, pool.bothValid⟩⟩

/-- A summary is exported exactly when its pool can be published. -/
theorem exportSummary_iff : (∃ figures, exportSummary summary.document = some figures) ↔ PublishablePool pairs := by
  rw [exportSummary_exists_iff, ← figures_isSome_iff summarized valid, ← requireNonnegativeInt_summary,
    List.forall_mem_map]
  refine and_iff_left ?_
  intro rowCount directValid proxyValid row direct proxy
  have rows := requireNonnegativeInt_eq_some row
  have directs := requireNonnegativeInt_eq_some direct
  have proxies := requireNonnegativeInt_eq_some proxy
  have sameRows : (summary.rowCount : Int) = rowCount := Value.int.inj (Option.some.inj rows)
  have sameDirect : (summary.directValidCount : Int) = directValid := Value.int.inj (Option.some.inj directs)
  have sameProxy : (summary.proxyValidCount : Int) = proxyValid := Value.int.inj (Option.some.inj proxies)
  have directBound := List.countP_le_length (p := fun pair : Pair => pair.direct.passed) (l := pairs)
  have proxyBound := List.countP_le_length (p := fun pair : Pair => pair.proxy.passed) (l := pairs)
  rw [← summarized.directValidCount, ← summarized.rowCount] at directBound
  rw [← summarized.proxyValidCount, ← summarized.rowCount] at proxyBound
  omega

end

end HarnessProxy.Evidence

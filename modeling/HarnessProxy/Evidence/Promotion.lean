import HarnessProxy.Data.BinomialTail
import HarnessProxy.Evidence.Cohort
import HarnessProxy.Evidence.Exact
import Mathlib.Logic.Relation

namespace HarnessProxy.Evidence

/-! # Promotion is monotone

In exact arithmetic a promoted campaign stays promoted when rows of the proxy
get better or rows of the direct arm get worse.
-/

/-- One row changes in favour of the proxy. -/
inductive Improvement : TimedRecord → TimedRecord → Prop where
  | solved {row : TimedRecord} {wall : ℚ} (arm : row.arm = "proxy") (failed : row.passed = false) (positive : 0 < wall)
      (inTime : wall ≤ row.deadlineS) : Improvement row { row with passed := true, wallS := wall }
  | faster {row : TimedRecord} {wall : ℚ} (arm : row.arm = "proxy") (passed : row.passed = true) (positive : 0 < wall)
      (smaller : wall ≤ row.wallS) : Improvement row { row with wallS := wall }
  | cleared {row : TimedRecord} (arm : row.arm = "proxy") : Improvement row { row with criticalIntegrityViolation := false }
  | lost {row : TimedRecord} {wall : ℚ} (arm : row.arm = "direct") (passed : row.passed = true) (positive : 0 < wall) :
      Improvement row { row with passed := false, wallS := wall }
  | slower {row : TimedRecord} {wall : ℚ} (arm : row.arm = "direct") (passed : row.passed = true)
      (larger : row.wallS ≤ wall) (inTime : wall ≤ row.deadlineS) : Improvement row { row with wallS := wall }

/-- What any number of such changes leaves and moves. -/
structure Improved (before after : TimedRecord) : Prop where
  ordinal : after.caseOrdinal = before.caseOrdinal
  lane : after.cacheLane = before.cacheLane
  replicate : after.replicate = before.replicate
  arm : after.arm = before.arm
  deadline : after.deadlineS = before.deadlineS
  valid : after.valid = true
  proxy : before.arm = "proxy" → (before.passed = true → after.passed = true) ∧ after.penalized ≤ before.penalized ∧
    (after.criticalIntegrityViolation = true → before.criticalIntegrityViolation = true)
  direct : before.arm = "direct" → (after.passed = true → before.passed = true) ∧ before.penalized ≤ after.penalized ∧
    after.criticalIntegrityViolation = before.criticalIntegrityViolation

namespace TimedRecord

theorem valid_iff {record : TimedRecord} : record.valid = true ↔
    ((1 ≤ record.caseOrdinal ∧ record.caseOrdinal ≤ caseCount) ∧ record.cacheLane ∈ lanes.map Lane.name ∧
      (1 ≤ record.replicate ∧ record.replicate ≤ replicatesPerLane) ∧ (record.arm = "direct" ∨ record.arm = "proxy")) ∧
      0 < record.wallS ∧ 0 < record.deadlineS ∧ (record.passed = true → record.wallS ≤ record.deadlineS) := by
  simp only [valid, Bool.and_eq_true, Bool.or_eq_true, decide_eq_true_eq, Bool.not_eq_true', Bool.and_eq_false_imp,
    decide_eq_false_iff_not, not_lt, and_assoc]

theorem penalized_le {record : TimedRecord} (valid : record.valid = true) : record.penalized ≤ record.deadlineS := by
  cases passed : record.passed with
  | true => simpa [penalized, passed] using (valid_iff.mp valid).2.2.2 passed
  | false => simp [penalized, passed]

end TimedRecord

theorem Improved.refl {row : TimedRecord} (valid : row.valid = true) : Improved row row :=
  ⟨rfl, rfl, rfl, rfl, rfl, valid, fun _ => ⟨id, le_rfl, id⟩, fun _ => ⟨id, le_rfl, rfl⟩⟩

theorem Improved.trans {first second third : TimedRecord} (one : Improved first second) (two : Improved second third) :
    Improved first third where
  ordinal := two.ordinal.trans one.ordinal
  lane := two.lane.trans one.lane
  replicate := two.replicate.trans one.replicate
  arm := two.arm.trans one.arm
  deadline := two.deadline.trans one.deadline
  valid := two.valid
  proxy armed := by
    obtain ⟨passed, penalized, critical⟩ := one.proxy armed
    obtain ⟨passed', penalized', critical'⟩ := two.proxy (one.arm.trans armed)
    exact ⟨passed' ∘ passed, penalized'.trans penalized, critical ∘ critical'⟩
  direct armed := by
    obtain ⟨passed, penalized, critical⟩ := one.direct armed
    obtain ⟨passed', penalized', critical'⟩ := two.direct (one.arm.trans armed)
    exact ⟨passed ∘ passed', penalized.trans penalized', critical'.trans critical⟩

theorem proxy_ne_direct : Text.literal "proxy" ≠ Text.literal "direct" := by decide

theorem improved_of_step {before after : TimedRecord} (valid : before.valid = true) (step : Improvement before after) :
    Improved before after := by
  obtain ⟨place, wall, deadline, inTime⟩ := TimedRecord.valid_iff.mp valid
  have bounded := TimedRecord.penalized_le valid
  cases step with
  | @solved wall' arm failed positive within =>
      refine ⟨rfl, rfl, rfl, rfl, rfl, TimedRecord.valid_iff.mpr ⟨place, positive, deadline, fun _ => within⟩,
        fun _ => ⟨fun _ => rfl, ?_, id⟩, fun direct => absurd (arm.symm.trans direct) proxy_ne_direct⟩
      simpa [TimedRecord.penalized, failed] using within
  | @faster wall' arm passed positive smaller =>
      have within : wall' ≤ before.deadlineS := smaller.trans (inTime passed)
      refine ⟨rfl, rfl, rfl, rfl, rfl, TimedRecord.valid_iff.mpr ⟨place, positive, deadline, fun _ => within⟩,
        fun _ => ⟨id, ?_, id⟩, fun direct => absurd (arm.symm.trans direct) proxy_ne_direct⟩
      simpa [TimedRecord.penalized, passed] using smaller
  | cleared arm =>
      exact ⟨rfl, rfl, rfl, rfl, rfl, TimedRecord.valid_iff.mpr ⟨place, wall, deadline, inTime⟩,
        fun _ => ⟨id, le_rfl, fun critical => (by cases critical)⟩, fun direct => absurd (arm.symm.trans direct) proxy_ne_direct⟩
  | @lost wall' arm passed positive =>
      refine ⟨rfl, rfl, rfl, rfl, rfl,
        TimedRecord.valid_iff.mpr ⟨place, positive, deadline, fun passed' => (by cases passed')⟩,
        fun proxy => absurd (proxy.symm.trans arm) proxy_ne_direct, fun _ => ⟨fun passed' => (by cases passed'), ?_, rfl⟩⟩
      simpa [TimedRecord.penalized, passed] using bounded
  | @slower wall' arm passed larger within =>
      refine ⟨rfl, rfl, rfl, rfl, rfl,
        TimedRecord.valid_iff.mpr ⟨place, wall.trans_le larger, deadline, fun _ => within⟩,
        fun proxy => absurd (proxy.symm.trans arm) proxy_ne_direct, fun _ => ⟨id, ?_, rfl⟩⟩
      simpa [TimedRecord.penalized, passed] using larger

theorem improved_of_steps {before after : TimedRecord} (valid : before.valid = true)
    (steps : Relation.ReflTransGen Improvement before after) : Improved before after := by
  induction steps with
  | refl => exact .refl valid
  | tail _ last ih => exact ih.trans (improved_of_step ih.valid last)

/-- The row stands where it stood. -/
theorem Improved.isAt {before after : TimedRecord} (improved : Improved before after) (cacheLane : Text)
    (replicate caseOrdinal : Int) (arm : Text) :
    after.isAt cacheLane replicate caseOrdinal arm = before.isAt cacheLane replicate caseOrdinal arm := by
  rw [TimedRecord.isAt, TimedRecord.isAt, improved.ordinal, improved.replicate, improved.arm, improved.lane]

/-! ## Lists that are related item by item -/

section
variable {α β : Type} {relation : α → β → Prop}

theorem countP_mono {p : α → Bool} {q : β → Bool} {items : List α} {others : List β}
    (keeps : ∀ item other, relation item other → p item = true → q other = true)
    (related : List.Forall₂ relation items others) : items.countP p ≤ others.countP q := by
  induction related with
  | nil => exact Nat.le_refl 0
  | @cons item other _ _ head _ ih =>
      rw [List.countP_cons, List.countP_cons]
      have kept := keeps item other head
      split <;> split <;> first | omega | (rename_i holds fails; exact absurd (kept holds) fails)

theorem all_mono {p : α → Bool} {q : β → Bool} {items : List α} {others : List β}
    (keeps : ∀ item other, relation item other → p item = true → q other = true)
    (related : List.Forall₂ relation items others) (all : items.all p = true) : others.all q = true := by
  induction related with
  | nil => rfl
  | @cons item other _ _ head _ ih =>
      rw [List.all_cons, Bool.and_eq_true] at all ⊢
      exact ⟨keeps item other head all.1, ih all.2⟩

theorem find?_related {p : α → Bool} {q : β → Bool} (same : ∀ item other, relation item other → q other = p item)
    {items : List α} {others : List β} (related : List.Forall₂ relation items others) :
    Option.Rel relation (items.find? p) (others.find? q) := by
  induction related with
  | nil => exact .none
  | @cons item other _ _ head _ ih =>
      rw [List.find?_cons, List.find?_cons, same item other head]
      cases p item with
      | true => exact .some head
      | false => exact ih

theorem find?_some_related {p : α → Bool} {q : β → Bool} (same : ∀ item other, relation item other → q other = p item)
    {items : List α} {others : List β} (related : List.Forall₂ relation items others) {item : α}
    (found : items.find? p = some item) : ∃ other, others.find? q = some other ∧ relation item other := by
  have either := find?_related same related
  rw [found] at either
  generalize others.find? q = search at either
  cases either with
  | some both => exact ⟨_, rfl, both⟩

theorem any_related {p : α → Bool} {q : β → Bool} (same : ∀ item other, relation item other → q other = p item)
    {items : List α} {others : List β} (related : List.Forall₂ relation items others) : others.any q = items.any p := by
  induction related with
  | nil => rfl
  | @cons item other _ _ head _ ih => rw [List.any_cons, List.any_cons, same item other head, ih]

theorem sum_mono {f : α → ℚ} {g : β → ℚ} {items : List α} {others : List β}
    (grows : ∀ item other, relation item other → f item ≤ g other) (related : List.Forall₂ relation items others) :
    (items.map f).sum ≤ (others.map g).sum := by
  induction related with
  | nil => exact le_rfl
  | @cons item other _ _ head _ ih =>
      rw [List.map_cons, List.map_cons, List.sum_cons, List.sum_cons]
      exact add_le_add (grows item other head) ih

theorem mapEach_related {ε γ : Type} {function : γ → Except ε α} {other : γ → Except ε β} {items : List γ}
    {results : List α} (ran : mapEach function items = .ok results)
    (follows : ∀ item ∈ items, ∀ result, function item = .ok result → ∃ next, other item = .ok next ∧ relation result next) :
    ∃ others, mapEach other items = .ok others ∧ List.Forall₂ relation results others := by
  induction items generalizing results with
  | nil =>
      cases ran
      exact ⟨[], rfl, .nil⟩
  | cons item rest ih =>
      simp only [mapEach, bind_eq_ok, pure, Except.pure, Except.ok.injEq] at ran
      obtain ⟨first, headRan, remaining, tailRan, rfl⟩ := ran
      obtain ⟨head, tail⟩ := List.forall_mem_cons.mp follows
      obtain ⟨next, headRuns, headRelated⟩ := head first headRan
      obtain ⟨others, tailRuns, tailRelated⟩ := ih tailRan tail
      refine ⟨next :: others, ?_, .cons headRelated tailRelated⟩
      simp only [mapEach, bind_eq_ok]
      exact ⟨next, headRuns, others, tailRuns, rfl⟩

end

/-! ## Pairing -/

theorem gather_improved {raw raw' records records' gathered : List TimedRecord}
    (before : List.Forall₂ Improved raw raw') (improves : List.Forall₂ (Relation.ReflTransGen Improvement) records records')
    (accepted : Timed.gather raw records = .ok gathered) :
    ∃ gathered', Timed.gather raw' records' = .ok gathered' ∧ List.Forall₂ Improved gathered gathered' := by
  induction improves generalizing raw raw' with
  | nil =>
      cases accepted
      exact ⟨raw', rfl, before⟩
  | @cons record record' rest rest' steps _ ih =>
      simp only [Timed.gather, bind_eq_ok, raiseIf_eq_ok, Bool.not_eq_false', decide_eq_false_iff_not, not_not] at accepted ⊢
      obtain ⟨_, valid, _, fresh, _, prior, remaining⟩ := accepted
      have improved := improved_of_steps valid steps
      obtain ⟨gathered', runs, related⟩ := ih (List.rel_append before (.cons improved .nil)) remaining
      have fresh' : (raw'.any fun found => found.isAt record'.cacheLane record'.replicate record'.caseOrdinal record'.arm) =
          false := by
        rw [← fresh, improved.lane, improved.replicate, improved.ordinal, improved.arm]
        exact any_related (fun _ _ pair => pair.isAt _ _ _ _) before
      have prior' : ((raw'.find? fun found => found.caseOrdinal = record'.caseOrdinal).getD record').deadlineS =
          record'.deadlineS := by
        have found := find?_related (fun _ _ pair => congrArg (fun ordinal => decide (ordinal = record.caseOrdinal)) pair.ordinal)
          before
        rw [improved.ordinal, improved.deadline, ← prior]
        generalize raw.find? _ = first at found
        generalize raw'.find? _ = second at found
        cases found with
        | none => exact improved.deadline
        | some pair => exact pair.deadline
      exact ⟨gathered', ⟨(), improved.valid, (), fresh', (), prior', runs⟩, related⟩

/-- Both outcomes of a case move in favour of the proxy. -/
structure PairImproved (before after : TimedPair) : Prop where
  lane : after.lane = before.lane
  replicate : after.replicate = before.replicate
  proxyPassed : before.proxy.passed = true → after.proxy.passed = true
  proxyPenalized : after.proxy.penalized ≤ before.proxy.penalized
  proxyCritical : after.proxy.criticalIntegrityViolation = true → before.proxy.criticalIntegrityViolation = true
  directPassed : after.direct.passed = true → before.direct.passed = true
  directPenalized : before.direct.penalized ≤ after.direct.penalized
  directCritical : after.direct.criticalIntegrityViolation = before.direct.criticalIntegrityViolation
  directWall : 0 < after.direct.wallS

theorem selectPair_improved {raw raw' : List TimedRecord} (related : List.Forall₂ Improved raw raw') {lane : Lane}
    {replicate caseOrdinal : Nat} {pair : TimedPair} (selected : Timed.selectPair raw lane replicate caseOrdinal = .ok pair) :
    ∃ pair', Timed.selectPair raw' lane replicate caseOrdinal = .ok pair' ∧ PairImproved pair pair' := by
  have follows (arm : Text) (row : TimedRecord) (found : raw.find? (·.isAt lane.name replicate caseOrdinal arm) = some row) :
      ∃ row', raw'.find? (·.isAt lane.name replicate caseOrdinal arm) = some row' ∧ Improved row row' :=
    find?_some_related (fun _ _ rows => rows.isAt lane.name replicate caseOrdinal arm) related found
  have armed (arm : Text) (row : TimedRecord) (found : raw.find? (·.isAt lane.name replicate caseOrdinal arm) = some row) :
      row.arm = arm := by
    have at_ := List.find?_some found
    simp only [TimedRecord.isAt, Bool.and_eq_true, decide_eq_true_eq] at at_
    exact at_.1.2
  unfold Timed.selectPair at selected ⊢
  cases directFound : raw.find? (·.isAt lane.name replicate caseOrdinal "direct") with
  | none => simp [directFound] at selected
  | some direct =>
      cases proxyFound : raw.find? (·.isAt lane.name replicate caseOrdinal "proxy") with
      | none => simp [directFound, proxyFound] at selected
      | some proxy =>
          obtain ⟨direct', directFound', directs⟩ := follows _ _ directFound
          obtain ⟨proxy', proxyFound', proxies⟩ := follows _ _ proxyFound
          simp only [directFound, proxyFound] at selected
          simp only [directFound', proxyFound', directs.deadline, proxies.deadline]
          by_cases same : direct.deadlineS = proxy.deadlineS
          · rw [if_neg (not_not.mpr same)] at selected ⊢
            cases selected
            obtain ⟨directPassed, directPenalized, directCritical⟩ := directs.direct (armed _ _ directFound)
            obtain ⟨proxyPassed, proxyPenalized, proxyCritical⟩ := proxies.proxy (armed _ _ proxyFound)
            exact ⟨⟨lane, replicate, direct', proxy'⟩, rfl, rfl, rfl, proxyPassed, proxyPenalized, proxyCritical, directPassed,
              directPenalized, directCritical, (TimedRecord.valid_iff.mp directs.valid).2.1⟩
          · rw [if_pos same] at selected
            cases selected

theorem validateAndPair_improved {records records' : List TimedRecord} {pairs : List TimedPair}
    (improves : List.Forall₂ (Relation.ReflTransGen Improvement) records records')
    (accepted : Timed.validateAndPair records = .ok pairs) :
    ∃ pairs', Timed.validateAndPair records' = .ok pairs' ∧ List.Forall₂ PairImproved pairs pairs' := by
  simp only [Timed.validateAndPair, bind_eq_ok, raiseIf_eq_ok] at accepted ⊢
  obtain ⟨_, complete, raw, gathered, selected⟩ := accepted
  obtain ⟨raw', gathered', rows⟩ := gather_improved .nil improves gathered
  obtain ⟨pairs', selected', related⟩ := mapEach_related selected fun _ _ _ found => selectPair_improved rows found
  rw [improves.length_eq] at complete
  exact ⟨pairs', ⟨(), complete, raw', gathered', selected'⟩, related⟩

/-! ## Summaries -/

theorem sumDecimals_exact (total : ℚ) (values : List ℚ) : Timed.sumDecimals .ok total values = .ok (total + values.sum) := by
  induction values generalizing total with
  | nil => rw [Timed.sumDecimals, List.sum_nil, add_zero]
  | cons value rest ih =>
      rw [List.sum_cons, ← add_assoc]
      exact ih (total + value)

theorem meanMicroseconds_exact (total : ℚ) {count : Nat} (positive : 0 < count) :
    ∃ mean, Timed.meanMicroseconds .ok total count = .ok mean := by
  have nonzero : (count : ℚ) ≠ 0 := by exact_mod_cast positive.ne'
  refine ⟨⌈total * 1000000 / count⌉, ?_⟩
  simp only [Timed.meanMicroseconds, Timed.divide, if_neg nonzero, bind, Except.bind]
  rfl

theorem ratioPpm_exact (numerator denominator : Option ℚ) :
    ∃ ratio, Timed.ratioPpm .ok numerator denominator = .ok ratio ∧
      (∀ top bottom, numerator = some top → denominator = some bottom → 0 < bottom → ratio.isSome = true) := by
  cases numerator with
  | none => exact ⟨none, rfl, fun _ _ same => by cases same⟩
  | some top =>
      cases denominator with
      | none => exact ⟨none, rfl, fun _ _ _ same => by cases same⟩
      | some bottom =>
          by_cases small : bottom ≤ 0
          · refine ⟨none, if_pos small, fun _ _ _ same positive => ?_⟩
            cases same
            exact absurd positive (not_lt.mpr small)
          · have nonzero : bottom ≠ 0 := (not_le.mp small).ne'
            refine ⟨some ⌈top * 1000000 / bottom⌉, ?_, fun _ _ _ _ _ => rfl⟩
            rw [Timed.ratioPpm, if_neg small]
            simp only [Timed.divide, if_neg nonzero, bind, Except.bind]
            rfl

/-- The figures that decide a promotion, and how two of them are rounded. -/
structure Figures (pairs : List TimedPair) (summary : Summary) : Prop where
  rowCount : summary.rowCount = pairs.length
  directValidCount : summary.directValidCount = pairs.countP fun pair => pair.direct.passed
  proxyValidCount : summary.proxyValidCount = pairs.countP fun pair => pair.proxy.passed
  directOnly : summary.directOnlySuccessCount = pairs.countP TimedPair.directOnly
  proxyOnly : summary.proxyOnlySuccessCount = pairs.countP TimedPair.proxyOnly
  critical : summary.proxyOnlyCriticalIntegrityViolationCount = pairs.countP TimedPair.proxyOnlyCritical
  directLoss : summary.directLoss = (pairs.map fun pair => pair.direct.penalized).sum
  proxyLoss : summary.proxyLoss = (pairs.map fun pair => pair.proxy.penalized).sum
  bothValid : summary.bothValidCount = pairs.countP TimedPair.bothValid
  successDelta : summary.successDeltaPpm =
    ((summary.proxyValidCount : Int) - summary.directValidCount) * 1000000 / (summary.rowCount : Int)
  ratio : Timed.ratioPpm .ok (some summary.proxyLoss) (some summary.directLoss) = .ok summary.penalizedMeanRatioPpm

theorem figures_of_summary {pairs : List TimedPair} {summary : Summary}
    (summarized : Timed.summarizePairs .ok pairs = .ok summary) : pairs ≠ [] ∧ Figures pairs summary := by
  simp only [Timed.summarizePairs, bind_eq_ok, raiseIf_eq_ok, liftDecimal_eq_ok, sumDecimals_exact, Except.ok.injEq, zero_add,
    pure, Except.pure] at summarized
  obtain ⟨_, nonempty, _, rfl, _, rfl, _, _, _, _, _, _, _, rated, _, _, _, _, rfl⟩ := summarized
  refine ⟨fun empty => ?_, rfl, rfl, rfl, rfl, rfl, rfl, rfl, rfl, List.countP_eq_length_filter.symm, rfl, rated⟩
  rw [empty] at nonempty
  cases nonempty

/-- Exact arithmetic summarizes any pairs, with a ratio wherever both arms
solve a case. -/
theorem summary_exists {pairs : List TimedPair} (nonempty : pairs ≠ []) (walls : ∀ pair ∈ pairs, 0 < pair.direct.wallS) :
    ∃ summary, Timed.summarizePairs .ok pairs = .ok summary ∧
      (0 < summary.bothValidCount → summary.conditional.ratio.isSome = true) := by
  have rows : 0 < pairs.length := List.length_pos_iff.mpr nonempty
  obtain ⟨directMean, directMeant⟩ := meanMicroseconds_exact (0 + (pairs.map fun pair => pair.direct.penalized).sum) rows
  obtain ⟨proxyMean, proxyMeant⟩ := meanMicroseconds_exact (0 + (pairs.map fun pair => pair.proxy.penalized).sum) rows
  obtain ⟨ratio, rated, _⟩ := ratioPpm_exact (some (0 + (pairs.map fun pair => pair.proxy.penalized).sum))
    (some (0 + (pairs.map fun pair => pair.direct.penalized).sum))
  let both := pairs.filter TimedPair.bothValid
  obtain ⟨bothRatio, bothRated, there⟩ := ratioPpm_exact (p95 (both.map fun pair => pair.proxy.wallS))
    (p95 (both.map fun pair => pair.direct.wallS))
  have figures : ∃ figures, Timed.conditional .ok (p95 (both.map fun pair => pair.direct.wallS))
      (p95 (both.map fun pair => pair.proxy.wallS)) = .ok figures ∧ figures.ratio = bothRatio := by
    simp only [Timed.conditional, bothRated]
    cases p95 (both.map fun pair => pair.direct.wallS) <;> cases p95 (both.map fun pair => pair.proxy.wallS) <;>
      exact ⟨_, rfl, rfl⟩
  obtain ⟨conditional, figured, ratioed⟩ := figures
  have present : pairs.isEmpty = false := by simpa using nonempty
  simp only [Timed.summarizePairs, bind_eq_ok, raiseIf_eq_ok, liftDecimal_eq_ok]
  refine ⟨_, ⟨(), present, _, sumDecimals_exact _ _, _, sumDecimals_exact _ _, conditional, figured, directMean, directMeant,
    proxyMean, proxyMeant, ratio, rated, _, rfl, _, rfl, rfl⟩, fun solved => ?_⟩
  have bothSome : both ≠ [] := List.length_pos_iff.mp solved
  obtain ⟨top, _, topAt⟩ := p95_some (fun empty => bothSome (List.map_eq_nil_iff.mp empty) :
    both.map (fun pair => pair.proxy.wallS) ≠ [])
  obtain ⟨bottom, member, bottomAt⟩ := p95_some (fun empty => bothSome (List.map_eq_nil_iff.mp empty) :
    both.map (fun pair => pair.direct.wallS) ≠ [])
  obtain ⟨pair, inside, rfl⟩ := List.mem_map.mp member
  exact ratioed ▸ there top _ topAt bottomAt (walls pair (List.mem_of_mem_filter inside))

theorem conditionalStatus_exists {summary : Summary}
    (there : 0 < summary.bothValidCount → summary.conditional.ratio.isSome = true) :
    ∃ status, conditionalStatus summary = .ok status := by
  by_cases few : summary.bothValidCount < conditionalMinBothValidRows
  · exact ⟨.unavailable, if_pos few⟩
  · have enough : 0 < summary.bothValidCount := lt_of_lt_of_le (by decide) (not_lt.mp few)
    obtain ⟨ratio, same⟩ := Option.isSome_iff_exists.mp (there enough)
    rw [conditionalStatus, if_neg few, same]
    exact ⟨_, rfl⟩

/-- The figures move in favour of the proxy. -/
structure SummaryImproved (before after : Summary) : Prop where
  rowCount : after.rowCount = before.rowCount
  directValidCount : after.directValidCount ≤ before.directValidCount
  proxyValidCount : before.proxyValidCount ≤ after.proxyValidCount
  directOnly : after.directOnlySuccessCount ≤ before.directOnlySuccessCount
  proxyOnly : before.proxyOnlySuccessCount ≤ after.proxyOnlySuccessCount
  critical : after.proxyOnlyCriticalIntegrityViolationCount ≤ before.proxyOnlyCriticalIntegrityViolationCount
  directLoss : before.directLoss ≤ after.directLoss
  proxyLoss : after.proxyLoss ≤ before.proxyLoss

theorem figures_improved {pairs pairs' : List TimedPair} {summary summary' : Summary} (figures : Figures pairs summary)
    (figures' : Figures pairs' summary') (related : List.Forall₂ PairImproved pairs pairs') :
    SummaryImproved summary summary' where
  rowCount := by rw [figures.rowCount, figures'.rowCount, related.length_eq]
  directValidCount := by
    rw [figures.directValidCount, figures'.directValidCount]
    exact countP_mono (fun _ _ rows => rows.directPassed) related.flip
  proxyValidCount := by
    rw [figures.proxyValidCount, figures'.proxyValidCount]
    exact countP_mono (fun _ _ rows => rows.proxyPassed) related
  directOnly := by
    rw [figures.directOnly, figures'.directOnly]
    refine countP_mono (fun after before rows => ?_) related.flip
    simp only [TimedPair.directOnly, Bool.and_eq_true, Bool.not_eq_true']
    exact fun ⟨direct, proxy⟩ => ⟨rows.directPassed direct, Bool.eq_false_iff.mpr fun solved =>
      Bool.eq_false_iff.mp proxy (rows.proxyPassed solved)⟩
  proxyOnly := by
    rw [figures.proxyOnly, figures'.proxyOnly]
    refine countP_mono (fun before after rows => ?_) related
    simp only [TimedPair.proxyOnly, Bool.and_eq_true, Bool.not_eq_true']
    exact fun ⟨proxy, direct⟩ => ⟨rows.proxyPassed proxy, Bool.eq_false_iff.mpr fun solved =>
      Bool.eq_false_iff.mp direct (rows.directPassed solved)⟩
  critical := by
    rw [figures.critical, figures'.critical]
    refine countP_mono (fun after before rows => ?_) related.flip
    simp only [TimedPair.proxyOnlyCritical, Bool.and_eq_true, Bool.not_eq_true', rows.directCritical]
    exact fun ⟨proxy, direct⟩ => ⟨rows.proxyCritical proxy, direct⟩
  directLoss := by
    rw [figures.directLoss, figures'.directLoss]
    exact sum_mono (fun _ _ rows => rows.directPenalized) related
  proxyLoss := by
    rw [figures.proxyLoss, figures'.proxyLoss]
    exact sum_mono (fun _ _ rows => rows.proxyPenalized) related.flip

theorem summarizePairs_improved {pairs pairs' : List TimedPair} {summary : Summary}
    (summarized : Timed.summarizePairs .ok pairs = .ok summary) (related : List.Forall₂ PairImproved pairs pairs') :
    ∃ summary', Timed.summarizePairs .ok pairs' = .ok summary' ∧ SummaryImproved summary summary' ∧
      ∃ status, conditionalStatus summary' = .ok status := by
  obtain ⟨nonempty, figures⟩ := figures_of_summary summarized
  have rows' : pairs' ≠ [] := by
    have length := related.length_eq
    have some_ := List.length_pos_iff.mpr nonempty
    exact List.length_pos_iff.mp (by omega)
  have walls : ∀ pair ∈ pairs', 0 < pair.direct.wallS := by
    intro pair member
    obtain ⟨before, _, rows⟩ := forall₂_mem_right related member
    exact rows.directWall
  obtain ⟨summary', summarized', there⟩ := summary_exists rows' walls
  exact ⟨summary', summarized', figures_improved figures (figures_of_summary summarized').2 related,
    conditionalStatus_exists there⟩

/-! ## Gates -/

theorem qualityDeltaAtLeast_improved {before after : Summary} (improved : SummaryImproved before after) (thresholdPpm : Int)
    (passed : qualityDeltaAtLeast before thresholdPpm = true) : qualityDeltaAtLeast after thresholdPpm = true := by
  have direct := improved.directValidCount
  have proxy := improved.proxyValidCount
  simp only [qualityDeltaAtLeast, improved.rowCount, decide_eq_true_eq] at passed ⊢
  omega

theorem ratioAtMost_exact (summary : Summary) (thresholdPpm : Nat) : Timed.ratioAtMost .ok summary thresholdPpm =
    .ok (decide (summary.proxyLoss * 1000000 ≤ summary.directLoss * thresholdPpm)) := rfl

theorem ratio_improved {before after : Summary} (improved : SummaryImproved before after) (thresholdPpm : Nat)
    (passed : decide (before.proxyLoss * 1000000 ≤ before.directLoss * thresholdPpm) = true) :
    decide (after.proxyLoss * 1000000 ≤ after.directLoss * thresholdPpm) = true := by
  have direct : before.directLoss * thresholdPpm ≤ after.directLoss * thresholdPpm :=
    mul_le_mul_of_nonneg_right improved.directLoss (Nat.cast_nonneg _)
  have proxy := improved.proxyLoss
  simp only [decide_eq_true_eq] at passed ⊢
  linarith

theorem tail_eq_upperTail (proxyOnly discordant : Nat) : tail proxyOnly discordant = Data.upperTail proxyOnly discordant := by
  rw [tail, Data.upperTail, Nat.Icc_eq_range', Finset.sum]
  rfl

/-- A test that rejects still rejects with more pairs for the proxy and fewer
against it. -/
theorem mcnemar_improved {proxyOnly directOnly proxyOnly' directOnly' : Nat} (more : proxyOnly ≤ proxyOnly')
    (fewer : directOnly' ≤ directOnly) (alphaPpm : Nat)
    (supports : mcnemarSupportsProxyBenefit (exactOneSidedMcnemar proxyOnly directOnly) alphaPpm = true) :
    mcnemarSupportsProxyBenefit (exactOneSidedMcnemar proxyOnly' directOnly') alphaPpm = true := by
  have tails := Data.upperTail_le more fewer
  have positive : 0 < 2 ^ (proxyOnly + directOnly) := Nat.two_pow_pos _
  simp only [mcnemarSupportsProxyBenefit, exactOneSidedMcnemar, tail_eq_upperTail, decide_eq_true_eq] at supports ⊢
  refine lt_of_mul_lt_mul_right ?_ positive.le
  calc Data.upperTail proxyOnly' (proxyOnly' + directOnly') * 1000000 * 2 ^ (proxyOnly + directOnly)
      = Data.upperTail proxyOnly' (proxyOnly' + directOnly') * 2 ^ (proxyOnly + directOnly) * 1000000 := by ring
    _ ≤ Data.upperTail proxyOnly (proxyOnly + directOnly) * 2 ^ (proxyOnly' + directOnly') * 1000000 :=
        Nat.mul_le_mul_right _ tails
    _ = Data.upperTail proxyOnly (proxyOnly + directOnly) * 1000000 * 2 ^ (proxyOnly' + directOnly') := by ring
    _ < 2 ^ (proxyOnly + directOnly) * alphaPpm * 2 ^ (proxyOnly' + directOnly') :=
        Nat.mul_lt_mul_of_pos_right supports (Nat.two_pow_pos _)
    _ = 2 ^ (proxyOnly' + directOnly') * alphaPpm * 2 ^ (proxyOnly + directOnly) := by ring

/-! ## Reports -/

structure ReplicateImproved (before after : ReplicateReport) : Prop where
  quality : before.qualityPassed = true → after.qualityPassed = true
  time : before.timePassed = true → after.timePassed = true

structure LaneImproved (before after : LaneReport) : Prop where
  summary : SummaryImproved before.summary after.summary
  time : before.timePass = true → after.timePass = true
  qualityWins : before.qualityWins ≤ after.qualityWins
  timeWins : before.timeWins ≤ after.timeWins

section
variable {pairs pairs' : List TimedPair} (related : List.Forall₂ PairImproved pairs pairs')
include related

theorem filter_improved (kept : Lane → Nat → Bool) : List.Forall₂ PairImproved
    (pairs.filter fun pair => kept pair.lane pair.replicate) (pairs'.filter fun pair => kept pair.lane pair.replicate) := by
  refine List.rel_filter (fun before after rows => ?_) related
  change kept before.lane before.replicate = true ↔ kept after.lane after.replicate = true
  rw [rows.lane, rows.replicate]

theorem reportReplicate_improved {lane : Lane} {replicate : Nat} {report : ReplicateReport}
    (reported : Timed.reportReplicate .ok pairs lane replicate = .ok report) :
    ∃ report', Timed.reportReplicate .ok pairs' lane replicate = .ok report' ∧ ReplicateImproved report report' := by
  simp only [Timed.reportReplicate, ratioAtMost_exact, bind_eq_ok, Except.ok.injEq, pure, Except.pure] at reported ⊢
  obtain ⟨summary, summarized, _, rfl, rfl⟩ := reported
  obtain ⟨summary', summarized', improved, _⟩ := summarizePairs_improved summarized
    (filter_improved related fun l r => decide (l = lane ∧ r = replicate))
  exact ⟨_, ⟨summary', summarized', _, rfl, rfl⟩, qualityDeltaAtLeast_improved improved 0, ratio_improved improved _⟩

theorem reportLane_improved {lane : Lane} {report : LaneReport} (reported : Timed.reportLane .ok pairs lane = .ok report) :
    ∃ report', Timed.reportLane .ok pairs' lane = .ok report' ∧ LaneImproved report report' := by
  simp only [Timed.reportLane, ratioAtMost_exact, bind_eq_ok, Except.ok.injEq, pure, Except.pure] at reported ⊢
  obtain ⟨summary, summarized, _, rfl, status, rated, replicates, each, rfl⟩ := reported
  obtain ⟨summary', summarized', improved, status', rated'⟩ := summarizePairs_improved summarized
    (filter_improved related fun l _ => decide (l = lane))
  obtain ⟨replicates', each', wins⟩ := mapEach_related each fun _ _ _ run => reportReplicate_improved related run
  exact ⟨_, ⟨summary', summarized', _, rfl, status', rated', replicates', each', rfl⟩, improved, ratio_improved improved _,
    countP_mono (fun _ _ rows => rows.quality) wins, countP_mono (fun _ _ rows => rows.time) wins⟩

end

/-- Promotion is monotone in the proxy and antitone in the direct arm. -/
theorem promotion_monotone {records records' : List TimedRecord} {evaluation : Evaluation}
    (accepted : Timed.evaluateQualificationV2 .ok records = .ok evaluation)
    (improves : List.Forall₂ (Relation.ReflTransGen Improvement) records records')
    (promoted : evaluation.gates.promotionPassed = true) :
    ∃ evaluation', Timed.evaluateQualificationV2 .ok records' = .ok evaluation' ∧
      evaluation'.gates.promotionPassed = true := by
  simp only [Timed.evaluateQualificationV2, ratioAtMost_exact, bind_eq_ok, Except.ok.injEq, pure, Except.pure] at accepted ⊢
  obtain ⟨pairs, paired, pooled, summarized, reports, reported, _, rfl, rfl⟩ := accepted
  obtain ⟨pairs', paired', related⟩ := validateAndPair_improved improves paired
  obtain ⟨pooled', summarized', improved, _⟩ := summarizePairs_improved summarized related
  obtain ⟨reports', reported', better⟩ := mapEach_related reported fun _ _ _ run => reportLane_improved related run
  refine ⟨_, ⟨pairs', paired', pooled', summarized', reports', reported', _, rfl, rfl⟩, ?_⟩
  simp only [Gates.promotionPassed, Bool.and_eq_true, decide_eq_true_eq] at promoted ⊢
  obtain ⟨⟨⟨⟨critical, delta⟩, lanesDelta⟩, ⟨⟨benefit, lanesQuality⟩, wins⟩, supports⟩, ⟨time, lanesTime⟩, timeWins⟩ := promoted
  have quality (thresholdPpm : Int) (before after : LaneReport) (rows : LaneImproved before after) :=
    qualityDeltaAtLeast_improved rows.summary thresholdPpm
  have reached (bound : Nat) (count : LaneReport → Nat) (grows : ∀ before after, LaneImproved before after → count before ≤ count after)
      (before after : LaneReport) (rows : LaneImproved before after) (enough : decide (bound ≤ count before) = true) :
      decide (bound ≤ count after) = true :=
    decide_eq_true ((of_decide_eq_true enough).trans (grows before after rows))
  refine ⟨⟨⟨⟨?_, ?_⟩, ?_⟩, ⟨⟨?_, ?_⟩, ?_⟩, ?_⟩, ⟨?_, ?_⟩, ?_⟩
  · exact Nat.le_zero.mp (critical ▸ improved.critical)
  · exact qualityDeltaAtLeast_improved improved _ delta
  · exact all_mono (quality _) better lanesDelta
  · exact qualityDeltaAtLeast_improved improved _ benefit
  · exact all_mono (quality _) better lanesQuality
  · exact all_mono (reached _ _ fun _ _ rows => rows.qualityWins) better wins
  · exact mcnemar_improved improved.proxyOnly improved.directOnly _ supports
  · simpa using ratio_improved improved timePooledMaxRatioPpm (by simpa using time)
  · exact all_mono (fun _ _ rows => rows.time) better lanesTime
  · exact all_mono (reached _ _ fun _ _ rows => rows.timeWins) better timeWins

/-- Only the proxy solves its cases, in half of the deadline. -/
def winningRecord (arm : Text) (position : Lane × Nat × Nat) : V2OutcomeRecord where
  caseOrdinal := position.2.2
  cacheLane := position.1.name
  replicate := position.2.1
  arm := arm
  passed := arm = "proxy"
  wallS := .finite 1 0
  deadlineS := .finite 2 0
  criticalIntegrityViolation := false

def winningRecords : List V2OutcomeRecord :=
  cohort.flatMap fun position => [winningRecord "direct" position, winningRecord "proxy" position]

theorem winning_promoted : ∃ evaluation,
    Timed.evaluateQualificationV2 .ok (winningRecords.map V2OutcomeRecord.timed) = .ok evaluation ∧
      evaluation.gates.promotionPassed = true := by
  have small : (Decimal.finite 1 0).value ≤ (Decimal.finite 2 0).value := by decide +kernel
  have accepted := cohort_accepted winningRecord (fun _ _ => rfl) (fun _ _ => rfl)
    fun _ member => ⟨validRecord_at member rfl (.inl rfl) rfl rfl small, validRecord_at member rfl (.inr rfl) rfl rfl small⟩
  have paired := (validateAndPair_timed winningRecords).trans
    (congrArg (Except.map (List.map Pair.timed)) (validateAndPair_eq_ok_iff.mpr accepted))
  have evaluated : (Timed.evaluateQualificationV2 .ok (winningRecords.map V2OutcomeRecord.timed)).map
      (fun evaluation => evaluation.gates.promotionPassed) = .ok true := by
    rw [Timed.evaluateQualificationV2, paired]
    decide +kernel
  cases run : Timed.evaluateQualificationV2 .ok (winningRecords.map V2OutcomeRecord.timed) with
  | error error => rw [run] at evaluated; cases evaluated
  | ok evaluation => exact ⟨evaluation, rfl, by rw [run] at evaluated; exact Except.ok.inj evaluated⟩

/-- A valid outcome in half of its time. -/
def halved (record : V2OutcomeRecord) : TimedRecord :=
  { record.timed with wallS := if record.passed then 1 / 2 else record.timed.wallS }

theorem promotion_monotone_halved : ∃ evaluation',
    Timed.evaluateQualificationV2 .ok (winningRecords.map halved) = .ok evaluation' ∧
      evaluation'.gates.promotionPassed = true := by
  obtain ⟨evaluation, accepted, promoted⟩ := winning_promoted
  have positive : (0 : ℚ) < 1 / 2 := by norm_num
  have half : (1 / 2 : ℚ) ≤ (Decimal.finite 1 0).value := by decide +kernel
  have each (arm : Text) (position : Lane × Nat × Nat) (armed : arm = "direct" ∨ arm = "proxy") :
      Relation.ReflTransGen Improvement (winningRecord arm position).timed (halved (winningRecord arm position)) := by
    rcases armed with rfl | rfl
    · exact .refl
    · exact .single (.faster rfl rfl positive half)
  have improves : List.Forall₂ (Relation.ReflTransGen Improvement) (winningRecords.map V2OutcomeRecord.timed)
      (winningRecords.map halved) := by
    refine List.forall₂_map_left_iff.mpr (List.forall₂_map_right_iff.mpr (List.forall₂_same.mpr fun record member => ?_))
    obtain ⟨position, _, either⟩ := List.mem_flatMap.mp member
    simp only [List.mem_cons, List.not_mem_nil, or_false] at either
    rcases either with rfl | rfl
    · exact each _ position (.inl rfl)
    · exact each _ position (.inr rfl)
  exact promotion_monotone accepted improves promoted

end HarnessProxy.Evidence

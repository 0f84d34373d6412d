import HarnessProxy.Evidence.Summaries
import Mathlib.Data.List.Nodup

namespace HarnessProxy.Evidence

open V2OutcomeRecord

/-! # Records by arm and lane

The pairs of an accepted set hold each record once, so that what the evaluator
counts over pairs can be counted over records.
-/

theorem Lane.name_injective : Function.Injective Lane.name := by
  intro left right same
  cases left <;> cases right <;> first | rfl | exact absurd same (by decide)

theorem cohort_nodup : cohort.Nodup := by
  have product : cohort = lanes ×ˢ List.range' 1 replicatesPerLane ×ˢ List.range' 1 caseCount := by
    simp only [cohort, SProd.sprod, List.product, List.map_flatMap, List.map_map]
    rfl
  have distinct : lanes.Nodup := by decide
  rw [product]
  exact distinct.product ((List.nodup_range').product List.nodup_range')

theorem mem_cohort {lane : Lane} {replicate ordinal : Nat} (replicateBounds : 1 ≤ replicate ∧ replicate ≤ replicatesPerLane)
    (ordinalBounds : 1 ≤ ordinal ∧ ordinal ≤ caseCount) : (lane, replicate, ordinal) ∈ cohort := by
  refine List.mem_flatMap.mpr ⟨lane, by cases lane <;> decide, List.mem_flatMap.mpr ⟨replicate, ?_, ?_⟩⟩
  · exact List.mem_range'_1.mpr ⟨replicateBounds.1, by omega⟩
  · exact List.mem_map.mpr ⟨ordinal, List.mem_range'_1.mpr ⟨ordinalBounds.1, by omega⟩, rfl⟩

/-- Where the record of one arm stands. -/
def armPlace (arm : Text) (position : Lane × Nat × Nat) : Int × Int × Text × Text :=
  ((position.2.2 : Int), (position.2.1 : Int), arm, position.1.name)

theorem armPlace_injective (arm : Text) : Function.Injective (armPlace arm) := by
  rintro ⟨lane, replicate, ordinal⟩ ⟨otherLane, otherReplicate, otherOrdinal⟩ same
  simp only [armPlace, Prod.mk.injEq] at same
  obtain ⟨ordinals, replicates, _, names⟩ := same
  rw [Lane.name_injective names, Int.natCast_inj.mp replicates, Int.natCast_inj.mp ordinals]

/-- A valid record stands at a place of the cohort. -/
theorem place_of_valid {record : V2OutcomeRecord} (valid : validRecord record = true) :
    ∃ position ∈ cohort, record.place = armPlace record.arm position := by
  simp only [validRecord, Bool.and_eq_true, decide_eq_true_eq] at valid
  obtain ⟨⟨⟨⟨⟨⟨ordinal, lane⟩, replicate⟩, _⟩, _⟩, _⟩, _⟩ := valid
  obtain ⟨cacheLane, _, named⟩ := List.mem_map.mp lane
  refine ⟨(cacheLane, record.replicate.toNat, record.caseOrdinal.toNat), mem_cohort (by omega) (by omega), ?_⟩
  rw [V2OutcomeRecord.place, armPlace, named, Int.toNat_of_nonneg (by omega), Int.toNat_of_nonneg (by omega)]

/-- The record of one arm in a pair. -/
structure Side (side : Pair → V2OutcomeRecord) (arm : Text) : Prop where
  sound : ∀ {records lane replicate ordinal pair}, Matches records lane replicate ordinal pair →
    side pair ∈ records ∧ (side pair).place = armPlace arm (lane, replicate, ordinal)

theorem directSide : Side Pair.direct "direct" := ⟨fun matched => ⟨matched.directMember, matched.directPlace⟩⟩
theorem proxySide : Side Pair.proxy "proxy" := ⟨fun matched => ⟨matched.proxyMember, matched.proxyPlace⟩⟩

/-- The records of one arm, in a whole set or in one lane. -/
def ofArm (arm : Text) (records : List V2OutcomeRecord) : List V2OutcomeRecord := records.filter fun record => record.arm = arm

def inLane (lane : Lane) (records : List V2OutcomeRecord) : List V2OutcomeRecord :=
  records.filter fun record => record.cacheLane = lane.name

section
variable {records : List V2OutcomeRecord} {pairs : List Pair} (accepted : AcceptedSet records pairs)
  {side : Pair → V2OutcomeRecord} {arm : Text} (sided : Side side arm)
include accepted sided

theorem side_perm : (pairs.map side).Perm (ofArm arm records) := by
  have places : (pairs.map side).map place = cohort.map (armPlace arm) := by
    have related := accepted.paired
    clear accepted
    generalize cohort = positions at related ⊢
    induction related with
    | nil => rfl
    | cons head _ ih => rw [List.map_cons, List.map_cons, List.map_cons, ih, (sided.sound head).2]
  have placesNodup : ((pairs.map side).map place).Nodup := places ▸ cohort_nodup.map (armPlace_injective arm)
  have recordsNodup : records.Nodup := List.Nodup.of_map place (List.pairwise_map.mpr (accepted.consistent.imp And.left))
  refine (List.perm_ext_iff_of_nodup (List.Nodup.of_map place placesNodup) (recordsNodup.filter _)).mpr fun record => ?_
  rw [List.mem_map, List.mem_filter, decide_eq_true_eq]
  constructor
  · rintro ⟨pair, member, rfl⟩
    obtain ⟨lane, replicate, ordinal, matched⟩ := accepted.matches_of_pair member
    obtain ⟨inside, placed⟩ := sided.sound matched
    exact ⟨inside, (Prod.mk.inj (Prod.mk.inj (Prod.mk.inj placed).2).2).1⟩
  · rintro ⟨inside, armed⟩
    obtain ⟨position, positioned, placed⟩ := place_of_valid (accepted.valid record inside)
    obtain ⟨pair, member, matched⟩ := accepted.pair_of_position positioned
    obtain ⟨sideMember, sidePlace⟩ := sided.sound matched
    refine ⟨pair, member, eq_of_place accepted.consistent sideMember inside ?_⟩
    rw [sidePlace, placed, armed]

theorem side_cacheLane {pair : Pair} (member : pair ∈ pairs) (lane : Lane) :
    (side pair).cacheLane = lane.name ↔ pair.lane = lane := by
  obtain ⟨found, replicate, ordinal, matched⟩ := accepted.matches_of_pair member
  have placed := (sided.sound matched).2
  have named : (side pair).cacheLane = found.name := (Prod.mk.inj (Prod.mk.inj (Prod.mk.inj placed).2).2).2
  rw [named, Lane.name_injective.eq_iff, matched.lane_eq]

theorem side_perm_lane (lane : Lane) : ((ofLane pairs lane).map side).Perm (ofArm arm (inLane lane records)) := by
  have filtered := (side_perm accepted sided).filter fun record => decide (record.cacheLane = lane.name)
  have left : (pairs.map side).filter (fun record => decide (record.cacheLane = lane.name)) = (ofLane pairs lane).map side := by
    rw [List.filter_map, ofLane]
    refine congrArg (List.map side) (List.filter_congr fun pair member => ?_)
    exact decide_eq_decide.mpr (side_cacheLane accepted sided member lane)
  have right : (ofArm arm records).filter (fun record => decide (record.cacheLane = lane.name)) =
      ofArm arm (inLane lane records) := by
    rw [ofArm, ofArm, inLane, List.filter_filter, List.filter_filter]
    exact List.filter_congr fun record _ => Bool.and_comm _ _
  rwa [left, right] at filtered

end

/-! ## Filling the cohort -/

theorem validRecord_at {record : V2OutcomeRecord} {arm : Text} {position : Lane × Nat × Nat} (member : position ∈ cohort)
    (placed : record.place = armPlace arm position) (armed : arm = "direct" ∨ arm = "proxy")
    (wall : record.wallS.positiveFinite = true) (deadline : record.deadlineS.positiveFinite = true)
    (inTime : record.wallS.value ≤ record.deadlineS.value) : validRecord record = true := by
  obtain ⟨lane, _, inLane⟩ := List.mem_flatMap.mp member
  obtain ⟨replicate, inReplicates, inReplicate⟩ := List.mem_flatMap.mp inLane
  obtain ⟨ordinal, inOrdinals, rfl⟩ := List.mem_map.mp inReplicate
  obtain ⟨replicateLow, replicateHigh⟩ := List.mem_range'_1.mp inReplicates
  obtain ⟨ordinalLow, ordinalHigh⟩ := List.mem_range'_1.mp inOrdinals
  simp only [V2OutcomeRecord.place, armPlace, Prod.mk.injEq] at placed
  obtain ⟨ordinalAt, replicateAt, armAt, laneAt⟩ := placed
  have named : lane.name ∈ lanes.map Lane.name := List.mem_map_of_mem (by cases lane <;> decide)
  have ordinals : (1 : Int) ≤ ordinal ∧ (ordinal : Int) ≤ caseCount := by omega
  have replicates : (1 : Int) ≤ replicate ∧ (replicate : Int) ≤ replicatesPerLane := by omega
  have notLate := not_lt.mpr inTime
  simp only [validRecord, ordinalAt, replicateAt, armAt, laneAt, ordinals, replicates, named, wall, deadline, notLate,
    and_self, decide_true, Bool.true_and, decide_false, Bool.and_false, Bool.not_false, Bool.and_true]
  rcases armed with rfl | rfl <;> rfl

/-- Both arms of every case in one replicate of a lane after the other. -/
theorem cohort_accepted (record : Text → Lane × Nat × Nat → V2OutcomeRecord) {deadline : Decimal}
    (placed : ∀ arm position, (record arm position).place = armPlace arm position)
    (deadlines : ∀ arm position, (record arm position).deadlineS = deadline)
    (valid : ∀ position ∈ cohort, validRecord (record "direct" position) = true ∧ validRecord (record "proxy" position) = true) :
    AcceptedSet (cohort.flatMap fun position => [record "direct" position, record "proxy" position])
      (cohort.map fun position => ⟨position.1, position.2.1, record "direct" position, record "proxy" position⟩) where
  complete := by
    have each : ∀ position ∈ cohort, [record "direct" position, record "proxy" position].length = 2 := fun _ _ => rfl
    have count : cohort.length = 240 := rfl
    rw [List.length_flatMap, List.map_congr_left each, List.map_const', List.sum_replicate, count]
    rfl
  valid found member := by
    obtain ⟨position, inside, either⟩ := List.mem_flatMap.mp member
    simp only [List.mem_cons, List.not_mem_nil, or_false] at either
    rcases either with rfl | rfl
    · exact (valid position inside).1
    · exact (valid position inside).2
  consistent := by
    have deadlineOf : ∀ found ∈ cohort.flatMap fun position => [record "direct" position, record "proxy" position],
        found.deadlineS = deadline := by
      intro found member
      obtain ⟨position, _, either⟩ := List.mem_flatMap.mp member
      simp only [List.mem_cons, List.not_mem_nil, or_false] at either
      rcases either with rfl | rfl <;> exact deadlines _ _
    have arms : Text.literal "direct" ≠ Text.literal "proxy" := by decide
    have armed {arm other : Text} {first second : Lane × Nat × Nat}
        (same : (record arm first).place = (record other second).place) : arm = other := by
      rw [placed, placed] at same
      exact (Prod.mk.inj (Prod.mk.inj (Prod.mk.inj same).2).2).1
    have positioned {arm : Text} {first second : Lane × Nat × Nat}
        (same : (record arm first).place = (record arm second).place) : first = second := by
      rw [placed, placed] at same
      exact armPlace_injective arm same
    have places : (cohort.flatMap fun position => [record "direct" position, record "proxy" position]).Pairwise
        fun left right => left.place ≠ right.place := by
      refine List.pairwise_flatMap.mpr ⟨fun position _ => ?_, cohort_nodup.imp fun {first second} different => ?_⟩
      · exact List.pairwise_pair.mpr fun same => arms (armed same)
      · intro left leftMember right rightMember same
        simp only [List.mem_cons, List.not_mem_nil, or_false] at leftMember rightMember
        rcases leftMember with rfl | rfl <;> rcases rightMember with rfl | rfl
        · exact different (positioned same)
        · exact arms (armed same)
        · exact arms (armed same).symm
        · exact different (positioned same)
    exact places.imp_of_mem fun left right different =>
      ⟨different, fun _ => by rw [deadlineOf _ left, deadlineOf _ right]⟩
  paired := by
    refine List.forall₂_map_right_iff.mpr (List.forall₂_same.mpr fun position member => ?_)
    exact ⟨rfl, rfl, List.mem_flatMap.mpr ⟨position, member, List.mem_cons_self⟩, placed _ _,
      List.mem_flatMap.mpr ⟨position, member, List.mem_cons_of_mem _ List.mem_cons_self⟩, placed _ _⟩

end HarnessProxy.Evidence

import HarnessProxy.Evidence.Evaluator

namespace HarnessProxy.Evidence

/-! # Matched outcomes

Which record sets are paired, and what the pairs are.
-/

namespace V2OutcomeRecord

/-- Where a record stands in the cohort. -/
def place (record : V2OutcomeRecord) : Int × Int × Text × Text :=
  (record.caseOrdinal, record.replicate, record.arm, record.cacheLane)

theorem isAt_iff {record : V2OutcomeRecord} {cacheLane : Text} {replicate caseOrdinal : Int} {arm : Text} :
    record.isAt cacheLane replicate caseOrdinal arm = true ↔ record.place = (caseOrdinal, replicate, arm, cacheLane) := by
  simp [isAt, place, and_assoc]

/-- Two records of one set: another place, and one deadline for each case. -/
def Compatible (left right : V2OutcomeRecord) : Prop :=
  left.place ≠ right.place ∧ (left.caseOrdinal = right.caseOrdinal → left.deadlineS.value = right.deadlineS.value)

end V2OutcomeRecord

open V2OutcomeRecord

theorem any_isAt_eq_false {raw : List V2OutcomeRecord} {record : V2OutcomeRecord} :
    (raw.any fun before => before.isAt record.cacheLane record.replicate record.caseOrdinal record.arm) = false ↔
      ∀ before ∈ raw, before.place ≠ record.place := by
  rw [List.any_eq_false]
  exact forall₂_congr fun before _ => not_congr isAt_iff

/-- The first record of a case speaks for all of them. -/
theorem prior_eq_iff {raw : List V2OutcomeRecord} {record : V2OutcomeRecord} (consistent : raw.Pairwise Compatible) :
    ((raw.find? fun before => before.caseOrdinal = record.caseOrdinal).getD record).deadlineS.value =
        record.deadlineS.value ↔
      ∀ before ∈ raw, before.caseOrdinal = record.caseOrdinal → before.deadlineS.value = record.deadlineS.value := by
  induction raw with
  | nil => simp
  | cons first rest ih =>
      obtain ⟨head, tail⟩ := List.pairwise_cons.mp consistent
      by_cases same : first.caseOrdinal = record.caseOrdinal
      · simp only [List.find?_cons, same, decide_true, Option.getD_some, List.mem_cons, forall_eq_or_imp, forall_const]
        refine ⟨fun agrees => ⟨agrees, fun before member caseSame => ?_⟩, And.left⟩
        rw [← (head before member).2 (same.trans caseSame.symm), agrees]
      · simpa [List.find?_cons, same] using ih tail

theorem gather_eq_ok_iff {records raw result : List V2OutcomeRecord} (consistent : raw.Pairwise Compatible) :
    gather raw records = .ok result ↔
      result = raw ++ records ∧ (∀ record ∈ records, validRecord record = true) ∧
        (raw ++ records).Pairwise Compatible := by
  induction records generalizing raw with
  | nil =>
      rw [gather, Except.ok.injEq, List.append_nil]
      exact ⟨fun same => ⟨same.symm, fun _ member => (by cases member), consistent⟩, fun both => both.1.symm⟩
  | cons record rest ih =>
      have extended : (raw ++ [record]).Pairwise Compatible ↔
          (∀ before ∈ raw, before.place ≠ record.place) ∧
            ∀ before ∈ raw, before.caseOrdinal = record.caseOrdinal → before.deadlineS.value = record.deadlineS.value := by
        simp only [List.pairwise_append, consistent, List.pairwise_singleton, List.mem_singleton, forall_eq, true_and]
        exact ⟨fun both => ⟨fun before member => (both before member).1, fun before member => (both before member).2⟩,
          fun both before member => ⟨both.1 before member, both.2 before member⟩⟩
      have regrouped : raw ++ record :: rest = raw ++ [record] ++ rest := by rw [List.append_assoc, List.singleton_append]
      constructor
      · intro gathered
        simp only [gather, bind_eq_ok, raiseIf_eq_ok, Bool.not_eq_false', decide_eq_false_iff_not, not_not] at gathered
        obtain ⟨_, valid, _, fresh, _, agrees, remaining⟩ := gathered
        have fits := extended.mpr ⟨any_isAt_eq_false.mp fresh, (prior_eq_iff consistent).mp agrees⟩
        obtain ⟨same, others, all⟩ := (ih fits).mp remaining
        rw [regrouped]
        exact ⟨same, List.forall_mem_cons.mpr ⟨valid, others⟩, all⟩
      · rintro ⟨same, valid, all⟩
        rw [regrouped] at same all
        obtain ⟨recordValid, others⟩ := List.forall_mem_cons.mp valid
        have fits := (List.pairwise_append.mp all).1
        obtain ⟨fresh, agrees⟩ := extended.mp fits
        simp only [gather, bind_eq_ok, raiseIf_eq_ok, Bool.not_eq_false', decide_eq_false_iff_not, not_not]
        exact ⟨(), recordValid, (), any_isAt_eq_false.mpr fresh, (), (prior_eq_iff consistent).mpr agrees,
          (ih fits).mpr ⟨same, others, all⟩⟩

/-- What a pair of an accepted set is made of. -/
structure Matches (records : List V2OutcomeRecord) (lane : Lane) (replicate caseOrdinal : Nat) (pair : Pair) : Prop where
  lane_eq : pair.lane = lane
  replicate_eq : pair.replicate = replicate
  directMember : pair.direct ∈ records
  directPlace : pair.direct.place = ((caseOrdinal : Int), (replicate : Int), Text.literal "direct", lane.name)
  proxyMember : pair.proxy ∈ records
  proxyPlace : pair.proxy.place = ((caseOrdinal : Int), (replicate : Int), Text.literal "proxy", lane.name)

theorem selectPair_eq_ok {records : List V2OutcomeRecord} {lane : Lane} {replicate caseOrdinal : Nat} {pair : Pair}
    (selected : selectPair records lane replicate caseOrdinal = .ok pair) :
    Matches records lane replicate caseOrdinal pair := by
  unfold selectPair at selected
  cases direct : records.find? fun record => record.isAt lane.name replicate caseOrdinal "direct" with
  | none => simp [direct] at selected
  | some left =>
      cases proxy : records.find? fun record => record.isAt lane.name replicate caseOrdinal "proxy" with
      | none => simp [direct, proxy] at selected
      | some right =>
          simp only [direct, proxy] at selected
          split at selected
          · cases selected
          · cases selected
            have directAt := List.find?_some direct
            have proxyAt := List.find?_some proxy
            exact ⟨rfl, rfl, List.mem_of_find?_eq_some direct, isAt_iff.mp directAt,
              List.mem_of_find?_eq_some proxy, isAt_iff.mp proxyAt⟩

/-- The records of a set have different places. -/
theorem eq_of_place {records : List V2OutcomeRecord} (consistent : records.Pairwise Compatible)
    {left right : V2OutcomeRecord} (leftMember : left ∈ records) (rightMember : right ∈ records)
    (same : left.place = right.place) : left = right := by
  have nodup : (records.map place).Nodup := List.pairwise_map.mpr (consistent.imp And.left)
  exact List.inj_on_of_nodup_map nodup leftMember rightMember same

theorem find?_isAt {records : List V2OutcomeRecord} (consistent : records.Pairwise Compatible)
    {record : V2OutcomeRecord} (member : record ∈ records) {cacheLane : Text} {replicate caseOrdinal : Int} {arm : Text}
    (placed : record.place = (caseOrdinal, replicate, arm, cacheLane)) :
    (records.find? fun found => found.isAt cacheLane replicate caseOrdinal arm) = some record := by
  cases found : records.find? fun found => found.isAt cacheLane replicate caseOrdinal arm with
  | none => exact absurd (isAt_iff.mpr placed) (List.find?_eq_none.mp found record member)
  | some other =>
      have otherAt := List.find?_some found
      have same := isAt_iff.mp otherAt
      rw [eq_of_place consistent (List.mem_of_find?_eq_some found) member (same.trans placed.symm)]

theorem selectPair_of_matches {records : List V2OutcomeRecord} (consistent : records.Pairwise Compatible) {lane : Lane}
    {replicate caseOrdinal : Nat} {pair : Pair} (matched : Matches records lane replicate caseOrdinal pair) :
    selectPair records lane replicate caseOrdinal = .ok pair := by
  have different : pair.direct ≠ pair.proxy := by
    intro same
    have places := matched.directPlace.symm.trans (same ▸ matched.proxyPlace)
    have arms : Text.literal "direct" = Text.literal "proxy" := (Prod.mk.inj (Prod.mk.inj (Prod.mk.inj places).2).2).1
    exact absurd arms (by decide)
  have ordinals : pair.direct.caseOrdinal = pair.proxy.caseOrdinal :=
    (congrArg Prod.fst matched.directPlace).trans (congrArg Prod.fst matched.proxyPlace).symm
  have deadlines : pair.direct.deadlineS.value = pair.proxy.deadlineS.value := by
    have agree : records.Pairwise fun a b => a.caseOrdinal = b.caseOrdinal → a.deadlineS.value = b.deadlineS.value :=
      consistent.imp And.right
    have flipped : records.Pairwise (flip fun a b : V2OutcomeRecord =>
        a.caseOrdinal = b.caseOrdinal → a.deadlineS.value = b.deadlineS.value) :=
      agree.imp fun agrees same => (agrees same.symm).symm
    exact agree.forall_of_forall_of_flip (fun _ _ _ => rfl) flipped matched.directMember matched.proxyMember ordinals
  simp only [selectPair, find?_isAt consistent matched.directMember matched.directPlace,
    find?_isAt consistent matched.proxyMember matched.proxyPlace, deadlines, ne_eq, not_true_eq_false, if_false]
  obtain ⟨lane, replicate, direct, proxy⟩ := pair
  obtain ⟨rfl, rfl, _, _, _, _⟩ := matched
  rfl

/-- A record set that can be evaluated, and its pairs. -/
structure AcceptedSet (records : List V2OutcomeRecord) (pairs : List Pair) : Prop where
  complete : records.length = caseCount * lanes.length * replicatesPerLane * 2
  valid : ∀ record ∈ records, validRecord record = true
  consistent : records.Pairwise Compatible
  paired : List.Forall₂ (fun position pair => Matches records position.1 position.2.1 position.2.2 pair) cohort pairs

/-- `mapEach` relates every item to its result. -/
theorem mapEach_eq_ok_iff {ε α β : Type} {function : α → Except ε β} {items : List α} {results : List β} :
    mapEach function items = .ok results ↔ List.Forall₂ (fun item result => function item = .ok result) items results := by
  induction items generalizing results with
  | nil => simp [mapEach, eq_comm]
  | cons item rest ih =>
      simp only [mapEach, bind_eq_ok, List.forall₂_cons_left_iff, ← ih]
      refine exists_congr fun first => ?_
      constructor
      · rintro ⟨ran, others, remaining, same⟩
        cases same
        exact ⟨others, ran, remaining, rfl⟩
      · rintro ⟨others, ran, remaining, rfl⟩
        exact ⟨ran, others, remaining, rfl⟩

theorem mapM_eq_some_iff {α β : Type} {function : α → Option β} {items : List α} {results : List β} :
    items.mapM function = some results ↔ List.Forall₂ (fun item result => function item = some result) items results := by
  induction items generalizing results with
  | nil => simp [eq_comm]
  | cons item rest ih =>
      simp only [List.mapM_cons, List.forall₂_cons_left_iff, ← ih, Option.bind_eq_bind, Option.bind_eq_some_iff, pure,
        Option.some.injEq]
      refine exists_congr fun first => ?_
      constructor
      · rintro ⟨ran, others, remaining, rfl⟩
        exact ⟨others, ran, remaining, rfl⟩
      · rintro ⟨others, ran, remaining, rfl⟩
        exact ⟨ran, others, remaining, rfl⟩

theorem exists_forall₂ {α β : Type} {relation : α → β → Prop} {items : List α}
    (each : ∀ item ∈ items, ∃ other, relation item other) : ∃ others, List.Forall₂ relation items others := by
  induction items with
  | nil => exact ⟨[], .nil⟩
  | cons item rest ih =>
      obtain ⟨⟨other, head⟩, tail⟩ := List.forall_mem_cons.mp each
      obtain ⟨others, related⟩ := ih tail
      exact ⟨other :: others, .cons head related⟩

theorem forall₂_mem_right {α β : Type} {relation : α → β → Prop} {items : List α} {others : List β}
    (related : List.Forall₂ relation items others) {other : β} (member : other ∈ others) :
    ∃ item ∈ items, relation item other := by
  induction related with
  | nil => cases member
  | @cons item first items others head _ ih =>
      rcases List.mem_cons.mp member with rfl | inside
      · exact ⟨item, List.mem_cons_self, head⟩
      · obtain ⟨found, foundMember, holds⟩ := ih inside
        exact ⟨found, List.mem_cons_of_mem _ foundMember, holds⟩

theorem validateAndPair_eq_ok_iff {records : List V2OutcomeRecord} {pairs : List Pair} :
    validateAndPair records = .ok pairs ↔ AcceptedSet records pairs := by
  simp only [validateAndPair, bind_eq_ok, raiseIf_eq_ok, decide_eq_false_iff_not, ne_eq, not_not, mapEach_eq_ok_iff]
  constructor
  · rintro ⟨_, complete, raw, gathered, selected⟩
    obtain ⟨same, valid, consistent⟩ := (gather_eq_ok_iff .nil).mp gathered
    rw [List.nil_append] at same consistent
    subst same
    exact ⟨complete, valid, consistent, selected.imp fun _ _ => selectPair_eq_ok⟩
  · rintro ⟨complete, valid, consistent, paired⟩
    exact ⟨(), complete, records, (gather_eq_ok_iff .nil).mpr ⟨rfl, valid, consistent⟩,
      paired.imp fun _ _ => selectPair_of_matches consistent⟩

namespace AcceptedSet

variable {records : List V2OutcomeRecord} {pairs : List Pair}

theorem length_pairs (accepted : AcceptedSet records pairs) : pairs.length = 240 := accepted.paired.length_eq.symm

/-- Every pair stands at a place of the cohort. -/
theorem matches_of_pair (accepted : AcceptedSet records pairs) {pair : Pair} (member : pair ∈ pairs) :
    ∃ lane replicate caseOrdinal, Matches records lane replicate caseOrdinal pair := by
  obtain ⟨position, _, matched⟩ := forall₂_mem_right accepted.paired member
  exact ⟨_, _, _, matched⟩

/-- Every place of the cohort has a pair. -/
theorem pair_of_position (accepted : AcceptedSet records pairs) {lane : Lane} {replicate caseOrdinal : Nat}
    (inside : (lane, replicate, caseOrdinal) ∈ cohort) : ∃ pair ∈ pairs, Matches records lane replicate caseOrdinal pair := by
  obtain ⟨pair, member, matched⟩ := forall₂_mem_right accepted.paired.flip inside
  exact ⟨pair, member, matched⟩

theorem pair_valid (accepted : AcceptedSet records pairs) {pair : Pair} (member : pair ∈ pairs) :
    validRecord pair.direct = true ∧ validRecord pair.proxy = true := by
  obtain ⟨_, _, _, matched⟩ := accepted.matches_of_pair member
  exact ⟨accepted.valid _ matched.directMember, accepted.valid _ matched.proxyMember⟩

end AcceptedSet

end HarnessProxy.Evidence

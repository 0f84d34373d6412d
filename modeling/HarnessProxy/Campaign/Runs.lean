import HarnessProxy.Campaign.Chain

namespace HarnessProxy.Campaign

open HarnessProxy.Core HarnessProxy.Json HarnessProxy.Evidence Evidence.Model Data Data.Program

/-! # Runs of a campaign

A campaign is advanced again and again, and every advance may be killed between
two calls.
-/

/-- Both digests are printed as 64 hexadecimal digits. -/
structure Hexadecimal (platform : ExportPlatform) : Prop where
  bytes : ∀ content, isHash (platform.sha256 content) = true
  texts : HexDigests platform.py

/-! ## A new event -/

section
variable {platform : ExportPlatform} {contract : Contract} {spec : Spec} {request : StageRequest} {result : StageResult} {event : Event}
  {entries : List Event} {disk : Disk} {heads : List Bytes}

theorem eventRecord_eq {previous predecessor : Option Text}
    (recorded : eventRecord spec request result previous predecessor = .ok event) :
    event.manifestSha256 = spec.manifestSha256 ∧ event.campaignIdSha256 = spec.campaignIdSha256 ∧
      event.sequence = request.sequence ∧ event.slotOrdinal = request.slot.ordinal ∧
      event.pairIndex = request.slot.pairIndex ∧ event.status = result.status ∧
      event.failureCategory = result.failureCategory ∧ event.runtimeOutcomeSha256 = some result.outcomeSha256 ∧
      event.modelRuntimeInstanceSha256 = result.modelRuntimeInstanceSha256 ∧
      event.proxyReconciliationSha256 = result.proxyReconciliationSha256 ∧ event.previousEventSha256 = previous ∧
      event.directPredecessorRuntimeOutcomeSha256 = predecessor ∧ event.modelIdentitySha256 = result.modelIdentitySha256 := by
  unfold eventRecord at recorded
  split at recorded
  · cases recorded
  · split at recorded
    · cases recorded
    · cases recorded
      exact ⟨rfl, rfl, rfl, rfl, rfl, rfl, rfl, rfl, rfl, rfl, rfl, rfl, rfl⟩

theorem all_isHash_previous (digests : Hexadecimal platform) :
    (loadedChain platform.sha256 entries).previous.all isHash = true := by
  rw [loadedChain_previous, lastDigest]
  cases entries.getLast? with
  | none => rfl
  | some last => exact digests.bytes _

theorem all_isHash_predecessor (valid : ∀ event ∈ entries, event.Valid) (stage : CampaignStage) :
    ((loadedChain platform.sha256 entries).predecessor spec stage).all isHash = true := by
  unfold Chain.predecessor
  split
  · rw [loadedChain_getLast]
    cases found : entries.getLast? with
    | none => rfl
    | some last =>
        have outcome := (valid last (List.mem_of_getLast? found)).outcome
        rw [Option.map_some, Option.bind_some, last.get?_optional.2.1, Option.bind_some]
        cases kept : last.runtimeOutcomeSha256 with
        | none => rfl
        | some text => rwa [kept] at outcome
  · rfl

/-- What is needed to write an event for a request. -/
structure Planned (platform : ExportPlatform) (contract : Contract) (spec : Spec) (entries : List Event) (request : StageRequest) :
    Prop where
  loaded : ∃ serialized, contract.manifest serialized ∧ loadCampaignSpec platform serialized = some spec
  asked : stageRequest spec (entries.length + 1) = some request

theorem Planned.well (planned : Planned platform contract spec entries request) : spec.WellFormed := by
  obtain ⟨_, _, loaded⟩ := planned.loaded
  exact loadCampaignSpec_wellFormed loaded

theorem Planned.digests (planned : Planned platform contract spec entries request) (digests : Hexadecimal platform) :
    isHash spec.manifestSha256 = true ∧ isHash spec.campaignIdSha256 = true := by
  obtain ⟨_, _, loaded⟩ := planned.loaded
  obtain ⟨manifest, campaignId, campaign⟩ := loadCampaignSpec_digests loaded
  exact ⟨manifest ▸ digests.bytes _, campaign ▸ digests.texts _⟩

theorem Planned.sequence (planned : Planned platform contract spec entries request) : request.sequence = entries.length + 1 :=
  (planned.well.small planned.asked).1

theorem Planned.short (planned : Planned platform contract spec entries request) : entries.length + 1 ≤ 17 :=
  ((planned.well.scheduled.total _).mp (Option.isSome_of_eq_some planned.asked)).2.trans (eventCount_le spec)

theorem eventRecord_valid (digests : Hexadecimal platform) (planned : Planned platform contract spec entries request)
    (valid : ∀ event ∈ entries, event.Valid) (fits : result.Fits request) (identified : result.Identified)
    (recorded : eventRecord spec request result (loadedChain platform.sha256 entries).previous
      ((loadedChain platform.sha256 entries).predecessor spec request.stage) = .ok event) : event.Valid := by
  obtain ⟨manifest, campaign, sequence, ordinal, pair, status, category, outcome, runtime, reconciliation, previous, predecessor,
    identity⟩ := eventRecord_eq recorded
  obtain ⟨_, ordinalSmall, pairSmall⟩ := planned.well.small planned.asked
  have short := planned.short
  have number := planned.sequence
  exact {
    manifest := manifest ▸ (planned.digests digests).1
    campaign := campaign ▸ (planned.digests digests).2
    sequence := by omega
    slotOrdinal := by omega
    pairIndex := by omega
    category := category ▸ fits.safe
    outcome := by rw [outcome]; exact fits.outcome
    runtime := runtime ▸ fits.instanceHash
    reconciliation := reconciliation ▸ fits.reconciliationHash
    previous := previous ▸ all_isHash_previous digests
    predecessor := predecessor ▸ all_isHash_predecessor valid _
    identity := identity ▸ identified
    ended := by rw [status, category]; exact fits.category }

theorem partialEventRecord_valid (digests : Hexadecimal platform) (planned : Planned platform contract spec entries request) :
    (partialEventRecord spec request (loadedChain platform.sha256 entries).previous).Valid := by
  obtain ⟨_, ordinalSmall, pairSmall⟩ := planned.well.small planned.asked
  have short := planned.short
  have number := planned.sequence
  exact {
    manifest := (planned.digests digests).1
    campaign := (planned.digests digests).2
    sequence := by change request.sequence < 100; omega
    slotOrdinal := by change request.slot.ordinal < 100; omega
    pairIndex := by change request.slot.pairIndex < 100; omega
    category := (by decide : isFailureCategory partialStage = true)
    outcome := rfl
    runtime := rfl
    reconciliation := rfl
    previous := all_isHash_previous digests
    predecessor := rfl
    identity := rfl
    ended := iff_of_false (fun same => by cases same) (fun same => by cases same) }

/-- An event continues a chain in which all events passed. -/
theorem Chained.append (chained : Chained platform contract entries) (passed : ∀ event ∈ entries, event.status = .passed)
    (valid : event.Valid) (origin : Origin platform contract entries event) (number : event.sequence = entries.length + 1)
    (previous : event.previousEventSha256 = (loadedChain platform.sha256 entries).previous)
    (fresh : ∀ runtime ∈ event.modelRuntimeInstanceSha256, runtime ∉ (loadedChain platform.sha256 entries).used) :
    Chained platform contract (entries ++ [event]) where
  valid := List.forall_mem_append.mpr ⟨chained.valid, List.forall_mem_singleton.mpr valid⟩
  origin index other at_ := by
    by_cases earlier : index < entries.length
    · rw [List.getElem?_append_left earlier] at at_
      rw [List.take_append_of_le_length earlier.le]
      exact chained.origin index other at_
    · rw [List.getElem?_append_right (not_lt.mp earlier), List.getElem?_singleton] at at_
      split at at_
      · next same =>
          have index_ : index = entries.length := by omega
          cases at_
          rwa [index_, List.take_left]
      · cases at_
  numbers index other at_ := by
    by_cases earlier : index < entries.length
    · rw [List.getElem?_append_left earlier] at at_
      exact chained.numbers index other at_
    · rw [List.getElem?_append_right (not_lt.mp earlier), List.getElem?_singleton] at at_
      split at at_
      · cases at_
        omega
      · cases at_
  linked := linked_concat.mpr ⟨chained.linked, previous.trans loadedChain_previous⟩
  passed other member := by
    rw [List.dropLast_concat] at member
    exact passed other member
  instances := by
    have counted : entries.filterMap Event.counted = entries.filterMap Event.modelRuntimeInstanceSha256 := by
      refine List.filterMap_congr fun other member => if_neg ?_
      rw [(chained.valid other member).ended.mp (passed other member)]
      exact fun same => by cases same
    rw [List.filterMap_append, List.nodup_append]
    refine ⟨chained.instances, ?_, ?_⟩
    · cases found : event.modelRuntimeInstanceSha256 <;> simp [found]
    · rintro runtime earlier again last rfl
      obtain ⟨other, single, found⟩ := List.mem_filterMap.mp last
      rw [List.mem_singleton.mp single] at found
      exact fresh runtime found (List.mem_reverse.mpr (counted ▸ earlier))

end

/-! ## Writing an event -/

section
variable {platform : ExportPlatform} {contract : Contract} {spec : Spec} {request : StageRequest} {result : StageResult} {event : Event}
  {entries : List Event} {disk : Disk} {heads : List Bytes}

/-- The next event file, whole. -/
theorem Recorded.add_event (recorded : Recorded platform contract disk entries none heads) (level : heads.length = entries.length)
    (chained : Chained platform contract (entries ++ [event])) (short : entries.length + 1 ≤ 17) :
    Recorded platform contract (disk.add (fileName (entries.length + 1)) event.bytes .events) (entries ++ [event]) none heads where
  chained := chained
  events := by
    change disk.events ++ _ = _
    rw [recorded.events, List.map_append, List.append_assoc, Option.toList_none, List.append_nil, List.append_nil,
      numbered_append, List.length_map, Nat.add_comm]
    rfl
  unfinished _ impossible := by cases impossible
  interrupted impossible := by cases impossible
  headFiles := recorded.headFiles
  headed index content at_ := by
    obtain ⟨other, found, cut⟩ := recorded.headed index content at_
    exact ⟨other, by rw [List.getElem?_append_left (List.getElem?_eq_some_iff.mp found).1, found], cut⟩
  lagging := by
    rw [List.length_append, level]
    exact le_rfl
  short := by
    rw [List.length_append]
    exact short
  increasing := recorded.increasing
  started sequence member := by
    have bounds := recorded.started sequence member
    rw [List.length_append]
    exact ⟨bounds.1, by omega⟩
  stopped _ _ _ sequence member := by
    have bounds := recorded.started sequence member
    rw [List.length_append]
    exact bounds.2

/-- The next event file, cut off. -/
theorem Recorded.add_torn (recorded : Recorded platform contract disk entries none heads) (level : heads.length = entries.length)
    {written : Bytes} (unfinished : byte 0x0a ∉ written) (passed : ∀ event ∈ entries, event.status = .passed)
    (short : entries.length + 1 ≤ 17) :
    Recorded platform contract (disk.add (fileName (entries.length + 1)) written .events) entries (some written) heads where
  chained := recorded.chained
  events := by
    change disk.events ++ _ = _
    rw [recorded.events, Option.toList_none, List.append_nil, numbered_append, List.length_map, Nat.add_comm]
    rfl
  unfinished content same := by
    cases same
    exact unfinished
  interrupted _ := passed
  headFiles := recorded.headFiles
  headed := recorded.headed
  lagging := by
    rw [level]
    exact le_rfl
  short := short
  increasing := recorded.increasing
  started := recorded.started
  stopped := recorded.stopped

/-- `_write_event` -/
theorem writeEvent_keeps (settled : Settled platform contract disk entries)
    (chained : Chained platform contract (entries ++ [event])) (short : entries.length + 1 ≤ 17) :
    Keeps (answers contract) (campaignDuty platform contract)
      (Returning fun _ after => ∃ heads, Recorded platform contract after (entries ++ [event]) none heads ∧
        heads.length = (entries ++ [event]).length)
      (writeEvent platform (entries.length + 1) event) disk := by
  obtain ⟨heads, recorded, level⟩ := settled.recorded
  have valid : event.Valid := chained.valid event (by simp)
  refine Keeps.seq (atomicWrite_keeps recorded.holds trivial ?_) (fun _ _ _ => trivial) ?_
  · intro written cut _
    by_cases whole : written = event.bytes
    · exact whole ▸ (recorded.add_event level chained short).holds
    · exact (recorded.add_torn level (unfinished_line (valid.printed : Printed platform.py _) cut whole) settled.passed short).holds
  · rintro content after _ ⟨rfl, _, rfl⟩
    have added := recorded.add_event level chained short
    have found : (entries ++ [event])[heads.length]? = some event := by simp [level]
    have written := writeHead_keeps added found
    rw [level] at written
    refine Keeps.seq written (fun _ _ _ => trivial) ?_
    rintro _ after _ ⟨head, complete⟩
    refine Keeps.pure complete.holds ⟨_, complete, ?_⟩
    rw [List.length_append, List.length_append, level]
    rfl

/-! ## One advance -/

/-- A run that ends in any way. -/
abbrev Anyhow : Except Failure CampaignAdvance → Disk → Prop := fun _ _ => True

theorem recorded_add_root (recorded : Recorded platform contract disk entries none heads) (name : Text) (content : Bytes) :
    Recorded platform contract (disk.add name content .root) entries none heads :=
  { recorded with }

/-- The outcome is written once, after the last stage. -/
theorem storeOutcome_keeps (settled : Settled platform contract disk entries) (all : entries.length = 13 ∨ entries.length = 17)
    (outcome : Object) : Keeps (answers contract) (campaignDuty platform contract) (Returning fun _ _ => True)
      (storeOutcome platform outcome) disk := by
  obtain ⟨heads, recorded, level⟩ := settled.recorded
  refine Keeps.ask recorded.holds trivial ?_
  rintro here after ⟨rfl, _⟩
  cases here with
  | true =>
      refine Keeps.ask recorded.holds trivial ?_
      rintro reply after ⟨rfl, _⟩
      exact Keeps.orRaise recorded.holds (fun _ => trivial) fun _ _ => Keeps.orRaise recorded.holds (fun _ => trivial) fun _ _ =>
        Keeps.require recorded.holds (fun _ => trivial) fun _ => Keeps.pure recorded.holds trivial
  | false =>
      have allowed : Allowed platform contract after (.create .root outcomeName (lineBytes outcome)) := ⟨entries, settled, all⟩
      refine Keeps.seq (atomicWrite_keeps recorded.holds allowed ?_) (fun _ _ _ => trivial) ?_
      · exact fun written _ _ => (recorded_add_root recorded outcomeName written).holds
      · rintro content after _ ⟨_, _, rfl⟩
        exact Keeps.pure (recorded_add_root recorded outcomeName content).holds trivial

theorem reportOutcome_keeps (settled : Settled platform contract disk entries) (all : entries.length = 13 ∨ entries.length = 17)
    (outcome : Object) (report : Text → CampaignAdvance) : Keeps (answers contract) (campaignDuty platform contract) Anyhow
      (do let digest ← storeOutcome platform outcome
          pure (report digest)) disk := by
  refine Keeps.seq (storeOutcome_keeps settled all outcome) (fun _ _ _ => trivial) ?_
  exact fun _ _ holds _ => Keeps.pure holds trivial

theorem completeCampaign_keeps (settled : Settled platform contract disk entries) (all : entries.length = 13 ∨ entries.length = 17)
    (chain : Chain) : Keeps (answers contract) (campaignDuty platform contract) Anyhow (completeCampaign platform spec chain) disk := by
  obtain ⟨heads, recorded, _⟩ := settled.recorded
  unfold completeCampaign
  split
  · refine Keeps.require recorded.holds (fun _ => trivial) fun _ => Keeps.ask recorded.holds trivial ?_
    rintro reply after rfl
    exact reportOutcome_keeps settled all _ _
  · refine Keeps.require recorded.holds (fun _ => trivial) fun _ => Keeps.ask recorded.holds trivial ?_
    rintro reply after rfl
    exact reportOutcome_keeps settled all _ _

/-- What was found about the stage that comes next. -/
structure Next (platform : ExportPlatform) (contract : Contract) (spec : Spec) (disk : Disk) (entries : List Event) (request : StageRequest) : Prop where
  digests : Hexadecimal platform
  settled : Settled platform contract disk entries
  planned : Planned platform contract spec entries request

variable (next : Next platform contract spec disk entries request)
include next

theorem Next.holds : (campaignDuty platform contract).holds disk := by
  obtain ⟨_, recorded, _⟩ := next.settled.recorded
  exact recorded.holds

theorem Next.chained : Chained platform contract entries := by
  obtain ⟨_, recorded, _⟩ := next.settled.recorded
  exact recorded.chained

theorem recordPartial_keeps : Keeps (answers contract) (campaignDuty platform contract) Anyhow
    (recordPartial platform spec request (loadedChain platform.sha256 entries)) disk := by
  obtain ⟨serialized, agreed, loaded⟩ := next.planned.loaded
  have origin : Origin platform contract entries (partialEventRecord spec request (loadedChain platform.sha256 entries).previous) :=
    ⟨serialized, spec, request, agreed, loaded, next.planned.asked, .inl rfl⟩
  have chained := next.chained.append next.settled.passed (partialEventRecord_valid next.digests next.planned) origin
    next.planned.sequence rfl (fun _ none => by cases none)
  have written := writeEvent_keeps next.settled chained next.planned.short
  rw [← next.planned.sequence] at written
  exact Keeps.seq written (fun _ _ _ => trivial) fun _ _ holds _ => Keeps.pure holds trivial

theorem recordResult_keeps (fits : result.Fits request) (contracted : result.Identified ∧ contract.result request result) :
    Keeps (answers contract) (campaignDuty platform contract) Anyhow
      (recordResult platform spec request (loadedChain platform.sha256 entries) result) disk := by
  have number := next.planned.sequence
  refine Keeps.require next.holds (fun _ => trivial) fun fresh => Keeps.lift next.holds (fun _ _ => trivial) fun event made => ?_
  have record := eventRecord_eq made
  obtain ⟨_, _, sequence, _, _, status, category, _, runtime, _, previous, _, _⟩ := record
  have valid := eventRecord_valid next.digests next.planned next.chained.valid fits contracted.1 made
  obtain ⟨serialized, agreed, loaded⟩ := next.planned.loaded
  have origin : Origin platform contract entries event :=
    ⟨serialized, spec, request, agreed, loaded, next.planned.asked, .inr ⟨result, contracted.2, fits, made⟩⟩
  have chained := next.chained.append next.settled.passed valid origin (sequence.trans number) previous (runtime ▸ fresh)
  have written := writeEvent_keeps next.settled chained next.planned.short
  rw [← number] at written
  refine Keeps.seq written (fun _ _ _ => trivial) ?_
  rintro digest after holds ⟨heads, recorded, level⟩
  split
  · next last =>
      have all : (entries ++ [event]).length = 13 ∨ (entries ++ [event]).length = 17 := by
        have count := last.1
        rw [List.length_append, List.length_singleton, ← number, count]
        exact eventCount_eq spec
      have passed : ∀ other ∈ entries ++ [event], other.status = .passed :=
        List.forall_mem_append.mpr ⟨next.settled.passed, List.forall_mem_singleton.mpr (status.trans last.2)⟩
      refine Keeps.orRaise holds (fun _ => trivial) fun runtime _ => ?_
      exact completeCampaign_keeps ⟨⟨heads, recorded, level⟩, passed⟩ all _
  · exact Keeps.pure holds trivial

omit next in
theorem Settled.add_run (settled : Settled platform contract disk entries) (unstarted : entries.length + 1 ∉ disk.ran) :
    Settled platform contract { disk with ran := disk.ran ++ [entries.length + 1] } entries := by
  obtain ⟨heads, recorded, level⟩ := settled.recorded
  refine ⟨⟨heads, { recorded with increasing := ?_, started := ?_, stopped := ?_ }, level⟩, settled.passed⟩
  · refine List.pairwise_append.mpr ⟨recorded.increasing, List.pairwise_singleton _ _, ?_⟩
    intro earlier member latest last
    have bounds := recorded.started earlier member
    have other : earlier ≠ entries.length + 1 := fun same => unstarted (same ▸ member)
    rw [List.mem_singleton.mp last]
    omega
  · intro sequence member
    rcases List.mem_append.mp member with earlier | latest
    · exact recorded.started sequence earlier
    · rw [List.mem_singleton.mp latest]
      omega
  · exact fun last member failed => absurd (settled.passed last (List.mem_of_getLast? member)) failed

/-- A run is the first one of its stage and comes after all earlier stages passed. -/
theorem executeStage_keeps (unstarted : request.sequence ∉ disk.ran) (expectedInstance : Option Text) :
    Keeps (answers contract) (campaignDuty platform contract) Anyhow
      (executeStage platform spec request (loadedChain platform.sha256 entries) expectedInstance) disk := by
  have number := next.planned.sequence
  have holds := next.holds
  refine Keeps.ask holds trivial ?_
  rintro usable after rfl
  have allowed : Allowed platform contract after (.run request) := ⟨entries, next.settled, number, unstarted⟩
  refine Keeps.require holds (fun _ => trivial) fun _ => Keeps.bind (Keeps.ask holds allowed ?_)
  rintro answer later ⟨rfl, contracted⟩
  rw [number] at unstarted ⊢
  have ran := next.settled.add_run unstarted
  have later : Next platform contract spec { after with ran := after.ran ++ [entries.length + 1] } entries request :=
    ⟨next.digests, ran, next.planned⟩
  refine Keeps.ended later.holds ?_
  cases answer with
  | other => trivial
  | raised => trivial
  | value result =>
      refine Keeps.seq (validateStageResult_keeps later.holds result) (fun _ _ _ => trivial) ?_
      rintro _ _ _ ⟨rfl, fits⟩
      refine Keeps.require later.holds (fun _ => trivial) fun _ => ?_
      exact recordResult_keeps later fits (contracted result rfl)

theorem startStage_keeps (unstarted : request.sequence ∉ disk.ran) : Keeps (answers contract) (campaignDuty platform contract) Anyhow
    (startStage platform spec request (loadedChain platform.sha256 entries)) disk := by
  unfold startStage
  split
  · exact executeStage_keeps next unstarted none
  · refine Keeps.bind (Keeps.ask next.holds trivial ?_)
    rintro answer after rfl
    refine Keeps.ended next.holds ?_
    cases answer with
    | other => trivial
    | raised => trivial
    | value readiness =>
        change Keeps _ _ _ (ite _ _ _) _
        split
        · exact Keeps.pure next.holds trivial
        · exact Keeps.require next.holds (fun _ => trivial) fun _ => executeStage_keeps next unstarted _

end

section
variable {platform : ExportPlatform} {contract : Contract} {spec : Spec} {disk : Disk} {entries : List Event} {heads : List Bytes}

/-- The next stage, by what the inspection of it says. -/
theorem advanceStage_keeps (digests : Hexadecimal platform) (settled : Settled platform contract disk entries)
    (loaded : ∃ serialized, contract.manifest serialized ∧ loadCampaignSpec platform serialized = some spec) :
    Keeps (answers contract) (campaignDuty platform contract) Anyhow
      (advanceStage platform spec (loadedChain platform.sha256 entries)) disk := by
  obtain ⟨_, recorded, _⟩ := settled.recorded
  have holds := recorded.holds
  have length : (loadedChain platform.sha256 entries).events.length = entries.length := List.length_map _
  refine Keeps.orRaise holds (fun _ => trivial) fun request asked => ?_
  rw [length] at asked
  have next : Next platform contract spec disk entries request := ⟨digests, settled, ⟨loaded, asked⟩⟩
  refine Keeps.seq (inspectStage_keeps holds) (fun _ _ _ => trivial) ?_
  rintro inspection after _ ⟨rfl, unstarted, identified⟩
  obtain ⟨state, result⟩ := inspection
  cases state with
  | absent =>
      cases result with
      | none => exact startStage_keeps next (unstarted rfl)
      | some _ => exact Keeps.raise holds trivial
  | complete =>
      cases result with
      | none => exact Keeps.raise holds trivial
      | some result =>
          refine Keeps.seq (validateStageResult_keeps holds result) (fun _ _ _ => trivial) ?_
          rintro _ _ _ ⟨rfl, fits⟩
          exact recordResult_keeps next fits (identified result rfl)
  | unfinished =>
      cases result with
      | none => exact recordPartial_keeps next
      | some _ => exact Keeps.raise holds trivial

theorem advanceChain_keeps (digests : Hexadecimal platform) (recorded : Recorded platform contract disk entries none heads)
    (level : heads.length = entries.length)
    (loaded : ∃ serialized, contract.manifest serialized ∧ loadCampaignSpec platform serialized = some spec) : Keeps (answers contract) (campaignDuty platform contract) Anyhow
      (advanceChain platform spec (loadedChain platform.sha256 entries)) disk := by
  have length : (loadedChain platform.sha256 entries).events.length = entries.length := List.length_map _
  unfold advanceChain
  rcases List.eq_nil_or_concat entries with rfl | ⟨earlier, last, rfl⟩
  · exact advanceStage_keeps digests ⟨⟨heads, recorded, level⟩, by simp⟩ loaded
  · rw [List.concat_eq_append] at recorded level length ⊢
    have final : (loadedChain platform.sha256 (earlier ++ [last])).events.getLast? =
        some (last.document.canonical, platform.sha256 last.bytes) := by
      rw [loadedChain_getLast, List.getLast?_concat, Option.map_some]
    obtain ⟨object, same⟩ : ∃ object, object = last.document.canonical := ⟨_, rfl⟩
    rw [final, ← same]
    dsimp only
    split
    · exact Keeps.ended recorded.holds trivial
    · next ended =>
        have shown : last.status.name = StageStatus.passed.name := by
          have status := not_not.mp ended
          rw [same, last.get?_status] at status
          exact Value.str.inj (Option.some.inj status)
        have before : ∀ event ∈ earlier, event.status = .passed := by
          have passed := recorded.chained.passed
          rwa [List.dropLast_concat] at passed
        have passed : ∀ event ∈ earlier ++ [last], event.status = .passed :=
          List.forall_mem_append.mpr ⟨before, List.forall_mem_singleton.mpr (StageStatus.name_eq shown)⟩
        have settled : Settled platform contract disk (earlier ++ [last]) := ⟨⟨heads, recorded, level⟩, passed⟩
        split
        · next count =>
            have all : (earlier ++ [last]).length = 13 ∨ (earlier ++ [last]).length = 17 := by
              rw [← length, count]
              exact eventCount_eq spec
            exact completeCampaign_keeps settled all _
        · exact advanceStage_keeps digests settled loaded

/-- One advance, whatever the manifest is at the time. -/
theorem advance_keeps (digests : Hexadecimal platform) (holds : (campaignDuty platform contract).holds disk) :
    Keeps (answers contract) (campaignDuty platform contract) Anyhow (advanceQualificationCampaign platform) disk := by
  refine Keeps.ask holds trivial ?_
  rintro valid after rfl
  refine Keeps.require holds (fun _ => trivial) fun _ => Keeps.ask holds trivial ?_
  rintro manifest after ⟨rfl, agreed⟩
  refine Keeps.orRaise holds (fun _ => trivial) fun spec read => Keeps.ask holds trivial ?_
  rintro locked after rfl
  refine Keeps.require holds (fun _ => trivial) fun _ => Keeps.ask holds trivial ?_
  rintro events after rfl
  refine Keeps.require holds (fun _ => trivial) fun _ => Keeps.ask holds trivial ?_
  rintro heads after rfl
  refine Keeps.require holds (fun _ => trivial) fun _ => Keeps.ask holds trivial ?_
  rintro slots after rfl
  refine Keeps.require holds (fun _ => trivial) fun _ => ?_
  obtain ⟨serialized, shown, loaded⟩ := Option.bind_eq_some_iff.mp read
  obtain ⟨entries, torn, files, recorded⟩ := holds
  refine Keeps.seq (loadEvents_keeps recorded) (fun _ _ _ => trivial) ?_
  rintro chain later _ ⟨rfl, files, recorded, level⟩
  exact advanceChain_keeps digests recorded level ⟨serialized, agreed serialized shown, loaded⟩

end

/-! ## Every campaign -/

section
variable {platform : ExportPlatform} {contract : Contract}

theorem recorded_fresh (platform : ExportPlatform) (contract : Contract) :
    Recorded platform contract Disk.fresh [] none [] where
  chained := ⟨by simp, by simp, by simp, trivial, by simp, by simp⟩
  events := rfl
  unfinished _ impossible := by cases impossible
  interrupted impossible := by cases impossible
  headFiles := rfl
  headed _ _ impossible := by cases impossible
  lagging := Nat.zero_le _
  short := Nat.zero_le _
  increasing := List.Pairwise.nil
  started _ impossible := by cases impossible
  stopped _ impossible := by cases impossible

end

/-! ### A small campaign -/

theorem sample_digests : Hexadecimal referencePlatform :=
  ⟨fun _ => hexDigests_reference _, hexDigests_reference⟩

theorem answers_absent {contract : Contract} {disk : Disk} {request : StageRequest} (unstarted : request.sequence ∉ disk.ran) :
    answers contract disk (.inspect request) (.value ⟨.absent, none⟩) disk := by
  refine ⟨rfl, fun inspection same => ?_⟩
  cases same
  exact ⟨fun _ => unstarted, fun _ impossible => by cases impossible⟩

theorem answers_manifest {contract : Contract} {disk : Disk} {serialized : Bytes} (agreed : contract.manifest serialized) :
    answers contract disk .manifest (some serialized) disk := by
  refine ⟨rfl, fun other same => ?_⟩
  cases same
  exact agreed

theorem answers_raised (contract : Contract) (disk : Disk) (request : StageRequest) :
    answers contract disk (.run request) .raised { disk with ran := disk.ran ++ [request.sequence] } :=
  ⟨rfl, fun _ impossible => by cases impossible⟩

/-- The first advance of a campaign comes to inspect the preflight. -/
theorem first_inspection {platform : ExportPlatform} {contract : Contract} {serialized : Bytes} {spec : Spec}
    (agreed : contract.manifest serialized) (loaded : loadCampaignSpec platform serialized = some spec)
    {target : Task CampaignAdvance × Disk}
    (reached : Reaches (answers contract) (advanceStage platform spec ⟨[], []⟩, Disk.fresh) target) :
    Reaches (answers contract) (advanceQualificationCampaign platform, Disk.fresh) target := by
  refine Reaches.ask true rfl (Reaches.require rfl ?_)
  refine Reaches.ask (some serialized) (answers_manifest agreed) (Reaches.orRaise loaded ?_)
  refine Reaches.ask true rfl (Reaches.require rfl ?_)
  refine Reaches.ask true rfl (Reaches.require rfl ?_)
  refine Reaches.ask true rfl (Reaches.require rfl ?_)
  refine Reaches.ask true rfl (Reaches.require rfl ?_)
  refine Reaches.ask (some []) ⟨rfl, by simp [Text.sorted, Disk.files, Disk.fresh]⟩ ?_
  exact Reaches.ask (some []) ⟨rfl, by simp [Text.sorted, Disk.files, Disk.fresh]⟩ reached

theorem first_run {platform : ExportPlatform} {contract : Contract} {serialized : Bytes} {spec : Spec}
    (agreed : contract.manifest serialized) (loaded : loadCampaignSpec platform serialized = some spec) : ∃ rest,
      Reaches (answers contract) (advanceQualificationCampaign platform, Disk.fresh)
        (.call (.run (requestFor spec 1 spec.preflight .preflight)) rest, Disk.fresh) := by
  apply Exists.intro
  refine first_inspection agreed loaded ?_
  refine Reaches.ask (.value ⟨.absent, none⟩) (answers_absent (fun impossible => by cases impossible)) ?_
  exact Reaches.ask true rfl (Reaches.require rfl .refl)

/-- The disk after a preflight that was cut off, with or without the head. -/
def cutDisk (platform : ExportPlatform) (spec : Spec) (headed : Bool) : Disk :=
  let event := partialEventRecord spec (requestFor spec 1 spec.preflight .preflight) none
  let recorded := Disk.fresh.add (fileName 1) event.bytes .events
  if headed then recorded.add (fileName 1) (lineBytes (headRecord 1 (platform.sha256 event.bytes))) .heads else recorded

/-- The preflight was cut off, and is recorded so. -/
theorem first_cut {platform : ExportPlatform} {contract : Contract} {serialized : Bytes} {spec : Spec}
    (agreed : contract.manifest serialized) (loaded : loadCampaignSpec platform serialized = some spec) (headed : Bool) :
    Session (answers contract) (advanceQualificationCampaign platform) Disk.fresh (cutDisk platform spec headed) := by
  have inspected : answers contract Disk.fresh (.inspect (requestFor spec 1 spec.preflight .preflight))
      (.value ⟨.unfinished, none⟩) Disk.fresh := by
    refine ⟨rfl, fun inspection same => ?_⟩
    cases same
    exact ⟨(fun impossible => by cases impossible), fun _ impossible => by cases impossible⟩
  have unwritten (name : Text) (content : Bytes) :
      ¬ Disk.fresh.has .events name ∧ ¬ (Disk.fresh.add name content .events).has .heads name :=
    ⟨List.not_mem_nil, List.not_mem_nil⟩
  cases headed with
  | false =>
      exact .run (.start _) (first_inspection agreed loaded (Reaches.ask (.value ⟨.unfinished, none⟩) inspected
        (Reaches.ask .written ⟨(unwritten _ []).1, rfl⟩ .refl)))
  | true =>
      exact .run (.start _) (first_inspection agreed loaded (Reaches.ask (.value ⟨.unfinished, none⟩) inspected
        (Reaches.ask .written ⟨(unwritten _ []).1, rfl⟩ (Reaches.ask .written ⟨(unwritten _ _).2, rfl⟩ .refl))))

/-! ### All campaigns -/

section
variable {platform : ExportPlatform} {contract : Contract}

theorem recorded_of_session (digests : Hexadecimal platform) {disk : Disk}
    (session : Session (answers contract) (advanceQualificationCampaign platform) Disk.fresh disk) :
    ∃ entries torn heads, Recorded platform contract disk entries torn heads := by
  have each (disk : Disk) (holds : (campaignDuty platform contract).holds disk) := advance_keeps digests holds
  exact session.holds each ⟨[], none, [], recorded_fresh _ _⟩

/-- The model instance of an event that is read. -/
def runtimeOf (platform : ExportPlatform) (content : Bytes) : Option Text :=
  (readObject platform content).bind fun event => (event.get? "model_runtime_instance_sha256").bind Value.asString?

/-- The last event file may be cut off; all others are events, numbered, passed but
for the last, and each names the digest of the file before it. -/
def ReadsAsEvent (platform : ExportPlatform) (disk : Disk) (index : Nat) (content : Bytes) : Prop :=
  (index + 1 = disk.events.length ∧ byte 0x0a ∉ content) ∨ ∃ event, readObject platform content = some event ∧
    event.get? "sequence" = some (.int (index + 1 : Nat)) ∧
    event.get? "previous_event_sha256" =
      some (optionalText ((disk.events.take index).getLast?.map fun file => platform.sha256 file.2)) ∧
    (index + 1 < disk.events.length → event.get? "status" = some (.str "passed"))

/-- What the files of a campaign show. -/
structure EvidenceChain (platform : ExportPlatform) (disk : Disk) : Prop where
  names : disk.events.map Prod.fst = expectedNames disk.events.length
  headNames : disk.heads.map Prod.fst = expectedNames disk.heads.length
  lagging : disk.heads.length ≤ disk.events.length ∧ disk.events.length ≤ disk.heads.length + 1
  events : ∀ index file, disk.events[index]? = some file → ReadsAsEvent platform disk index file.2
  heads : ∀ index head, disk.heads[index]? = some head → ∃ file, disk.events[index]? = some file ∧
    head.2 <+: lineBytes (headRecord (index + 1) (platform.sha256 file.2))
  instances : ((disk.events.filter fun file => byte 0x0a ∈ file.2).filterMap fun file => runtimeOf platform file.2).Nodup

/-- The event of a file that is not the last one passed. -/
theorem Recorded.passed_at {disk : Disk} {entries : List Event} {torn : Option Bytes} {heads : List Bytes}
    (recorded : Recorded platform contract disk entries torn heads) {index : Nat} {event : Event}
    (found : entries[index]? = some event) (before : index + 1 < disk.events.length) : event.status = .passed := by
  have length : disk.events.length = entries.length + torn.toList.length := by
    rw [recorded.events, numbered_length, List.length_append, List.length_map]
  cases torn with
  | some _ => exact recorded.interrupted rfl event (List.mem_of_getElem? found)
  | none =>
      rw [Option.toList_none, List.length_nil] at length
      have bound : index < entries.length - 1 := by omega
      have same : entries.dropLast[index]? = some event := by
        rw [List.getElem?_dropLast, if_pos bound, found]
      exact recorded.chained.passed event (List.mem_of_getElem? same)

theorem readsAsEvent {disk : Disk} {entries : List Event} {torn : Option Bytes} {heads : List Bytes}
    (recorded : Recorded platform contract disk entries torn heads) {index : Nat} {content : Bytes}
    (at_ : (entries.map Event.bytes ++ torn.toList)[index]? = some content) : ReadsAsEvent platform disk index content := by
  have length : disk.events.length = entries.length + torn.toList.length := by
    rw [recorded.events, numbered_length, List.length_append, List.length_map]
  by_cases inside : index < entries.length
  · obtain ⟨event, found⟩ : ∃ event, entries[index]? = some event := ⟨_, List.getElem?_eq_getElem inside⟩
    rw [List.getElem?_append_left (by rwa [List.length_map]), List.getElem?_map, found] at at_
    cases at_
    have member := List.mem_of_getElem? found
    have names := recorded.chained.linked.previous_eq found
    have earlier : (disk.events.take index).getLast?.map (fun file => platform.sha256 file.2) =
        lastDigest (fun event => platform.sha256 event.bytes) (entries.take index) := by
      have contents : (disk.events.take index).map Prod.snd = (entries.take index).map Event.bytes := by
        rw [List.map_take, recorded.events, numbered_contents, List.take_append_of_le_length (by rw [List.length_map]; omega),
          List.map_take]
      have last := congrArg (fun files => files.getLast?.map platform.sha256) contents
      simp only [List.getLast?_map, Option.map_map] at last
      exact last
    refine .inr ⟨_, readObject_event (recorded.chained.valid event member), ?_, ?_, ?_⟩
    · rw [event.get?_sequence, recorded.chained.numbers index event found]
    · rw [event.get?_optional.2.2.2, names, earlier]
    · intro before
      rw [event.get?_status, recorded.passed_at found before]
      rfl
  · rw [List.getElem?_append_right (by rw [List.length_map]; omega), List.length_map] at at_
    cases torn with
    | none => cases at_
    | some cut =>
        rw [Option.toList_some, List.getElem?_singleton] at at_
        split at at_
        · cases at_
          refine .inl ⟨?_, recorded.unfinished content rfl⟩
          rw [length, Option.toList_some, List.length_singleton]
          omega
        · cases at_

theorem runtimeOf_event {event : Event} (valid : event.Valid) : runtimeOf platform event.bytes = event.modelRuntimeInstanceSha256 := by
  rw [runtimeOf, readObject_event valid, Option.bind_some, event.get?_optional.2.2.1]
  cases event.modelRuntimeInstanceSha256 <;> rfl

theorem Recorded.evidenceChain {disk : Disk} {entries : List Event} {torn : Option Bytes} {heads : List Bytes}
    (recorded : Recorded platform contract disk entries torn heads) : EvidenceChain platform disk where
  names := by rw [recorded.events, numbered_expectedNames, numbered_length]
  headNames := by rw [recorded.headFiles, numbered_expectedNames, numbered_length]
  lagging := by
    have lengths := recorded.heads_length
    have lagging := recorded.lagging
    rw [recorded.events, recorded.headFiles, numbered_length, numbered_length, List.length_append, List.length_map]
    omega
  events index file at_ := by
    rw [recorded.events, numbered_get] at at_
    obtain ⟨content, found, rfl⟩ := Option.map_eq_some_iff.mp at_
    exact readsAsEvent recorded found
  heads index head at_ := by
    rw [recorded.headFiles, numbered_get] at at_
    obtain ⟨content, found, rfl⟩ := Option.map_eq_some_iff.mp at_
    obtain ⟨event, inside, cut⟩ := recorded.headed index content found
    refine ⟨(fileName (1 + index), event.bytes), ?_, ?_⟩
    · have bound : index < (entries.map Event.bytes).length := by
        rw [List.length_map]
        exact (List.getElem?_eq_some_iff.mp inside).1
      rw [recorded.events, numbered_get, List.getElem?_append_left bound, List.getElem?_map, inside]
      rfl
    · rwa [Event.headBytes, recorded.chained.numbers index event inside] at cut
  instances := by
    have contents : disk.events.map Prod.snd = entries.map Event.bytes ++ torn.toList := by
      rw [recorded.events, numbered_contents]
    have kept : (entries.map Event.bytes ++ torn.toList).filter (fun content => byte 0x0a ∈ content) = entries.map Event.bytes := by
      have lines : (entries.map Event.bytes).filter (fun content => byte 0x0a ∈ content) = entries.map Event.bytes :=
        List.filter_eq_self.mpr fun content member => by
          obtain ⟨event, inside, rfl⟩ := List.mem_map.mp member
          exact decide_eq_true (mem_lineBytes event.document)
      have cut : torn.toList.filter (fun content => byte 0x0a ∈ content) = [] :=
        List.filter_eq_nil_iff.mpr fun content member => by
          rw [decide_eq_true_eq]
          exact recorded.unfinished content (Option.mem_toList.mp member)
      rw [List.filter_append, lines, cut, List.append_nil]
    have shown : ((disk.events.map Prod.snd).filter fun content => byte 0x0a ∈ content).filterMap (runtimeOf platform) =
        entries.filterMap Event.modelRuntimeInstanceSha256 := by
      rw [contents, kept, List.filterMap_map]
      exact List.filterMap_congr fun event member => runtimeOf_event (recorded.chained.valid event member)
    rw [List.filter_map, List.filterMap_map] at shown
    exact shown ▸ recorded.chained.instances

/-- Whatever happens in a campaign, its files hold a chain of events. -/
theorem campaign_evidence_chain (digests : Hexadecimal platform) {disk : Disk}
    (session : Session (answers contract) (advanceQualificationCampaign platform) Disk.fresh disk) : EvidenceChain platform disk := by
  obtain ⟨_, _, _, recorded⟩ := recorded_of_session digests session
  exact recorded.evidenceChain

/-- A campaign whose preflight was cut off. -/
theorem campaign_evidence_chain_cut : ∃ disk, Session (answers .none) (advanceQualificationCampaign referencePlatform) Disk.fresh disk ∧
    disk.events.length = 1 ∧ disk.heads = [] ∧ EvidenceChain referencePlatform disk := by
  obtain ⟨spec, loaded⟩ := Option.isSome_iff_exists.mp sample_loaded
  have cut := first_cut (show Contract.none.manifest (sampleBytes) from trivial) loaded false
  exact ⟨_, cut, rfl, rfl, campaign_evidence_chain sample_digests cut⟩

/-- The calls of an advance that change what a campaign means. -/
structure CallsInOrder (platform : ExportPlatform) (contract : Contract) (disk : Disk) : Prop where
  ran : disk.ran.Pairwise (· < ·)
  run : ∀ request rest after,
    Reaches (answers contract) (advanceQualificationCampaign platform, disk) (.call (.run request) rest, after) →
      ∃ entries, Settled platform contract after entries ∧ request.sequence = entries.length + 1 ∧
        request.sequence ∉ after.ran
  outcome : ∀ name content rest after,
    Reaches (answers contract) (advanceQualificationCampaign platform, disk) (.call (.create .root name content) rest, after) →
      ∃ entries, Settled platform contract after entries ∧ (entries.length = 13 ∨ entries.length = 17)

theorem Recorded.whole_events {disk : Disk} {entries : List Event} {torn : Option Bytes} {heads : List Bytes}
    (recorded : Recorded platform contract disk entries torn heads) (whole : ∀ file ∈ disk.events, byte 0x0a ∈ file.2) :
    disk.events = numbered 1 (entries.map Event.bytes) := by
  cases torn with
  | none =>
      have events := recorded.events
      rwa [Option.toList_none, List.append_nil] at events
  | some content =>
      have listed : content ∈ disk.events.map Prod.snd := by
        rw [recorded.events, numbered_contents]
        simp
      obtain ⟨file, member, rfl⟩ := List.mem_map.mp listed
      exact absurd (whole file member) (recorded.unfinished file.2 rfl)

/-- The bytes of an event tell which event it names. -/
theorem previous_of_bytes (platform : ExportPlatform) {event other : Event} (valid : event.Valid) (otherValid : other.Valid)
    (same : event.bytes = other.bytes) : event.previousEventSha256 = other.previousEventSha256 := by
  have read : readObject platform event.bytes = _ := readObject_event valid
  rw [same, readObject_event otherValid, Option.some.injEq] at read
  have member := other.get?_optional.2.2.2
  rw [read, event.get?_optional.2.2.2, Option.some.injEq] at member
  cases mine : event.previousEventSha256 <;> cases theirs : other.previousEventSha256 <;>
    rw [mine, theirs] at member <;> first | rfl | exact congrArg some (Value.str.inj member) | cases member

end

end HarnessProxy.Campaign

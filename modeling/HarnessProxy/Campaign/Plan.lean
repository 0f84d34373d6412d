import HarnessProxy.Evidence.PassedEvidence
import HarnessProxy.Evidence.PublicExport
import HarnessProxy.Evidence.Scenarios

namespace HarnessProxy.Campaign

open HarnessProxy.Core HarnessProxy.Json HarnessProxy.Evidence Evidence.Model

/-! # The plan of a campaign

`_load_campaign_spec` reads the slots of a campaign from its manifest.  A stage
is a place in the fixed order of events: the preflight, and then for every slot
the direct treatment before the proxy treatment.
-/

/-- The categories of `CampaignFailure`. -/

inductive Failure where
  | manifestInvalid | privateDirInvalid | lockInvalid | eventChainInvalid | modelInstanceReused | modelInstanceInvalid
  | stageStateInvalid | stageInspectionFailed | readinessProbeFailed | stageRunnerFailed | stageOutcomeInvalid
  | evidenceExists | evidenceWriteFailed | outcomeInvalid
deriving DecidableEq, Repr

def Failure.category : Failure → Text
  | manifestInvalid => "campaign_manifest_invalid"
  | privateDirInvalid => "campaign_private_dir_invalid"
  | lockInvalid => "campaign_lock_invalid"
  | eventChainInvalid => "campaign_event_chain_invalid"
  | modelInstanceReused => "campaign_model_instance_reused"
  | modelInstanceInvalid => "campaign_model_instance_invalid"
  | stageStateInvalid => "campaign_stage_state_invalid"
  | stageInspectionFailed => "campaign_stage_inspection_failed"
  | readinessProbeFailed => "campaign_readiness_probe_failed"
  | stageRunnerFailed => "campaign_stage_runner_failed"
  | stageOutcomeInvalid => "campaign_stage_outcome_invalid"
  | evidenceExists => "campaign_evidence_exists"
  | evidenceWriteFailed => "campaign_evidence_write_failed"
  | outcomeInvalid => "campaign_outcome_invalid"

inductive CampaignLane where
  | preflight | cold | warmPrefix
deriving DecidableEq, Repr

def CampaignLane.name : CampaignLane → Text
  | preflight => "preflight"
  | cold => "cold"
  | warmPrefix => "warm-prefix"

inductive CampaignStage where
  | preflight | scoreDirect | scoreProxy
deriving DecidableEq, Repr

def CampaignStage.name : CampaignStage → Text
  | preflight => "preflight"
  | scoreDirect => "score-direct"
  | scoreProxy => "score-proxy"

/-- `_STAGES` -/
def stages : List CampaignStage := [.preflight, .scoreDirect, .scoreProxy]

/-- `_OUTCOME_NAMES` -/
def CampaignStage.outcomeName : CampaignStage → Text
  | preflight => "preflight-runtime-outcome.json"
  | scoreDirect => "scored-direct-runtime-outcome.json"
  | scoreProxy => "scored-proxy-runtime-outcome.json"

structure Slot where
  ordinal : Nat
  cacheLane : CampaignLane
  pairIndex : Nat
  runId : Text
deriving DecidableEq

inductive Version where
  | v1 | v2
deriving DecidableEq, Repr

/-- `_CampaignSpec` -/
structure Spec where
  manifestSha256 : Text
  campaignIdSha256 : Text
  preflight : Slot
  slots : List Slot
  policyBenefitFamilies : List Text
  policyBenefitCaseCount : Int
  policyBenefitCaseIdsSha256 : Text
  benchmarkScenarioCount : Int
  benchmarkScenarioOrderSha256 : Text
  campaignVersion : Version
  criticalScenarioOrdinals : List Int
  scenarioDeadlineSeconds : Option Int

/-! ## The manifest -/

def v1Keys : List Text :=
  ["campaign_id", "slots", "stage_order", "treatment_order", "model_instance_policy", "failure_policy",
    "policy_benefit_families", "policy_benefit_case_count", "policy_benefit_case_ids_sha256"]

def v2Keys : List Text :=
  ["campaign_version", "campaign_id", "slots", "stage_order", "treatment_order", "model_instance_policy",
    "failure_policy", "critical_scenario_ordinals", "critical_scenario_ordinals_sha256", "scenario_deadline_seconds"]

/-- The lanes and pairs of a version, in order. -/
def expectedPairs : Version → List (CampaignLane × Nat)
  | .v1 => [(.cold, 1), (.cold, 2), (.cold, 3), (.warmPrefix, 1), (.warmPrefix, 2), (.warmPrefix, 3)]
  | .v2 => [(.cold, 1), (.cold, 2), (.cold, 3), (.cold, 4), (.warmPrefix, 1), (.warmPrefix, 2), (.warmPrefix, 3),
      (.warmPrefix, 4)]

/-- `_V2_CRITICAL_SCENARIO_ORDINALS` -/
def v2CriticalScenarioOrdinals : List Int := [29, 30]

section
variable (platform : ExportPlatform)

/-- A version is told by the members. -/
def versionOf (campaign : Object) : Option Version :=
  if sameKeys campaign v1Keys then some .v1
  else if sameKeys campaign v2Keys && campaign.get? "campaign_version" = some (.str "v2") then some .v2
  else none

def asSafeId : Value → Option Text
  | .str text => if isSafeId text then some text else none
  | _ => none

/-- One slot of the manifest, with the run identifiers of those before it. -/
def readSlot (runIds : List Text) (ordinal : Nat) (expected : CampaignLane × Nat) (raw : Value) : Option Slot := do
  let raw ← raw.asObject?
  guard (sameKeys raw ["cache_lane", "pair_index", "run_id"])
  guard (raw.get? "cache_lane" = some (.str expected.1.name))
  -- a pair index that is `true` or a float equals an integer in Python
  guard (((raw.get? "pair_index").getD .null).equal platform.floatEqual (.int expected.2))
  let runId ← (raw.get? "run_id").bind asSafeId
  guard (runId ∉ runIds)
  return ⟨ordinal, expected.1, expected.2, runId⟩

def readSlots (runIds : List Text) (ordinal : Nat) : List (CampaignLane × Nat) → List Value → Option (List Slot)
  | [], _ => some []
  | _, [] => some []
  | expected :: others, raw :: rest => do
    let slot ← readSlot platform runIds ordinal expected raw
    return slot :: (← readSlots (slot.runId :: runIds) (ordinal + 1) others rest)

/-- The families of the first version. -/
def readFamilies (campaign : Object) : Option (List Text) := do
  let families ← (← (campaign.get? "policy_benefit_families").bind Value.asList?).mapM asSafeId
  guard (families ≠ [] ∧ families.Nodup)
  return families

/-- `isinstance(value, int) and not isinstance(value, bool)` -/
def asInt : Value → Option Int
  | .int i => some i
  | _ => none

/-- What the checks of the first version leave in the spec. -/
structure PolicyPart where
  families : List Text
  caseCount : Int
  caseIdsSha256 : Text

def readPolicyPart (campaign : Object) : Option PolicyPart := do
  let families ← readFamilies campaign
  let caseCount ← (campaign.get? "policy_benefit_case_count").bind asInt
  guard (0 < caseCount)
  return ⟨families, caseCount, ← requireSha256 campaign "policy_benefit_case_ids_sha256"⟩

/-- The checks of the second version; the deadline is 600 and an integer, since
the manifest is read without `parse_float=Decimal`. -/
def readDeadline (campaign : Object) : Option Int := do
  let critical ← (← (campaign.get? "critical_scenario_ordinals").bind Value.asList?).mapM asInt
  guard (critical = v2CriticalScenarioOrdinals)
  guard (campaign.get? "critical_scenario_ordinals_sha256" =
    some (.str (platform.py.sha256 (dumps false (.arr (critical.map .int))))))
  let deadline ← (campaign.get? "scenario_deadline_seconds").bind asInt
  guard (deadline = 600)
  return deadline

/-- The least scenario count; `True` counts as 1 here and is refused later. -/
def leastScenarioCount (campaign : Object) : Int :=
  match campaign.get? "policy_benefit_case_count" with
  | some (.int i) => i
  | some (.bool b) => if b then 1 else 0
  | _ => 30

/-- The parts of a manifest after the checks that both versions share. -/
structure Outline where
  campaign : Object
  benchmark : Object
  version : Version
  campaignId : Text
  rawSlots : List Value

def readOutline (document : Object) : Option Outline := do
  let runtime ← (document.get? "qualification_runtime").bind Value.asObject?
  let campaign ← (runtime.get? "campaign").bind Value.asObject?
  let version ← versionOf campaign
  let campaignId ← (campaign.get? "campaign_id").bind asSafeId
  guard (campaign.get? "stage_order" = some (.arr (stages.map fun stage => .str stage.name)))
  guard (campaign.get? "treatment_order" = some (.arr [.str "direct", .str "proxy"]))
  guard (campaign.get? "model_instance_policy" = some (.str "fresh-per-scored-treatment"))
  guard (campaign.get? "failure_policy" = some (.str "terminal-no-rerun"))
  let rawSlots ← (campaign.get? "slots").bind Value.asList?
  guard (rawSlots.length = (expectedPairs version).length)
  let benchmark ← (runtime.get? "benchmark").bind Value.asObject?
  return ⟨campaign, benchmark, version, campaignId, rawSlots⟩

/-- The scenarios that every slot runs. -/
def readScenarios (outline : Outline) : Option (Int × Text) := do
  let scenarioCount ← (outline.benchmark.get? "scenario_count").bind asInt
  guard (leastScenarioCount outline.campaign ≤ scenarioCount ∧ (outline.version = .v2 → scenarioCount = 30))
  return (scenarioCount, ← requireSha256 outline.benchmark "scenario_order_sha256")

def policyPart (outline : Outline) : Option PolicyPart :=
  if outline.version = .v1 then readPolicyPart outline.campaign else some ⟨[], 0, []⟩

def deadlinePart (outline : Outline) : Option (Option Int) :=
  if outline.version = .v2 then (readDeadline platform outline.campaign).map some else some none

/-- `_load_campaign_spec` of what the manifest holds. -/
def loadCampaignSpec (serialized : Bytes) : Option Spec := do
  let outline ← readOutline (← (← loadUnique platform.py platform.wide serialized).asObject?)
  let scenarios ← readScenarios outline
  let policy ← policyPart outline
  let slots ← readSlots platform [] 1 (expectedPairs outline.version) outline.rawSlots
  let deadline ← deadlinePart platform outline
  return {
    manifestSha256 := platform.sha256 serialized
    campaignIdSha256 := platform.py.sha256 outline.campaignId
    preflight := ⟨0, .preflight, 0, outline.campaignId ++ Text.literal "-preflight"⟩
    slots := slots
    policyBenefitFamilies := policy.families
    policyBenefitCaseCount := policy.caseCount
    policyBenefitCaseIdsSha256 := policy.caseIdsSha256
    benchmarkScenarioCount := scenarios.1
    benchmarkScenarioOrderSha256 := scenarios.2
    campaignVersion := outline.version
    criticalScenarioOrdinals := if outline.version = .v2 then v2CriticalScenarioOrdinals else []
    scenarioDeadlineSeconds := deadline }

end

/-! ## The stages in order -/

structure StageRequest where
  manifestSha256 : Text
  sequence : Nat
  slot : Slot
  stage : CampaignStage
  privateRunDir : Text
deriving DecidableEq

/-- The outcome file of a stage in its run directory. -/
def StageRequest.outcomePath (request : StageRequest) : Text × Text := (request.privateRunDir, request.stage.outcomeName)

/-- A number with leading zeros. -/
def padded (width n : Nat) : Text := List.leftpad width (codePoint '0') (Text.ofNat n)

/-- `_slot_directory_name` -/
def slotDirectoryName (slot : Slot) : Text :=
  padded 2 slot.ordinal ++ (Text.literal "-" ++ slot.cacheLane.name ++ Text.literal "-pair" ++ Text.ofNat slot.pairIndex)

/-- `_event_count` -/
def eventCount (spec : Spec) : Nat := if spec.campaignVersion = .v2 then 17 else 13

theorem eventCount_eq (spec : Spec) : eventCount spec = 13 ∨ eventCount spec = 17 := by
  unfold eventCount
  split <;> simp

theorem eventCount_le (spec : Spec) : eventCount spec ≤ 17 := by
  rcases eventCount_eq spec with count | count <;> omega

def requestFor (spec : Spec) (sequence : Nat) (slot : Slot) (stage : CampaignStage) : StageRequest :=
  ⟨spec.manifestSha256, sequence, slot, stage, slotDirectoryName slot⟩

/-- `_stage_request` -/
def stageRequest (spec : Spec) (sequence : Nat) : Option StageRequest :=
  if sequence = 1 then some (requestFor spec sequence spec.preflight .preflight)
  else if 2 ≤ sequence ∧ sequence ≤ eventCount spec then
    let offset := sequence - 2
    (spec.slots[offset / 2]?).map fun slot =>
      requestFor spec sequence slot (if offset % 2 = 0 then .scoreDirect else .scoreProxy)
  else none

/-! ## An accepted manifest -/

/-- The slots are the pairs of the version, numbered from one. -/
structure Spec.WellFormed (spec : Spec) : Prop where
  first : spec.preflight.ordinal = 0 ∧ spec.preflight.pairIndex = 0
  pairs : spec.slots.map (fun slot => (slot.cacheLane, slot.pairIndex)) = expectedPairs spec.campaignVersion
  numbered : ∀ index slot, spec.slots[index]? = some slot → slot.ordinal = index + 1
  runIds : (spec.slots.map Slot.runId).Nodup

section
variable {platform : ExportPlatform}

theorem readSlot_eq {runIds : List Text} {ordinal : Nat} {expected : CampaignLane × Nat} {raw : Value} {slot : Slot}
    (read : readSlot platform runIds ordinal expected raw = some slot) :
    slot.ordinal = ordinal ∧ (slot.cacheLane, slot.pairIndex) = expected ∧ slot.runId ∉ runIds := by
  simp only [readSlot, Option.bind_eq_bind, Option.bind_eq_some_iff, guard_eq_some, pure, Option.some.injEq] at read
  obtain ⟨_, _, _, _, _, _, _, _, runId, _, _, fresh, rfl⟩ := read
  exact ⟨rfl, rfl, fresh⟩

/-- What reading the slots establishes, by induction on the pairs. -/
theorem readSlots_eq {runIds : List Text} {ordinal : Nat} {expected : List (CampaignLane × Nat)} {raws : List Value}
    {slots : List Slot} (read : readSlots platform runIds ordinal expected raws = some slots)
    (lengths : raws.length = expected.length) :
    slots.map (fun slot => (slot.cacheLane, slot.pairIndex)) = expected ∧
      (∀ index slot, slots[index]? = some slot → slot.ordinal = ordinal + index) ∧
      (slots.map Slot.runId).Nodup ∧ ∀ slot ∈ slots, slot.runId ∉ runIds := by
  induction expected generalizing runIds ordinal raws slots with
  | nil =>
      cases read
      simp
  | cons pair others ih =>
      cases raws with
      | nil => simp at lengths
      | cons raw rest =>
          simp only [readSlots, Option.bind_eq_bind, Option.bind_eq_some_iff, pure, Option.some.injEq] at read
          obtain ⟨slot, one, more, all, rfl⟩ := read
          obtain ⟨ordinalAt, pairAt, fresh⟩ := readSlot_eq one
          obtain ⟨pairs, numbered, distinct, unseen⟩ := ih all (Nat.succ.inj lengths)
          refine ⟨by rw [List.map_cons, pairAt, pairs], ?_, ?_, ?_⟩
          · intro index found at_
            cases index with
            | zero =>
                cases at_
                exact ordinalAt
            | succ index =>
                have later := numbered index found at_
                omega
          · rw [List.map_cons, List.nodup_cons]
            refine ⟨?_, distinct⟩
            intro again
            obtain ⟨other, member, same⟩ := List.mem_map.mp again
            exact unseen other member (same ▸ List.mem_cons_self)
          · intro other member
            rcases List.mem_cons.mp member with rfl | later
            · exact fresh
            · exact fun seen => unseen other later (List.mem_cons_of_mem _ seen)

theorem readOutline_slots {document : Object} {outline : Outline} (read : readOutline document = some outline) :
    outline.rawSlots.length = (expectedPairs outline.version).length := by
  simp only [readOutline, Option.bind_eq_bind, Option.bind_eq_some_iff, guard_eq_some, pure, Option.some.injEq] at read
  obtain ⟨_, _, _, _, _, _, _, _, _, _, _, _, _, _, _, _, _, _, _, lengths, _, _, rfl⟩ := read
  exact lengths

theorem loadCampaignSpec_wellFormed {serialized : Bytes} {spec : Spec}
    (loaded : loadCampaignSpec platform serialized = some spec) : spec.WellFormed := by
  simp only [loadCampaignSpec, Option.bind_eq_bind, Option.bind_eq_some_iff, pure, Option.some.injEq] at loaded
  obtain ⟨_, _, _, _, outline, outlined, _, _, _, _, slots, read, _, _, rfl⟩ := loaded
  obtain ⟨pairs, numbered, runIds, _⟩ := readSlots_eq read (readOutline_slots outlined)
  exact ⟨⟨rfl, rfl⟩, pairs, fun index slot found => (numbered index slot found).trans (Nat.add_comm _ _), runIds⟩

theorem loadCampaignSpec_digests {serialized : Bytes} {spec : Spec}
    (loaded : loadCampaignSpec platform serialized = some spec) :
    spec.manifestSha256 = platform.sha256 serialized ∧ ∃ campaignId, spec.campaignIdSha256 = platform.py.sha256 campaignId := by
  simp only [loadCampaignSpec, Option.bind_eq_bind, Option.bind_eq_some_iff, pure, Option.some.injEq] at loaded
  obtain ⟨_, _, _, _, outline, _, _, _, _, _, _, _, _, _, rfl⟩ := loaded
  exact ⟨rfl, outline.campaignId, rfl⟩

end

/-! ## Every stage has its place -/

theorem digitsValue_zeros (count : Nat) (digits : Text) :
    digitsValue (List.replicate count (codePoint '0') ++ digits) = digitsValue digits := by
  rw [digitsValue, List.foldl_append]
  have zero : (List.replicate count (codePoint '0')).foldl (fun total c => 10 * total + digitValue c) 0 = 0 := by
    induction count with
    | zero => rfl
    | succ count ih =>
        rw [List.replicate_succ', List.foldl_append, ih]
        decide
  rw [zero]
  rfl

theorem digitsValue_padded (width n : Nat) : digitsValue (padded width n) = n := by
  rw [padded, List.leftpad, digitsValue_zeros, digitsValue_ofNat]

theorem padded_length {width n : Nat} (positive : 0 < width) (small : n < 10 ^ width) : (padded width n).length = width := by
  have short := ofNat_length positive small
  rw [padded, List.leftpad, List.length_append, List.length_replicate]
  omega

theorem slotDirectoryName_ordinal {left right : Slot} (leftSmall : left.ordinal < 100) (rightSmall : right.ordinal < 100)
    (same : slotDirectoryName left = slotDirectoryName right) : left.ordinal = right.ordinal := by
  have lengths : (padded 2 left.ordinal).length = (padded 2 right.ordinal).length := by
    rw [padded_length (by decide) leftSmall, padded_length (by decide) rightSmall]
  have heads := (List.append_inj same lengths).1
  rw [← digitsValue_padded 2 left.ordinal, heads, digitsValue_padded]

theorem outcomeName_injective : Function.Injective CampaignStage.outcomeName := by
  intro first second same
  have distinct : (stages.map CampaignStage.outcomeName).Nodup := Text.nodup_of_codes (by decide)
  have member (stage : CampaignStage) : stage ∈ stages := by cases stage <;> decide
  exact List.inj_on_of_nodup_map distinct (member first) (member second) same

namespace Spec

variable {spec : Spec} (well : spec.WellFormed)
include well

theorem WellFormed.slots_length : eventCount spec = 2 * spec.slots.length + 1 := by
  have lengths := congrArg List.length well.pairs
  rw [List.length_map] at lengths
  rw [lengths, eventCount]
  cases spec.campaignVersion <;> rfl

/-- The request of a stage, by its place in the order. -/
theorem WellFormed.request {sequence : Nat} {request : StageRequest} (asked : stageRequest spec sequence = some request) :
    (sequence = 1 ∧ request = requestFor spec 1 spec.preflight .preflight) ∨
      ∃ slot, spec.slots[request.slot.ordinal - 1]? = some slot ∧ request.slot = slot ∧ 0 < slot.ordinal ∧ slot.ordinal ≤ 8 ∧
        ((sequence = 2 * slot.ordinal ∧ request = requestFor spec sequence slot .scoreDirect) ∨
          (sequence = 2 * slot.ordinal + 1 ∧ request = requestFor spec sequence slot .scoreProxy)) := by
  unfold stageRequest at asked
  split at asked
  · next first =>
      subst first
      exact .inl ⟨rfl, (Option.some.inj asked).symm⟩
  · split at asked
    · next within =>
        obtain ⟨slot, at_, made⟩ := Option.map_eq_some_iff.mp asked
        have ordinal := well.numbered _ _ at_
        have bound := (List.getElem?_eq_some_iff.mp at_).1
        have many := well.slots_length
        have slots : spec.slots.length ≤ 8 := by
          unfold eventCount at many
          split at many <;> omega
        refine .inr ⟨slot, ?_, made ▸ rfl, by omega, by omega, ?_⟩
        · rw [← made]
          change spec.slots[slot.ordinal - 1]? = some slot
          rw [ordinal, Nat.add_sub_cancel, at_]
        · split at made
          · next even => exact .inl ⟨by omega, made.symm⟩
          · next odd => exact .inr ⟨by omega, made.symm⟩
    · cases asked

/-- The numbers in a request are small. -/
theorem WellFormed.small {sequence : Nat} {request : StageRequest} (asked : stageRequest spec sequence = some request) :
    request.sequence = sequence ∧ request.slot.ordinal ≤ 8 ∧ request.slot.pairIndex ≤ 4 := by
  rcases well.request asked with ⟨rfl, rfl⟩ | ⟨slot, at_, same, _, bound, placed⟩
  · exact ⟨rfl, by simp [requestFor, well.first.1], by simp [requestFor, well.first.2]⟩
  · have listed : (slot.cacheLane, slot.pairIndex) ∈ expectedPairs spec.campaignVersion := by
      rw [← well.pairs]
      exact List.mem_map_of_mem (List.mem_of_getElem? at_)
    have least : ∀ pair ∈ expectedPairs spec.campaignVersion, pair.2 ≤ 4 := by
      cases spec.campaignVersion <;> decide
    have pair := least _ listed
    rcases placed with ⟨_, rfl⟩ | ⟨_, rfl⟩
    · exact ⟨rfl, bound, pair⟩
    · exact ⟨rfl, bound, pair⟩

theorem WellFormed.asks {sequence : Nat} {slot : Slot} {index : Nat} (at_ : spec.slots[index]? = some slot)
    (placed : sequence = 2 * index + 2 ∨ sequence = 2 * index + 3) :
    stageRequest spec sequence =
      some (requestFor spec sequence slot (if sequence = 2 * index + 2 then .scoreDirect else .scoreProxy)) := by
  have bound := (List.getElem?_eq_some_iff.mp at_).1
  have many := well.slots_length
  have half : (sequence - 2) / 2 = index := by omega
  have parity : (sequence - 2) % 2 = 0 ↔ sequence = 2 * index + 2 := by omega
  rw [stageRequest, if_neg (by omega), if_pos (by omega)]
  simp only [half, at_, Option.map_some, parity]

end Spec

/-- The order of the stages: the preflight, and then the two treatments of each
slot next to each other, every stage with an outcome file of its own. -/
structure Scheduled (spec : Spec) : Prop where
  total : ∀ sequence, (stageRequest spec sequence).isSome = true ↔ 1 ≤ sequence ∧ sequence ≤ eventCount spec
  first : ∀ sequence request, stageRequest spec sequence = some request → (request.stage = .preflight ↔ sequence = 1)
  paired : ∀ sequence direct, stageRequest spec sequence = some direct → direct.stage = .scoreDirect →
    ∃ proxy, stageRequest spec (sequence + 1) = some proxy ∧ proxy.stage = .scoreProxy ∧ proxy.slot = direct.slot
  every : ∀ slot ∈ spec.slots, ∃ sequence direct, stageRequest spec sequence = some direct ∧ direct.stage = .scoreDirect ∧
    direct.slot = slot
  own : ∀ sequence request other again, stageRequest spec sequence = some request → stageRequest spec other = some again →
    request.outcomePath = again.outcomePath → sequence = other

theorem Spec.WellFormed.scheduled {spec : Spec} (well : spec.WellFormed) : Scheduled spec where
  total sequence := by
    have many := well.slots_length
    constructor
    · intro asked
      obtain ⟨request, found⟩ := Option.isSome_iff_exists.mp asked
      rcases well.request found with ⟨rfl, _⟩ | ⟨slot, at_, _, positive, _, placed⟩
      · omega
      · have bound := (List.getElem?_eq_some_iff.mp at_).1
        rcases placed with ⟨rfl, rfl⟩ | ⟨rfl, rfl⟩
        · exact ⟨by omega, by change slot.ordinal - 1 < _ at bound; omega⟩
        · exact ⟨by omega, by change slot.ordinal - 1 < _ at bound; omega⟩
    · rintro ⟨positive, within⟩
      by_cases first : sequence = 1
      · rw [stageRequest, if_pos first]
        rfl
      · have bound : (sequence - 2) / 2 < spec.slots.length := by omega
        rw [well.asks (List.getElem?_eq_getElem bound) (by omega)]
        rfl
  first sequence request found := by
    rcases well.request found with ⟨rfl, rfl⟩ | ⟨slot, _, _, positive, _, ⟨rfl, rfl⟩ | ⟨rfl, rfl⟩⟩
    · exact iff_of_true rfl rfl
    · exact iff_of_false (fun same => by cases same) (by omega)
    · exact iff_of_false (fun same => by cases same) (by omega)
  paired sequence direct found staged := by
    rcases well.request found with ⟨_, rfl⟩ | ⟨slot, at_, same, positive, _, ⟨rfl, rfl⟩ | ⟨_, rfl⟩⟩
    · cases staged
    · change spec.slots[slot.ordinal - 1]? = some slot at at_
      have place : 2 * slot.ordinal + 1 = 2 * (slot.ordinal - 1) + 3 := by omega
      have asked := well.asks at_ (.inr place)
      rw [if_neg (by omega)] at asked
      exact ⟨_, asked, rfl, rfl⟩
    · cases staged
  every slot member := by
    obtain ⟨index, bound, at_⟩ := List.getElem_of_mem member
    have asked := well.asks (List.getElem?_eq_some_iff.mpr ⟨bound, at_⟩) (.inl rfl)
    rw [if_pos rfl] at asked
    exact ⟨_, _, asked, rfl, rfl⟩
  own sequence request other again found foundAgain same := by
    obtain ⟨directories, names⟩ := Prod.mk.inj same
    have stages := outcomeName_injective names
    rcases well.request found with ⟨rfl, rfl⟩ | ⟨slot, _, _, _, small, ⟨rfl, rfl⟩ | ⟨rfl, rfl⟩⟩ <;>
      rcases well.request foundAgain with ⟨rfl, rfl⟩ | ⟨twin, _, _, _, twinSmall, ⟨rfl, rfl⟩ | ⟨rfl, rfl⟩⟩
    any_goals cases stages
    · rfl
    · rw [slotDirectoryName_ordinal (by omega) (by omega) directories]
    · rw [slotDirectoryName_ordinal (by omega) (by omega) directories]

/-- Every accepted manifest has a complete order of stages. -/
theorem loaded_scheduled {platform : ExportPlatform} {serialized : Bytes} {spec : Spec}
    (loaded : loadCampaignSpec platform serialized = some spec) : Scheduled spec :=
  (loadCampaignSpec_wellFormed loaded).scheduled

/-- SHA-256 of ASCII content, on the reference Python. -/
def referencePlatform : ExportPlatform where
  py := Python.reference
  wide := fun _ _ => none
  floatEqual := fun left right => decide (left = right)
  sha256 := fun content => Sha256.hexdigest (content.map fun b => chr b.toNat)
  isLowerOrDigit := fun _ => false

def sampleSlot (lane : Text) (pairIndex : Nat) (runId : Text) : Value :=
  .obj [("cache_lane", .str lane), ("pair_index", .int pairIndex), ("run_id", .str runId)]

def sampleHash : Text := List.replicate 64 (codePoint 'a')

def sampleBenchmark : Object := [("scenario_count", .int 30), ("scenario_order_sha256", .str sampleHash)]

def sampleCampaign : Object :=
  [("campaign_id", .str "pilot"), ("failure_policy", .str "terminal-no-rerun"),
    ("model_instance_policy", .str "fresh-per-scored-treatment"), ("policy_benefit_case_count", .int 1),
    ("policy_benefit_case_ids_sha256", .str sampleHash), ("policy_benefit_families", .arr [.str "recovery"]),
    ("slots", .arr [sampleSlot "cold" 1 "a", sampleSlot "cold" 2 "b", sampleSlot "cold" 3 "c", sampleSlot "warm-prefix" 1 "d",
      sampleSlot "warm-prefix" 2 "e", sampleSlot "warm-prefix" 3 "f"]),
    ("stage_order", .arr [.str "preflight", .str "score-direct", .str "score-proxy"]),
    ("treatment_order", .arr [.str "direct", .str "proxy"])]

def sampleManifest : Object :=
  [("qualification_runtime", .obj [("benchmark", .obj sampleBenchmark), ("campaign", .obj sampleCampaign)])]

def sampleBytes : Bytes := (fileText sampleManifest).flatMap encodeChar

theorem sample_loaded : (loadCampaignSpec referencePlatform sampleBytes).isSome = true := by
  decide +kernel

theorem loaded_scheduled_sample : ∃ spec, loadCampaignSpec referencePlatform sampleBytes = some spec ∧ Scheduled spec := by
  obtain ⟨spec, loaded⟩ := Option.isSome_iff_exists.mp sample_loaded
  exact ⟨spec, loaded, loaded_scheduled loaded⟩

end HarnessProxy.Campaign

import HarnessProxy.Campaign.Plan

namespace HarnessProxy.Campaign

open HarnessProxy.Core HarnessProxy.Json HarnessProxy.Evidence Evidence.Model Timing

/-! # The events of a campaign

An event records how a stage ended and names the digest of the event before it.
-/

inductive StageStatus where
  | passed | failed | interrupted
deriving DecidableEq, Repr

def StageStatus.name : StageStatus → Text
  | passed => "passed"
  | failed => "failed"
  | interrupted => "interrupted"

structure StageResult where
  status : StageStatus
  failureCategory : Option Text
  outcomePath : Text × Text
  outcomeSha256 : Text
  modelRuntimeInstanceSha256 : Option Text
  proxyReconciliationSha256 : Option Text
  modelIdentitySha256 : Option Text
deriving DecidableEq

/-- `_FAILURE_CATEGORY.fullmatch` -/
def isFailureCategory (text : Text) : Bool := text ≠ [] && decide (text.length ≤ 64) && text.all isCategoryChar

def isHash (text : Text) : Bool := isSha256 (some (.str text))

/-- The checks of `_validate_stage_result` before the outcome is read. -/
structure StageResult.Fits (request : StageRequest) (result : StageResult) : Prop where
  category : result.status = .passed ↔ result.failureCategory = none
  safe : result.failureCategory.all isFailureCategory = true
  path : result.outcomePath = request.outcomePath
  outcome : isHash result.outcomeSha256 = true
  instanceHash : result.modelRuntimeInstanceSha256.all isHash = true
  instanceKnown : result.status = .passed → result.modelRuntimeInstanceSha256 ≠ none
  reconciliationHash : result.proxyReconciliationSha256.all isHash = true
  reconciliationKnown : result.status = .passed →
    (request.stage = .scoreProxy ↔ result.proxyReconciliationSha256 ≠ none)
  reconciliationOnly : request.stage ≠ .scoreProxy → result.proxyReconciliationSha256 = none

instance (request : StageRequest) (result : StageResult) : Decidable (result.Fits request) :=
  decidable_of_iff ((result.status = .passed ↔ result.failureCategory = none) ∧
      result.failureCategory.all isFailureCategory = true ∧ result.outcomePath = request.outcomePath ∧
      isHash result.outcomeSha256 = true ∧ result.modelRuntimeInstanceSha256.all isHash = true ∧
      (result.status = .passed → result.modelRuntimeInstanceSha256 ≠ none) ∧
      result.proxyReconciliationSha256.all isHash = true ∧
      (result.status = .passed → (request.stage = .scoreProxy ↔ result.proxyReconciliationSha256 ≠ none)) ∧
      (request.stage ≠ .scoreProxy → result.proxyReconciliationSha256 = none))
    ⟨fun ⟨a, b, c, d, e, f, g, h, i⟩ => ⟨a, b, c, d, e, f, g, h, i⟩,
      fun ⟨a, b, c, d, e, f, g, h, i⟩ => ⟨a, b, c, d, e, f, g, h, i⟩⟩

/-! ## Records -/

/-- What an event says. -/
structure Event where
  manifestSha256 : Text
  campaignIdSha256 : Text
  campaignVersion : Version
  sequence : Nat
  slotOrdinal : Nat
  cacheLane : CampaignLane
  pairIndex : Nat
  stage : CampaignStage
  status : StageStatus
  failureCategory : Option Text
  runtimeOutcomeSha256 : Option Text
  modelRuntimeInstanceSha256 : Option Text
  proxyReconciliationSha256 : Option Text
  previousEventSha256 : Option Text
  directPredecessorRuntimeOutcomeSha256 : Option Text
  modelIdentitySha256 : Option Text
deriving DecidableEq

/-- The members that the second version adds. -/
def Event.second (event : Event) : Object :=
  match event.campaignVersion with
  | .v1 => []
  | .v2 => [("direct_predecessor_runtime_outcome_sha256", optionalText event.directPredecessorRuntimeOutcomeSha256),
      ("model_identity_sha256", optionalText event.modelIdentitySha256)]

def Event.document (event : Event) : Object :=
  ("schema_version", .str "1.0") :: ("record_type", .str "qualification_campaign_event") ::
  ("campaign_manifest_sha256", .str event.manifestSha256) :: ("campaign_id_sha256", .str event.campaignIdSha256) ::
  ("sequence", .int event.sequence) :: ("slot_ordinal", .int event.slotOrdinal) ::
  ("cache_lane", .str event.cacheLane.name) :: ("pair_index", .int event.pairIndex) ::
  ("stage", .str event.stage.name) :: ("status", .str event.status.name) ::
  ("failure_category", optionalText event.failureCategory) ::
  ("runtime_outcome_sha256", optionalText event.runtimeOutcomeSha256) ::
  ("model_runtime_instance_sha256", optionalText event.modelRuntimeInstanceSha256) ::
  ("proxy_reconciliation_sha256", optionalText event.proxyReconciliationSha256) ::
  ("previous_event_sha256", optionalText event.previousEventSha256) :: event.second

def partialStage : Text := "campaign_partial_stage"

/-- `_partial_event_record` -/
def partialEventRecord (spec : Spec) (request : StageRequest) (previousEventSha256 : Option Text) : Event where
  manifestSha256 := spec.manifestSha256
  campaignIdSha256 := spec.campaignIdSha256
  campaignVersion := spec.campaignVersion
  sequence := request.sequence
  slotOrdinal := request.slot.ordinal
  cacheLane := request.slot.cacheLane
  pairIndex := request.slot.pairIndex
  stage := request.stage
  status := .failed
  failureCategory := some partialStage
  runtimeOutcomeSha256 := none
  modelRuntimeInstanceSha256 := none
  proxyReconciliationSha256 := none
  previousEventSha256 := previousEventSha256
  directPredecessorRuntimeOutcomeSha256 := none
  modelIdentitySha256 := none

/-- The identity that the second version asks for in a scored stage. -/
def identityFits (stage : CampaignStage) (result : StageResult) : Prop :=
  stage = .preflight ∨
    (result.modelIdentitySha256.all isHash = true ∧ (result.status = .passed → result.modelIdentitySha256 ≠ none))

instance (stage : CampaignStage) (result : StageResult) : Decidable (identityFits stage result) :=
  inferInstanceAs (Decidable (_ ∨ (_ ∧ _)))

/-- The outcome of the direct treatment, where the second version asks for it. -/
def predecessorFits (stage : CampaignStage) (predecessor : Option Text) : Prop :=
  stage = .scoreProxy → predecessor.any isHash = true

instance (stage : CampaignStage) (predecessor : Option Text) : Decidable (predecessorFits stage predecessor) :=
  inferInstanceAs (Decidable (_ → _))

/-- `_event_record` -/
def eventRecord (spec : Spec) (request : StageRequest) (result : StageResult) (previousEventSha256 predecessor : Option Text) :
    Except Failure Event :=
  if spec.campaignVersion = .v2 ∧ ¬ identityFits request.stage result then .error .stageOutcomeInvalid
  else if spec.campaignVersion = .v2 ∧ ¬ predecessorFits request.stage predecessor then .error .eventChainInvalid
  else .ok {
    manifestSha256 := spec.manifestSha256
    campaignIdSha256 := spec.campaignIdSha256
    campaignVersion := spec.campaignVersion
    sequence := request.sequence
    slotOrdinal := request.slot.ordinal
    cacheLane := request.slot.cacheLane
    pairIndex := request.slot.pairIndex
    stage := request.stage
    status := result.status
    failureCategory := result.failureCategory
    runtimeOutcomeSha256 := some result.outcomeSha256
    modelRuntimeInstanceSha256 := result.modelRuntimeInstanceSha256
    proxyReconciliationSha256 := result.proxyReconciliationSha256
    previousEventSha256 := previousEventSha256
    directPredecessorRuntimeOutcomeSha256 := predecessor
    modelIdentitySha256 := result.modelIdentitySha256 }

/-- The head of an event. -/
def headRecord (sequence : Nat) (eventSha256 : Text) : Object :=
  [("schema_version", .str "1.0"), ("record_type", .str "qualification_campaign_event_head"), ("sequence", .int sequence),
    ("event_sha256", .str eventSha256)]

/-! ## Files -/

/-- `f"{sequence:04d}.json"` -/
def fileName (sequence : Nat) : Text := padded 4 sequence ++ ".json"

/-- What `_atomic_write_no_clobber` writes of a document. -/
@[irreducible] def lineBytes (document : Object) : Bytes := (fileText document).flatMap encodeChar

def Event.bytes (event : Event) : Bytes := lineBytes event.document

/-- Every text is a digest or a category, and the numbers are those of a plan. -/
structure Event.Valid (event : Event) : Prop where
  manifest : isHash event.manifestSha256 = true
  campaign : isHash event.campaignIdSha256 = true
  sequence : event.sequence < 100
  slotOrdinal : event.slotOrdinal < 100
  pairIndex : event.pairIndex < 100
  category : event.failureCategory.all isFailureCategory = true
  outcome : event.runtimeOutcomeSha256.all isHash = true
  runtime : event.modelRuntimeInstanceSha256.all isHash = true
  reconciliation : event.proxyReconciliationSha256.all isHash = true
  previous : event.previousEventSha256.all isHash = true
  predecessor : event.directPredecessorRuntimeOutcomeSha256.all isHash = true
  identity : event.modelIdentitySha256.all isHash = true
  ended : event.status = .passed ↔ event.failureCategory = none

def eventKeys : List Text :=
  ["schema_version", "record_type", "campaign_manifest_sha256", "campaign_id_sha256", "sequence", "slot_ordinal",
    "cache_lane", "pair_index", "stage", "status", "failure_category", "runtime_outcome_sha256",
    "model_runtime_instance_sha256", "proxy_reconciliation_sha256", "previous_event_sha256"]

def secondKeys : List Text := ["direct_predecessor_runtime_outcome_sha256", "model_identity_sha256"]

theorem Event.keys_document (event : Event) :
    event.document.keys = eventKeys ++ (if event.campaignVersion = .v2 then secondKeys else []) := by
  unfold document second
  cases event.campaignVersion <;> rfl

theorem wellKeyed_eventKeys : wellKeyed (eventKeys ++ secondKeys) = true := by
  have distinct : (eventKeys ++ secondKeys).Nodup := Text.nodup_of_codes (by decide)
  have ascii : (eventKeys ++ secondKeys).all plain = true := by decide
  rw [wellKeyed, decide_eq_true distinct, ascii]
  rfl

theorem Event.wellKeyed_document (event : Event) : wellKeyed event.document.keys = true := by
  rw [event.keys_document]
  split
  · exact wellKeyed_eventKeys
  · have both := wellKeyed_eventKeys
    simp only [wellKeyed, Bool.and_eq_true, decide_eq_true_eq, List.all_eq_true, List.append_nil] at both ⊢
    exact ⟨both.1.of_append_left, fun key member => both.2 key (List.mem_append_left _ member)⟩

theorem Event.nodup_document (event : Event) : event.document.keys.Nodup := by
  have well := event.wellKeyed_document
  simp only [wellKeyed, Bool.and_eq_true, decide_eq_true_eq] at well
  exact well.1

section
variable {py : Python}

theorem plain_category {text : Text} (category : isFailureCategory text = true) : plain text = true := by
  simp only [isFailureCategory, Bool.and_eq_true, List.all_eq_true] at category
  refine plain_iff.mpr fun c member => ?_
  have kept := category.2 c member
  simp only [isCategoryChar, Bool.or_eq_true, Bool.and_eq_true, decide_eq_true_eq] at kept
  rcases kept with (lower | digit) | rfl
  · omega
  · omega
  · decide

theorem printed_optional {check : Text → Bool} (ascii : ∀ {text : Text}, check text = true → plain text = true)
    {text : Option Text} (checked : text.all check = true) : Printed py (optionalText text) := by
  refine structural_text printed_structural fun kept member => ascii ?_
  rw [Option.mem_def.mp member] at checked
  exact checked

theorem printed_hash {text : Option Text} (hex : text.all isHash = true) : Printed py (optionalText text) :=
  printed_optional plain_of_hex hex

theorem printed_small {n : Nat} (small : n < 100) : Printed py (.int n) := by
  refine ⟨trivial, ?_, ascii_int _⟩
  have short : (Text.ofNat n).length ≤ 2 := ofNat_length (by decide) small
  simp only [Value.printable, decide_eq_true_eq, Int.natAbs_natCast]
  exact short.trans (by decide)

theorem plain_names (event : Event) : plain event.cacheLane.name = true ∧ plain event.stage.name = true ∧
    plain event.status.name = true := by
  refine ⟨?_, ?_, ?_⟩
  · cases event.cacheLane <;> decide
  · cases event.stage <;> decide
  · cases event.status <;> decide

theorem Event.Valid.printed {event : Event} (valid : event.Valid) : Printed py (.obj event.document) := by
  obtain ⟨lane, stage, status⟩ := plain_names event
  have text {text : Text} (ascii : plain text = true) : Printed py (.str text) := printed_structural.str text ascii
  refine printed_structural.fields _ rfl event.wellKeyed_document ?_
  unfold document
  simp only [List.forall_mem_cons]
  refine ⟨text (by decide), text (by decide), text (plain_of_hex valid.manifest), text (plain_of_hex valid.campaign),
    printed_small valid.sequence, printed_small valid.slotOrdinal, text lane, printed_small valid.pairIndex, text stage,
    text status, printed_optional plain_category valid.category, printed_hash valid.outcome, printed_hash valid.runtime,
    printed_hash valid.reconciliation, printed_hash valid.previous, ?_⟩
  unfold second
  cases event.campaignVersion with
  | v1 => exact List.forall_mem_nil _
  | v2 =>
      simp only [List.forall_mem_cons]
      exact ⟨printed_hash valid.predecessor, printed_hash valid.identity, List.forall_mem_nil _⟩

end

/-! ## What is read of an event -/

section
variable {py : Python} (wide : JsonEncoding → Bytes → Option Text)

omit wide in
/-- A printed object is written as a document that is read back. -/
theorem lineBytes_document {fields : Object} (printed : Printed py (.obj fields)) :
    ∃ document : AsciiDocument py, document.fields = fields ∧ lineBytes fields = document.bytes := by
  let document : AsciiDocument py := ⟨fields, printed.clean, printed.printable, printed.ascii⟩
  refine ⟨document, rfl, ?_⟩
  rw [lineBytes, AsciiDocument.bytes, ← document.fileText_eq]

theorem loadUnique_lineBytes {fields : Object} (printed : Printed py (.obj fields)) :
    loadUnique py wide (lineBytes fields) = some (.obj fields.canonical) := by
  obtain ⟨document, rfl, bytes⟩ := lineBytes_document printed
  rw [bytes]
  exact document.loadUnique_bytes wide

omit wide in
theorem lineBytes_split {fields : Object} (printed : Printed py (.obj fields)) :
    ∃ line, lineBytes fields = line ++ [byte 0x0a] ∧ byte 0x0a ∉ line := by
  obtain ⟨document, rfl, bytes⟩ := lineBytes_document printed
  refine ⟨document.row.text.flatMap encodeChar, ?_, ?_⟩
  · rw [bytes, AsciiDocument.bytes, List.flatMap_append]
    rfl
  · intro member
    obtain ⟨c, inside, encoded⟩ := List.mem_flatMap.mp member
    have same := mem_encodeChar encoded (by decide)
    have large := document.row.text_uncontrolled c inside
    rw [← same] at large
    exact absurd large (by decide)

omit wide in
/-- The first part of a line does not end. -/
theorem unfinished_line {fields : Object} (printed : Printed py (.obj fields)) {written : Bytes}
    (cut : written <+: lineBytes fields) (short : written ≠ lineBytes fields) : byte 0x0a ∉ written := by
  obtain ⟨line, split, single⟩ := lineBytes_split printed
  rw [split] at cut short
  rcases List.prefix_concat_iff.mp cut with whole | inside
  · exact absurd whole short
  · exact fun member => single (inside.subset member)

end

theorem canonical_optionalText (text : Option Text) : (optionalText text).canonical = optionalText text := by
  cases text <;> rfl

/-- A member of an event that is read back. -/
theorem Event.get?_canonical (event : Event) {key : Text} {value : Value} (found : event.document.get? key = some value) :
    event.document.canonical.get? key = some value.canonical := by
  rw [Value.get?_canonical event.nodup_document, found]
  rfl

theorem Event.get?_status (event : Event) :
    event.document.canonical.get? "status" = some (.str event.status.name) := by
  have found : event.document.get? "status" = some (.str event.status.name) := by
    simp [document, Object.get?_cons, Text.literal_inj]
  exact event.get?_canonical found

theorem Event.get?_sequence (event : Event) : event.document.canonical.get? "sequence" = some (.int event.sequence) := by
  have found : event.document.get? "sequence" = some (.int event.sequence) := by
    simp [document, Object.get?_cons, Text.literal_inj]
  exact event.get?_canonical found

/-- The members that may be missing. -/
theorem Event.get?_optional (event : Event) :
    event.document.canonical.get? "failure_category" = some (optionalText event.failureCategory) ∧
      event.document.canonical.get? "runtime_outcome_sha256" = some (optionalText event.runtimeOutcomeSha256) ∧
      event.document.canonical.get? "model_runtime_instance_sha256" = some (optionalText event.modelRuntimeInstanceSha256) ∧
      event.document.canonical.get? "previous_event_sha256" = some (optionalText event.previousEventSha256) := by
  have category : event.document.get? "failure_category" = some (optionalText event.failureCategory) := by
    simp [document, Object.get?_cons, Text.literal_inj]
  have outcome : event.document.get? "runtime_outcome_sha256" = some (optionalText event.runtimeOutcomeSha256) := by
    simp [document, Object.get?_cons, Text.literal_inj]
  have runtime : event.document.get? "model_runtime_instance_sha256" = some (optionalText event.modelRuntimeInstanceSha256) := by
    simp [document, Object.get?_cons, Text.literal_inj]
  have previous : event.document.get? "previous_event_sha256" = some (optionalText event.previousEventSha256) := by
    simp [document, Object.get?_cons, Text.literal_inj]
  rw [event.get?_canonical category, event.get?_canonical outcome, event.get?_canonical runtime, event.get?_canonical previous]
  simp only [canonical_optionalText, and_self]

theorem StageStatus.name_eq {first second : StageStatus} (same : first.name = second.name) : first = second := by
  cases first <;> cases second <;> first | rfl | simp [name, Text.literal_inj] at same

theorem mem_lineBytes (document : Object) : byte 0x0a ∈ lineBytes document := by
  rw [lineBytes]
  exact List.mem_flatMap.mpr ⟨lineFeed, by simp [fileText], by decide⟩

/-- What the loader compares an event with ends its line. -/
theorem mem_fileBytes {fields : Object} {serialized : Bytes} (written : fileBytes fields = .ok serialized) :
    byte 0x0a ∈ serialized := by
  unfold fileBytes encode at written
  split at written
  · split at written
    · rw [← Except.ok.inj written]
      exact List.mem_flatMap.mpr ⟨lineFeed, by simp [fileText], by decide⟩
    · cases written
  · cases written

end HarnessProxy.Campaign

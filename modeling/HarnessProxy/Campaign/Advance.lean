import HarnessProxy.Campaign.Events
import HarnessProxy.Data.Calls

namespace HarnessProxy.Campaign

open HarnessProxy.Core HarnessProxy.Json HarnessProxy.Evidence Evidence.Model Data Data.Program

/-! # Advancing a campaign

`advance_qualification_campaign` as a program that calls the file system, the
stage runner and the readiness probe.
-/

/-! ## Calls -/

inductive StageState where
  | absent | complete | unfinished
deriving DecidableEq, Repr

structure StageInspection where
  state : StageState
  result : Option StageResult

inductive ReadinessState where
  | ready | restartRequired
deriving DecidableEq, Repr

structure ReadinessResult where
  state : ReadinessState
  modelRuntimeInstanceSha256 : Option Text

/-- What an adapter returns: the value, something of another type, or an exception. -/
inductive Answer (α : Type) where
  | value (returned : α)
  | other
  | raised

/-- The directories with evidence: the events, their heads and the campaign itself. -/
inductive Folder where
  | events | heads | root
deriving DecidableEq, Repr

inductive Creation where
  | written | existed | failed
deriving DecidableEq, Repr

inductive Op where
  /-- `_validate_private_campaign_dir` -/
  | privateDir
  /-- `_read_regular_file(manifest, private=False)` -/
  | manifest
  /-- `_open_lock` and `flock` -/
  | lock
  /-- `_private_subdirectory` -/
  | subdirectory (name : Text)
  /-- `sorted(folder.iterdir())` -/
  | names (folder : Folder)
  /-- `_read_regular_file(folder / name, private=True)` -/
  | read (folder : Folder) (name : Text)
  /-- `path.exists() or path.is_symlink()` -/
  | present (folder : Folder) (name : Text)
  /-- `_atomic_write_no_clobber` with these bytes -/
  | create (folder : Folder) (name : Text) (content : Bytes)
  /-- `_read_regular_file(result.outcome_path, private=True)` -/
  | outcome (path : Text × Text)
  | inspect (request : StageRequest)
  | probe (request : StageRequest)
  | run (request : StageRequest)
  /-- `_policy_benefit_gate` on the files of the slots -/
  | policyBenefitGate
  /-- `adapt_v2_scored_evidence` of every slot and `evaluate_qualification_v2` -/
  | evaluate

/-- What is replied; `none` and `false` stand for an `OSError`. -/
@[reducible] def Op.Reply : Op → Type
  | privateDir => Bool
  | manifest => Option Bytes
  | lock => Bool
  | subdirectory _ => Bool
  | names _ => Option (List Text)
  | read _ _ => Option Bytes
  | present _ _ => Bool
  | create _ _ _ => Creation
  | outcome _ => Option Bytes
  | inspect _ => Answer StageInspection
  | probe _ => Answer ReadinessResult
  | run _ => Answer StageResult
  | policyBenefitGate => Object
  | evaluate => Option Object

abbrev Task (α : Type) := Program Op Op.Reply Failure α

/-- The check that an adapter returned what it should. -/
def returned {α : Type} (ofOther ofRaised : Failure) : Answer α → Except Failure α
  | .value result => .ok result
  | .other => .error ofOther
  | .raised => .error ofRaised

/-- `_inspect_stage` -/
def inspectStage (request : StageRequest) : Task StageInspection := do
  let answer ← ask (Op.inspect request)
  lift (returned .stageStateInvalid .stageInspectionFailed answer)

/-- `_probe_readiness` -/
def probeReadiness (request : StageRequest) : Task ReadinessResult := do
  let answer ← ask (Op.probe request)
  lift (returned .modelInstanceInvalid .readinessProbeFailed answer)

/-- `_run_stage` -/
def runStage (request : StageRequest) : Task StageResult := do
  let answer ← ask (Op.run request)
  lift (returned .stageOutcomeInvalid .stageRunnerFailed answer)

def created (content : Bytes) : Creation → Except Failure Bytes
  | .written => .ok content
  | .existed => .error .evidenceExists
  | .failed => .error .evidenceWriteFailed

/-- `_atomic_write_no_clobber` -/
def atomicWriteNoClobber (folder : Folder) (name : Text) (document : Object) : Task Bytes := do
  let creation ← ask (Op.create folder name (lineBytes document))
  lift (created (lineBytes document) creation)

section
variable (platform : ExportPlatform)

/-- `_validate_stage_result` -/
def validateStageResult (request : StageRequest) (result : StageResult) : Task Unit := do
  require (result.Fits request) .stageOutcomeInvalid
  let serialized ← ask (Op.outcome result.outcomePath)
  let serialized ← orRaise .stageOutcomeInvalid serialized
  require (platform.sha256 serialized = result.outcomeSha256) .stageOutcomeInvalid

/-- `_write_event` -/
def writeEvent (sequence : Nat) (event : Event) : Task Text := do
  let serialized ← atomicWriteNoClobber .events (fileName sequence) event.document
  let _ ← atomicWriteNoClobber .heads (fileName sequence) (headRecord sequence (platform.sha256 serialized))
  pure (platform.sha256 serialized)

/-! ## Loading -/

/-- The events that were read, with their digests, and the model instances in them. -/
structure Chain where
  events : List (Object × Text)
  used : List Text

namespace Chain

variable (chain : Chain)

def previous : Option Text := chain.events.getLast?.map Prod.snd

/-- The outcome of the direct treatment before a proxy treatment.  A value that is
not a text is refused like a missing one. -/
def predecessor (spec : Spec) (stage : CampaignStage) : Option Text :=
  if spec.campaignVersion = .v2 ∧ stage = .scoreProxy then
    chain.events.getLast?.bind fun last => (last.1.get? "runtime_outcome_sha256").bind Value.asString?
  else none

end Chain

/-- `json.loads(.., object_pairs_hook=_unique_object)` of a file, as an object. -/
def readObject (serialized : Bytes) : Option Object := (loadUnique platform.py platform.wide serialized).bind Value.asObject?

/-- The event that should have been recorded. -/
def expectedEvent (spec : Spec) (request : StageRequest) (chain : Chain) (event : Object) : Task Event :=
  if event.get? "failure_category" = some (.str partialStage) then
    pure (partialEventRecord spec request chain.previous)
  else do
    let inspection ← inspectStage request
    require (inspection.state = .complete) .eventChainInvalid
    let result ← orRaise .eventChainInvalid inspection.result
    validateStageResult platform request result
    lift (eventRecord spec request result chain.previous (chain.predecessor spec request.stage))

/-- The head of an event is read, or written where the last one is missing. -/
def checkHead (total sequence : Nat) (digest : Text) : Task Unit := do
  let here ← ask (Op.present .heads (fileName sequence))
  if here then do
    let headBytes ← ask (Op.read .heads (fileName sequence))
    let headDocument ← orRaise .eventChainInvalid (headBytes.bind (loadUnique platform.py platform.wide))
    require (headDocument.equal platform.floatEqual (.obj (headRecord sequence digest))) .eventChainInvalid
  else do
    require (sequence = total) .eventChainInvalid
    let _ ← atomicWriteNoClobber .heads (fileName sequence) (headRecord sequence digest)

/-- The instances in use after an event. -/
def useInstance (event : Object) (used : List Text) : Except Failure (List Text) :=
  if event.get? "failure_category" = some (.str partialStage) then .ok used
  else match (event.get? "model_runtime_instance_sha256").getD .null with
    | .null => .ok used
    | .str runtime => if runtime ∈ used then .error .modelInstanceReused else .ok (runtime :: used)
    | _ => .error .modelInstanceReused

/-- The body of the loop of `_load_events`. -/
def loadEvent (spec : Spec) (total sequence : Nat) (name : Text) (chain : Chain) : Task Chain := do
  let serialized ← ask (Op.read .events name)
  let serialized ← orRaise .eventChainInvalid serialized
  let event ← orRaise .eventChainInvalid (readObject platform serialized)
  let request ← orRaise .eventChainInvalid (stageRequest spec sequence)
  let expected ← expectedEvent platform spec request chain event
  require ((Value.obj event).equal platform.floatEqual (.obj expected.document)) .eventChainInvalid
  require (fileBytes event = .ok serialized) .eventChainInvalid
  checkHead platform total sequence (platform.sha256 serialized)
  let used ← lift (useInstance event chain.used)
  pure ⟨chain.events ++ [(event, platform.sha256 serialized)], used⟩

def loadFrom (spec : Spec) (total : Nat) : Nat → List Text → Chain → Task Chain
  | _, [], chain => pure chain
  | sequence, name :: rest, chain => do
    let chain ← loadEvent platform spec total sequence name chain
    loadFrom spec total (sequence + 1) rest chain

def expectedNames (count : Nat) : List Text := (List.range count).map fun index => fileName (index + 1)

/-- `_load_events` -/
def loadEvents (spec : Spec) : Task Chain := do
  let names ← ask (Op.names .events)
  let names ← orRaise .eventChainInvalid names
  let headNames ← ask (Op.names .heads)
  let headNames ← orRaise .eventChainInvalid headNames
  require (names = expectedNames names.length ∧ names.length ≤ eventCount spec ∧
    (headNames = expectedNames names.length ∨ headNames = (expectedNames names.length).dropLast)) .eventChainInvalid
  loadFrom platform spec names.length 1 names ⟨[], []⟩

/-! ## Results -/

inductive AdvanceKind where
  | stageCompleted | restartRequired | campaignPassed | campaignScoredComplete | campaignFailed
deriving DecidableEq, Repr

structure CampaignPosition where
  ordinal : Nat
  cacheLane : CampaignLane
  pairIndex : Nat
deriving DecidableEq

/-- `_public_position` -/
def publicPosition (slot : Slot) : CampaignPosition := ⟨slot.ordinal, slot.cacheLane, slot.pairIndex⟩

structure CampaignAdvance where
  kind : AdvanceKind
  sequence : Option Nat
  slot : Option CampaignPosition
  stage : Option CampaignStage
  status : Option Text
  failureCategory : Option Text
  eventSha256 : Option Text
  campaignOutcomeSha256 : Option Text
deriving DecidableEq

/-- What is reported of a stage. -/
def stageAdvance (kind : AdvanceKind) (request : StageRequest) (status failureCategory eventSha256 : Option Text) :
    CampaignAdvance :=
  ⟨kind, some request.sequence, some (publicPosition request.slot), some request.stage, status, failureCategory, eventSha256,
    none⟩

/-- `_terminal_advance` -/
def terminalAdvance (spec : Spec) (event : Object) (eventSha256 : Text) : Except Failure CampaignAdvance :=
  match event.get? "sequence" with
  | some (.int sequence) =>
    match stageRequest spec sequence.toNat with
    | none => .error .eventChainInvalid
    | some request =>
      let status : Text := if event.get? "status" = some (.str "interrupted") then "interrupted" else "failed"
      .ok (stageAdvance .campaignFailed request (some status)
        ((event.get? "failure_category").bind Value.asString?) (some eventSha256))
  | _ => .error .eventChainInvalid

/-! ## Completion -/

def outcomeName : Text := "qualification-campaign-outcome.json"

/-- The outcome is compared with the one on disk, or written. -/
def storeOutcome (outcome : Object) : Task Text := do
  let here ← ask (Op.present .root outcomeName)
  if here then do
    let serialized ← ask (Op.read .root outcomeName)
    let serialized ← orRaise .outcomeInvalid serialized
    let existing ← orRaise .outcomeInvalid (loadUnique platform.py platform.wide serialized)
    require (existing.equal platform.floatEqual (.obj outcome)) .outcomeInvalid
    pure (platform.sha256 serialized)
  else do
    let serialized ← atomicWriteNoClobber .root outcomeName outcome
    pure (platform.sha256 serialized)

def completedAdvance (kind : AdvanceKind) (failureCategory : Option Text) (chain : Chain) (digest : Text) : CampaignAdvance :=
  ⟨kind, none, none, none, none, failureCategory, chain.previous, some digest⟩

/-- A member of an event, or `None`. -/
def field (event : Object) (key : Text) : Value := (event.get? key).getD .null

def proxyReconciliations (chain : Chain) : List Value :=
  (chain.events.filter fun event => event.1.get? "stage" = some (.str "score-proxy")).map fun event =>
    field event.1 "proxy_reconciliation_sha256"

/-- `_complete_campaign` of the first version. -/
def completeFirst (spec : Spec) (chain : Chain) : Task CampaignAdvance := do
  require (chain.used.length = 13) .modelInstanceInvalid
  let gate ← ask Op.policyBenefitGate
  let passed := decide (gate.get? "status" = some (.str "passed"))
  let digest ← storeOutcome platform [("schema_version", .str "1.0"), ("record_type", .str "qualification_campaign_outcome"),
    ("status", .str (if passed then "passed" else "failed")), ("campaign_manifest_sha256", .str spec.manifestSha256),
    ("head_event_sha256", optionalText chain.previous), ("event_count", .int 13), ("slot_count", .int 6),
    ("scored_stage_count", .int 12), ("scored_model_instance_count", .int 12),
    ("proxy_reconciliation_sha256s", .arr (proxyReconciliations chain)), ("policy_benefit_gate", .obj gate)]
  pure (completedAdvance (if passed then .campaignPassed else .campaignFailed)
    (if passed then none else (gate.get? "failure_category").bind Value.asString?) chain digest)

/-- The event of a stage of a slot; the last one counts. -/
def eventAt (chain : Chain) (ordinal : Nat) (stage : CampaignStage) : Option Object :=
  ((chain.events.map Prod.fst).reverse).find? fun event =>
    event.get? "slot_ordinal" = some (.int ordinal) ∧ event.get? "stage" = some (.str stage.name)

/-- What `_complete_v2_campaign` checks in the events of a slot, and the digest of
its reconciliation. -/
def slotReconciliation (chain : Chain) (slot : Slot) : Option Text := do
  let direct ← eventAt chain slot.ordinal .scoreDirect
  let proxy ← eventAt chain slot.ordinal .scoreProxy
  let _ ← (field direct "model_identity_sha256").asString?
  let _ ← (field proxy "model_identity_sha256").asString?
  let directHash ← (field direct "runtime_outcome_sha256").asString?
  let _ ← (field proxy "runtime_outcome_sha256").asString?
  guard (field proxy "direct_predecessor_runtime_outcome_sha256" = .str directHash)
  (field proxy "proxy_reconciliation_sha256").asString?

/-- `_complete_v2_campaign`; without an evaluation the evidence is invalid. -/
def completeSecond (spec : Spec) (chain : Chain) : Task CampaignAdvance := do
  require (chain.events.length = 17 ∧ chain.used.length = 17 ∧ spec.scenarioDeadlineSeconds ≠ none) .eventChainInvalid
  let evaluated ← ask Op.evaluate
  let reduced := (spec.slots.mapM (slotReconciliation chain)).bind fun hashes => evaluated.map fun evaluator => (hashes, evaluator)
  let promoted := reduced.any fun parts =>
    (parts.2.get? "gates").bind (fun gates => gates.asObject?.bind fun gates => gates.get? "promotion_passed") = some (.bool true)
  let category : Option Text :=
    if reduced.isNone then some "v2_evidence_invalid" else if promoted then none else some "v2_scored_gate_failed"
  let digest ← storeOutcome platform [("schema_version", .str "2.0"), ("record_type", .str "qualification_campaign_outcome"),
    ("status", .str (if reduced.isSome then "scored_complete" else "failed")),
    ("scored_decision", .str (if promoted then "scored_passed" else "scored_failed")),
    ("failure_category", optionalText category), ("campaign_manifest_sha256", .str spec.manifestSha256),
    ("head_event_sha256", optionalText chain.previous), ("event_count", .int 17), ("slot_count", .int 8),
    ("scored_stage_count", .int 16), ("scored_model_instance_count", .int 16),
    ("proxy_reconciliation_sha256s", .arr ((reduced.map Prod.fst).getD []|>.map .str)),
    ("evaluator", (reduced.map fun parts => Value.obj parts.2).getD .null)]
  pure (completedAdvance (if reduced.isSome then .campaignScoredComplete else .campaignFailed) category chain digest)

/-- `_complete_campaign` -/
def completeCampaign (spec : Spec) (chain : Chain) : Task CampaignAdvance :=
  if spec.campaignVersion = .v2 then completeSecond platform spec chain else completeFirst platform spec chain

/-! ## The next stage -/

/-- A stage that was cut off is recorded as failed. -/
def recordPartial (spec : Spec) (request : StageRequest) (chain : Chain) : Task CampaignAdvance := do
  let digest ← writeEvent platform request.sequence (partialEventRecord spec request chain.previous)
  pure (stageAdvance .campaignFailed request (some "failed") (some partialStage) (some digest))

/-- The result of a stage is recorded, and the last one completes the campaign. -/
def recordResult (spec : Spec) (request : StageRequest) (chain : Chain) (result : StageResult) : Task CampaignAdvance := do
  require (∀ runtime ∈ result.modelRuntimeInstanceSha256, runtime ∉ chain.used) .modelInstanceReused
  let event ← lift (eventRecord spec request result chain.previous (chain.predecessor spec request.stage))
  let digest ← writeEvent platform request.sequence event
  if request.sequence = eventCount spec ∧ result.status = .passed then do
    let runtime ← orRaise .modelInstanceInvalid result.modelRuntimeInstanceSha256
    completeCampaign platform spec ⟨chain.events ++ [(event.document, digest)], runtime :: chain.used⟩
  else
    pure (stageAdvance (if result.status = .passed then .stageCompleted else .campaignFailed) request (some result.status.name)
      result.failureCategory (some digest))

/-- A stage is run, on the instance that the probe found. -/
def executeStage (spec : Spec) (request : StageRequest) (chain : Chain) (expectedInstance : Option Text) :
    Task CampaignAdvance := do
  let usable ← ask (Op.subdirectory request.privateRunDir)
  require usable .privateDirInvalid
  let result ← runStage request
  validateStageResult platform request result
  require (∀ expected ∈ expectedInstance, ∀ runtime ∈ result.modelRuntimeInstanceSha256, runtime = expected) .modelInstanceInvalid
  recordResult platform spec request chain result

/-- A stage that was not started: a scored one needs a fresh instance. -/
def startStage (spec : Spec) (request : StageRequest) (chain : Chain) : Task CampaignAdvance :=
  if request.stage = .preflight then executeStage platform spec request chain none
  else do
    let readiness ← probeReadiness request
    if readiness.state = .restartRequired ∧ readiness.modelRuntimeInstanceSha256 = none then
      pure (stageAdvance .restartRequired request none none none)
    else do
      require (readiness.state = .ready ∧
        readiness.modelRuntimeInstanceSha256.any (fun runtime => isHash runtime && decide (runtime ∉ chain.used)))
        .modelInstanceInvalid
      executeStage platform spec request chain readiness.modelRuntimeInstanceSha256

def advanceStage (spec : Spec) (chain : Chain) : Task CampaignAdvance := do
  let request ← orRaise .eventChainInvalid (stageRequest spec (chain.events.length + 1))
  let inspection ← inspectStage request
  match inspection.state, inspection.result with
  | .unfinished, none => recordPartial platform spec request chain
  | .complete, some result => do
    validateStageResult platform request result
    recordResult platform spec request chain result
  | .absent, none => startStage platform spec request chain
  | _, _ => raise .stageStateInvalid

/-- What `advance_qualification_campaign` does once the events are read. -/
def advanceChain (spec : Spec) (chain : Chain) : Task CampaignAdvance :=
  match chain.events.getLast? with
  | none => advanceStage platform spec chain
  | some last =>
    if last.1.get? "status" ≠ some (.str "passed") then lift (terminalAdvance spec last.1 last.2)
    else if chain.events.length = eventCount spec then completeCampaign platform spec chain
    else advanceStage platform spec chain

/-- `advance_qualification_campaign` -/
def advanceQualificationCampaign : Task CampaignAdvance := do
  let valid ← ask Op.privateDir
  require valid .privateDirInvalid
  let manifest ← ask Op.manifest
  let spec ← orRaise .manifestInvalid (manifest.bind (loadCampaignSpec platform))
  let locked ← ask Op.lock
  require locked .lockInvalid
  let events ← ask (Op.subdirectory "campaign-events")
  require events .privateDirInvalid
  let heads ← ask (Op.subdirectory "campaign-event-heads")
  require heads .privateDirInvalid
  let slots ← ask (Op.subdirectory "slots")
  require slots .privateDirInvalid
  let chain ← loadEvents platform spec
  advanceChain platform spec chain

end

end HarnessProxy.Campaign

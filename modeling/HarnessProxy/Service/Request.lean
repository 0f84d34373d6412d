import HarnessProxy.Service.Validation
import HarnessProxy.Transcript.Reconstruct

namespace HarnessProxy.Service

open HarnessProxy.Json HarnessProxy.Core HarnessProxy.Transcript

/-! # From a payload to a prepared request

Everything that happens before the transcript is read: validation, the policy
extensions, the roles of the tools and the capability mode.
-/

inductive CapabilityMode where
  | passthrough
  | phaseSplit
  | combinedV1
deriving DecidableEq

inductive CapabilityPhase where
  | acquisition
  | finalization
deriving DecidableEq

/-- The settings that `ChatService` reads.  Startup refuses overlapping roles. -/
structure Settings where
  maxUpstreamCalls : Nat := 7
  maxInternalRetries : Nat := 4
  capabilityMode : CapabilityMode := .passthrough
  baseRoles : ToolRoles := {}
  disjoint : baseRoles.Disjoint
  cacheNamespaceFields : List Text := []
  deniedTools : List Text := []
  requireReceiptWhenToolsPresent : Bool := true

/-- The keyword arguments of `complete` that policy depends on. -/
structure Options where
  harnessEnabled : Bool := true
  policyExtensionsAllowed : Bool := false
  trustedPolicyExtensionUsed : Bool := false

def requireReceiptExtension : Text := "x-shiftedx-require-receipt"
def toolDenyExtension : Text := "x-shiftedx-denied-tools"

/-- `normalize_cache_field_name` -/
def normalizeCacheFieldName (py : Python) (name : Text) : Text :=
  (name.flatMap py.casefold).filter py.isAlnum

/-- The condition of `reject_client_cache_namespaces`. -/
def selectsCacheNamespace (py : Python) (payload : Object) (deniedFields : List Text) : Bool :=
  payload.keys.any fun name => deniedFields.contains (normalizeCacheFieldName py name)

def requiresPhaseSplit (mode : CapabilityMode) (hasTools hasResponseFormat strictSchemaSupported : Bool) :
    Bool :=
  mode = .phaseSplit && hasTools && hasResponseFormat && strictSchemaSupported

def requiresCombinedCapability (mode : CapabilityMode)
    (hasTools hasResponseFormat strictSchemaSupported : Bool) : Bool :=
  mode = .combinedV1 && hasTools && hasResponseFormat && strictSchemaSupported

/-- The handlers around `prepare_tools`. -/
def preparedTools (settings : Settings) (options : Options) (rawTools : Option Value) :
    Except Raised (List Value × ToolRoles × Bool) :=
  match prepareTools rawTools settings.baseRoles options.policyExtensionsAllowed with
  | .ok prepared => .ok prepared
  | .error (.policyAnnotationError statusCode code message) => .error (proxyError statusCode code message)
  | .error (.valueError message) => .error (invalidTools message)

/-- The variables of `complete` when the transcript is read. -/
structure Prepared where
  forwarded : Object
  messages : List Value
  tools : List Value
  roles : ToolRoles
  contract : SchemaContract
  usePhaseSplit : Bool
  /-- `bool(tools) and require_receipt` -/
  requireReceipt : Bool
  policyExtensionUsed : Bool

/-- `{_tool_name(tool) for tool in tools}` -/
def Prepared.availableTools (prepared : Prepared) : List Text :=
  prepared.tools.filterMap fun tool => tool.asObject?.bind fun fields => (toolFunction? fields).map Prod.snd

/-- The client errors that precede `prepare_tools`. -/
def checkExtensions (py : Python) (settings : Settings) (options : Options) (payload : Object) :
    Except Raised Unit := do
  raiseIf (!options.harnessEnabled && !settings.deniedTools.isEmpty)
    (proxyError 403 "harness_opt_out_denied_by_tool_policy"
      "Harness opt-out is unavailable for this request.")
  raiseIf (selectsCacheNamespace py payload settings.cacheNamespaceFields)
    (proxyError 400 "untrusted_cache_namespace"
      "Client-selected cache namespaces are not supported by this upstream profile.")
  raiseIf (payload.get? "stream" = some (.bool true))
    (proxyError 400 "streaming_not_supported" "stream=true is not supported by this proxy version.")
  raiseIf (payload.has toolDenyExtension)
    (proxyError 400 "tool_deny_override_denied" "Tool deny policy is configured only by the server.")
  raiseIf (payload.has requireReceiptExtension && !(payload.get? requireReceiptExtension matches some (.bool _)))
    (proxyError 400 "invalid_receipt_override"
      "x-shiftedx-require-receipt must be a boolean when present.")
  raiseIf (payload.get? requireReceiptExtension = some (.bool false) && !options.policyExtensionsAllowed)
    (proxyError 403 "receipt_override_denied"
      "Receipt requirements cannot be disabled by this principal.")

/-- `copy.deepcopy(payload)` without the receipt extension and with stripped tools. -/
def forwardedPayload (payload : Object) (tools : List Value) : Object :=
  let forwarded := payload.pop requireReceiptExtension
  if forwarded.has "tools" then forwarded.assign "tools" (.arr tools) else forwarded

/-- The schema that the selected mode cannot enforce beside tools. -/
def unsupportedSchema (settings : Settings) (tools : List Value) (forwarded : Object)
    (contract : SchemaContract) : Bool :=
  settings.capabilityMode ≠ .passthrough && !tools.isEmpty && forwarded.has "response_format" &&
    !contract.strictPrimitiveObject

/-- `require_receipt`: the client's override, or the setting. -/
def receiptsRequired (settings : Settings) (payload : Object) : Bool :=
  match payload.get? requireReceiptExtension with
  | some (.bool override) => override
  | _ => settings.requireReceiptWhenToolsPresent

def prepareRequest (py : Python) (settings : Settings) (options : Options) (combinedSupported : Bool)
    (payload : Object) : Except Raised Prepared := do
  validateChatPayload payload options.harnessEnabled
  checkExtensions py settings options payload
  let (tools, roles, roleExtensionUsed) ← preparedTools settings options (payload.get? "tools")
  let forwarded := forwardedPayload payload tools
  let contract ← uncaught (responseSchemaContract (forwarded.get? "response_format"))
  raiseIf (unsupportedSchema settings tools forwarded contract)
    (proxyError 400 (if settings.capabilityMode = .phaseSplit then "unsupported_phase_split_schema"
        else "unsupported_combined_schema")
      "The selected upstream capability mode cannot safely enforce this response schema with tools.")
  raiseIf (requiresCombinedCapability settings.capabilityMode (!tools.isEmpty)
      (forwarded.has "response_format") contract.strictPrimitiveObject && !combinedSupported)
    (proxyError 503 "upstream_combined_capability_unavailable"
      "The configured upstream combined capability is unavailable.")
  return {
    forwarded
    messages := ((forwarded.get? "messages").bind Value.asList?).getD []
    tools
    roles
    contract
    usePhaseSplit := requiresPhaseSplit settings.capabilityMode (!tools.isEmpty)
      (forwarded.has "response_format") contract.strictPrimitiveObject
    requireReceipt := !tools.isEmpty && receiptsRequired settings payload
    policyExtensionUsed := options.trustedPolicyExtensionUsed || roleExtensionUsed ||
      payload.get? requireReceiptExtension = some (.bool false) }

/-- `str(exc)` of a caught `ValueError`. -/
def describeError (py : Python) : PyError → Text
  | .valueError message => message
  | error => py.describe error

/-- The handler around `reconstruct`. -/
def rebuild (py : Python) (prepared : Prepared) : Except Raised Reconstruction :=
  match reconstruct py (.arr prepared.messages) prepared.availableTools prepared.roles prepared.contract
      prepared.requireReceipt with
  | .ok rebuilt => .ok rebuilt
  | .error error =>
    if error.isValueError then .error (invalidMessages (describeError py error))
    else .error (.python error)

/-! ## What a prepared request says -/

section
variable {py : Python} {settings : Settings} {options : Options} {combinedSupported : Bool}
  {payload : Object} {prepared : Prepared}

theorem rebuild_eq_ok {rebuilt : Reconstruction} : rebuild py prepared = .ok rebuilt ↔
    reconstruct py (.arr prepared.messages) prepared.availableTools prepared.roles prepared.contract
      prepared.requireReceipt = .ok rebuilt := by
  unfold rebuild
  cases reconstruct py (.arr prepared.messages) prepared.availableTools prepared.roles prepared.contract
      prepared.requireReceipt with
  | ok rebuilt => simp
  | error error =>
      simp only [reduceCtorEq, iff_false]
      split <;> simp

theorem preparedTools_disjoint {rawTools : Option Value} {tools : List Value} {roles : ToolRoles}
    {used : Bool} (computed : preparedTools settings options rawTools = .ok (tools, roles, used)) :
    roles.Disjoint := by
  unfold preparedTools at computed
  split at computed
  · next prepared shape =>
    cases computed
    exact prepareTools_disjoint settings.disjoint shape
  · cases computed
  · cases computed

/-- Every intermediate result of an accepted request, once for all later proofs. -/
structure Accepted (py : Python) (settings : Settings) (options : Options) (payload : Object)
    (prepared : Prepared) : Prop where
  validated : validateChatPayload payload options.harnessEnabled = .ok ()
  extensions : checkExtensions py settings options payload = .ok ()
  tools : ∃ used, preparedTools settings options (payload.get? "tools") =
    .ok (prepared.tools, prepared.roles, used)
  forwarded : prepared.forwarded = forwardedPayload payload prepared.tools
  contract : responseSchemaContract (prepared.forwarded.get? "response_format") = .ok prepared.contract
  supported : unsupportedSchema settings prepared.tools prepared.forwarded prepared.contract = false
  messages : prepared.messages = ((prepared.forwarded.get? "messages").bind Value.asList?).getD []
  usePhaseSplit : prepared.usePhaseSplit = requiresPhaseSplit settings.capabilityMode
    (!prepared.tools.isEmpty) (prepared.forwarded.has "response_format")
    prepared.contract.strictPrimitiveObject
  requireReceipt : prepared.requireReceipt =
    (!prepared.tools.isEmpty && receiptsRequired settings payload)

theorem prepareRequest_accepted
    (ran : prepareRequest py settings options combinedSupported payload = .ok prepared) :
    Accepted py settings options payload prepared := by
  simp only [prepareRequest, bind_eq_ok, raiseIf_eq_ok, uncaught_eq_ok, pure, Except.pure,
    Except.ok.injEq] at ran
  obtain ⟨_, validated, _, extensions, ⟨tools, roles, used⟩, prepare, contract, computed, _, supported, _, _,
    rfl⟩ := ran
  exact ⟨validated, extensions, ⟨used, prepare⟩, rfl, computed, supported, rfl, rfl, rfl⟩

theorem Accepted.disjoint (accepted : Accepted py settings options payload prepared) :
    prepared.roles.Disjoint := by
  obtain ⟨_, prepare⟩ := accepted.tools
  exact preparedTools_disjoint prepare

theorem get?_forwardedPayload {tools : List Value} {key : Text} (notTools : key ≠ "tools")
    (notExtension : key ≠ requireReceiptExtension) :
    (forwardedPayload payload tools).get? key = payload.get? key := by
  unfold forwardedPayload
  dsimp only
  split
  · rw [Object.get?_assign_ne _ _ _ notTools, Object.get?_pop_ne _ _ notExtension]
  · rw [Object.get?_pop_ne _ _ notExtension]

/-- The messages of an accepted request are the client's, and each is valid. -/
theorem Accepted.messages_valid (accepted : Accepted py settings options payload prepared) :
    payload.get? "messages" = some (.arr prepared.messages) ∧
      ∀ message ∈ prepared.messages, validateMessage message = .ok () := by
  have found : prepared.forwarded.get? "messages" = payload.get? "messages" := by
    rw [accepted.forwarded]
    exact get?_forwardedPayload (by decide) (by decide)
  have validated := accepted.validated
  simp only [validateChatPayload, bind_eq_ok] at validated
  obtain ⟨_, _, _, checked, _⟩ := validated
  unfold validateMessages at checked
  split at checked
  · next messages shape =>
    have same : prepared.messages = messages := by
      rw [accepted.messages, found, shape]
      rfl
    rw [same]
    exact ⟨shape, forEach_eq_ok.mp checked⟩
  · cases checked

end

end HarnessProxy.Service

import HarnessProxy.Evidence.JsonFile
import HarnessProxy.Evidence.Reconciliation
import HarnessProxy.Service.Loop

namespace HarnessProxy.Evidence

open HarnessProxy.Json
open HarnessProxy.Service (harnessSystemSuffix isInfix)
open HarnessProxy.Timing (isSha256)

/-! # Attempts at the boundary of the model

What the private observer keeps of an attempt, and what the readers of its
ledger ask of it.
-/

inductive BoundaryError where
  | preflight (message : Text)
  | python (error : PyError)
deriving DecidableEq

def liftBoundary {α : Type} : Except PyError α → Except BoundaryError α
  | .ok value => .ok value
  | .error error => .error (.python error)

/-- `fields.get(key)` -/
def item (fields : Object) (key : Text) : Value := (fields.get? key).getD .null

/-- `_sha256` -/
def sha256Of (py : Python) (value : Value) : Except PyError Text := do
  let text ← dumpText true value
  raiseIf (!Text.encodable text) .unicodeEncodeError
  return py.sha256 text

/-! ## Requests -/

def compatibilityMode : Text := "phase_split"
def compatibilityVersion : Text := "shiftedx-phase-plan-v1"
def safePolicyLiterals : List Text := ["auto", "none", "required", "low", "medium", "high"]

/-- The content of the first message with the role `system`. -/
def systemContent : List Value → Value
  | [] => .null
  | .obj message :: rest => if item message "role" = .str "system" then item message "content" else systemContent rest
  | _ :: rest => systemContent rest

/-- `_system_prompt`.  Iterating over an object or a string yields strings, which
are no messages. -/
def requestSystemPrompt (payload : Object) : Except PyError Value :=
  match payload.get? "messages" with
  | none | some (.obj _) | some (.str _) => .ok .null
  | some (.arr messages) => .ok (systemContent messages)
  | some _ => .error .typeError

/-- `text.count(part)`; after an occurrence its characters are skipped. -/
def countFrom (part : Text) : Nat → Text → Nat
  | _, [] => 0
  | skipped + 1, _ :: rest => countFrom part skipped rest
  | 0, c :: rest => if part.isPrefixOf (c :: rest) then countFrom part (part.length - 1) rest + 1 else countFrom part 0 rest

/-- `_has_exact_harness_system_suffix` -/
def hasExactHarnessSystemSuffix : Value → Bool
  | .str text => harnessSystemSuffix.isSuffixOf text && countFrom harnessSystemSuffix 0 text = 1
  | _ => false

/-- `_normalized_base_system_prompt` -/
def normalizedBaseSystemPrompt (prompt : Value) : Value :=
  match prompt with
  | .str text =>
    if hasExactHarnessSystemSuffix prompt then .str (text.take (text.length - harnessSystemSuffix.length)) else prompt
  | _ => prompt

/-- `_safe_policy` -/
def safePolicy (py : Python) : Value → Except PyError Value
  | .str text => do
    if text ∈ safePolicyLiterals then return .str text else return .obj [("sha256", .str (← sha256Of py (.str text)))]
  | .arr _ | .obj _ => .ok .null
  | other => .ok other

/-- `_thinking_enabled` -/
def thinkingEnabled : Value → Value
  | .obj thinking => match item thinking "enabled" with
    | .bool enabled => .bool enabled
    | _ => .null
  | _ => .null

/-- `_cache_mode_policy` -/
def cacheModePolicy (payload : Object) : Value :=
  match item payload "metadata" with
  | .obj metadata => if item metadata "cache_mode" = .str "bypass" then .str "bypass" else .null
  | _ => .null

/-- The sampling values as the request has them. -/
def sampler (payload : Object) : Object :=
  [("temperature", item payload "temperature"), ("top_p", item payload "top_p"), ("top_k", item payload "top_k")]

/-- `_model_boundary_fields` -/
def modelBoundaryFields (py : Python) (payload : Object) : Except PyError Object := do
  let prompt ← requestSystemPrompt payload
  return [
    ("system_prompt_sha256", .str (← sha256Of py prompt)),
    ("base_system_prompt_sha256", .str (← sha256Of py (normalizedBaseSystemPrompt prompt))),
    ("model_id_sha256", .str (← sha256Of py (item payload "model"))),
    ("tool_schema_sha256", .str (← sha256Of py (item payload "tools"))),
    ("tool_choice_policy", ← safePolicy py (item payload "tool_choice")),
    ("terminal_schema_sha256", .str (← sha256Of py (item payload "response_format"))),
    ("sampler", .obj (sampler payload)),
    ("reasoning", .obj [
      ("thinking_enabled", thinkingEnabled (item payload "thinking")),
      ("effort", ← safePolicy py (item payload "reasoning_effort"))]),
    ("token_budget", item payload "max_tokens"),
    ("cache_mode_policy", cacheModePolicy payload)]

/-- `_observed_model_boundary_phase` -/
def observedModelBoundaryPhase (payload : Object) : Except BoundaryError Phase :=
  if (item payload "tools").truthy && (item payload "response_format").truthy then
    .error (.preflight "model-boundary phase is ambiguous")
  else if (item payload "tools").truthy then .ok .acquisition
  else if (item payload "response_format").truthy then .ok .finalization
  else .ok .terminal

def compatibility (phase : Phase) : Object :=
  [("mode", .str compatibilityMode), ("version", .str compatibilityVersion), ("phase", .str phase.name)]

/-- `_expected_harness_policy_delta` -/
def expectedHarnessPolicyDelta (py : Python) : Except PyError Object := do
  return [("harness_system_suffix_sha256", .str (← sha256Of py (.str harnessSystemSuffix)))]

def invalidPolicyDelta : Object := [("harness_system_suffix_sha256", .str "invalid")]

/-- `_observed_harness_policy_delta` -/
def observedHarnessPolicyDelta (py : Python) (payload : Object) : Except PyError Object := do
  let prompt ← requestSystemPrompt payload
  if hasExactHarnessSystemSuffix prompt then expectedHarnessPolicyDelta py
  else match prompt with
    | .str text => if isInfix harnessSystemSuffix text then return invalidPolicyDelta else return []
    | _ => return []

/-- The identity that `_cache_prefix_identity` digests. -/
def prefixIdentity (fields : Object) : Object :=
  let phase := match item fields "compatibility" with
    | .obj compatibility => item compatibility "phase"
    | _ => .null
  [ ("version", .str "compatible-prefix-v1"),
    ("template_sha256", item fields "base_system_prompt_sha256"),
    ("system_prompt_sha256", item fields "system_prompt_sha256"),
    ("model_id_sha256", item fields "model_id_sha256"),
    ("tool_schema_sha256", item fields "tool_schema_sha256"),
    ("tool_choice_policy", item fields "tool_choice_policy"),
    ("terminal_schema_sha256", item fields "terminal_schema_sha256"),
    ("sampler", item fields "sampler"),
    ("reasoning", item fields "reasoning"),
    ("token_budget", item fields "token_budget"),
    ("phase", phase),
    ("cache_mode_policy", item fields "cache_mode_policy")]

/-- `_cache_prefix_identity` -/
def cachePrefixIdentity (py : Python) (fields : Object) : Except PyError Object := do
  return ("digest", .str (← sha256Of py (.obj (prefixIdentity fields)))) :: prefixIdentity fields

def declare (fields : Object) (phase : Phase) (deltas : Object) : Object :=
  List.append fields [("compatibility", .obj (compatibility phase)), ("declared_policy_deltas", .obj deltas)]

/-- The fields of `model_boundary_fingerprint` without a scenario order. -/
def fingerprintFields (py : Python) (payload : Object) : Except BoundaryError Object := do
  let fields ← liftBoundary (modelBoundaryFields py payload)
  let phase ← observedModelBoundaryPhase payload
  let deltas ← liftBoundary (observedHarnessPolicyDelta py payload)
  let declared := declare fields phase deltas
  let cachePrefix ← liftBoundary (cachePrefixIdentity py declared)
  return List.append declared [("cache_prefix", .obj cachePrefix)]

/-! ## Responses -/

/-- The cache evidence of one response. -/
structure CacheObservation where
  promptTokens : Nat
  cachedTokens : Nat
  newPrefillTokens : Nat
  cacheSource : Text
  ssdCacheHit : Bool
  ssdCachedTokens : Nat
  sessionCacheHit : Bool
  requestSessionBankBypass : Bool
  postcommitStored : Bool
deriving DecidableEq

def cacheKeys : List Text :=
  ["prompt_tokens", "cached_tokens", "new_prefill_tokens", "cache_source", "ssd_cache_hit", "ssd_cached_tokens",
    "session_cache_hit", "request_session_bank_bypass", "postcommit_stored"]

def cacheSources : List Text := ["none", "ram", "ssd", "unknown"]

def CacheObservation.toDict (cache : CacheObservation) : Object :=
  [ ("prompt_tokens", .int cache.promptTokens),
    ("cached_tokens", .int cache.cachedTokens),
    ("new_prefill_tokens", .int cache.newPrefillTokens),
    ("cache_source", .str cache.cacheSource),
    ("ssd_cache_hit", .bool cache.ssdCacheHit),
    ("ssd_cached_tokens", .int cache.ssdCachedTokens),
    ("session_cache_hit", .bool cache.sessionCacheHit),
    ("request_session_bank_bypass", .bool cache.requestSessionBankBypass),
    ("postcommit_stored", .bool cache.postcommitStored)]

/-- `_cache_observation` -/
def cacheObservation (value : Value) : Except PyError (Option CacheObservation) :=
  match value with
  | .obj stats =>
    if !Core.sameKeys stats cacheKeys then .ok none
    else match natural? (item stats "prompt_tokens"), natural? (item stats "cached_tokens"),
        natural? (item stats "new_prefill_tokens"), natural? (item stats "ssd_cached_tokens") with
      | some prompt, some cached, some prefill, some ssd => do
        let known ← (item stats "cache_source").memberOf cacheSources
        match known, item stats "cache_source", item stats "ssd_cache_hit", item stats "session_cache_hit",
            item stats "request_session_bank_bypass", item stats "postcommit_stored" with
        | true, .str source, .bool ssdHit, .bool sessionHit, .bool bypass, .bool stored =>
          return some ⟨prompt, cached, prefill, source, ssdHit, ssd, sessionHit, bypass, stored⟩
        | _, _, _, _, _, _ => return none
      | _, _, _, _ => .ok none
  | _ => .ok none

/-- Whether the response was committed to the cache, if that can be told. -/
def postcommitStored (stats : Object) : Option Value :=
  match item stats "session_postcommit_snapshot" with
  | .obj postcommit => some (item postcommit "stored")
  | _ =>
    if !Object.has stats "session_postcommit_snapshot" && item stats "request_session_bank_bypass" = .bool true then
      some (.bool false)
    else none

/-- The object that `cache_observation_from_response` hands on. -/
def cacheStatistics (stats : Object) (stored : Value) : Object :=
  [ ("prompt_tokens", item stats "prompt_tokens"),
    ("cached_tokens", item stats "cached_tokens"),
    ("new_prefill_tokens", item stats "new_prefill_tokens"),
    ("cache_source", item stats "cache_source"),
    ("ssd_cache_hit", item stats "ssd_cache_hit"),
    ("ssd_cached_tokens", item stats "ssd_cached_tokens"),
    ("session_cache_hit", item stats "session_cache_hit"),
    ("request_session_bank_bypass", item stats "request_session_bank_bypass"),
    ("postcommit_stored", stored)]

/-- `cache_observation_from_response` -/
def cacheObservationFromResponse (response : Value) : Except PyError (Option CacheObservation) :=
  match response with
  | .obj members => match item members "mtplx_stats" with
    | .obj stats => match postcommitStored stats with
      | some stored => cacheObservation (.obj (cacheStatistics stats stored))
      | none => .ok none
    | _ => .ok none
  | _ => .ok none

/-! ## Records -/

/-- A record of the observer with all it keeps. -/
structure ObservedRecord extends ModelBoundaryRecord where
  cache : Option CacheObservation
  correlationIdSha256 : Option Text

/-- `ModelBoundaryRecord.to_dict` -/
def ObservedRecord.toDict (record : ObservedRecord) : Object :=
  List.append [
    ("record_type", .str "qualification_model_boundary"),
    ("sequence", .int record.sequence),
    ("digest", .str record.digest),
    ("fields", .obj record.fields),
    ("response", .obj [
      ("status_code", record.statusCode.elim .null .int),
      ("cache", record.cache.elim .null fun cache => .obj cache.toDict)])]
    (record.correlationIdSha256.elim [] fun correlation => [("correlation_id_sha256", .str correlation)])

/-- `model_boundary_record` -/
def modelBoundaryRecord (py : Python) (payload : Object) (sequence : Nat) (statusCode : Option Int) (response : Value)
    (correlationIdSha256 : Option Text) : Except BoundaryError ObservedRecord := do
  let fields ← fingerprintFields py payload
  let digest ← liftBoundary (sha256Of py (.obj fields))
  raiseIf (correlationIdSha256.any fun correlation => !isSha256 (some (.str correlation)))
    (.preflight "model-boundary correlation is invalid")
  let cache ← liftBoundary (cacheObservationFromResponse response)
  return { sequence, digest, fields, statusCode, cache, correlationIdSha256 }

/-! ## The observer -/

/-- `_ObserverState` with the bytes of the ledger. -/
structure ObserverState where
  ledger : Bytes
  nextSequence : Nat

/-- The state after `_create_fresh_ledger`. -/
def ObserverState.fresh : ObserverState := ⟨[], 1⟩

/-- `_append_observation` with a ledger that can be opened. -/
def appendObservation (py : Python) (payload : Object) (statusCode : Option Int) (response : Value)
    (correlationIdSha256 : Option Text) (state : ObserverState) : Except BoundaryError ObserverState := do
  let record ← modelBoundaryRecord py payload state.nextSequence statusCode response correlationIdSha256
  let text ← liftBoundary (dumpText true (.obj record.toDict))
  let serialized ← liftBoundary (encode (text ++ [lineFeed]))
  return ⟨state.ledger ++ serialized, state.nextSequence + 1⟩

/-! ## The reader -/

def ledgerUnavailable : BoundaryError := .preflight "proxy model-boundary observer ledger is unavailable"
def ledgerInvalid : BoundaryError := .preflight "proxy model-boundary observer ledger is invalid"

/-- `_model_boundary_field_keys` -/
def modelBoundaryFieldKeys : List Text :=
  ["system_prompt_sha256", "base_system_prompt_sha256", "model_id_sha256", "tool_schema_sha256", "tool_choice_policy",
    "terminal_schema_sha256", "sampler", "reasoning", "token_budget", "cache_mode_policy", "compatibility",
    "declared_policy_deltas", "cache_prefix"]

def hashFields : List Text :=
  ["system_prompt_sha256", "base_system_prompt_sha256", "model_id_sha256", "tool_schema_sha256", "terminal_schema_sha256"]

/-- `value is None or isinstance(value, int | float) and not isinstance(value, bool)` -/
def isSamplerValue : Value → Bool
  | .null | .int _ | .float _ => true
  | _ => false

/-- `value is None or isinstance(value, int) and not isinstance(value, bool)` -/
def isTokenBudget : Value → Bool
  | .null | .int _ => true
  | _ => false

/-- `_safe_policy_value` -/
def safePolicyValue : Value → Bool
  | .null | .bool _ | .int _ | .float _ => true
  | .str text => text ∈ safePolicyLiterals
  | .obj fields => Core.sameKeys fields ["sha256"] && isSha256 (Object.get? fields "sha256")
  | .arr _ => false

/-- `value in {None, "bypass"}` -/
def isCacheMode : Value → Except PyError Bool
  | .null => .ok true
  | other => other.memberOf ["bypass"]

def safeSampler : Value → Bool
  | .obj sampler => Core.sameKeys sampler ["temperature", "top_p", "top_k"] && sampler.all fun field => isSamplerValue field.2
  | _ => false

def safeReasoning : Value → Bool
  | .obj reasoning => Core.sameKeys reasoning ["thinking_enabled", "effort"] &&
      (match item reasoning "thinking_enabled" with | .null | .bool _ => true | _ => false) &&
      safePolicyValue (item reasoning "effort")
  | _ => false

/-- `_safe_model_boundary_fields`, for fields with the expected keys; the
comparison of floats is a parameter. -/
def safeModelBoundaryFields (py : Python) (floatEqual : Value → Value → Bool) (fields : Object) : Except PyError Bool :=
  if !(hashFields.all fun key => isSha256 (fields.get? key)) then .ok false
  else if !safeSampler (item fields "sampler") then .ok false
  else if !safeReasoning (item fields "reasoning") then .ok false
  else if !safePolicyValue (item fields "tool_choice_policy") then .ok false
  else if !isTokenBudget (item fields "token_budget") then .ok false
  else do
    let known ← isCacheMode (item fields "cache_mode_policy")
    if !known then return false
    else if !(phases.any fun phase => (item fields "compatibility").equal floatEqual (.obj (compatibility phase))) then return false
    else match item fields "cache_prefix" with
      | .obj cachePrefix => do
        let identity ← cachePrefixIdentity py fields
        if !(Value.obj cachePrefix).equal floatEqual (.obj identity) then return false
        else do
          let expected ← expectedHarnessPolicyDelta py
          let delta := item fields "declared_policy_deltas"
          return delta.equal floatEqual (.obj []) || delta.equal floatEqual (.obj expected) ||
            delta.equal floatEqual (.obj invalidPolicyDelta)
      | _ => return false

/-- `_safe_status_code`, and the code. -/
def safeStatusCode : Value → Option (Option Int)
  | .null => some none
  | .int status => if 100 ≤ status ∧ status ≤ 599 then some (some status) else none
  | _ => none

/-- The keys of a row; the correlation is there or not. -/
def rowKeys (correlated : Bool) : List Text :=
  List.append ["record_type", "sequence", "digest", "fields", "response"]
    (if correlated then ["correlation_id_sha256"] else [])

/-- The loop of `read_model_boundary_observer_records` over one row. -/
def readRow (py : Python) (floatEqual : Value → Value → Bool) (expectedSequence : Nat) (row : Value) :
    Except BoundaryError ObservedRecord :=
  match row with
  | .obj members => do
    let correlation := item members "correlation_id_sha256"
    let sequence := item members "sequence"
    raiseIf (!(Core.sameKeys members (rowKeys (decide (correlation ≠ .null))) && item members "record_type" = .str "qualification_model_boundary" &&
      sequence.equal floatEqual (.int expectedSequence) && !(sequence matches .bool _))) ledgerInvalid
    match item members "fields" with
    | .obj fields => do
      raiseIf (!Core.sameKeys fields modelBoundaryFieldKeys) ledgerInvalid
      raiseIf (!(← liftBoundary (safeModelBoundaryFields py floatEqual fields))) ledgerInvalid
      match item members "digest" with
      | .str digest => do
        raiseIf (digest ≠ (← liftBoundary (sha256Of py (.obj fields)))) ledgerInvalid
        match item members "response" with
        | .obj response => do
          raiseIf (!Core.sameKeys response ["status_code", "cache"]) ledgerInvalid
          match safeStatusCode (item response "status_code") with
          | some statusCode => do
            raiseIf (Object.has members "correlation_id_sha256" && !isSha256 (some correlation)) ledgerInvalid
            let cache ← liftBoundary (cacheObservation (item response "cache"))
            raiseIf (item response "cache" ≠ .null && cache.isNone) ledgerInvalid
            return { sequence := expectedSequence, digest, fields, statusCode, cache,
                     correlationIdSha256 := correlation.asString? }
          | none => .error ledgerInvalid
        | _ => .error ledgerInvalid
      | _ => .error ledgerInvalid
    | _ => .error ledgerInvalid
  | _ => .error ledgerInvalid

def readRowsFrom (py : Python) (floatEqual : Value → Value → Bool) : Nat → List Value → Except BoundaryError (List ObservedRecord)
  | _, [] => .ok []
  | expectedSequence, row :: rest => do
    return (← readRow py floatEqual expectedSequence row) :: (← readRowsFrom py floatEqual (expectedSequence + 1) rest)

/-- `read_model_boundary_observer_records` of a private file. -/
def readModelBoundaryObserverRecords (py : Python) (floatEqual : Value → Value → Bool) (serialized : Bytes) :
    Except BoundaryError (List ObservedRecord) :=
  match (decodeStrict false serialized).bind fun text =>
      ((textEnds.splitLines text).filter (· ≠ [])).mapM (loadUniqueText py) with
  | none => .error ledgerUnavailable
  | some rows => readRowsFrom py floatEqual 1 rows

end HarnessProxy.Evidence

import HarnessProxy.Timing.Keys

namespace HarnessProxy.Timing

open HarnessProxy.Json

/-! # What a valid ledger row is

The validators of the timing ledgers, over rows as `json.loads` returns them.
-/

/-- What a validator raises: a `TimingFailure`, or an error of the interpreter
that a value of an unexpected type provokes. -/
inductive TimingError where
  | failure (category : Text)
  | python (error : PyError)
deriving DecidableEq

abbrev Check := Except TimingError Unit

def ledgerInvalid : TimingError := .failure "qualification_timing_ledger_invalid"
def unexplainedDelta : TimingError := .failure "qualification_timing_unexplained_delta"

/-- `if not condition: raise TimingFailure("qualification_timing_ledger_invalid")` -/
def require (condition : Bool) : Check := raiseIf (!condition) ledgerInvalid

/-- `_nonnegative` -/
def isNonnegative : Option Value → Bool
  | some (.int i) => 0 ≤ i
  | _ => false

/-- `_positive` -/
def isPositive : Option Value → Bool
  | some (.int i) => 0 < i
  | _ => false

/-- `_integer` of a value that has passed `_nonnegative`. -/
def integer : Option Value → Nat
  | some (.int i) => i.toNat
  | _ => 0

def isHexDigit (c : CodePoint) : Bool :=
  (0x30 ≤ c.val && c.val ≤ 0x39) || (0x61 ≤ c.val && c.val ≤ 0x66)

/-- `_sha256` -/
def isSha256 : Option Value → Bool
  | some (.str text) => text.length = 64 && text.all isHexDigit
  | _ => false

/-- `hashlib.sha256(...).hexdigest()` -/
structure Digest where
  hex : Text
  valid : isSha256 (some (.str hex)) = true

/-- `value in names` -/
def isMember (names : List Text) (value : Option Value) : Except TimingError Bool :=
  match (value.getD .null).memberOf names with
  | .ok found => .ok found
  | .error error => .error (.python error)

/-- `if value not in names: raise` -/
def requireMember (names : List Text) (value : Option Value) : Check := do
  require (← isMember names value)

def isNull (value : Option Value) : Bool := value = some .null
def isBoolean (value : Option Value) : Bool := value matches some (.bool _)

/-! ## Vocabularies -/

def outcomeNames : List Text := ["succeeded", "failed", "cancelled", "deadline"]

def interventionNames : List Text :=
  ["pass_through", "phase_split", "correction", "blocked_call_recovery", "projection", "bounded_failure"]

def phaseNames : List Text := ["acquisition", "finalization", "terminal"]
def cacheLaneNames : List Text := ["cold", "warm-prefix", "unavailable"]
def cacheResultNames : List Text := ["hit", "miss", "unavailable"]
def armNames : List Text := ["direct", "proxy"]

def sourceNames : List Text :=
  ["outer_monotonic", "httpcore_1_0_9_trace", "httpx_0_28_1_pool_phase_unavailable",
    "httpx_0_28_1_reuse_unproven", "non_streaming_response", "model_boundary_unavailable",
    "paired_counterfactual", "not_observable"]

/-- `{"state": state, "source": source}` -/
def availability (state source : Text) : Value :=
  .obj (row [.state, .source] fun
    | .state => .str state
    | _ => .str source)

def measured (source : Text) : Value := availability "measured" source
def unavailable (source : Text) : Value := availability "unavailable" source

/-! ## Parts of a row -/

/-- `_availability` -/
def isAvailability (value : Option Value) (state : Text) : Except TimingError Bool :=
  match value with
  | some (.obj fields) =>
    if hasKeys fields [.state, .source] && field fields .state = some (.str state) then
      isMember sourceNames (field fields .source)
    else .ok false
  | _ => .ok false

/-- `value == {"state": state, "source": source}` -/
def equalsAvailability (value : Option Value) (state source : Text) : Bool :=
  match value with
  | some (.obj fields) => hasKeys fields [.state, .source] && field fields .state = some (.str state) &&
      field fields .source = some (.str source)
  | _ => false

/-- `_validate_nullable` -/
def validateNullable (value availability : Option Value) : Check :=
  if value = none ∨ isNull value then do require (← isAvailability availability "unavailable")
  else do
    require (isNonnegative value)
    require (← isAvailability availability "measured")

/-- The durations of a transport, each with its availability. -/
def durationKeys : List (Key × Key) :=
  [(.poolWaitNs, .poolWaitAvailability), (.connectNs, .connectAvailability),
    (.requestWriteNs, .requestWriteAvailability), (.responseHeaderWaitNs, .responseHeaderWaitAvailability),
    (.responseReadNs, .responseReadAvailability), (.otherNs, .otherAvailability)]

/-- The sum of the durations that a transport reports. -/
def durationTotal (transport : Object) : Nat :=
  (durationKeys.map fun keys => integer (field transport keys.1)).sum

/-- The check of `connection_reuse`. -/
def validateReuse (transport : Object) : Check := do
  let reuse := field transport .connectionReuse
  if isNull reuse then
    require (← isAvailability (field transport .connectionReuseAvailability) "unavailable")
  else
    requireMember ["fresh", "reused"] reuse
    require (← isAvailability (field transport .connectionReuseAvailability) "measured")
    require (!(reuse = some (.str "fresh") && isNull (field transport .connectNs)))

/-- `_validate_transport` -/
def validateTransport (value : Option Value) : Check :=
  match value with
  | some (.obj transport) => do
    require (hasKeys transport transportKeys && isNonnegative (field transport .totalNs))
    forEach (fun keys => validateNullable (field transport keys.1) (field transport keys.2)) durationKeys
    raiseIf (durationTotal transport ≠ integer (field transport .totalNs) ||
      isNull (field transport .otherNs)) unexplainedDelta
    raiseIf (!(← isAvailability (field transport .otherAvailability) "measured")) unexplainedDelta
    validateReuse transport
  | _ => .error ledgerInvalid

/-- The total of a transport that has been validated. -/
def transportTotal (value : Option Value) : Nat :=
  match value with
  | some (.obj transport) => integer (field transport .totalNs)
  | _ => 0

/-- The diagnostic durations of an attempt. -/
def nullableKeys : List (Key × Key) :=
  [(.ttftNs, .ttftAvailability), (.modelTimeNs, .modelTimeAvailability), (.decodeNs, .decodeAvailability)]

/-- `_validate_attempt` -/
def validateAttempt (attempt : Object) : Check := do
  require (hasKeys attempt attemptKeys)
  requireMember phaseNames (field attempt .phase)
  requireMember outcomeNames (field attempt .status)
  requireMember cacheLaneNames (field attempt .cacheLane)
  requireMember cacheResultNames (field attempt .cacheResult)
  require (isPositive (field attempt .sequence) && isPositive (field attempt .requestSequence) &&
    isSha256 (field attempt .observerDigest) && isNonnegative (field attempt .wallNs) &&
    isNonnegative (field attempt .upstreamSlotWaitNs))
  validateTransport (field attempt .transport)
  raiseIf (integer (field attempt .wallNs) ≠
    integer (field attempt .upstreamSlotWaitNs) + transportTotal (field attempt .transport)) unexplainedDelta
  forEach (fun keys => validateNullable (field attempt keys.1) (field attempt keys.2)) nullableKeys

/-- One attempt of a row, at its position in the list.  Python also calls `1.0`
and `True` equal to a sequence; those fail `_positive` in the validator. -/
def validateAttemptAt (sequence : Nat) (requestSequence : Option Value) (attempt : Value) : Check :=
  match attempt with
  | .obj fields => do
    require (field fields .sequence = some (.int sequence) && field fields .requestSequence = requestSequence)
    validateAttempt fields
  | _ => .error ledgerInvalid

def validateAttempts (requestSequence : Option Value) : Nat → List Value → Check
  | _, [] => .ok ()
  | sequence, attempt :: rest => do
    validateAttemptAt sequence requestSequence attempt
    validateAttempts requestSequence (sequence + 1) rest

/-- `attempt["wall_ns"]` of attempts that have been validated. -/
def attemptWall (attempts : List Value) : Nat :=
  (attempts.map fun attempt => integer (field (attempt.asObject?.getD []) .wallNs)).sum

/-- The attempts of one phase. -/
def phaseCount (attempts : List Value) (phase : Text) : Nat :=
  attempts.countP fun attempt => field (attempt.asObject?.getD []) .phase = some (.str phase)

/-- `phases == actual_phases` of phases that have been validated. -/
def countsPhases (phases : Object) (attempts : List Value) : Bool :=
  phaseNames.all fun phase => phases.get? phase = some (.int (phaseCount attempts phase))

/-! ## Rows -/

def numberKeys : List Key :=
  [.downstreamWallNs, .clientWallNs, .admissionWaitNs, .bodyReadNs, .policyExclusiveNs, .responseFinalizeNs,
    .otherMeasuredNs, .avoidedImmediateUpstreamCalls, .correctionCount, .blockedDuplicateCount,
    .blockedStallCount, .retryAttemptCount]

/-- The components of `downstream_wall_ns` beside the attempts. -/
def componentKeys : List Key :=
  [.admissionWaitNs, .bodyReadNs, .policyExclusiveNs, .responseFinalizeNs, .otherMeasuredNs]

def componentTotal (row : Object) : Nat := (componentKeys.map fun key => integer (field row key)).sum

/-- The counters that a local projection leaves at zero. -/
def interventionKeys : List Key :=
  [.correctionCount, .blockedDuplicateCount, .blockedStallCount, .retryAttemptCount]

/-- The rules of a row that was answered without the upstream, and of any other. -/
def validateProjection (row phases : Object) (attempts : List Value) : Check :=
  if field row .localProjection = some (.bool true) then do
    require (field row .outcome = some (.str "succeeded") &&
      field row .interventionClass = some (.str "projection") && attempts.isEmpty &&
      phases.all (fun phase => !phase.2.truthy) && interventionKeys.all (fun key => integer (field row key) = 0) &&
      field row .avoidedImmediateUpstreamCalls = some (.int 1))
    require (isNull (field row .modelTimeAvoidedNs) ||
      equalsAvailability (field row .modelTimeAvoidedAvailability) "measured" "paired_counterfactual")
  else require (field row .avoidedImmediateUpstreamCalls = some (.int 0))

/-- `_validate_row` -/
def validateRow (row : Object) : Check := do
  require (hasKeys row requestKeys)
  require (field row .schemaVersion = some (.str "2.1"))
  requireMember armNames (field row .arm)
  requireMember outcomeNames (field row .outcome)
  requireMember interventionNames (field row .interventionClass)
  requireMember cacheLaneNames (field row .cacheLane)
  require (isBoolean (field row .localProjection) && isPositive (field row .sequence) &&
    isPositive (field row .pairOrdinal) && isSha256 (field row .requestAccountingRowSha256) &&
    isSha256 (field row .observerSliceSha256) && isSha256 (field row .downstreamRequestSha256))
  require (numberKeys.all fun key => isNonnegative (field row key))
  match field row .phaseCounts, field row .attempts with
  | some (.obj phases), some (.arr attempts) =>
    require (Core.sameKeys phases phaseNames && phases.all fun phase => isNonnegative (some phase.2))
    validateAttempts (field row .sequence) 1 attempts
    require (countsPhases phases attempts)
    raiseIf (componentTotal row + attemptWall attempts ≠ integer (field row .downstreamWallNs)) unexplainedDelta
    validateNullable (field row .modelTimeAvoidedNs) (field row .modelTimeAvoidedAvailability)
    validateProjection row phases attempts
  | _, _ => .error ledgerInvalid

/-! ## Captures -/

/-- A digest that stands for a value which a capture does not have. -/
def zeroDigest : Text := List.replicate 64 (codePoint '0')

/-- `{**dict(attempt), "request_sequence": ..., ...}` -/
def bindAttempt (attempt : Object) (requestSequence : Nat) (digest cacheLane cacheResult : Text) : Object :=
  (((attempt.assign Key.requestSequence.name (.int requestSequence)).assign Key.observerDigest.name
    (.str digest)).assign Key.cacheLane.name (.str cacheLane)).assign Key.cacheResult.name (.str cacheResult)

/-- `isinstance(item, Mapping) and set(item) == _CAPTURE_ATTEMPT_KEYS` -/
def isCaptureAttempt (attempt : Value) : Bool :=
  match attempt with
  | .obj fields => hasKeys fields captureAttemptKeys
  | _ => false

/-- The attempt that `_validate_capture_row` checks in place of a captured one. -/
def placeholderAttempt (attempt : Value) : Value :=
  .obj (bindAttempt (attempt.asObject?.getD []) 1 zeroDigest "cold" "unavailable")

/-- `value.get(key)` as a value of a new dictionary. -/
def fieldValue (row : Object) (key : Key) : Value := (field row key).getD .null

/-- The final row that `_validate_capture_row` checks in place of a capture. -/
def placeholderRow (capture : Object) (attempts : List Value) : Object :=
  row requestKeys fun
    | .schemaVersion => .str "2.1"
    | .sequence => .int 1
    | .pairOrdinal => .int 1
    | .arm => .str "proxy"
    | .requestAccountingRowSha256 => .str zeroDigest
    | .observerSliceSha256 => .str zeroDigest
    | .interventionClass => .str (if (fieldValue capture .localProjection).truthy then "projection" else "pass_through")
    | .cacheLane => .str "cold"
    | .clientWallNs => fieldValue capture .downstreamWallNs
    | .downstreamRequestSha256 => .str zeroDigest
    | .attempts => .arr (attempts.map placeholderAttempt)
    | .modelTimeAvoidedNs => .null
    | .modelTimeAvoidedAvailability => unavailable "not_observable"
    | key => fieldValue capture key

/-- `_validate_capture_row` -/
def validateCaptureRow (capture : Object) : Check := do
  require (hasKeys capture captureKeys)
  require (field capture .schemaVersion = some (.str "2.1") &&
    field capture .recordType = some (.str "qualification_timing_capture") &&
    isNonnegative (field capture .sequence) && isSha256 (field capture .correlationIdSha256))
  requireMember outcomeNames (field capture .outcome)
  match field capture .attempts with
  | some (.arr attempts) =>
    require (attempts.all isCaptureAttempt)
    validateRow (placeholderRow capture attempts)
  | _ => .error ledgerInvalid

end HarnessProxy.Timing

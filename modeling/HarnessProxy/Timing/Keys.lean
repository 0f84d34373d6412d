import HarnessProxy.Core.Contract
import HarnessProxy.Json.Record

namespace HarnessProxy.Timing

open HarnessProxy.Json

/-! # The keys of the private ledgers

Rows of the ledgers are dictionaries with fixed sets of keys.  The lists below
are those of the source.
-/

inductive Key where
  | schemaVersion | sequence | pairOrdinal | arm | requestAccountingRowSha256 | observerSliceSha256
  | outcome | interventionClass | cacheLane | clientWallNs | downstreamRequestSha256 | downstreamWallNs
  | admissionWaitNs | bodyReadNs | policyExclusiveNs | responseFinalizeNs | otherMeasuredNs | attempts
  | localProjection | avoidedImmediateUpstreamCalls | correctionCount | blockedDuplicateCount
  | blockedStallCount | retryAttemptCount | phaseCounts | modelTimeAvoidedNs
  | modelTimeAvoidedAvailability | requestSequence | observerDigest | phase | status | wallNs
  | upstreamSlotWaitNs | transport | ttftNs | ttftAvailability | modelTimeNs | modelTimeAvailability
  | decodeNs | decodeAvailability | cacheResult | totalNs | poolWaitNs | connectNs | requestWriteNs
  | responseHeaderWaitNs | responseReadNs | otherNs | poolWaitAvailability | connectAvailability
  | requestWriteAvailability | responseHeaderWaitAvailability | responseReadAvailability
  | otherAvailability | connectionReuse | connectionReuseAvailability | recordType
  | correlationIdSha256 | state | source | acquisition | finalization | terminal | attemptSequenceStart
  | attemptSequenceEnd | attemptCount | successfulAttemptCount | digest | fields | response
  | compatibility | statusCode | cache | cacheSource | observerSequenceStart | observerSequenceEnd
  | observerRecordCount | directAttemptWallNs
deriving DecidableEq

namespace Key

/-- The key as it is written in a ledger. -/
def name : Key → Text
  | .schemaVersion => "schema_version"
  | .sequence => "sequence"
  | .pairOrdinal => "pair_ordinal"
  | .arm => "arm"
  | .requestAccountingRowSha256 => "request_accounting_row_sha256"
  | .observerSliceSha256 => "observer_slice_sha256"
  | .outcome => "outcome"
  | .interventionClass => "intervention_class"
  | .cacheLane => "cache_lane"
  | .clientWallNs => "client_wall_ns"
  | .downstreamRequestSha256 => "downstream_request_sha256"
  | .downstreamWallNs => "downstream_wall_ns"
  | .admissionWaitNs => "admission_wait_ns"
  | .bodyReadNs => "body_read_ns"
  | .policyExclusiveNs => "policy_exclusive_ns"
  | .responseFinalizeNs => "response_finalize_ns"
  | .otherMeasuredNs => "other_measured_ns"
  | .attempts => "attempts"
  | .localProjection => "local_projection"
  | .avoidedImmediateUpstreamCalls => "avoided_immediate_upstream_calls"
  | .correctionCount => "correction_count"
  | .blockedDuplicateCount => "blocked_duplicate_count"
  | .blockedStallCount => "blocked_stall_count"
  | .retryAttemptCount => "retry_attempt_count"
  | .phaseCounts => "phase_counts"
  | .modelTimeAvoidedNs => "model_time_avoided_ns"
  | .modelTimeAvoidedAvailability => "model_time_avoided_availability"
  | .requestSequence => "request_sequence"
  | .observerDigest => "observer_digest"
  | .phase => "phase"
  | .status => "status"
  | .wallNs => "wall_ns"
  | .upstreamSlotWaitNs => "upstream_slot_wait_ns"
  | .transport => "transport"
  | .ttftNs => "ttft_ns"
  | .ttftAvailability => "ttft_availability"
  | .modelTimeNs => "model_time_ns"
  | .modelTimeAvailability => "model_time_availability"
  | .decodeNs => "decode_ns"
  | .decodeAvailability => "decode_availability"
  | .cacheResult => "cache_result"
  | .totalNs => "total_ns"
  | .poolWaitNs => "pool_wait_ns"
  | .connectNs => "connect_ns"
  | .requestWriteNs => "request_write_ns"
  | .responseHeaderWaitNs => "response_header_wait_ns"
  | .responseReadNs => "response_read_ns"
  | .otherNs => "other_ns"
  | .poolWaitAvailability => "pool_wait_availability"
  | .connectAvailability => "connect_availability"
  | .requestWriteAvailability => "request_write_availability"
  | .responseHeaderWaitAvailability => "response_header_wait_availability"
  | .responseReadAvailability => "response_read_availability"
  | .otherAvailability => "other_availability"
  | .connectionReuse => "connection_reuse"
  | .connectionReuseAvailability => "connection_reuse_availability"
  | .recordType => "record_type"
  | .correlationIdSha256 => "correlation_id_sha256"
  | .state => "state"
  | .source => "source"
  | .acquisition => "acquisition"
  | .finalization => "finalization"
  | .terminal => "terminal"
  | .attemptSequenceStart => "attempt_sequence_start"
  | .attemptSequenceEnd => "attempt_sequence_end"
  | .attemptCount => "attempt_count"
  | .successfulAttemptCount => "successful_attempt_count"
  | .digest => "digest"
  | .fields => "fields"
  | .response => "response"
  | .compatibility => "compatibility"
  | .statusCode => "status_code"
  | .cache => "cache"
  | .cacheSource => "cache_source"
  | .observerSequenceStart => "observer_sequence_start"
  | .observerSequenceEnd => "observer_sequence_end"
  | .observerRecordCount => "observer_record_count"
  | .directAttemptWallNs => "direct_attempt_wall_ns"

def all : List Key := [
  .schemaVersion, .sequence, .pairOrdinal, .arm, .requestAccountingRowSha256, .observerSliceSha256,
  .outcome, .interventionClass, .cacheLane, .clientWallNs, .downstreamRequestSha256, .downstreamWallNs,
  .admissionWaitNs, .bodyReadNs, .policyExclusiveNs, .responseFinalizeNs, .otherMeasuredNs, .attempts,
  .localProjection, .avoidedImmediateUpstreamCalls, .correctionCount, .blockedDuplicateCount,
  .blockedStallCount, .retryAttemptCount, .phaseCounts, .modelTimeAvoidedNs,
  .modelTimeAvoidedAvailability, .requestSequence, .observerDigest, .phase, .status, .wallNs,
  .upstreamSlotWaitNs, .transport, .ttftNs, .ttftAvailability, .modelTimeNs, .modelTimeAvailability,
  .decodeNs, .decodeAvailability, .cacheResult, .totalNs, .poolWaitNs, .connectNs, .requestWriteNs,
  .responseHeaderWaitNs, .responseReadNs, .otherNs, .poolWaitAvailability, .connectAvailability,
  .requestWriteAvailability, .responseHeaderWaitAvailability, .responseReadAvailability,
  .otherAvailability, .connectionReuse, .connectionReuseAvailability, .recordType, .correlationIdSha256,
  .state, .source, .acquisition, .finalization, .terminal, .attemptSequenceStart, .attemptSequenceEnd,
  .attemptCount, .successfulAttemptCount, .digest, .fields, .response, .compatibility, .statusCode,
  .cache, .cacheSource, .observerSequenceStart, .observerSequenceEnd, .observerRecordCount,
  .directAttemptWallNs]

theorem mem_all (key : Key) : key ∈ all := by cases key <;> decide

theorem names_nodup : (all.map name).Nodup := by
  simp only [all, List.map, name]
  repeat rw [Text.literal_ofList]
  decide

theorem name_injective : Function.Injective name := fun left right same =>
  List.inj_on_of_nodup_map names_nodup (mem_all left) (mem_all right) same

end Key

/-- `row.get(key)` -/
def field (row : Object) (key : Key) : Option Value := row.get? key.name

/-- A dictionary display with these keys. -/
def row (keys : List Key) (value : Key → Value) : Object := record Key.name keys value

theorem field_row (keys : List Key) (value : Key → Value) (key : Key) :
    field (row keys value) key = if key ∈ keys then some (value key) else none :=
  get?_record Key.name_injective keys value key

/-- `set(row) == keys` -/
def hasKeys (row : Object) (keys : List Key) : Bool := Core.sameKeys row (keys.map Key.name)

theorem hasKeys_row (keys : List Key) (value : Key → Value) : hasKeys (row keys value) keys = true := by
  simpa [hasKeys, Core.sameKeys, row, keys_record] using fun key member => ⟨key, member, rfl⟩

theorem hasKeys_iff {row : Object} {keys : List Key} :
    hasKeys row keys = true ↔ ∀ name, name ∈ row.keys ↔ name ∈ keys.map Key.name :=
  Core.sameKeys_iff

theorem hasKeys_congr {row : Object} {keys others : List Key} (same : ∀ key, key ∈ keys ↔ key ∈ others) :
    hasKeys row keys = hasKeys row others := by
  have names (name : Text) : name ∈ keys.map Key.name ↔ name ∈ others.map Key.name := by
    simp [List.mem_map, same]
  rw [Bool.eq_iff_iff, hasKeys_iff, hasKeys_iff]
  simp only [names]

theorem field_assign (row : Object) (key other : Key) (value : Value) :
    field (row.assign key.name value) other = if other = key then some value else field row other := by
  by_cases same : other = key
  · subst same
    simp [field]
  · have different : other.name ≠ key.name := fun equal => same (Key.name_injective equal)
    rw [if_neg same, field, Object.get?_assign_ne _ _ _ different]
    rfl

theorem hasKeys_assign {row : Object} {keys : List Key} (exact : hasKeys row keys = true) (key : Key)
    (value : Value) : hasKeys (row.assign key.name value) (key :: keys) = true := by
  rw [hasKeys_iff] at exact ⊢
  intro name
  rw [Object.mem_keys_assign, exact name, List.map_cons, List.mem_cons]

def requestKeys : List Key := [
  .schemaVersion, .sequence, .pairOrdinal, .arm, .requestAccountingRowSha256, .observerSliceSha256,
  .outcome, .interventionClass, .cacheLane, .clientWallNs, .downstreamRequestSha256, .downstreamWallNs,
  .admissionWaitNs, .bodyReadNs, .policyExclusiveNs, .responseFinalizeNs, .otherMeasuredNs, .attempts,
  .localProjection, .avoidedImmediateUpstreamCalls, .correctionCount, .blockedDuplicateCount,
  .blockedStallCount, .retryAttemptCount, .phaseCounts, .modelTimeAvoidedNs,
  .modelTimeAvoidedAvailability]

def attemptKeys : List Key := [
  .sequence, .requestSequence, .observerDigest, .phase, .status, .wallNs, .upstreamSlotWaitNs,
  .transport, .ttftNs, .ttftAvailability, .modelTimeNs, .modelTimeAvailability, .decodeNs,
  .decodeAvailability, .cacheLane, .cacheResult]

def transportKeys : List Key := [
  .totalNs, .poolWaitNs, .connectNs, .requestWriteNs, .responseHeaderWaitNs, .responseReadNs, .otherNs,
  .poolWaitAvailability, .connectAvailability, .requestWriteAvailability,
  .responseHeaderWaitAvailability, .responseReadAvailability, .otherAvailability, .connectionReuse,
  .connectionReuseAvailability]

def captureKeys : List Key := [
  .schemaVersion, .recordType, .sequence, .correlationIdSha256, .outcome, .downstreamWallNs,
  .admissionWaitNs, .bodyReadNs, .policyExclusiveNs, .responseFinalizeNs, .otherMeasuredNs, .attempts,
  .localProjection, .avoidedImmediateUpstreamCalls, .correctionCount, .blockedDuplicateCount,
  .blockedStallCount, .retryAttemptCount, .phaseCounts]

/-- `_ATTEMPT_KEYS - {...}` -/
def captureAttemptKeys : List Key :=
  attemptKeys.filter fun key =>
    key ∉ ([.requestSequence, .observerDigest, .cacheLane, .cacheResult] : List Key)

end HarnessProxy.Timing

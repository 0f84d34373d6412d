import HarnessProxy.Evidence.Fingerprint
import HarnessProxy.Evidence.JsonFile
import HarnessProxy.Evidence.Scenarios

namespace HarnessProxy.Evidence.Model

open HarnessProxy.Json
open HarnessProxy.Timing (isSha256 Digest)

/-! # Evidence of the model server

A session compares the live model before and after a stage with the accounting
of the attempts in between, and leaves one file.  A contract error, a drift or a
wrong count ends up in it as the first failure and as checks that are false.
-/

inductive CacheLane where
  | preflight
  | cold
  | warmPrefix
deriving DecidableEq

inductive EvidenceStage where
  | preflight
  | scoreDirect
  | scoreProxy
deriving DecidableEq

def EvidenceStage.name : EvidenceStage → Text
  | .preflight => "preflight"
  | .scoreDirect => "score-direct"
  | .scoreProxy => "score-proxy"

/-! ## Attempts -/

def attemptKeys : List Text :=
  ["request_digest", "status", "prompt_tokens", "cached_tokens", "new_prefill_tokens", "cache_source", "ssd_cache_hit",
    "ssd_cached_tokens", "session_cache_hit", "request_session_bank_bypass", "postcommit_stored"]

/-- `SafeAttemptRecord`, whose fields may hold anything before they are
validated. -/
structure SafeAttemptRecord where
  requestDigest : Value
  status : Value
  promptTokens : Value
  cachedTokens : Value
  newPrefillTokens : Value
  cacheSource : Value
  ssdCacheHit : Value
  ssdCachedTokens : Value
  sessionCacheHit : Value
  requestSessionBankBypass : Value
  postcommitStored : Value

/-- What `complete` may be given as an attempt. -/
inductive AttemptInput where
  | record (value : SafeAttemptRecord)
  | mapping (fields : Object)
  | other

/-- `SafeAttemptRecord.from_mapping` -/
def SafeAttemptRecord.fromMapping (value : Object) : Except Text SafeAttemptRecord :=
  if Core.sameKeys value attemptKeys then .ok {
    requestDigest := item value "request_digest"
    status := item value "status"
    promptTokens := item value "prompt_tokens"
    cachedTokens := item value "cached_tokens"
    newPrefillTokens := item value "new_prefill_tokens"
    cacheSource := item value "cache_source"
    ssdCacheHit := item value "ssd_cache_hit"
    ssdCachedTokens := item value "ssd_cached_tokens"
    sessionCacheHit := item value "session_cache_hit"
    requestSessionBankBypass := item value "request_session_bank_bypass"
    postcommitStored := item value "postcommit_stored" }
  else .error "model_attempt_invalid"

def coerceAttempt : AttemptInput → Except Text SafeAttemptRecord
  | .record value => .ok value
  | .mapping fields => SafeAttemptRecord.fromMapping fields
  | .other => .error "model_attempt_invalid"

/-- The fields of a record that have the types that `_validate_attempt` asks
for. -/
structure Attempt where
  requestDigest : Text
  status : Text
  promptTokens : Nat
  cachedTokens : Nat
  newPrefillTokens : Nat
  cacheSource : Text
  ssdCacheHit : Bool
  ssdCachedTokens : Nat
  sessionCacheHit : Bool
  requestSessionBankBypass : Bool
  postcommitStored : Bool
deriving DecidableEq

def SafeAttemptRecord.typed (record : SafeAttemptRecord) : Option Attempt := do
  let requestDigest ← record.requestDigest.asString?
  guard (isSha256 (some (.str requestDigest)))
  let status ← record.status.asString?
  guard (status ∈ (["succeeded", "failed"] : List Text))
  let cacheSource ← record.cacheSource.asString?
  guard (cacheSource ∈ (["none", "ram", "ssd"] : List Text))
  return {
    requestDigest := requestDigest
    status := status
    promptTokens := ← natural? record.promptTokens
    cachedTokens := ← natural? record.cachedTokens
    newPrefillTokens := ← natural? record.newPrefillTokens
    cacheSource := cacheSource
    ssdCacheHit := ← asBool? record.ssdCacheHit
    ssdCachedTokens := ← natural? record.ssdCachedTokens
    sessionCacheHit := ← asBool? record.sessionCacheHit
    requestSessionBankBypass := ← asBool? record.requestSessionBankBypass
    postcommitStored := ← asBool? record.postcommitStored
  }

namespace Attempt

variable (attempt : Attempt)

/-- The relations between the numbers. -/
def consistent : Bool :=
  attempt.promptTokens = attempt.cachedTokens + attempt.newPrefillTokens &&
    !(attempt.cacheSource = "none" && (attempt.cachedTokens ≠ 0 || attempt.ssdCachedTokens ≠ 0)) &&
    !decide (attempt.cachedTokens < attempt.ssdCachedTokens) &&
    !(!attempt.ssdCacheHit && attempt.ssdCachedTokens ≠ 0) &&
    !(attempt.cacheSource = "ssd" && (!attempt.ssdCacheHit || attempt.ssdCachedTokens ≤ 0))

def succeeded : Bool := attempt.status = "succeeded"

/-- `to_safe_dict` -/
def toSafeDict : Object :=
  [("request_digest", .str attempt.requestDigest), ("status", .str attempt.status),
    ("prompt_tokens", .int attempt.promptTokens), ("cached_tokens", .int attempt.cachedTokens),
    ("new_prefill_tokens", .int attempt.newPrefillTokens), ("cache_source", .str attempt.cacheSource),
    ("ssd_cache_hit", .bool attempt.ssdCacheHit), ("ssd_cached_tokens", .int attempt.ssdCachedTokens),
    ("session_cache_hit", .bool attempt.sessionCacheHit),
    ("request_session_bank_bypass", .bool attempt.requestSessionBankBypass),
    ("postcommit_stored", .bool attempt.postcommitStored)]

/-- Nothing of the prompt came out of a cache, or was kept for one. -/
def isolated : Bool :=
  attempt.requestSessionBankBypass && !attempt.sessionCacheHit && !attempt.ssdCacheHit && attempt.cachedTokens = 0 &&
    attempt.newPrefillTokens = attempt.promptTokens && attempt.cacheSource = "none" && attempt.ssdCachedTokens = 0 &&
    !attempt.postcommitStored

/-- The attempt fills the session cache with its prompt. -/
def primes : Bool :=
  !attempt.requestSessionBankBypass && attempt.cacheSource = "none" && attempt.cachedTokens = 0 &&
    attempt.newPrefillTokens = attempt.promptTokens && !attempt.ssdCacheHit && attempt.ssdCachedTokens = 0 &&
    !attempt.sessionCacheHit

/-- The attempt reads its prompt from the session cache. -/
def reuses : Bool :=
  decide (0 < attempt.cachedTokens) && attempt.cacheSource = "ram" && !attempt.requestSessionBankBypass &&
    attempt.sessionCacheHit && !attempt.ssdCacheHit && attempt.ssdCachedTokens = 0

end Attempt

/-- `_validate_attempt` -/
def validateAttempt (record : SafeAttemptRecord) : Except Text Attempt :=
  match record.typed with
  | none => .error "model_attempt_invalid"
  | some attempt => if attempt.consistent then .ok attempt else .error "model_attempt_invalid"

/-- `_coerce_attempts`; `none` stands for a text, and for what is no sequence. -/
def coerceAttempts : Option (List AttemptInput) → Except Text (List Attempt)
  | none => .error "model_attempt_invalid"
  | some inputs => do mapEach validateAttempt (← mapEach coerceAttempt inputs)

/-- `_coerce_optional_attempt` -/
def coerceOptionalAttempt : Option AttemptInput → Except Text (Option Attempt)
  | none => .ok none
  | some input => do return some (← validateAttempt (← coerceAttempt input))

def successCount (attempts : List Attempt) : Nat := attempts.countP Attempt.succeeded

/-- The rules of the lanes `preflight` and `cold`, which differ in the category. -/
def validateUncached (category : Text) (attempts : List Attempt) (prime : Option Attempt) : Except Text Nat := do
  raiseIf prime.isSome category
  forEach (fun attempt => raiseIf (!attempt.isolated) category) (attempts.filter Attempt.succeeded)
  return successCount attempts

/-- `_validate_cache_invariants` -/
def validateCacheInvariants (lane : CacheLane) (attempts : List Attempt) (prime : Option Attempt) : Except Text Nat :=
  match lane with
  | .preflight => validateUncached "model_cache_preflight_invalid" attempts prime
  | .cold => validateUncached "model_cache_cold_invalid" attempts prime
  | .warmPrefix => match prime, attempts with
    | some prime, first :: _ => do
      raiseIf (!prime.succeeded || !first.succeeded) "model_cache_warm_invalid"
      raiseIf (!(prime.primes && prime.requestDigest = first.requestDigest && first.reuses)) "model_cache_warm_invalid"
      return 1 + successCount attempts
    | _, _ => .error "model_cache_warm_invalid"

/-! ## The session -/

/-- `_LiveIdentity` -/
structure LiveIdentity where
  liveSha256 : Digest
  stableSha256 : Digest
  runtimeInstanceSha256 : Digest
  requestsCompleted : Nat

/-- `ModelEvidenceSession` after `begin`. -/
structure ModelEvidenceSession where
  lane : CacheLane
  stage : EvidenceStage
  manifestSha256 : Digest
  identitySha256 : Digest
  contractSha256 : Digest
  /-- The key in the credential file, if the session has one. -/
  apiKey : Option Text
  before : LiveIdentity
  completed : Bool

/-- What `complete` is given and what it finds. -/
structure Completion where
  attempts : Option (List AttemptInput)
  prime : Option AttemptInput
  /-- The credential file as it is read again. -/
  credential : Except Text Text
  /-- What `_probe_live` returns or raises. -/
  after : Except Text LiveIdentity
  /-- Why the file cannot be written. -/
  target : Option Text

/-- `[a-z0-9_]` -/
def isCategoryChar (c : CodePoint) : Bool :=
  (0x61 ≤ c.val && c.val ≤ 0x7a) || (0x30 ≤ c.val && c.val ≤ 0x39) || c = codePoint '_'

/-- The category that a `ModelEvidenceFailure` keeps. -/
def safeCategory (category : Text) : Text :=
  if category ≠ [] ∧ category.all isCategoryChar then category else "model_evidence_internal"

/-- What the first `try` leaves in the variables of `complete`. -/
structure Accounting where
  attempts : List Attempt
  prime : Option Attempt
  expectedDelta : Option Nat
  failure : Option Text

def account (lane : CacheLane) (completion : Completion) : Accounting :=
  match coerceAttempts completion.attempts with
  | .error category => ⟨[], none, none, some category⟩
  | .ok attempts => match coerceOptionalAttempt completion.prime with
    | .error category => ⟨attempts, none, none, some category⟩
    | .ok prime => match validateCacheInvariants lane attempts prime with
      | .error category => ⟨attempts, prime, none, some category⟩
      | .ok expected => ⟨attempts, prime, some expected, none⟩

/-- The failure of the second `try`. -/
def credentialFailure (session : ModelEvidenceSession) (completion : Completion) : Option Text :=
  session.apiKey.bind fun key => match completion.credential with
    | .error category => some category
    | .ok refreshed => if refreshed ≠ key then some "model_credential_invalid" else none

def requestDelta (before after : LiveIdentity) : Int := (after.requestsCompleted : Int) - before.requestsCompleted

/-- The third `try`: the identity after the stage and the failure. -/
def observeAfter (before : LiveIdentity) (expectedDelta : Option Nat) (after : Except Text LiveIdentity) :
    Option LiveIdentity × Option Text :=
  match after with
  | .error category => (none, some category)
  | .ok after =>
    if after.stableSha256.hex ≠ before.stableSha256.hex then (some after, some "model_live_drift")
    else if expectedDelta.any fun expected => requestDelta before after ≠ expected then
      (some after, some "model_request_window_invalid")
    else (some after, none)

/-- The dictionary `checks`. -/
structure Checks where
  contract : Bool
  liveBefore : Bool
  attempts : Bool
  requestWindow : Bool
  liveAfter : Bool

def Checks.document (checks : Checks) : Object :=
  [("contract", .bool checks.contract), ("live_before", .bool checks.liveBefore), ("attempts", .bool checks.attempts),
    ("request_window", .bool checks.requestWindow), ("live_after", .bool checks.liveAfter)]

/-- Everything that goes into the evidence. -/
structure Findings where
  accounting : Accounting
  after : Option LiveIdentity
  failure : Option Text
  checks : Checks

def findings (session : ModelEvidenceSession) (completion : Completion) : Findings :=
  let accounting := account session.lane completion
  let credential := credentialFailure session completion
  let (after, afterFailure) := observeAfter session.before accounting.expectedDelta completion.after
  let windowFailed := afterFailure = some "model_request_window_invalid"
  { accounting := accounting
    after := after
    failure := ((accounting.failure.or credential).or afterFailure).map safeCategory
    checks := {
      contract := true
      liveBefore := true
      attempts := accounting.failure.isNone
      requestWindow := accounting.failure.isNone && !decide windowFailed
      liveAfter := credential.isNone && (afterFailure.isNone || decide windowFailed) } }

/-! ## The file -/

def optionalText : Option Text → Value
  | none => .null
  | some text => .str text

def optionalCount : Option Nat → Value
  | none => .null
  | some count => .int count

def evidenceKeys : List Text :=
  ["schema_version", "record_type", "stage", "status", "failure_category", "run_manifest_sha256", "model_identity_sha256",
    "model_contract_sha256", "runtime_instance_sha256", "live_before_sha256", "live_after_sha256", "request_window",
    "prime", "first_attempt", "checks"]

section
variable (py : Python)

/-- `_canonical_sha256(record.to_safe_dict())` of a record that may be missing. -/
def recordSha256 : Option Attempt → Except PyError (Option Text)
  | none => .ok none
  | some attempt => do return some (← sha256Of py (.obj attempt.toSafeDict))

def windowDocument (before : LiveIdentity) (after : Option LiveIdentity) (expectedDelta : Option Nat)
    (attempts : List Attempt) : Object :=
  [("before", .int before.requestsCompleted), ("after", optionalCount (after.map LiveIdentity.requestsCompleted)),
    ("delta", optionalInt (after.map (requestDelta before))), ("expected", optionalCount expectedDelta),
    ("successful_measured", .int (successCount attempts))]

def primeDocument (sha256 : Option Text) (prime : Option Attempt) : Object :=
  [("record_sha256", optionalText sha256), ("count", .int (if prime.isSome then 1 else 0)),
    ("request_digest", optionalText (prime.map Attempt.requestDigest))]

def firstDocument (sha256 : Option Text) (attempts : List Attempt) : Object :=
  let first := attempts.head?
  [("record_sha256", optionalText sha256), ("status", optionalText (first.map Attempt.status)),
    ("measured_count", .int attempts.length), ("successful_count", .int (successCount attempts)),
    ("prompt_tokens", optionalCount (first.map Attempt.promptTokens)),
    ("cached_tokens", optionalCount (first.map Attempt.cachedTokens)),
    ("new_prefill_tokens", optionalCount (first.map Attempt.newPrefillTokens))]

/-- The dictionary of `_evidence_record`. -/
def evidenceFields (session : ModelEvidenceSession) (found : Findings) (primeSha256 firstSha256 : Option Text) : Object :=
  [("schema_version", .str "1.0"), ("record_type", .str "qualification_model_cache_evidence"),
    ("stage", .str session.stage.name), ("status", .str (if found.failure.isSome then "failed" else "passed")),
    ("failure_category", optionalText found.failure), ("run_manifest_sha256", .str session.manifestSha256.hex),
    ("model_identity_sha256", .str session.identitySha256.hex), ("model_contract_sha256", .str session.contractSha256.hex),
    ("runtime_instance_sha256", .str session.before.runtimeInstanceSha256.hex),
    ("live_before_sha256", .str session.before.liveSha256.hex),
    ("live_after_sha256", optionalText (found.after.map fun after => after.liveSha256.hex)),
    ("request_window", .obj (windowDocument session.before found.after found.accounting.expectedDelta found.accounting.attempts)),
    ("prime", .obj (primeDocument primeSha256 found.accounting.prime)),
    ("first_attempt", .obj (firstDocument firstSha256 found.accounting.attempts)),
    ("checks", .obj found.checks.document)]

/-- `_evidence_record` -/
def evidenceRecord (session : ModelEvidenceSession) (found : Findings) : Except PyError Object := do
  return evidenceFields session found (← recordSha256 py found.accounting.prime)
    (← recordSha256 py found.accounting.attempts.head?)

/-- How `complete` ends. -/
inductive Ending where
  | returned
  | failure (category : Text)
  | crashed (error : PyError)
deriving DecidableEq

/-- `complete`: the bytes of the file, if it is written, and the ending. -/
def ModelEvidenceSession.complete (session : ModelEvidenceSession) (completion : Completion) : Option Bytes × Ending :=
  if session.completed then (none, .failure "model_evidence_complete_once")
  else
    let found := findings session completion
    match evidenceRecord py session found with
    | .error error => (none, .crashed error)
    | .ok record => match completion.target with
      | some category => (none, .failure (safeCategory category))
      | none => match atomicReplaceJsonl [record] with
        | .error error => (none, .crashed error)
        | .ok payload => (some payload, match found.failure with
          | none => .returned
          | some category => .failure category)

/-! ## The reader -/

variable (wide : JsonEncoding → Bytes → Option Text) (sha256 : Bytes → Text)

/-- `_valid_model_request_window` -/
def validModelRequestWindow (value : Value) : Bool :=
  match value with
  | .obj fields => Core.sameKeys fields ["before", "after", "delta", "expected", "successful_measured"] &&
      match natural? (item fields "before"), natural? (item fields "after"), natural? (item fields "delta"),
        natural? (item fields "expected"), natural? (item fields "successful_measured") with
      | some before, some after, some delta, some expected, some successful =>
        decide ((after : Int) - before = delta) && decide (expected = delta) && decide (successful ≤ expected)
      | _, _, _, _, _ => false
  | _ => false

/-- `_optional_sha256` -/
def optionalSha256 (value : Value) : Bool := value = .null || isSha256 (some value)

/-- `_valid_model_prime` -/
def validModelPrime (value : Value) : Bool :=
  match value with
  | .obj fields => Core.sameKeys fields ["record_sha256", "count", "request_digest"] &&
      match item fields "count" with
      | .int count => (count = 0 || count = 1) && optionalSha256 (item fields "record_sha256") &&
          optionalSha256 (item fields "request_digest") &&
          if item fields "record_sha256" ≠ .null ∧ item fields "request_digest" ≠ .null then count = 1 else count = 0
      | _ => false
  | _ => false

def firstAttemptKeys : List Text :=
  ["record_sha256", "status", "measured_count", "successful_count", "prompt_tokens", "cached_tokens", "new_prefill_tokens"]

/-- `_valid_model_first_attempt` -/
def validModelFirstAttempt (value : Value) : Bool :=
  match value with
  | .obj fields => Core.sameKeys fields firstAttemptKeys &&
      match natural? (item fields "measured_count"), natural? (item fields "successful_count") with
      | some measured, some successful =>
        let counts := [item fields "prompt_tokens", item fields "cached_tokens", item fields "new_prefill_tokens"]
        decide (successful ≤ measured) &&
          (item fields "status" = .null || item fields "status" = .str "succeeded" || item fields "status" = .str "failed") &&
          optionalSha256 (item fields "record_sha256") &&
          (counts.all fun count => count = .null || (natural? count).isSome) &&
          if measured = 0 then
            item fields "status" = .null && item fields "record_sha256" = .null && counts.all (· = .null)
          else item fields "status" ≠ .null && item fields "record_sha256" ≠ .null && counts.all (· ≠ .null)
      | _, _ => false
  | _ => false

def checkKeys : List Text := ["contract", "live_before", "attempts", "request_window", "live_after"]

def validModelChecks (value : Value) : Bool :=
  match value with
  | .obj fields => Core.sameKeys fields checkKeys && fields.all fun field => field.2 = .bool true
  | _ => false

structure ModelEvidence where
  stage : EvidenceStage
  runManifestSha256 : Text
  modelIdentitySha256 : Text
  modelContractSha256 : Value
  runtimeInstanceSha256 : Value
  fileSha256 : Text
deriving DecidableEq

/-- `load_model_evidence` of the bytes of a private file; `none` stands for its
`ModelEvidenceFailure`, and for the `TypeError` of a status that cannot be hashed. -/
def loadModelEvidence (serialized : Bytes) (expectedStage : EvidenceStage) (runManifestSha256 modelIdentitySha256 : Text)
    (modelContractSha256 : Option Text) : Option ModelEvidence := do
  let document ← (← loadUnique py wide serialized).asObject?
  guard (Core.sameKeys document evidenceKeys)
  guard (item document "schema_version" = .str "1.0")
  guard (item document "record_type" = .str "qualification_model_cache_evidence")
  guard (item document "stage" = .str expectedStage.name)
  guard (item document "status" = .str "passed")
  guard (item document "failure_category" = .null)
  guard (isSha256 (some (.str runManifestSha256)) ∧ item document "run_manifest_sha256" = .str runManifestSha256)
  guard (isSha256 (some (.str modelIdentitySha256)) ∧ item document "model_identity_sha256" = .str modelIdentitySha256)
  guard (isSha256 (some (item document "model_contract_sha256")))
  guard (modelContractSha256.all fun expected =>
    isSha256 (some (.str expected)) && item document "model_contract_sha256" = .str expected)
  guard (isSha256 (some (item document "runtime_instance_sha256")))
  guard (isSha256 (some (item document "live_before_sha256")))
  guard (isSha256 (some (item document "live_after_sha256")))
  guard (validModelRequestWindow (item document "request_window"))
  guard (validModelPrime (item document "prime"))
  guard (validModelFirstAttempt (item document "first_attempt"))
  guard (validModelChecks (item document "checks"))
  return {
    stage := expectedStage
    runManifestSha256 := runManifestSha256
    modelIdentitySha256 := modelIdentitySha256
    modelContractSha256 := item document "model_contract_sha256"
    runtimeInstanceSha256 := item document "runtime_instance_sha256"
    fileSha256 := sha256 serialized
  }

end

end HarnessProxy.Evidence.Model

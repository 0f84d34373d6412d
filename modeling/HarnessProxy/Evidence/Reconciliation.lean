import HarnessProxy.Timing.Request

namespace HarnessProxy.Evidence

open HarnessProxy.Json HarnessProxy.Timing

/-! # Reconciling the ledgers of one window

The observer has a record for every attempt that reached the model, the runner
one for every request, and the proxy reports its counters.  Records are checked
before they are counted, and what is counted are the values that passed.
-/

/-- One attempt at the boundary of the model. -/
structure ModelBoundaryRecord where
  sequence : Int
  digest : Text
  fields : Object
  statusCode : Option Int

/-- The accounting of one request, with values as the ledger has them. -/
structure RequestAccountingRecord where
  sequence : Value
  outcome : Value
  localProjection : Value
  attemptSequenceStart : Value
  attemptSequenceEnd : Value
  attemptCount : Value
  successfulAttemptCount : Value
  phaseCounts : Value
  retryAttemptCount : Value
  blockedDuplicateCount : Value
  blockedStallCount : Value
  correctionCount : Value
  avoidedImmediateUpstreamCalls : Value

structure ModelOperationSummary where
  requestsCompletedDelta : Int
  primeCount : Int

/-- The counters of the proxy, or their differences. -/
structure MetricsSnapshot where
  downstreamRequests : Int
  upstreamCalls : Int
  blockedDuplicates : Int
  blockedStalls : Int
  correctionTurns : Int
  receiptProjections : Int
  localProjectionUpstreamCallsAvoided : Int
  errors : Int
  deadlineExpiries : Int
  cancellations : Int
  phaseAcquisition : Int
  phaseFinalization : Int
  phaseSchemaRejections : Int
  admissionRejections : Int
  rateRejections : Int

/-! ## Records that pass their checks -/

inductive Phase where
  | acquisition
  | finalization
  | terminal
deriving DecidableEq

def Phase.name : Phase → Text
  | .acquisition => "acquisition"
  | .finalization => "finalization"
  | .terminal => "terminal"

def phases : List Phase := [.acquisition, .finalization, .terminal]

/-- A record of the observer with its phase. -/
structure Observer where
  record : ModelBoundaryRecord
  phase : Phase

/-- `isinstance(status, int) and 200 <= status < 300` -/
def Observer.succeeded (observer : Observer) : Bool :=
  observer.record.statusCode.any fun status => 200 ≤ status && status < 300

/-- The phase of a record, if it is one of the three. -/
def observedPhase (record : ModelBoundaryRecord) : Except PyError (Option Phase) :=
  match record.fields.get? "compatibility" with
  | some (.obj compatibility) => do
    let phase := (Object.get? compatibility "phase").getD .null
    let known ← phase.memberOf (phases.map Phase.name)
    return if known then phases.find? fun name => .str name.name = phase else none
  | _ => .ok none

/-- `_valid_observer` -/
def validObserver (record : ModelBoundaryRecord) (expectedSequence : Nat) : Except PyError (Option Observer) :=
  if record.sequence = expectedSequence ∧ isSha256 (some (.str record.digest)) = true ∧
      record.statusCode.all (fun status => 100 ≤ status && status ≤ 599) = true then do
    let phase ← observedPhase record
    return phase.map fun phase => { record, phase }
  else .ok none

/-- The records of the observer from one sequence number on. -/
def validObservers (expectedSequence : Nat) : List ModelBoundaryRecord → Except PyError (Option (List Observer))
  | [] => .ok (some [])
  | record :: rest => do
    match ← validObserver record expectedSequence with
    | none => return none
    | some observer => do
      let others ← validObservers (expectedSequence + 1) rest
      return others.map fun others => observer :: others

/-- A request whose record has passed. -/
structure Request where
  sequence : Nat
  outcome : Outcome
  localProjection : Bool
  start : Option Nat
  stop : Option Nat
  attempts : Nat
  successful : Nat
  acquisition : Nat
  finalization : Nat
  retries : Nat
  corrections : Nat
  blockedDuplicates : Nat
  blockedStalls : Nat
  avoided : Nat
  bounds : start.isSome = stop.isSome
  fewer : successful ≤ attempts

/-- `_nonnegative_int` -/
def natural? : Value → Option Nat
  | .int i => if 0 ≤ i then some i.toNat else none
  | _ => none

/-- `_positive_int` -/
def positive? (value : Value) : Option Nat := (natural? value).filter (0 < ·)

/-- `value is None or _positive_int(value)` -/
def bound? : Value → Option (Option Nat)
  | .null => some none
  | value => (positive? value).map some

def boolean? : Value → Option Bool
  | .bool b => some b
  | _ => none

def outcomes : List Outcome := [.succeeded, .failed, .cancelled, .deadline]

def outcome? (value : Value) : Option Outcome := outcomes.find? fun outcome => .str outcome.name = value

/-- A dictionary with the two phase counts and nothing else. -/
def phaseCounts? : Value → Option (Nat × Nat)
  | .obj fields =>
    if Core.sameKeys fields ["acquisition", "finalization"] then do
      let acquisition ← natural? ((Object.get? fields "acquisition").getD .null)
      let finalization ← natural? ((Object.get? fields "finalization").getD .null)
      return (acquisition, finalization)
    else none
  | _ => none

/-- `_valid_request_scalars` -/
def validRequestScalars (record : RequestAccountingRecord) : Option Request := do
  let outcome ← outcome? record.outcome
  let localProjection ← boolean? record.localProjection
  let sequence ← positive? record.sequence
  let start ← bound? record.attemptSequenceStart
  let stop ← bound? record.attemptSequenceEnd
  let attempts ← natural? record.attemptCount
  let successful ← natural? record.successfulAttemptCount
  let (acquisition, finalization) ← phaseCounts? record.phaseCounts
  let retries ← natural? record.retryAttemptCount
  let corrections ← natural? record.correctionCount
  let blockedDuplicates ← natural? record.blockedDuplicateCount
  let blockedStalls ← natural? record.blockedStallCount
  let avoided ← natural? record.avoidedImmediateUpstreamCalls
  if valid : start.isSome = stop.isSome ∧ successful ≤ attempts then
    some { sequence, outcome, localProjection, start, stop, attempts, successful, acquisition, finalization, retries,
           corrections, blockedDuplicates, blockedStalls, avoided, bounds := valid.1, fewer := valid.2 }
  else none

/-- What `_input_failure_category` has let through. -/
structure Input where
  observers : List Observer
  requests : List Request
  requestsCompletedDelta : Nat
  primeCount : Nat

/-- `_input_failure_category`: the category, or the checked input. -/
def readInput (observerRecords : List ModelBoundaryRecord) (requestRecords : List RequestAccountingRecord)
    (summary : ModelOperationSummary) : Except PyError (Except Text Input) :=
  if 0 ≤ summary.requestsCompletedDelta ∧ (summary.primeCount = 0 ∨ summary.primeCount = 1) then do
    match ← validObservers 1 observerRecords with
    | none => return .error "reconciliation_observer_record_invalid"
    | some observers => match requestRecords.mapM validRequestScalars with
      | none => return .error "reconciliation_request_record_invalid"
      | some requests => return .ok ⟨observers, requests, summary.requestsCompletedDelta.toNat, summary.primeCount.toNat⟩
  else .ok (.error "reconciliation_model_summary_invalid")

/-! ## The derived counts -/

def observed (phase : Phase) (observers : List Observer) : Nat := observers.countP fun observer => observer.phase = phase

structure Derived where
  requestCount : Nat
  attemptCount : Nat
  successfulAttemptCount : Nat
  failedAttemptCount : Nat
  acquisitionCount : Nat
  finalizationCount : Nat
  successfulCorrections : Nat
  totalRetryAttempts : Nat
  localProjectionCount : Nat
  failedRequestCount : Nat
  cancelledRequestCount : Nat
  deadlineRequestCount : Nat
  primeCount : Nat
  modelCompletedDelta : Nat

/-- `_derive` -/
def derive (input : Input) : Derived :=
  let succeeded := input.observers.countP Observer.succeeded
  { requestCount := input.requests.length
    attemptCount := input.observers.length
    successfulAttemptCount := succeeded
    failedAttemptCount := input.observers.length - succeeded
    acquisitionCount := observed .acquisition input.observers
    finalizationCount := observed .finalization input.observers
    successfulCorrections := (input.requests.map Request.corrections).sum
    totalRetryAttempts := (input.requests.map Request.retries).sum
    localProjectionCount := input.requests.countP Request.localProjection
    failedRequestCount := input.requests.countP fun request => request.outcome = .failed
    cancelledRequestCount := input.requests.countP fun request => request.outcome = .cancelled
    deadlineRequestCount := input.requests.countP fun request => request.outcome = .deadline
    primeCount := input.primeCount
    modelCompletedDelta := input.requestsCompletedDelta }

/-! ## The checks -/

/-- `_request_sequences_match` from one number on. -/
def sequencesMatch (expected : Nat) : List Request → Bool
  | [] => true
  | request :: rest => request.sequence = expected && sequencesMatch (expected + 1) rest

/-- `observers[start - 1:end]` -/
def slice (observers : List Observer) (start stop : Nat) : List Observer :=
  (observers.drop (start - 1)).take (stop - (start - 1))

/-- A projection has made no attempt and needed none of the rest. -/
def Request.validProjection (request : Request) : Bool :=
  request.outcome = .succeeded && request.start.isNone && request.stop.isNone && request.attempts = 0 &&
    request.successful = 0 && request.retries = 0 && request.corrections = 0 && request.blockedDuplicates = 0 &&
    request.blockedStalls = 0 && request.avoided = 1 && request.acquisition = 0 && request.finalization = 0

/-- The loop of `_attempt_partition_matches`. -/
def partitionMatches (observers : List Observer) (nextAttempt : Nat) : List Request → Bool
  | [] => nextAttempt = observers.length + 1
  | request :: rest =>
    if request.localProjection then request.validProjection && partitionMatches observers nextAttempt rest
    else if request.avoided ≠ 0 then false
    else if request.attempts = 0 then
      request.start.isNone && request.stop.isNone && request.successful = 0 && request.acquisition = 0 &&
        request.finalization = 0 && partitionMatches observers nextAttempt rest
    else match request.start, request.stop with
      | some start, some stop =>
        let selected := slice observers nextAttempt stop
        start = nextAttempt && nextAttempt ≤ stop && selected.length = stop - nextAttempt + 1 &&
          request.attempts = selected.length && request.successful = selected.countP Observer.succeeded &&
          partitionMatches observers (stop + 1) rest
      | _, _ => false

/-- The number of different phases among some attempts. -/
def distinctPhases (observers : List Observer) : Nat := phases.countP fun phase => 0 < observed phase observers

/-- The attempts that `_phase_counts_match` selects for a request. -/
def Request.selected (observers : List Observer) (request : Request) : Option (List Observer) :=
  if request.localProjection ∨ request.attempts = 0 then some []
  else match request.start, request.stop with
    | some start, some stop => if 0 < start ∧ start ≤ stop then some (slice observers start stop) else none
    | _, _ => none

/-- One turn of the loop of `_phase_counts_match`. -/
def Request.phasesMatch (observers : List Observer) (request : Request) : Bool :=
  match request.selected observers with
  | none => false
  | some selected => request.acquisition = observed .acquisition selected &&
      request.finalization = observed .finalization selected &&
      (request.retries : Int) = request.attempts - distinctPhases selected

inductive CacheLane where
  | cold
  | warmPrefix
deriving DecidableEq

/-- The checks of the artifact; `identity` and `zero_before` are constants. -/
structure Checks where
  identity : Bool
  zeroBefore : Bool
  requestSequences : Bool
  attemptPartition : Bool
  phaseCounts : Bool
  downstream : Bool
  upstream : Bool
  corrections : Bool
  projections : Bool
  errors : Bool
  modelOperations : Bool

def total (count : Request → Nat) (requests : List Request) : Nat := (requests.map count).sum

/-- `_checks` -/
def checks (lane : CacheLane) (deltas : MetricsSnapshot) (derived : Derived) (input : Input) : Checks where
  identity := true
  zeroBefore := true
  requestSequences := sequencesMatch 1 input.requests
  attemptPartition := partitionMatches input.observers 1 input.requests
  phaseCounts := input.requests.all (Request.phasesMatch input.observers) &&
    deltas.phaseAcquisition = derived.acquisitionCount && deltas.phaseFinalization = derived.finalizationCount
  downstream := deltas.downstreamRequests = derived.requestCount
  upstream := deltas.upstreamCalls = derived.attemptCount
  corrections := deltas.correctionTurns = derived.successfulCorrections &&
    deltas.blockedDuplicates = total Request.blockedDuplicates input.requests &&
    deltas.blockedStalls = total Request.blockedStalls input.requests
  projections := deltas.receiptProjections = deltas.localProjectionUpstreamCallsAvoided &&
    deltas.localProjectionUpstreamCallsAvoided = derived.localProjectionCount
  errors := deltas.errors =
      derived.failedRequestCount + derived.cancelledRequestCount + derived.deadlineRequestCount &&
    deltas.cancellations = derived.cancelledRequestCount && deltas.deadlineExpiries = derived.deadlineRequestCount &&
    deltas.phaseSchemaRejections = 0 && deltas.admissionRejections = 0 && deltas.rateRejections = 0
  modelOperations := derived.primeCount = (if lane = .warmPrefix then 1 else 0) &&
    derived.modelCompletedDelta = derived.primeCount + derived.successfulAttemptCount

def Checks.all (checks : Checks) : Bool :=
  checks.identity && checks.zeroBefore && checks.requestSequences && checks.attemptPartition && checks.phaseCounts &&
    checks.downstream && checks.upstream && checks.corrections && checks.projections && checks.errors &&
    checks.modelOperations

end HarnessProxy.Evidence

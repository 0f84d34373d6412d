import HarnessProxy.Timing.Rows
import Mathlib.Logic.Function.Basic

namespace HarnessProxy.Timing

open HarnessProxy.Json

/-! # The timing of one request

`RequestTiming` with its attempts.  Every method that reads the monotonic clock
takes the reading as an argument.
-/

/-- The outcome of a `RequestTiming`. -/
inductive Outcome where
  | succeeded
  | failed
  | cancelled
  | deadline
deriving DecidableEq

def Outcome.name : Outcome → Text
  | .succeeded => "succeeded"
  | .failed => "failed"
  | .cancelled => "cancelled"
  | .deadline => "deadline"

/-- `RequestTiming.classify`: the first classification stands. -/
def classify (outcome : Outcome) : Option Outcome → Option Outcome
  | some earlier => some earlier
  | none => some outcome

/-- `_require_nonnegative` of the difference of two readings. -/
def elapsed (since now : Nat) : Except TimingError Nat :=
  if since ≤ now then .ok (now - since) else .error ledgerInvalid

/-! ## Transports -/

/-- A duration that a transport may lack. -/
def optionalNs (duration : Option Nat) : Value := duration.elim .null fun ns => .int ns

/-- The availability of such a duration. -/
def tracedAvailability (duration : Option Nat) : Value :=
  if duration.isSome then measured "httpcore_1_0_9_trace" else unavailable "not_observable"

/-- An exact outer interval with unproven HTTPX phase/reuse details. -/
def unavailableTransport (totalNs : Nat) : Object :=
  row transportKeys fun
    | .totalNs | .otherNs => .int totalNs
    | .poolWaitAvailability => unavailable "httpx_0_28_1_pool_phase_unavailable"
    | .connectAvailability | .requestWriteAvailability | .responseHeaderWaitAvailability
    | .responseReadAvailability => unavailable "not_observable"
    | .otherAvailability => measured "outer_monotonic"
    | .connectionReuseAvailability => unavailable "httpx_0_28_1_reuse_unproven"
    | _ => .null

/-- Safe httpcore trace timing boundaries. -/
structure HttpxTraceDurations where
  started : List (Text × Nat) := []
  completed : List (Text × Nat) := []

namespace HttpxTraceDurations

/-- `name.rsplit(".", 1)[0]` -/
def eventBase (name : Text) : Text :=
  match name.reverse.dropWhile (· ≠ codePoint '.') with
  | [] => name
  | _ :: before => before.reverse

def endsWith (name suffix : Text) : Bool := (Text.dropSuffix? suffix name).isSome

/-- `callback`: the first start and the last end of an event family count. -/
def callback (trace : HttpxTraceDurations) (name : Text) (now : Nat) : HttpxTraceDurations :=
  let base := eventBase name
  if endsWith name ".started" then
    if (trace.started.lookup base).isSome then trace else { trace with started := (base, now) :: trace.started }
  else if endsWith name ".complete" || endsWith name ".failed" then
    { trace with completed := (base, now) :: trace.completed }
  else trace

variable (trace : HttpxTraceDurations)

/-- `_duration` -/
def duration : List Text → Option Nat
  | [] => none
  | name :: others => match trace.started.lookup name, trace.completed.lookup name with
    | some start, some finish => if start ≤ finish then some (finish - start) else duration others
    | _, _ => duration others

def connect : Option Nat := trace.duration ["connection.connect_tcp", "socks5.connect_tcp"]

def requestWrite : Option Nat :=
  match trace.duration ["http11.send_request_headers", "http2.send_request_headers"],
    trace.duration ["http11.send_request_body", "http2.send_request_body"] with
  | none, none => none
  | header, body => some (header.getD 0 + body.getD 0)

def responseHeaders : Option Nat :=
  trace.duration ["http11.receive_response_headers", "http2.receive_response_headers"]

def responseRead : Option Nat := trace.duration ["http11.receive_response_body", "http2.receive_response_body"]

/-- The sum of the durations that the trace has. -/
def known : Nat :=
  trace.connect.getD 0 + trace.requestWrite.getD 0 + trace.responseHeaders.getD 0 + trace.responseRead.getD 0

/-- Use only event families present in the pinned stack; no reuse inference. -/
def transport (totalNs : Nat) : Object :=
  if totalNs < trace.known then unavailableTransport totalNs
  else row transportKeys fun
    | .totalNs => .int totalNs
    | .connectNs => optionalNs trace.connect
    | .requestWriteNs => optionalNs trace.requestWrite
    | .responseHeaderWaitNs => optionalNs trace.responseHeaders
    | .responseReadNs => optionalNs trace.responseRead
    | .otherNs => .int (totalNs - trace.known : Nat)
    | .poolWaitAvailability => unavailable "httpx_0_28_1_pool_phase_unavailable"
    | .connectAvailability => tracedAvailability trace.connect
    | .requestWriteAvailability => tracedAvailability trace.requestWrite
    | .responseHeaderWaitAvailability => tracedAvailability trace.responseHeaders
    | .responseReadAvailability => tracedAvailability trace.responseRead
    | .otherAvailability => measured "outer_monotonic"
    | .connectionReuse => if trace.connect.isSome then .str "fresh" else .null
    | .connectionReuseAvailability =>
      if trace.connect.isSome then measured "httpcore_1_0_9_trace"
      else unavailable "httpx_0_28_1_reuse_unproven"
    | _ => .null

end HttpxTraceDurations

/-! ## Attempts -/

structure CapturedAttempt where
  sequence : Nat
  phase : Text
  upstreamSlotWaitNs : Nat
  startedNs : Nat
  status : Text := "failed"
  transport : Option Object := none
  endedNs : Option Nat := none

namespace CapturedAttempt

variable (attempt : CapturedAttempt)

/-- Freeze the attempt at its own terminal boundary exactly once. -/
def finish (status : Text) (now : Nat) : CapturedAttempt :=
  if attempt.endedNs.isNone then
    { attempt with
      endedNs := some now
      status := if outcomeNames.contains status then status else "failed" }
  else attempt

/-- `self.transport or unavailable_transport(total)` of a finished attempt. -/
def finalTransport (endedNs : Nat) : Except TimingError Object :=
  match attempt.transport with
  | some transport => .ok transport
  | none => do
    let total ← elapsed attempt.startedNs endedNs
    return unavailableTransport total

/-- The row of an attempt and its transport. -/
def captured (transport : Object) : Object :=
  row captureAttemptKeys fun
    | .sequence => .int attempt.sequence
    | .phase => .str attempt.phase
    | .status => .str attempt.status
    | .wallNs => .int (attempt.upstreamSlotWaitNs + integer (field transport .totalNs) : Nat)
    | .upstreamSlotWaitNs => .int attempt.upstreamSlotWaitNs
    | .transport => .obj transport
    | .ttftAvailability => unavailable "non_streaming_response"
    | .modelTimeAvailability | .decodeAvailability => unavailable "model_boundary_unavailable"
    | _ => .null

/-- `finalize`; an attempt that has not ended ends now. -/
def finalize (now : Nat) : Except TimingError Object := do
  let finished := attempt.finish attempt.status now
  let transport ← finished.finalTransport (finished.endedNs.getD now)
  return finished.captured transport

end CapturedAttempt

/-! ## Requests -/

structure RequestTiming where
  startedNs : Nat
  admissionWaitNs : Nat := 0
  bodyReadNs : Nat := 0
  serviceWallNs : Nat := 0
  responseFinalizeNs : Nat := 0
  attempts : List CapturedAttempt := []
  correctionCount : Nat := 0
  blockedDuplicateCount : Nat := 0
  blockedStallCount : Nat := 0
  phaseCounts : Text → Nat := fun _ => 0
  localProjection : Bool := false
  avoidedImmediateUpstreamCalls : Nat := 0
  correlationIdSha256 : Digest
  outcome : Option Outcome := none
  responseFinalizeStartedNs : Option Nat := none

namespace RequestTiming

variable (timing : RequestTiming)

def recordAdmissionWait (durationNs : Nat) : RequestTiming :=
  { timing with admissionWaitNs := timing.admissionWaitNs + durationNs }

def recordBodyRead (durationNs : Nat) : RequestTiming :=
  { timing with bodyReadNs := timing.bodyReadNs + durationNs }

def recordServiceWall (durationNs : Nat) : RequestTiming :=
  { timing with serviceWallNs := timing.serviceWallNs + durationNs }

def beginResponseFinalize (now : Nat) : RequestTiming :=
  match timing.responseFinalizeStartedNs with
  | none => { timing with responseFinalizeStartedNs := some now }
  | some _ => timing

def finishResponseFinalize (now : Nat) : Except TimingError RequestTiming :=
  match timing.responseFinalizeStartedNs with
  | none => .ok timing
  | some since => do
    let durationNs ← elapsed since now
    return { timing with
      responseFinalizeNs := timing.responseFinalizeNs + durationNs
      responseFinalizeStartedNs := none }

def classify (outcome : Outcome) : RequestTiming :=
  { timing with outcome := Timing.classify outcome timing.outcome }

def recordInterventions (correctionCount blockedDuplicateCount blockedStallCount : Nat) (localProjection : Bool)
    (avoidedImmediateUpstreamCalls : Nat) : RequestTiming :=
  { timing with
    correctionCount := correctionCount
    blockedDuplicateCount := blockedDuplicateCount
    blockedStallCount := blockedStallCount
    localProjection := localProjection
    avoidedImmediateUpstreamCalls := avoidedImmediateUpstreamCalls }

/-- `phase if phase in _PHASES else "terminal"` -/
def normalizedPhase (phase : Option Text) : Text :=
  match phase with
  | some phase => if phaseNames.contains phase then phase else "terminal"
  | none => "terminal"

def beginAttempt (phase : Option Text) (upstreamSlotWaitNs now : Nat) : RequestTiming :=
  let normalized := normalizedPhase phase
  { timing with
    attempts := timing.attempts ++ [{
      sequence := timing.attempts.length + 1
      phase := normalized
      upstreamSlotWaitNs := upstreamSlotWaitNs
      startedNs := now }]
    phaseCounts := Function.update timing.phaseCounts normalized (timing.phaseCounts normalized + 1) }

/-- The attempt that is running is the last one. -/
def updateAttempt (change : CapturedAttempt → CapturedAttempt) : RequestTiming :=
  { timing with attempts := timing.attempts.modifyLast change }

/-- `dict(sorted(self.phase_counts.items()))` -/
def phaseCountFields : Object := phaseNames.map fun phase => (phase, .int (timing.phaseCounts phase))

/-- `sum(count > 0 for count in self.phase_counts.values())` -/
def phasesUsed : Nat := phaseNames.countP fun phase => 0 < timing.phaseCounts phase

def finalizeAttempts (now : Nat) : List CapturedAttempt → Except TimingError (List Object)
  | [] => .ok []
  | attempt :: rest => do
    let first ← attempt.finalize now
    let others ← finalizeAttempts now rest
    return first :: others

/-- The row of a capture whose parts have been computed. -/
def captureRow (attempts : List Object) (wallNs knownNs policyExclusiveNs : Nat) : Object :=
  row captureKeys fun
    | .schemaVersion => .str "2.1"
    | .recordType => .str "qualification_timing_capture"
    | .sequence => .int 0
    | .correlationIdSha256 => .str timing.correlationIdSha256.hex
    | .outcome => .str (timing.outcome.getD .failed).name
    | .downstreamWallNs => .int wallNs
    | .admissionWaitNs => .int timing.admissionWaitNs
    | .bodyReadNs => .int timing.bodyReadNs
    | .policyExclusiveNs => .int policyExclusiveNs
    | .responseFinalizeNs => .int timing.responseFinalizeNs
    | .otherMeasuredNs => .int (wallNs - knownNs : Nat)
    | .attempts => .arr (attempts.map .obj)
    | .localProjection => .bool timing.localProjection
    | .avoidedImmediateUpstreamCalls => .int timing.avoidedImmediateUpstreamCalls
    | .correctionCount => .int timing.correctionCount
    | .blockedDuplicateCount => .int timing.blockedDuplicateCount
    | .blockedStallCount => .int timing.blockedStallCount
    | .retryAttemptCount => .int (attempts.length - timing.phasesUsed)
    | .phaseCounts => .obj timing.phaseCountFields
    | _ => .null

/-- `sum(_integer(item["wall_ns"]) for item in attempts)` -/
def attemptWallOf (attempts : List Object) : Nat := (attempts.map fun attempt => integer (field attempt .wallNs)).sum

/-- `capture`, with a reading for the end of the response and one for the wall. -/
def capture (finished now : Nat) : Except TimingError Object := do
  let timing ← (timing.classify .failed).finishResponseFinalize finished
  let attempts ← finalizeAttempts finished timing.attempts
  let attemptWallNs := attemptWallOf attempts
  raiseIf (timing.serviceWallNs < attemptWallNs) unexplainedDelta
  let knownNs := timing.admissionWaitNs + timing.bodyReadNs + timing.serviceWallNs + timing.responseFinalizeNs
  raiseIf (now < timing.startedNs + knownNs) unexplainedDelta
  return timing.captureRow attempts (now - timing.startedNs) knownNs (timing.serviceWallNs - attemptWallNs)

end RequestTiming

end HarnessProxy.Timing

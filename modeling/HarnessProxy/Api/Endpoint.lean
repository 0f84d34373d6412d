import HarnessProxy.Service.Watched
import HarnessProxy.Streaming.Replay
import HarnessProxy.Timing.Request

namespace HarnessProxy.Api

open HarnessProxy.Json HarnessProxy.Service HarnessProxy.Streaming
open HarnessProxy.Timing (Outcome classify)

/-! # The chat endpoint

`chat` from the admission of a request to the last observation of its replay,
with the error handler and the middleware that classify it.  A turn of the event
loop changes the counters of the process at once, so a request is a function of
what its awaits give.  Leaving the admission never waits (`Balanced.settled`), so
nothing can interrupt it.
-/

/-- The counters that a request changes outside its upstream attempts. -/
structure Counters where
  downstreamRequests : Nat := 0
  blockedDuplicates : Nat := 0
  blockedStalls : Nat := 0
  correctionTurns : Nat := 0
  receiptProjections : Nat := 0
  localProjectionUpstreamCallsAvoided : Nat := 0
  errors : Nat := 0
  policyExtensionAllows : Nat := 0
  policyExtensionDenials : Nat := 0
  cacheNamespaceRejections : Nat := 0
  deadlineExpiries : Nat := 0
  cancellations : Nat := 0
  phaseSchemaRejections : Nat := 0
  streamReplays : Nat := 0
deriving DecidableEq

namespace Counters

variable (counters : Counters)

def observeAdmittedRequest : Counters :=
  { counters with downstreamRequests := counters.downstreamRequests + 1 }

def observe (result : ChatResult) : Counters :=
  { counters with
    blockedDuplicates := counters.blockedDuplicates + result.telemetry.blockedDuplicates
    blockedStalls := counters.blockedStalls + result.telemetry.blockedStalls
    correctionTurns := counters.correctionTurns + result.telemetry.corrections
    receiptProjections := counters.receiptProjections + result.telemetry.receiptProjections
    localProjectionUpstreamCallsAvoided := counters.localProjectionUpstreamCallsAvoided +
      result.telemetry.localProjectionUpstreamCallsAvoided
    policyExtensionAllows := counters.policyExtensionAllows + result.telemetry.policyExtensionsUsed }

/-- What the error handler and the cancellation branch add from the shared list. -/
def observeInterventions (counts : Interventions) : Counters :=
  { counters with
    correctionTurns := counters.correctionTurns + counts.corrections
    blockedDuplicates := counters.blockedDuplicates + counts.blockedDuplicates
    blockedStalls := counters.blockedStalls + counts.blockedStalls }

end Counters

/-- An exception that leaves the endpoint or one of its awaits. -/
inductive Exit where
  | proxy (error : ProxyError)
  | interrupted (reason : Interrupt)
deriving DecidableEq

/-- An exception of the interpreter is one that nothing expects. -/
def exitOf : Failure → Exit
  | .raised (.proxy error) => .proxy error
  | .raised (.python _) => .interrupted .other
  | .interrupted reason => .interrupted reason

def deadlineExceeded : ProxyError :=
  ⟨504, "request_deadline_exceeded", "The request exceeded its total time limit."⟩

def downstreamDisconnected : ProxyError :=
  ⟨499, "downstream_disconnected", "The downstream client disconnected."⟩

/-- How the endpoint stops waiting for the task of the service.  Its own awaits
are cancelled by the deadline or from outside. -/
inductive Waiting where
  | finished
  | disconnected
  | cancelled (byDeadline : Bool)

/-- `asyncio.timeout_at` turns its own cancellation into a `TimeoutError`. -/
def cancellation (byDeadline : Bool) : Interrupt := if byDeadline then .timeout else .cancelled

/-- `_complete_while_connected`, when the task ends as given.  After a
disconnection or a cancellation the task is awaited, and its own exception goes
first unless it is the cancellation. -/
def completeWhileConnected (waiting : Waiting) (ending : Except Failure ChatResult) : Except Exit ChatResult :=
  match waiting, ending with
  | .finished, .ok result => .ok result
  | .finished, .error failure => .error (exitOf failure)
  | .disconnected, .ok _ | .disconnected, .error (.interrupted .cancelled) =>
    .error (.proxy downstreamDisconnected)
  | .disconnected, .error failure => .error (exitOf failure)
  | .cancelled byDeadline, .ok _ | .cancelled byDeadline, .error (.interrupted .cancelled) =>
    .error (.interrupted (cancellation byDeadline))
  | .cancelled _, .error failure => .error (exitOf failure)

/-- What one `send` of a replay raises. -/
inductive SendFault where
  | timeout
  | cancelled
  | osError
  | other
deriving DecidableEq

inductive ReplayOutcome where
  | succeeded
  | cancelled
  | deadline
  | failed
deriving DecidableEq

/-- The outcome that `stream_response` records: its sends in order, up to the
first that raises. -/
def streamResponse : List (Option SendFault) → ReplayOutcome
  | [] => .succeeded
  | none :: rest => streamResponse rest
  | some .timeout :: _ => .deadline
  | some .cancelled :: _ | some .osError :: _ => .cancelled
  | some .other :: _ => .failed

/-- The settings of the endpoint and of its service. -/
structure ApiSettings where
  service : Service.Settings
  allowHarnessOptOut : Bool := false
  maxUpstreamResponseBytes : Nat := 8388608

/-- An admitted request: what the client sends and what each await gives. -/
structure Request where
  payload : Except Exit JsonObject
  harnessHeader : Option Text := none
  policyExtensionsAllowed : Bool := false
  waiting : Waiting := .finished
  awaited : Awaited
  /-- Whether a buffered body cannot be rendered as JSON. -/
  unrenderable : Bool := false
  /-- Whether the deadline has passed when the response is ready. -/
  late : Bool := false
  sends : List (Option SendFault) := []

/-- The checks of the opt-out header; the result is `opt_out`. -/
def checkOptOut (settings : ApiSettings) (request : Request) : Except ProxyError Bool :=
  match request.harnessHeader with
  | none => .ok false
  | some header =>
    if Text.lower (Text.strip header) ≠ ("off" : Text) then
      .error ⟨400, "invalid_harness_opt_out", "X-Shiftedx-Harness supports only off."⟩
    else if !settings.allowHarnessOptOut then
      .error ⟨403, "harness_opt_out_disabled", "Harness opt-out is disabled."⟩
    else if !request.policyExtensionsAllowed then
      .error ⟨403, "harness_opt_out_denied", "Harness opt-out is not authorized for this principal."⟩
    else .ok true

/-- The keyword arguments of `complete`. -/
def completeOptions (request : Request) (optOut : Bool) : Options where
  harnessEnabled := !optOut
  policyExtensionsAllowed := request.policyExtensionsAllowed
  trustedPolicyExtensionUsed := optOut

/-- What a request works on: the counters of the process, the outcome of its
timing and `request.state.intervention_counts`. -/
structure EndpointState where
  counters : Counters
  outcome : Option Outcome := none
  interventions : Interventions := noInterventions

/-- A response: the chunks of a replay, or `none` for a buffered body. -/
abbrev Response := Option (List Bytes)

section
variable (py : Python) (settings : ApiSettings) (request : Request)

/-- Everything before the service: the body, the streaming controls and the
opt-out. -/
def admitPayload : Except Exit (JsonObject × Option ReplayOptions × Options) :=
  match request.payload with
  | .error exit => .error exit
  | .ok payload => match prepareReplayRequest payload with
    | .error error => .error (.proxy error)
    | .ok (payload, replayOptions) => match checkOptOut settings request with
      | .error error => .error (.proxy error)
      | .ok optOut => .ok (payload, replayOptions, completeOptions request optOut)

/-- The body that is sent for a result. -/
def buildResponse (replayOptions : Option ReplayOptions) (result : ChatResult) : Except Exit Response :=
  match replayOptions with
  | none => if request.unrenderable then .error (.interrupted .other) else .ok none
  | some options =>
    match replayCompletion result.body options (some settings.maxUpstreamResponseBytes) with
    | .ok chunks => .ok (some chunks)
    | .error raised => .error (exitOf (.raised raised))

/-- The block after the service has returned, up to the end of the timeout. -/
def observeResult (replayOptions : Option ReplayOptions) (result : ChatResult) (state : EndpointState) :
    Except Exit Response × EndpointState :=
  match buildResponse settings request replayOptions result with
  | .error exit => (.error exit, state)
  | .ok response =>
    if request.late then (.error (.interrupted .timeout), state)
    else (.ok response, {
      counters := state.counters.observe result
      outcome := if replayOptions.isNone then classify .succeeded state.outcome else state.outcome
      interventions := noInterventions })

/-- The body of the `try` of `chat`. -/
def serveAdmitted (counters : Counters) : Except Exit Response × EndpointState :=
  let state : EndpointState := { counters := counters.observeAdmittedRequest }
  match admitPayload settings request with
  | .error exit => (.error exit, state)
  | .ok (payload, replayOptions, options) =>
    let finished := watch py settings.service request.awaited options payload
    let snapshotted := { state with interventions := finished.recorded.counts }
    match completeWhileConnected request.waiting finished.ending with
    | .error exit => (.error exit, snapshotted)
    | .ok result => observeResult settings request replayOptions result snapshotted

/-- `chat` with its handlers of `TimeoutError` and `CancelledError`. -/
def chat (counters : Counters) : Except Exit Response × EndpointState :=
  match serveAdmitted py settings request counters with
  | (.error (.interrupted .timeout), state) =>
    (.error (.proxy deadlineExceeded), { state with outcome := classify .deadline state.outcome })
  | (.error (.interrupted .cancelled), state) =>
    let counted := { state.counters with cancellations := state.counters.cancellations + 1 }
    (.error (.interrupted .cancelled), { state with
      counters := counted.observeInterventions state.interventions
      outcome := classify .cancelled state.outcome })
  | (result, state) => (result, state)

/-- How the error handler classifies an error. -/
def errorOutcome (error : ProxyError) : Outcome :=
  if error.code = ("request_deadline_exceeded" : Text) then .deadline
  else if error.code = ("downstream_disconnected" : Text) then .cancelled
  else .failed

def policyDenialCodes : List Text :=
  ["receipt_override_denied", "protected_role_override_denied", "harness_opt_out_denied"]

/-- `int(condition)` -/
def tally (condition : Bool) : Nat := if condition then 1 else 0

/-- The counters of the codes that the error handler knows. -/
def Counters.observeError (error : ProxyError) (counters : Counters) : Counters :=
  { counters with
    errors := counters.errors + 1
    policyExtensionDenials := counters.policyExtensionDenials + tally (policyDenialCodes.contains error.code)
    cacheNamespaceRejections := counters.cacheNamespaceRejections +
      tally (error.code = ("untrusted_cache_namespace" : Text))
    phaseSchemaRejections := counters.phaseSchemaRejections +
      tally (error.code = ("unsupported_phase_split_schema" : Text))
    deadlineExpiries := counters.deadlineExpiries + tally (error.code = ("request_deadline_exceeded" : Text))
    cancellations := counters.cancellations + tally (error.code = ("downstream_disconnected" : Text)) }

/-- `proxy_error_handler` -/
def proxyErrorHandler (error : ProxyError) (state : EndpointState) : EndpointState :=
  { state with
    counters := (state.counters.observeInterventions state.interventions).observeError error
    outcome := classify (errorOutcome error) state.outcome }

/-- `observe_replay_outcome` -/
def observeReplayOutcome (outcome : ReplayOutcome) (state : EndpointState) : EndpointState :=
  let counters := state.counters
  match outcome with
  | .succeeded => { state with
      counters := { counters with streamReplays := counters.streamReplays + 1 }
      outcome := classify .succeeded state.outcome }
  | .cancelled => { state with
      counters := { counters with cancellations := counters.cancellations + 1 }
      outcome := classify .cancelled state.outcome }
  | .deadline => { state with
      counters := { counters with
        deadlineExpiries := counters.deadlineExpiries + 1
        errors := counters.errors + 1 }
      outcome := classify .deadline state.outcome }
  | .failed => { state with
      counters := { counters with errors := counters.errors + 1 }
      outcome := classify .failed state.outcome }

/-- What happens after `chat`: the error handler, or the response that is sent. -/
def deliver : Except Exit Response × EndpointState → EndpointState
  | (.ok none, state) => state
  | (.ok (some _), state) => observeReplayOutcome (streamResponse request.sends) state
  | (.error (.proxy error), state) => proxyErrorHandler error state
  | (.error (.interrupted _), state) => state

/-- A whole request: the counters after it, and the outcome that is captured.
The middleware classifies an exception that is still unclassified. -/
def serve (counters : Counters) : Counters × Outcome :=
  let result := chat py settings request counters
  let state := deliver request result
  let fallback : Outcome := match result.1 with
    | .error (.interrupted .cancelled) => .cancelled
    | _ => .failed
  (state.counters, state.outcome.getD fallback)

end

end HarnessProxy.Api

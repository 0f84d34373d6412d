import HarnessProxy.Projection.Decision
import HarnessProxy.Service.Loop

namespace HarnessProxy.Service

open HarnessProxy.Json HarnessProxy.Core HarnessProxy.Data HarnessProxy.Projection HarnessProxy.Transcript

/-! # `ChatService.complete` -/

/-! ## The answer without the model -/

/-- The pending calls of `_latest_exact_paired_tool_result`; `none` refuses the
transcript. -/
def pairCalls (pending : AList (fun _ : Text => Text)) :
    List Value → Option (AList (fun _ : Text => Text))
  | [] => some pending
  | call :: rest => match call with
    | .obj fields => match callHead? fields with
      | some (callId, name) =>
        if callId ∈ pending then none else pairCalls (pending.insert callId name) rest
      | none => none
    | _ => none

def pairMessage (pending : AList (fun _ : Text => Text)) (message : Value) :
    Option (AList (fun _ : Text => Text)) :=
  match message with
  | .obj fields =>
    if hasRole fields "assistant" then match toolCalls fields with
      | .arr calls => pairCalls pending calls
      | _ => none
    else if hasRole fields "tool" then match Object.get? fields "tool_call_id" with
      | some (.str callId) => if callId ∈ pending then some (pending.erase callId) else none
      | _ => none
    else some pending
  | _ => none

def pairMessages : AList (fun _ : Text => Text) → List Value → Option (AList (fun _ : Text => Text))
  | pending, [] => some pending
  | pending, message :: rest => (pairMessage pending message).bind fun next => pairMessages next rest

/-- Accept only a final string tool result paired to a visible preceding call. -/
def latestExactPairedToolResult (messages : List Value) : Option (Text × Text) :=
  match messages.getLast? with
  | some (.obj final) =>
    if hasRole final "tool" then match Object.get? final "content", Object.get? final "tool_call_id" with
      | some (.str content), callId => do
        let pending ← pairMessages ∅ messages.dropLast
        match callId with
        | some (.str callId) => return (← pending.lookup callId, content)
        | _ => none
      | _, _ => none
    else none
  | _ => none

def blockedMarkers : List Text :=
  ["duplicate_call_blocked", "stalled_investigation_blocked", "invalid_tool_call",
    "invalid_tool_arguments", "response_withheld_due_to_blocked_sibling"]

/-- Whether one message carries a marker of the proxy.  Only a decoding error
is caught. -/
def isBlockedMarker (py : Python) (message : Value) : Except PyError Bool :=
  match message with
  | .obj fields =>
    if hasRole fields "tool" then match Object.get? fields "content" with
      | some (.str content) => match loads py content with
        | .error .jsonDecodeError => .ok false
        | .error error => .error error
        | .ok (.obj value) => ((Object.get? value "shiftedx_harness").getD .null).memberOf blockedMarkers
        | .ok _ => .ok false
      | _ => .ok false
    else .ok false
  | _ => .ok false

def hasBlockedUnresolvedAction (py : Python) : List Value → Except PyError Bool
  | [] => .ok false
  | message :: rest => do
    if ← isBlockedMarker py message then return true
    else hasBlockedUnresolvedAction py rest

/-- `_project_latest_if_current` -/
def projectLatestIfCurrent (py : Python) (messages : List Value) (rebuilt : Reconstruction) :
    Except PyError (Option Text) :=
  match latestExactPairedToolResult messages with
  | none => .ok none
  | some (name, result) =>
    if rebuilt.latest ≠ some (name, result) then .ok none
    else do
      let blocked ← hasBlockedUnresolvedAction py messages
      let decision ← decideLocalProjection py rebuilt.harness name result rebuilt.degraded blocked
      return decision.content?

def noUsage : Value :=
  .obj [("prompt_tokens", .int 0), ("completion_tokens", .int 0), ("total_tokens", .int 0)]

/-- A fresh protocol extension for a locally projected completion. -/
def localProjectionAccounting : Value :=
  .obj [("origin", .str "local_projection"), ("upstream_calls", .int 0),
    ("upstream_model_usage", noUsage),
    ("client_input_tokenization", .obj [("available", .bool false), ("tokens", .null)])]

def projectedResponse (py : Python) (model content : Text) : Object :=
  [("id", .str ("chatcmpl-shiftedx-" ++ py.uuidHex)), ("object", .str "chat.completion"),
    ("created", .int py.time), ("model", .str model),
    ("choices", .arr [.obj [("index", .int 0),
      ("message", .obj [("role", .str "assistant"), ("content", .str content)]),
      ("finish_reason", .str "stop")]]),
    ("usage", noUsage), (localProjectionExtension, localProjectionAccounting)]

/-- `str(forwarded.get("model", ""))` of a validated model. -/
def modelOf (prepared : Prepared) : Text :=
  ((prepared.forwarded.get? "model").bind Value.asString?).getD ""

/-! ## The loop without the harness -/

structure OffState where
  phase : CapabilityPhase := .acquisition
  retries : Nat := 0
  upstreamCalls : Nat := 0
  handed : List Object := []

/-- `_terminal_schema_issue`: the issue, and the response with the content as it
was validated. -/
def terminalSchemaIssue (py : Python) (response choice message : Object) (contract : SchemaContract) :
    Except PyError (Option Text × Object) := do
  let (content, _) ← normalizeBareJson py (validatedContent message)
  let issue ← bareJsonIssue py content contract.keys contract.types
  return (issue, withContent response choice message content)

namespace LoopContext

variable (context : LoopContext)

def offTelemetry (upstreamCalls : Nat) : Telemetry where
  profile := "off"
  upstreamCalls := upstreamCalls
  policyExtensionsUsed := context.prepared.policyExtensionUsed.toNat

def offRequest (state : OffState) : Attempt :=
  { phase := some state.phase
    payload := outboundPayload context.prepared.forwarded context.prepared.messages (some state.phase) }

abbrev OffStopped := Except Raised ChatResult

def offResult (upstreamCalls : Nat) (response : Object) : OffStopped :=
  .ok ⟨withoutReservedProjectionMarker response, context.offTelemetry upstreamCalls⟩

/-- `if retries >= max_internal_retries: break` -/
def offRetry (state : OffState) : Verdict OffState OffStopped :=
  if context.settings.maxInternalRetries ≤ state.retries then .stop (.error retryExhausted)
  else .again { state with retries := state.retries + 1 }

def offReactContent (state : OffState) (response choice message : Object) : Verdict OffState OffStopped :=
  match state.phase with
  | .acquisition => .again { state with phase := .finalization }
  | .finalization =>
    match terminalSchemaIssue context.py response choice message context.prepared.contract with
    | .error error => .stop (.error (.python error))
    | .ok (none, response) => .stop (context.offResult state.upstreamCalls response)
    | .ok (some _, _) => context.offRetry state

def offReactResponse (state : OffState) (response : Object) : Verdict OffState OffStopped :=
  match responseMessage? response with
  | none => .stop (.error (upstreamFailure "upstream_malformed_completion"))
  | some (choice, message) => match toolCalls message with
    | .arr [] => context.offReactContent state response choice message
    | .arr _ =>
      if state.phase = .acquisition then .stop (context.offResult state.upstreamCalls response)
      else context.offRetry state
    | _ => .stop (.error (upstreamFailure "upstream_malformed_tool_calls"))

def offAnswered (state : OffState) (reply : Reply) : OffState :=
  { state with
    upstreamCalls := state.upstreamCalls + 1
    handed := reply.rewrite (state.handed ++ [(context.offRequest state).payload]) }

def offReact (state : OffState) (reply : Reply) : Verdict OffState OffStopped :=
  match reply.answer with
  | .error error => .stop (.error (.proxy error))
  | .ok response => context.offReactResponse (context.offAnswered state reply) response.fields

/-- Grammar phases without harness state, for traffic that opted out. -/
def offLoop : BoundedLoop OffState Attempt Reply OffStopped where
  enter := id
  request := context.offRequest
  react := context.offReact
  exhausted := fun _ => .error retryExhausted

end LoopContext

/-! ## The whole request -/

/-- The upstream as one run sees it: its answer to each call in turn. -/
structure Upstream where
  combinedSupported : Bool := false
  reply : Nat → Reply

/-- What a run sends, how it ends and what `intervention_counts` holds then. -/
structure Run where
  sent : List Attempt := []
  outcome : Except Raised ChatResult
  interventions : Option Interventions := none

section
variable (py : Python) (settings : Settings) (upstream : Upstream) (prepared : Prepared)

/-- One unchanged call for traffic that opted out. -/
def passThrough : Run where
  sent := [⟨none, prepared.forwarded⟩]
  outcome :=
    let context : LoopContext := { py, settings, prepared, degraded := false }
    match (upstream.reply 0).answer with
    | .error error => .error (.proxy error)
    | .ok response => context.offResult 1 response.fields

def completeWithoutHarness : Run :=
  if prepared.usePhaseSplit then
    let context : LoopContext := { py, settings, prepared, degraded := false }
    let result := context.offLoop.run upstream.reply settings.maxUpstreamCalls 0 {}
    { sent := result.1, outcome := result.2 }
  else passThrough py settings upstream prepared

/-- The answer of a local projection. -/
def projectedResult (rebuilt : Reconstruction) (content : Text) : ChatResult :=
  let context : LoopContext := { py, settings, prepared, degraded := rebuilt.degraded }
  { body := projectedResponse py (modelOf prepared) content
    telemetry := { context.telemetry rebuilt.harness 0 with
      receiptProjections := 1
      localProjectionUpstreamCallsAvoided := 1 } }

def loopContext (rebuilt : Reconstruction) : LoopContext :=
  { py, settings, prepared, degraded := rebuilt.degraded }

def completeRebuilt (rebuilt : Reconstruction) : Run :=
  match projectLatestIfCurrent py prepared.messages rebuilt with
  | .error error =>
    { outcome := .error (.python error), interventions := some (interventions rebuilt.harness) }
  | .ok (some content) =>
    { outcome := .ok (projectedResult py settings prepared rebuilt content)
      interventions := some (interventions rebuilt.harness) }
  | .ok none =>
    let result := (loopContext py settings prepared rebuilt).policyLoop.run upstream.reply
      settings.maxUpstreamCalls 0 (initialState prepared rebuilt)
    { sent := result.1, outcome := result.2.outcome, interventions := some result.2.snapshot }

def completeWithHarness : Run :=
  match rebuild py prepared with
  | .error raised => { outcome := .error raised }
  | .ok rebuilt => completeRebuilt py settings upstream prepared rebuilt

def complete (options : Options) (payload : JsonObject) : Run :=
  match prepareRequest py settings options upstream.combinedSupported payload.fields with
  | .error raised => { outcome := .error raised }
  | .ok prepared =>
    if options.harnessEnabled then completeWithHarness py settings upstream prepared
    else completeWithoutHarness py settings upstream prepared

end

/-! ## The usual settings and replies -/

def defaultSettings : Settings where
  disjoint := ⟨by decide, by decide, by decide⟩

def functionTool (name : Text) : Value :=
  .obj [("type", .str "function"), ("function", .obj [("name", .str name)])]

/-- A completion whose only message has these fields. -/
def messageReply (message : Object) (valid : (Value.obj message).Valid) : Reply where
  answer := .ok {
    fields := [("choices", .arr [.obj [("message", .obj message)]])]
    valid := by
      simp only [Value.Valid] at valid
      simpa [Value.Valid, Value.ValidFields, Value.ValidItems] using valid }

def contentReply (content : Value) (valid : content.Valid := by decide) : Reply :=
  messageReply [("role", .str "assistant"), ("content", content)] (by
    have different : Text.literal "role" ≠ Text.literal "content" := by decide
    simp [Value.Valid, Value.ValidFields, different, valid])

def callsReply (calls : List Value) (valid : (callsMessage calls).Valid := by decide) : Reply :=
  messageReply [("role", .str "assistant"), ("content", .null), ("tool_calls", .arr calls)] valid

end HarnessProxy.Service

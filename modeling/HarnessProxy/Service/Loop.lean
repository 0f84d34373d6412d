import HarnessProxy.Data.BoundedLoop
import HarnessProxy.Service.Batch
import HarnessProxy.Service.Request

namespace HarnessProxy.Service

open HarnessProxy.Json HarnessProxy.Core HarnessProxy.Data HarnessProxy.Transcript

/-! # The policy loop

`complete` asks the upstream until a response may be released.  The loop is an
instance of a bounded request loop: a request is the payload of one attempt.
-/

/-- Build a fresh payload for one upstream attempt. -/
def outboundPayload (basePayload : Object) (messages : List Value) : Option CapabilityPhase → Object
  | none => basePayload.assign "messages" (.arr messages)
  | some .acquisition => (basePayload.assign "messages" (.arr messages)).pop "response_format"
  | some .finalization =>
    (((basePayload.assign "messages" (.arr messages)).pop "tools").pop "tool_choice").pop
      "parallel_tool_calls"

/-- A payload and the phase under which it is sent. -/
structure Attempt where
  phase : Option CapabilityPhase
  payload : Object

/-- What one upstream call does: it answers with a JSON object or an error, and
it may rewrite the payload objects that it has been handed so far. -/
structure Reply where
  answer : Except ProxyError JsonObject
  rewrite : List Object → List Object := id

structure Telemetry where
  profile : Text
  blockedDuplicates : Nat := 0
  blockedStalls : Nat := 0
  corrections : Nat := 0
  upstreamCalls : Nat
  receiptProjections : Nat := 0
  localProjectionUpstreamCallsAvoided : Nat := 0
  degradedState : Bool := false
  policyExtensionsUsed : Nat := 0

structure ChatResult where
  body : Object
  telemetry : Telemetry

/-- The counters that `_snapshot_timing` copies. -/
structure Interventions where
  corrections : Nat
  blockedDuplicates : Nat
  blockedStalls : Nat
deriving DecidableEq

def interventions (harness : AgentHarness) : Interventions :=
  ⟨harness.terminalCorrections, harness.blockedDuplicates, harness.blockedStalls⟩

/-- How a run ends, with the last snapshot of the counters. -/
structure Stopped where
  outcome : Except Raised ChatResult
  snapshot : Interventions

def upstreamFailure (code : Text) : Raised :=
  proxyError 502 code "The configured upstream returned an unusable response."

def retryExhausted : Raised :=
  proxyError 502 "harness_retry_exhausted"
    "The harness could not obtain a safe response within configured bounds."

/-! ## Responses -/

/-- `_response_message`: the only choice and its message. -/
def responseMessage? (response : Object) : Option (Object × Object) :=
  match response.get? "choices" with
  | some (.arr [.obj choice]) => match Object.get? choice "message" with
    | some (.obj message) => some (choice, message)
    | _ => none
  | _ => none

/-- The response after `message["content"] = text`. -/
def withContent (response choice message : Object) (text : Text) : Object :=
  response.assign "choices"
    (.arr [.obj (choice.assign "message" (.obj (message.assign "content" (.str text))))])

def localProjectionExtension : Text := "x-shiftedx-projection-v1"

/-- Reserve the proxy-owned marker so an upstream cannot spoof it. -/
def withoutReservedProjectionMarker (response : Object) : Object := response.pop localProjectionExtension

/-- The text that is validated in place of a content. -/
def validatedContent (message : Object) : Text :=
  match message.get? "content" with
  | some (.str text) => text
  | none | some .null => ""
  | some content => dumps false content

/-- `message.get("content") or ""` -/
def contentOrEmpty (message : Object) : Value :=
  match message.get? "content" with
  | some content => if content.truthy then content else .str ""
  | none => .str ""

def assistantTurn (message : Object) (calls : List Value) : Value :=
  .obj [("role", .str "assistant"), ("content", contentOrEmpty message), ("tool_calls", .arr calls)]

/-- The id under which the result of a withheld call is reported. -/
def withheldCallId (index : Nat) (call : Value) : Text :=
  match call with
  | .obj fields => match Object.get? fields "id" with
    | some (.str callId) => if callId = [] then "shiftedx-invalid-" ++ Text.ofNat index else callId
    | _ => "shiftedx-invalid-" ++ Text.ofNat index
  | _ => "shiftedx-invalid-" ++ Text.ofNat index

def withheldResult : Text :=
  dumps false (.obj [
    ("shiftedx_harness", .str "response_withheld_due_to_blocked_sibling"),
    ("instruction", .str "Reissue this call in a separate safe turn if it is still needed.")])

/-- The tool messages that answer a withheld batch. -/
def withheldMessages (index : Nat) : List Value → List (Option Text) → List Value
  | call :: calls, result :: results =>
    .obj [("role", .str "tool"), ("tool_call_id", .str (withheldCallId index call)),
      ("content", .str (result.getD withheldResult))] :: withheldMessages (index + 1) calls results
  | _, _ => []

/-! ## One round -/

/-- What stays the same in every round. -/
structure LoopContext where
  py : Python
  settings : Settings
  prepared : Prepared
  degraded : Bool

structure LoopState where
  harness : AgentHarness
  workingMessages : List Value
  phase : Option CapabilityPhase
  internalRetries : Nat := 0
  upstreamCalls : Nat := 0
  /-- The payload objects in the hands of the upstream. -/
  handed : List Object := []

namespace LoopContext

variable (context : LoopContext)

/-- `if use_phase_split and harness.force_finalize: phase = "finalization"` -/
def enter (state : LoopState) : LoopState :=
  if context.prepared.usePhaseSplit && state.harness.forceFinalize then
    { state with phase := some .finalization }
  else state

def request (state : LoopState) : Attempt :=
  let payload := outboundPayload context.prepared.forwarded state.workingMessages state.phase
  { phase := state.phase
    payload :=
      if state.harness.forceFinalize && !context.prepared.usePhaseSplit then
        payload.assign "tool_choice" (.str "none")
      else payload }

def telemetry (harness : AgentHarness) (upstreamCalls : Nat) : Telemetry where
  profile := "shiftedx-harness-v1"
  blockedDuplicates := harness.blockedDuplicates
  blockedStalls := harness.blockedStalls
  corrections := harness.terminalCorrections
  upstreamCalls := upstreamCalls
  degradedState := context.degraded
  policyExtensionsUsed := context.prepared.policyExtensionUsed.toNat

def release (state : LoopState) (response : Object) : Stopped where
  outcome := .ok ⟨withoutReservedProjectionMarker response,
    context.telemetry state.harness state.upstreamCalls⟩
  snapshot := interventions state.harness

def raise (state : LoopState) (raised : Raised) : Stopped := ⟨.error raised, interventions state.harness⟩

/-- The end of a round that needs another attempt, if the budgets allow it. -/
def retry (state : LoopState) (newMessages : List Value) : LoopState :=
  { state with
    internalRetries := state.internalRetries + 1
    workingMessages := state.workingMessages ++ newMessages }

/-- `harness.terminal_corrections >= 2 or internal_retries >= max_internal_retries` -/
def correctionsSpent (state : LoopState) : Bool :=
  2 ≤ state.harness.terminalCorrections ||
    context.settings.maxInternalRetries ≤ state.internalRetries

/-- Correct the model, after the assistant turn that needs it. -/
def correct (state : LoopState) (turn : List Value) (issue : Text) : Verdict LoopState Stopped :=
  if context.correctionsSpent state then .stop (raise state retryExhausted)
  else
    let (correction, harness) := state.harness.correction issue
    .again (retry { state with harness } (turn ++ [userMessage correction]))

/-- The branch of a response with tool calls. -/
def reactCalls (state : LoopState) (response message : Object) (calls : List Value) :
    Verdict LoopState Stopped :=
  if state.phase = some .finalization then
    context.correct state [] "The finalization response cannot contain tool calls."
  else match rejectedResults context.py context.settings.deniedTools state.harness calls with
    | .error error => .stop (raise state (.python error))
    | .ok (results, harness) =>
      let judged := { state with harness }
      if !results.any Option.isSome then .stop (context.release judged response)
      else if context.settings.maxInternalRetries ≤ state.internalRetries then
        .stop (raise judged retryExhausted)
      else .again (retry judged (assistantTurn message calls :: withheldMessages 0 calls results))

/-- The branch of a response without tool calls. -/
def reactContent (state : LoopState) (response choice message : Object) : Verdict LoopState Stopped :=
  match normalizeBareJson context.py (validatedContent message) with
  | .error error => .stop (raise state (.python error))
  | .ok (content, changed) =>
    match state.harness.terminalIssue context.py content with
    | .error error => .stop (raise state (.python error))
    | .ok none =>
      .stop (context.release state (if changed then withContent response choice message content else response))
    | .ok (some issue) =>
      context.correct state [.obj [("role", .str "assistant"), ("content", .str content)]] issue

/-- The round after the upstream has answered. -/
def reactResponse (state : LoopState) (response : Object) : Verdict LoopState Stopped :=
  match responseMessage? response with
  | none => .stop (raise state (upstreamFailure "upstream_malformed_completion"))
  | some (choice, message) => match toolCalls message with
    | .arr [] => context.reactContent state response choice message
    | .arr calls => context.reactCalls state response message calls
    | _ => .stop (raise state (upstreamFailure "upstream_malformed_tool_calls"))

/-- The state when the upstream has been handed a payload. -/
def answered (state : LoopState) (reply : Reply) : LoopState :=
  { state with
    upstreamCalls := state.upstreamCalls + 1
    handed := reply.rewrite (state.handed ++ [(context.request state).payload]) }

def react (state : LoopState) (reply : Reply) : Verdict LoopState Stopped :=
  match reply.answer with
  | .error error => .stop (raise state (.proxy error))
  | .ok response => context.reactResponse (context.answered state reply) response.fields

/-- `while upstream_calls < self.settings.max_upstream_calls` -/
def policyLoop : BoundedLoop LoopState Attempt Reply Stopped where
  enter := context.enter
  request := context.request
  react := context.react
  exhausted := fun state => raise state retryExhausted

end LoopContext

/-! ## Where the loop starts -/

def harnessSystemSuffix : Text :=
  "\n\nMaintain receipt-grounded work state. After failure, change the action or arguments. Never " ++
  "repeat an identical call in an unchanged state epoch. Successful reads do not resolve failed " ++
  "checks. Verify after mutation. Only downstream-visible assistant tool-call IDs paired with " ++
  "client-supplied role=tool results count as executed. A shiftedx_harness blocked result is a " ++
  "proxy decision, not a client execution. Trust structured status over incidental words. Return " ++
  "the exact requested format without fences."

/-- `needle in text` -/
def isInfix (needle text : Text) : Bool :=
  text.tails.any fun rest => needle.isPrefixOf rest

/-- Extend the first system message with string content; `none` if there is none. -/
def extendSystem : List Value → Option (List Value)
  | [] => none
  | message :: rest => match message with
    | .obj fields => match Object.get? fields "role", Object.get? fields "content" with
      | some (.str role), some (.str content) =>
        if role = ("system" : Text) then
          some (.obj (if isInfix harnessSystemSuffix content then fields
            else Object.assign fields "content" (.str (content ++ harnessSystemSuffix))) :: rest)
        else (extendSystem rest).map (message :: ·)
      | _, _ => (extendSystem rest).map (message :: ·)
    | _ => (extendSystem rest).map (message :: ·)

def degradedNotice : Text :=
  " Transcript state is degraded due to incomplete or invalid call/result pairing."

/-- `_inject_harness` -/
def injectHarness (messages : List Value) (rebuilt : Reconstruction) : List Value :=
  let extended := (extendSystem messages).getD
    (.obj [("role", .str "system"), ("content", .str (Text.strip harnessSystemSuffix))] :: messages)
  let state := rebuilt.harness.render ++ if rebuilt.degraded then degradedNotice else []
  extended ++ [userMessage state]

/-- The test for starting in the finalization phase. -/
def safeNone (prepared : Prepared) (rebuilt : Reconstruction) : Bool :=
  prepared.usePhaseSplit && prepared.forwarded.get? "tool_choice" = some (.str "none") &&
    rebuilt.harness.receipts.getLast?.map Receipt.status = some .success && !rebuilt.degraded &&
    !rebuilt.harness.pendingVerification && !rebuilt.harness.hasOpenFailures &&
    !rebuilt.harness.lastActionBlocked

def initialPhase (prepared : Prepared) (rebuilt : Reconstruction) : Option CapabilityPhase :=
  if safeNone prepared rebuilt then some .finalization
  else if prepared.usePhaseSplit then some .acquisition
  else none

def initialState (prepared : Prepared) (rebuilt : Reconstruction) : LoopState where
  harness := rebuilt.harness
  workingMessages := injectHarness prepared.messages rebuilt
  phase := initialPhase prepared rebuilt

end HarnessProxy.Service

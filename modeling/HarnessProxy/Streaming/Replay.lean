import HarnessProxy.Json.Unicode
import HarnessProxy.Python.Bytes
import HarnessProxy.Service.Validation

namespace HarnessProxy.Streaming

open HarnessProxy.Json HarnessProxy.Service

/-! # Validate, then replay

A request with `stream` runs as a buffered request.  Its completion is replayed
as server-sent events, two for each choice.
-/

structure ReplayOptions where
  includeUsage : Bool := false
deriving DecidableEq

def invalidStreamOptions (message : Text) : ProxyError := ⟨400, "invalid_stream_options", message⟩

/-- Consume the streaming controls of the client. -/
def prepareReplayRequest (payload : JsonObject) : Except ProxyError (JsonObject × Option ReplayOptions) :=
  if payload.fields.get? "stream" = some (.bool true) then
    match (payload.fields.get? "stream_options").getD (.obj []) with
    | .obj options => match (Object.get? options "include_usage").getD (.bool false) with
      | .bool includeUsage => .ok ((payload.pop "stream").pop "stream_options", some { includeUsage })
      | _ => .error (invalidStreamOptions
          "stream_options.include_usage must be a JSON boolean when present.")
    | _ => .error (invalidStreamOptions "stream_options must be an object when present.")
  else .ok (payload, none)

def malformedCompletion : Raised :=
  proxyError 502 "upstream_malformed_completion" "The upstream completion is malformed."

def responseTooLarge : Raised :=
  proxyError 502 "upstream_response_too_large"
    "The upstream response exceeds the configured response size limit."

/-- `completion.get(key)` as it stands in an event. -/
def valueOf (completion : Object) (key : Text) : Value := (completion.get? key).getD .null

/-- The fields that an event copies if the completion has them. -/
def copiedKeys : List Text := ["created", "system_fingerprint", "service_tier", "x-shiftedx-projection-v1"]

/-- `_chunk_base` -/
def chunkBase (completion : Object) : Object :=
  let copied : Object := copiedKeys.filterMap fun key => (completion.get? key).map fun value => (key, value)
  ("id", valueOf completion "id") :: ("object", .str "chat.completion.chunk") ::
    ("model", valueOf completion "model") :: copied

/-- `_chunk` -/
def chunk (completion : Object) (index : Int) (delta : Object) (finishReason : Value) : Object :=
  (chunkBase completion).assign "choices" (.arr [.obj [("index", .int index), ("delta", .obj delta),
    ("finish_reason", finishReason)]])

/-- `{"index": index, **call}` -/
def indexedCall (index : Nat) (call : Object) : Object :=
  call.foldl (fun fields field => Object.assign fields field.1 field.2) [("index", .int index)]

/-- `enumerate` over the tool calls. -/
def indexedCalls (index : Nat) : List Object → List Value
  | [] => []
  | call :: rest => .obj (indexedCall index call) :: indexedCalls (index + 1) rest

/-- The fields of a message that are copied as they are. -/
def plainDelta (message : Object) : Object :=
  message.filter fun field => field.1 ≠ ("refusal" : Text) && field.1 ≠ ("tool_calls" : Text) &&
    field.2 ≠ .null

/-- `isinstance(calls, list) and all(isinstance(call, dict) for call in calls)` -/
def objects? (calls : Value) : Option (List Object) := calls.asList?.bind fun items => items.mapM Value.asObject?

/-- A field that is neither absent nor null. -/
def present? (message : Object) (key : Text) : Option Value :=
  match message.get? key with
  | none | some .null => none
  | some value => some value

/-- The delta that carries a whole message. -/
def messageDelta (message : Object) : Except Raised Object := do
  let delta ← match present? message "tool_calls" with
    | none => .ok (plainDelta message)
    | some calls => match objects? calls with
      | some calls => .ok ((plainDelta message).assign "tool_calls" (.arr (indexedCalls 0 calls)))
      | none => .error malformedCompletion
  match present? message "refusal" with
  | none => return delta
  | some refusal => return delta.assign "refusal" refusal

/-- `isinstance(value, str) and value` -/
def nonemptyText? (value : Option Value) : Option Text :=
  match value with
  | some (.str text) => if text = [] then none else some text
  | _ => none

/-- The two events of one choice. -/
def choiceEvents (completion : Object) (choice : Value) : Except Raised (List Object) :=
  match choice with
  | .obj rawChoice => match Object.get? rawChoice "message", Object.get? rawChoice "index",
      nonemptyText? (Object.get? rawChoice "finish_reason") with
    | some (.obj message), some (.int index), some finishReason => do
      let delta ← messageDelta message
      return [chunk completion index delta .null, chunk completion index [] (.str finishReason)]
    | _, _, _ => .error malformedCompletion
  | _ => .error malformedCompletion

def dataPrefix : Text := "data: "

/-- One server-sent event. -/
def frame (body : Text) : Text := dataPrefix ++ body ++ [chr 0x0a, chr 0x0a]

/-- `json.dumps(event, ensure_ascii=False, separators=(",", ":")).encode()` in a
frame. -/
def eventBytes (event : Object) : Except PyError Bytes := do
  let text ← dumpText false (.obj event)
  encode (frame text)

def doneBytes : Bytes := (frame "[DONE]").flatMap encodeChar

/-- `max_bytes is not None and total_bytes > max_bytes` -/
def exceeds (maxBytes : Option Nat) (totalBytes : Nat) : Bool := maxBytes.any (· < totalBytes)

/-- `append` of one event after `totalBytes` bytes. -/
def appendEvent (maxBytes : Option Nat) (totalBytes : Nat) (event : Object) : Except Raised Bytes := do
  let chunk ← uncaught (eventBytes event)
  raiseIf (exceeds maxBytes (totalBytes + chunk.length)) responseTooLarge
  return chunk

def appendEvents (maxBytes : Option Nat) : Nat → List Object → Except Raised (List Bytes)
  | _, [] => .ok []
  | totalBytes, event :: rest => do
    let chunk ← appendEvent maxBytes totalBytes event
    let chunks ← appendEvents maxBytes (totalBytes + chunk.length) rest
    return chunk :: chunks

def totalLength (chunks : List Bytes) : Nat := (chunks.map List.length).sum

/-- The loop over the choices. -/
def appendChoices (completion : Object) (maxBytes : Option Nat) :
    Nat → List Value → Except Raised (List Bytes)
  | _, [] => .ok []
  | totalBytes, choice :: rest => do
    let events ← choiceEvents completion choice
    let chunks ← appendEvents maxBytes totalBytes events
    let others ← appendChoices completion maxBytes (totalBytes + totalLength chunks) rest
    return chunks ++ others

/-- The last event before the end, if the client asked for it. -/
def usageEvents (completion : Object) (options : ReplayOptions) : List Object :=
  match options.includeUsage, completion.get? "usage" with
  | true, some (.obj usage) => [((chunkBase completion).assign "choices" (.arr [])).assign "usage" (.obj usage)]
  | _, _ => []

def replayCompletion (completion : Object) (options : ReplayOptions) (maxBytes : Option Nat) :
    Except Raised (List Bytes) := do
  raiseIf (nonemptyText? (completion.get? "id")).isNone malformedCompletion
  raiseIf (nonemptyText? (completion.get? "model")).isNone malformedCompletion
  match completion.get? "choices" with
  | some (.arr (choice :: rest)) =>
    let chunks ← appendChoices completion maxBytes 0 (choice :: rest)
    let usage ← appendEvents maxBytes (totalLength chunks) (usageEvents completion options)
    raiseIf (exceeds maxBytes (totalLength chunks + totalLength usage + doneBytes.length)) responseTooLarge
    return chunks ++ usage ++ [doneBytes]
  | _ => .error malformedCompletion

end HarnessProxy.Streaming

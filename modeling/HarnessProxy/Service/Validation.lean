import HarnessProxy.Json.Value

namespace HarnessProxy.Service

open HarnessProxy.Json

/-! # Intake validation

The fields of a request that the proxy reads are checked before anything is
sent.  Each check raises the error that the client receives.
-/

structure ProxyError where
  statusCode : Nat
  code : Text
  message : Text
deriving DecidableEq

/-- What a request can end with instead of a result: an error of the proxy, or
an exception of the interpreter that no handler catches. -/
inductive Raised where
  | proxy (error : ProxyError)
  | python (error : PyError)
deriving DecidableEq

/-- An exception of the interpreter that is not caught. -/
def uncaught {α : Type} : Except PyError α → Except Raised α
  | .ok result => .ok result
  | .error error => .error (.python error)

@[simp] theorem uncaught_eq_ok {α : Type} {computed : Except PyError α} {result : α} :
    uncaught computed = .ok result ↔ computed = .ok result := by
  cases computed <;> simp [uncaught]

def proxyError (statusCode : Nat) (code message : Text) : Raised := .proxy ⟨statusCode, code, message⟩

def invalidMessages (message : Text) : Raised := proxyError 400 "invalid_messages" message
def invalidTools (message : Text) : Raised := proxyError 400 "invalid_tools" message
def invalidResponseFormat (message : Text) : Raised := proxyError 400 "invalid_response_format" message

/-- `isinstance(value, str) and value.strip()` -/
def isFilled : Option Value → Bool
  | some (.str text) => !Text.isBlank text
  | _ => false

/-- `isinstance(value, str) and value` -/
def isNonempty : Option Value → Bool
  | some (.str text) => text ≠ []
  | _ => false

def isString (value : Option Value) : Bool := value matches some (.str _)
def isTextOrParts (content : Value) : Bool := content matches .str _ | .arr _

/-! ## Messages -/

def isContentPart (part : Value) : Bool :=
  match part with
  | .obj fields => isFilled (Object.get? fields "type")
  | _ => false

/-- `_validate_content_parts` of a content that is a list. -/
def contentPartsAccepted : Value → Bool
  | .arr parts => !parts.isEmpty && parts.all isContentPart
  | _ => true

/-- `_has_usable_assistant_content` -/
def hasUsableAssistantContent : Value → Bool
  | .str text => !Text.isBlank text
  | .arr parts => !parts.isEmpty
  | _ => false

/-- The condition of `_validate_tool_call` on an object. -/
def isCompleteCall (call : Object) : Bool :=
  isNonempty (call.get? "id") && call.get? "type" = some (.str "function") &&
    match call.get? "function" with
    | some (.obj function) => isFilled (Object.get? function "name") &&
        isString (Object.get? function "arguments")
    | _ => false

def validateToolCall (call : Value) : Except Raised Unit :=
  match call with
  | .obj fields => raiseIf (!isCompleteCall fields)
      (invalidMessages "Assistant tool calls must be complete function calls.")
  | _ => .error (invalidMessages "Every tool call must be an object.")

/-- The `tool_calls` of a message with the given role. -/
def validateToolCalls (role : Value) : Option Value → Except Raised Unit
  | none => .ok ()
  | some (.arr calls) => do
    raiseIf (role ≠ .str "assistant")
      (invalidMessages "tool_calls is supported only as an assistant array.")
    forEach validateToolCall calls
  | some _ => .error (invalidMessages "tool_calls is supported only as an assistant array.")

def nonemptyList : Option Value → Bool
  | some (.arr items) => !items.isEmpty
  | _ => false

def messageRoles : List Text := ["system", "user", "assistant", "tool"]

/-- `_validate_message` of an object.  A role that is a list or an object raises. -/
def validateMessageFields (message : Object) : Except Raised Unit := do
  let role := (message.get? "role").getD .null
  let supported ← uncaught (role.memberOf messageRoles)
  raiseIf (!supported) (invalidMessages "Every message role must be supported by v1.")
  let content := (message.get? "content").getD .null
  let isAssistant := role = .str "assistant"
  raiseIf (!isAssistant && !message.has "content")
    (invalidMessages "System, user, and tool messages require content.")
  raiseIf (!isAssistant && !isTextOrParts content)
    (invalidMessages "Message content must be a string or content-part array.")
  raiseIf (isAssistant && content ≠ .null && !isTextOrParts content)
    (invalidMessages "Assistant content must be a string, content-part array, or null.")
  raiseIf (!contentPartsAccepted content)
    (invalidMessages "Content-part arrays must contain objects with non-empty string types.")
  raiseIf (message.has "name" && !isFilled (message.get? "name"))
    (invalidMessages "Message name must be a non-empty string when present.")
  raiseIf (role = .str "tool" && !isNonempty (message.get? "tool_call_id"))
    (invalidMessages "Tool messages require a non-empty tool_call_id.")
  validateToolCalls role (message.get? "tool_calls")
  raiseIf (isAssistant && !hasUsableAssistantContent content && !nonemptyList (message.get? "tool_calls"))
    (invalidMessages "Assistant messages require content or a non-empty valid tool_calls array.")

def validateMessage (message : Value) : Except Raised Unit :=
  match message with
  | .obj fields => validateMessageFields fields
  | _ => .error (invalidMessages "Every message must be an object.")

/-! ## Tools and response formats -/

/-- The condition of `_validate_tool_schemas` on one tool. -/
def isToolSchema (tool : Value) : Bool :=
  match tool with
  | .obj fields => Object.get? fields "type" = some (.str "function") &&
      match Object.get? fields "function" with
      | some (.obj function) => isFilled (Object.get? function "name") &&
          match Object.get? function "parameters" with
          | none | some (.obj _) => true
          | some _ => false
      | _ => false
  | _ => false

def validateToolSchemas (tools : Value) : Except Raised Unit :=
  match tools with
  | .arr tools => raiseIf (!tools.all isToolSchema)
      (invalidTools "Every tool must be a function schema with function.name.")
  | _ => .error (invalidTools "tools must be an array.")

/-- The checks on a `json_schema` response format. -/
def validateJsonSchema (format : Object) : Except Raised Unit :=
  match format.get? "json_schema" with
  | some (.obj wrapper) => match Object.get? wrapper "schema" with
    | some (.obj schema) =>
      raiseIf (Object.get? schema "type" = some (.str "object") && Object.has schema "properties" &&
          !(Object.get? schema "properties" matches some (.obj _)))
        (invalidResponseFormat "json_schema object properties must be an object when present.")
    | _ => .error (invalidResponseFormat "json_schema response_format requires an object schema.")
  | _ => .error (invalidResponseFormat "json_schema response_format requires an object wrapper.")

def validateResponseFormat (responseFormat : Value) : Except Raised Unit :=
  match responseFormat with
  | .obj format => do
    raiseIf (!isFilled (Object.get? format "type"))
      (invalidResponseFormat "response_format.type must be a non-empty string.")
    if Object.get? format "type" = some (.str "json_schema") then validateJsonSchema format
  | _ => .error (invalidResponseFormat "response_format must be an object.")

def validateMessages : Option Value → Except Raised Unit
  | some (.arr messages) => forEach validateMessage messages
  | _ => .error (invalidMessages "messages must be an array.")

/-- `if key in payload: check(payload[key])` -/
def validatePresent (check : Value → Except Raised Unit) : Option Value → Except Raised Unit
  | some value => check value
  | none => .ok ()

/-- Validate proxy-consumed Chat Completions fields before any upstream call. -/
def validateChatPayload (payload : Object) (harnessEnabled : Bool) : Except Raised Unit := do
  raiseIf (!isFilled (payload.get? "model"))
    (proxyError 400 "invalid_model" "model must be a non-empty string.")
  validateMessages (payload.get? "messages")
  raiseIf (payload.has "stream" && !(payload.get? "stream" matches some (.bool _)))
    (proxyError 400 "invalid_stream" "stream must be a JSON boolean.")
  raiseIf (harnessEnabled && payload.has "n" && payload.get? "n" ≠ some (.int 1))
    (proxyError 400 "multiple_choices_not_supported" "Harness mode requires n=1.")
  validatePresent validateToolSchemas (payload.get? "tools")
  validatePresent validateResponseFormat (payload.get? "response_format")

end HarnessProxy.Service

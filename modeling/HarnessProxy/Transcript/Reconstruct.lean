import HarnessProxy.Core.PolicyState
import HarnessProxy.Transcript.Tools

namespace HarnessProxy.Transcript

open HarnessProxy.Json HarnessProxy.Core

/-! # Rebuilding the policy state from the visible messages

The proxy keeps nothing between requests.  It pairs the tool results of a
transcript with earlier calls and records every pair on a fresh harness.
-/

/-- `_arguments`, with `none` for the errors, which are all caught. -/
def callArguments (py : Python) (call : Object) : Option Object :=
  match call.get? "function" with
  | some (.obj function) => match (Object.get? function "arguments").getD (.obj []) with
    | .str text => match loads py text with
      | .ok (.obj arguments) => some arguments
      | _ => none
    | .obj arguments => some arguments
    | _ => none
  | _ => none

/-- `_content_text` -/
def contentText : Value → Text
  | .str text => text
  | content => dumps false content

/-- `message.get("content", "")` as text. -/
def messageText (message : Object) : Text := contentText ((message.get? "content").getD (.str ""))

/-- `message.get("tool_calls") or []` -/
def toolCalls (message : Object) : Value :=
  match message.get? "tool_calls" with
  | some calls => if calls.truthy then calls else .arr []
  | none => .arr []

def hasRole (message : Object) (role : Text) : Bool := message.get? "role" = some (.str role)

/-- The text of the last user message. -/
def goalOf (messages : List Value) : Text :=
  (((messages.filterMap Value.asObject?).filter fun message => hasRole message "user").getLast?.map
    messageText).getD ""

/-- The non-empty `id` and the `function.name` of a call, if it has both. -/
def callHead? (call : Object) : Option (Text × Text) :=
  match call.get? "id", call.get? "function" with
  | some (.str id), some (.obj function) => match Object.get? function "name" with
    | some (.str name) => if id = [] then none else some (id, name)
    | _ => none
  | _, _ => none

/-- The variables of the loop of `reconstruct`. -/
structure ReadState where
  harness : AgentHarness
  pending : AList (fun _ : Text => Text × Object) := ∅
  warnings : List Text := []
  /-- `latest_tool` and `latest_result`, which are always set together. -/
  latest : Option (Text × Text) := none

namespace ReadState

def warn (state : ReadState) (warning : Text) : ReadState :=
  { state with warnings := state.warnings ++ [warning] }

variable (py : Python) (state : ReadState)

def readCall (call : Value) : ReadState :=
  match call with
  | .obj fields => match callHead? fields with
    | none => state.warn "invalid_tool_call"
    | some (callId, name) =>
      if callId ∈ state.pending then state.warn "duplicate_tool_call_id"
      else match callArguments py fields with
        | none => state.warn "invalid_tool_arguments"
        | some arguments => { state with pending := state.pending.insert callId (name, arguments) }
  | _ => state.warn "invalid_tool_call"

def readResult (message : Object) : Except PyError ReadState :=
  match message.get? "tool_call_id" with
  | some (.str callId) => match state.pending.lookup callId with
    | none => .ok (state.warn "orphan_tool_result")
    | some (name, arguments) => do
      let result := messageText message
      let harness ← state.harness.record py name arguments result
      return { state with
        harness
        pending := state.pending.erase callId
        latest := some (name, result) }
  | _ => .ok (state.warn "orphan_tool_result")

def readMessage (message : Value) : Except PyError ReadState :=
  match message with
  | .obj fields =>
    if hasRole fields "assistant" then match toolCalls fields with
      | .arr calls => .ok (calls.foldl (readCall py) state)
      | _ => .ok (state.warn "invalid_tool_calls")
    else if hasRole fields "tool" then state.readResult py fields
    else .ok state
  | _ => .ok (state.warn "non_object_message")

def readMessages : ReadState → List Value → Except PyError ReadState
  | state, [] => .ok state
  | state, message :: rest => do
    let next ← state.readMessage py message
    readMessages next rest

end ReadState

structure Reconstruction where
  harness : AgentHarness
  degraded : Bool
  warnings : List Text
  latest : Option (Text × Text)

/-- The harness that reading starts from. -/
def freshHarness (messages : List Value) (availableTools : List Text) (roles : ToolRoles)
    (contract : SchemaContract) (requireReceipt : Bool) : AgentHarness :=
  .fresh (goalOf messages) availableTools contract.keys contract.types
    contract.enforceFailedExecutionClaim requireReceipt roles

/-- What `reconstruct` returns after the last message. -/
def ReadState.finish (state : ReadState) : Reconstruction :=
  let warnings := if state.pending.entries.isEmpty then state.warnings
    else state.warnings ++ [("unmatched_tool_call" : Text)]
  { harness := state.harness
    degraded := !warnings.isEmpty
    warnings := warnings.eraseDups
    latest := state.latest }

/-- Rebuild receipt state only from call ids paired with later visible tool
messages. -/
def reconstruct (py : Python) (messages : Value) (availableTools : List Text) (roles : ToolRoles)
    (contract : SchemaContract) (requireReceipt : Bool) : Except PyError Reconstruction :=
  match messages with
  | .arr messages => do
    let harness := freshHarness messages availableTools roles contract requireReceipt
    let state ← ReadState.readMessages py { harness } messages
    return state.finish
  | _ => .error (.valueError "messages must be an array")

/-! ## The usual shapes of messages -/

def functionCall (callId name arguments : Text) : Value :=
  .obj [("id", .str callId), ("type", .str "function"),
    ("function", .obj [("name", .str name), ("arguments", .str arguments)])]

def callsMessage (calls : List Value) : Value :=
  .obj [("role", .str "assistant"), ("content", .null), ("tool_calls", .arr calls)]

def toolMessage (callId content : Text) : Value :=
  .obj [("role", .str "tool"), ("tool_call_id", .str callId), ("content", .str content)]

def userMessage (content : Text) : Value := .obj [("role", .str "user"), ("content", .str content)]

/-! ## Reading in parts -/

section
variable {py : Python} {state final : ReadState}

theorem readMessages_append {first second : List Value} :
    state.readMessages py (first ++ second) = .ok final ↔
      ∃ middle, state.readMessages py first = .ok middle ∧ middle.readMessages py second = .ok final := by
  induction first generalizing state with
  | nil => simp [ReadState.readMessages]
  | cons message rest ih =>
      simp only [List.cons_append, ReadState.readMessages, bind_eq_ok, ih]
      constructor
      · rintro ⟨next, read, middle, others, last⟩
        exact ⟨middle, ⟨next, read, others⟩, last⟩
      · rintro ⟨middle, ⟨next, read, others⟩, last⟩
        exact ⟨next, read, middle, others, last⟩

theorem readCalls_harness (calls : List Value) :
    (calls.foldl (ReadState.readCall py) state).harness = state.harness := by
  induction calls generalizing state with
  | nil => rfl
  | cons call rest ih =>
      rw [List.foldl_cons, ih]
      unfold ReadState.readCall
      split
      · split
        · rfl
        · split
          · rfl
          · split <;> rfl
      · rfl

/-- Reading changes the harness by recording results, and in no other way. -/
theorem readMessages_recordAll {messages : List Value}
    (read : state.readMessages py messages = .ok final) :
    ∃ results, recordAll py state.harness results = .ok final.harness := by
  induction messages generalizing state with
  | nil =>
      cases read
      exact ⟨[], rfl⟩
  | cons message rest ih =>
      simp only [ReadState.readMessages, bind_eq_ok] at read
      obtain ⟨next, first, others⟩ := read
      obtain ⟨results, recorded⟩ := ih others
      suffices head : ∃ earlier, recordAll py state.harness earlier = .ok next.harness by
        obtain ⟨earlier, recordedEarlier⟩ := head
        exact ⟨earlier ++ results, recordAll_append.mpr ⟨_, recordedEarlier, recorded⟩⟩
      have unchanged (same : next.harness = state.harness) :
          ∃ earlier, recordAll py state.harness earlier = .ok next.harness := ⟨[], by rw [same]; rfl⟩
      simp only [ReadState.readMessage] at first
      split at first
      · split at first
        · split at first
          · cases first
            exact unchanged (readCalls_harness _)
          · cases first
            exact unchanged rfl
        · split at first
          · simp only [ReadState.readResult] at first
            split at first
            · split at first
              · cases first
                exact unchanged rfl
              · next name arguments _ =>
                simp only [bind_eq_ok, pure, Except.pure, Except.ok.injEq] at first
                obtain ⟨harness, record, rfl⟩ := first
                exact ⟨[⟨name, arguments, _⟩], recordAll_singleton.mpr record⟩
            · cases first
              exact unchanged rfl
          · cases first
            exact unchanged rfl
      · cases first
        exact unchanged rfl

/-- The state with the configuration of another request. -/
def ReadState.reconfigure (other : AgentHarness) (state : ReadState) : ReadState :=
  { state with harness := Core.reconfigure other state.harness }

theorem readCalls_reconfigure (other : AgentHarness) (calls : List Value) :
    calls.foldl (ReadState.readCall py) (state.reconfigure other) =
      (calls.foldl (ReadState.readCall py) state).reconfigure other := by
  induction calls generalizing state with
  | nil => rfl
  | cons call rest ih =>
      suffices step : (state.reconfigure other).readCall py call = (state.readCall py call).reconfigure other by
        rw [List.foldl_cons, step, ih, List.foldl_cons]
      unfold ReadState.readCall
      split
      · next fields =>
        cases callHead? fields with
        | none => rfl
        | some head =>
            by_cases waits : head.1 ∈ state.pending
            · simp [ReadState.reconfigure, ReadState.warn, waits]
            · cases callArguments py fields <;> simp [ReadState.reconfigure, ReadState.warn, waits]
      · rfl

theorem readMessage_reconfigure (other : AgentHarness) (message : Value) :
    (state.reconfigure other).readMessage py message =
      (state.readMessage py message).map (ReadState.reconfigure other) := by
  unfold ReadState.readMessage
  split
  · next fields =>
    by_cases assistant : hasRole fields "assistant" = true
    · simp only [assistant, if_true]
      split
      · rw [readCalls_reconfigure]
        rfl
      · rfl
    · by_cases tool : hasRole fields "tool" = true
      · simp only [assistant, tool, Bool.false_eq_true, if_true, if_false, ReadState.readResult]
        split
        · next callId _ =>
          change (match state.pending.lookup callId with | none => _ | some (name, arguments) => _) = _
          cases state.pending.lookup callId with
          | none => rfl
          | some waiting =>
              simp only [ReadState.reconfigure, record_reconfigure]
              cases state.harness.record py waiting.1 waiting.2 (messageText fields) <;> rfl
        · rfl
      · simp only [assistant, tool, Bool.false_eq_true, if_false]
        rfl
  · rfl

/-- Reading the same messages for another request with the same roles records
the same receipts. -/
theorem readMessages_reconfigure (other : AgentHarness) {messages : List Value} :
    (state.reconfigure other).readMessages py messages =
      (state.readMessages py messages).map (ReadState.reconfigure other) := by
  induction messages generalizing state with
  | nil => rfl
  | cons message rest ih =>
      simp only [ReadState.readMessages, readMessage_reconfigure]
      cases state.readMessage py message with
      | error e => rfl
      | ok next => exact ih

/-- Two fresh harnesses with the same roles read the same ledger. -/
theorem readMessages_congr {base start : AgentHarness} {messages : List Value} (freshBase : configured base = base)
    (fresh : configured start = start) (sameRoles : start.roles = base.roles)
    (read : ReadState.readMessages py { harness := base } messages = .ok final) :
    ReadState.readMessages py { harness := start } messages = .ok (final.reconfigure start) := by
  have shape : start = Core.reconfigure start base := by
    conv_lhs => rw [← fresh]
    rw [← freshBase, configured, sameRoles]
    rfl
  have same : ({ harness := start } : ReadState) = ReadState.reconfigure start { harness := base } := by
    conv_lhs => rw [shape]
    rfl
  rw [same, readMessages_reconfigure, read]
  rfl

theorem reconstruct_eq_ok {messages : List Value} {availableTools : List Text} {roles : ToolRoles}
    {contract : SchemaContract} {requireReceipt : Bool} {rebuilt : Reconstruction} :
    reconstruct py (.arr messages) availableTools roles contract requireReceipt = .ok rebuilt ↔
      ∃ final, ReadState.readMessages py
          { harness := freshHarness messages availableTools roles contract requireReceipt } messages =
          .ok final ∧ final.finish = rebuilt := by
  simp [reconstruct, bind_eq_ok, pure, Except.pure]

theorem readMessages_meaning {start : AgentHarness} {roles : ToolRoles} {messages : List Value}
    (fresh : configured start = start) (sameRoles : start.roles = roles)
    (read : ReadState.readMessages py { harness := start } messages = .ok final) :
    PolicyMeaning roles final.harness := by
  obtain ⟨calls, recorded⟩ := readMessages_recordAll read
  refine (recordAll_meaning ?_ recorded).1
  rw [← fresh, ← sameRoles]
  exact fresh_meaning ..

/-- Every rebuilt harness has the meaning that its receipts give it. -/
theorem reconstruct_meaning {messages : Value} {availableTools : List Text} {roles : ToolRoles}
    {contract : SchemaContract} {requireReceipt : Bool} {rebuilt : Reconstruction}
    (ran : reconstruct py messages availableTools roles contract requireReceipt = .ok rebuilt) :
    PolicyMeaning roles rebuilt.harness := by
  cases messages with
  | arr messages =>
      obtain ⟨final, read, rfl⟩ := reconstruct_eq_ok.mp ran
      exact readMessages_meaning rfl rfl read
  | _ => cases ran

/-- The constructor arguments of a rebuilt harness. -/
theorem reconstruct_configured {messages : List Value} {availableTools : List Text} {roles : ToolRoles}
    {contract : SchemaContract} {requireReceipt : Bool} {rebuilt : Reconstruction}
    (ran : reconstruct py (.arr messages) availableTools roles contract requireReceipt = .ok rebuilt) :
    configured rebuilt.harness = freshHarness messages availableTools roles contract requireReceipt := by
  obtain ⟨final, read, rfl⟩ := reconstruct_eq_ok.mp ran
  obtain ⟨results, recorded⟩ := readMessages_recordAll read
  exact recordAll_configured recorded

theorem finish_degraded_eq_false : final.finish.degraded = false ↔
    final.warnings = [] ∧ final.pending.entries = [] := by
  simp only [ReadState.finish]
  split <;> rename_i empty <;> simp_all

end

end HarnessProxy.Transcript

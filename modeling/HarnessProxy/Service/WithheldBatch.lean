import HarnessProxy.Service.Release
import HarnessProxy.Transcript.Turn

namespace HarnessProxy.Service

open HarnessProxy.Json HarnessProxy.Core HarnessProxy.Data HarnessProxy.Transcript

/-! # The gate for batches

A batch of calls reaches the client whole or not at all.  A batch that does is
the one in the last response, and each of its calls is permitted.
-/

/-- What is known of every call that is released. -/
structure Permitted (py : Python) (deniedTools : List Text) (prepared : Prepared) (harness : AgentHarness)
    (call : Value) (name : Text) (arguments : Object) : Prop where
  decoded : DecodedCall py call name arguments
  allowed : name ∉ deniedTools
  /-- No receipt of the current epoch was left by a call that is equal up to the
  order of keys. -/
  changed : ∀ receipt ∈ harness.receipts, receipt.epoch = harness.epoch → ∀ earlier,
    ReceiptOf py earlier receipt → ¬ (earlier.name = name ∧ Same (.obj arguments) (.obj earlier.arguments))
  continues : ¬ InvestigationStall (Receipt.RestartsCount prepared.roles) prepared.roles
    prepared.availableTools harness.receipts name

section
variable {py : Python} {deniedTools : List Text} {prepared : Prepared} {harness : AgentHarness}

theorem callArguments_valid {call arguments : Object} (valid : (Value.obj call).Valid)
    (decoded : callArguments py call = some arguments) : (Value.obj arguments).Valid := by
  simp only [callArguments] at decoded
  split at decoded
  · next function found =>
    have functionValid := Object.valid_of_get? valid found
    split at decoded
    · split at decoded
      · next parsed =>
        cases decoded
        exact loads_valid parsed
      · cases decoded
    · next given shape =>
      cases decoded
      cases present : Object.get? function "arguments" with
      | none =>
          rw [present] at shape
          cases shape
          exact ⟨List.nodup_nil, trivial⟩
      | some value =>
          rw [present] at shape
          cases shape
          exact Object.valid_of_get? functionValid present
    · cases decoded
  · cases decoded

theorem decodedCall_valid {call : Value} {name : Text} {arguments : Object}
    (decoded : DecodedCall py call name arguments) (valid : call.Valid) : (Value.obj arguments).Valid := by
  obtain ⟨_, _, rfl, _, _, decodes⟩ := decoded
  exact callArguments_valid valid decodes

theorem duplicate_eq_none {name : Text} {arguments : Object}
    (fresh : harness.duplicate py name arguments = .ok none) :
    ∃ signature, canonicalSignature py name arguments = .ok signature ∧
      ∀ receipt ∈ harness.receipts, receipt.epoch = harness.epoch → receipt.signature ≠ signature := by
  simp only [AgentHarness.duplicate, bind_eq_ok, pure, Except.pure, Except.ok.injEq] at fresh
  obtain ⟨signature, signed, none⟩ := fresh
  refine ⟨signature, signed, fun receipt member current same => ?_⟩
  have differs := List.find?_eq_none.mp none receipt (List.mem_reverse.mpr member)
  simp [current, same] at differs

/-- What the checks have established of a call that is not refused. -/
structure AcceptedCall (py : Python) (deniedTools : List Text) (harness : AgentHarness) (call : Value) (name : Text)
    (arguments : Object) (signature : Text) : Prop where
  decoded : DecodedCall py call name arguments
  allowed : name ∉ deniedTools
  continues : harness.stalls name = false
  signed : canonicalSignature py name arguments = .ok signature
  differs : ∀ receipt ∈ harness.receipts, receipt.epoch = harness.epoch → receipt.signature ≠ signature

theorem judgeCall_accepted {call : Value} (judged : judgeCall py deniedTools harness call = .ok none) :
    ∃ name arguments signature, AcceptedCall py deniedTools harness call name arguments signature := by
  obtain ⟨fields, name, arguments, rfl, decodes, allowed, continues, fresh⟩ := judgeCall_eq_none.mp judged
  obtain ⟨function, found, named, decoded⟩ := callNameArguments_eq_some.mp decodes
  obtain ⟨signature, signed, differs⟩ := duplicate_eq_none fresh
  exact ⟨name, arguments, signature, ⟨fields, function, rfl, found, named, decoded⟩, allowed, continues, signed,
    differs⟩

/-- The checks on a call permit it, on the meaning of the policy state. -/
theorem permitted_of_judgeCall (meaning : PolicyMeaning prepared.roles harness)
    (offered : harness.availableTools = prepared.availableTools) {call : Value} (valid : call.Valid)
    (judged : judgeCall py deniedTools harness call = .ok none) :
    ∃ name arguments, Permitted py deniedTools prepared harness call name arguments := by
  obtain ⟨name, arguments, signature, accepted⟩ := judgeCall_accepted judged
  refine ⟨name, arguments, accepted.decoded, accepted.allowed, ?_, fun stall => ?_⟩
  · rintro receipt member current earlier left ⟨rfl, same⟩
    -- equal calls have one signature, which no receipt of the epoch has
    refine accepted.differs receipt member current ?_
    have equal := canonicalSignature_same py earlier.name (decodedCall_valid accepted.decoded valid) same
    rw [accepted.signed, left.signature] at equal
    cases equal
    rfl
  · rw [← offered] at stall
    have stalls := (meaning.stalls_iff name).mpr stall
    rw [accepted.continues] at stalls
    cases stalls

theorem responseMessage?_valid {response : JsonObject} {choice message : Object}
    (found : responseMessage? response.fields = some (choice, message)) : (Value.obj message).Valid := by
  simp only [responseMessage?] at found
  split at found
  · next choices =>
    have choiceValid := (Object.valid_of_get? response.valid choices).1
    split at found
    · next inner =>
      cases found
      exact Object.valid_of_get? choiceValid inner
    · cases found
  · cases found

theorem toolCalls_eq {message : Object} {calls : List Value} (nonempty : calls ≠ []) :
    toolCalls message = .arr calls ↔ message.get? "tool_calls" = some (.arr calls) := by
  unfold toolCalls
  split
  · next value found =>
    rw [found, Option.some.injEq]
    split
    · rfl
    · next falsy =>
      constructor
      · intro empty
        cases empty
        exact absurd rfl nonempty
      · rintro rfl
        simp [Value.truthy, nonempty] at falsy
  · next missing =>
    rw [missing]
    constructor
    · intro empty
      cases empty
      exact absurd rfl nonempty
    · intro found
      cases found

end

section
variable {py : Python} {settings : Settings} {upstream : Upstream} {prepared : Prepared}
  {rebuilt : Reconstruction} {run : Run} {body choice message : Object} {calls : List Value}

/-- A released body with calls is the last response, which passed the branch
for calls. -/
theorem Completed.released_batch (completed : Completed py settings upstream prepared rebuilt run body)
    (found : responseMessage? body = some (choice, message)) (batch : toolCalls message = .arr calls)
    (nonempty : calls ≠ []) :
    ∃ attempt response, LastReply upstream run attempt response ∧ attempt.phase ≠ some .finalization ∧
      body = withoutReservedProjectionMarker response.fields ∧
      responseMessage? response.fields = some (choice, message) ∧
      ∀ call ∈ calls, judgeCall py settings.deniedTools rebuilt.harness call = .ok none := by
  have noCalls {content : Text} (other : Object) (without : toolCalls other = .arr [])
      (same : toolCalls message = toolCalls (other.assign "content" (.str content))) : False := by
    have different : Text.literal "tool_calls" ≠ Text.literal "content" := by decide
    rw [batch, toolCalls, Object.get?_assign_ne _ _ _ different] at same
    exact nonempty (by simpa using same.trans without)
  cases completed with
  | projected _ _ shape =>
      rw [shape] at found
      cases found
      cases batch
      exact absurd rfl nonempty
  | replied _ reached last released =>
      refine ⟨_, _, last, ?_⟩
      cases released with
      | calls choices otherBatch _ phase rejected accepted =>
          rw [responseMessage?_withoutMarker, choices] at found
          cases found
          rw [batch] at otherBatch
          cases otherBatch
          have same : ledger _ = ledger rebuilt.harness := entered_ledger reached
          refine ⟨phase, rfl, choices, fun call member => ?_⟩
          rw [← judgeCall_congr same]
          exact rejectedResults_accepted rejected accepted member
      | content choices without =>
          rw [responseMessage?_withoutMarker] at found
          split at found
          · rw [responseMessage?_withContent] at found
            cases found
            exact (noCalls _ without rfl).elim
          · rw [choices] at found
            cases found
            rw [batch] at without
            cases without
            exact absurd rfl nonempty

end

/-- A verification failed, three files were read and one of them was edited. -/
def diagnosedRequest : JsonObject where
  fields := [("model", .str "m"),
    ("messages", .arr [userMessage "fix the tests",
      callsMessage [functionCall "v" "run_tests" "\x7b\x7d"], toolMessage "v" "1 failed",
      callsMessage [functionCall "a" "read_file" "\x7b\"path\":\"a\"\x7d",
        functionCall "b" "read_file" "\x7b\"path\":\"b\"\x7d", functionCall "c" "read_file" "\x7b\"path\":\"c\"\x7d"],
      toolMessage "a" "text", toolMessage "b" "text", toolMessage "c" "text",
      callsMessage [functionCall "e" "edit_file" "\x7b\"path\":\"a\"\x7d"], toolMessage "e" "ok"]),
    ("tools", .arr [functionTool "run_tests", functionTool "read_file", functionTool "edit_file"])]
  valid := by decide

/-- The proposed call. -/
def readsOneMore : Value := functionCall "d" "read_file" "\x7b\"path\":\"d\"\x7d"

/-- The upstream reads one more file. -/
def readingUpstream : Upstream where
  reply _ := callsReply [readsOneMore]

theorem diagnosed_released : ∃ result choice message,
    (complete .reference defaultSettings readingUpstream {} diagnosedRequest).outcome = .ok result ∧
    responseMessage? result.body = some (choice, message) ∧
    message.get? "tool_calls" = some (.arr [readsOneMore]) := by
  have returns : (complete .reference defaultSettings readingUpstream {} diagnosedRequest).outcome.toOption.map
      (fun result => releasedCalls result.body) = some (some [readsOneMore]) := by decide +kernel
  cases completes : (complete .reference defaultSettings readingUpstream {} diagnosedRequest).outcome with
  | error raised =>
      rw [completes] at returns
      cases returns
  | ok result =>
      rw [completes] at returns
      simp only [Except.toOption, Option.map_some, Option.some.injEq] at returns
      obtain ⟨choice, message, found, batch⟩ := releasedCalls_eq_some.mp returns
      exact ⟨result, choice, message, rfl, found, batch⟩

/-- Whether the only failure is the first receipt and three investigations
followed it, whatever else did. -/
def failedFirst (roles : ToolRoles) : List Receipt → Bool
  | [] => false
  | first :: rest => decide (first.IsFailedVerification roles) &&
      rest.all (fun later => later.tool ≠ first.tool && later.status = .success) &&
      3 ≤ rest.countP fun later => decide (later.IsInvestigation roles)

theorem stall_of_failedFirst {roles : ToolRoles} {availableTools : List Text} {receipts : List Receipt}
    {name : Text} (first : failedFirst roles receipts = true) (investigates : name ∈ roles.investigation)
    (repairable : ∃ tool ∈ availableTools, tool ∈ roles.mutation) :
    InvestigationStall (Receipt.IsFailedVerification roles) roles availableTools receipts name := by
  cases receipts with
  | nil => cases first
  | cons failure rest =>
      simp only [failedFirst, Bool.and_eq_true, decide_eq_true_eq, List.all_eq_true] at first
      obtain ⟨⟨failed, others⟩, count⟩ := first
      have noFailure : ∀ later ∈ rest, ¬ later.IsFailedVerification roles := fun later member isFailed => by
        have success := (others later member).2
        rw [isFailed.1] at success
        cases success
      exact ⟨investigates, ⟨failure.tool, failure, failed, [], rest, rfl, rfl,
          fun later member => (others later member).1⟩, repairable,
        [], failure, rest, ⟨rfl, failed, noFailure⟩, count⟩

end HarnessProxy.Service

import HarnessProxy.Data.Correlation
import HarnessProxy.Service.MessageShape

namespace HarnessProxy.Transcript

open HarnessProxy.Json HarnessProxy.Core HarnessProxy.Data HarnessProxy.Data.Correlation
open HarnessProxy.Service

/-! # The paired ledger of a transcript

The calls and results of the messages, in the order in which they stand, are a
log of correlated events.  `reconstruct` reads that log.
-/

/-- A call stands for its name and arguments, a result for its text. -/
abbrev LedgerEvent := Event Text (Text × Object) Text

abbrev LedgerAnswer := Answer Text (Text × Object) Text

/-- A call whose arguments do not decode to an object has no body. -/
def callEvents (py : Python) (call : Value) : List LedgerEvent :=
  match call with
  | .obj fields => match callHead? fields with
    | some (callId, name) =>
      [.call callId ((callArguments py fields).map fun arguments => (name, arguments))]
    | none => []
  | _ => []

def resultEvents (message : Object) : List LedgerEvent :=
  match message.get? "tool_call_id" with
  | some (.str callId) => [.result callId (messageText message)]
  | _ => []

def messageEvents (py : Python) (message : Value) : List LedgerEvent :=
  match message with
  | .obj fields =>
    if hasRole fields "assistant" then match toolCalls fields with
      | .arr calls => calls.flatMap (callEvents py)
      | _ => []
    else if hasRole fields "tool" then resultEvents fields
    else []
  | _ => []

def events (py : Python) (messages : List Value) : List LedgerEvent := messages.flatMap (messageEvents py)

/-- The call of `record` that an answer stands for. -/
def answerResult (answer : LedgerAnswer) : ToolResult :=
  ⟨answer.callBody.1, answer.callBody.2, answer.resultBody⟩

/-- The receipts are the answers of the log in order, each with the name, the
signature and the classification of its call and result. -/
structure PairedLedger (py : Python) (log : List LedgerEvent) (rebuilt : Reconstruction)
    (answers : List LedgerAnswer) : Prop where
  exact : ∀ answer, answer ∈ answers ↔ Answers log answer
  ordered : answers.Pairwise fun earlier later => earlier.result < later.result
  consumedOnce : answers.Pairwise fun earlier later => earlier.call ≠ later.call
  receipts : List.Forall₂ (ReceiptOf py) (answers.map answerResult) rebuilt.harness.receipts
  degraded : rebuilt.degraded = false ↔ Clean log ∧ Answered log

/-! ## The reader of the source simulates the reader of the log -/

/-- The variables of `reconstruct` after the events of a log. -/
structure Tracks (py : Python) (start : AgentHarness) (log : List LedgerEvent) (state : ReadState) :
    Prop where
  pending : ∀ callId, state.pending.lookup callId = ((run log).pending callId).map Prod.snd
  warnings : state.warnings = [] ↔ (run log).clean = true
  recorded : recordAll py start ((run log).answered.map answerResult) = .ok state.harness

section
variable {py : Python} {start : AgentHarness} {log : List LedgerEvent} {state final : ReadState}

/-- A warning is an event that leaves everything but cleanness alone. -/
theorem Tracks.warn {event : LedgerEvent} (tracks : Tracks py start log state) (warning : Text)
    (step : (run log).step event =
      { run log with position := (run log).position + 1, clean := false }) :
    Tracks py start (log ++ [event]) (state.warn warning) := by
  constructor <;> rw [run_concat, step]
  · exact tracks.pending
  · simp [ReadState.warn]
  · exact tracks.recorded

theorem Tracks.readCall (tracks : Tracks py start log state) {call : Value}
    (complete : ∃ callId, CompleteCall call callId) :
    Tracks py start (log ++ callEvents py call) (state.readCall py call) := by
  obtain ⟨callId, complete⟩ := complete
  obtain ⟨fields, name, rfl, head⟩ := complete.head
  simp only [callEvents, ReadState.readCall, head]
  have waits := tracks.pending callId
  cases found : (run log).pending callId with
  | some waiting =>
      rw [found, Option.map_some] at waits
      have member : callId ∈ state.pending := AList.lookup_isSome.mp (by rw [waits]; rfl)
      rw [if_pos member]
      refine tracks.warn _ ?_
      cases callArguments py fields <;> simp [State.step, found]
  | none =>
      rw [found, Option.map_none] at waits
      have absent : callId ∉ state.pending := AList.lookup_eq_none.mp waits
      rw [if_neg absent]
      cases callArguments py fields with
      | none => exact tracks.warn _ rfl
      | some arguments =>
          have step : (run log).step (.call callId (some (name, arguments))) = { run log with
              position := (run log).position + 1
              pending := Function.update (run log).pending callId
                (some ((run log).position, (name, arguments))) } := by
            simp [State.step, found]
          constructor <;> simp only [Option.map_some] <;> rw [run_concat, step]
          · intro other
            by_cases same : other = callId
            · subst same
              simp
            · simp [AList.lookup_insert_ne same, Function.update_of_ne same, tracks.pending]
          · exact tracks.warnings
          · exact tracks.recorded

theorem Tracks.readCalls (tracks : Tracks py start log state) {calls : List Value}
    (complete : ∀ call ∈ calls, ∃ callId, CompleteCall call callId) :
    Tracks py start (log ++ calls.flatMap (callEvents py)) (calls.foldl (ReadState.readCall py) state) := by
  induction calls generalizing state log with
  | nil => simpa using tracks
  | cons call rest ih =>
      rw [List.flatMap_cons, ← List.append_assoc, List.foldl_cons]
      exact ih (tracks.readCall (complete call (by simp))) fun other member => complete other (by simp [member])

theorem Tracks.readResult (tracks : Tracks py start log state) {message : Object} {callId : Text}
    (found : message.get? "tool_call_id" = some (.str callId))
    (read : state.readResult py message = .ok final) :
    Tracks py start (log ++ resultEvents message) final := by
  simp only [resultEvents, ReadState.readResult, found] at read ⊢
  have waits := tracks.pending callId
  cases waiting : (run log).pending callId with
  | none =>
      rw [waiting, Option.map_none] at waits
      simp only [waits] at read
      cases read
      refine tracks.warn _ ?_
      simp [State.step, waiting]
  | some entry =>
      obtain ⟨position, name, arguments⟩ := entry
      rw [waiting, Option.map_some] at waits
      simp only [waits, bind_eq_ok, pure, Except.pure, Except.ok.injEq] at read
      obtain ⟨harness, record, rfl⟩ := read
      have step : (run log).step (.result callId (messageText message)) = { run log with
          position := (run log).position + 1
          pending := Function.update (run log).pending callId none
          answered := (run log).answered ++ [⟨callId, position, (name, arguments),
            (run log).position, messageText message⟩] } := by
        simp [State.step, waiting]
      constructor <;> rw [run_concat, step]
      · intro other
        by_cases same : other = callId
        · subst same
          simp
        · simp [AList.lookup_erase_ne same, Function.update_of_ne same, tracks.pending]
      · exact tracks.warnings
      · rw [List.map_append, recordAll_append]
        exact ⟨_, tracks.recorded, recordAll_singleton.mpr record⟩

/-- Step lemma for one accepted message. -/
theorem Tracks.readMessage (tracks : Tracks py start log state) {message : Value}
    (accepted : validateMessage message = .ok ()) (read : state.readMessage py message = .ok final) :
    Tracks py start (log ++ messageEvents py message) final := by
  obtain ⟨fields, calls, rfl, shape, complete, toolId⟩ := validateMessage_eq_ok accepted
  simp only [messageEvents, ReadState.readMessage, shape] at read ⊢
  by_cases assistant : hasRole fields "assistant" = true
  · rw [if_pos assistant] at read ⊢
    cases read
    exact tracks.readCalls complete
  · rw [if_neg assistant] at read ⊢
    by_cases tool : hasRole fields "tool" = true
    · rw [if_pos tool] at read ⊢
      obtain ⟨callId, found⟩ := toolId tool
      exact tracks.readResult found read
    · rw [if_neg tool] at read ⊢
      cases read
      simpa using tracks

/-- Run lemma, by induction on the messages. -/
theorem Tracks.readMessages (tracks : Tracks py start log state) {messages : List Value}
    (accepted : ∀ message ∈ messages, validateMessage message = .ok ())
    (read : state.readMessages py messages = .ok final) :
    Tracks py start (log ++ events py messages) final := by
  induction messages generalizing state log with
  | nil =>
      cases read
      simpa [events] using tracks
  | cons message rest ih =>
      simp only [ReadState.readMessages, bind_eq_ok] at read
      obtain ⟨next, first, others⟩ := read
      have head := tracks.readMessage (accepted message (by simp)) first
      have tail := ih head (fun other member => accepted other (by simp [member])) others
      simpa [events] using tail

theorem tracks_nil : Tracks py start [] { harness := start } := by
  constructor <;> simp [run, recordAll]

theorem Tracks.pending_empty_iff (tracks : Tracks py start log state) : state.pending.entries = [] ↔
    ∀ callId call body, ¬ Awaiting log callId log.length call body := by
  have correct := run_correct log
  constructor
  · intro empty callId call body waiting
    have found := tracks.pending callId
    rw [(correct.pending callId call body).mpr waiting] at found
    have member := AList.mem_lookup_iff.mp found
    simp [empty] at member
  · intro none
    refine List.eq_nil_iff_forall_not_mem.mpr ?_
    rintro ⟨callId, body⟩ member
    have found := tracks.pending callId
    rw [AList.mem_lookup_iff.mpr member] at found
    cases waiting : (run log).pending callId with
    | none => simp [waiting] at found
    | some entry => exact none callId entry.1 entry.2 ((correct.pending callId entry.1 entry.2).mp waiting)

end

/-- Reconstruction is the paired ledger of the accepted messages.  A tool
message consumes the first decodable call with its identifier since the last
tool message with that identifier. -/
theorem reconstruct_pairedLedger (py : Python) (messages : List Value) (availableTools : List Text)
    (roles : ToolRoles) (contract : SchemaContract) (requireReceipt : Bool) (rebuilt : Reconstruction)
    (accepted : ∀ message ∈ messages, validateMessage message = .ok ())
    (ran : reconstruct py (.arr messages) availableTools roles contract requireReceipt = .ok rebuilt) :
    ∃ answers, PairedLedger py (events py messages) rebuilt answers := by
  obtain ⟨final, read, rfl⟩ := reconstruct_eq_ok.mp ran
  have tracks := tracks_nil.readMessages accepted read
  rw [List.nil_append] at tracks
  have correct := run_correct (events py messages)
  obtain ⟨_, receipts, shape, related⟩ := recordAll_meaning (fresh_meaning _ _ _ _ _ _) tracks.recorded
  refine ⟨_, correct.answered, correct.ordered, ?_, ?_, ?_⟩
  · refine correct.ordered.imp_of_mem ?_
    intro earlier later earlierMember laterMember below same
    have equal := ((correct.answered earlier).mp earlierMember).result_unique
      ((correct.answered later).mp laterMember) same
    omega
  · change List.Forall₂ _ _ final.harness.receipts
    rw [shape]
    exact related
  · rw [finish_degraded_eq_false, tracks.warnings, tracks.pending_empty_iff, correct.clean]
    exact and_congr_right fun clean => (answered_iff clean).symm

/-- A call is made, answered, made again under the same identifier and answered. -/
def reusedIdentifier : List Value :=
  [callsMessage [functionCall "x" "read_file" "\x7b\"path\":\"a\"\x7d"], toolMessage "x" "first",
    callsMessage [functionCall "x" "read_file" "\x7b\"path\":\"b\"\x7d"], toolMessage "x" "second"]

theorem reconstruct_pairedLedger_reused : ∃ rebuilt answers,
    reconstruct .reference (.arr reusedIdentifier) ["read_file"] {} {} true = .ok rebuilt ∧
    rebuilt.harness.receipts.length = 2 ∧ rebuilt.degraded = false ∧
    PairedLedger .reference (events .reference reusedIdentifier) rebuilt answers := by
  have returns : ((reconstruct .reference (.arr reusedIdentifier) ["read_file"] {} {} true).toOption.map
      fun rebuilt => (rebuilt.harness.receipts.length, rebuilt.degraded)) = some (2, false) := by
    decide +kernel
  cases ran : reconstruct .reference (.arr reusedIdentifier) ["read_file"] {} {} true with
  | error e =>
      rw [ran] at returns
      cases returns
  | ok rebuilt =>
      obtain ⟨answers, ledger⟩ := reconstruct_pairedLedger .reference reusedIdentifier ["read_file"] {} {}
        true rebuilt (by decide) ran
      rw [ran] at returns
      simp only [Except.toOption, Option.map_some, Option.some.injEq, Prod.mk.injEq] at returns
      exact ⟨rebuilt, answers, rfl, returns.1, returns.2, ledger⟩

/-! ## Calls that reuse an identifier before it is answered -/

/-- The pairing in which a result always takes the first call with its
identifier that is not yet answered. -/
def firstUnanswered : List (Text × Option (Text × Object)) → List LedgerEvent → List ToolResult
  | _, [] => []
  | unanswered, .call callId body :: rest => firstUnanswered (unanswered ++ [(callId, body)]) rest
  | unanswered, .result callId text :: rest =>
    match unanswered.find? fun call => call.1 = callId with
    | some (_, some (name, arguments)) =>
      ⟨name, arguments, text⟩ :: firstUnanswered (unanswered.eraseP fun call => call.1 = callId) rest
    | _ => firstUnanswered unanswered rest

/-- Two calls under one identifier, then two results. -/
def repeatedIdentifier : List Value :=
  [callsMessage [functionCall "x" "read_file" "\x7b\"path\":\"a\"\x7d",
      functionCall "x" "read_file" "\x7b\"path\":\"b\"\x7d"],
    toolMessage "x" "first", toolMessage "x" "second"]

/-- `reconstruct` drops a call whose identifier still waits, so the second
result has nothing left to consume. -/
theorem reconstruct_not_firstUnanswered :
    (∀ message ∈ repeatedIdentifier, validateMessage message = .ok ()) ∧
    ∃ rebuilt, reconstruct .reference (.arr repeatedIdentifier) ["read_file"] {} {} true = .ok rebuilt ∧
      ¬ List.Forall₂ (ReceiptOf .reference)
        (firstUnanswered [] (events .reference repeatedIdentifier)) rebuilt.harness.receipts := by
  refine ⟨by decide, ?_⟩
  have returns : ((reconstruct .reference (.arr repeatedIdentifier) ["read_file"] {} {} true).toOption.map
      fun rebuilt => rebuilt.harness.receipts.length) = some 1 := by decide +kernel
  have expected : (firstUnanswered [] (events .reference repeatedIdentifier)).length = 2 := by
    decide +kernel
  cases ran : reconstruct .reference (.arr repeatedIdentifier) ["read_file"] {} {} true with
  | error e =>
      rw [ran] at returns
      cases returns
  | ok rebuilt =>
      refine ⟨rebuilt, rfl, fun paired => ?_⟩
      have lengths := paired.length_eq
      rw [ran] at returns
      simp only [Except.toOption, Option.map_some, Option.some.injEq] at returns
      omega

end HarnessProxy.Transcript

import HarnessProxy.Service.MessageShape
import HarnessProxy.Transcript.TurnReceipts

namespace HarnessProxy.Service

open HarnessProxy.Json HarnessProxy.Core HarnessProxy.Data HarnessProxy.Transcript

/-! # Messages that can be sent back

The messages that can follow a clean transcript without an error, a warning or
a lost receipt.
-/

/-- The messages that intake accepts and that leave no call open. -/
inductive Resendable (message : Object) : Prop
  | assistant {calls : List Value} {callIds : List Text} (shape : AssistantMessage message calls)
      (complete : List.Forall₂ CompleteCall calls callIds) (nodup : callIds.Nodup)
  | plain {role : Text} (instructs : role ∈ (["system", "user"] : List Text)) (shape : PlainMessage message role)

section
variable {py : Python} {message : Object} {calls results : List Value} {call : Value} {callId role : Text}
  {state : ReadState} {roles : ToolRoles}

/-- A call has one identifier. -/
theorem CompleteCall.unique {other : Text} {body : Text × Object} (complete : CompleteCall call callId)
    (readable : readableCall? py call = some (other, body)) : callId = other := by
  obtain ⟨fields, name, rfl, head⟩ := complete.head
  obtain ⟨_, same, otherHead, _⟩ := readableCall?_eq_some.mp readable
  cases same
  exact (Prod.mk.inj (Option.some.inj (head.symm.trans otherHead))).1

theorem CompleteCall.identified {name : Text} {arguments : Object} (complete : CompleteCall call callId)
    (decoded : DecodedCall py call name arguments) : Identified py call callId := by
  obtain ⟨fields, _, _, _, rfl, found, nonempty, _⟩ := complete
  rcases decoded.readable with ⟨other, id, _, readable⟩ | ⟨unnamed, _⟩
  · simp only [callIdOf, Value.asObject?, Option.bind_some, found, Option.getD_some, Value.str.injEq] at id
    subst id
    exact ⟨_, readable⟩
  · exact absurd (unnamed callId (by simp [callIdOf, Value.asObject?, found])) nonempty

/-- The calls that are complete and leave a receipt have distinct identifiers. -/
theorem complete_of_identified {callIds : List Text} (complete : ∀ call ∈ calls, ∃ callId, CompleteCall call callId)
    (identified : List.Forall₂ (Identified py) calls callIds) : List.Forall₂ CompleteCall calls callIds := by
  refine ((List.forall₂_and_left _ _).mpr ⟨complete, identified⟩).imp fun call callId both => ?_
  obtain ⟨⟨other, complete⟩, body, readable⟩ := both
  exact complete.unique readable ▸ complete

theorem identified_of_complete {callIds : List Text} (signed : ∀ call ∈ calls, SignedCall py call)
    (complete : List.Forall₂ CompleteCall calls callIds) : List.Forall₂ (Identified py) calls callIds := by
  refine ((List.forall₂_and_left _ _).mpr ⟨signed, complete⟩).imp fun call callId both => ?_
  obtain ⟨name, arguments, decoded⟩ := both.1.decoded
  exact both.2.identified decoded

theorem hasRole_of_found {other : Text} (found : message.get? "role" = some (.str role)) :
    hasRole message other = decide (role = other) := by
  simp [hasRole, found]

/-- A message under another role than `assistant` and `tool` is passed over, and
one under `tool` is an orphan. -/
theorem recordedTurn_plain_iff (clean : state.finish.degraded = false) (shape : PlainMessage message role)
    (notAssistant : role ≠ "assistant") :
    (∃ final, RecordedTurn py state [.obj message] [] final) ↔ role ≠ "tool" := by
  obtain ⟨quiet, empty⟩ := finish_degraded_eq_false.mp clean
  have skipped : hasRole message "assistant" = false := by simp [hasRole_of_found shape.role, notAssistant]
  constructor
  · rintro ⟨final, read, clean, _⟩ isTool
    have tool : hasRole message "tool" = true := by simp [hasRole_of_found shape.role, isTool]
    have orphan : final = state.warn "orphan_tool_result" := by
      simp only [ReadState.readMessages, ReadState.readMessage, skipped, tool, Bool.false_eq_true, if_false, if_true,
        ReadState.readResult, settled_iff.mpr empty _] at read
      split at read <;> cases read <;> rfl
    have warned := (finish_degraded_eq_false.mp clean).1
    simp [orphan, ReadState.warn] at warned
  · intro notTool
    have other : hasRole message "tool" = false := by simp [hasRole_of_found shape.role, notTool]
    refine ⟨state, ?_, clean, [], by simp, .nil⟩
    simp [ReadState.readMessages, ReadState.readMessage, skipped, other, bind, Except.bind]

/-- A turn is accepted and recorded exactly when its message is resendable and
its results can be classified. -/
theorem resendable_iff (meaning : PolicyMeaning roles state.harness) (clean : state.finish.degraded = false)
    (batch : toolCalls message = .arr calls) (signed : ∀ call ∈ calls, SignedCall py call)
    (executed : List.Forall₂ ResultOf calls results) :
    (validateMessage (.obj message) = .ok () ∧ ∃ final, RecordedTurn py state (.obj message :: results) calls final) ↔
      Resendable message ∧ ∀ result ∈ results, Classified py (resultText result) := by
  have without {role : Text} (shape : PlainMessage message role) : calls = [] ∧ results = [] := by
    have none : calls = [] := by simpa [toolCalls, shape.noCalls] using batch.symm
    subst none
    exact ⟨rfl, List.forall₂_nil_left_iff.mp executed⟩
  constructor
  · rintro ⟨accepted, recorded⟩
    obtain ⟨role, supported, found⟩ := validateMessage_role accepted
    by_cases assistant : role = "assistant"
    · subst assistant
      obtain ⟨others, shape, complete⟩ := (validateMessage_assistant_iff found).mp accepted
      cases shape.listed.toolCalls.symm.trans batch
      obtain ⟨⟨callIds, identified, nodup⟩, classified⟩ :=
        (recordedTurn_iff meaning clean (hasRole_iff.mpr found) batch signed executed).mp recorded
      exact ⟨.assistant shape (complete_of_identified complete identified) nodup, classified⟩
    · obtain ⟨shape, _⟩ := (validateMessage_plain_iff found supported assistant).mp accepted
      obtain ⟨rfl, rfl⟩ := without shape
      have notTool := (recordedTurn_plain_iff clean shape assistant).mp recorded
      refine ⟨.plain ?_ shape, by simp⟩
      simpa [messageRoles, assistant, notTool] using supported
  · rintro ⟨resendable, classified⟩
    cases resendable with
    | assistant shape complete nodup =>
        cases shape.listed.toolCalls.symm.trans batch
        refine ⟨(validateMessage_assistant_iff shape.role).mpr ⟨_, shape, fun call member => ?_⟩,
          (recordedTurn_iff meaning clean (hasRole_iff.mpr shape.role) batch signed executed).mpr
            ⟨⟨_, identified_of_complete signed complete, nodup⟩, classified⟩⟩
        obtain ⟨callId, _, complete⟩ := aligned_of_mem_left complete member
        exact ⟨callId, complete⟩
    | @plain role instructs shape =>
        obtain ⟨rfl, rfl⟩ := without shape
        have known : ∀ role ∈ (["system", "user"] : List Text),
            role ∈ messageRoles ∧ role ≠ "assistant" ∧ role ≠ "tool" := by decide
        obtain ⟨supported, notAssistant, notTool⟩ := known role instructs
        exact ⟨(validateMessage_plain_iff shape.role supported notAssistant).mpr ⟨shape, fun isTool => absurd isTool notTool⟩,
          (recordedTurn_plain_iff clean shape notAssistant).mpr notTool⟩

end

end HarnessProxy.Service

import HarnessProxy.Service.Validation
import HarnessProxy.Transcript.Reconstruct

namespace HarnessProxy.Service

open HarnessProxy.Json HarnessProxy.Transcript

/-! # Messages that intake accepts

The shapes that the checks of `_validate_message` accept, for an assistant
message and for a message under another role.
-/

def FilledText (value : Value) : Prop := ∃ text, value = .str text ∧ Text.isBlank text = false

/-- A call with an identifier, a name and the text of its arguments. -/
structure CompleteCall (call : Value) (callId : Text) : Prop where
  shape : ∃ fields function name arguments, call = .obj fields ∧
    Object.get? fields "id" = some (.str callId) ∧ callId ≠ [] ∧
    Object.get? fields "type" = some (.str "function") ∧
    Object.get? fields "function" = some (.obj function) ∧
    Object.get? function "name" = some name ∧ FilledText name ∧
    Object.get? function "arguments" = some (.str arguments)

/-- A text, or content parts that are objects with a type. -/
inductive TextOrParts : Value → Prop
  | text {text : Text} : TextOrParts (.str text)
  | parts {parts : List Value} (nonempty : parts ≠ []) (typed : ∀ part ∈ parts, isContentPart part = true) :
      TextOrParts (.arr parts)

/-- A name is present only as a text. -/
def NamedByText (message : Object) : Prop := ∀ name, message.get? "name" = some name → FilledText name

/-- The calls of an assistant message. -/
inductive ListedCalls (message : Object) : List Value → Prop
  | absent (missing : message.get? "tool_calls" = none) : ListedCalls message []
  | present {calls : List Value} (found : message.get? "tool_calls" = some (.arr calls)) : ListedCalls message calls

/-- An assistant message with these calls. -/
structure AssistantMessage (message : Object) (calls : List Value) : Prop where
  role : message.get? "role" = some (.str "assistant")
  content : ∀ content, message.get? "content" = some content → content = .null ∨ TextOrParts content
  named : NamedByText message
  listed : ListedCalls message calls
  usable : calls = [] → ∃ content, message.get? "content" = some content ∧ hasUsableAssistantContent content = true

/-- A message without calls, under another role. -/
structure PlainMessage (message : Object) (role : Text) : Prop where
  role : message.get? "role" = some (.str role)
  content : ∃ content, message.get? "content" = some content ∧ TextOrParts content
  named : NamedByText message
  noCalls : message.get? "tool_calls" = none

section
variable {message : Object} {calls : List Value} {call : Value} {role : Text}

theorem isNonempty_iff {value : Option Value} :
    isNonempty value = true ↔ ∃ text, value = some (.str text) ∧ text ≠ [] := by
  unfold isNonempty
  split <;> simp_all

theorem hasRole_iff : hasRole message role = true ↔ message.get? "role" = some (.str role) := by
  simp [hasRole]

theorem isFilled_iff {value : Option Value} : isFilled value = true ↔ ∃ filled, value = some filled ∧
    FilledText filled := by
  unfold isFilled
  split
  · next text => simp [FilledText]
  · next other =>
    simp only [Bool.false_eq_true, false_iff]
    rintro ⟨_, rfl, text, rfl, _⟩
    exact other _ rfl

theorem isString_iff {value : Option Value} : isString value = true ↔ ∃ text, value = some (.str text) := by
  unfold isString
  split <;> simp_all

theorem isTextOrParts_accepted_iff {content : Value} :
    isTextOrParts content = true ∧ contentPartsAccepted content = true ↔ TextOrParts content := by
  constructor
  · rintro ⟨shape, accepted⟩
    unfold isTextOrParts at shape
    split at shape
    · exact .text
    · simp only [contentPartsAccepted, Bool.and_eq_true, Bool.not_eq_true', List.isEmpty_eq_false_iff,
        List.all_eq_true] at accepted
      exact .parts accepted.1 accepted.2
    · cases shape
  · rintro (_ | ⟨nonempty, typed⟩)
    · exact ⟨rfl, rfl⟩
    · refine ⟨rfl, ?_⟩
      simpa [contentPartsAccepted, nonempty] using typed

theorem validateToolCall_iff : validateToolCall call = .ok () ↔ ∃ callId, CompleteCall call callId := by
  constructor
  · intro accepted
    unfold validateToolCall at accepted
    split at accepted
    · next fields =>
      simp only [raiseIf_eq_ok, Bool.not_eq_false', isCompleteCall, Bool.and_eq_true, decide_eq_true_eq] at accepted
      obtain ⟨⟨id, type⟩, rest⟩ := accepted
      obtain ⟨callId, found, nonempty⟩ := isNonempty_iff.mp id
      split at rest
      · next function functionFound =>
        simp only [Bool.and_eq_true] at rest
        obtain ⟨name, named, filled⟩ := isFilled_iff.mp rest.1
        obtain ⟨arguments, argumentsFound⟩ := isString_iff.mp rest.2
        exact ⟨callId, fields, function, name, arguments, rfl, found, nonempty, type, functionFound, named, filled,
          argumentsFound⟩
      · cases rest
    · cases accepted
  · rintro ⟨callId, fields, function, name, arguments, rfl, found, nonempty, type, functionFound, named, filled,
      argumentsFound⟩
    simp [validateToolCall, isCompleteCall, isNonempty_iff, isFilled_iff, isString_iff, found, nonempty, type,
      functionFound, named, filled, argumentsFound]

theorem CompleteCall.head {callId : Text} (complete : CompleteCall call callId) :
    ∃ fields name, call = .obj fields ∧ callHead? fields = some (callId, name) := by
  obtain ⟨fields, function, _, _, rfl, found, nonempty, _, functionFound, named, ⟨name, rfl, _⟩, _⟩ := complete
  exact ⟨fields, name, rfl, by simp [callHead?, found, functionFound, named, nonempty]⟩

theorem ListedCalls.toolCalls (listed : ListedCalls message calls) : toolCalls message = .arr calls := by
  cases listed with
  | absent missing => simp [Transcript.toolCalls, missing]
  | present found =>
      simp only [Transcript.toolCalls, found, Value.truthy]
      cases calls <;> simp

theorem memberOf_eq_true {names : List Text} {value : Value} :
    value.memberOf names = .ok true ↔ ∃ text ∈ names, value = .str text := by
  cases value <;> simp [Value.memberOf]

theorem named_iff : (message.has "name" && !isFilled (message.get? "name")) = false ↔ NamedByText message := by
  unfold Object.has NamedByText
  cases found : message.get? "name" with
  | none => simp
  | some name => simp [isFilled_iff]

theorem validateMessage_role (accepted : validateMessage (.obj message) = .ok ()) :
    ∃ role ∈ messageRoles, message.get? "role" = some (.str role) := by
  simp only [validateMessage, validateMessageFields, bind_eq_ok, raiseIf_eq_ok, uncaught_eq_ok] at accepted
  obtain ⟨supported, member, _, isSupported, _⟩ := accepted
  rw [Bool.not_eq_false'] at isSupported
  subst isSupported
  obtain ⟨role, known, same⟩ := memberOf_eq_true.mp member
  refine ⟨role, known, ?_⟩
  cases found : message.get? "role" with
  | none => simp [found] at same
  | some value => simpa [found] using same

theorem validateToolCalls_assistant_iff : validateToolCalls (.str "assistant") (message.get? "tool_calls") = .ok () ↔
    ∃ calls, ListedCalls message calls ∧ ∀ call ∈ calls, ∃ callId, CompleteCall call callId := by
  cases found : message.get? "tool_calls" with
  | none =>
      simp only [validateToolCalls, true_iff]
      exact ⟨[], .absent found, by simp⟩
  | some value =>
      constructor
      · intro accepted
        unfold validateToolCalls at accepted
        split at accepted
        · next missing => cases missing
        · next calls same =>
          simp only [bind_eq_ok, forEach_eq_ok, validateToolCall_iff] at accepted
          exact ⟨calls, .present (found.trans same), accepted.choose_spec.2⟩
        · cases accepted
      · rintro ⟨calls, listed, complete⟩
        cases listed with
        | absent missing =>
            rw [missing] at found
            cases found
        | present same =>
            rw [found] at same
            cases same
            simp only [validateToolCalls, bind_eq_ok, raiseIf_eq_ok, forEach_eq_ok, validateToolCall_iff]
            exact ⟨(), by simp, complete⟩

theorem assistantContent_iff {found : Option Value} :
    (decide (found.getD .null ≠ .null) && !isTextOrParts (found.getD .null)) = false ∧
        (!contentPartsAccepted (found.getD .null)) = false ↔
      ∀ content, found = some content → content = .null ∨ TextOrParts content := by
  cases found with
  | none => simp [contentPartsAccepted]
  | some content =>
      simp only [Option.getD_some, Option.some.injEq, forall_eq', ← isTextOrParts_accepted_iff]
      by_cases null : content = .null
      · subst null
        simp [contentPartsAccepted]
      · simp [null]

theorem writtenContent_iff : (!message.has "content") = false ∧
    (!isTextOrParts ((message.get? "content").getD .null)) = false ∧
    (!contentPartsAccepted ((message.get? "content").getD .null)) = false ↔
      ∃ content, message.get? "content" = some content ∧ TextOrParts content := by
  unfold Object.has
  cases found : message.get? "content" with
  | none => simp
  | some content => simp [← isTextOrParts_accepted_iff]

theorem usable_iff (listed : ListedCalls message calls) :
    (!hasUsableAssistantContent ((message.get? "content").getD .null) &&
        !nonemptyList (message.get? "tool_calls")) = false ↔
      (calls = [] → ∃ content, message.get? "content" = some content ∧ hasUsableAssistantContent content = true) := by
  have written : hasUsableAssistantContent ((message.get? "content").getD .null) = true ↔
      ∃ content, message.get? "content" = some content ∧ hasUsableAssistantContent content = true := by
    cases found : message.get? "content" with
    | none => simp [hasUsableAssistantContent]
    | some content => simp
  have proposed : nonemptyList (message.get? "tool_calls") = true ↔ calls ≠ [] := by
    cases listed with
    | absent missing => simp [missing, nonemptyList]
    | present found => simp [found, nonemptyList]
  rw [Bool.and_eq_false_iff, Bool.not_eq_false', Bool.not_eq_false', written, proposed]
  exact Or.comm.trans Decidable.imp_iff_not_or.symm

/-- The checks on an assistant message. -/
theorem validateMessage_assistant_iff (assistant : message.get? "role" = some (.str "assistant")) :
    validateMessage (.obj message) = .ok () ↔ ∃ calls, AssistantMessage message calls ∧
      ∀ call ∈ calls, ∃ callId, CompleteCall call callId := by
  have supported : messageRoles.contains (Text.literal "assistant") = true := by decide
  have notTool : decide (Value.str "assistant" = .str "tool") = false := by decide
  simp only [validateMessage, validateMessageFields, assistant, Option.getD_some, bind_eq_ok, raiseIf_eq_ok,
    uncaught_eq_ok, Value.memberOf, named_iff, supported, notTool, decide_true, Bool.not_true, Bool.false_and,
    Bool.true_and]
  constructor
  · rintro ⟨_, _, _, _, _, _, _, _, _, shape, _, parts, _, named, _, _, _, checked, usable⟩
    obtain ⟨calls, listed, complete⟩ := validateToolCalls_assistant_iff.mp checked
    exact ⟨calls, ⟨assistant, assistantContent_iff.mp ⟨shape, parts⟩, named, listed, (usable_iff listed).mp usable⟩,
      complete⟩
  · rintro ⟨calls, ⟨_, content, named, listed, usable⟩, complete⟩
    obtain ⟨shape, parts⟩ := assistantContent_iff.mpr content
    exact ⟨true, rfl, (), rfl, (), trivial, (), trivial, (), shape, (), parts, (), named, (), trivial, (),
      validateToolCalls_assistant_iff.mpr ⟨calls, listed, complete⟩, (usable_iff listed).mpr usable⟩

/-- The checks on a message under another role. -/
theorem validateMessage_plain_iff (found : message.get? "role" = some (.str role)) (supported : role ∈ messageRoles)
    (different : role ≠ "assistant") : validateMessage (.obj message) = .ok () ↔ PlainMessage message role ∧
      (role = "tool" → ∃ callId, message.get? "tool_call_id" = some (.str callId) ∧ callId ≠ []) := by
  have known : messageRoles.contains role = true := List.contains_iff_mem.mpr supported
  have other : decide (Value.str role = .str "assistant") = false := by simp [different]
  simp only [validateMessage, validateMessageFields, found, Option.getD_some, bind_eq_ok, raiseIf_eq_ok,
    uncaught_eq_ok, Value.memberOf, named_iff, known, other, Bool.not_false, Bool.false_and,
    Bool.true_and]
  constructor
  · rintro ⟨_, _, _, _, _, present, _, shape, _, _, _, parts, _, named, _, answers, _, calls, _⟩
    refine ⟨⟨found, writtenContent_iff.mp ⟨present, shape, parts⟩, named, ?_⟩, fun isTool => ?_⟩
    · cases listed : message.get? "tool_calls" with
      | none => rfl
      | some value => cases value <;> simp [validateToolCalls, listed, different, bind_eq_ok] at calls
    · simpa [isTool, isNonempty_iff] using answers
  · rintro ⟨⟨_, content, named, noCalls⟩, answers⟩
    obtain ⟨present, shape, parts⟩ := writtenContent_iff.mpr content
    refine ⟨true, rfl, (), rfl, (), present, (), shape, (), trivial, (), parts, (), named, (), ?_, (), ?_, trivial⟩
    · by_cases isTool : role = "tool"
      · simpa [isTool, isNonempty_iff] using answers isTool
      · simp [isTool]
    · rw [noCalls]
      rfl

/-- What the checks on a message say about the fields that `reconstruct` reads. -/
theorem validateMessage_eq_ok {message : Value} (accepted : validateMessage message = .ok ()) :
    ∃ fields calls, message = .obj fields ∧ toolCalls fields = .arr calls ∧
      (∀ call ∈ calls, ∃ callId, CompleteCall call callId) ∧
      (hasRole fields "tool" = true →
        ∃ callId, Object.get? fields "tool_call_id" = some (.str callId)) := by
  cases message with
  | obj fields =>
      obtain ⟨role, supported, found⟩ := validateMessage_role accepted
      by_cases assistant : role = "assistant"
      · subst assistant
        obtain ⟨calls, shape, complete⟩ := (validateMessage_assistant_iff found).mp accepted
        refine ⟨fields, calls, rfl, shape.listed.toolCalls, complete, fun isTool => ?_⟩
        have different : Value.str "assistant" ≠ .str "tool" := by decide
        exact absurd (Option.some.inj (found.symm.trans (hasRole_iff.mp isTool))) different
      · obtain ⟨shape, answers⟩ := (validateMessage_plain_iff found supported assistant).mp accepted
        refine ⟨fields, [], rfl, by simp [toolCalls, shape.noCalls], by simp, fun isTool => ?_⟩
        have same := Option.some.inj (found.symm.trans (hasRole_iff.mp isTool))
        obtain ⟨callId, named, _⟩ := answers (Value.str.inj same)
        exact ⟨callId, named⟩
  | _ => cases accepted

end

end HarnessProxy.Service

import HarnessProxy.Service.Projected
import HarnessProxy.Service.WithheldBatch
import HarnessProxy.Transcript.ProtectedRoles

namespace HarnessProxy.Service

open HarnessProxy.Json HarnessProxy.Core HarnessProxy.Data HarnessProxy.Transcript HarnessProxy.Projection

/-! # Two grammars

In the phase split mode a request carries tools or a response format and never
both.  The two loops share the payload builder and each latches the phase.
-/

/-- A field as the client sent it, without the extensions of the proxy. -/
def clientField (payload : Object) (key : Text) : Option Value :=
  if key = requireReceiptExtension then none
  else if key = "tools" then (payload.get? "tools").map fun tools => match tools with
    | .arr tools => .arr (tools.map strippedTool)
    | other => other
  else payload.get? key

def toolFields : List Text := ["tools", "tool_choice", "parallel_tool_calls"]

/-- The fields that are not named are the client's.  With the harness the
messages are the proxy's own. -/
def KeepsFields (payload : Object) (withHarness : Bool) (changed : List Text) (sent : Object) : Prop :=
  ∀ key, key ∉ changed → (withHarness = true → key ≠ "messages") → sent.get? key = clientField payload key

structure Acquisition (payload : Object) (withHarness : Bool) (sent : Object) : Prop where
  tools : sent.has "tools" = true
  noFormat : sent.get? "response_format" = none
  others : KeepsFields payload withHarness ["response_format"] sent

structure Finalization (payload : Object) (withHarness : Bool) (sent : Object) : Prop where
  format : sent.has "response_format" = true
  noTools : ∀ key ∈ toolFields, sent.get? key = none
  others : KeepsFields payload withHarness toolFields sent

/-- What holds of every run in the phase split mode. -/
structure GrammarSeparated (upstream : Upstream) (payload : Object) (withHarness : Bool) (run : Run) : Prop where
  grammar : ∀ attempt ∈ run.sent, Acquisition payload withHarness attempt.payload ∨
    Finalization payload withHarness attempt.payload
  latched : run.sent.Pairwise fun earlier later =>
    Finalization payload withHarness earlier.payload → ¬ Acquisition payload withHarness later.payload
  noCalls : ∀ attempt response result choice message, LastReply upstream run attempt response →
    Finalization payload withHarness attempt.payload → run.outcome = .ok result →
    responseMessage? result.body = some (choice, message) → toolCalls message = .arr []

section
variable {payload sent : Object} {withHarness : Bool} {prepared : Prepared} {py : Python} {settings : Settings}
  {options : Options} {messages : List Value}

theorem Acquisition.not_finalization (acquires : Acquisition payload withHarness sent) :
    ¬ Finalization payload withHarness sent := by
  intro finalizes
  have none := finalizes.noTools "tools" (by simp [toolFields])
  have tools := acquires.tools
  rw [Object.has, none] at tools
  cases tools

/-- The tools of an accepted request, stripped of the annotations. -/
theorem Accepted.stripped (accepted : Accepted py settings options payload prepared) {tools : List Value}
    (hasTools : payload.get? "tools" = some (.arr tools)) : prepared.tools = tools.map strippedTool := by
  obtain ⟨used, computed⟩ := accepted.tools
  rw [hasTools] at computed
  unfold preparedTools at computed
  split at computed
  · next result shape =>
    cases computed
    exact prepareEach_stripped shape
  · cases computed
  · cases computed

/-- The forwarded fields are the client's. -/
theorem Accepted.forwarded_field (accepted : Accepted py settings options payload prepared) {tools : List Value}
    (hasTools : payload.get? "tools" = some (.arr tools)) (key : Text) :
    prepared.forwarded.get? key = clientField payload key := by
  have different : Text.literal "tools" ≠ requireReceiptExtension := by decide
  have present : (payload.pop requireReceiptExtension).has "tools" = true := by
    rw [Object.has, Object.get?_pop_ne _ _ different, hasTools]
    rfl
  rw [accepted.forwarded, forwardedPayload, if_pos present]
  unfold clientField
  by_cases extension : key = requireReceiptExtension
  · rw [extension, if_pos rfl, Object.get?_assign_ne _ _ _ (Ne.symm different), Object.get?_pop_self]
  · rw [if_neg extension]
    by_cases isTools : key = "tools"
    · rw [isTools, if_pos rfl, Object.get?_assign_self, hasTools, accepted.stripped hasTools]
      rfl
    · rw [if_neg isTools, Object.get?_assign_ne _ _ _ isTools, Object.get?_pop_ne _ _ extension]

/-- The payload of an attempt in either phase. -/
theorem outboundPayload_grammar (forwarded : ∀ key, prepared.forwarded.get? key = clientField payload key)
    (tools : prepared.forwarded.has "tools" = true) (format : prepared.forwarded.has "response_format" = true)
    (sentMessages : withHarness = false → prepared.forwarded.get? "messages" = some (.arr messages)) :
    Acquisition payload withHarness (outboundPayload prepared.forwarded messages (some .acquisition)) ∧
      Finalization payload withHarness (outboundPayload prepared.forwarded messages (some .finalization)) := by
  have names : (Text.literal "tools" ≠ "messages" ∧ Text.literal "tools" ≠ "response_format") ∧
      Text.literal "response_format" ≠ "messages" ∧ ∀ key ∈ toolFields, Text.literal "response_format" ≠ key := by
    decide
  obtain ⟨⟨toolsMessages, toolsFormat⟩, formatMessages, formatTools⟩ := names
  have withMessages (key : Text) (kept : withHarness = true → key ≠ "messages") :
      (prepared.forwarded.assign "messages" (.arr messages)).get? key = clientField payload key := by
    rw [← forwarded]
    by_cases same : key = "messages"
    · cases withHarness with
      | false => rw [same, Object.get?_assign_self, sentMessages rfl]
      | true => exact absurd same (kept rfl)
    · rw [Object.get?_assign_ne _ _ _ same]
  have finalized (key : Text) (kept : key ∉ toolFields) :
      (outboundPayload prepared.forwarded messages (some .finalization)).get? key =
        (prepared.forwarded.assign "messages" (.arr messages)).get? key := by
    simp only [toolFields, List.mem_cons, List.not_mem_nil, or_false, not_or] at kept
    simp only [outboundPayload, Object.get?_pop_ne _ _ kept.1, Object.get?_pop_ne _ _ kept.2.1,
      Object.get?_pop_ne _ _ kept.2.2]
  constructor
  · refine ⟨?_, Object.get?_pop_self _ _, fun key kept others => ?_⟩
    · rw [Object.has, outboundPayload, Object.get?_pop_ne _ _ toolsFormat, Object.get?_assign_ne _ _ _ toolsMessages]
      exact tools
    · rw [outboundPayload, Object.get?_pop_ne _ _ (by simpa using kept)]
      exact withMessages key others
  · refine ⟨?_, fun key member => ?_, fun key kept others => ?_⟩
    · rw [Object.has, finalized _ fun member => formatTools _ member rfl, Object.get?_assign_ne _ _ _ formatMessages]
      exact format
    · have absent {fields : Object} (other : Text) (missing : fields.get? key = none) :
          (fields.pop other).get? key = none := by
        by_cases same : key = other
        · rw [same, Object.get?_pop_self]
        · rw [Object.get?_pop_ne _ _ same, missing]
      simp only [toolFields, List.mem_cons, List.not_mem_nil, or_false] at member
      rcases member with rfl | rfl | rfl
      · exact absent _ (absent _ (Object.get?_pop_self ..))
      · exact absent _ (Object.get?_pop_self ..)
      · exact Object.get?_pop_self ..
    · rw [finalized key kept]
      exact withMessages key others

end

/-! ## The two loops -/

section
variable {context : LoopContext} {payload : Object} {withHarness : Bool}

/-- The builder gives each phase its own shape of payload. -/
def Separates (context : LoopContext) (payload : Object) (withHarness : Bool) (messages : List Value) : Prop :=
  Acquisition payload withHarness (outboundPayload context.prepared.forwarded messages (some .acquisition)) ∧
    Finalization payload withHarness (outboundPayload context.prepared.forwarded messages (some .finalization))

/-- From the phases of the attempts to the shapes of their payloads. -/
theorem grammar_of_phases {sent : List Attempt}
    (built : ∀ attempt ∈ sent, ∃ phase, attempt.phase = some phase ∧
      (phase = .acquisition → Acquisition payload withHarness attempt.payload) ∧
      (phase = .finalization → Finalization payload withHarness attempt.payload))
    (latched : sent.Pairwise fun earlier later =>
      earlier.phase = some .finalization → later.phase = some .finalization) :
    (∀ attempt ∈ sent, Acquisition payload withHarness attempt.payload ∨
      Finalization payload withHarness attempt.payload) ∧
    (∀ attempt ∈ sent, Finalization payload withHarness attempt.payload → attempt.phase = some .finalization) ∧
    sent.Pairwise fun earlier later =>
      Finalization payload withHarness earlier.payload → ¬ Acquisition payload withHarness later.payload := by
  have phases : ∀ attempt ∈ sent, Finalization payload withHarness attempt.payload →
      attempt.phase = some .finalization := by
    intro attempt member finalizes
    obtain ⟨phase, shape, acquires, _⟩ := built attempt member
    cases phase with
    | acquisition => exact absurd finalizes (acquires rfl).not_finalization
    | finalization => exact shape
  refine ⟨fun attempt member => ?_, phases, ?_⟩
  · obtain ⟨phase, _, acquires, finalizes⟩ := built attempt member
    cases phase with
    | acquisition => exact Or.inl (acquires rfl)
    | finalization => exact Or.inr (finalizes rfl)
  · refine latched.imp_of_mem fun {earlier later} first second stays finalizes acquires => ?_
    obtain ⟨phase, shape, _, finalLater⟩ := built later second
    have final := stays (phases earlier first finalizes)
    rw [shape, Option.some.injEq] at final
    exact acquires.not_finalization (finalLater final)

/-- The phase of the loop with the harness. -/
theorem enter_phase {state : LoopState}
    (phased : ∃ phase, state.phase = some phase) :
    (∃ phase, (context.enter state).phase = some phase) ∧
      (state.phase = some .finalization → (context.enter state).phase = some .finalization) := by
  unfold LoopContext.enter
  split
  · exact ⟨⟨_, rfl⟩, fun _ => rfl⟩
  · exact ⟨phased, id⟩

theorem policyLoop_grammar (split : context.prepared.usePhaseSplit = true)
    (separates : ∀ messages, Separates context payload true messages) {start : LoopState}
    (phased : ∃ phase, start.phase = some phase) (reply : Nat → Reply) (rounds : Nat) :
    (∀ attempt ∈ (context.policyLoop.run reply rounds 0 start).1, ∃ phase, attempt.phase = some phase ∧
      (phase = .acquisition → Acquisition payload true attempt.payload) ∧
      (phase = .finalization → Finalization payload true attempt.payload)) ∧
    (context.policyLoop.run reply rounds 0 start).1.Pairwise fun earlier later =>
      earlier.phase = some .finalization → later.phase = some .finalization := by
  have step (state : LoopState) (answer : Reply) (next : LoopState) (phased : ∃ phase, state.phase = some phase)
      (reacts : context.react (context.enter state) answer = .again next) : ∃ phase, next.phase = some phase := by
    rw [(react_again reacts).2]
    exact (enter_phase phased).1
  have request (state : LoopState) : (context.request state).payload =
      outboundPayload context.prepared.forwarded state.workingMessages state.phase := by
    simp [LoopContext.request, split]
  constructor
  · intro attempt sent
    obtain ⟨_, state, reached, _, rfl⟩ := context.policyLoop.run_sent .start sent
    obtain ⟨phase, shape⟩ := (enter_phase (@BoundedLoop.Reached.invariant _ _ _ _ context.policyLoop reply start state
      _ (fun state => ∃ phase, state.phase = some phase) phased step reached)).1
    have built := request (context.enter state)
    rw [shape] at built
    refine ⟨phase, shape, fun acquires => ?_, fun finalizes => ?_⟩
    · change Acquisition payload true (context.request (context.enter state)).payload
      rw [built, acquires]
      exact (separates _).1
    · change Finalization payload true (context.request (context.enter state)).payload
      rw [built, finalizes]
      exact (separates _).2
  · refine @BoundedLoop.run_latched _ _ _ _ context.policyLoop reply start rounds 0
      (fun state => ∃ phase, state.phase = some phase) (fun state => state.phase = some .finalization)
      (fun attempt => attempt.phase = some .finalization) phased step ?_ fun _ _ => Iff.rfl
    intro state answer next inv late reacts
    exact (enter_phase (step state answer next inv reacts)).2 ((react_again reacts).2.trans late)

theorem offRetry_again {state next : OffState} (again : context.offRetry state = .again next) :
    next.phase = state.phase := by
  unfold LoopContext.offRetry at again
  split at again <;> cases again
  rfl

/-- A round without the harness goes on in the finalization phase. -/
theorem offReact_again {state next : OffState} {answer : Reply} (reacts : context.offReact state answer = .again next) :
    next.phase = .finalization := by
  have kept : (context.offAnswered state answer).phase = state.phase := rfl
  simp only [LoopContext.offReact] at reacts
  split at reacts
  · cases reacts
  · simp only [LoopContext.offReactResponse] at reacts
    split at reacts
    · cases reacts
    · split at reacts
      · simp only [LoopContext.offReactContent] at reacts
        split at reacts
        · cases reacts
          rfl
        · next late =>
          split at reacts
          · cases reacts
          · cases reacts
          · exact (offRetry_again reacts).trans late
      · split at reacts
        · cases reacts
        · next late =>
          rw [offRetry_again reacts]
          cases phase : (context.offAnswered state answer).phase with
          | acquisition => exact absurd phase late
          | finalization => rfl
      · cases reacts

/-- What a round without the harness releases in the finalization phase has no
calls. -/
theorem offReact_released {state : OffState} {answer : Reply} {result : ChatResult} {choice message : Object}
    (reacts : context.offReact state answer = .stop (.ok result)) (late : state.phase = .finalization)
    (released : responseMessage? result.body = some (choice, message)) : toolCalls message = .arr [] := by
  have different : Text.literal "tool_calls" ≠ Text.literal "content" := by decide
  have phase : (context.offAnswered state answer).phase = .finalization := late
  simp only [LoopContext.offReact] at reacts
  split at reacts
  · cases reacts
  · simp only [LoopContext.offReactResponse, phase, LoopContext.offReactContent, reduceCtorEq, if_false] at reacts
    split at reacts
    · cases reacts
    · next source _ =>
      split at reacts
      · next without =>
        split at reacts
        · cases reacts
        · next response checked =>
          cases reacts
          simp only [terminalSchemaIssue, bind_eq_ok, pure, Except.pure, Except.ok.injEq, Prod.mk.injEq] at checked
          obtain ⟨_, _, _, _, _, rfl⟩ := checked
          rw [responseMessage?_withoutMarker, responseMessage?_withContent] at released
          cases released
          rw [toolCalls, Object.get?_assign_ne _ _ _ different]
          exact without
        · unfold LoopContext.offRetry at reacts
          split at reacts <;> cases reacts
      · unfold LoopContext.offRetry at reacts
        split at reacts <;> cases reacts
      · cases reacts

/-- The loop without the harness sends the client's messages. -/
theorem offLoop_grammar (separates : Separates context payload false context.prepared.messages)
    (start : OffState) (reply : Nat → Reply) (rounds : Nat) :
    (∀ attempt ∈ (context.offLoop.run reply rounds 0 start).1, ∃ phase, attempt.phase = some phase ∧
      (phase = .acquisition → Acquisition payload false attempt.payload) ∧
      (phase = .finalization → Finalization payload false attempt.payload)) ∧
    (context.offLoop.run reply rounds 0 start).1.Pairwise fun earlier later =>
      earlier.phase = some .finalization → later.phase = some .finalization := by
  constructor
  · intro attempt sent
    obtain ⟨_, state, _, _, rfl⟩ := context.offLoop.run_sent .start sent
    refine ⟨state.phase, rfl, fun acquires => ?_, fun finalizes => ?_⟩
    · change Acquisition payload false (outboundPayload _ _ (some state.phase))
      rw [acquires]
      exact separates.1
    · change Finalization payload false (outboundPayload _ _ (some state.phase))
      rw [finalizes]
      exact separates.2
  · refine @BoundedLoop.run_latched _ _ _ _ context.offLoop reply start rounds 0 (fun _ => True)
      (fun state => state.phase = .finalization) (fun attempt => attempt.phase = some .finalization) trivial
      (fun _ _ _ _ _ => trivial) ?_ fun state _ => by simp [LoopContext.offLoop, LoopContext.offRequest]
    intro state answer next _ late reacts
    exact offReact_again reacts

end

/-! ## The whole request -/

section
variable {py : Python} {settings : Settings} {upstream : Upstream} {options : Options} {payload : JsonObject}
  {prepared : Prepared}

/-- The mode, the tools and the format make every attempt one of the two. -/
theorem Accepted.separates (accepted : Accepted py settings options payload.fields prepared)
    (mode : settings.capabilityMode = .phaseSplit) {tools : List Value} (nonempty : tools ≠ [])
    (hasTools : payload.fields.get? "tools" = some (.arr tools))
    (hasFormat : payload.fields.has "response_format" = true) :
    prepared.usePhaseSplit = true ∧ ∀ withHarness messages,
      (withHarness = false → messages = prepared.messages) → ∀ context : LoopContext, context.prepared = prepared →
        Separates context payload.fields withHarness messages := by
  have forwarded := accepted.forwarded_field hasTools
  have keys : Text.literal "response_format" ≠ requireReceiptExtension ∧
      Text.literal "response_format" ≠ "tools" ∧ Text.literal "tools" ≠ requireReceiptExtension ∧
      Text.literal "messages" ≠ requireReceiptExtension ∧ Text.literal "messages" ≠ "tools" := by decide
  obtain ⟨formatExtension, formatTools, toolsExtension, messagesExtension, messagesTools⟩ := keys
  have format : prepared.forwarded.has "response_format" = true := by
    rw [Object.has, forwarded, clientField, if_neg formatExtension, if_neg formatTools]
    exact hasFormat
  have sentTools : prepared.forwarded.has "tools" = true := by
    rw [Object.has, forwarded, clientField, if_neg toolsExtension, if_pos rfl, hasTools]
    rfl
  have offered : prepared.tools.isEmpty = false := by
    rw [accepted.stripped hasTools]
    simpa using nonempty
  constructor
  · have supported := accepted.supported
    simp only [unsupportedSchema, mode, offered, format, ne_eq, reduceCtorEq, not_false_eq_true, decide_true,
      Bool.not_false, Bool.true_and, Bool.not_eq_false'] at supported
    rw [accepted.usePhaseSplit]
    simp [requiresPhaseSplit, mode, offered, format, supported]
  · rintro withHarness messages sentMessages context rfl
    refine outboundPayload_grammar forwarded sentTools format fun off => ?_
    rw [sentMessages off, forwarded, clientField, if_neg messagesExtension, if_neg messagesTools]
    exact accepted.messages_valid.1

/-- A run that sends nothing separates the grammars. -/
theorem grammarSeparated_of_silent {run : Run} {withHarness : Bool} (silent : run.sent = []) :
    GrammarSeparated upstream payload.fields withHarness run := by
  refine ⟨by simp [silent], by simp [silent], fun attempt response result choice message last => ?_⟩
  have sent := last.sent
  rw [silent] at sent
  cases sent

/-- The calls of a released message are a list. -/
theorem Completed.listedCalls {rebuilt : Reconstruction} {run : Run} {body choice message : Object}
    (completed : Completed py settings upstream prepared rebuilt run body)
    (found : responseMessage? body = some (choice, message)) : ∃ calls, toolCalls message = .arr calls := by
  have different : Text.literal "tool_calls" ≠ Text.literal "content" := by decide
  cases completed with
  | projected _ _ shape =>
      rw [shape] at found
      cases found
      exact ⟨[], rfl⟩
  | replied _ _ _ released =>
      cases released with
      | @calls _ _ calls _ _ choices batch =>
          rw [responseMessage?_withoutMarker, choices] at found
          cases found
          exact ⟨calls, batch⟩
      | content choices noCalls =>
          rw [responseMessage?_withoutMarker] at found
          split at found
          · rw [responseMessage?_withContent] at found
            cases found
            exact ⟨[], by rw [toolCalls, Object.get?_assign_ne _ _ _ different]; exact noCalls⟩
          · rw [choices] at found
            cases found
            exact ⟨[], noCalls⟩

/-- The run with the harness, from the phases of its attempts. -/
theorem completeWithHarness_grammar {rebuilt : Reconstruction} (split : prepared.usePhaseSplit = true)
    (separates : ∀ messages, Separates (loopContext py settings prepared rebuilt) payload.fields true messages) :
    GrammarSeparated upstream payload.fields true (completeRebuilt py settings upstream prepared rebuilt) := by
  cases projection : projectLatestIfCurrent py prepared.messages rebuilt with
  | error e => exact grammarSeparated_of_silent (by simp [completeRebuilt, projection])
  | ok projected =>
      cases projected with
      | some content => exact grammarSeparated_of_silent (by simp [completeRebuilt, projection])
      | none =>
          have phased : ∃ phase, (initialState prepared rebuilt).phase = some phase := by
            simp only [initialState, initialPhase, split, if_true]
            split <;> exact ⟨_, rfl⟩
          have sent : (completeRebuilt py settings upstream prepared rebuilt).sent =
              ((loopContext py settings prepared rebuilt).policyLoop.run upstream.reply settings.maxUpstreamCalls 0
                (initialState prepared rebuilt)).1 := by
            simp [completeRebuilt, projection]
          obtain ⟨built, latched⟩ := policyLoop_grammar split separates phased upstream.reply
            settings.maxUpstreamCalls
          rw [← sent] at built latched
          obtain ⟨grammar, phases, separated⟩ := grammar_of_phases built latched
          refine ⟨grammar, separated, fun attempt response result choice message last final completes found => ?_⟩
          have completed := completeRebuilt_completed completes
          obtain ⟨calls, batch⟩ := completed.listedCalls found
          by_cases nonempty : calls = []
          · rw [batch, nonempty]
          · obtain ⟨other, _, otherLast, phase, _⟩ := completed.released_batch found batch nonempty
            obtain ⟨rfl, _⟩ := last.unique otherLast
            exact absurd (phases attempt (List.mem_of_getLast? last.sent) final) phase

/-- The run without the harness. -/
theorem completeWithoutHarness_grammar (split : prepared.usePhaseSplit = true)
    (separates : ∀ context : LoopContext, context.prepared = prepared →
      Separates context payload.fields false prepared.messages) :
    GrammarSeparated upstream payload.fields false (completeWithoutHarness py settings upstream prepared) := by
  let context : LoopContext := { py, settings, prepared, degraded := false }
  have shape : completeWithoutHarness py settings upstream prepared =
      { sent := (context.offLoop.run upstream.reply settings.maxUpstreamCalls 0 {}).1
        outcome := (context.offLoop.run upstream.reply settings.maxUpstreamCalls 0 {}).2 } := by
    simp [completeWithoutHarness, split, context]
  obtain ⟨built, latched⟩ := offLoop_grammar (separates context rfl) {} upstream.reply settings.maxUpstreamCalls
  obtain ⟨grammar, phases, separated⟩ := grammar_of_phases built latched
  rw [shape]
  refine ⟨grammar, separated, fun attempt response result choice message last final completes found => ?_⟩
  cases context.offLoop.run_ends_start upstream.reply {} settings.maxUpstreamCalls with
  | stopped reached below reacts lastSent count =>
      have late := phases attempt (List.mem_of_getLast? last.sent) final
      have same := Option.some.inj (lastSent.symm.trans last.sent)
      rw [← same] at late
      have outcome : (context.offLoop.run upstream.reply settings.maxUpstreamCalls 0 {}).2 = .ok result := completes
      rw [outcome] at reacts
      exact offReact_released reacts (Option.some.inj late) found
  | exhausted reached outcome =>
      have contradiction := outcome.symm.trans completes
      cases contradiction

end

def splitSettings : Settings := { defaultSettings with capabilityMode := .phaseSplit }

/-- The tests are to be run, and the request asks for their summary. -/
def formatRequest : JsonObject where
  fields := [("model", .str "m"), ("messages", .arr [userMessage "run the tests"]),
    ("tools", .arr [functionTool "run_tests"]), ("response_format", strictFormat summarySchema)]
  valid := by decide

end HarnessProxy.Service

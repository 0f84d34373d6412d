import HarnessProxy.Service.Complete

namespace HarnessProxy.Service

open HarnessProxy.Json HarnessProxy.Core HarnessProxy.Data HarnessProxy.Transcript

/-! # Every way to a released body

With the harness on a body is released by local projection or as the reply to
one attempt.  The loop never changes the ledger that it was started with.
-/

/-- The two branches of a round that release a response. -/
inductive Released (context : LoopContext) (state : LoopState) (response : Object) : Object → Prop
  | calls {choice message : Object} {calls : List Value} {results : List (Option Text)}
      {harness : AgentHarness} (choices : responseMessage? response = some (choice, message))
      (batch : toolCalls message = .arr calls) (nonempty : calls ≠ [])
      (phase : state.phase ≠ some .finalization)
      (rejected : rejectedResults context.py context.settings.deniedTools state.harness calls =
        .ok (results, harness))
      (accepted : results.any Option.isSome = false) :
      Released context state response (withoutReservedProjectionMarker response)
  | content {choice message : Object} {content : Text} {changed : Bool}
      (choices : responseMessage? response = some (choice, message))
      (noCalls : toolCalls message = .arr [])
      (normalized : normalizeBareJson context.py (validatedContent message) = .ok (content, changed))
      (accepted : state.harness.terminalIssue context.py content = .ok none) :
      Released context state response (withoutReservedProjectionMarker
        (if changed then withContent response choice message content else response))

section
variable {context : LoopContext} {state next : LoopState} {reply : Reply} {stopped : Stopped}
  {result : ChatResult}

theorem correct_stop {turn : List Value} {issue : Text}
    (stops : context.correct state turn issue = .stop stopped) : stopped.outcome = .error retryExhausted := by
  simp only [LoopContext.correct] at stops
  split at stops
  · cases stops
    rfl
  · cases stops

/-- Inversion of a round that releases a response. -/
theorem react_released (reacts : context.react state reply = .stop stopped)
    (released : stopped.outcome = .ok result) :
    ∃ response, reply.answer = .ok response ∧ Released context state response.fields result.body := by
  simp only [LoopContext.react] at reacts
  split at reacts
  · cases reacts
    cases released
  · next response answer =>
    refine ⟨response, answer, ?_⟩
    change LoopContext.reactResponse context (context.answered state reply) response.fields = _ at reacts
    simp only [LoopContext.reactResponse] at reacts
    split at reacts
    · cases reacts
      cases released
    · next choice message choices =>
      split at reacts
      · next noCalls =>
        simp only [LoopContext.reactContent] at reacts
        split at reacts
        · cases reacts
          cases released
        · next content changed normalized =>
          split at reacts
          · cases reacts
            cases released
          · next accepted =>
            cases reacts
            cases released
            exact .content choices noCalls normalized accepted
          · rw [correct_stop reacts] at released
            cases released
      · next calls nonempty batch =>
        simp only [LoopContext.reactCalls] at reacts
        split at reacts
        · rw [correct_stop reacts] at released
          cases released
        · next phase =>
          split at reacts
          · cases reacts
            cases released
          · next results harness rejected =>
            split at reacts
            · next accepted =>
              cases reacts
              cases released
              exact .calls choices batch nonempty phase rejected (by simpa using accepted)
            · split at reacts
              · cases reacts
                cases released
              · cases reacts
      · cases reacts
        cases released

theorem responseMessage?_withoutMarker (response : Object) :
    responseMessage? (withoutReservedProjectionMarker response) = responseMessage? response := by
  have different : Text.literal "choices" ≠ localProjectionExtension := by decide
  simp only [responseMessage?, withoutReservedProjectionMarker, Object.get?_pop_ne _ _ different]

/-- The message of a response whose content was rewritten. -/
theorem responseMessage?_withContent (response choice message : Object) (text : Text) :
    responseMessage? (withContent response choice message text) =
      some (choice.assign "message" (.obj (message.assign "content" (.str text))),
        message.assign "content" (.str text)) := by
  simp [responseMessage?, withContent]

/-! ## What the loop leaves alone -/

theorem enter_harness : (context.enter state).harness = state.harness := by
  unfold LoopContext.enter
  split <;> rfl

theorem correct_again {turn : List Value} {issue : Text}
    (again : context.correct state turn issue = .again next) :
    ledger next.harness = ledger state.harness ∧ next.phase = state.phase := by
  simp only [LoopContext.correct] at again
  split at again
  · cases again
  · cases again
    exact ⟨rfl, rfl⟩

/-- What a round that goes on has changed. -/
theorem react_again (reacts : context.react state reply = .again next) :
    ledger next.harness = ledger state.harness ∧ next.phase = state.phase := by
  simp only [LoopContext.react] at reacts
  split at reacts
  · cases reacts
  · simp only [LoopContext.reactResponse] at reacts
    split at reacts
    · cases reacts
    · split at reacts
      · simp only [LoopContext.reactContent] at reacts
        split at reacts
        · cases reacts
        · split at reacts
          · cases reacts
          · cases reacts
          · have changed := correct_again reacts
            exact changed
      · simp only [LoopContext.reactCalls] at reacts
        split at reacts
        · have changed := correct_again reacts
          exact changed
        · split at reacts
          · cases reacts
          · next results harness rejected =>
            split at reacts
            · cases reacts
            · split at reacts
              · cases reacts
              · cases reacts
                obtain ⟨_, _, judged, rfl⟩ := rejectedResults_judged rejected
                exact ⟨judged.ledger, rfl⟩
      · cases reacts

end

section
variable {py : Python} {settings : Settings} {upstream : Upstream} {prepared : Prepared}
  {options : Options} {payload : JsonObject} {rebuilt : Reconstruction} {result : ChatResult}

/-- The states of the loop keep the ledger of the transcript. -/
theorem reached_ledger {context : LoopContext} {start state : LoopState} {reply : Nat → Reply} {round : Nat}
    (reached : context.policyLoop.Reached reply start round state) :
    ledger state.harness = ledger start.harness := by
  induction reached with
  | start => rfl
  | again earlier reacts ih => exact (react_again reacts).1.trans ((congrArg ledger enter_harness).trans ih)

theorem entered_ledger {context : LoopContext} {start state : LoopState} {reply : Nat → Reply} {round : Nat}
    (reached : context.policyLoop.Reached reply start round state) :
    ledger (context.enter state).harness = ledger start.harness :=
  (congrArg ledger enter_harness).trans (reached_ledger reached)

/-- The batch of the only choice of a body. -/
def releasedCalls (body : Object) : Option (List Value) :=
  (responseMessage? body).bind fun found => (found.2.get? "tool_calls").bind Value.asList?

theorem releasedCalls_eq_some {body : Object} {calls : List Value} :
    releasedCalls body = some calls ↔ ∃ choice message,
      responseMessage? body = some (choice, message) ∧ message.get? "tool_calls" = some (.arr calls) := by
  unfold releasedCalls
  cases responseMessage? body with
  | none => simp
  | some found =>
      obtain ⟨choice, message⟩ := found
      simp only [Option.bind_some, Option.bind_eq_some_iff, Option.some.injEq, Prod.mk.injEq, Value.asList?]
      constructor
      · rintro ⟨value, present, isList⟩
        split at isList
        · cases isList
          exact ⟨choice, message, ⟨rfl, rfl⟩, present⟩
        · cases isList
      · rintro ⟨_, _, ⟨rfl, rfl⟩, present⟩
        exact ⟨_, present, rfl⟩

/-- The content of the only choice of a body. -/
def releasedContent (body : Object) : Option Value :=
  (responseMessage? body).bind fun found => found.2.get? "content"

/-- The last request of a run, and the response to it. -/
structure LastReply (upstream : Upstream) (run : Run) (attempt : Attempt) (response : JsonObject) : Prop where
  sent : run.sent.getLast? = some attempt
  answer : (upstream.reply (run.sent.length - 1)).answer = .ok response

theorem LastReply.unique {run : Run} {attempt other : Attempt} {response second : JsonObject}
    (left : LastReply upstream run attempt response) (right : LastReply upstream run other second) :
    attempt = other ∧ response = second := by
  obtain ⟨sent, answer⟩ := left
  rw [right.sent] at sent
  rw [right.answer] at answer
  cases sent
  cases answer
  exact ⟨rfl, rfl⟩

/-- How `complete` comes to a body with the harness on. -/
inductive Completed (py : Python) (settings : Settings) (upstream : Upstream) (prepared : Prepared)
    (rebuilt : Reconstruction) (run : Run) (body : Object) : Prop
  | projected {content : Text} (sent : run.sent = [])
      (projection : projectLatestIfCurrent py prepared.messages rebuilt = .ok (some content))
      (shape : body = projectedResponse py (modelOf prepared) content)
  | replied {round : Nat} {state : LoopState} {response : JsonObject}
      (noProjection : projectLatestIfCurrent py prepared.messages rebuilt = .ok none)
      (reached : (loopContext py settings prepared rebuilt).policyLoop.Reached upstream.reply
        (initialState prepared rebuilt) round state)
      (last : LastReply upstream run ((loopContext py settings prepared rebuilt).request
        ((loopContext py settings prepared rebuilt).enter state)) response)
      (released : Released (loopContext py settings prepared rebuilt)
        ((loopContext py settings prepared rebuilt).enter state) response.fields body)

theorem completeRebuilt_completed
    (completes : (completeRebuilt py settings upstream prepared rebuilt).outcome = .ok result) :
    Completed py settings upstream prepared rebuilt (completeRebuilt py settings upstream prepared rebuilt)
      result.body := by
  unfold completeRebuilt at completes ⊢
  split at completes
  · cases completes
  · next content projection =>
    cases completes
    exact .projected rfl projection rfl
  · next noProjection =>
    dsimp only at completes ⊢
    have ends := (loopContext py settings prepared rebuilt).policyLoop.run_ends_start upstream.reply
      (initialState prepared rebuilt) settings.maxUpstreamCalls
    cases ends with
    | stopped reached _ reacts last count =>
        obtain ⟨response, answer, released⟩ := react_released reacts completes
        rw [Nat.zero_add] at count
        exact .replied noProjection reached ⟨last, by rw [count]; exact answer⟩ released
    | exhausted reached outcome =>
        rw [outcome] at completes
        cases completes

/-- Inversion of a whole request. -/
theorem complete_completed (enabled : options.harnessEnabled = true)
    (completes : (complete py settings upstream options payload).outcome = .ok result) :
    ∃ prepared rebuilt,
      prepareRequest py settings options upstream.combinedSupported payload.fields = .ok prepared ∧
      rebuild py prepared = .ok rebuilt ∧
      Completed py settings upstream prepared rebuilt (complete py settings upstream options payload)
        result.body := by
  unfold complete at completes ⊢
  split at completes
  · cases completes
  · next prepared ran =>
    simp only [enabled, if_true, completeWithHarness] at completes ⊢
    split at completes
    · cases completes
    · next rebuilt read =>
      exact ⟨prepared, rebuilt, ran, read, completeRebuilt_completed completes⟩

end

end HarnessProxy.Service

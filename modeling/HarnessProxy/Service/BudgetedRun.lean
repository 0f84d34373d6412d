import HarnessProxy.Service.Disturbance

namespace HarnessProxy.Service

open HarnessProxy.Json HarnessProxy.Core HarnessProxy.Data HarnessProxy.Projection HarnessProxy.Transcript

/-! # Every run keeps its budgets

A run sends at most as many requests as its budgets allow, ends in one of the
planned ways and reports what its last request shows, unless a response raises
past every handler.
-/

/-- What a run reports is what it has sent after the messages that it was opened
with. -/
def Reports (opening : List Value) (run : Run) (telemetry : Telemetry) : Prop :=
  telemetry.upstreamCalls = run.sent.length ∧
    ∃ appended, telemetry.interventions = shownInterventions appended ∧ (run.sent = [] → appended = []) ∧
      ∀ attempt, run.sent.getLast? = some attempt →
        attempt.payload.get? "messages" = some (.arr (opening ++ appended))

/-- The run keeps its budgets. -/
structure Budgeted (upstream : Upstream) (limit : Nat) (opening : List Value) (run : Run) : Prop where
  calls : run.sent.length ≤ limit
  corrections : ∀ counts, run.interventions = some counts → counts.corrections ≤ 2
  ends : (∃ result, run.outcome = .ok result) ∨
    ∃ raised, run.outcome = .error raised ∧ PlannedError (upstream.reply (run.sent.length - 1)) raised
  reports : ∀ result, run.outcome = .ok result → Reports opening run result.telemetry

section
variable {context : LoopContext} {state next : LoopState} {reply : Nat → Reply}

theorem outboundPayload_messages (payload : Object) (messages : List Value) (phase : Option CapabilityPhase) :
    (outboundPayload payload messages phase).get? "messages" = some (.arr messages) := by
  have different {key : Text} (other : key ≠ "messages") (fields : Object) :
      (fields.pop key).get? "messages" = fields.get? "messages" := Object.get?_pop_ne _ _ (Ne.symm other)
  have assigned : (payload.assign "messages" (.arr messages)).get? "messages" = some (.arr messages) :=
    Object.get?_assign_self ..
  cases phase with
  | none => exact assigned
  | some phase =>
      cases phase with
      | acquisition => rw [outboundPayload, different (by decide), assigned]
      | finalization =>
          rw [outboundPayload, different (by decide), different (by decide),
            different (by decide), assigned]

theorem request_messages : (context.request state).payload.get? "messages" = some (.arr state.workingMessages) := by
  have kept : Text.literal "messages" ≠ "tool_choice" := by decide
  unfold LoopContext.request
  dsimp only
  split
  · rw [Object.get?_assign_ne _ _ _ kept, outboundPayload_messages]
  · exact outboundPayload_messages _ _ _

/-- Every state that the loop reaches has spent one retry and one call a round. -/
theorem reached_shown {opening : List Value} {start : LoopState} {round : Nat}
    (shown : Shown context opening start) (fresh : start.internalRetries = 0 ∧ start.upstreamCalls = 0)
    (reached : context.policyLoop.Reached reply start round state) :
    Shown context opening state ∧ state.internalRetries = round ∧ state.upstreamCalls = round := by
  induction reached with
  | start => exact ⟨shown, fresh⟩
  | @again round state next earlier reacts ih =>
      obtain ⟨before, retries, calls⟩ := ih
      have entered := @enter_spends_nothing context state
      obtain ⟨after, spent, called⟩ := react_shown (enter_shown before) reacts
      exact ⟨after, by omega, by omega⟩

theorem initialState_shown {py : Python} {settings : Settings} {prepared : Prepared} {rebuilt : Reconstruction}
    (read : rebuild py prepared = .ok rebuilt) :
    Shown (loopContext py settings prepared rebuilt) (injectHarness prepared.messages rebuilt)
      (initialState prepared rebuilt) := by
  have none := rebuild_interventions read
  refine ⟨⟨[], (List.append_nil _).symm, none⟩, ?_, Nat.zero_le _⟩
  rw [show (initialState prepared rebuilt).harness.terminalCorrections = 0 from congrArg Interventions.corrections none]
  exact Nat.zero_le 2

end

/-! ## The loop without the harness -/

section
variable {context : LoopContext} {off next : OffState}

/-- The first answer may open the finalization; every other round is a retry. -/
structure OffSpent (context : LoopContext) (round : Nat) (off : OffState) : Prop where
  calls : off.upstreamCalls = round
  retries : off.retries ≤ context.settings.maxInternalRetries
  rounds : match off.phase with
    | .acquisition => round = 0 ∧ off.retries = 0
    | .finalization => round = off.retries + 1

theorem offRetry_spent {round : Nat} (calls : off.upstreamCalls = round + 1) (phase : off.phase = .finalization)
    (rounds : round = off.retries + 1) (again : context.offRetry off = .again next) :
    OffSpent context (round + 1) next := by
  unfold LoopContext.offRetry at again
  split at again
  · cases again
  · next unspent =>
    cases again
    refine ⟨calls, Nat.lt_of_not_le unspent, ?_⟩
    dsimp only
    rw [phase]
    exact congrArg (· + 1) rounds

theorem offReact_spent {round : Nat} {reply : Reply} (spent : OffSpent context round off)
    (reacts : context.offReact off reply = .again next) : OffSpent context (round + 1) next := by
  have calls : (context.offAnswered off reply).upstreamCalls = round + 1 := congrArg (· + 1) spent.calls
  unfold LoopContext.offReact at reacts
  split at reacts
  · cases reacts
  · unfold LoopContext.offReactResponse at reacts
    split at reacts
    · cases reacts
    · split at reacts
      · unfold LoopContext.offReactContent at reacts
        have rounds := spent.rounds
        split at reacts
        · next acquiring =>
          -- the first answer without calls opens the finalization
          cases reacts
          have first : off.phase = .acquisition := acquiring
          rw [first] at rounds
          exact ⟨calls, spent.retries, by simp [rounds, LoopContext.offAnswered]⟩
        · next finalizing =>
          have phase : off.phase = .finalization := finalizing
          rw [phase] at rounds
          split at reacts
          · cases reacts
          · cases reacts
          · exact offRetry_spent calls finalizing rounds reacts
      · split at reacts
        · cases reacts
        · next finalizing =>
          have rounds := spent.rounds
          have phase : off.phase = .finalization := by
            cases shape : off.phase with
            | finalization => rfl
            | acquisition => exact absurd shape finalizing
          rw [phase] at rounds
          exact offRetry_spent calls phase rounds reacts
      · cases reacts

end

/-! ## Whole runs -/

section
variable {py : Python} {settings : Settings} {upstream : Upstream} {options : Options} {payload : JsonObject}
  {prepared : Prepared} {rebuilt : Reconstruction}

/-- The projection of the transcript returns, and if it declines, no response
that the loop asks for raises past it. -/
structure Undisturbed (py : Python) (settings : Settings) (upstream : Upstream) (prepared : Prepared)
    (rebuilt : Reconstruction) : Prop where
  projection : ∃ content, projectLatestIfCurrent py prepared.messages rebuilt = .ok content
  responses : projectLatestIfCurrent py prepared.messages rebuilt = .ok none →
    ∀ round state response, (loopContext py settings prepared rebuilt).policyLoop.Reached upstream.reply
        (initialState prepared rebuilt) round state → round < settings.maxUpstreamCalls →
      (upstream.reply round).answer = .ok response →
      ¬ Disturbs (loopContext py settings prepared rebuilt)
        ((loopContext py settings prepared rebuilt).enter state) response.fields

def offContext (py : Python) (settings : Settings) (prepared : Prepared) : LoopContext :=
  { py, settings, prepared, degraded := false }

/-- No response that the loop without the harness asks for raises past it. -/
def OffUndisturbed (py : Python) (settings : Settings) (upstream : Upstream) (prepared : Prepared) : Prop :=
  ∀ round off response, (offContext py settings prepared).offLoop.Reached upstream.reply {} round off →
    round < settings.maxUpstreamCalls → (upstream.reply round).answer = .ok response →
    ¬ OffDisturbs (offContext py settings prepared) off response.fields

/-- The run of the policy loop keeps its budgets unless it crashes. -/
theorem policyRun_budgeted (read : rebuild py prepared = .ok rebuilt)
    (projection : projectLatestIfCurrent py prepared.messages rebuilt = .ok none)
    (returns : ¬ Crashes (completeRebuilt py settings upstream prepared rebuilt).outcome) :
    Budgeted upstream (min settings.maxUpstreamCalls (settings.maxInternalRetries + 1))
      (injectHarness prepared.messages rebuilt) (completeRebuilt py settings upstream prepared rebuilt) := by
  have start := @initialState_shown _ settings _ _ read
  have shown {round : Nat} {state : LoopState} (reached : (loopContext py settings prepared rebuilt).policyLoop.Reached
      upstream.reply (initialState prepared rebuilt) round state) := reached_shown start ⟨rfl, rfl⟩ reached
  have early (round : Nat) (state : LoopState) (reached : (loopContext py settings prepared rebuilt).policyLoop.Reached
      upstream.reply (initialState prepared rebuilt) round state) : round ≤ settings.maxInternalRetries :=
    (shown reached).2.1 ▸ (shown reached).1.retries
  have few := @BoundedLoop.run_length_le _ _ _ _ _ _ _ _ settings.maxUpstreamCalls _ _ early .start
  have bounded := @BoundedLoop.run_sent_length _ _ _ _ (loopContext py settings prepared rebuilt).policyLoop upstream.reply
    (initialState prepared rebuilt) settings.maxUpstreamCalls 0
  unfold completeRebuilt at returns ⊢
  rw [projection] at returns ⊢
  dsimp only at returns ⊢
  have ends := (loopContext py settings prepared rebuilt).policyLoop.run_ends_start upstream.reply
    (initialState prepared rebuilt) settings.maxUpstreamCalls
  generalize (loopContext py settings prepared rebuilt).policyLoop.run upstream.reply settings.maxUpstreamCalls 0
    (initialState prepared rebuilt) = result at few bounded ends returns ⊢
  have limited : result.1.length ≤ min settings.maxUpstreamCalls (settings.maxInternalRetries + 1) :=
    Nat.le_min.mpr ⟨bounded, few⟩
  cases ends with
  | @stopped round state reached below reacts last count =>
      obtain ⟨before, retries, calls⟩ := shown reached
      have entered := enter_shown before
      have closes : Closes ((loopContext py settings prepared rebuilt).answered _ _) _ _ := closes_of_stop reacts
      have same : result.1.length - 1 = round := by omega
      refine ⟨limited, ?_, ?_, ?_⟩
      · intro counts snapshot
        cases snapshot
        exact closes.corrections.trans_le entered.corrections
      · cases ended : result.2.outcome with
        | ok released => exact Or.inl ⟨released, rfl⟩
        | error raised =>
            refine Or.inr ⟨raised, rfl, ?_⟩
            rcases closes.fails raised ended with planned | ⟨error, rfl⟩
            · rw [same]
              exact planned
            · exact absurd ⟨error, ended⟩ returns
      · intro released ended
        obtain ⟨called, counted⟩ := closes.reports released ended
        obtain ⟨appended, messages, shows⟩ := entered.messages
        refine ⟨?_, appended, counted.trans shows, ?_, ?_⟩
        · have entries := @enter_spends_nothing (loopContext py settings prepared rebuilt) state
          have answered : released.telemetry.upstreamCalls =
              ((loopContext py settings prepared rebuilt).enter state).upstreamCalls + 1 := called
          dsimp only
          omega
        · intro empty
          rw [show result.1 = [] from empty] at last
          cases last
        · intro attempt sent
          cases last.symm.trans sent
          exact request_messages.trans (congrArg (some ∘ Value.arr) messages)
  | exhausted reached outcome =>
      have before := (shown reached).1
      refine ⟨limited, ?_, Or.inr ⟨retryExhausted, congrArg Stopped.outcome outcome, .exhausted⟩, ?_⟩
      · intro counts snapshot
        cases snapshot
        rw [show result.2 = _ from outcome]
        exact before.corrections
      · intro released ended
        have raised : result.2.outcome = .error retryExhausted := congrArg Stopped.outcome outcome
        cases raised.symm.trans ended

theorem Budgeted.not_crashes {limit : Nat} {opening : List Value} {run : Run}
    (budgeted : Budgeted upstream limit opening run) : ¬ Crashes run.outcome := by
  rintro ⟨error, crashed⟩
  rcases budgeted.ends with ⟨result, ended⟩ | ⟨raised, ended, planned⟩
  · cases crashed.symm.trans ended
  · cases crashed.symm.trans ended
    generalize same : Raised.python error = raised at planned
    cases planned <;> cases same

/-- A rebuilt transcript crashes exactly when it is disturbed. -/
theorem completeRebuilt_crashes_iff (accepted : Accepted py settings options payload.fields prepared)
    (read : rebuild py prepared = .ok rebuilt) :
    ¬ Crashes (completeRebuilt py settings upstream prepared rebuilt).outcome ↔
      Undisturbed py settings upstream prepared rebuilt := by
  have primitive {round : Nat} {state : LoopState} (reached : (loopContext py settings prepared rebuilt).policyLoop.Reached
      upstream.reply (initialState prepared rebuilt) round state) :
      PrimitiveTypes ((loopContext py settings prepared rebuilt).enter state).harness.requiredJsonTypes := by
    rw [(rebuild_enforces read (entered_ledger reached)).types]
    exact contract_primitive accepted.contract
  unfold completeRebuilt
  cases projection : projectLatestIfCurrent py prepared.messages rebuilt with
  | error error =>
      refine ⟨fun returns => absurd ⟨error, rfl⟩ returns, fun undisturbed => ?_⟩
      obtain ⟨content, projected⟩ := undisturbed.projection
      cases projection.symm.trans projected
  | ok found =>
      cases found with
      | some content =>
          constructor
          · exact fun _ => ⟨⟨_, projection⟩, fun declines => by cases projection.symm.trans declines⟩
          · rintro _ ⟨error, crashed⟩
            cases crashed
      | none =>
          have ends := @BoundedLoop.run_outcome_iff _ _ _ _ (loopContext py settings prepared rebuilt).policyLoop upstream.reply
            (initialState prepared rebuilt) (fun stopped => Crashes stopped.outcome) settings.maxUpstreamCalls fun state crashed => by
              obtain ⟨error, same⟩ := crashed
              cases same
          dsimp only
          rw [not_congr ends]
          constructor
          · intro none
            refine ⟨⟨_, projection⟩, fun _ round state response reached below answer disturbs => none ?_⟩
            obtain ⟨stopped, stops, crashed⟩ := (react_crashes_iff (primitive reached)).mpr ⟨response, answer, disturbs⟩
            exact ⟨round, state, stopped, reached, below, stops, crashed⟩
          · rintro undisturbed ⟨round, state, stopped, reached, below, stops, crashed⟩
            obtain ⟨response, answer, disturbs⟩ := (react_crashes_iff (primitive reached)).mp ⟨stopped, stops, crashed⟩
            exact undisturbed.responses projection round state response reached below answer disturbs

theorem completeRebuilt_budgeted_iff (accepted : Accepted py settings options payload.fields prepared)
    (read : rebuild py prepared = .ok rebuilt) :
    Budgeted upstream (min settings.maxUpstreamCalls (settings.maxInternalRetries + 1))
        (injectHarness prepared.messages rebuilt) (completeRebuilt py settings upstream prepared rebuilt) ↔
      Undisturbed py settings upstream prepared rebuilt := by
  rw [← completeRebuilt_crashes_iff accepted read]
  constructor
  · exact Budgeted.not_crashes
  · intro returns
    cases projection : projectLatestIfCurrent py prepared.messages rebuilt with
    | error error =>
        refine absurd ⟨error, ?_⟩ returns
        rw [completeRebuilt, projection]
    | ok found =>
        cases found with
        | none => exact policyRun_budgeted read projection returns
        | some content =>
            rw [completeRebuilt, projection]
            refine ⟨Nat.zero_le _, ?_, Or.inl ⟨_, rfl⟩, ?_⟩
            · intro counts snapshot
              cases snapshot
              rw [rebuild_interventions read]
              exact Nat.zero_le 2
            · intro result ended
              cases ended
              refine ⟨rfl, [], ?_, fun _ => rfl, fun attempt sent => by cases sent⟩
              exact rebuild_interventions read

theorem offReached_spent {context : LoopContext} {reply : Nat → Reply} {round : Nat} {off : OffState}
    (reached : context.offLoop.Reached reply {} round off) : OffSpent context round off := by
  induction reached with
  | start => exact ⟨rfl, Nat.zero_le _, rfl, rfl⟩
  | again earlier reacts ih => exact offReact_spent ih reacts

theorem offRequest_messages (context : LoopContext) (off : OffState) :
    (context.offRequest off).payload.get? "messages" = some (.arr context.prepared.messages) :=
  outboundPayload_messages _ _ _

/-- How a round without the harness stops. -/
structure OffCloses (calls : Nat) (reply : Reply) (outcome : LoopContext.OffStopped) : Prop where
  reports : ∀ result, outcome = .ok result → result.telemetry.upstreamCalls = calls ∧
    result.telemetry.interventions = noInterventions
  fails : ∀ raised, outcome = .error raised → PlannedError reply raised ∨ ∃ error, raised = .python error

theorem offFails {calls : Nat} {reply : Reply} {raised : Raised}
    (expected : PlannedError reply raised ∨ ∃ error, raised = .python error) :
    OffCloses calls reply (.error raised) where
  reports _ released := by cases released
  fails _ failed := by
    cases failed
    exact expected

theorem offResult_closes (context : LoopContext) (calls : Nat) (reply : Reply) (response : Object) :
    OffCloses calls reply (context.offResult calls response) where
  reports _ released := by
    cases released
    exact ⟨rfl, rfl⟩
  fails _ failed := by cases failed

theorem offRetry_closes (context : LoopContext) (off : OffState) (calls : Nat) (reply : Reply) :
    (context.offRetry off).Promises (fun _ => True) (OffCloses calls reply) := by
  unfold LoopContext.offRetry
  split
  · exact offFails (.inl .exhausted)
  · trivial

theorem offReact_closes (context : LoopContext) (off : OffState) (reply : Reply) :
    (context.offReact off reply).Promises (fun _ => True) (OffCloses (off.upstreamCalls + 1) reply) := by
  unfold LoopContext.offReact
  split
  · next error answer => exact offFails (.inl (.upstream answer))
  · unfold LoopContext.offReactResponse
    split
    · exact offFails (.inl (.malformed (by simp)))
    · split
      · unfold LoopContext.offReactContent
        split
        · trivial
        · split
          · exact offFails (.inr ⟨_, rfl⟩)
          · apply offResult_closes
          · apply offRetry_closes
      · split
        · apply offResult_closes
        · apply offRetry_closes
      · exact offFails (.inl (.malformed (by simp)))

theorem offCloses_of_stop {context : LoopContext} {off : OffState} {reply : Reply} {outcome : LoopContext.OffStopped}
    (stops : context.offReact off reply = .stop outcome) : OffCloses (off.upstreamCalls + 1) reply outcome := by
  have closes := offReact_closes context off reply
  rwa [stops] at closes

/-- What `complete` does without the harness in the split phases. -/
def offRun (py : Python) (settings : Settings) (upstream : Upstream) (prepared : Prepared) : Run :=
  let result := (offContext py settings prepared).offLoop.run upstream.reply settings.maxUpstreamCalls 0 {}
  { sent := result.1, outcome := result.2 }

theorem offRun_budgeted
    (returns : ¬ Crashes (offRun py settings upstream prepared).outcome) :
    Budgeted upstream (min settings.maxUpstreamCalls (settings.maxInternalRetries + 2)) prepared.messages
      (offRun py settings upstream prepared) := by
  have early (round : Nat) (off : OffState)
      (reached : (offContext py settings prepared).offLoop.Reached upstream.reply {} round off) :
      round ≤ settings.maxInternalRetries + 1 := by
    obtain ⟨_, retries, rounds⟩ := offReached_spent reached
    have retries : off.retries ≤ settings.maxInternalRetries := retries
    cases phase : off.phase with
    | acquisition =>
        rw [phase] at rounds
        omega
    | finalization =>
        rw [phase] at rounds
        omega
  have few := @BoundedLoop.run_length_le _ _ _ _ _ _ _ _ settings.maxUpstreamCalls _ _ early .start
  have bounded := @BoundedLoop.run_sent_length _ _ _ _ (offContext py settings prepared).offLoop upstream.reply {} settings.maxUpstreamCalls 0
  have ends := (offContext py settings prepared).offLoop.run_ends_start upstream.reply {} settings.maxUpstreamCalls
  unfold offRun at returns ⊢
  dsimp only at returns ⊢
  generalize (offContext py settings prepared).offLoop.run upstream.reply settings.maxUpstreamCalls 0 {} = result
    at few bounded ends returns ⊢
  have limited : result.1.length ≤ min settings.maxUpstreamCalls (settings.maxInternalRetries + 2) :=
    Nat.le_min.mpr ⟨bounded, few⟩
  cases ends with
  | @stopped round off reached below reacts last count =>
      have calls := (offReached_spent reached).calls
      have closes : OffCloses (off.upstreamCalls + 1) (upstream.reply round) result.2 := offCloses_of_stop reacts
      have same : result.1.length - 1 = round := by omega
      refine ⟨limited, (fun _ snapshot => by cases snapshot), ?_, ?_⟩
      · cases ended : result.2 with
        | ok released => exact Or.inl ⟨released, rfl⟩
        | error raised =>
            refine Or.inr ⟨raised, rfl, ?_⟩
            rcases closes.fails raised ended with planned | ⟨error, rfl⟩
            · rw [same]
              exact planned
            · exact absurd ⟨error, ended⟩ returns
      · intro released ended
        obtain ⟨called, counted⟩ := closes.reports released ended
        refine ⟨?_, [], counted, fun _ => rfl, ?_⟩
        · dsimp only
          omega
        · intro attempt sent
          cases last.symm.trans sent
          rw [List.append_nil]
          exact offRequest_messages _ _
  | exhausted reached outcome =>
      have raised : result.2 = .error retryExhausted := outcome
      refine ⟨limited, (fun _ snapshot => by cases snapshot), Or.inr ⟨retryExhausted, raised, .exhausted⟩, ?_⟩
      intro released ended
      cases raised.symm.trans ended

theorem offRun_crashes_iff (accepted : Accepted py settings options payload.fields prepared) :
    ¬ Crashes (offRun py settings upstream prepared).outcome ↔ OffUndisturbed py settings upstream prepared := by
  have primitive : PrimitiveTypes (offContext py settings prepared).prepared.contract.types :=
    contract_primitive accepted.contract
  have ends := @BoundedLoop.run_outcome_iff _ _ _ _ (offContext py settings prepared).offLoop upstream.reply {}
    (fun outcome => Crashes outcome) settings.maxUpstreamCalls fun off crashed => by
      obtain ⟨error, same⟩ := crashed
      cases same
  refine (not_congr ends).trans ⟨fun none round off response reached below answer disturbs => none ?_, ?_⟩
  · obtain ⟨outcome, stops, crashed⟩ := (offReact_crashes_iff primitive).mpr ⟨response, answer, disturbs⟩
    exact ⟨round, off, outcome, reached, below, stops, crashed⟩
  · rintro undisturbed ⟨round, off, outcome, reached, below, stops, crashed⟩
    obtain ⟨response, answer, disturbs⟩ := (offReact_crashes_iff primitive).mp ⟨outcome, stops, crashed⟩
    exact undisturbed round off response reached below answer disturbs

end

def askRequest : JsonObject where
  fields := [("model", .str "m"), ("messages", .arr [userMessage "read the file"])]
  valid := by decide

theorem askRequest_accepted : ∃ prepared rebuilt,
    prepareRequest .reference defaultSettings {} false askRequest.fields = .ok prepared ∧
    rebuild .reference prepared = .ok rebuilt := by
  have returns : ((prepareRequest .reference defaultSettings {} false askRequest.fields).toOption.bind fun prepared =>
      (rebuild .reference prepared).toOption).isSome = true := by decide
  cases ran : prepareRequest .reference defaultSettings {} false askRequest.fields with
  | error raised =>
      rw [ran] at returns
      cases returns
  | ok prepared =>
      rw [ran] at returns
      cases read : rebuild .reference prepared with
      | error raised =>
          simp only [Except.toOption, Option.bind_some, read] at returns
          cases returns
      | ok rebuilt => exact ⟨prepared, rebuilt, rfl, read⟩

/-- An upstream that proposes one call, whose name is half of a surrogate pair. -/
def surrogateUpstream : Upstream where
  reply _ := callsReply [functionCall "c" [chr 0xd800] "\x7b\x7d"]

def wordsMessage : Object := [("role", .str "assistant"), ("content", .str "done")]

/-- An upstream that always answers in words. -/
def wordsUpstream : Upstream where
  reply _ := contentReply (.str "done") trivial

end HarnessProxy.Service

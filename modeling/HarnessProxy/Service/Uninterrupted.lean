import HarnessProxy.Service.Watched

namespace HarnessProxy.Service

open HarnessProxy.Json HarnessProxy.Core HarnessProxy.Data HarnessProxy.Projection HarnessProxy.Transcript

/-! # Without interruptions a task runs as `complete`

The task of the endpoint sends what `complete` sends and ends as it ends, and
the last snapshot is the one that `complete` reports.
-/

/-- Every await of the upstream gives a reply. -/
def Upstream.uninterrupted (upstream : Upstream) : Awaited where
  combinedSupported := .ok upstream.combinedSupported
  reply round := .ok (upstream.reply round)

def SameLoop (watched : Watched) (state : LoopState) : Prop := watched.loop = state ∧ watched.Settled

def SameStop (finished : Finished) (stopped : Stopped) : Prop :=
  finished.ending = ended stopped.outcome ∧
    (finished.crashed = false → finished.recorded.counts = stopped.snapshot)

namespace LoopContext

variable {context : LoopContext} {watched : Watched}

theorem raise_same (settled : watched.Settled) (raised : Raised) :
    SameStop (watched.raise raised) (raise watched.loop raised) :=
  ⟨rfl, fun _ => by rw [Watched.raise, Watched.finish, settled]; rfl⟩

theorem release_same (settled : watched.Settled) (response : Object) :
    SameStop (watched.finish (ended (context.release watched.loop response).outcome))
      (context.release watched.loop response) :=
  ⟨rfl, fun _ => by rw [Watched.finish, settled]; rfl⟩

theorem watchedCorrect_same (settled : watched.Settled) (turn : List Value) (issue : Text) :
    Verdict.Related SameLoop SameStop (context.watchedCorrect watched turn issue)
      (context.correct watched.loop turn issue) := by
  unfold watchedCorrect correct
  split
  · exact .stop (raise_same settled retryExhausted)
  · exact .again ⟨rfl, Watched.snapshot_settled _⟩

theorem watchedCalls_same (settled : watched.Settled) (response message : Object) (calls : List Value) :
    Verdict.Related SameLoop SameStop (context.watchedCalls watched response message calls)
      (context.reactCalls watched.loop response message calls) := by
  unfold watchedCalls reactCalls
  split
  · exact watchedCorrect_same settled _ _
  · cases rejectedResults context.py context.settings.deniedTools watched.loop.harness calls with
    | error error => exact .stop (raise_same settled _)
    | ok judged =>
        obtain ⟨results, harness⟩ := judged
        dsimp only
        split
        · exact .stop (release_same (Watched.snapshot_settled _) response)
        · split
          · exact .stop (raise_same (Watched.snapshot_settled _) retryExhausted)
          · exact .again ⟨rfl, Watched.snapshot_settled _⟩

theorem watchedContent_same (settled : watched.Settled) (response choice message : Object) :
    Verdict.Related SameLoop SameStop (context.watchedContent watched response choice message)
      (context.reactContent watched.loop response choice message) := by
  unfold watchedContent reactContent
  cases normalizeBareJson context.py (validatedContent message) with
  | error error => exact .stop (raise_same settled _)
  | ok normalized =>
      obtain ⟨content, changed⟩ := normalized
      dsimp only
      cases watched.loop.harness.terminalIssue context.py content with
      | error error => exact .stop (raise_same settled _)
      | ok issue =>
          cases issue with
          | none => exact .stop (release_same settled _)
          | some issue => exact watchedCorrect_same settled _ _

theorem watchedReact_same (settled : watched.Settled) (reply : Reply) :
    Verdict.Related SameLoop SameStop (context.watchedReact watched reply)
      (context.react watched.loop reply) := by
  unfold watchedReact react
  cases reply.answer with
  | error error => exact .stop (raise_same settled _)
  | ok response =>
      have answered : Watched.Settled { watched with loop := context.answered watched.loop reply } := settled
      simp only [watchedResponse, reactResponse]
      cases responseMessage? response.fields with
      | none => exact .stop (raise_same answered _)
      | some found =>
          obtain ⟨choice, message⟩ := found
          dsimp only
          cases toolCalls message with
          | arr calls =>
              cases calls with
              | nil => exact watchedContent_same answered _ _ _
              | cons call rest => exact watchedCalls_same answered _ _ _
          | null | bool _ | int _ | float _ | str _ | obj _ => exact .stop (raise_same answered _)

theorem interruptedLoop_same (context : LoopContext) (reply : Nat → Reply) (rounds : Nat) {watched : Watched}
    (settled : watched.Settled) :
    (context.interruptedLoop.run (fun round => .ok (reply round)) rounds 0 watched).1 =
        (context.policyLoop.run reply rounds 0 watched.loop).1 ∧
      SameStop (context.interruptedLoop.run (fun round => .ok (reply round)) rounds 0 watched).2
        (context.policyLoop.run reply rounds 0 watched.loop).2 := by
  refine BoundedLoop.run_simulates (R := SameLoop) ?_ ?_ ?_ ⟨rfl, settled⟩
  · rintro state _ ⟨rfl, _⟩
    rfl
  · rintro round state _ ⟨rfl, current⟩
    exact watchedReact_same (enter_settled _ current) (reply round)
  · rintro state _ ⟨rfl, current⟩
    exact raise_same current retryExhausted

theorem interruptedOffLoop_same (context : LoopContext) (reply : Nat → Reply) (rounds : Nat) (state : OffState) :
    (context.interruptedOffLoop.run (fun round => .ok (reply round)) rounds 0 state).1 =
        (context.offLoop.run reply rounds 0 state).1 ∧
      (context.interruptedOffLoop.run (fun round => .ok (reply round)) rounds 0 state).2 =
        ended (context.offLoop.run reply rounds 0 state).2 := by
  refine BoundedLoop.run_simulates (R := Eq) (Q := fun ending outcome => ending = ended outcome) ?_ ?_ ?_ rfl
  · rintro state _ rfl
    rfl
  · rintro round state _ rfl
    cases reacted : context.offLoop.react (context.offLoop.enter state) (reply round) with
    | again next =>
        simp only [interruptedOffLoop, reacted]
        exact .again rfl
    | stop outcome =>
        simp only [interruptedOffLoop, reacted]
        exact .stop rfl
  · rintro state _ rfl
    rfl

end LoopContext

section
variable {py : Python} {settings : Settings} {upstream : Upstream} {options : Options}

/-- The probe is awaited exactly where `prepareRequest` reads its result. -/
theorem prepareAwaited_uninterrupted (payload : Object) :
    prepareAwaited py settings upstream.uninterrupted options payload =
      match prepareRequest py settings options upstream.combinedSupported payload with
      | .ok prepared => .ok prepared
      | .error raised => .error (.raised raised) := by
  unfold prepareAwaited prepareRequest
  cases validateChatPayload payload options.harnessEnabled with
  | error raised => rfl
  | ok _ =>
      cases checkExtensions py settings options payload with
      | error raised => rfl
      | ok _ =>
          cases preparedTools settings options (payload.get? "tools") with
          | error raised => rfl
          | ok prepared =>
              obtain ⟨tools, roles, used⟩ := prepared
              simp only [bind, Except.bind]
              cases uncaught (responseSchemaContract ((forwardedPayload payload tools).get? "response_format")) with
              | error raised => rfl
              | ok contract =>
                  dsimp only
                  cases unsupportedSchema settings tools (forwardedPayload payload tools) contract with
                  | true => rfl
                  | false =>
                      cases requires : requiresCombinedCapability settings.capabilityMode (!tools.isEmpty)
                          ((forwardedPayload payload tools).has "response_format")
                          contract.strictPrimitiveObject <;>
                        cases supported : upstream.combinedSupported <;>
                        simp [raiseIf, requires, supported, Upstream.uninterrupted, pure, Except.pure]

/-- What a task does and what `complete` does. -/
structure SameRun (finished : Finished) (run : Run) : Prop where
  sent : finished.sent = run.sent
  ending : finished.ending = ended run.outcome
  counts : ∀ counts, run.interventions = some counts → finished.crashed = false →
    finished.recorded.counts = counts

theorem watchWithoutHarness_same (prepared : Prepared) :
    SameRun (watchWithoutHarness py settings upstream.uninterrupted prepared)
      (completeWithoutHarness py settings upstream prepared) := by
  unfold watchWithoutHarness completeWithoutHarness
  split
  · obtain ⟨sent, ending⟩ := LoopContext.interruptedOffLoop_same
      { py, settings, prepared, degraded := false } upstream.reply settings.maxUpstreamCalls {}
    exact ⟨sent, ending, fun _ same => by cases same⟩
  · refine ⟨rfl, ?_, fun _ same => by cases same⟩
    dsimp only [passThrough, Upstream.uninterrupted]
    cases (upstream.reply 0).answer <;> rfl

theorem watchRebuilt_same (prepared : Prepared) (rebuilt : Reconstruction) :
    SameRun (watchRebuilt py settings upstream.uninterrupted prepared rebuilt)
      (completeRebuilt py settings upstream prepared rebuilt) := by
  unfold watchRebuilt completeRebuilt
  cases projectLatestIfCurrent py prepared.messages rebuilt with
  | error error => exact ⟨rfl, rfl, fun _ _ expected => by cases expected⟩
  | ok projection =>
      cases projection with
      | some content => exact ⟨rfl, rfl, fun _ same _ => by cases same; rfl⟩
      | none =>
          have settled : Watched.Settled ⟨initialState prepared rebuilt, snapshotTiming rebuilt.harness⟩ := rfl
          obtain ⟨sent, ending, counts⟩ := LoopContext.interruptedLoop_same
            (loopContext py settings prepared rebuilt) upstream.reply settings.maxUpstreamCalls settled
          refine ⟨sent, ending, fun _ same expected => ?_⟩
          cases same
          exact counts expected

/-- A task that is not interrupted refines `complete`. -/
theorem watch_uninterrupted (payload : JsonObject) :
    SameRun (watch py settings upstream.uninterrupted options payload)
      (complete py settings upstream options payload) := by
  unfold watch complete
  rw [prepareAwaited_uninterrupted]
  cases prepareRequest py settings options upstream.combinedSupported payload.fields with
  | error raised => exact ⟨rfl, rfl, fun _ same => by cases same⟩
  | ok prepared =>
      dsimp only
      split
      · unfold watchWithHarness completeWithHarness
        cases rebuild py prepared with
        | error raised => exact ⟨rfl, rfl, fun _ same => by cases same⟩
        | ok rebuilt => exact watchRebuilt_same prepared rebuilt
      · exact watchWithoutHarness_same prepared

end

end HarnessProxy.Service

import HarnessProxy.Service.Complete

namespace HarnessProxy.Service

open HarnessProxy.Json HarnessProxy.Core HarnessProxy.Data HarnessProxy.Projection HarnessProxy.Transcript

/-! # A request as its endpoint sees it

`_snapshot_timing` copies the counters of the harness into a list of the
endpoint and into the timing of the request.  The run below carries that copy
beside the harness and writes it only where the source does, and every await of
the upstream may be interrupted.
-/

/-- An exception that leaves an `await` and is not a `ProxyError`. -/
inductive Interrupt where
  | cancelled
  | timeout
  | other
deriving DecidableEq

/-- Why the task of a request has no result. -/
inductive Failure where
  | raised (raised : Raised)
  | interrupted (reason : Interrupt)
deriving DecidableEq

def noInterventions : Interventions := ⟨0, 0, 0⟩

/-- What `_snapshot_timing` has written last. -/
structure Snapshot where
  counts : Interventions := noInterventions
  localProjection : Bool := false
  avoidedImmediateUpstreamCalls : Nat := 0
deriving DecidableEq

/-- `_snapshot_timing` with its default arguments. -/
def snapshotTiming (harness : AgentHarness) : Snapshot := { counts := interventions harness }

/-- How the task of a request ends.  `harness` is `none` if none was built. -/
structure Finished where
  sent : List Attempt := []
  ending : Except Failure ChatResult
  harness : Option AgentHarness := none
  recorded : Snapshot := {}

/-- The end of a task whose exceptions are its own. -/
def ended : Except Raised ChatResult → Except Failure ChatResult
  | .ok result => .ok result
  | .error raised => .error (.raised raised)

/-! ## The policy loop -/

/-- The variables of the loop beside the last snapshot. -/
structure Watched where
  loop : LoopState
  recorded : Snapshot

namespace Watched

variable (watched : Watched)

def snapshot : Watched := { watched with recorded := snapshotTiming watched.loop.harness }

def finish (ending : Except Failure ChatResult) : Finished where
  ending := ending
  harness := some watched.loop.harness
  recorded := watched.recorded

def raise (raised : Raised) : Finished := watched.finish (.error (.raised raised))

end Watched

namespace LoopContext

variable (context : LoopContext)

def watchedCorrect (watched : Watched) (turn : List Value) (issue : Text) : Verdict Watched Finished :=
  if context.correctionsSpent watched.loop then .stop (watched.raise retryExhausted)
  else
    let (correction, harness) := watched.loop.harness.correction issue
    let corrected := retry { watched.loop with harness } (turn ++ [userMessage correction])
    .again { watched with loop := corrected }.snapshot

def watchedCalls (watched : Watched) (response message : Object) (calls : List Value) :
    Verdict Watched Finished :=
  if watched.loop.phase = some .finalization then
    context.watchedCorrect watched [] "The finalization response cannot contain tool calls."
  else match rejectedResults context.py context.settings.deniedTools watched.loop.harness calls with
    | .error error => .stop (watched.raise (.python error))
    | .ok (results, harness) =>
      let judged := { watched with loop := { watched.loop with harness } }.snapshot
      if !results.any Option.isSome then .stop (judged.finish (ended (context.release judged.loop response).outcome))
      else if context.settings.maxInternalRetries ≤ watched.loop.internalRetries then
        .stop (judged.raise retryExhausted)
      else
        let withheld := retry judged.loop (assistantTurn message calls :: withheldMessages 0 calls results)
        .again { judged with loop := withheld }.snapshot

def watchedContent (watched : Watched) (response choice message : Object) : Verdict Watched Finished :=
  match normalizeBareJson context.py (validatedContent message) with
  | .error error => .stop (watched.raise (.python error))
  | .ok (content, changed) =>
    match watched.loop.harness.terminalIssue context.py content with
    | .error error => .stop (watched.raise (.python error))
    | .ok none =>
      let released := if changed then withContent response choice message content else response
      .stop (watched.finish (ended (context.release watched.loop released).outcome))
    | .ok (some issue) =>
      context.watchedCorrect watched [.obj [("role", .str "assistant"), ("content", .str content)]] issue

def watchedResponse (watched : Watched) (response : Object) : Verdict Watched Finished :=
  match responseMessage? response with
  | none => .stop (watched.raise (upstreamFailure "upstream_malformed_completion"))
  | some (choice, message) => match toolCalls message with
    | .arr [] => context.watchedContent watched response choice message
    | .arr calls => context.watchedCalls watched response message calls
    | _ => .stop (watched.raise (upstreamFailure "upstream_malformed_tool_calls"))

def watchedReact (watched : Watched) (reply : Reply) : Verdict Watched Finished :=
  match reply.answer with
  | .error error => .stop (watched.raise (.proxy error))
  | .ok response =>
    context.watchedResponse { watched with loop := context.answered watched.loop reply } response.fields

/-- The policy loop with its snapshots. -/
def watchedLoop : BoundedLoop Watched Attempt Reply Finished where
  enter watched := { watched with loop := context.enter watched.loop }
  request watched := context.request watched.loop
  react := context.watchedReact
  exhausted watched := watched.raise retryExhausted

/-- The policy loop when its task may be cancelled while it waits. -/
def interruptedLoop : BoundedLoop Watched Attempt (Except Interrupt Reply) Finished :=
  context.watchedLoop.interruptible fun watched reason => watched.finish (.error (.interrupted reason))

/-- The loop without the harness when its task may be cancelled. -/
def interruptedOffLoop : BoundedLoop OffState Attempt (Except Interrupt Reply) (Except Failure ChatResult) where
  enter := context.offLoop.enter
  request := context.offLoop.request
  react state
    | .error reason => .stop (.error (.interrupted reason))
    | .ok reply => match context.offLoop.react state reply with
      | .again next => .again next
      | .stop outcome => .stop (ended outcome)
  exhausted state := ended (context.offLoop.exhausted state)

end LoopContext

/-! ## The whole task -/

/-- What the awaits of one task give: the capability probe, and each upstream
call in turn. -/
structure Awaited where
  combinedSupported : Except Failure Bool := .ok false
  reply : Nat → Except Interrupt Reply

section
variable (py : Python) (settings : Settings) (awaited : Awaited)

/-- The checks of the request, with the probe that `combined_v1` awaits. -/
def prepareAwaited (options : Options) (payload : Object) : Except Failure Prepared :=
  match prepareRequest py settings options true payload with
  | .error raised => .error (.raised raised)
  | .ok prepared =>
    if requiresCombinedCapability settings.capabilityMode (!prepared.tools.isEmpty)
        (prepared.forwarded.has "response_format") prepared.contract.strictPrimitiveObject then
      match awaited.combinedSupported with
      | .error failure => .error failure
      | .ok true => .ok prepared
      | .ok false => .error (.raised (proxyError 503 "upstream_combined_capability_unavailable"
          "The configured upstream combined capability is unavailable."))
    else .ok prepared

variable (prepared : Prepared)

def watchWithoutHarness : Finished :=
  let context : LoopContext := { py, settings, prepared, degraded := false }
  if prepared.usePhaseSplit then
    let result := context.interruptedOffLoop.run awaited.reply settings.maxUpstreamCalls 0 {}
    { sent := result.1, ending := result.2 }
  else
    { sent := [⟨none, prepared.forwarded⟩]
      ending := match awaited.reply 0 with
        | .error reason => .error (.interrupted reason)
        | .ok reply => match reply.answer with
          | .error error => .error (.raised (.proxy error))
          | .ok response => ended (context.offResult 1 response.fields) }

def watchRebuilt (rebuilt : Reconstruction) : Finished :=
  match projectLatestIfCurrent py prepared.messages rebuilt with
  | .error error =>
    { ending := .error (.raised (.python error)), harness := some rebuilt.harness
      recorded := snapshotTiming rebuilt.harness }
  | .ok (some content) =>
    { ending := .ok (projectedResult py settings prepared rebuilt content), harness := some rebuilt.harness
      recorded := { snapshotTiming rebuilt.harness with
        localProjection := true
        avoidedImmediateUpstreamCalls := 1 } }
  | .ok none =>
    let start : Watched := ⟨initialState prepared rebuilt, snapshotTiming rebuilt.harness⟩
    let result := (loopContext py settings prepared rebuilt).interruptedLoop.run awaited.reply
      settings.maxUpstreamCalls 0 start
    { result.2 with sent := result.1 }

def watchWithHarness : Finished :=
  match rebuild py prepared with
  | .error raised => { ending := .error (.raised raised) }
  | .ok rebuilt => watchRebuilt py settings awaited prepared rebuilt

/-- `complete` as the task that the endpoint waits for. -/
def watch (options : Options) (payload : JsonObject) : Finished :=
  match prepareAwaited py settings awaited options payload.fields with
  | .error failure => { ending := .error failure }
  | .ok prepared =>
    if options.harnessEnabled then watchWithHarness py settings awaited prepared
    else watchWithoutHarness py settings awaited prepared

end

/-! ## The copy is current whenever the task waits or ends -/

namespace Telemetry

def interventions (telemetry : Telemetry) : Interventions :=
  ⟨telemetry.corrections, telemetry.blockedDuplicates, telemetry.blockedStalls⟩

end Telemetry

/-- The last snapshot shows the harness as it is. -/
def Watched.Settled (watched : Watched) : Prop := watched.recorded = snapshotTiming watched.loop.harness

theorem Watched.snapshot_settled (watched : Watched) : watched.snapshot.Settled := rfl

/-- The interventions of the harness of a request, none if it has no harness. -/
def finalInterventions (harness : Option AgentHarness) : Interventions :=
  (harness.map interventions).getD noInterventions

/-- The task ended with an exception that no part of the proxy expects. -/
def Finished.crashed (finished : Finished) : Bool :=
  finished.ending matches .error (.raised (.python _)) | .error (.interrupted .other)

/-- What the endpoint may rely on when a task has ended. -/
structure Finished.Faithful (finished : Finished) : Prop where
  counts : finished.crashed = false → finished.recorded.counts = finalInterventions finished.harness
  telemetry : ∀ result, finished.ending = .ok result →
    result.telemetry.interventions = finalInterventions finished.harness

/-- What the policy loop promises: it never reports a projection. -/
structure Finished.Looped (finished : Finished) : Prop extends finished.Faithful where
  unprojected : finished.recorded.localProjection = false ∧ finished.recorded.avoidedImmediateUpstreamCalls = 0

namespace LoopContext

variable {context : LoopContext} {watched : Watched}

theorem finish_looped (settled : watched.Settled) {ending : Except Failure ChatResult}
    (telemetry : ∀ result, ending = .ok result →
      result.telemetry.interventions = interventions watched.loop.harness) :
    (watched.finish ending).Looped where
  counts _ := by rw [Watched.finish, settled]; rfl
  telemetry := telemetry
  unprojected := by rw [Watched.finish, settled]; exact ⟨rfl, rfl⟩

theorem raise_looped (settled : watched.Settled) (raised : Raised) : (watched.raise raised).Looped :=
  finish_looped settled fun _ same => by cases same

/-- A crash promises nothing about the copied counts. -/
theorem crash_looped (settled : watched.Settled) (error : PyError) :
    (watched.raise (.python error)).Looped where
  counts expected := by cases expected
  telemetry _ same := by cases same
  unprojected := by rw [Watched.raise, Watched.finish, settled]; exact ⟨rfl, rfl⟩

theorem release_looped (settled : watched.Settled) (response : Object) :
    (watched.finish (ended (context.release watched.loop response).outcome)).Looped :=
  finish_looped settled fun _ same => by cases same; rfl

theorem watchedCorrect_promises (settled : watched.Settled) (turn : List Value) (issue : Text) :
    (context.watchedCorrect watched turn issue).Promises Watched.Settled Finished.Looped := by
  unfold watchedCorrect
  split
  · exact raise_looped settled retryExhausted
  · exact rfl

theorem watchedCalls_promises (settled : watched.Settled) (response message : Object) (calls : List Value) :
    (context.watchedCalls watched response message calls).Promises Watched.Settled Finished.Looped := by
  unfold watchedCalls
  split
  · exact watchedCorrect_promises settled _ _
  · split
    · next error _ => exact crash_looped settled error
    · next results harness _ =>
      -- the refusals have changed the harness, and a snapshot follows at once
      dsimp only
      split
      · exact release_looped (Watched.snapshot_settled _) response
      · split
        · exact raise_looped (Watched.snapshot_settled _) retryExhausted
        · exact rfl

theorem watchedContent_promises (settled : watched.Settled) (response choice message : Object) :
    (context.watchedContent watched response choice message).Promises Watched.Settled Finished.Looped := by
  unfold watchedContent
  split
  · next error _ => exact crash_looped settled error
  · split
    · next error _ => exact crash_looped settled error
    · exact release_looped settled _
    · exact watchedCorrect_promises settled _ _

/-- One round leaves a current copy, however it goes on. -/
theorem watchedReact_promises (settled : watched.Settled) (reply : Reply) :
    (context.watchedReact watched reply).Promises Watched.Settled Finished.Looped := by
  unfold watchedReact
  split
  · exact raise_looped settled _
  · next response _ =>
    have answered : Watched.Settled { watched with loop := context.answered watched.loop reply } := settled
    unfold watchedResponse
    split
    · exact raise_looped answered _
    · split
      · exact watchedContent_promises answered _ _ _
      · exact watchedCalls_promises answered _ _ _
      · exact raise_looped answered _

theorem enter_settled (context : LoopContext) {watched : Watched} (settled : watched.Settled) :
    Watched.Settled { watched with loop := context.enter watched.loop } := by
  unfold enter
  split <;> exact settled

theorem interruptedLoop_looped (context : LoopContext) {watched : Watched} (settled : watched.Settled)
    (reply : Nat → Except Interrupt Reply)
    (rounds round : Nat) : (context.interruptedLoop.run reply rounds round watched).2.Looped := by
  refine BoundedLoop.run_promises Watched.Settled Finished.Looped (fun state answer inv => ?_)
    (fun state inv => ?_) settled
  · have entered := enter_settled context inv
    cases answer with
    | ok reply => exact watchedReact_promises entered reply
    | error reason => exact finish_looped entered fun _ same => by cases same
  · exact raise_looped inv retryExhausted

theorem offLoop_telemetry {state : OffState} {reply : Reply} {result : ChatResult}
    (stops : context.offLoop.react state reply = .stop (.ok result)) :
    result.telemetry.interventions = noInterventions := by
  have retried {next : OffState} : context.offRetry next ≠ .stop (.ok result) := by
    unfold offRetry
    split <;> simp
  change offReact context state reply = _ at stops
  unfold offReact at stops
  split at stops
  · cases stops
  · unfold offReactResponse at stops
    split at stops
    · cases stops
    · split at stops
      · unfold offReactContent at stops
        split at stops
        · cases stops
        · split at stops
          · cases stops
          · cases stops
            rfl
          · exact absurd stops retried
      · split at stops
        · cases stops
          rfl
        · exact absurd stops retried
      · cases stops

end LoopContext

section
variable (py : Python) (settings : Settings) (awaited : Awaited) (prepared : Prepared)

/-- A result that reports no intervention. -/
def Uncounted (ending : Except Failure ChatResult) : Prop :=
  ∀ result, ending = .ok result → result.telemetry.interventions = noInterventions

/-- Without a harness nothing is counted and nothing is copied. -/
theorem unwatched_faithful {sent : List Attempt} {ending : Except Failure ChatResult}
    (telemetry : Uncounted ending) : Finished.Faithful { sent, ending } where
  counts _ := rfl
  telemetry := telemetry

theorem watchWithoutHarness_faithful : (watchWithoutHarness py settings awaited prepared).Faithful := by
  unfold watchWithoutHarness
  dsimp only
  split
  · refine unwatched_faithful ?_
    refine BoundedLoop.run_promises (fun _ => True) Uncounted (fun state answer _ => ?_) (fun state _ => ?_)
      trivial
    · cases answer with
      | error reason =>
          intro result same
          cases same
      | ok reply =>
          simp only [LoopContext.interruptedOffLoop]
          split
          · trivial
          · next outcome stops =>
            intro result same
            cases outcome with
            | error raised => cases same
            | ok released =>
                cases same
                exact LoopContext.offLoop_telemetry stops
    · intro result same
      cases same
  · refine unwatched_faithful fun result same => ?_
    split at same
    · cases same
    · split at same
      · cases same
      · cases same
        rfl

theorem watchRebuilt_faithful (rebuilt : Reconstruction) :
    (watchRebuilt py settings awaited prepared rebuilt).Faithful := by
  unfold watchRebuilt
  split
  · exact ⟨fun expected => (by cases expected), fun _ same => (by cases same)⟩
  · exact ⟨fun _ => rfl, fun _ same => by cases same; rfl⟩
  · have settled : Watched.Settled ⟨initialState prepared rebuilt, snapshotTiming rebuilt.harness⟩ := rfl
    have looped := (loopContext py settings prepared rebuilt).interruptedLoop_looped settled awaited.reply
      settings.maxUpstreamCalls 0
    exact ⟨looped.counts, looped.telemetry⟩

/-- However a task ends that does not crash, the copy shows the interventions of
its harness, and so does the telemetry of its result. -/
theorem watch_faithful (options : Options) (payload : JsonObject) :
    (watch py settings awaited options payload).Faithful := by
  unfold watch
  split
  · exact unwatched_faithful fun _ same => by cases same
  · next prepared _ =>
    split
    · unfold watchWithHarness
      split
      · exact unwatched_faithful fun _ same => by cases same
      · exact watchRebuilt_faithful py settings awaited prepared _
    · exact watchWithoutHarness_faithful py settings awaited prepared

end

end HarnessProxy.Service

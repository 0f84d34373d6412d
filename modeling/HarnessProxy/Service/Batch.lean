import HarnessProxy.Transcript.Reconstruct

namespace HarnessProxy.Service

open HarnessProxy.Json HarnessProxy.Core HarnessProxy.Data HarnessProxy.Transcript

/-! # A batch of proposed calls

Every call of a batch is judged against the ledger.  One refused call withholds
the whole batch.
-/

/-- `_call_arguments`, with `none` for the errors, which are all caught. -/
def callNameArguments (py : Python) (call : Object) : Option (Text × Object) :=
  match call.get? "function" with
  | some (.obj function) => match Object.get? function "name" with
    | some (.str name) => (callArguments py call).map fun arguments => (name, arguments)
    | _ => none
  | _ => none

/-- Why a call is refused. -/
inductive Refusal where
  | invalidToolCall
  | invalidToolArguments
  | deniedByServer
  | stalled
  | duplicate (prior : Receipt)

/-- The decision on one call, in the order of the checks of `_rejected_results`. -/
def judgeCall (py : Python) (deniedTools : List Text) (harness : AgentHarness) (call : Value) :
    Except PyError (Option Refusal) :=
  match call with
  | .obj fields => match callNameArguments py fields with
    | none => .ok (some .invalidToolArguments)
    | some (name, arguments) =>
      if name ∈ deniedTools then .ok (some .deniedByServer)
      else if harness.stalls name then .ok (some .stalled)
      else do
        let prior ← harness.duplicate py name arguments
        return prior.map .duplicate
  | _ => .ok (some .invalidToolCall)

/-- The synthetic result of a refusal, and the harness that remembers it. -/
def refuse (harness : AgentHarness) : Refusal → Text × AgentHarness
  | .invalidToolCall =>
    ("\x7b\"shiftedx_harness\":\"invalid_tool_call\"\x7d", { harness with lastActionBlocked := true })
  | .invalidToolArguments =>
    ("\x7b\"shiftedx_harness\":\"invalid_tool_arguments\"\x7d", { harness with lastActionBlocked := true })
  | .deniedByServer =>
    (dumps false (.obj [
        ("shiftedx_harness", .str "tool_denied_by_server"),
        ("execution_status", .str "blocked_not_executed"),
        ("fact", .str "This proposed call was blocked by the proxy and did not reach the client executor."),
        ("instruction", .str "Choose a permitted tool or return a safe final answer.")]),
      { harness with lastActionBlocked := true })
  | .stalled => harness.stalledResult
  | .duplicate prior => harness.blockedResult prior

/-- Whether a refusal leaves `every_rejection_can_finalize` as it is. -/
def Refusal.canFinalize (harness : AgentHarness) : Refusal → Bool
  | .duplicate prior => prior.status = .success && !harness.pendingVerification && !harness.hasOpenFailures
  | _ => false

/-- The loop of `_rejected_results`: a result for each refused call, whether
every refusal can finalize, and the harness. -/
def rejectEach (py : Python) (deniedTools : List Text) :
    AgentHarness → List Value → Except PyError (List (Option Text) × Bool × AgentHarness)
  | harness, [] => .ok ([], true, harness)
  | harness, call :: rest => do
    match ← judgeCall py deniedTools harness call with
    | none =>
      let (results, canFinalize, final) ← rejectEach py deniedTools harness rest
      return (none :: results, canFinalize, final)
    | some refusal =>
      let (result, blocked) := refuse harness refusal
      let (results, canFinalize, final) ← rejectEach py deniedTools blocked rest
      return (some result :: results, refusal.canFinalize blocked && canFinalize, final)

/-- `_rejected_results`: the results by position, `none` for a call that is not
refused. -/
def rejectedResults (py : Python) (deniedTools : List Text) (harness : AgentHarness) (calls : List Value) :
    Except PyError (List (Option Text) × AgentHarness) := do
  let (results, canFinalize, final) ← rejectEach py deniedTools harness calls
  return (results, { final with
    forceFinalize := results.any Option.isSome && results.all Option.isSome && canFinalize })

/-! ## Refusals never touch the ledger -/

/-- The fields of a harness that only `record` changes. -/
def ledger (harness : AgentHarness) : AgentHarness :=
  { harness with
    blockedDuplicates := 0
    blockedStalls := 0
    lastActionBlocked := false
    forceFinalize := false
    terminalCorrections := 0 }

section
variable {py : Python} {deniedTools : List Text} {harness blocked final : AgentHarness}

/-- What reads only the ledger is the same on equal ledgers. -/
theorem eq_of_ledger {α : Type} (read : AgentHarness → α) (reads : ∀ other, read (ledger other) = read other)
    (same : ledger harness = ledger blocked) : read harness = read blocked := by
  rw [← reads, same, reads]

theorem judgeCall_congr (same : ledger harness = ledger blocked) (call : Value) :
    judgeCall py deniedTools harness call = judgeCall py deniedTools blocked call :=
  eq_of_ledger (fun other => judgeCall py deniedTools other call) (fun _ => rfl) same

theorem refuse_ledger (refusal : Refusal) : ledger (refuse harness refusal).2 = ledger harness := by
  cases refusal <;> rfl

theorem refuse_lastActionBlocked (refusal : Refusal) :
    (refuse harness refusal).2.lastActionBlocked = true := by
  cases refusal <;> rfl

theorem canFinalize_congr (same : ledger harness = ledger blocked) (refusal : Refusal) :
    refusal.canFinalize harness = refusal.canFinalize blocked :=
  eq_of_ledger (fun other => refusal.canFinalize other) (fun _ => by cases refusal <;> rfl) same

/-- The checks that a call passes when it is not refused. -/
theorem judgeCall_eq_none {call : Value} : judgeCall py deniedTools harness call = .ok none ↔
    ∃ fields name arguments, call = .obj fields ∧ callNameArguments py fields = some (name, arguments) ∧
      name ∉ deniedTools ∧ harness.stalls name = false ∧ harness.duplicate py name arguments = .ok none := by
  constructor
  · intro judged
    unfold judgeCall at judged
    split at judged
    · next fields =>
      split at judged
      · cases judged
      · next name arguments decoded =>
        split at judged
        · cases judged
        · next allowed =>
          split at judged
          · cases judged
          · next continues =>
            simp only [bind_eq_ok, pure, Except.pure, Except.ok.injEq, Option.map_eq_none_iff] at judged
            obtain ⟨prior, found, rfl⟩ := judged
            exact ⟨fields, name, arguments, rfl, decoded, allowed, by simpa using continues, found⟩
    · cases judged
  · rintro ⟨fields, name, arguments, rfl, decoded, allowed, continues, found⟩
    simp [judgeCall, decoded, allowed, continues, found, bind, Except.bind, pure, Except.pure]

theorem callNameArguments_eq_some {call : Object} {name : Text} {arguments : Object} :
    callNameArguments py call = some (name, arguments) ↔ ∃ function,
      call.get? "function" = some (.obj function) ∧ Object.get? function "name" = some (.str name) ∧
      callArguments py call = some arguments := by
  unfold callNameArguments
  split
  · next function found =>
    split
    · next other named => simp [found, named, Option.map_eq_some_iff, and_comm]
    · next unnamed =>
      simp only [found, reduceCtorEq, Option.some.injEq, Value.obj.injEq, exists_eq_left', false_iff]
      exact fun both => unnamed _ both.1
  · next missing =>
    simp only [reduceCtorEq, false_iff]
    rintro ⟨function, found, _⟩
    exact missing _ found

/-- What the loop says about a batch: one decision for each call, all on the
ledger that the batch started with. -/
structure Judged (py : Python) (deniedTools : List Text) (harness : AgentHarness) (calls : List Value)
    (results : List (Option Text)) (canFinalize : Bool) (final : AgentHarness) : Prop where
  decisions : ∃ refusals, List.Forall₂ (fun call refusal =>
      judgeCall py deniedTools harness call = .ok refusal) calls refusals ∧
    results.map Option.isSome = refusals.map Option.isSome ∧
    (canFinalize = true ↔ ∀ refusal, some refusal ∈ refusals → refusal.canFinalize harness = true)
  ledger : ledger final = ledger harness
  blocked : final.lastActionBlocked = (results.any Option.isSome || harness.lastActionBlocked)
  unchanged : results.any Option.isSome = false → final = harness

theorem rejectEach_judged {calls : List Value} {results : List (Option Text)} {canFinalize : Bool}
    (rejected : rejectEach py deniedTools harness calls = .ok (results, canFinalize, final)) :
    Judged py deniedTools harness calls results canFinalize final := by
  induction calls generalizing harness results canFinalize with
  | nil =>
      cases rejected
      exact ⟨⟨[], .nil, rfl, by simp⟩, rfl, rfl, fun _ => rfl⟩
  | cons call rest ih =>
      simp only [rejectEach, bind_eq_ok] at rejected
      obtain ⟨refusal, judged, rejected⟩ := rejected
      cases refusal with
      | none =>
          simp only [bind_eq_ok] at rejected
          obtain ⟨⟨others, can, last⟩, tail, same⟩ := rejected
          cases same
          obtain ⟨⟨refusals, decisions, shape, finalize⟩, sameLedger, flag, unchanged⟩ := ih tail
          refine ⟨⟨none :: refusals, .cons judged decisions, by simp [shape], ?_⟩, sameLedger,
            by simpa using flag, fun none => unchanged (by simpa using none)⟩
          simpa using finalize
      | some refusal =>
          simp only [bind_eq_ok] at rejected
          obtain ⟨⟨others, can, last⟩, tail, same⟩ := rejected
          cases same
          have step : Service.ledger (refuse harness refusal).2 = Service.ledger harness :=
            refuse_ledger refusal
          obtain ⟨⟨refusals, decisions, shape, finalize⟩, sameLedger, flag, _⟩ := ih tail
          refine ⟨⟨some refusal :: refusals, .cons judged ?_, by simp [shape], ?_⟩, sameLedger.trans step,
            ?_, by simp⟩
          · exact decisions.imp fun other refusal decided => (judgeCall_congr step other).symm.trans decided
          · rw [Bool.and_eq_true, finalize, canFinalize_congr step]
            simp only [List.mem_cons, Option.some.injEq, forall_eq_or_imp]
            refine and_congr_right fun _ => forall_congr' fun other => ?_
            rw [canFinalize_congr step]
          · rw [flag, refuse_lastActionBlocked]
            simp

/-- The result of a batch, in terms of the decisions on its calls. -/
theorem rejectedResults_judged {calls : List Value} {results : List (Option Text)}
    (rejected : rejectedResults py deniedTools harness calls = .ok (results, final)) :
    ∃ canFinalize last, Judged py deniedTools harness calls results canFinalize last ∧
      final = { last with
        forceFinalize := results.any Option.isSome && results.all Option.isSome && canFinalize } := by
  simp only [rejectedResults, bind_eq_ok, pure, Except.pure, Except.ok.injEq, Prod.mk.injEq] at rejected
  obtain ⟨⟨results, canFinalize, last⟩, judged, rfl, rfl⟩ := rejected
  exact ⟨canFinalize, last, rejectEach_judged judged, rfl⟩

/-- In a batch that is not withheld every call passes every check. -/
theorem rejectedResults_accepted {calls : List Value} {results : List (Option Text)}
    (rejected : rejectedResults py deniedTools harness calls = .ok (results, final))
    (accepted : results.any Option.isSome = false) {call : Value} (member : call ∈ calls) :
    judgeCall py deniedTools harness call = .ok none := by
  obtain ⟨_, _, judged, _⟩ := rejectedResults_judged rejected
  obtain ⟨refusals, decisions, shape, _⟩ := judged.decisions
  obtain ⟨refusal, decided, judgedCall⟩ := aligned_of_mem_left decisions member
  cases refusal with
  | none => exact judgedCall
  | some refusal =>
      have flagged : true ∈ refusals.map Option.isSome := List.mem_map.mpr ⟨_, decided, rfl⟩
      rw [← shape] at flagged
      obtain ⟨result, inResults, isSome⟩ := List.mem_map.mp flagged
      rw [List.any_eq_true.mpr ⟨result, inResults, isSome⟩] at accepted
      cases accepted

end

end HarnessProxy.Service

import HarnessProxy.Core.Signature
import HarnessProxy.Service.StrictAnswer
import HarnessProxy.Service.Watched

namespace HarnessProxy.Service

open HarnessProxy.Json HarnessProxy.Core HarnessProxy.Data HarnessProxy.Projection HarnessProxy.Transcript

/-! # The budgets of a run

Every round that goes on spends one retry and appends what it counts, so the
messages of the last request show the reported counts and the calls stay within
both budgets.
-/

/-! ## Counts that the messages show -/

def contentStarts (head : Text) (fields : Object) : Bool :=
  match Object.get? fields "content" with
  | some (.str text) => head.isPrefixOf text
  | _ => false

/-- A correction of the model. -/
def isCorrection (message : Value) : Bool :=
  match message with
  | .obj fields => hasRole fields "user" && contentStarts "[shiftedx harness correction]\n" fields
  | _ => false

/-- How a synthetic result with this marker begins. -/
def markerHead (marker : Text) : Text :=
  codePoint '\x7b' :: (quote "shiftedx_harness" ++ codePoint ':' :: quote marker)

/-- The synthetic result of a call that was blocked for this reason. -/
def isBlockedBy (marker : Text) (message : Value) : Bool :=
  match message with
  | .obj fields => hasRole fields "tool" && contentStarts (markerHead marker) fields
  | _ => false

def shownInterventions (messages : List Value) : Interventions where
  corrections := messages.countP isCorrection
  blockedDuplicates := messages.countP (isBlockedBy "duplicate_call_blocked")
  blockedStalls := messages.countP (isBlockedBy "investigation_stall_blocked")

section
variable {py : Python} {deniedTools : List Text} {harness final : AgentHarness}

theorem dumps_marker (marker : Text) (fields : Object) :
    ∃ rest, dumps false (.obj (("shiftedx_harness", .str marker) :: fields)) = markerHead marker ++ rest := by
  refine ⟨((fields.map (dumpedMember false)).map Prod.snd).flatMap (codePoint ',' :: ·) ++ [codePoint '\x7d'], ?_⟩
  have joined : Text.join "," ((dumpedMember false ("shiftedx_harness", .str marker)).2 ::
      (fields.map (dumpedMember false)).map Prod.snd) = _ :=
    intercalate_cons (codePoint ',') (dumpedMember false ("shiftedx_harness", .str marker)).2
      ((fields.map (dumpedMember false)).map Prod.snd)
  rw [dumps, dumpsFields_eq, orderFields, if_neg (by decide), List.map_cons, List.map_cons, joined]
  simp only [dumpedMember, dumps, markerHead, List.cons_append, List.append_assoc]

theorem markerHead_isPrefixOf {marker other : Text} (small : ∀ c ∈ marker, c.val < 0x10000)
    (otherSmall : ∀ c ∈ other, c.val < 0x10000) (rest : Text) :
    (markerHead marker).isPrefixOf (markerHead other ++ rest) = decide (marker = other) := by
  rw [Bool.eq_iff_iff, List.isPrefixOf_iff_prefix, decide_eq_true_eq]
  constructor
  · rintro ⟨last, same⟩
    simp only [markerHead, List.cons_append, List.append_assoc, List.cons.injEq, true_and, List.append_cancel_left_eq] at same
    have units := (quote_splits same).1
    rwa [textUnits_of_small small, textUnits_of_small otherSmall] at units
  · rintro rfl
    exact ⟨rest, rfl⟩

/-- The results that the telemetry counts. -/
def showsMarker (marker : Text) (result : Text) : Bool := (markerHead marker).isPrefixOf result

theorem showsMarker_of (marker : Text) {other result rest : Text} (shape : result = markerHead other ++ rest)
    (small : (marker ++ other).all fun c => c.val < 0x10000) : showsMarker marker result = decide (marker = other) := by
  rw [List.all_eq_true] at small
  rw [showsMarker, shape]
  exact markerHead_isPrefixOf (fun c member => of_decide_eq_true (small c (List.mem_append_left _ member)))
    (fun c member => of_decide_eq_true (small c (List.mem_append_right _ member))) rest

theorem withheldResult_shows :
    showsMarker "duplicate_call_blocked" withheldResult = false ∧
    showsMarker "investigation_stall_blocked" withheldResult = false := by decide

/-- What a refusal adds to the counters is what its result shows. -/
theorem refuse_shows (harness : AgentHarness) (refusal : Refusal) :
    (refuse harness refusal).2.terminalCorrections = harness.terminalCorrections ∧
    (refuse harness refusal).2.blockedDuplicates = harness.blockedDuplicates +
      (showsMarker "duplicate_call_blocked" (refuse harness refusal).1).toNat ∧
    (refuse harness refusal).2.blockedStalls = harness.blockedStalls +
      (showsMarker "investigation_stall_blocked" (refuse harness refusal).1).toNat := by
  have constant {text : Text} (plain : showsMarker "duplicate_call_blocked" text = false ∧
      showsMarker "investigation_stall_blocked" text = false) :
      harness.terminalCorrections = harness.terminalCorrections ∧
      harness.blockedDuplicates = harness.blockedDuplicates + (showsMarker "duplicate_call_blocked" text).toNat ∧
      harness.blockedStalls = harness.blockedStalls + (showsMarker "investigation_stall_blocked" text).toNat := by
    rw [plain.1, plain.2]
    exact ⟨rfl, rfl, rfl⟩
  cases refusal with
  | invalidToolCall => exact constant (by simp only [refuse]; decide)
  | invalidToolArguments => exact constant (by simp only [refuse]; decide)
  | deniedByServer => exact constant (by simp only [refuse]; decide)
  | stalled =>
      have shows : showsMarker "duplicate_call_blocked" (refuse harness .stalled).1 = false ∧
          showsMarker "investigation_stall_blocked" (refuse harness .stalled).1 = true := by
        simp only [refuse, AgentHarness.stalledResult]
        decide
      rw [shows.1, shows.2]
      exact ⟨rfl, rfl, rfl⟩
  | duplicate prior =>
      obtain ⟨rest, shape⟩ : ∃ rest, (refuse harness (.duplicate prior)).1 = markerHead "duplicate_call_blocked" ++ rest :=
        dumps_marker _ _
      have duplicate := showsMarker_of "duplicate_call_blocked" shape (by decide)
      have stall := showsMarker_of "investigation_stall_blocked" shape (by decide)
      rw [duplicate, stall, decide_eq_true rfl, decide_eq_false (by decide)]
      exact ⟨rfl, rfl, rfl⟩

/-- A batch adds to the counters what its results show. -/
theorem rejectEach_shows {calls : List Value} {results : List (Option Text)} {canFinalize : Bool}
    (rejects : rejectEach py deniedTools harness calls = .ok (results, canFinalize, final)) :
    results.length = calls.length ∧ final.terminalCorrections = harness.terminalCorrections ∧
    final.blockedDuplicates = harness.blockedDuplicates +
      results.countP (Option.any (showsMarker "duplicate_call_blocked")) ∧
    final.blockedStalls = harness.blockedStalls +
      results.countP (Option.any (showsMarker "investigation_stall_blocked")) := by
  induction calls generalizing harness results canFinalize with
  | nil =>
      cases rejects
      exact ⟨rfl, rfl, rfl, rfl⟩
  | cons call rest ih =>
      simp only [rejectEach, bind_eq_ok] at rejects
      obtain ⟨refusal, _, rejects⟩ := rejects
      cases refusal with
      | none =>
          simp only [bind_eq_ok] at rejects
          obtain ⟨⟨others, can, last⟩, tail, same⟩ := rejects
          cases same
          obtain ⟨lengths, corrections, duplicates, stalls⟩ := ih tail
          exact ⟨by simp [lengths], corrections, by simpa using duplicates, by simpa using stalls⟩
      | some refusal =>
          simp only [bind_eq_ok] at rejects
          obtain ⟨⟨others, can, last⟩, tail, same⟩ := rejects
          cases same
          obtain ⟨lengths, corrections, duplicates, stalls⟩ := ih tail
          obtain ⟨ownCorrections, ownDuplicates, ownStalls⟩ := refuse_shows harness refusal
          refine ⟨by simp [lengths], corrections.trans ownCorrections, ?_, ?_⟩
          · rw [duplicates, ownDuplicates, List.countP_cons, Option.any_some]
            cases showsMarker "duplicate_call_blocked" (refuse harness refusal).1 <;>
              simp only [Bool.toNat_false, Bool.toNat_true, Bool.false_eq_true, if_true, if_false] <;> omega
          · rw [stalls, ownStalls, List.countP_cons, Option.any_some]
            cases showsMarker "investigation_stall_blocked" (refuse harness refusal).1 <;>
              simp only [Bool.toNat_false, Bool.toNat_true, Bool.false_eq_true, if_true, if_false] <;> omega

theorem rejectedResults_shows {calls : List Value} {results : List (Option Text)}
    (rejected : rejectedResults py deniedTools harness calls = .ok (results, final)) :
    results.length = calls.length ∧ final.terminalCorrections = harness.terminalCorrections ∧
    final.blockedDuplicates = harness.blockedDuplicates +
      results.countP (Option.any (showsMarker "duplicate_call_blocked")) ∧
    final.blockedStalls = harness.blockedStalls +
      results.countP (Option.any (showsMarker "investigation_stall_blocked")) := by
  simp only [rejectedResults, bind_eq_ok, pure, Except.pure, Except.ok.injEq, Prod.mk.injEq] at rejected
  obtain ⟨⟨refused, canFinalize, last⟩, rejects, rfl, rfl⟩ := rejected
  obtain ⟨lengths, corrections, duplicates, stalls⟩ := rejectEach_shows rejects
  exact ⟨lengths, corrections, duplicates, stalls⟩

end

/-! ## A rebuilt harness has not intervened -/

section
variable {py : Python}

theorem record_interventions {harness recorded : AgentHarness} {name result : Text} {arguments : Object}
    (record : harness.record py name arguments result = .ok recorded) :
    interventions recorded = interventions harness := by
  simp only [AgentHarness.record, bind_eq_ok, pure, Except.pure, Except.ok.injEq] at record
  obtain ⟨status, _, signature, _, rfl⟩ := record
  simp only [AgentHarness.recordReceipt, AgentHarness.trackEpoch, AgentHarness.trackFailures]
  repeat' split
  all_goals rfl

theorem recordAll_interventions {harness recorded : AgentHarness} {results : List ToolResult}
    (record : recordAll py harness results = .ok recorded) : interventions recorded = interventions harness := by
  induction results generalizing harness with
  | nil =>
      cases record
      rfl
  | cons result rest ih =>
      simp only [recordAll, bind_eq_ok] at record
      obtain ⟨next, first, others⟩ := record
      exact (ih others).trans (record_interventions first)

theorem rebuild_interventions {prepared : Prepared} {rebuilt : Reconstruction}
    (ran : rebuild py prepared = .ok rebuilt) : interventions rebuilt.harness = noInterventions := by
  unfold rebuild at ran
  split at ran
  · next reconstructed same =>
    cases ran
    obtain ⟨final, read, rfl⟩ := reconstruct_eq_ok.mp same
    obtain ⟨results, recorded⟩ := readMessages_recordAll read
    exact recordAll_interventions recorded
  · split at ran <;> cases ran

end

/-! ## What the messages of a run show -/

theorem shownInterventions_append (messages more : List Value) :
    shownInterventions (messages ++ more) =
      ⟨(shownInterventions messages).corrections + (shownInterventions more).corrections,
        (shownInterventions messages).blockedDuplicates + (shownInterventions more).blockedDuplicates,
        (shownInterventions messages).blockedStalls + (shownInterventions more).blockedStalls⟩ := by
  simp only [shownInterventions, List.countP_append]

/-- An answer of the model counts for nothing. -/
theorem shownInterventions_assistant (fields : Object) :
    shownInterventions [.obj (("role", .str "assistant") :: fields)] = noInterventions := by
  have role : Object.get? (("role", .str "assistant") :: fields) "role" = some (.str "assistant") := rfl
  have notUser : hasRole (("role", .str "assistant") :: fields) "user" = false := by
    rw [hasRole, role]
    decide
  have notTool : hasRole (("role", .str "assistant") :: fields) "tool" = false := by
    rw [hasRole, role]
    decide
  simp [shownInterventions, isCorrection, isBlockedBy, notUser, notTool, noInterventions]

theorem shownInterventions_correction (issue : Text) (harness : AgentHarness) :
    shownInterventions [userMessage (harness.correction issue).1] = ⟨1, 0, 0⟩ := by
  have head : isCorrection (userMessage (harness.correction issue).1) = true := rfl
  have notBlocked (marker : Text) : isBlockedBy marker (userMessage (harness.correction issue).1) = false := rfl
  simp [shownInterventions, head, notBlocked]

theorem withheldMessages_shows {calls : List Value} {results : List (Option Text)} (index : Nat) {marker : Text}
    (lengths : results.length = calls.length) (plain : showsMarker marker withheldResult = false) :
    (withheldMessages index calls results).countP (isBlockedBy marker) =
      results.countP (Option.any (showsMarker marker)) := by
  induction calls generalizing results index with
  | nil =>
      cases List.length_eq_zero_iff.mp lengths
      rfl
  | cons call rest ih =>
      obtain _ | ⟨result, others⟩ := results
      · cases lengths
      · have shown : isBlockedBy marker (.obj [("role", .str "tool"), ("tool_call_id", .str (withheldCallId index call)),
            ("content", .str (result.getD withheldResult))]) = showsMarker marker (result.getD withheldResult) := rfl
        have tail := ih (index + 1) (Nat.succ.inj lengths)
        rw [withheldMessages, List.countP_cons, shown, tail, List.countP_cons]
        cases result with
        | none => rw [Option.getD_none, plain]; rfl
        | some text => rfl

theorem withheldMessages_corrections (index : Nat) (calls : List Value) (results : List (Option Text)) :
    (withheldMessages index calls results).countP isCorrection = 0 := by
  induction calls generalizing index results with
  | nil => rfl
  | cons call rest ih =>
      cases results with
      | nil => rfl
      | cons result others =>
          rw [withheldMessages, List.countP_cons, ih]
          rfl

/-! ## What every round keeps -/

/-- A state of the loop after the messages that it was opened with. -/
structure Shown (context : LoopContext) (opening : List Value) (state : LoopState) : Prop where
  messages : ∃ appended, state.workingMessages = opening ++ appended ∧
    interventions state.harness = shownInterventions appended
  corrections : state.harness.terminalCorrections ≤ 2
  retries : state.internalRetries ≤ context.settings.maxInternalRetries

/-- One retry more and one call more. -/
structure Spent (state next : LoopState) : Prop where
  retries : next.internalRetries = state.internalRetries + 1
  calls : next.upstreamCalls = state.upstreamCalls

section
variable {context : LoopContext} {opening : List Value} {state next : LoopState} {reply : Reply} {stopped : Stopped}

theorem enter_shown (shown : Shown context opening state) : Shown context opening (context.enter state) := by
  unfold LoopContext.enter
  split
  · exact ⟨shown.messages, shown.corrections, shown.retries⟩
  · exact shown

theorem enter_spends_nothing : (context.enter state).internalRetries = state.internalRetries ∧
    (context.enter state).upstreamCalls = state.upstreamCalls := by
  unfold LoopContext.enter
  split <;> exact ⟨rfl, rfl⟩

theorem correct_shown (shown : Shown context opening state) {turn : List Value} {issue : Text}
    (uncounted : shownInterventions turn = noInterventions)
    (again : context.correct state turn issue = .again next) : Shown context opening next ∧ Spent state next := by
  simp only [LoopContext.correct] at again
  split at again
  · cases again
  · next unspent =>
    cases again
    simp only [LoopContext.correctionsSpent, Bool.or_eq_true, decide_eq_true_eq, not_or, not_le] at unspent
    refine ⟨⟨?_, ?_, ?_⟩, ⟨rfl, rfl⟩⟩
    · obtain ⟨appended, same, counts⟩ := shown.messages
      refine ⟨appended ++ (turn ++ [userMessage (state.harness.correction issue).1]), ?_, ?_⟩
      · simp only [LoopContext.retry, same, List.append_assoc]
      · rw [shownInterventions_append, shownInterventions_append, uncounted, shownInterventions_correction, ← counts]
        rfl
    · exact unspent.1
    · exact unspent.2

theorem reactCalls_shown (shown : Shown context opening state) {response message : Object} {calls : List Value}
    (again : context.reactCalls state response message calls = .again next) :
    Shown context opening next ∧ Spent state next := by
  simp only [LoopContext.reactCalls] at again
  split at again
  · exact correct_shown shown rfl again
  · split at again
    · cases again
    · next results harness rejected =>
      split at again
      · cases again
      · split at again
        · cases again
        · next unspent =>
          cases again
          obtain ⟨lengths, corrections, duplicates, stalls⟩ := rejectedResults_shows rejected
          have assistant := shownInterventions_assistant
            [("content", contentOrEmpty message), ("tool_calls", .arr calls)]
          have withheld : shownInterventions (withheldMessages 0 calls results) = ⟨0,
              results.countP (Option.any (showsMarker "duplicate_call_blocked")),
              results.countP (Option.any (showsMarker "investigation_stall_blocked"))⟩ := by
            rw [shownInterventions, withheldMessages_corrections,
              withheldMessages_shows 0 lengths withheldResult_shows.1,
              withheldMessages_shows 0 lengths withheldResult_shows.2]
          obtain ⟨appended, same, counts⟩ := shown.messages
          simp only [interventions, shownInterventions, Interventions.mk.injEq] at counts
          obtain ⟨ownCorrections, ownDuplicates, ownStalls⟩ := counts
          refine ⟨⟨⟨appended ++ (assistantTurn message calls :: withheldMessages 0 calls results), ?_, ?_⟩,
            corrections.trans_le shown.corrections, Nat.lt_of_not_le unspent⟩, ⟨rfl, rfl⟩⟩
          · simp only [LoopContext.retry, same, List.append_assoc]
          · rw [← List.singleton_append, shownInterventions_append, shownInterventions_append, assistantTurn,
              assistant, withheld]
            simp only [interventions, LoopContext.retry, shownInterventions, noInterventions, corrections, duplicates,
              stalls, ownCorrections, ownDuplicates, ownStalls, Nat.zero_add, Nat.add_zero]

/-- A round that goes on spends one retry and one call. -/
theorem react_shown (shown : Shown context opening state) (reacts : context.react state reply = .again next) :
    Shown context opening next ∧ next.internalRetries = state.internalRetries + 1 ∧
      next.upstreamCalls = state.upstreamCalls + 1 := by
  have answered : Shown context opening (context.answered state reply) :=
    ⟨shown.messages, shown.corrections, shown.retries⟩
  have spends (kept : Shown context opening next ∧ Spent (context.answered state reply) next) :
      Shown context opening next ∧ next.internalRetries = state.internalRetries + 1 ∧
        next.upstreamCalls = state.upstreamCalls + 1 := ⟨kept.1, kept.2.retries, kept.2.calls⟩
  simp only [LoopContext.react] at reacts
  split at reacts
  · cases reacts
  · simp only [LoopContext.reactResponse] at reacts
    split at reacts
    · cases reacts
    · split at reacts
      · simp only [LoopContext.reactContent] at reacts
        split at reacts
        · cases reacts
        · split at reacts
          · cases reacts
          · cases reacts
          · exact spends (correct_shown answered (shownInterventions_assistant _) reacts)
      · exact spends (reactCalls_shown answered reacts)
      · cases reacts

/-- The planned ends of a round without a result. -/
inductive PlannedError (reply : Reply) : Raised → Prop
  | upstream {error : ProxyError} (answer : reply.answer = .error error) : PlannedError reply (.proxy error)
  | malformed {code : Text} (known : code ∈ (["upstream_malformed_completion", "upstream_malformed_tool_calls"] : List Text)) :
      PlannedError reply (upstreamFailure code)
  | exhausted : PlannedError reply retryExhausted

/-- How a round stops that has called the upstream: it reports the counters of
its state, or it fails as planned, or with an exception of Python. -/
structure Closes (state : LoopState) (reply : Reply) (stopped : Stopped) : Prop where
  reports : ∀ result, stopped.outcome = .ok result → result.telemetry.upstreamCalls = state.upstreamCalls ∧
    result.telemetry.interventions = interventions state.harness
  fails : ∀ raised, stopped.outcome = .error raised → PlannedError reply raised ∨ ∃ error, raised = .python error
  corrections : stopped.snapshot.corrections = state.harness.terminalCorrections

theorem raise_closes {raised : Raised} (expected : PlannedError reply raised ∨ ∃ error, raised = .python error)
    (same : next.harness.terminalCorrections = state.harness.terminalCorrections) :
    Closes state reply (LoopContext.raise next raised) where
  reports _ released := by cases released
  fails _ failed := by
    cases failed
    exact expected
  corrections := same

theorem release_closes (context : LoopContext) (next state : LoopState) (calls : next.upstreamCalls = state.upstreamCalls)
    (same : interventions next.harness = interventions state.harness) (response : Object) :
    Closes state reply (context.release next response) where
  reports _ released := by
    cases released
    exact ⟨calls, same⟩
  fails _ failed := by cases failed
  corrections := congrArg Interventions.corrections same

theorem correct_closes (context : LoopContext) (state : LoopState) (reply : Reply) (turn : List Value) (issue : Text) :
    (context.correct state turn issue).Promises (fun _ => True) (Closes state reply) := by
  unfold LoopContext.correct
  split
  · exact raise_closes (.inl .exhausted) rfl
  · trivial

theorem reactCalls_closes (context : LoopContext) (state : LoopState) (reply : Reply) (response message : Object)
    (calls : List Value) :
    (context.reactCalls state response message calls).Promises (fun _ => True) (Closes state reply) := by
  unfold LoopContext.reactCalls
  split
  · apply correct_closes
  · split
    · exact raise_closes (.inr ⟨_, rfl⟩) rfl
    · next results harness rejected =>
      obtain ⟨_, corrections, duplicates, stalls⟩ := rejectedResults_shows rejected
      dsimp only
      split
      · next accepted =>
        have none (marker : Text) : results.countP (Option.any (showsMarker marker)) = 0 := by
          rw [List.countP_eq_zero]
          intro result member shows
          simp only [Bool.not_eq_true', List.any_eq_false] at accepted
          cases result with
          | none => cases shows
          | some text => exact accepted _ member rfl
        have same : interventions harness = interventions state.harness := by
          simp only [interventions, corrections, duplicates, stalls, none, Nat.add_zero]
        exact release_closes context { state with harness } state rfl same response
      · split
        · exact raise_closes (.inl .exhausted) corrections
        · trivial

theorem react_closes (context : LoopContext) (state : LoopState) (reply : Reply) :
    (context.react state reply).Promises (fun _ => True) (Closes (context.answered state reply) reply) := by
  unfold LoopContext.react
  split
  · next error answer => exact raise_closes (.inl (.upstream answer)) rfl
  · unfold LoopContext.reactResponse
    split
    · exact raise_closes (.inl (.malformed (by simp))) rfl
    · split
      · unfold LoopContext.reactContent
        split
        · exact raise_closes (.inr ⟨_, rfl⟩) rfl
        · split
          · exact raise_closes (.inr ⟨_, rfl⟩) rfl
          · exact release_closes context _ _ rfl rfl _
          · apply correct_closes
      · apply reactCalls_closes
      · exact raise_closes (.inl (.malformed (by simp))) rfl

theorem closes_of_stop (stops : context.react state reply = .stop stopped) :
    Closes (context.answered state reply) reply stopped := by
  have closes := react_closes context state reply
  rwa [stops] at closes

end

end HarnessProxy.Service

import HarnessProxy.Service.Batch

namespace HarnessProxy.Service

open HarnessProxy.Json HarnessProxy.Core HarnessProxy.Data HarnessProxy.Transcript

/-! # Forced finalization

A batch that only repeats successful calls makes the next attempt a final one.
Whether a final answer can then be accepted depends on the ledger alone.
-/

/-- A permitted call that repeats a successful call of the current epoch. -/
def RepeatsSuccess (py : Python) (deniedTools : List Text) (harness : AgentHarness) (call : Value) : Prop :=
  ∃ fields name arguments prior, call = .obj fields ∧
    callNameArguments py fields = some (name, arguments) ∧ name ∉ deniedTools ∧
    harness.duplicate py name arguments = .ok (some prior) ∧ prior.status = .success

/-- Nothing is left to verify and the batch only repeats successful calls. -/
structure FinalizingBatch (py : Python) (deniedTools : List Text) (harness : AgentHarness)
    (calls : List Value) : Prop where
  nonempty : calls ≠ []
  verified : harness.pendingVerification = false
  noFailures : harness.hasOpenFailures = false
  repeats : ∀ call ∈ calls, RepeatsSuccess py deniedTools harness call

def LatestFailed (harness : AgentHarness) : Prop :=
  harness.receipts.getLast?.map Receipt.status = some .failure

section
variable {py : Python} {deniedTools : List Text} {harness final : AgentHarness} {calls : List Value}
  {results : List (Option Text)}

theorem stalls_of_noFailures (noFailures : harness.hasOpenFailures = false) (name : Text) :
    harness.stalls name = false := by
  have none : harness.hasFailedVerification = false := by
    by_contra failed
    obtain ⟨tool, id, found, _⟩ := AgentHarness.hasFailedVerification_iff.mp
      (Bool.eq_true_of_not_eq_false failed)
    rw [AgentHarness.hasOpenFailures_iff.mpr ⟨tool, id, found⟩] at noFailures
    cases noFailures
  simp [AgentHarness.stalls, none]

theorem canFinalize_iff {refusal : Refusal} : refusal.canFinalize harness = true ↔
    ∃ prior, refusal = .duplicate prior ∧ prior.status = .success ∧
      harness.pendingVerification = false ∧ harness.hasOpenFailures = false := by
  cases refusal <;> simp [Refusal.canFinalize, and_assoc]

/-- A refusal that can finalize is exactly a repeated success. -/
theorem judgeCall_canFinalize_iff {call : Value} (verified : harness.pendingVerification = false)
    (noFailures : harness.hasOpenFailures = false) :
    (∃ refusal, judgeCall py deniedTools harness call = .ok (some refusal) ∧
      refusal.canFinalize harness = true) ↔ RepeatsSuccess py deniedTools harness call := by
  constructor
  · rintro ⟨refusal, judged, can⟩
    obtain ⟨prior, rfl, success, _⟩ := canFinalize_iff.mp can
    simp only [judgeCall] at judged
    split at judged
    · next fields =>
      split at judged
      · cases judged
      · next name arguments decoded =>
        rw [stalls_of_noFailures noFailures] at judged
        split at judged
        · cases judged
        · next permitted =>
          simp only [Bool.false_eq_true, if_false, bind_eq_ok, pure, Except.pure, Except.ok.injEq,
            Option.map_eq_some_iff, Refusal.duplicate.injEq] at judged
          obtain ⟨_, found, _, rfl, rfl⟩ := judged
          exact ⟨fields, name, arguments, _, rfl, decoded, permitted, found, success⟩
    · cases judged
  · rintro ⟨fields, name, arguments, prior, rfl, decoded, permitted, found, success⟩
    refine ⟨.duplicate prior, ?_, canFinalize_iff.mpr ⟨prior, rfl, success, verified, noFailures⟩⟩
    simp [judgeCall, decoded, permitted, stalls_of_noFailures noFailures, found, bind, Except.bind, pure,
      Except.pure]

/-- The flag that `_rejected_results` leaves. -/
theorem forceFinalize_iff (rejected : rejectedResults py deniedTools harness calls = .ok (results, final)) :
    final.forceFinalize = true ↔ FinalizingBatch py deniedTools harness calls := by
  obtain ⟨canFinalize, last, judged, rfl⟩ := rejectedResults_judged rejected
  obtain ⟨refusals, decisions, shape, finalize⟩ := judged.decisions
  simp only [Bool.and_eq_true, finalize]
  have anyShape : results.any Option.isSome = refusals.any Option.isSome := by
    have := congrArg (List.any · id) shape
    simpa [List.any_map, Function.comp_def] using this
  have allShape : results.all Option.isSome = refusals.all Option.isSome := by
    have := congrArg (List.all · id) shape
    simpa [List.all_map, Function.comp_def] using this
  rw [anyShape, allShape]
  constructor
  · rintro ⟨⟨some, all⟩, can⟩
    obtain ⟨refusal, member, isSome⟩ := List.any_eq_true.mp some
    obtain ⟨witness, rfl⟩ := Option.isSome_iff_exists.mp isSome
    obtain ⟨_, _, _, verified, noFailures⟩ := canFinalize_iff.mp (can witness member)
    refine ⟨?_, verified, noFailures, fun call inBatch => ?_⟩
    · rintro rfl
      cases decisions
      cases member
    · obtain ⟨decision, decided, judgedCall⟩ := aligned_of_mem_left decisions inBatch
      obtain ⟨refusal, rfl⟩ := Option.isSome_iff_exists.mp (List.all_eq_true.mp all decision decided)
      exact (judgeCall_canFinalize_iff verified noFailures).mp ⟨refusal, judgedCall, can refusal decided⟩
  · intro batch
    have each : ∀ decision ∈ refusals, ∃ refusal, decision = some refusal ∧
        refusal.canFinalize harness = true := by
      intro decision member
      obtain ⟨call, inBatch, judgedCall⟩ := aligned_of_mem_right decisions member
      obtain ⟨refusal, judged, can⟩ := (judgeCall_canFinalize_iff batch.verified batch.noFailures).mpr
        (batch.repeats call inBatch)
      rw [judgedCall] at judged
      cases judged
      exact ⟨refusal, rfl, can⟩
    refine ⟨⟨?_, ?_⟩, ?_⟩
    · cases decisions with
      | nil => exact absurd rfl batch.nonempty
      | cons first others =>
          obtain ⟨refusal, rfl, _⟩ := each _ (List.mem_cons_self ..)
          simp
    · refine List.all_eq_true.mpr fun decision member => ?_
      obtain ⟨refusal, rfl, _⟩ := each decision member
      rfl
    · intro refusal member
      obtain ⟨other, same, can⟩ := each _ member
      cases same
      exact can

theorem duplicate_mem {name : Text} {arguments : Object} {prior : Receipt}
    (found : harness.duplicate py name arguments = .ok (some prior)) : prior ∈ harness.receipts := by
  simp only [AgentHarness.duplicate, bind_eq_ok, pure, Except.pure, Except.ok.injEq] at found
  obtain ⟨_, _, found⟩ := found
  exact List.mem_reverse.mp (List.mem_of_find?_eq_some found)

theorem terminalIssue_empty (clear : harness.ledgerIssue = none) (noKeys : harness.requiredJsonKeys = none) :
    harness.terminalIssue py [] = .ok none := by
  have unparsed : loads py (Text.strip []) = .error .jsonDecodeError := rfl
  simp [AgentHarness.terminalIssue, clear, unparsed, AgentHarness.claimIssue, noKeys, bind, Except.bind,
    pure, Except.pure]

theorem terminalIssue_of_ledgerIssue {issue content : Text} (found : harness.ledgerIssue = some issue) :
    harness.terminalIssue py content = .ok (some issue) := by
  simp [AgentHarness.terminalIssue, found]

/-- After a forced finalization only a failed latest receipt bars every answer. -/
theorem ledgerIssue_forced (forced : final.forceFinalize = true) (nonempty : final.receipts ≠ [])
    (verified : final.pendingVerification = false) (noFailures : final.hasOpenFailures = false) :
    final.ledgerIssue = none ↔ ¬ LatestFailed final := by
  by_cases failed : LatestFailed final
  · simp [AgentHarness.ledgerIssue, forced, nonempty, failed, show final.receipts.getLast?.map
      Receipt.status = some .failure from failed]
  · have notFailed : final.receipts.getLast?.map Receipt.status ≠ some .failure := failed
    simp [AgentHarness.ledgerIssue, forced, nonempty, failed, notFailed, verified, noFailures]

/-- A forced finalization can end with an answer exactly when the batch does not
finalize, or the latest receipt of the ledger is not a failure. -/
theorem forced_finalization_iff (py : Python) (deniedTools : List Text) (harness final : AgentHarness)
    (calls : List Value) (results : List (Option Text)) (noKeys : harness.requiredJsonKeys = none)
    (rejected : rejectedResults py deniedTools harness calls = .ok (results, final)) :
    (final.forceFinalize = true → ∃ content, final.terminalIssue py content = .ok none) ↔
      ¬ (FinalizingBatch py deniedTools harness calls ∧ LatestFailed harness) := by
  rw [← forceFinalize_iff rejected]
  have finalizing := forceFinalize_iff rejected
  obtain ⟨_, last, judged, shape⟩ := rejectedResults_judged rejected
  have same : ledger final = ledger harness := by rw [shape]; exact judged.ledger
  have receipts := eq_of_ledger AgentHarness.receipts (fun _ => rfl) same
  have pending := eq_of_ledger AgentHarness.pendingVerification (fun _ => rfl) same
  have failures := eq_of_ledger AgentHarness.hasOpenFailures (fun _ => rfl) same
  have keys := (eq_of_ledger AgentHarness.requiredJsonKeys (fun _ => rfl) same).trans noKeys
  have latest : LatestFailed final ↔ LatestFailed harness := by rw [LatestFailed, receipts, LatestFailed]
  have ledgerClear (forced : final.forceFinalize = true) :
      final.ledgerIssue = none ↔ ¬ LatestFailed harness := by
    have batch := finalizing.mp forced
    rw [← latest]
    refine ledgerIssue_forced forced ?_ (pending.trans batch.verified) (failures.trans batch.noFailures)
    obtain ⟨call, member⟩ := List.exists_mem_of_ne_nil _ batch.nonempty
    obtain ⟨_, _, _, prior, _, _, _, found, _⟩ := batch.repeats call member
    rw [receipts]
    exact List.ne_nil_of_mem (duplicate_mem found)
  constructor
  · rintro accepts ⟨forced, failed⟩
    obtain ⟨content, accepted⟩ := accepts forced
    cases issue : final.ledgerIssue with
    | none => exact (ledgerClear forced).mp issue failed
    | some reason =>
        rw [terminalIssue_of_ledgerIssue issue] at accepted
        cases accepted
  · intro notStuck forced
    have clear := (ledgerClear forced).mpr fun failed => notStuck ⟨forced, failed⟩
    exact ⟨[], terminalIssue_empty clear keys⟩

end

/-! ## A run into the dead end -/

/-- A file is read, then an unrelated tool fails. -/
def unrelatedFailure : List Value :=
  [callsMessage [functionCall "a" "read_file" "\x7b\x7d"], toolMessage "a" "text",
    callsMessage [functionCall "b" "list_dir" "\x7b\x7d"], toolMessage "b" "error: denied"]

def repeatedRead : List Value := [functionCall "c" "read_file" "\x7b\x7d"]

/-- The state before the repeated read and the result of the batch. -/
def deadEndRun : Except PyError (AgentHarness × List (Option Text) × AgentHarness) := do
  let rebuilt ← reconstruct .reference (.arr unrelatedFailure) ["read_file", "list_dir"] {} {} true
  let rejected ← rejectedResults .reference [] rebuilt.harness repeatedRead
  return (rebuilt.harness, rejected)

theorem deadEndRun_eq_ok {harness final : AgentHarness} {results : List (Option Text)} :
    deadEndRun = .ok (harness, results, final) ↔ ∃ rebuilt,
      reconstruct .reference (.arr unrelatedFailure) ["read_file", "list_dir"] {} {} true = .ok rebuilt ∧
      rebuilt.harness = harness ∧
      rejectedResults .reference [] harness repeatedRead = .ok (results, final) := by
  simp only [deadEndRun, bind_eq_ok, pure, Except.pure, Except.ok.injEq, Prod.mk.injEq]
  constructor
  · rintro ⟨rebuilt, ran, rejected, computed, rfl, rfl⟩
    exact ⟨rebuilt, ran, rfl, computed⟩
  · rintro ⟨rebuilt, ran, rfl, computed⟩
    exact ⟨rebuilt, ran, (results, final), computed, rfl, rfl⟩

/-- The repeated read finalizes, and every answer is then refused. -/
theorem forced_finalization_dead_end : ∃ rebuilt results final,
    reconstruct .reference (.arr unrelatedFailure) ["read_file", "list_dir"] {} {} true = .ok rebuilt ∧
    rejectedResults .reference [] rebuilt.harness repeatedRead = .ok (results, final) ∧
    final.requiredJsonKeys = none ∧ final.forceFinalize = true ∧
    ∀ content, final.terminalIssue .reference content ≠ .ok none := by
  have returns : deadEndRun.toOption.map (fun run =>
      (run.2.2.requiredJsonKeys, run.2.2.forceFinalize, run.2.2.ledgerIssue)) = some (none, true,
        some (Text.literal "The latest receipt failed; recover with a changed action before finishing.")) := by
    decide
  cases ran : deadEndRun with
  | error e =>
      rw [ran] at returns
      cases returns
  | ok run =>
      obtain ⟨harness, results, final⟩ := run
      obtain ⟨rebuilt, reads, rfl, rejected⟩ := deadEndRun_eq_ok.mp ran
      rw [ran] at returns
      simp only [Except.toOption, Option.map_some, Option.some.injEq, Prod.mk.injEq] at returns
      refine ⟨rebuilt, results, final, reads, rejected, returns.1, returns.2.1, fun content accepted => ?_⟩
      rw [terminalIssue_of_ledgerIssue returns.2.2] at accepted
      cases accepted

theorem forced_finalization_iff_dead_end : ∃ harness results final,
    deadEndRun = .ok (harness, results, final) ∧
    ((final.forceFinalize = true → ∃ content, final.terminalIssue .reference content = .ok none) ↔
      ¬ (FinalizingBatch .reference [] harness repeatedRead ∧ LatestFailed harness)) := by
  have returns : deadEndRun.toOption.map (fun run => run.1.requiredJsonKeys) = some none := by
    decide
  cases ran : deadEndRun with
  | error e =>
      rw [ran] at returns
      cases returns
  | ok run =>
      obtain ⟨harness, results, final⟩ := run
      obtain ⟨_, _, _, rejected⟩ := deadEndRun_eq_ok.mp ran
      rw [ran] at returns
      simp only [Except.toOption, Option.map_some, Option.some.injEq] at returns
      exact ⟨harness, results, final, rfl, forced_finalization_iff _ _ _ _ _ _ returns rejected⟩

end HarnessProxy.Service

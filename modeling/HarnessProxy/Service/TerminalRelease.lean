import HarnessProxy.Projection.Summary
import HarnessProxy.Service.Release

namespace HarnessProxy.Service

open HarnessProxy.Json HarnessProxy.Core HarnessProxy.Data HarnessProxy.Projection HarnessProxy.Transcript

/-! # The terminal gate

A body without tool calls is only released on a settled ledger, whichever way
the request has taken.
-/

/-- What a terminal answer needs of the receipts. -/
structure SettledLedger (roles : ToolRoles) (receipts : List Receipt) : Prop where
  lastSucceeded : ∀ before last, receipts = before ++ [last] → last.status = .success
  noFailedVerification : ∀ tool receipt, ¬ OpenFailure roles receipts tool receipt
  verified : ∀ before mutation after, LastAt (Receipt.IsMutation roles) receipts before mutation after →
    ∃ verification ∈ after, verification.status = .success ∧ verification.IsVerification roles

section
variable {roles : ToolRoles} {harness base : AgentHarness}

theorem ledgerIssue_eq_none (clear : harness.ledgerIssue = none) :
    (harness.requireReceipt = true → harness.receipts ≠ []) ∧
      harness.receipts.getLast?.map Receipt.status ≠ some .failure ∧
      harness.hasOpenFailures = false ∧ harness.pendingVerification = false := by
  simp only [AgentHarness.ledgerIssue] at clear
  split at clear
  · cases clear
  · next hasReceipt =>
    split at clear
    · cases clear
    · split at clear
      · cases clear
      · next notFailed =>
        split at clear
        · cases clear
        · next noFailures =>
          split at clear
          · cases clear
          · next notPending =>
            refine ⟨fun required empty => hasReceipt ?_, notFailed, by simpa using noFailures,
              by simpa using notPending⟩
            simp [required, empty]

/-- After the last successful mutation some tool verified, and the latest
receipt of that tool is a success. -/
theorem verified_of_notPending (meaning : PolicyMeaning roles base)
    (notPending : base.pendingVerification = false)
    (noFailure : ∀ tool receipt, ¬ OpenFailure roles base.receipts tool receipt)
    {before after : List Receipt} {mutation : Receipt}
    (last : LastAt (Receipt.IsMutation roles) base.receipts before mutation after) :
    ∃ verification ∈ after, verification.status = .success ∧ verification.IsVerification roles := by
  have followed : ¬ VerificationPending roles base.receipts := by
    rw [← meaning.pendingVerification, notPending]
    exact Bool.false_ne_true
  have verifies : ∃ verification ∈ after, verification.IsVerification roles := by
    by_contra none
    push Not at none
    exact followed ⟨before, mutation, after, last.split, last.holds, none⟩
  obtain ⟨first, member, isVerification⟩ := verifies
  obtain ⟨init, latest, rest, lastOfTool⟩ :=
    LastAt.exists_of_mem (p := fun other => other.tool = first.tool) member rfl
  have tool : latest.IsVerification roles := by
    have sameTool : latest.tool = first.tool := lastOfTool.holds
    unfold Receipt.IsVerification
    rwa [sameTool]
  refine ⟨latest, by rw [lastOfTool.split]; simp, ?_, tool⟩
  cases status : latest.status with
  | success => rfl
  | failure =>
      refine absurd ⟨⟨status, tool⟩, before ++ mutation :: init, rest, ?_⟩ (noFailure first.tool latest)
      exact ⟨by simp [last.split, lastOfTool.split], lastOfTool.holds, lastOfTool.later⟩

/-- The ledger checks of `terminal_issue` and the meaning of the policy state
together settle the ledger. -/
theorem settledLedger_of_ledgerIssue (meaning : PolicyMeaning roles base)
    (same : ledger harness = ledger base) (clear : harness.ledgerIssue = none) :
    (base.requireReceipt = true → base.receipts ≠ []) ∧ SettledLedger roles base.receipts := by
  obtain ⟨hasReceipt, notFailed, noFailures, notPending⟩ := ledgerIssue_eq_none clear
  rw [eq_of_ledger AgentHarness.requireReceipt (fun _ => rfl) same,
    eq_of_ledger AgentHarness.receipts (fun _ => rfl) same] at hasReceipt
  rw [eq_of_ledger AgentHarness.receipts (fun _ => rfl) same] at notFailed
  rw [eq_of_ledger AgentHarness.hasOpenFailures (fun _ => rfl) same] at noFailures
  rw [eq_of_ledger AgentHarness.pendingVerification (fun _ => rfl) same] at notPending
  have noFailure : ∀ tool receipt, ¬ OpenFailure roles base.receipts tool receipt := by
    intro tool receipt isOpen
    have found := (meaning.openFailures tool receipt.receiptId).mpr ⟨receipt, isOpen, rfl⟩
    rw [AgentHarness.hasOpenFailures_iff.mpr ⟨tool, _, found⟩] at noFailures
    cases noFailures
  refine ⟨hasReceipt, ?_, noFailure, fun before mutation after last =>
    verified_of_notPending meaning notPending noFailure last⟩
  intro before last shape
  rw [shape] at notFailed
  cases status : last.status with
  | success => rfl
  | failure => simp [status] at notFailed

end

section
variable {py : Python} {prepared : Prepared} {rebuilt : Reconstruction} {content : Text}

/-- What a local projection rests on. -/
theorem projectLatestIfCurrent_eq_some {messages : List Value}
    (projected : projectLatestIfCurrent py messages rebuilt = .ok (some content)) :
    ∃ name result blocked decision, latestExactPairedToolResult messages = some (name, result) ∧
      rebuilt.latest = some (name, result) ∧
      decideLocalProjection py rebuilt.harness name result rebuilt.degraded blocked = .ok decision ∧
      decision.content? = some content := by
  simp only [projectLatestIfCurrent] at projected
  split at projected
  · cases projected
  · next name result latest =>
    split at projected
    · cases projected
    · next current =>
      simp only [bind_eq_ok, pure, Except.pure, Except.ok.injEq] at projected
      obtain ⟨blocked, _, decision, decided, released⟩ := projected
      exact ⟨name, result, blocked, decision, latest, by simpa using current, decided, released⟩

/-- The gates of the projection are gates of the ledger. -/
theorem ledgerIssue_of_projectLatest {messages : List Value}
    (projected : projectLatestIfCurrent py messages rebuilt = .ok (some content)) :
    rebuilt.harness.ledgerIssue = none := by
  obtain ⟨name, result, blocked, decision, _, _, decided, released⟩ := projectLatestIfCurrent_eq_some projected
  exact (ledgerIssue_of_projected (decideLocalProjection_content decided released).1).1

theorem terminalIssue_ledgerIssue {harness : AgentHarness}
    (accepted : harness.terminalIssue py content = .ok none) : harness.ledgerIssue = none := by
  cases clear : harness.ledgerIssue with
  | none => rfl
  | some issue => simp [AgentHarness.terminalIssue, clear] at accepted

theorem rebuild_requireReceipt (read : rebuild py prepared = .ok rebuilt) :
    rebuilt.harness.requireReceipt = prepared.requireReceipt :=
  congrArg AgentHarness.requireReceipt (reconstruct_configured (rebuild_eq_ok.mp read))

end

/-- A body whose message carries no tool calls. -/
def isTerminal (body : Object) : Bool :=
  match responseMessage? body with
  | some (_, message) => toolCalls message = .arr []
  | none => false

theorem isTerminal_iff {body : Object} : isTerminal body = true ↔
    ∃ choice message, responseMessage? body = some (choice, message) ∧ toolCalls message = .arr [] := by
  unfold isTerminal
  cases responseMessage? body with
  | none => simp
  | some found =>
      obtain ⟨choice, message⟩ := found
      simp

section
variable {py : Python} {settings : Settings} {upstream : Upstream} {prepared : Prepared}
  {rebuilt : Reconstruction} {run : Run} {body : Object}

/-- How a terminal body comes about: by projection, or as the last response
with a content that the terminal gate accepts. -/
inductive TerminalSource (py : Python) (upstream : Upstream) (prepared : Prepared) (rebuilt : Reconstruction)
    (run : Run) (body : Object) : Prop
  | projected {content : Text} (sent : run.sent = [])
      (projection : projectLatestIfCurrent py prepared.messages rebuilt = .ok (some content))
      (shape : body = projectedResponse py (modelOf prepared) content)
  | replied {attempt : Attempt} {response : JsonObject} {choice message : Object} {content : Text}
      {changed : Bool} {harness : AgentHarness} (last : LastReply upstream run attempt response)
      (choices : responseMessage? response.fields = some (choice, message))
      (noCalls : toolCalls message = .arr [])
      (normalized : normalizeBareJson py (validatedContent message) = .ok (content, changed))
      (same : ledger harness = ledger rebuilt.harness)
      (accepted : harness.terminalIssue py content = .ok none)
      (shape : body = withoutReservedProjectionMarker
        (if changed then withContent response.fields choice message content else response.fields))

theorem Completed.terminalSource (completed : Completed py settings upstream prepared rebuilt run body)
    (terminal : isTerminal body = true) : TerminalSource py upstream prepared rebuilt run body := by
  cases completed with
  | projected sent projection shape => exact .projected sent projection shape
  | replied _ reached last released =>
      have same : ledger _ = ledger rebuilt.harness := entered_ledger reached
      cases released with
      | calls choices batch nonempty =>
          obtain ⟨choice, message, found, noCalls⟩ := isTerminal_iff.mp terminal
          rw [responseMessage?_withoutMarker, choices] at found
          cases found
          rw [batch] at noCalls
          cases noCalls
          exact absurd rfl nonempty
      | content choices noCalls normalized accepted =>
          exact .replied last choices noCalls normalized same accepted rfl

/-- The ledger of the transcript passes the ledger checks in the state in which
a terminal body is released. -/
theorem TerminalSource.ledgerIssue (source : TerminalSource py upstream prepared rebuilt run body) :
    ∃ harness, ledger harness = ledger rebuilt.harness ∧ harness.ledgerIssue = none := by
  cases source with
  | projected _ projection _ => exact ⟨rebuilt.harness, rfl, ledgerIssue_of_projectLatest projection⟩
  | replied _ _ _ _ same accepted => exact ⟨_, same, terminalIssue_ledgerIssue accepted⟩

end

/-- Terminal release gate: a body without tool calls is only returned when the
ledger of the request's own messages is settled, and holds a receipt where
receipts are required beside tools. -/
theorem complete_terminal_settled (py : Python) (settings : Settings) (upstream : Upstream)
    (options : Options) (payload : JsonObject) (result : ChatResult) (enabled : options.harnessEnabled = true)
    (completes : (complete py settings upstream options payload).outcome = .ok result)
    (terminal : isTerminal result.body = true) :
    ∃ prepared rebuilt,
      prepareRequest py settings options upstream.combinedSupported payload.fields = .ok prepared ∧
      prepared.roles.Disjoint ∧
      reconstruct py (.arr prepared.messages) prepared.availableTools prepared.roles prepared.contract
        prepared.requireReceipt = .ok rebuilt ∧
      (prepared.tools ≠ [] → receiptsRequired settings payload.fields = true →
        rebuilt.harness.receipts ≠ []) ∧
      SettledLedger prepared.roles rebuilt.harness.receipts := by
  obtain ⟨prepared, rebuilt, ran, read, completed⟩ := complete_completed enabled completes
  have accepted := prepareRequest_accepted ran
  have meaning := reconstruct_meaning (rebuild_eq_ok.mp read)
  obtain ⟨harness, same, clear⟩ := (completed.terminalSource terminal).ledgerIssue
  obtain ⟨hasReceipt, settled⟩ := settledLedger_of_ledgerIssue meaning same clear
  refine ⟨prepared, rebuilt, ran, accepted.disjoint, rebuild_eq_ok.mp read, fun tools required => ?_, settled⟩
  refine hasReceipt ?_
  rw [rebuild_requireReceipt read, accepted.requireReceipt, required]
  cases shape : prepared.tools with
  | nil => exact absurd shape tools
  | cons tool rest => rfl

/-- The tests were run and passed. -/
def verifiedRequest : JsonObject where
  fields := [("model", .str "m"),
    ("messages", .arr [userMessage "run the tests", callsMessage [functionCall "a" "run_tests" "\x7b\x7d"],
      toolMessage "a" "2 passed"]),
    ("tools", .arr [functionTool "run_tests"])]
  valid := by decide

def doneUpstream : Upstream where
  reply _ := contentReply (.str "done")

theorem complete_terminal_settled_verified : ∃ result,
    (complete .reference defaultSettings doneUpstream {} verifiedRequest).outcome = .ok result ∧
    ∃ prepared rebuilt,
      prepareRequest .reference defaultSettings {} false verifiedRequest.fields = .ok prepared ∧
      prepared.roles.Disjoint ∧
      reconstruct .reference (.arr prepared.messages) prepared.availableTools prepared.roles
        prepared.contract prepared.requireReceipt = .ok rebuilt ∧
      (prepared.tools ≠ [] → receiptsRequired defaultSettings verifiedRequest.fields = true →
        rebuilt.harness.receipts ≠ []) ∧
      SettledLedger prepared.roles rebuilt.harness.receipts := by
  have returns : (complete .reference defaultSettings doneUpstream {} verifiedRequest).outcome.toOption.map
      (fun result => isTerminal result.body) = some true := by decide
  cases completes : (complete .reference defaultSettings doneUpstream {} verifiedRequest).outcome with
  | error raised =>
      rw [completes] at returns
      cases returns
  | ok result =>
      rw [completes] at returns
      simp only [Except.toOption, Option.map_some, Option.some.injEq] at returns
      exact ⟨result, rfl, complete_terminal_settled _ _ _ _ _ _ rfl completes returns⟩

end HarnessProxy.Service

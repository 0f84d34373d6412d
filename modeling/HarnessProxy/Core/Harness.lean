import HarnessProxy.Core.Receipt
import Mathlib.Data.List.AList

namespace HarnessProxy.Core

open HarnessProxy.Json

/-! # The policy state of one request

`AgentHarness` is rebuilt from the transcript of every request.  The methods
that change it return the new state beside their result.
-/

structure AgentHarness where
  goal : Text
  availableTools : List Text := []
  requiredJsonKeys : Option (List Text) := none
  requiredJsonTypes : List (Text × Text) := []
  enforceFailedExecutionClaim : Bool := false
  requireReceipt : Bool := true
  roles : ToolRoles := {}
  epoch : Nat := 0
  receipts : List Receipt := []
  pendingVerification : Bool := false
  blockedDuplicates : Nat := 0
  blockedStalls : Nat := 0
  lastActionBlocked : Bool := false
  forceFinalize : Bool := false
  terminalCorrections : Nat := 0
  /-- A dictionary of receipt ids, of which the order is never observed. -/
  openFailures : AList (fun _ : Text => Nat) := ∅
  investigationsSinceFailedVerification : Nat := 0

namespace AgentHarness

/-- The constructor call of a new harness; the policy state takes its defaults. -/
def fresh (goal : Text) (availableTools : List Text) (requiredJsonKeys : Option (List Text))
    (requiredJsonTypes : List (Text × Text)) (enforceFailedExecutionClaim requireReceipt : Bool)
    (roles : ToolRoles) : AgentHarness where
  goal := goal
  availableTools := availableTools
  requiredJsonKeys := requiredJsonKeys
  requiredJsonTypes := requiredJsonTypes
  enforceFailedExecutionClaim := enforceFailedExecutionClaim
  requireReceipt := requireReceipt
  roles := roles

variable (py : Python) (harness : AgentHarness)

/-- `bool(self.open_failures)` -/
def hasOpenFailures : Bool := !harness.openFailures.entries.isEmpty

/-- `any(tool in self.roles.verification for tool in self.open_failures)` -/
def hasFailedVerification : Bool :=
  harness.openFailures.keys.any fun tool => harness.roles.verification.contains tool

/-- `bool(self.available_tools & names)` -/
def offers (names : List Text) : Bool := harness.availableTools.any fun tool => names.contains tool

def duplicate (name : Text) (arguments : Object) : Except PyError (Option Receipt) := do
  let signature ← canonicalSignature py name arguments
  return harness.receipts.reverse.find? fun receipt =>
    receipt.epoch = harness.epoch && receipt.signature = signature

/-- The receipt that `record` appends. -/
def nextReceipt (name signature : Text) (status : ReceiptStatus) : Receipt :=
  { receiptId := harness.receipts.length + 1, tool := name, signature, status, epoch := harness.epoch }

/-- The branch of `record` that keeps the open failures and counts investigations. -/
def trackFailures (receipt : Receipt) : AgentHarness :=
  if receipt.status = .failure ∧ receipt.tool ∈ harness.roles.verification then
    { harness with
      openFailures := harness.openFailures.insert receipt.tool receipt.receiptId
      investigationsSinceFailedVerification := 0 }
  else
    let closed : AgentHarness := { harness with openFailures := harness.openFailures.erase receipt.tool }
    if receipt.status = .success ∧ receipt.tool ∈ harness.roles.investigation ∧
        closed.hasFailedVerification then
      { closed with
        investigationsSinceFailedVerification := harness.investigationsSinceFailedVerification + 1 }
    else closed

/-- The branch of `record` that opens an epoch or closes a pending verification. -/
def trackEpoch (receipt : Receipt) : AgentHarness :=
  if receipt.status = .success ∧ receipt.tool ∈ harness.roles.mutation then
    { harness with
      epoch := harness.epoch + 1
      pendingVerification := true
      investigationsSinceFailedVerification := 0 }
  else if receipt.tool ∈ harness.roles.verification ∧ harness.pendingVerification then
    { harness with pendingVerification := false }
  else harness

/-- `record` after the result is classified and the call is signed, which are
the two steps that can raise. -/
def recordReceipt (name signature : Text) (status : ReceiptStatus) : AgentHarness :=
  let receipt := harness.nextReceipt name signature status
  let recorded : AgentHarness := { harness with
    lastActionBlocked := false
    forceFinalize := false
    receipts := harness.receipts ++ [receipt] }
  (recorded.trackFailures receipt).trackEpoch receipt

def record (name : Text) (arguments : Object) (result : Text) : Except PyError AgentHarness := do
  let status ← receiptStatus py result
  let signature ← canonicalSignature py name arguments
  return harness.recordReceipt name signature status

/-- The synthetic result of a duplicate call. -/
def blockedResult (prior : Receipt) : Text × AgentHarness :=
  let finalize := prior.status = .success && !harness.pendingVerification && !harness.hasOpenFailures
  let instruction : Text :=
    if finalize then "The prior successful receipt is sufficient. Return the required final answer now."
    else "Diagnose the prior receipt and choose a changed action or arguments."
  (dumps false (.obj [
      ("shiftedx_harness", .str "duplicate_call_blocked"),
      ("execution_status", .str "blocked_not_executed"),
      ("fact", .str "This proposed call was blocked by the proxy and did not reach the client executor."),
      ("prior_receipt", .int prior.receiptId),
      ("instruction", .str instruction)]),
    { harness with
      blockedDuplicates := harness.blockedDuplicates + 1
      lastActionBlocked := true
      forceFinalize := finalize })

/-- The condition under which `stalled_result` withholds an investigation. -/
def stalls (name : Text) : Bool :=
  harness.roles.investigation.contains name && harness.hasFailedVerification &&
    harness.offers harness.roles.mutation && 3 ≤ harness.investigationsSinceFailedVerification

/-- The synthetic result of a call that stalls. -/
def stalledResult : Text × AgentHarness :=
  (dumps false (.obj [
      ("shiftedx_harness", .str "investigation_stall_blocked"),
      ("instruction", .str ("A verification failure remains open and three successful investigation " ++
        "receipts are already available. Use an available mutation tool, then rerun verification."))]),
    { harness with
      blockedStalls := harness.blockedStalls + 1
      lastActionBlocked := true
      forceFinalize := false })

/-- `sum(receipt.status == "failure" for receipt in self.receipts)` -/
def failedExecutions : Nat := harness.receipts.countP fun receipt => receipt.status = .failure

end AgentHarness

/-! ## Bare JSON answers -/

/-- `_matches_json_type`, with the error of an unsupported contract. -/
def matchesJsonType (value : Value) (typeName : Text) : Except PyError Bool :=
  if typeName = ("string" : Text) then .ok (value matches .str _)
  else if typeName = ("integer" : Text) then .ok (value matches .int _)
  else if typeName = ("number" : Text) then .ok (value matches .int _ | .float _)
  else if typeName = ("boolean" : Text) then .ok (value matches .bool _)
  else .error (.valueError ("Unsupported JSON type contract: " ++ typeName))

/-- The body of a fenced answer: what the regular expression
"```(?:json)?\s*\n?(.*?)\n?```" captures, stripped.  The group always
starts after the greedy whitespace and the closing fence ends the text. -/
def fencedCandidate (text : Text) : Option Text := do
  let opened ← Text.dropPrefix? "```" text
  let body := (Text.matchWord "json" opened).getD opened
  let inner ← Text.dropSuffix? "```" body
  return Text.strip inner

/-- `normalize_bare_json`: the text and whether it changed.  Only a decoding
error is caught. -/
def normalizeBareJson (py : Python) (content : Text) : Except PyError (Text × Bool) :=
  match fencedCandidate (Text.strip content) with
  | none => .ok (content, false)
  | some candidate => match loads py candidate with
    | .error .jsonDecodeError => .ok (content, false)
    | .error e => .error e
    | .ok (.obj _) => .ok (candidate, true)
    | .ok _ => .ok (content, false)

/-- The first declared type that a key of the answer misses. -/
def typeIssue (value : Object) : List (Text × Text) → Except PyError (Option Text)
  | [] => .ok none
  | (key, typeName) :: rest => match value.get? key with
    | none => typeIssue value rest
    | some item => match matchesJsonType item typeName with
      | .error e => .error e
      | .ok true => typeIssue value rest
      | .ok false => .ok (some ("The final JSON key " ++ key ++ " must be a JSON " ++ typeName ++ "."))

/-- `set(value) != set(keys)` -/
def sameKeys (value : Object) (keys : List Text) : Bool :=
  value.keys.all keys.contains && keys.all value.keys.contains

def bareJsonIssue (py : Python) (content : Text) (requiredKeys : Option (List Text))
    (requiredTypes : List (Text × Text)) : Except PyError (Option Text) :=
  let text := Text.strip content
  if text = [] then .ok (some "The final answer is empty; return the requested bare JSON object.")
  else match loads py text with
    | .error .jsonDecodeError =>
      .ok (some "The final answer is not bare parseable JSON; remove fences and commentary.")
    | .error e => .error e
    | .ok (.obj value) => match requiredKeys with
      | some keys =>
        if sameKeys value keys then typeIssue value requiredTypes
        else .ok (some ("The final JSON must contain exactly these keys: " ++ Text.join ", " keys ++ "."))
      | none => typeIssue value requiredTypes
    | .ok _ => .ok (some "The final answer must be a JSON object.")

namespace AgentHarness

variable (py : Python) (harness : AgentHarness)

/-- The part of `terminal_issue` that reads only the ledger. -/
def ledgerIssue : Option Text :=
  if harness.receipts.isEmpty && harness.requireReceipt then
    some "No tool receipt supports completion; use the supplied tools first."
  else if harness.lastActionBlocked && !harness.forceFinalize then
    some "The latest requested action was blocked; choose a changed action before finishing."
  else if (harness.receipts.getLast?.map Receipt.status) = some .failure then
    some "The latest receipt failed; recover with a changed action before finishing."
  else if harness.hasOpenFailures then
    some ("Failed receipts remain unresolved for: " ++
      Text.join ", " (Text.sorted harness.openFailures.keys) ++ ". Recover and verify before finishing.")
  else if harness.pendingVerification then
    some "State changed after the last verification; run a verification tool before finishing."
  else none

/-- The part of `terminal_issue` that checks a structured claim.  `structured`
is the parsed answer, if it parses. -/
def claimIssue (structured : Option Value) : Option Text :=
  match structured with
  | some (.obj fields) => match Object.get? fields "failed_executions" with
    | some claimed =>
      if !harness.enforceFailedExecutionClaim || claimed = .int harness.failedExecutions then none
      else some ("The final JSON key failed_executions must be " ++ Text.ofNat harness.failedExecutions ++
        ", matching failed client-visible tool receipts.")
    | none => none
  | _ => none

def terminalIssue (content : Text) : Except PyError (Option Text) :=
  match harness.ledgerIssue with
  | some issue => .ok (some issue)
  | none => do
    let structured ← match loads py (Text.strip content) with
      | .error .jsonDecodeError => pure none
      | .error e => throw e
      | .ok value => pure (some value)
    match harness.claimIssue structured with
    | some issue => return some issue
    | none => match harness.requiredJsonKeys with
      | none => return none
      | some keys => bareJsonIssue py content (some keys) harness.requiredJsonTypes

def correction (issue : Text) : Text × AgentHarness :=
  ("[shiftedx harness correction]\n" ++ issue ++
      "\nContinue from the verified receipts; do not restart completed work.",
    { harness with terminalCorrections := harness.terminalCorrections + 1 })

def renderReceipt (receipt : Receipt) : Text :=
  let status : Text := match receipt.status with
    | .failure => "failure"
    | .success => "success"
  "R" ++ Text.ofNat receipt.receiptId ++ ":" ++ receipt.tool ++ "=" ++ status ++ "@e" ++
    Text.ofNat receipt.epoch

/-- The state line that the working messages end with. -/
def render : Text :=
  let recent := harness.receipts.drop (harness.receipts.length - 3)
  let receiptText : Text := if recent = [] then "none" else Text.join ", " (recent.map renderReceipt)
  let verification : Text := if harness.pendingVerification then "required" else "clear"
  let unresolved : Text := if harness.openFailures.keys = [] then "none"
    else Text.join "," (Text.sorted harness.openFailures.keys)
  let nextAction : Text :=
    if harness.forceFinalize then
      "Evidence is sufficient; return the required final answer now without another tool call."
    else if harness.pendingVerification && harness.offers harness.roles.verification then
      "Run a verification tool now; do not inspect or mutate again first."
    else if harness.hasFailedVerification && 3 ≤ harness.investigationsSinceFailedVerification &&
        harness.offers harness.roles.mutation then
      "A failed verification is diagnosed; use a mutation tool next, then rerun verification."
    else "Use receipts; change approach after failure; finish in the exact requested format."
  "[shiftedx harness] epoch=" ++ Text.ofNat harness.epoch ++ " verify=" ++ verification ++ " open=" ++
    unresolved ++ " receipts=" ++ receiptText ++ ". Next: " ++ nextAction

end AgentHarness

end HarnessProxy.Core

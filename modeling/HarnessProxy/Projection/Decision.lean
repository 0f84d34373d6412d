import HarnessProxy.Core.Harness
import HarnessProxy.Json.Strict
import HarnessProxy.Transcript.Tools

namespace HarnessProxy.Projection

open HarnessProxy.Json HarnessProxy.Core HarnessProxy.Transcript

/-! # Local projection

A terminal answer that the last tool result already determines is built without
the model.  One rule is promoted; the other candidates are only compared.
-/

/-- The parsed terminal value and the declared primitive-object schema. -/
structure CanonicalProjection where
  value : Object
  declaredSchema : List (Text × Text)

def CanonicalProjection.content (candidate : CanonicalProjection) : Text := dumps false (.obj candidate.value)

structure ProjectionDecision where
  eligible : Bool
  reason : Text
  candidate : Option CanonicalProjection := none

def rejected (reason : Text) : ProjectionDecision := { eligible := false, reason }

/-- `_declared_schema`: the declared types in the order of the keys. -/
def declaredSchema (harness : AgentHarness) : Option (List (Text × Text)) :=
  match harness.requiredJsonKeys with
  | none => none
  | some keys =>
    let types := harness.requiredJsonTypes
    let names := types.map Prod.fst
    if keys = [] || !decide keys.Nodup || !keys.all names.contains || !names.all keys.contains then none
    else if !types.all fun entry => primitiveTypes.contains entry.2 then none
    else some (keys.map fun key => (key, (types.lookup key).getD []))

/-- What follows the digits of a `_PROVEN_VERIFICATION_SUMMARY`: `\s+passed\s*`. -/
def isPassedSuffix (text : Text) : Bool :=
  let word := text.dropWhile Text.isSpace
  word.length < text.length &&
    match Text.matchWord "passed" word with
    | some rest => rest.all Text.isSpace
    | none => false

/-- The digits that `_PROVEN_VERIFICATION_SUMMARY` captures. -/
def verificationSummary (py : Python) (result : Text) : Option Text :=
  let start := result.dropWhile Text.isSpace
  let digits := start.takeWhile (FailurePattern.isDecimal py)
  if digits ≠ [] && isPassedSuffix (start.dropWhile (FailurePattern.isDecimal py)) then some digits else none

/-- The one schema that the promoted rule serves. -/
def summarySchema : List (Text × Text) := [("status", "string"), ("tests", "integer")]

def summaryValue (tests : Nat) : Object := [("status", .str "passed"), ("tests", .int tests)]

def provenVerificationCandidate (py : Python) (harness : AgentHarness) (name result : Text)
    (schema : List (Text × Text)) : Except PyError (Option CanonicalProjection) :=
  if name ∉ harness.roles.verification ∨ schema ≠ summarySchema then .ok none
  else match verificationSummary py result with
    | none => .ok none
    | some digits => do
      let tests ← py.parseInt digits
      return some ⟨summaryValue tests, schema⟩

/-- The value as a declared object, if keys and types are exactly those declared. -/
def conformingValue (fields : Object) (schema : List (Text × Text)) : Except Text Object :=
  if !sameKeys fields (schema.map Prod.fst) then .error "schema_keys_mismatch"
  else if schema.all fun entry => match Object.get? fields entry.1 with
      | some value => matchesJsonType value entry.2 = .ok true
      | none => false
    then .ok (schema.map fun entry => (entry.1, (Object.get? fields entry.1).getD .null))
  else .error "schema_type_mismatch"

/-- `_parse_exact_terminal`: a strict reader without repeated keys and
non-finite numbers.  Every error of the reader is caught. -/
def parseExactTerminal (py : Python) (content : Text) (schema : List (Text × Text)) : Except Text Object :=
  match parseDocument content with
  | .error _ => .error "malformed_tool_result"
  | .ok tree =>
    if !tree.strict then .error "malformed_tool_result"
    else match tree.value py with
      | .obj fields => conformingValue fields schema
      | _ => .error "terminal_not_object"

section
variable (py : Python) (harness : AgentHarness) (name result : Text)

/-- The checks on the ledger, in order; `none` when the latest receipt may be
projected. -/
def ledgerRejection (transcriptDegraded blockedUnresolvedAction : Bool) : Option Text :=
  if transcriptDegraded then some "transcript_degraded"
  else if blockedUnresolvedAction || harness.lastActionBlocked then some "blocked_unresolved_action"
  else if harness.pendingVerification then some "pending_verification"
  else if harness.hasOpenFailures then some "open_failure"
  else match harness.receipts.getLast? with
    | none => some "no_receipt"
    | some latest =>
      if latest.epoch ≠ harness.epoch then some "stale_receipt"
      else if latest.status ≠ .success then some "receipt_not_success"
      else if !harness.availableTools.isEmpty && !harness.availableTools.contains name then
        some "unknown_tool_result"
      else if latest.tool ≠ name then some "nonlatest_receipt"
      else none

/-- Identify a conservative candidate for shadow comparison. -/
def decideShadowCandidate (transcriptDegraded blockedUnresolvedAction : Bool) :
    Except PyError ProjectionDecision :=
  match ledgerRejection harness name transcriptDegraded blockedUnresolvedAction with
  | some reason => .ok (rejected reason)
  | none => match declaredSchema harness with
    | none => .ok (rejected "unsupported_schema")
    | some schema => do
      match ← provenVerificationCandidate py harness name result schema with
      | some proven => return { eligible := true, reason := "proven_verifier_summary", candidate := some proven }
      | none => match parseExactTerminal py result schema with
        | .error reason => return rejected reason
        | .ok value =>
          return { eligible := true, reason := "exact_primitive_object", candidate := some ⟨value, schema⟩ }

/-- The release decision for the only promoted projection rule. -/
def decideLocalProjection (transcriptDegraded blockedUnresolvedAction : Bool) :
    Except PyError ProjectionDecision := do
  let shadow ← decideShadowCandidate py harness name result transcriptDegraded blockedUnresolvedAction
  if !shadow.eligible then return shadow
  else if shadow.reason ≠ ("proven_verifier_summary" : Text) then return rejected "unpromoted_rule"
  else return { eligible := true, reason := "eligible", candidate := shadow.candidate }

/-- `candidate.content()` of an eligible decision. -/
def ProjectionDecision.content? (decision : ProjectionDecision) : Option Text :=
  if decision.eligible then decision.candidate.map CanonicalProjection.content else none

end

end HarnessProxy.Projection

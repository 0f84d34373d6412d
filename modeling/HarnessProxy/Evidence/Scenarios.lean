import HarnessProxy.Evidence.Evaluator
import HarnessProxy.Evidence.ScoredLedger

namespace HarnessProxy.Evidence

open HarnessProxy.Json

/-! # Scored scenarios and their rows

One scenario after the other leaves one row in the scored ledger: the row of the
benchmark with the fingerprints of the client, or a row about the failure.
Rows are objects here; `ScoredLedger` has the bytes.
-/

/-- The parts of a benchmark scenario that a failure row shows. -/
structure Scenario where
  caseId : Text
  prompt : Text
  tools : Value
  family : Value
  realRepo : Value
  maxTurns : Value
  maxToolCalls : Value
  forbiddenCalls : List Text
deriving DecidableEq

/-- What the runner sees of an exception. -/
structure RunnerError where
  typeName : Text
  text : Text
  isPreflightFailure : Bool
deriving DecidableEq

/-! ## The row of a failure -/

def isWordChar (py : Python) (c : CodePoint) : Bool := c = codePoint '_' || py.isAlnum c

/-- `HTTP ([1-5][0-9]{2})\b` at the start of the text. -/
def statusHere (py : Python) (text : Text) : Option Nat :=
  match Text.dropPrefix? "HTTP " text with
  | some (hundreds :: tens :: ones :: after) =>
    if (0x31 ≤ hundreds.val && hundreds.val ≤ 0x35) && isDigit tens && isDigit ones &&
        !(after.head?.any (isWordChar py)) then
      some ((hundreds.val - 0x30) * 100 + (tens.val - 0x30) * 10 + (ones.val - 0x30))
    else none
  | _ => none

/-- `_HTTP_STATUS.search`; `inside` says that a word character comes before. -/
def searchStatus (py : Python) (inside : Bool) : Text → Option Nat
  | [] => none
  | c :: rest =>
    match if inside then none else statusHere py (c :: rest) with
    | some status => some status
    | none => searchStatus py (isWordChar py c) rest

def systemPrompt : Text :=
  "You are an autonomous coding agent in a deterministic sandbox. Use supplied tools, never invent " ++
    "results, recover from failures, verify completion, and obey the requested final JSON format."

/-- What all rows of one treatment share. -/
structure Treatment where
  runId : Text
  variant : Text
  agenticSet : Text
deriving DecidableEq

def requestContract (treatment : Treatment) (scenario : Scenario) : Object :=
  [("messages", .arr
      [.obj [("role", .str "system"), ("content", .str systemPrompt)],
        .obj [("role", .str "user"), ("content", .str scenario.prompt)]]),
    ("tools", scenario.tools), ("agentic_control_profile", .str "baseline"),
    ("agentic_set", .str treatment.agenticSet)]

def failureTelemetry (wallS : PyFloat) : Object :=
  [("tool_call_count", .int 0), ("tool_calls", .arr []), ("dispatched_tool_call_count", .int 0),
    ("dispatched_tool_calls", .arr []), ("blocked_duplicate_count", .int 0), ("blocked_stall_count", .int 0),
    ("terminal_correction_count", .int 0), ("format_normalization_count", .int 0),
    ("receipt_projection_count", .int 0), ("harness_receipts", .arr []), ("turns", .arr []),
    ("wall_s", .float wallS), ("prompt_tokens", .int 0), ("completion_tokens", .int 0), ("ttft_s", .null)]

def failureMetadata (treatment : Treatment) (scenario : Scenario) (error : RunnerError) : Object :=
  [("max_turns", scenario.maxTurns), ("max_tool_calls", scenario.maxToolCalls),
    ("agentic_control_profile", .str "baseline"), ("agentic_set", .str treatment.agenticSet),
    ("agentic_family", scenario.family), ("real_repo", scenario.realRepo),
    ("forbidden_calls", .arr ((Text.sorted scenario.forbiddenCalls).map .str)),
    ("runner_failure_stage", .str (if error.isPreflightFailure then "qualification_observer" else "benchmark_client"))]

def errorLabel : Option Nat → Text
  | none => "client request failed"
  | some status => "client request failed with HTTP " ++ Text.ofNat status

/-- `0.0` and `1.0` -/
def zeroFloat : PyFloat := .finite ⟨"0.0", by decide⟩
def oneFloat : PyFloat := .finite ⟨"1.0", by decide⟩

/-- `failure_row` -/
def failureRow (py : Python) (treatment : Treatment) (scenario : Scenario) (error : RunnerError) (wallS : PyFloat)
    (fingerprints : Object) : Object :=
  let status := searchStatus py false error.text
  [("schema_version", .str "1.0"), ("run_id", .str treatment.runId), ("suite_id", .str "shiftedx-agentic-v1"),
    ("case_id", .str scenario.caseId), ("lane", .str "agentic"), ("variant", .str treatment.variant),
    ("passed", .bool false), ("score", .float zeroFloat), ("score_max", .float oneFloat),
    ("error", .str (errorLabel status)),
    ("response", .obj [("client_error", .obj
      [("type", .str error.typeName), ("http_status", status.elim .null fun status => .int status)])]),
    ("telemetry", .obj (failureTelemetry wallS)), ("metadata", .obj (failureMetadata treatment scenario error)),
    ("request_hash", .str (py.sha256 (dumpsUnicode true (.obj (requestContract treatment scenario))))),
    ("scored", .bool true), ("contract_fingerprints", .obj fingerprints)]

/-! ## The ledger of an arm -/

/-- The rows that `append_failure` writes. -/
def replaceCase (equal : Value → Value → Bool) (rows : List Object) (row : Object) : List Object :=
  rows.filter (fun item => !equal (caseId item) (caseId row)) ++ [row]

theorem appendFailure_eq (py : Python) (equal : Value → Value → Bool) (output : Option Bytes) (row : Object) :
    appendFailure py equal output row = (do
      let values ← match output with
        | none => .ok []
        | some bytes => readRows py bytes
      let rows ← mapEach asRow values
      liftError (atomicReplaceJsonl (replaceCase equal rows row))) := rfl

/-- The names of the tool calls of a response. -/
def emittedNames (response : Object) : List Text :=
  (((response.get? "tool_calls").bind Value.asList?).getD []).filterMap fun call =>
    ((call.asObject?.bind fun call => (call.get? "function").bind Value.asObject?).bind fun function =>
      function.get? "name").bind Value.asString?

/-- How a scenario ends.  The benchmark may have written its row before
something else failed. -/
inductive Ending where
  | completed (row fingerprints : Object)
  | failed (row : Option Object) (error : RunnerError) (wallS : PyFloat) (fingerprints : Object)
deriving DecidableEq

structure ScenarioRun where
  scenario : Scenario
  responses : List Object
  ending : Ending
deriving DecidableEq

namespace ScenarioRun

variable (run : ScenarioRun)

def isCompleted : Bool :=
  match run.ending with
  | .completed .. => true
  | .failed .. => false

/-- Some response had a call to a forbidden tool. -/
def EmitsForbidden : Prop := ∃ response ∈ run.responses, ∃ name ∈ emittedNames response, name ∈ run.scenario.forbiddenCalls

instance : Decidable run.EmitsForbidden :=
  decidable_of_iff (run.responses.any fun response => (emittedNames response).any (· ∈ run.scenario.forbiddenCalls)) (by
    simp [EmitsForbidden])

/-- The ledger after the scenario. -/
def score (py : Python) (equal : Value → Value → Bool) (treatment : Treatment) (rows : List Object) :
    Except PyError (List Object) :=
  match run.ending with
  | .completed row fingerprints => mapEach (annotateRow fingerprints [run.scenario.caseId]) (rows ++ [row])
  | .failed row error wallS fingerprints =>
    .ok (replaceCase equal (rows ++ row.toList) (failureRow py treatment run.scenario error wallS fingerprints))

end ScenarioRun

/-- The ledger after all scenarios of an arm. -/
def scoreArm (py : Python) (equal : Value → Value → Bool) (treatment : Treatment) (rows : List Object) :
    List ScenarioRun → Except PyError (List Object)
  | [] => .ok rows
  | run :: rest => do scoreArm py equal treatment (← run.score py equal treatment rows) rest

/-! ## The evidence -/

/-- What the adapter is told about a lane and a replicate. -/
structure V2EvidenceSpec where
  scenarioOrderSha256 : Text
  criticalScenarioOrdinals : List Nat
  cacheLane : Text
  replicate : Nat
  deadlineS : Decimal
deriving DecidableEq

def criticalScenarioOrdinals : List Nat := [29, 30]

/-- `_validate_spec` of these fields. -/
def validSpec (spec : V2EvidenceSpec) : Bool :=
  spec.criticalScenarioOrdinals = criticalScenarioOrdinals && decide (spec.cacheLane ∈ lanes.map Lane.name) &&
    decide (1 ≤ spec.replicate ∧ spec.replicate ≤ replicatesPerLane) && spec.deadlineS.positiveFinite

def isAsciiAlnum (c : CodePoint) : Bool :=
  (0x30 ≤ c.val && c.val ≤ 0x39) || (0x41 ≤ c.val && c.val ≤ 0x5a) || (0x61 ≤ c.val && c.val ≤ 0x7a)

/-- `_SAFE_ID.fullmatch` -/
def isSafeId : Text → Bool
  | [] => false
  | first :: rest => isAsciiAlnum first && decide (rest.length ≤ 127) &&
      rest.all fun c => isAsciiAlnum c || c = codePoint '.' || c = codePoint '_' || c = codePoint '-'

/-- A list of names that `_safe_names` accepts. -/
def safeNames (value : Value) : Option (List Text) := do
  let names ← (← value.asList?).mapM Value.asString?
  guard (names.all isSafeId)
  return names

/-- A number that `_positive_finite_decimal` accepts; `parse` is `Decimal` of the
literal of a float. -/
def positiveFiniteDecimal (parse : FloatRepr → Decimal) : Value → Option Decimal
  | .int i => if 0 < i then some (.finite i 0) else none
  | .float (.finite shortest) => if (parse shortest).positiveFinite then some (parse shortest) else none
  | _ => none

def asBool? : Value → Option Bool
  | .bool b => some b
  | _ => none

/-- The record of one row. -/
def adaptRow (parse : FloatRepr → Decimal) (spec : V2EvidenceSpec) (arm : Text) (ordinal : Nat) (row : Object) :
    Option V2OutcomeRecord := do
  let passed ← (row.get? "passed").bind asBool?
  let telemetry ← (row.get? "telemetry").bind Value.asObject?
  let metadata ← (row.get? "metadata").bind Value.asObject?
  let wallS ← (telemetry.get? "wall_s").bind (positiveFiniteDecimal parse)
  let toolCalls ← (telemetry.get? "tool_calls").bind safeNames
  let forbiddenCalls ← (metadata.get? "forbidden_calls").bind safeNames
  return {
    caseOrdinal := ordinal
    cacheLane := spec.cacheLane
    replicate := spec.replicate
    arm := arm
    passed := passed
    wallS := wallS
    deadlineS := spec.deadlineS
    criticalIntegrityViolation := decide (ordinal ∈ spec.criticalScenarioOrdinals) && toolCalls.any (· ∈ forbiddenCalls)
  }

/-- The rows that `_authenticated_rows` lets through, whose outcome is bound
elsewhere. -/
def authenticatedRows (py : Python) (spec : V2EvidenceSpec) (rows : List Object) : Option (List Object) := do
  let caseIds ← rows.mapM fun row => (row.get? "case_id").bind Value.asString?
  guard (caseIds.all isSafeId ∧ caseIds.Nodup ∧ caseIds.length = caseCount)
  guard (py.sha256 (dumps false (.arr (caseIds.map .str))) = spec.scenarioOrderSha256)
  return rows

/-- The records of one arm. -/
def adaptArm (py : Python) (parse : FloatRepr → Decimal) (spec : V2EvidenceSpec) (arm : Text) (rows : List Object) :
    Option (List V2OutcomeRecord) := do
  let rows ← authenticatedRows py spec rows
  (rows.zipIdx 1).mapM fun (row, ordinal) => adaptRow parse spec arm ordinal row

/-- `adapt_v2_scored_evidence` -/
def adaptV2ScoredEvidence (py : Python) (parse : FloatRepr → Decimal) (spec : V2EvidenceSpec) (direct proxy : List Object) :
    Option (List V2OutcomeRecord) := do
  guard (validSpec spec)
  return (← adaptArm py parse spec "direct" direct) ++ (← adaptArm py parse spec "proxy" proxy)

end HarnessProxy.Evidence

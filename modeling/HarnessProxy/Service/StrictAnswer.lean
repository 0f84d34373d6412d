import HarnessProxy.Service.Projected

namespace HarnessProxy.Service

open HarnessProxy.Json HarnessProxy.Core HarnessProxy.Data HarnessProxy.Projection HarnessProxy.Transcript

/-! # Strict answers

The terminal gate reads a text that it derives from the content of the
response.  What is released is the content, so a released answer is strict JSON
exactly when the content was a text with nothing that only Python reads.
-/

/-- The content is a strict JSON text for the declared contract. -/
structure StrictAnswer (py : Python) (contract : SchemaContract) (keys : List Text) (receipts : List Receipt)
    (content : Option Value) : Prop where
  conforms : ∃ text tree value, content = some (.str text) ∧ StrictText text tree ∧
    tree.value py = .obj value ∧ Conforms keys contract.types value ∧
    (contract.enforceFailedExecutionClaim = true → Object.get? value "failed_executions" =
      some (.int (receipts.countP fun receipt => receipt.status = .failure)))

/-- The content of a response is a string that is strict JSON wherever it is
JSON for Python. -/
structure StrictSource (py : Python) (message : Object) : Prop where
  string : ∃ text, message.get? "content" = some (.str text)
  strict : ∀ text changed tree, normalizeBareJson py (validatedContent message) = .ok (text, changed) →
    parseDocument (Text.strip text) = .ok tree → JsonFramed text ∧ tree.Strict

section
variable {py : Python} {contract : SchemaContract} {keys : List Text} {harness : AgentHarness} {text : Text}

/-- The harness enforces the contract. -/
structure Enforces (harness : AgentHarness) (contract : SchemaContract) : Prop where
  keys : harness.requiredJsonKeys = contract.keys
  types : harness.requiredJsonTypes = contract.types
  claim : harness.enforceFailedExecutionClaim = contract.enforceFailedExecutionClaim

/-- The rest of the contract is what the terminal gate checks. -/
theorem strictAnswer_of_accepted_iff {responseFormat : Option Value}
    (derived : responseSchemaContract responseFormat = .ok contract) (declared : contract.keys = some keys)
    (enforces : Enforces harness contract)
    (accepted : harness.terminalIssue py text = .ok none) :
    StrictAnswer py contract keys harness.receipts (some (.str text)) ↔
      ∀ tree, parseDocument (Text.strip text) = .ok tree → JsonFramed text ∧ tree.Strict := by
  have aligned := responseSchemaContract_types derived declared
  obtain ⟨tree, value, parsed, isObject, conforms, noClaim⟩ :=
    terminalIssue_conforms (enforces.keys.trans declared) (enforces.types ▸ aligned) accepted
  rw [enforces.types] at conforms
  constructor
  · rintro ⟨other, read, _, same, strict, _⟩ tree parsed
    cases same
    obtain ⟨readParsed, framed, isStrict⟩ := strictText_iff.mp strict
    rw [readParsed] at parsed
    cases parsed
    exact ⟨framed, isStrict⟩
  · intro strict
    refine ⟨text, tree, value, rfl, strictText_iff.mpr ⟨parsed, strict tree parsed⟩, isObject, conforms,
      fun enforced => ?_⟩
    have typed := responseSchemaContract_enforced derived enforced
    obtain ⟨before, after, split, _⟩ := List.lookup_eq_some_iff.mp typed
    obtain ⟨claimed, found, _⟩ := conforms.types ("failed_executions", "integer") (by rw [split]; simp)
    rw [found, claimIssue_eq_none (enforces.claim.trans enforced) found noClaim]
    rfl

theorem rebuild_enforces {prepared : Prepared} {rebuilt : Reconstruction} (read : rebuild py prepared = .ok rebuilt)
    (same : ledger harness = ledger rebuilt.harness) : Enforces harness prepared.contract := by
  have configuration := reconstruct_configured (rebuild_eq_ok.mp read)
  constructor
  · exact (eq_of_ledger AgentHarness.requiredJsonKeys (fun _ => rfl) same).trans
      (congrArg AgentHarness.requiredJsonKeys configuration)
  · exact (eq_of_ledger AgentHarness.requiredJsonTypes (fun _ => rfl) same).trans
      (congrArg AgentHarness.requiredJsonTypes configuration)
  · exact (eq_of_ledger AgentHarness.enforceFailedExecutionClaim (fun _ => rfl) same).trans
      (congrArg AgentHarness.enforceFailedExecutionClaim configuration)

theorem releasedContent_withoutMarker (response : Object) :
    releasedContent (withoutReservedProjectionMarker response) = releasedContent response := by
  rw [releasedContent, responseMessage?_withoutMarker, releasedContent]

/-- The content that is released for a normalized text. -/
theorem releasedContent_normalized {response choice message : Object} {changed : Bool}
    (choices : responseMessage? response = some (choice, message)) :
    releasedContent (withoutReservedProjectionMarker
      (if changed then withContent response choice message text else response)) =
      if changed then some (.str text) else message.get? "content" := by
  rw [releasedContent_withoutMarker]
  cases changed with
  | false => simp [releasedContent, choices]
  | true => simp [releasedContent, responseMessage?_withContent]

theorem normalizeBareJson_empty : normalizeBareJson py [] = .ok ([], false) := rfl

/-- What is released of a string is the text that was checked, and nothing else
is released as a string. -/
theorem released_text {message : Object} {changed : Bool}
    (normalized : normalizeBareJson py (validatedContent message) = .ok (text, changed)) :
    (if changed then some (.str text) else message.get? "content") = some (.str text) ∧
        (∃ source, message.get? "content" = some (.str source)) ∨
      (∀ source, (if changed then some (.str text) else message.get? "content") ≠ some (.str source)) ∧
        ∀ source, message.get? "content" ≠ some (.str source) := by
  unfold validatedContent at normalized
  split at normalized
  · next source found =>
    refine Or.inl ⟨?_, source, found⟩
    cases changed with
    | false => rw [if_neg Bool.false_ne_true, found, normalizeBareJson_unchanged normalized]
    | true => rfl
  · next found =>
    cases normalizeBareJson_empty.symm.trans normalized
    exact Or.inr (by simp [found])
  · next found =>
    cases normalizeBareJson_empty.symm.trans normalized
    exact Or.inr (by simp [found])
  · next content notString _ found =>
    have plain : content.asString? = none := by
      cases content with
      | str source => exact absurd rfl (notString source)
      | _ => rfl
    cases (normalizeBareJson_dumps plain).symm.trans normalized
    have other (source : Text) : message.get? "content" ≠ some (.str source) := by
      rw [found]
      intro same
      cases same
      exact notString source rfl
    exact Or.inr ⟨other, other⟩

end

section
variable {py : Python} {upstream : Upstream} {prepared : Prepared} {rebuilt : Reconstruction} {run : Run}
  {body : Object} {keys : List Text}

/-- The two ways to a terminal body, each decided by the content of the last
response. -/
theorem TerminalSource.strictAnswer_iff {settings : Settings} {options : Options} {payload : Object}
    (accepted : Accepted py settings options payload prepared) (read : rebuild py prepared = .ok rebuilt)
    (declared : prepared.contract.keys = some keys)
    (source : TerminalSource py upstream prepared rebuilt run body) :
    StrictAnswer py prepared.contract keys rebuilt.harness.receipts (releasedContent body) ↔
      ∀ attempt response choice message, LastReply upstream run attempt response →
        responseMessage? response.fields = some (choice, message) → StrictSource py message := by
  cases source with
  | projected sent projection shape =>
      obtain ⟨name, result, tests, digits, answer⟩ := projectedAnswer_of_projected accepted read projection
      have strict := strictText_iff.mp (strictText_summary (parseInt_length answer.testsWritten.value))
      constructor
      · intro _ attempt response choice message last
        have sentLast := last.sent
        rw [sent] at sentLast
        cases sentLast
      · intro _
        rw [shape, releasedContent_projectedResponse]
        refine (strictAnswer_of_accepted_iff accepted.contract declared (rebuild_enforces read rfl)
          answer.accepted).mpr fun tree parsed => ?_
        rw [answer.written] at parsed ⊢
        rw [strict.1] at parsed
        cases parsed
        exact strict.2
  | replied last choices noCalls normalized same accept shape =>
      have receipts := eq_of_ledger AgentHarness.receipts (fun _ => rfl) same
      rw [shape, releasedContent_normalized choices, ← receipts]
      rcases released_text normalized with ⟨isText, string⟩ | ⟨notText, notString⟩
      · rw [isText, strictAnswer_of_accepted_iff accepted.contract declared (rebuild_enforces read same) accept]
        constructor
        · intro strict attempt response choice message other found
          obtain ⟨rfl, rfl⟩ := last.unique other
          cases choices.symm.trans found
          refine ⟨string, fun text changed tree again parsed => ?_⟩
          cases normalized.symm.trans again
          exact strict tree parsed
        · intro source tree parsed
          exact (source _ _ _ _ last choices).strict _ _ _ normalized parsed
      · constructor
        · rintro ⟨text, _, _, isText, _⟩
          exact absurd isText (notText text)
        · intro source
          obtain ⟨text, isText⟩ := (source _ _ _ _ last choices).string
          exact absurd isText (notString text)

end

/-- The answer of a request with a declared contract is strict JSON for that
contract exactly when the content of the last response is a string and strict
JSON as far as it is JSON for Python.  A projected answer always is. -/
theorem complete_strictAnswer_iff (py : Python) (settings : Settings) (upstream : Upstream)
    (options : Options) (payload : JsonObject) (result : ChatResult) (enabled : options.harnessEnabled = true)
    (completes : (complete py settings upstream options payload).outcome = .ok result)
    (terminal : isTerminal result.body = true) :
    ∃ prepared rebuilt,
      prepareRequest py settings options upstream.combinedSupported payload.fields = .ok prepared ∧
      reconstruct py (.arr prepared.messages) prepared.availableTools prepared.roles prepared.contract
        prepared.requireReceipt = .ok rebuilt ∧
      ∀ keys, prepared.contract.keys = some keys →
        (StrictAnswer py prepared.contract keys rebuilt.harness.receipts (releasedContent result.body) ↔
          ∀ attempt response choice message,
            LastReply upstream (complete py settings upstream options payload) attempt response →
            responseMessage? response.fields = some (choice, message) → StrictSource py message) := by
  obtain ⟨prepared, rebuilt, ran, read, completed⟩ := complete_completed enabled completes
  exact ⟨prepared, rebuilt, ran, rebuild_eq_ok.mp read, fun keys declared =>
    (completed.terminalSource terminal).strictAnswer_iff (prepareRequest_accepted ran) read declared⟩

/-- The tests passed, and the request asks for an answer. -/
def answerRequest : JsonObject where
  fields := verifiedRequest.fields ++
    [(Text.literal "response_format", strictFormat [("answer", "string")])]
  valid := by decide

def textUpstream : Upstream where
  reply _ := contentReply (.str "\x7b\"answer\":\"done\"\x7d")

theorem complete_strictAnswer_iff_text : ∃ result,
    (complete .reference defaultSettings textUpstream {} answerRequest).outcome = .ok result ∧
    ∃ prepared rebuilt,
      prepareRequest .reference defaultSettings {} false answerRequest.fields = .ok prepared ∧
      reconstruct .reference (.arr prepared.messages) prepared.availableTools prepared.roles
        prepared.contract prepared.requireReceipt = .ok rebuilt ∧
      ∀ keys, prepared.contract.keys = some keys →
        (StrictAnswer .reference prepared.contract keys rebuilt.harness.receipts (releasedContent result.body) ↔
          ∀ attempt response choice message,
            LastReply textUpstream (complete .reference defaultSettings textUpstream {} answerRequest)
              attempt response →
            responseMessage? response.fields = some (choice, message) → StrictSource .reference message) := by
  have returns : (complete .reference defaultSettings textUpstream {} answerRequest).outcome.toOption.map
      (fun result => isTerminal result.body) = some true := by decide +kernel
  cases completes : (complete .reference defaultSettings textUpstream {} answerRequest).outcome with
  | error raised =>
      rw [completes] at returns
      cases returns
  | ok result =>
      rw [completes] at returns
      simp only [Except.toOption, Option.map_some, Option.some.injEq] at returns
      exact ⟨result, rfl, complete_strictAnswer_iff _ _ _ _ _ _ rfl completes returns⟩

/-- The upstream answers with the object itself. -/
def objectUpstream : Upstream where
  reply _ := contentReply (.obj [("answer", .str "done")])

/-- An answer that is an object passes the gate as the text that it would be
written as, and is released as the object. -/
theorem complete_releases_object : ∃ result prepared rebuilt,
    (complete .reference defaultSettings objectUpstream {} answerRequest).outcome = .ok result ∧
    isTerminal result.body = true ∧
    releasedContent result.body = some (.obj [("answer", .str "done")]) ∧
    prepareRequest .reference defaultSettings {} false answerRequest.fields = .ok prepared ∧
    rebuild .reference prepared = .ok rebuilt ∧
    prepared.contract.keys = some [Text.literal "answer"] ∧
    ¬ StrictAnswer .reference prepared.contract ["answer"] rebuilt.harness.receipts
      (releasedContent result.body) := by
  have returns : (complete .reference defaultSettings objectUpstream {} answerRequest).outcome.toOption.map
      (fun result => (isTerminal result.body, releasedContent result.body)) =
        some (true, some (.obj [("answer", .str "done")])) := by decide +kernel
  have prepares : (prepareRequest .reference defaultSettings {} false answerRequest.fields).toOption.map
      (fun prepared => (prepared.contract.keys, (rebuild .reference prepared).isOk)) =
        some (some [Text.literal "answer"], true) := by decide
  cases completes : (complete .reference defaultSettings objectUpstream {} answerRequest).outcome with
  | error raised =>
      rw [completes] at returns
      cases returns
  | ok result =>
      rw [completes] at returns
      simp only [Except.toOption, Option.map_some, Option.some.injEq, Prod.mk.injEq] at returns
      obtain ⟨terminal, content⟩ := returns
      cases ran : prepareRequest .reference defaultSettings {} false answerRequest.fields with
      | error raised =>
          rw [ran] at prepares
          cases prepares
      | ok prepared =>
          rw [ran] at prepares
          simp only [Except.toOption, Option.map_some, Option.some.injEq, Prod.mk.injEq] at prepares
          obtain ⟨declared, rebuilds⟩ := prepares
          cases read : rebuild .reference prepared with
          | error raised =>
              rw [read] at rebuilds
              cases rebuilds
          | ok rebuilt =>
              refine ⟨result, prepared, rebuilt, rfl, terminal, content, rfl, read, declared, ?_⟩
              rintro ⟨text, _, _, isText, _⟩
              rw [content] at isText
              cases isText

end HarnessProxy.Service

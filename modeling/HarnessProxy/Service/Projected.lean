import HarnessProxy.Core.Contract
import HarnessProxy.Service.LatestPair
import HarnessProxy.Service.TerminalRelease

namespace HarnessProxy.Service

open HarnessProxy.Json HarnessProxy.Core HarnessProxy.Data HarnessProxy.Projection HarnessProxy.Transcript

/-! # Local projections

An answer that is released without an upstream call is one that the terminal
gate accepts.
-/

/-- An assistant message of the transcript makes this call. -/
def MakesCall (messages : List Value) (callId name : Text) : Prop :=
  ∃ fields calls call, .obj fields ∈ messages ∧ hasRole fields "assistant" = true ∧
    toolCalls fields = .arr calls ∧ .obj call ∈ calls ∧ callHead? call = some (callId, name)

section
variable {pending next : AList (fun _ : Text => Text)} {callId name : Text}

theorem pairCalls_lookup {calls : List Value} (paired : pairCalls pending calls = some next)
    (found : next.lookup callId = some name) : pending.lookup callId = some name ∨
      ∃ call, .obj call ∈ calls ∧ callHead? call = some (callId, name) := by
  induction calls generalizing pending with
  | nil =>
      cases paired
      exact Or.inl found
  | cons call rest ih =>
      simp only [pairCalls] at paired
      split at paired
      · next fields =>
        split at paired
        · next newId newName head =>
          split at paired
          · cases paired
          · rcases ih paired with earlier | ⟨other, member, otherHead⟩
            · by_cases same : callId = newId
              · subst same
                rw [AList.lookup_insert] at earlier
                cases earlier
                exact Or.inr ⟨fields, by simp, head⟩
              · rw [AList.lookup_insert_ne same] at earlier
                exact Or.inl earlier
            · exact Or.inr ⟨other, by simp [member], otherHead⟩
        · cases paired
      · cases paired

theorem pairMessage_lookup {message : Value} (paired : pairMessage pending message = some next)
    (found : next.lookup callId = some name) :
    pending.lookup callId = some name ∨ MakesCall [message] callId name := by
  simp only [pairMessage] at paired
  split at paired
  · next fields =>
    split at paired
    · next assistant =>
      split at paired
      · next calls shape =>
        refine (pairCalls_lookup paired found).imp_right ?_
        rintro ⟨call, member, head⟩
        exact ⟨fields, calls, call, by simp, assistant, shape, member, head⟩
      · cases paired
    · split at paired
      · split at paired
        · next resultId _ =>
          split at paired
          · cases paired
            by_cases same : callId = resultId
            · subst same
              rw [AList.lookup_erase] at found
              cases found
            · rw [AList.lookup_erase_ne same] at found
              exact Or.inl found
          · cases paired
        · cases paired
      · cases paired
        exact Or.inl found
  · cases paired

/-- What is pending was called, by induction on the messages. -/
theorem pairMessages_lookup {messages : List Value} (paired : pairMessages pending messages = some next)
    (found : next.lookup callId = some name) :
    pending.lookup callId = some name ∨ MakesCall messages callId name := by
  induction messages generalizing pending with
  | nil =>
      cases paired
      exact Or.inl found
  | cons message rest ih =>
      simp only [pairMessages, Option.bind_eq_some_iff] at paired
      obtain ⟨middle, first, others⟩ := paired
      rcases ih others with earlier | ⟨fields, calls, call, member, made⟩
      · refine (pairMessage_lookup first earlier).imp_right ?_
        rintro ⟨fields, calls, call, member, made⟩
        exact ⟨fields, calls, call, by simpa using Or.inl (List.mem_singleton.mp member), made⟩
      · exact Or.inr ⟨fields, calls, call, by simp [member], made⟩

end

/-- The last message is the result of a call that the transcript makes. -/
structure EndsWithResult (messages : List Value) (name result : Text) : Prop where
  ends : ∃ earlier final callId, messages = earlier ++ [.obj final] ∧ hasRole final "tool" = true ∧
    final.get? "content" = some (.str result) ∧ final.get? "tool_call_id" = some (.str callId) ∧
    MakesCall earlier callId name

theorem latestExactPairedToolResult_ends {messages : List Value} {name result : Text}
    (latest : latestExactPairedToolResult messages = some (name, result)) :
    EndsWithResult messages name result := by
  obtain ⟨earlier, final, callId, pending, ends, id, paired, waiting⟩ := latestExact_eq_some.mp latest
  refine ⟨earlier, final, callId, ends.split, ends.tool, ends.content, id, ?_⟩
  rcases pairMessages_lookup paired waiting with none | made
  · simp at none
  · exact made

/-- What a projected answer rests on and says. -/
structure ProjectedAnswer (py : Python) (prepared : Prepared) (rebuilt : Reconstruction)
    (content name result : Text) (tests : Nat) (digits : Text) : Prop where
  notDegraded : rebuilt.degraded = false
  lastMessage : EndsWithResult prepared.messages name result
  verification : name ∈ prepared.roles.verification
  accepted : rebuilt.harness.terminalIssue py content = .ok none
  declared : prepared.contract.keys = some (summarySchema.map Prod.fst) ∧
    prepared.contract.types = summarySchema
  written : content = dumps false (.obj (summaryValue tests))
  parsed : loads py content = .ok (.obj (summaryValue tests))
  conforms : Conforms (summarySchema.map Prod.fst) prepared.contract.types (summaryValue tests)
  testsWritten : SummaryOf py result tests digits

/-- The body of a local projection. -/
theorem releasedContent_projectedResponse (py : Python) (model content : Text) :
    releasedContent (projectedResponse py model content) = some (.str content) := by
  have keys : (Text.literal "id" ≠ Text.literal "choices" ∧ Text.literal "object" ≠ Text.literal "choices" ∧
      Text.literal "created" ≠ Text.literal "choices" ∧ Text.literal "model" ≠ Text.literal "choices") ∧
      Text.literal "index" ≠ Text.literal "message" ∧ Text.literal "role" ≠ Text.literal "content" := by
    decide
  simp [releasedContent, responseMessage?, projectedResponse, Object.get?_cons, keys]

theorem projectedAnswer_of_projected {py : Python} {settings : Settings} {options : Options}
    {payload : Object} {prepared : Prepared} {rebuilt : Reconstruction} {content : Text}
    (accepted : Accepted py settings options payload prepared) (read : rebuild py prepared = .ok rebuilt)
    (projected : projectLatestIfCurrent py prepared.messages rebuilt = .ok (some content)) :
    ∃ name result tests digits, ProjectedAnswer py prepared rebuilt content name result tests digits := by
  obtain ⟨name, result, blocked, decision, latest, _, decided, released⟩ :=
    projectLatestIfCurrent_eq_some projected
  obtain ⟨gates, schema, verification, digits, tests, summary, rfl⟩ :=
    decideLocalProjection_content decided released
  have reads := rebuild_eq_ok.mp read
  have configuration := reconstruct_configured reads
  have keys : rebuilt.harness.requiredJsonKeys = prepared.contract.keys :=
    congrArg AgentHarness.requiredJsonKeys configuration
  have types : rebuilt.harness.requiredJsonTypes = prepared.contract.types :=
    congrArg AgentHarness.requiredJsonTypes configuration
  have aligned : TypesOfKeys rebuilt.harness := by
    intro names found
    rw [types]
    exact responseSchemaContract_types accepted.contract (keys ▸ found)
  obtain ⟨declaredKeys, declaredTypes⟩ := declaredSchema_summary aligned schema
  have passes := terminalIssue_of_projected aligned gates schema summary
  have parsed : loads py _ = _ := loads_summary (parseInt_length summary.value)
  refine ⟨name, result, tests, digits, (ledgerIssue_of_projected gates).2.1,
    latestExactPairedToolResult_ends latest, ?_, passes,
    ⟨keys ▸ declaredKeys, types ▸ declaredTypes⟩, rfl, parsed, ?_, summary⟩
  · rwa [(reconstruct_meaning reads).roles_eq] at verification
  · rw [← types, declaredTypes]
    exact summary_conforms tests

/-- A local projection is never something the terminal gate would refuse: a
request that is answered without an upstream call ends with the passing result
of a verification, and the answer is the summary of that result. -/
theorem complete_projected (py : Python) (settings : Settings) (upstream : Upstream) (options : Options)
    (payload : JsonObject) (result : ChatResult) (enabled : options.harnessEnabled = true)
    (completes : (complete py settings upstream options payload).outcome = .ok result)
    (noCall : (complete py settings upstream options payload).sent = []) :
    ∃ prepared rebuilt content name text tests digits,
      prepareRequest py settings options upstream.combinedSupported payload.fields = .ok prepared ∧
      reconstruct py (.arr prepared.messages) prepared.availableTools prepared.roles prepared.contract
        prepared.requireReceipt = .ok rebuilt ∧
      releasedContent result.body = some (.str content) ∧
      ProjectedAnswer py prepared rebuilt content name text tests digits := by
  obtain ⟨prepared, rebuilt, ran, read, completed⟩ := complete_completed enabled completes
  cases completed with
  | projected _ projection shape =>
      obtain ⟨name, text, tests, digits, answer⟩ :=
        projectedAnswer_of_projected (prepareRequest_accepted ran) read projection
      refine ⟨prepared, rebuilt, _, name, text, tests, digits, ran, rebuild_eq_ok.mp read, ?_, answer⟩
      rw [shape]
      exact releasedContent_projectedResponse _ _ _
  | replied _ _ last =>
      have sent := last.sent
      rw [noCall] at sent
      cases sent

/-- A strict response format with the properties in the order given. -/
def strictFormat (properties : List (Text × Text)) : Value :=
  .obj [("type", .str "json_schema"), ("json_schema", .obj [("name", .str "summary"), ("strict", .bool true),
    ("schema", .obj [("type", .str "object"),
      ("properties", .obj (properties.map fun entry => (entry.1, .obj [("type", .str entry.2)]))),
      ("required", .arr (properties.map fun entry => .str entry.1)),
      ("additionalProperties", .bool false)])])]

/-- The tests were run, and the request asks for their summary. -/
def summaryRequest : JsonObject where
  fields := verifiedRequest.fields ++ [(Text.literal "response_format", strictFormat summarySchema)]
  valid := by decide

theorem complete_projected_summary : ∃ result,
    (complete .reference defaultSettings doneUpstream {} summaryRequest).outcome = .ok result ∧
    ∃ prepared rebuilt content name text tests digits,
      prepareRequest .reference defaultSettings {} false summaryRequest.fields = .ok prepared ∧
      reconstruct .reference (.arr prepared.messages) prepared.availableTools prepared.roles
        prepared.contract prepared.requireReceipt = .ok rebuilt ∧
      releasedContent result.body = some (.str content) ∧
      ProjectedAnswer .reference prepared rebuilt content name text tests digits := by
  have returns : (complete .reference defaultSettings doneUpstream {} summaryRequest).sent.length = 0 ∧
      (complete .reference defaultSettings doneUpstream {} summaryRequest).outcome.isOk = true := by
    decide
  cases completes : (complete .reference defaultSettings doneUpstream {} summaryRequest).outcome with
  | error raised =>
      rw [completes] at returns
      cases returns.2
  | ok result =>
      exact ⟨result, rfl, complete_projected _ _ _ _ _ _ rfl completes
        (List.eq_nil_of_length_eq_zero returns.1)⟩

end HarnessProxy.Service

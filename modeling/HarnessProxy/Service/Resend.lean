import HarnessProxy.Service.Conversation
import HarnessProxy.Service.Projected
import HarnessProxy.Service.Resendable

namespace HarnessProxy.Service

open HarnessProxy.Json HarnessProxy.Core HarnessProxy.Data HarnessProxy.Projection HarnessProxy.Transcript

/-! # Sending back what was released

A client echoes the released message with a result for each call.  The release
path and the intake path check the message independently.
-/

/-- The message is accepted, and the transcript that it extends stays clean and
gains one receipt for each call. -/
structure SentBack (py : Python) (messages : List Value) (availableTools : List Text) (roles : ToolRoles)
    (contract : SchemaContract) (requireReceipt : Bool) (base : Reconstruction) (message : Object)
    (calls results : List Value) : Prop where
  accepted : validateMessage (.obj message) = .ok ()
  recorded : ∃ extended added, reconstruct py (.arr (messages ++ .obj message :: results)) availableTools roles
      contract requireReceipt = .ok extended ∧
    extended.degraded = false ∧ extended.harness.receipts = base.harness.receipts ++ added ∧
    List.Forall₂ (ReceiptOfCall py) calls added

section
variable {py : Python} {messages calls results : List Value} {availableTools : List Text} {roles : ToolRoles}
  {contract : SchemaContract} {requireReceipt : Bool} {base : Reconstruction} {message : Object}

/-- A turn after a clean transcript, with the goal and the ledger of the whole
transcript in between. -/
theorem sentBack_iff
    (reads : reconstruct py (.arr messages) availableTools roles contract requireReceipt = .ok base)
    (clean : base.degraded = false) (batch : toolCalls message = .arr calls)
    (signed : ∀ call ∈ calls, SignedCall py call) (executed : List.Forall₂ ResultOf calls results) :
    SentBack py messages availableTools roles contract requireReceipt base message calls results ↔
      Resendable message ∧ ∀ result ∈ results, Classified py (resultText result) := by
  obtain ⟨before, read, rfl⟩ := reconstruct_eq_ok.mp reads
  let start := freshHarness (messages ++ .obj message :: results) availableTools roles contract requireReceipt
  have fresh : configured start = start := rfl
  have again : ReadState.readMessages py { harness := start } messages = .ok (before.reconfigure start) :=
    readMessages_congr (by rfl) fresh (by rfl) read
  have meaning : PolicyMeaning roles (before.reconfigure start).harness := readMessages_meaning rfl rfl again
  rw [← resendable_iff meaning clean batch signed executed]
  constructor
  · rintro ⟨accepted, extended, added, ran, quiet, receipts, left⟩
    obtain ⟨final, whole, rfl⟩ := reconstruct_eq_ok.mp ran
    obtain ⟨middle, first, turn⟩ := readMessages_append.mp whole
    cases again.symm.trans first
    exact ⟨accepted, final, turn, quiet, added, receipts, left⟩
  · rintro ⟨accepted, final, turn, quiet, added, receipts, left⟩
    exact ⟨accepted, final.finish, added,
      reconstruct_eq_ok.mpr ⟨final, readMessages_append.mpr ⟨_, again, turn⟩, rfl⟩, quiet, receipts, left⟩

end

/-! ## The message of the upstream -/

section
variable {source other : Object} {before text : Text}

/-- Only the content of the message may differ, from one text to another that
is not blank. -/
theorem Resendable.congr (resendable : Resendable source)
    (same : ∀ key : Text, key ≠ "content" → other.get? key = source.get? key) (written : other.get? "content" = some (.str text))
    (filled : Text.isBlank text = false) : Resendable other := by
  have keys : Text.literal "role" ≠ Text.literal "content" ∧ Text.literal "name" ≠ Text.literal "content" ∧
      Text.literal "tool_calls" ≠ Text.literal "content" := by decide
  have role := same "role" keys.1
  have name := same "name" keys.2.1
  have batch := same "tool_calls" keys.2.2
  cases resendable with
  | assistant shape complete nodup =>
      refine .assistant ⟨role.trans shape.role, fun content found => ?_, fun value found => ?_, ?_, fun _ => ?_⟩
        complete nodup
      · cases written.symm.trans found
        exact Or.inr .text
      · exact shape.named value (name.symm.trans found)
      · cases shape.listed with
        | absent missing => exact .absent (batch.trans missing)
        | present found => exact .present (batch.trans found)
      · exact ⟨_, written, by simp [hasUsableAssistantContent, filled]⟩
  | plain instructs shape =>
      exact .plain instructs ⟨role.trans shape.role, ⟨_, written, .text⟩,
        fun value found => shape.named value (name.symm.trans found), batch.trans shape.noCalls⟩

theorem resendable_assign_iff (original : source.get? "content" = some (.str before))
    (filledBefore : Text.isBlank before = false) (filled : Text.isBlank text = false) :
    Resendable (source.assign "content" (.str text)) ↔ Resendable source := by
  have written : (source.assign "content" (.str text)).get? "content" = some (.str text) :=
    Object.get?_assign_self ..
  have same (key : Text) (different : key ≠ ("content" : Text)) :
      (source.assign "content" (.str text)).get? key = source.get? key :=
    Object.get?_assign_ne _ _ _ different
  exact ⟨fun resendable => resendable.congr (fun key different => (same key different).symm) original
      filledBefore,
    fun resendable => resendable.congr same written filled⟩

end

/-- Where a released message comes from: it was projected, or it can be sent
back whenever the message of the last response can. -/
inductive MessageSource (upstream : Upstream) (run : Run) (message : Object) : Prop
  | projected (sent : run.sent = []) (resendable : Resendable message)
  | replied {attempt : Attempt} {response : JsonObject} {choice source : Object}
      (last : LastReply upstream run attempt response)
      (found : responseMessage? response.fields = some (choice, source))
      (same : Resendable message ↔ Resendable source)

section
variable {py : Python} {settings : Settings} {upstream : Upstream} {prepared : Prepared}
  {rebuilt : Reconstruction} {run : Run} {body choice message : Object}

/-- A content that is rewritten was a text. -/
theorem rewritten_text {source : Object} {text : Text}
    (normalized : normalizeBareJson py (validatedContent source) = .ok (text, true)) :
    ∃ before, source.get? "content" = some (.str before) ∧ Text.isBlank before = false ∧
      Text.isBlank text = false := by
  obtain ⟨filledBefore, filled⟩ := normalizeBareJson_changed normalized
  unfold validatedContent at filledBefore normalized
  split at filledBefore
  · next before found => exact ⟨before, found, filledBefore, filled⟩
  · cases filledBefore
  · cases filledBefore
  · next value notNull notText found =>
    have other : value.asString? = none := by
      cases value with
      | str text => exact absurd rfl (notNull text)
      | _ => rfl
    simp only [found] at normalized
    rw [normalizeBareJson_dumps other] at normalized
    cases normalized

theorem projected_resendable {model content : Text} (filled : Text.isBlank content = false)
    (released : responseMessage? (projectedResponse py model content) = some (choice, message)) :
    Resendable message := by
  have keys : (Text.literal "role" ≠ Text.literal "content" ∧ Text.literal "role" ≠ Text.literal "name" ∧
      Text.literal "content" ≠ Text.literal "name") ∧ Text.literal "role" ≠ Text.literal "tool_calls" ∧
      Text.literal "content" ≠ Text.literal "tool_calls" := by decide
  cases released
  refine .assistant ⟨by simp [Object.get?_cons], fun content found => ?_, fun name found => ?_, .absent ?_, fun _ => ?_⟩
    .nil .nil
  · simp [Object.get?_cons, keys] at found
    subst found
    exact Or.inr .text
  · simp [Object.get?_cons, keys] at found
  · simp [Object.get?_cons, keys]
  · exact ⟨.str content, by simp [Object.get?_cons, keys], by simp [hasUsableAssistantContent, filled]⟩

theorem dumps_filled {sortKeys : Bool} {value : Value} (notString : value.asString? = none) :
    Text.isBlank (dumps sortKeys value) = false := by
  obtain ⟨c, rest, shape, notSpace, _⟩ := dumps_head sortKeys notString
  obtain ⟨tail, stripped⟩ : ∃ tail, Text.strip (dumps sortKeys value) = c :: tail := shape ▸ Text.strip_cons notSpace
  simp [Text.isBlank, stripped]

theorem Completed.messageSource (completed : Completed py settings upstream prepared rebuilt run body)
    (released : responseMessage? body = some (choice, message)) : MessageSource upstream run message := by
  cases completed with
  | projected sent projection shape =>
      obtain ⟨_, _, _, _, _, _, decided, content⟩ := projectLatestIfCurrent_eq_some projection
      obtain ⟨_, _, _, _, _, _, rfl⟩ := decideLocalProjection_content decided content
      rw [shape] at released
      exact .projected sent (projected_resendable (dumps_filled rfl) released)
  | replied _ _ last released' =>
      cases released' with
      | calls choices =>
          rw [responseMessage?_withoutMarker, choices] at released
          cases released
          exact .replied last choices Iff.rfl
      | @content _ _ text changed choices _ normalized =>
          rw [responseMessage?_withoutMarker] at released
          cases changed with
          | false =>
              rw [if_neg Bool.false_ne_true, choices] at released
              cases released
              exact .replied last choices Iff.rfl
          | true =>
              rw [if_pos rfl, responseMessage?_withContent] at released
              cases released
              obtain ⟨before, original, filledBefore, filled⟩ := rewritten_text normalized
              exact .replied last choices (resendable_assign_iff original filledBefore filled)

end

/-- A released message can be sent back exactly when the message of the last
response can, and when the results of its calls can be classified. -/
theorem complete_sentBack_iff (py : Python) (settings : Settings) (upstream : Upstream) (options : Options)
    (payload : JsonObject) (result : ChatResult) (prepared : Prepared) (choice message : Object)
    (calls results : List Value) (availableTools : List Text) (contract : SchemaContract) (requireReceipt : Bool)
    (base : Reconstruction) (enabled : options.harnessEnabled = true)
    (completes : (complete py settings upstream options payload).outcome = .ok result)
    (ran : prepareRequest py settings options upstream.combinedSupported payload.fields = .ok prepared)
    (reads : reconstruct py (.arr prepared.messages) availableTools prepared.roles contract requireReceipt = .ok base)
    (clean : base.degraded = false) (released : responseMessage? result.body = some (choice, message))
    (batch : toolCalls message = .arr calls) (executed : List.Forall₂ ResultOf calls results) :
    SentBack py prepared.messages availableTools prepared.roles contract requireReceipt base message calls results ↔
      (∀ attempt response choice source,
        LastReply upstream (complete py settings upstream options payload) attempt response →
        responseMessage? response.fields = some (choice, source) → Resendable source) ∧
      ∀ result ∈ results, Classified py (resultText result) := by
  obtain ⟨_, rebuilt, again, read, completed⟩ := complete_completed enabled completes
  cases ran.symm.trans again
  have signed : ∀ call ∈ calls, SignedCall py call := fun call member => by
    obtain ⟨_, _, _, _, _, _, judged⟩ := completed.released_batch released batch (List.ne_nil_of_mem member)
    obtain ⟨name, arguments, signature, accepted⟩ := judgeCall_accepted (judged call member)
    exact ⟨name, arguments, signature, accepted.decoded, accepted.signed⟩
  rw [sentBack_iff reads clean batch signed executed]
  refine and_congr_left fun _ => ?_
  cases completed.messageSource released with
  | projected sent resendable =>
      refine iff_of_true resendable fun attempt response choice source last _ => ?_
      have request := last.sent
      rw [sent] at request
      cases request
  | replied last found same =>
      rw [same]
      constructor
      · intro resendable attempt response choice source other otherFound
        obtain ⟨_, rfl⟩ := last.unique other
        cases found.symm.trans otherFound
        exact resendable
      · exact fun every => every _ _ _ _ last found

theorem functionCall_complete {callId name arguments : Text} (nonempty : callId ≠ [])
    (filled : Text.isBlank name = false) : CompleteCall (functionCall callId name arguments) callId := by
  have keys : (Text.literal "id" ≠ Text.literal "type" ∧ Text.literal "id" ≠ Text.literal "function") ∧
      Text.literal "type" ≠ Text.literal "function" ∧ Text.literal "name" ≠ Text.literal "arguments" := by
    decide
  refine ⟨_, [("name", .str name), ("arguments", .str arguments)], .str name, arguments, rfl, ?_, nonempty, ?_, ?_, ?_,
    ⟨name, rfl, filled⟩, ?_⟩ <;> simp [Object.get?_cons, keys]

theorem readsFile_complete {callId path : Text} (nonempty : callId ≠ []) :
    CompleteCall (readsFile callId path) callId := functionCall_complete nonempty (by decide)

theorem batchMessage_resendable {calls : List Value} {callIds : List Text} (nonempty : calls ≠ [])
    (complete : List.Forall₂ CompleteCall calls callIds) (nodup : callIds.Nodup) :
    Resendable (batchMessage calls) := by
  have keys : (Text.literal "role" ≠ Text.literal "content" ∧ Text.literal "role" ≠ Text.literal "name" ∧
      Text.literal "role" ≠ Text.literal "tool_calls") ∧ Text.literal "content" ≠ Text.literal "name" ∧
      Text.literal "content" ≠ Text.literal "tool_calls" ∧ Text.literal "tool_calls" ≠ Text.literal "name" := by
    decide
  refine .assistant ⟨by simp [batchMessage, Object.get?_cons], fun content found => ?_, fun name found => ?_,
    .present (by simp [batchMessage, Object.get?_cons, keys]), fun empty => absurd empty nonempty⟩ complete nodup
  · simp [batchMessage, Object.get?_cons, keys] at found
    exact Or.inl found.symm
  · simp [batchMessage, Object.get?_cons, keys] at found

/-- A run on `readRequest` that releases a batch. -/
theorem readRequest_released (upstream : Upstream) (calls : List Value)
    (returns : (complete .reference defaultSettings upstream {} readRequest).outcome.toOption.bind
      (fun result => (responseMessage? result.body).map Prod.snd) = some (batchMessage calls)) :
    ∃ result prepared base choice,
      (complete .reference defaultSettings upstream {} readRequest).outcome = .ok result ∧
      prepareRequest .reference defaultSettings {} false readRequest.fields = .ok prepared ∧
      reconstruct .reference (.arr prepared.messages) ["read_file"] prepared.roles {} true = .ok base ∧
      base.degraded = false ∧ responseMessage? result.body = some (choice, batchMessage calls) := by
  have opens : (prepareRequest .reference defaultSettings {} false readRequest.fields).toOption.bind
      (fun prepared => (reconstruct .reference (.arr prepared.messages) ["read_file"] prepared.roles {}
        true).toOption.map Reconstruction.degraded) = some false := by decide
  cases completes : (complete .reference defaultSettings upstream {} readRequest).outcome with
  | error raised =>
      rw [completes] at returns
      cases returns
  | ok result =>
      cases ran : prepareRequest .reference defaultSettings {} false readRequest.fields with
      | error raised =>
          rw [ran] at opens
          cases opens
      | ok prepared =>
          cases reads : reconstruct .reference (.arr prepared.messages) ["read_file"] prepared.roles {} true with
          | error e =>
              simp only [ran, Except.toOption, Option.bind_some, reads] at opens
              cases opens
          | ok base =>
              rw [completes] at returns
              simp only [Except.toOption, Option.bind_some, Option.map_eq_some_iff] at returns
              simp only [ran, Except.toOption, Option.bind_some, reads, Option.map_some, Option.some.injEq] at opens
              obtain ⟨⟨choice, message⟩, released, rfl⟩ := returns
              exact ⟨result, prepared, base, choice, rfl, rfl, reads, opens, released⟩

theorem complete_sentBack_iff_different : ∃ result prepared base choice,
    (complete .reference defaultSettings (batchUpstream differentReads (by decide)) {}
      readRequest).outcome = .ok result ∧
    prepareRequest .reference defaultSettings {} false readRequest.fields = .ok prepared ∧
    reconstruct .reference (.arr prepared.messages) ["read_file"] prepared.roles {} true = .ok base ∧
    responseMessage? result.body = some (choice, batchMessage differentReads) ∧
    SentBack .reference prepared.messages ["read_file"] prepared.roles {} true base (batchMessage differentReads)
      differentReads bothExecuted := by
  obtain ⟨result, prepared, base, choice, completes, ran, reads, clean, released⟩ :=
    readRequest_released (batchUpstream differentReads (by decide +kernel)) differentReads (by decide +kernel)
  refine ⟨result, prepared, base, choice, completes, ran, reads, released,
    (complete_sentBack_iff _ _ _ _ _ _ _ _ _ _ _ _ _ _ _ rfl completes ran reads clean released
      (by decide) (.cons readsFile_executed (.cons readsFile_executed .nil))).mpr ⟨?_, ?_⟩⟩
  · intro attempt response choice source last found
    cases last.answer
    cases found
    exact batchMessage_resendable (by decide) (.cons (readsFile_complete (by decide))
      (.cons (readsFile_complete (by decide)) .nil)) (by decide)
  · have classified : ∀ result ∈ bothExecuted,
        (receiptStatus .reference (resultText result)).toOption = some .success := by decide
    intro result member
    refine ⟨.success, ?_⟩
    have success := classified result member
    cases status : receiptStatus .reference (resultText result) <;> simp_all [Except.toOption]

/-- The arguments of the call are an object. -/
def objectCall : Value :=
  .obj [("id", .str "x"), ("type", .str "function"),
    ("function", .obj [("name", .str "read_file"), ("arguments", .obj [("path", .str "a")])])]

/-- Arguments that are an object are decoded and released, and refused when the
message comes back. -/
theorem complete_releases_objectCall : ∃ result prepared base choice,
    (complete .reference defaultSettings (batchUpstream [objectCall] (by decide)) {}
      readRequest).outcome = .ok result ∧
    prepareRequest .reference defaultSettings {} false readRequest.fields = .ok prepared ∧
    reconstruct .reference (.arr prepared.messages) ["read_file"] prepared.roles {} true = .ok base ∧
    base.degraded = false ∧ responseMessage? result.body = some (choice, batchMessage [objectCall]) ∧
    toolCalls (batchMessage [objectCall]) = .arr [objectCall] ∧
    List.Forall₂ ResultOf [objectCall] [toolMessage "x" "text"] ∧
    ¬ SentBack .reference prepared.messages ["read_file"] prepared.roles {} true base (batchMessage [objectCall])
      [objectCall] [toolMessage "x" "text"] := by
  obtain ⟨result, prepared, base, choice, completes, ran, reads, clean, released⟩ :=
    readRequest_released (batchUpstream [objectCall] (by decide)) [objectCall] (by decide)
  refine ⟨result, prepared, base, choice, completes, ran, reads, clean, released, by decide,
    .cons ⟨_, rfl, by decide, by decide⟩ .nil, fun back => ?_⟩
  have refused : validateMessage (.obj (batchMessage [objectCall])) ≠ .ok () := by decide
  exact refused back.accepted

end HarnessProxy.Service

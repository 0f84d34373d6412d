import HarnessProxy.Core.Repetition
import HarnessProxy.Service.WithheldBatch

namespace HarnessProxy.Service

open HarnessProxy.Json HarnessProxy.Core HarnessProxy.Data HarnessProxy.Transcript

/-! # Conversations

The client sends back what was released, with a result for each call, and asks
again.  The ledger of such a conversation is rebuilt in every turn.
-/

/-- No message proposes calls. -/
def Unpaired (messages : List Value) : Prop :=
  ∀ fields, .obj fields ∈ messages → hasRole fields "assistant" = false

/-- The messages of a conversation in which every assistant message was released
by `complete`.  The tools stay the same, and `condition` holds of the calls and
the results of every turn. -/
inductive Conversation (py : Python) (settings : Settings) (options : Options) (tools : Option Value)
    (condition : List Value → List Value → Prop) : List Value → Prop
  | opened {messages : List Value} (unpaired : Unpaired messages) :
      Conversation py settings options tools condition messages
  | turn {messages calls results own : List Value} {payload : JsonObject} {upstream : Upstream}
      {result : ChatResult} {choice message : Object}
      (earlier : Conversation py settings options tools condition messages)
      (asks : payload.fields.get? "messages" = some (.arr messages))
      (offers : payload.fields.get? "tools" = tools)
      (completes : (complete py settings upstream options payload).outcome = .ok result)
      (released : responseMessage? result.body = some (choice, message))
      (batch : toolCalls message = .arr calls)
      (executed : List.Forall₂ ResultOf calls results)
      (meets : condition calls results)
      (unpaired : Unpaired own) :
      Conversation py settings options tools condition (messages ++ .obj message :: results ++ own)

/-- However the messages are read, no call waits and no receipt is repeated. -/
def KeepsLedger (py : Python) (roles : ToolRoles) (messages : List Value) : Prop :=
  ∀ start final, configured start = start → start.roles = roles →
    ReadState.readMessages py { harness := start } messages = .ok final →
    Settled final ∧ Unrepeated final.harness.receipts

section
variable {py : Python} {settings : Settings} {options : Options} {roles : ToolRoles}
  {messages calls results : List Value} {start harness : AgentHarness} {final : ReadState}

/-- The ledger that `complete` reads is the one of every other reading. -/
theorem rebuild_ledger {prepared : Prepared} {rebuilt : Reconstruction} (read : rebuild py prepared = .ok rebuilt)
    (fresh : configured start = start) (sameRoles : start.roles = prepared.roles)
    (reads : ReadState.readMessages py { harness := start } prepared.messages = .ok final) :
    final.harness.receipts = rebuilt.harness.receipts ∧ final.harness.epoch = rebuilt.harness.epoch := by
  obtain ⟨other, otherReads, rfl⟩ := reconstruct_eq_ok.mp (rebuild_eq_ok.mp read)
  have again := readMessages_congr rfl fresh sameRoles otherReads
  cases reads.symm.trans again
  exact ⟨rfl, rfl⟩

theorem accepted_signature {call : Value} {callId name : Text} {arguments : Object}
    (judged : judgeCall py settings.deniedTools harness call = .ok none)
    (readable : readableCall? py call = some (callId, name, arguments)) :
    ∀ receipt ∈ harness.receipts, receipt.epoch = harness.epoch →
      canonicalSignature py name arguments ≠ .ok receipt.signature := by
  obtain ⟨_, _, signature, accepted⟩ := judgeCall_accepted judged
  obtain ⟨rfl, rfl⟩ := accepted.decoded.unique (decoded_of_readable readable)
  intro receipt member current equal
  rw [accepted.signed] at equal
  cases equal
  exact accepted.differs receipt member current rfl

theorem results_unpaired (executed : List.Forall₂ ResultOf calls results) : Unpaired results := by
  intro fields member
  obtain ⟨call, _, shape, same, tool, _⟩ := aligned_of_mem_right executed member
  cases same
  have different : Value.str "tool" ≠ .str "assistant" := by decide
  simp only [hasRole, decide_eq_true_eq, decide_eq_false_iff_not] at tool ⊢
  rw [tool, Option.some.injEq]
  exact different

theorem KeepsLedger.opened (unpaired : Unpaired messages) : KeepsLedger py roles messages := by
  intro start final fresh _ read
  obtain ⟨same, settled⟩ := readMessages_unpaired (fun _ => AList.lookup_empty _) unpaired read
  refine ⟨settled, ?_⟩
  rw [same, ← fresh]
  exact List.nodup_nil

/-- One turn keeps the ledger free of repetitions when its calls are separated. -/
theorem KeepsLedger.turn {upstream : Upstream} {payload : JsonObject} {result : ChatResult}
    {prepared : Prepared} {choice message : Object} {own : List Value} (keeps : KeepsLedger py prepared.roles messages)
    (sameMessages : prepared.messages = messages) {rebuilt : Reconstruction}
    (read : rebuild py prepared = .ok rebuilt)
    (completed : Completed py settings upstream prepared rebuilt
      (complete py settings upstream options payload) result.body)
    (released : responseMessage? result.body = some (choice, message)) (batch : toolCalls message = .arr calls)
    (executed : List.Forall₂ ResultOf calls results)
    (separated : Entry.Separated ((batchResults py [] calls results).map (resultEntry py prepared.roles)))
    (unpaired : Unpaired own) :
    KeepsLedger py prepared.roles (messages ++ .obj message :: results ++ own) := by
  intro start final fresh sameRoles reads
  obtain ⟨afterTurn, reads, ownReads⟩ := readMessages_append.mp reads
  obtain ⟨before, earlierReads, turnReads⟩ := readMessages_append.mp reads
  obtain ⟨settled, unrepeated⟩ := keeps start before fresh sameRoles earlierReads
  suffices kept : Settled afterTurn ∧ Unrepeated afterTurn.harness.receipts by
    obtain ⟨same, settledLast⟩ := readMessages_unpaired kept.1 unpaired ownReads
    exact ⟨settledLast, same ▸ kept.2⟩
  have judged : ∀ call ∈ calls, judgeCall py settings.deniedTools rebuilt.harness call = .ok none := by
    intro call member
    obtain ⟨_, _, _, _, _, _, judged⟩ :=
      completed.released_batch released batch (List.ne_nil_of_mem member)
    exact judged call member
  by_cases assistant : hasRole message "assistant" = true
  · have decoded : ∀ call ∈ calls, ∃ name arguments, DecodedCall py call name arguments := by
      intro call member
      obtain ⟨name, arguments, _, accepted⟩ := judgeCall_accepted (judged call member)
      exact ⟨name, arguments, accepted.decoded⟩
    obtain ⟨recorded, settledAfter⟩ := readTurn_recorded settled assistant batch decoded executed turnReads
    refine ⟨settledAfter, (recordAll_unrepeated_iff (readMessages_meaning fresh sameRoles earlierReads) unrepeated
      ?_ recorded).mpr separated⟩
    rw [← sameMessages] at earlierReads
    obtain ⟨receipts, epoch⟩ := rebuild_ledger read fresh sameRoles earlierReads
    intro answer member
    obtain ⟨call, called, callId, readable⟩ := mem_batchResults member
    rw [receipts, epoch]
    exact accepted_signature (judged call called) readable
  · have quiet : Unpaired (.obj message :: results) := by
      intro fields member
      rcases List.mem_cons.mp member with same | member
      · cases same
        exact Bool.eq_false_of_not_eq_true assistant
      · exact results_unpaired executed fields member
    obtain ⟨same, settledAfter⟩ := readMessages_unpaired settled quiet turnReads
    exact ⟨settledAfter, same ▸ unrepeated⟩

end

/-- The condition under which no call of a batch repeats another one. -/
def SeparatedTurn (py : Python) (roles : ToolRoles) (calls results : List Value) : Prop :=
  Entry.Separated ((batchResults py [] calls results).map (resultEntry py roles))

/-- No repeated execution inside an epoch: in a conversation in which no batch
repeats one of its own calls before a successful mutation, no two receipts have
the same epoch and the same signature. -/
theorem conversation_unrepeated (py : Python) (settings : Settings) (options : Options)
    (tools : Option Value) (stripped : List Value) (roles : ToolRoles) (used : Bool) (messages : List Value)
    (availableTools : List Text) (contract : SchemaContract) (requireReceipt : Bool)
    (rebuilt : Reconstruction) (enabled : options.harnessEnabled = true)
    (prepares : preparedTools settings options tools = .ok (stripped, roles, used))
    (conversation : Conversation py settings options tools (SeparatedTurn py roles) messages)
    (reads : reconstruct py (.arr messages) availableTools roles contract requireReceipt = .ok rebuilt) :
    Unrepeated rebuilt.harness.receipts := by
  suffices keeps : KeepsLedger py roles messages by
    obtain ⟨final, read, rfl⟩ := reconstruct_eq_ok.mp reads
    exact (keeps _ final rfl rfl read).2
  clear reads
  induction conversation with
  | opened unpaired => exact .opened unpaired
  | turn earlier asks offers completes released batch executed meets unpaired ih =>
      obtain ⟨prepared, rebuilt, ran, read, completed⟩ := complete_completed enabled completes
      have accepted := prepareRequest_accepted ran
      have sameMessages := asks.symm.trans accepted.messages_valid.1
      cases sameMessages
      obtain ⟨_, computed⟩ := accepted.tools
      rw [offers, prepares] at computed
      cases computed
      exact ih.turn rfl read completed released batch executed meets unpaired

def readTools : Value := .arr [functionTool "read_file"]

def readRequest : JsonObject where
  fields := [("model", .str "m"), ("messages", .arr [userMessage "read the files"]), ("tools", readTools)]
  valid := by decide

def readsFile (callId path : Text) : Value :=
  functionCall callId "read_file" ("\x7b\"path\":\"" ++ path ++ Text.literal "\"\x7d")

/-- The message of `callsMessage`. -/
def batchMessage (calls : List Value) : Object :=
  [("role", .str "assistant"), ("content", .null), ("tool_calls", .arr calls)]

/-- One turn in which a batch is released and each call is executed. -/
theorem conversation_turn {condition : List Value → List Value → Prop} (upstream : Upstream)
    (calls results : List Value)
    (returns : (complete .reference defaultSettings upstream {} readRequest).outcome.toOption.bind
      (fun result => (responseMessage? result.body).map Prod.snd) = some (batchMessage calls))
    (batch : toolCalls (batchMessage calls) = .arr calls)
    (executed : List.Forall₂ ResultOf calls results) (meets : condition calls results) :
    Conversation .reference defaultSettings {} (some readTools) condition
      ([userMessage "read the files"] ++ callsMessage calls :: results ++ []) := by
  have keys : Text.literal "model" ≠ Text.literal "messages" ∧ Text.literal "model" ≠ Text.literal "tools" ∧
      Text.literal "messages" ≠ Text.literal "tools" := by decide
  cases completes : (complete .reference defaultSettings upstream {} readRequest).outcome with
  | error raised =>
      rw [completes] at returns
      cases returns
  | ok result =>
      rw [completes] at returns
      simp only [Except.toOption, Option.bind_some, Option.map_eq_some_iff] at returns
      obtain ⟨⟨choice, message⟩, released, rfl⟩ := returns
      refine .turn (.opened ?_) ?_ ?_ completes released batch executed meets (by simp [Unpaired])
      · intro fields member
        cases List.mem_singleton.mp member
        decide
      · simp [readRequest, Object.get?_cons, keys]
      · simp [readRequest, Object.get?_cons, keys]

theorem readsFile_executed {callId path text : Text} :
    ResultOf (readsFile callId path) (toolMessage callId text) := by
  have keys : Text.literal "role" ≠ Text.literal "tool_call_id" := by decide
  exact ⟨_, rfl, by simp [hasRole, Object.get?_cons], by
    simp [callIdOf, readsFile, functionCall, Value.asObject?, Object.get?_cons, keys]⟩

def batchUpstream (calls : List Value) (valid : (callsMessage calls).Valid) : Upstream where
  reply _ := callsReply calls valid

def bothExecuted : List Value := [toolMessage "x" "text", toolMessage "y" "text"]

def differentReads : List Value := [readsFile "x" "a", readsFile "y" "b"]

theorem conversation_unrepeated_different : ∃ messages rebuilt,
    Conversation .reference defaultSettings {} (some readTools) (SeparatedTurn .reference {}) messages ∧
    reconstruct .reference (.arr messages) ["read_file"] {} {} true = .ok rebuilt ∧
    Unrepeated rebuilt.harness.receipts := by
  have conversation : Conversation .reference defaultSettings {} (some readTools) (SeparatedTurn .reference {}) _ :=
    conversation_turn (batchUpstream differentReads (by decide)) differentReads bothExecuted
      (by decide +kernel) (by decide) (.cons readsFile_executed (.cons readsFile_executed .nil))
      (by unfold SeparatedTurn; decide +kernel)
  have returns : (reconstruct .reference (.arr ([userMessage "read the files"] ++
      callsMessage differentReads :: bothExecuted ++ [])) ["read_file"] {} {} true).isOk = true := by
    decide +kernel
  cases reads : reconstruct .reference (.arr ([userMessage "read the files"] ++
      callsMessage differentReads :: bothExecuted ++ [])) ["read_file"] {} {} true with
  | error e =>
      rw [reads] at returns
      cases returns
  | ok rebuilt =>
      exact ⟨_, rebuilt, conversation, reads,
        conversation_unrepeated .reference defaultSettings {} (some readTools) _ {} _ _ _ _ _ _ rfl rfl
          conversation reads⟩

/-- Two calls that differ in nothing but their identifiers. -/
def repeatedReads : List Value := [readsFile "x" "a", readsFile "y" "a"]

/-- Calls are compared with the receipts and not with each other, so a batch
that repeats a call is released, and the ledger repeats a receipt. -/
theorem conversation_repeats_batch : ∃ messages rebuilt,
    Conversation .reference defaultSettings {} (some readTools) (fun _ _ => True) messages ∧
    reconstruct .reference (.arr messages) ["read_file"] {} {} true = .ok rebuilt ∧
    ¬ Unrepeated rebuilt.harness.receipts := by
  have conversation : Conversation .reference defaultSettings {} (some readTools) (fun _ _ => True) _ :=
    conversation_turn (batchUpstream repeatedReads (by decide)) repeatedReads bothExecuted
      (by decide +kernel) (by decide) (.cons readsFile_executed (.cons readsFile_executed .nil)) trivial
  have returns : (reconstruct .reference (.arr ([userMessage "read the files"] ++
      callsMessage repeatedReads :: bothExecuted ++ [])) ["read_file"] {} {} true).toOption.map
        (fun rebuilt => decide (rebuilt.harness.receipts.map
          fun receipt => (receipt.epoch, receipt.signature)).Nodup) = some false := by decide +kernel
  cases reads : reconstruct .reference (.arr ([userMessage "read the files"] ++
      callsMessage repeatedReads :: bothExecuted ++ [])) ["read_file"] {} {} true with
  | error e =>
      rw [reads] at returns
      cases returns
  | ok rebuilt =>
      rw [reads] at returns
      simp only [Except.toOption, Option.map_some, Option.some.injEq, decide_eq_false_iff_not] at returns
      exact ⟨_, rebuilt, conversation, reads, returns⟩

end HarnessProxy.Service

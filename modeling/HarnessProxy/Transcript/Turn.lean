import HarnessProxy.Transcript.Reconstruct

namespace HarnessProxy.Transcript

open HarnessProxy.Json HarnessProxy.Core

/-! # One turn of a transcript

An assistant message with calls is followed by one result for each call.  What
`reconstruct` records of such a turn is a function of the calls and the results.
-/

/-- The call is an object with a function name and with arguments that decode to
an object. -/
structure DecodedCall (py : Python) (call : Value) (name : Text) (arguments : Object) : Prop where
  shape : ∃ fields function, call = .obj fields ∧ Object.get? fields "function" = some (.obj function) ∧
    Object.get? function "name" = some (.str name) ∧ callArguments py fields = some arguments

/-- The identifier, the name and the arguments of a call that can be recorded. -/
def readableCall? (py : Python) (call : Value) : Option (Text × Text × Object) := do
  let fields ← call.asObject?
  let (callId, name) ← callHead? fields
  let arguments ← callArguments py fields
  return (callId, name, arguments)

/-- The `id` of a call. -/
def callIdOf (call : Value) : Value := ((call.asObject?.bind fun fields => fields.get? "id").getD .null)

/-- A tool message with the `id` of the call. -/
structure ResultOf (call result : Value) : Prop where
  shape : ∃ fields, result = .obj fields ∧ hasRole fields "tool" = true ∧
    (Object.get? fields "tool_call_id").getD .null = callIdOf call

def resultText (result : Value) : Text := (result.asObject?.map messageText).getD []

/-- What a batch and its results leave in the ledger: the first call under each
identifier with the result in its place.  `seen` are the identifiers of earlier
calls of the batch. -/
def batchResults (py : Python) : List Text → List Value → List Value → List ToolResult
  | seen, call :: calls, result :: results => match readableCall? py call with
    | some (callId, name, arguments) =>
      if callId ∈ seen then batchResults py seen calls results
      else ⟨name, arguments, resultText result⟩ :: batchResults py (callId :: seen) calls results
    | none => batchResults py seen calls results
  | _, _, _ => []

/-- What a call adds to the pending calls under an identifier. -/
def callEntry (py : Python) (callId : Text) (call : Value) : Option (Text × Object) :=
  (readableCall? py call).bind fun readable => if readable.1 = callId then some readable.2 else none

section
variable {py : Python} {state final : ReadState} {call result : Value} {name : Text} {arguments : Object}
  {seen : List Text} {calls results : List Value}

theorem DecodedCall.readable (decoded : DecodedCall py call name arguments) :
    (∃ callId, callIdOf call = .str callId ∧ callId ≠ [] ∧ readableCall? py call = some (callId, name, arguments)) ∨
      (∀ callId, callIdOf call = .str callId → callId = []) ∧ readableCall? py call = none := by
  obtain ⟨fields, function, rfl, found, named, decodes⟩ := decoded
  cases id : Object.get? fields "id" with
  | none =>
      refine Or.inr ⟨fun callId same => ?_, ?_⟩
      · simp [callIdOf, Value.asObject?, id] at same
      · simp [readableCall?, Value.asObject?, callHead?, id]
  | some value =>
      cases value with
      | str callId =>
          by_cases empty : callId = []
          · refine Or.inr ⟨fun other same => ?_, ?_⟩
            · simp only [callIdOf, Value.asObject?, Option.bind_some, id, Option.getD_some, Value.str.injEq] at same
              rw [← same, empty]
            · simp [readableCall?, Value.asObject?, callHead?, id, found, named, empty]
          · refine Or.inl ⟨callId, ?_, empty, ?_⟩
            · simp [callIdOf, Value.asObject?, id]
            · simp [readableCall?, Value.asObject?, callHead?, id, found, named, empty, decodes]
      | _ =>
          refine Or.inr ⟨fun callId same => ?_, ?_⟩
          · simp [callIdOf, Value.asObject?, id] at same
          · simp [readableCall?, Value.asObject?, callHead?, id]

theorem readableCall?_eq_some {callId : Text} : readableCall? py call = some (callId, name, arguments) ↔
    ∃ fields, call = .obj fields ∧ callHead? fields = some (callId, name) ∧
      callArguments py fields = some arguments := by
  cases call with
  | obj fields =>
      simp only [readableCall?, Value.asObject?, Option.bind_eq_bind, Option.bind_some, Option.bind_eq_some_iff,
        pure, Option.some.injEq, Value.obj.injEq, exists_eq_left', Prod.mk.injEq]
      constructor
      · rintro ⟨⟨_, _⟩, found, _, decodes, rfl, rfl, rfl⟩
        exact ⟨found, decodes⟩
      · rintro ⟨found, decodes⟩
        exact ⟨_, found, _, decodes, rfl, rfl, rfl⟩
  | _ => simp [readableCall?, Value.asObject?]

theorem DecodedCall.unique {call : Value} {name other : Text} {arguments others : Object}
    (left : DecodedCall py call name arguments) (right : DecodedCall py call other others) :
    name = other ∧ arguments = others := by
  obtain ⟨fields, function, rfl, found, named, decodes⟩ := left
  obtain ⟨_, _, same, found', named', decodes'⟩ := right
  cases same
  rw [found] at found'
  cases found'
  rw [named] at named'
  cases named'
  rw [decodes] at decodes'
  cases decodes'
  exact ⟨rfl, rfl⟩

theorem decoded_of_readable {call : Value} {callId name : Text} {arguments : Object}
    (readable : readableCall? py call = some (callId, name, arguments)) : DecodedCall py call name arguments := by
  obtain ⟨fields, rfl, head, decodes⟩ := readableCall?_eq_some.mp readable
  unfold callHead? at head
  split at head
  · next function _ found =>
    split at head
    · next named =>
      split at head
      · cases head
      · cases head
        exact ⟨fields, function, rfl, found, named, decodes⟩
    · cases head
  · cases head

/-! ## Reading the calls -/

theorem readCall_pending (state : ReadState) (call : Value) (callId : Text) :
    (state.readCall py call).pending.lookup callId =
      (state.pending.lookup callId).or (callEntry py callId call) := by
  unfold ReadState.readCall
  split
  · next fields =>
    cases head : callHead? fields with
    | none => simp [callEntry, readableCall?, Value.asObject?, head, ReadState.warn]
    | some both =>
        obtain ⟨otherId, name⟩ := both
        by_cases waits : otherId ∈ state.pending
        · have found : (state.pending.lookup otherId).isSome := AList.lookup_isSome.mpr waits
          obtain ⟨body, found⟩ := Option.isSome_iff_exists.mp found
          simp only [waits, if_true, ReadState.warn]
          by_cases same : otherId = callId
          · subst same
            simp [found]
          · cases decodes : callArguments py fields <;>
              simp [callEntry, readableCall?, Value.asObject?, head, decodes, same]
        · simp only [waits, if_false]
          cases decodes : callArguments py fields with
          | none => simp [callEntry, readableCall?, Value.asObject?, head, decodes, ReadState.warn]
          | some arguments =>
              by_cases same : otherId = callId
              · subst same
                simp [callEntry, readableCall?, Value.asObject?, head, decodes, AList.lookup_eq_none.mpr waits]
              · simp [callEntry, readableCall?, Value.asObject?, head, decodes, same,
                  AList.lookup_insert_ne (Ne.symm same)]
  · next notObject =>
    have unreadable : call.asObject? = none := by
      cases call with
      | obj fields => exact absurd rfl (notObject fields)
      | _ => rfl
    simp [callEntry, readableCall?, unreadable, ReadState.warn]

theorem readCalls_pending (state : ReadState) (calls : List Value) (callId : Text) :
    (calls.foldl (ReadState.readCall py) state).pending.lookup callId =
      (state.pending.lookup callId).or (calls.findSome? (callEntry py callId)) := by
  induction calls generalizing state with
  | nil => simp
  | cons call rest ih =>
      rw [List.foldl_cons, ih, readCall_pending, Option.or_assoc, List.findSome?_cons]
      cases callEntry py callId call <;> rfl

/-! ## Reading the results -/

/-- The calls that still wait for their results are pending, apart from those
under an identifier that is answered. -/
def Awaits (py : Python) (state : ReadState) (seen : List Text) (calls : List Value) : Prop :=
  ∀ callId, state.pending.lookup callId =
    if callId ∈ seen then none else calls.findSome? (callEntry py callId)

/-- No call is pending. -/
def Settled (state : ReadState) : Prop := ∀ callId, state.pending.lookup callId = none

/-- The state after the result of a pending call is recorded. -/
def ReadState.answer (state : ReadState) (callId name text : Text) (harness : AgentHarness) : ReadState :=
  { state with harness, pending := state.pending.erase callId, latest := some (name, text) }

theorem Awaits.settled (awaits : Awaits py state seen []) : Settled state := by
  intro callId
  rw [awaits callId]
  split <;> rfl

theorem readMessage_result (py : Python) (state : ReadState) (answers : ResultOf call result) :
    ∃ fields, result = .obj fields ∧ state.readMessage py result = state.readResult py fields ∧
      (Object.get? fields "tool_call_id").getD .null = callIdOf call := by
  obtain ⟨fields, rfl, tool, same⟩ := answers
  have different : (Value.str "tool" : Value) ≠ .str "assistant" := by decide
  have notAssistant : hasRole fields "assistant" = false := by
    simp only [hasRole, decide_eq_true_eq, decide_eq_false_iff_not] at tool ⊢
    rw [tool, Option.some.injEq]
    exact different
  exact ⟨fields, rfl, by simp [ReadState.readMessage, notAssistant, tool], same⟩

/-- A result without a pending call is an orphan. -/
theorem readMessage_orphan (answers : ResultOf call result)
    (orphan : ∀ callId, callIdOf call = .str callId → state.pending.lookup callId = none) :
    state.readMessage py result = .ok (state.warn "orphan_tool_result") := by
  obtain ⟨fields, rfl, read, same⟩ := readMessage_result py state answers
  rw [read, ReadState.readResult]
  split
  · next callId found =>
    rw [found, Option.getD_some] at same
    simp [orphan callId same.symm]
  · rfl

/-- A result under the identifier of a pending call is recorded. -/
theorem readMessage_answer {callId : Text} (answers : ResultOf call result) (id : callIdOf call = .str callId)
    (waits : state.pending.lookup callId = some (name, arguments)) :
    state.readMessage py result = (state.harness.record py name arguments (resultText result)).map
      (state.answer callId name (resultText result)) := by
  obtain ⟨fields, rfl, read, same⟩ := readMessage_result py state answers
  have found : Object.get? fields "tool_call_id" = some (.str callId) := by
    rw [id] at same
    cases value : Object.get? fields "tool_call_id" with
    | none => simp [value] at same
    | some value' => simpa [value] using same
  have text : resultText (.obj fields) = messageText fields := rfl
  simp only [read, ReadState.readResult, found, waits, text]
  cases state.harness.record py name arguments (messageText fields) <;> rfl

/-- No call is read under the empty identifier. -/
theorem callEntry_empty (call : Value) : callEntry py [] call = none := by
  rw [callEntry, Option.bind_eq_none_iff]
  rintro ⟨callId, name, arguments⟩ readable
  obtain ⟨fields, _, found, _⟩ := readableCall?_eq_some.mp readable
  refine if_neg fun empty => ?_
  unfold callHead? at found
  split at found
  · split at found
    · split at found
      · cases found
      · next nonempty =>
        cases found
        exact nonempty empty
    · cases found
  · cases found

/-- What the result of the next call of a batch does. -/
inductive ResultStep (py : Python) (state : ReadState) (seen : List Text) (call : Value) (calls : List Value)
    (result : Value) (name : Text) (arguments : Object) : Prop
  | recorded {callId : Text} (readable : readableCall? py call = some (callId, name, arguments))
      (fresh : callId ∉ seen)
      (reads : state.readMessage py result = (state.harness.record py name arguments (resultText result)).map
        (state.answer callId name (resultText result)))
      (awaits : ∀ harness, Awaits py (state.answer callId name (resultText result) harness) (callId :: seen) calls)
  | skipped (unrecorded : ∀ callId body, readableCall? py call = some (callId, body) → callId ∈ seen)
      (reads : state.readMessage py result = .ok (state.warn "orphan_tool_result"))
      (awaits : Awaits py (state.warn "orphan_tool_result") seen calls)

theorem Awaits.step (awaits : Awaits py state seen (call :: calls))
    (decoded : DecodedCall py call name arguments) (answers : ResultOf call result) :
    ResultStep py state seen call calls result name arguments := by
  rcases decoded.readable with ⟨callId, id, _, readable⟩ | ⟨unnamed, unreadable⟩
  · have entry (other : Text) : callEntry py other call = if callId = other then some (name, arguments) else none := by
      simp [callEntry, readable]
    by_cases answered : callId ∈ seen
    · refine .skipped (fun other body found => ?_) (readMessage_orphan answers fun other same => ?_) ?_
      · rw [readable] at found
        cases found
        exact answered
      · cases id.symm.trans same
        rw [awaits callId, if_pos answered]
      · intro other
        have later := awaits other
        rw [List.findSome?_cons, entry] at later
        by_cases known : other ∈ seen
        · rwa [if_pos known] at later ⊢
        · have different : ¬ callId = other := fun same => known (same ▸ answered)
          rw [if_neg known, if_neg different] at later
          rwa [if_neg known]
    · have waits := awaits callId
      rw [if_neg answered, List.findSome?_cons, entry, if_pos rfl] at waits
      refine .recorded readable answered (readMessage_answer answers id waits) fun harness other => ?_
      by_cases same : other = callId
      · subst same
        simp [ReadState.answer]
      · have later := awaits other
        rw [List.findSome?_cons, entry, if_neg (Ne.symm same)] at later
        simpa [ReadState.answer, AList.lookup_erase_ne same, same] using later
  · refine .skipped (fun callId body found => ?_) (readMessage_orphan answers fun callId same => ?_) ?_
    · rw [unreadable] at found
      cases found
    · have none : (call :: calls).findSome? (callEntry py callId) = none := by
        rw [unnamed callId same, List.findSome?_eq_none_iff]
        exact fun other _ => callEntry_empty other
      rw [awaits callId, none, ite_self]
    · intro callId
      have later := awaits callId
      rwa [List.findSome?_cons, callEntry, unreadable] at later

/-- What is recorded of the results of a batch. -/
theorem readResults_recorded (awaits : Awaits py state seen calls)
    (decoded : ∀ call ∈ calls, ∃ name arguments, DecodedCall py call name arguments)
    (answers : List.Forall₂ ResultOf calls results) (read : state.readMessages py results = .ok final) :
    recordAll py state.harness (batchResults py seen calls results) = .ok final.harness ∧ Settled final := by
  induction answers generalizing state seen with
  | nil =>
      cases read
      exact ⟨rfl, awaits.settled⟩
  | @cons call result calls results head tail ih =>
      have decodedTail : ∀ other ∈ calls, ∃ name arguments, DecodedCall py other name arguments :=
        fun other member => decoded other (by simp [member])
      obtain ⟨name, arguments, decodedHead⟩ := decoded call (by simp)
      simp only [ReadState.readMessages, bind_eq_ok] at read
      obtain ⟨next, first, others⟩ := read
      cases awaits.step decodedHead head with
      | recorded readable fresh reads awaits =>
          cases record : state.harness.record py name arguments (resultText result) with
          | error e =>
              rw [reads, record] at first
              cases first
          | ok harness =>
              rw [reads, record] at first
              cases first
              obtain ⟨rest, settled⟩ := ih (awaits harness) decodedTail others
              simp only [batchResults, readable, if_neg fresh, recordAll, bind_eq_ok]
              exact ⟨⟨harness, record, rest⟩, settled⟩
      | skipped unrecorded reads awaits =>
          rw [reads] at first
          cases first
          obtain ⟨rest, settled⟩ := ih awaits decodedTail others
          refine ⟨?_, settled⟩
          rw [batchResults]
          split
          · next callId _ _ readable => rwa [if_pos (unrecorded callId _ readable)]
          · exact rest

/-- A whole turn, read where no call is pending. -/
theorem readTurn_recorded {message : Object} (settled : Settled state)
    (assistant : hasRole message "assistant" = true) (batch : toolCalls message = .arr calls)
    (decoded : ∀ call ∈ calls, ∃ name arguments, DecodedCall py call name arguments)
    (answers : List.Forall₂ ResultOf calls results)
    (read : state.readMessages py (.obj message :: results) = .ok final) :
    recordAll py state.harness (batchResults py [] calls results) = .ok final.harness ∧ Settled final := by
  simp only [ReadState.readMessages, ReadState.readMessage, assistant, if_true, batch, bind_eq_ok,
    Except.ok.injEq, exists_eq_left'] at read
  have awaits : Awaits py (calls.foldl (ReadState.readCall py) state) [] calls := fun callId => by
    rw [readCalls_pending, settled callId]
    rfl
  have recorded := readResults_recorded awaits decoded answers read
  rwa [readCalls_harness] at recorded

/-- Messages without calls record nothing where no call is pending. -/
theorem readMessages_unpaired {messages : List Value} (settled : Settled state)
    (unpaired : ∀ fields, .obj fields ∈ messages → hasRole fields "assistant" = false)
    (read : state.readMessages py messages = .ok final) :
    final.harness = state.harness ∧ Settled final := by
  induction messages generalizing state with
  | nil =>
      cases read
      exact ⟨rfl, settled⟩
  | cons message rest ih =>
      simp only [ReadState.readMessages, bind_eq_ok] at read
      obtain ⟨next, first, others⟩ := read
      suffices kept : next.harness = state.harness ∧ Settled next by
        obtain ⟨same, settledLast⟩ := ih kept.2 (fun fields member => unpaired fields (by simp [member])) others
        exact ⟨same.trans kept.1, settledLast⟩
      cases message with
      | obj fields =>
          simp only [ReadState.readMessage, unpaired fields (by simp), Bool.false_eq_true, if_false,
            ReadState.readResult, settled _] at first
          split at first
          · split at first <;> cases first <;> exact ⟨rfl, settled⟩
          · cases first
            exact ⟨rfl, settled⟩
      | _ =>
          cases first
          exact ⟨rfl, settled⟩

/-! ## Turns in which every result is recorded -/

/-- The call can be recorded under the identifier. -/
def Identified (py : Python) (call : Value) (callId : Text) : Prop :=
  ∃ body, readableCall? py call = some (callId, body)

theorem batchResults_length_le : (batchResults py seen calls results).length ≤ calls.length := by
  induction calls generalizing seen results with
  | nil => simp [batchResults]
  | cons call rest ih =>
      cases results with
      | nil => simp [batchResults]
      | cons result results =>
          simp only [batchResults, List.length_cons]
          split
          · split
            · exact Nat.le_succ_of_le ih
            · exact Nat.succ_le_succ ih
          · exact Nat.le_succ_of_le ih

theorem mem_batchResults {seen : List Text} {recorded : ToolResult}
    (member : recorded ∈ batchResults py seen calls results) :
    ∃ call ∈ calls, ∃ callId, readableCall? py call = some (callId, recorded.name, recorded.arguments) := by
  induction calls generalizing seen results with
  | nil => simp [batchResults] at member
  | cons call rest ih =>
      have later {others : List Value} {seen : List Text} (tail : recorded ∈ batchResults py seen rest others) :
          ∃ other ∈ call :: rest, ∃ callId,
            readableCall? py other = some (callId, recorded.name, recorded.arguments) := by
        obtain ⟨other, found, readable⟩ := ih tail
        exact ⟨other, by simp [found], readable⟩
      cases results with
      | nil => simp [batchResults] at member
      | cons result results =>
          simp only [batchResults] at member
          split at member
          · next callId name arguments readable =>
            split at member
            · exact later member
            · rcases List.mem_cons.mp member with rfl | tail
              · exact ⟨call, by simp, callId, readable⟩
              · exact later tail
          · exact later member

/-- Every call of the batch leaves a receipt, with its own result. -/
structure FullBatch (py : Python) (calls results : List Value) (recorded : List ToolResult) : Prop where
  calls : List.Forall₂ (fun call result => ∃ callId,
    readableCall? py call = some (callId, result.name, result.arguments)) calls recorded
  results : recorded.map ToolResult.result = results.map resultText

/-- A batch is recorded as a whole when its identifiers are distinct. -/
theorem fullBatch_of_identified {callIds : List Text} (sameLength : calls.length = results.length)
    (identified : List.Forall₂ (Identified py) calls callIds) (nodup : callIds.Nodup)
    (unseen : ∀ callId ∈ callIds, callId ∉ seen) :
    FullBatch py calls results (batchResults py seen calls results) := by
  induction identified generalizing seen results with
  | nil =>
      cases List.length_eq_zero_iff.mp sameLength.symm
      exact ⟨.nil, rfl⟩
  | @cons call callId calls callIds head tail ih =>
      obtain ⟨⟨name, arguments⟩, readable⟩ := head
      obtain ⟨fresh, nodup⟩ := List.nodup_cons.mp nodup
      cases results with
      | nil => cases sameLength
      | cons result results =>
          have rest : FullBatch py calls results (batchResults py (callId :: seen) calls results) := by
            refine ih (by simpa using sameLength) nodup fun other member => ?_
            rw [List.mem_cons, not_or]
            exact ⟨fun same => fresh (same ▸ member), unseen other (by simp [member])⟩
          simp only [batchResults, readable, if_neg (unseen callId (by simp))]
          exact ⟨.cons ⟨callId, readable⟩ rest.calls, by simp [rest.results]⟩

/-- Only then. -/
theorem identified_of_full (full : (batchResults py seen calls results).length = calls.length) :
    ∃ callIds, List.Forall₂ (Identified py) calls callIds ∧ callIds.Nodup ∧
      ∀ callId ∈ callIds, callId ∉ seen := by
  induction calls generalizing seen results with
  | nil => exact ⟨[], .nil, .nil, by simp⟩
  | cons call rest ih =>
      have short {seen : List Text} {others : List Value} :
          (batchResults py seen rest others).length ≠ rest.length + 1 := fun equal =>
        absurd (equal ▸ batchResults_length_le) (Nat.not_succ_le_self _)
      cases results with
      | nil => simp [batchResults] at full
      | cons result results =>
          simp only [batchResults, List.length_cons] at full
          split at full
          · next callId name arguments readable =>
            split at full
            · exact absurd full short
            · next fresh =>
              obtain ⟨callIds, identified, nodup, unseen⟩ := ih (by simpa using full)
              refine ⟨callId :: callIds, .cons ⟨_, readable⟩ identified, List.nodup_cons.mpr ⟨fun member => ?_, nodup⟩,
                fun other member => ?_⟩
              · exact unseen callId member (by simp)
              · rcases List.mem_cons.mp member with rfl | member
                · exact fresh
                · exact fun inSeen => unseen other member (by simp [inSeen])
          · exact absurd full short

/-- Calls with new and distinct identifiers leave no warning. -/
theorem readCalls_warnings {callIds : List Text} (identified : List.Forall₂ (Identified py) calls callIds)
    (nodup : callIds.Nodup) (fresh : ∀ callId ∈ callIds, callId ∉ state.pending) :
    (calls.foldl (ReadState.readCall py) state).warnings = state.warnings := by
  induction identified generalizing state with
  | nil => rfl
  | @cons call callId calls callIds head tail ih =>
      obtain ⟨⟨name, arguments⟩, readable⟩ := head
      obtain ⟨unique, nodup⟩ := List.nodup_cons.mp nodup
      obtain ⟨fields, rfl, found, decodes⟩ := readableCall?_eq_some.mp readable
      have read : state.readCall py (.obj fields) =
          { state with pending := state.pending.insert callId (name, arguments) } := by
        simp [ReadState.readCall, found, decodes, fresh callId (by simp)]
      rw [List.foldl_cons, read, ih nodup]
      intro other member
      rw [AList.mem_insert, not_or]
      exact ⟨fun same => unique (same ▸ member), fresh other (by simp [member])⟩

/-- The results of such calls are all recorded, without a warning. -/
theorem readResults_full {callIds : List Text} {harness : AgentHarness} (awaits : Awaits py state seen calls)
    (decoded : ∀ call ∈ calls, ∃ name arguments, DecodedCall py call name arguments)
    (answers : List.Forall₂ ResultOf calls results) (identified : List.Forall₂ (Identified py) calls callIds)
    (nodup : callIds.Nodup) (unseen : ∀ callId ∈ callIds, callId ∉ seen)
    (recorded : recordAll py state.harness (batchResults py seen calls results) = .ok harness) :
    ∃ final, state.readMessages py results = .ok final ∧ final.warnings = state.warnings := by
  induction answers generalizing state seen callIds with
  | nil => exact ⟨state, rfl, rfl⟩
  | @cons call result calls results head tail ih =>
      cases identified with
      | @cons _ callId _ callIds headId tailIds =>
          obtain ⟨body, readable⟩ := headId
          obtain ⟨unique, nodup⟩ := List.nodup_cons.mp nodup
          obtain ⟨name, arguments, decodedHead⟩ := decoded call (by simp)
          have fresh := unseen callId (by simp)
          cases awaits.step decodedHead head with
          | skipped unrecorded => exact absurd (unrecorded callId body readable) fresh
          | @recorded otherId otherReadable _ reads awaits =>
              cases readable.symm.trans otherReadable
              simp only [batchResults, readable, if_neg fresh, recordAll, bind_eq_ok] at recorded
              obtain ⟨next, record, recorded⟩ := recorded
              obtain ⟨final, read, quiet⟩ := ih (awaits next) (fun other member => decoded other (by simp [member]))
                tailIds nodup (fun other member => by
                  rw [List.mem_cons, not_or]
                  exact ⟨fun same => unique (same ▸ member), unseen other (by simp [member])⟩) recorded
              refine ⟨final, ?_, quiet⟩
              simp only [ReadState.readMessages, reads, record]
              exact read

end

end HarnessProxy.Transcript

import HarnessProxy.Python.Reference
import HarnessProxy.Streaming.Sent

namespace HarnessProxy.Streaming

open HarnessProxy.Json HarnessProxy.Service

/-! # Replay is lossless

What a client accumulates from the events of a replay is the completion that
was replayed, as long as no tool call has an index of its own.
-/

/-- The usage that a replay sends. -/
def expectedUsage (completion : Object) (options : ReplayOptions) : Option Value :=
  match options.includeUsage, completion.get? "usage" with
  | true, some (.obj usage) => some (.obj usage)
  | _, _ => none

/-- The client has got back a choice. -/
def Restores (state : CompletionState) (choice : Choice) : Prop :=
  ∃ assembled, state.choice? choice.index = some assembled ∧ assembled.Assembles choice.message ∧
    assembled.finishReason = some (.str choice.finishReason)

/-- What the streaming contract says about the bytes of a replay. -/
structure Lossless (py : Python) (completion : Object) (options : ReplayOptions) (maxBytes : Option Nat)
    (chunks : List Bytes) : Prop where
  events : ∃ texts events state,
    chunks.map eventData = (texts ++ [done]).map (fun text => [text]) ∧
    eventData chunks.flatten = texts ++ [done] ∧
    List.Forall₂ (fun text event => loads py text = .ok (.obj event)) texts events ∧
    CompletionState.accumulateAll {} events = some state ∧
    state.id = completion.get? "id" ∧ state.model = completion.get? "model" ∧
    state.usage = expectedUsage completion options ∧
    ∀ value ∈ choicesOf completion, ∃ choice, choiceOf value = some choice ∧ Restores state choice
  bounded : ∀ limit, maxBytes = some limit → chunks.flatten.length ≤ limit

/-- No tool call of the completion has a field that its delta needs. -/
def UnindexedCalls (completion : Object) : Prop :=
  ∀ value ∈ choicesOf completion, ∀ choice, choiceOf value = some choice →
    ∀ calls, present? choice.message "tool_calls" = some (.arr calls) →
      ∀ call, .obj call ∈ calls → Object.get? call "index" = none

/-! ## The client of a replay -/

/-- An entry of the client for a choice. -/
structure Holds (choice : Choice) (entry : Int × ChoiceState) : Prop where
  index : entry.1 = choice.index
  message : entry.2.Assembles choice.message
  finishReason : entry.2.finishReason = some (.str choice.finishReason)

/-- What the client has after the events of some choices. -/
structure Received (completion : Object) (state : CompletionState) (choices : List Choice) : Prop where
  id : state.id = if choices = [] then none else some (valueOf completion "id")
  model : state.model = if choices = [] then none else some (valueOf completion "model")
  usage : state.usage = none
  entries : List.Forall₂ Holds choices state.choices

/-- The calls of a choice leave their indices to the proxy. -/
def Choice.Unindexed (choice : Choice) : Prop :=
  ∀ calls : List Object, present? choice.message "tool_calls" = some (.arr (calls.map Value.obj)) →
    ∀ call ∈ calls, Streaming.Unindexed call

theorem Received.indices {completion : Object} {state : CompletionState} {choices : List Choice}
    (received : Received completion state choices) : state.choices.map Prod.fst = choices.map Choice.index := by
  have entries := received.entries
  clear received
  generalize state.choices = table at entries ⊢
  induction entries with
  | nil => rfl
  | cons holds _ ih => rw [List.map_cons, List.map_cons, ih, holds.index]

theorem updateChoice_fresh {choices : List (Int × ChoiceState)} {index : Int} (fresh : index ∉ choices.map Prod.fst)
    (next : ChoiceState) : CompletionState.updateChoice index next choices = choices ++ [(index, next)] := by
  induction choices with
  | nil => rfl
  | cons entry rest ih =>
      obtain ⟨other, choice⟩ := entry
      rw [List.map_cons, List.mem_cons, not_or] at fresh
      rw [CompletionState.updateChoice, if_neg (Ne.symm fresh.1), ih fresh.2]
      rfl

theorem updateChoice_last {choices : List (Int × ChoiceState)} {index : Int} (fresh : index ∉ choices.map Prod.fst)
    (choice next : ChoiceState) :
    CompletionState.updateChoice index next (choices ++ [(index, choice)]) = choices ++ [(index, next)] := by
  induction choices with
  | nil => simp [CompletionState.updateChoice]
  | cons entry rest ih =>
      obtain ⟨other, old⟩ := entry
      rw [List.map_cons, List.mem_cons, not_or] at fresh
      rw [List.cons_append, CompletionState.updateChoice, if_neg (Ne.symm fresh.1), ih fresh.2]
      rfl

theorem choice?_fresh {state : CompletionState} {index : Int} (fresh : index ∉ state.choices.map Prod.fst) :
    state.choice? index = none := by
  refine List.lookup_eq_none_iff.mpr fun entry member => ?_
  have different : index ≠ entry.1 := by
    rintro rfl
    exact fresh (List.mem_map_of_mem member)
  simpa using different

theorem choice?_last {choices : List (Int × ChoiceState)} {index : Int} (fresh : index ∉ choices.map Prod.fst)
    (choice : ChoiceState) : (choices ++ [(index, choice)]).lookup index = some choice := by
  have absent : choices.lookup index = none := @choice?_fresh { choices } index fresh
  simp [List.lookup_append, absent]

theorem accumulateChoice_entry (state : CompletionState) (index : Int) (delta : Object) (reason : Value)
    {choice : ChoiceState} (accumulated : ((state.choice? index).getD {}).accumulate delta = some choice) :
    state.accumulateChoice (.obj [("index", .int index), ("delta", .obj delta), ("finish_reason", reason)]) =
      some { state with
        choices := CompletionState.updateChoice index (choice.finish (some reason)) state.choices } := by
  have position : Object.get? [("index", Value.int index), ("delta", .obj delta), ("finish_reason", reason)]
      "index" = some (.int index) := rfl
  have fields : Object.get? [("index", Value.int index), ("delta", .obj delta), ("finish_reason", reason)]
      "delta" = some (.obj delta) := rfl
  have finished : Object.get? [("index", Value.int index), ("delta", .obj delta), ("finish_reason", reason)]
      "finish_reason" = some reason := rfl
  simp only [CompletionState.accumulateChoice, position, fields, finished, accumulated, Option.map_some]

/-- Every event names the completion. -/
def CompletionState.identify (state : CompletionState) (completion : Object) : CompletionState :=
  { state with
    id := state.id <|> some (valueOf completion "id")
    model := state.model <|> some (valueOf completion "model") }

theorem CompletionState.identify_twice (state : CompletionState) (completion : Object)
    (choices : List (Int × ChoiceState)) :
    ({ state.identify completion with choices } : CompletionState).identify completion =
      { state.identify completion with choices } := by
  cases id : state.id <;> cases model : state.model <;> simp [identify, id, model]

/-- One event of a choice. -/
theorem accumulate_chunk (state : CompletionState) (completion : Object) (index : Int) (delta : Object) (reason : Value)
    {choice : ChoiceState} (accumulated : ((state.choice? index).getD {}).accumulate delta = some choice) :
    state.accumulate (chunk completion index delta reason) =
      some { state.identify completion with
        choices := CompletionState.updateChoice index (choice.finish (some reason)) state.choices } := by
  have entries : (chunk completion index delta reason).get? "choices" = some (.arr [.obj [("index", .int index),
      ("delta", .obj delta), ("finish_reason", reason)]]) := Object.get?_assign_self ..
  have other {key : Text} (different : key ≠ "choices") :
      (chunk completion index delta reason).get? key = (chunkBase completion).get? key :=
    Object.get?_assign_ne _ _ _ different
  have entry := accumulateChoice_entry (state.identify completion) index delta reason accumulated
  simp only [CompletionState.accumulate, entries]
  rw [other (by decide), other (by decide), other (by decide), chunkBase_get?_id, chunkBase_get?_model,
    chunkBase_get?_usage]
  change (state.identify completion).accumulateChoices _ = _
  rw [CompletionState.accumulateChoices, entry]
  rfl

/-- Both events of a choice. -/
theorem accumulate_choice (state : CompletionState) {completion : Object} {choice : Choice} {delta : Object}
    {assembled : ChoiceState} (accumulated : ({} : ChoiceState).accumulate delta = some assembled)
    (fresh : choice.index ∉ state.choices.map Prod.fst) (rest : List Object) :
    state.accumulateAll (chunk completion choice.index delta .null ::
        chunk completion choice.index [] (.str choice.finishReason) :: rest) =
      CompletionState.accumulateAll { state.identify completion with
        choices := state.choices ++
          [(choice.index, { assembled with finishReason := some (.str choice.finishReason) })] } rest := by
  have unknown : (state.choice? choice.index).getD {} = {} := by rw [choice?_fresh fresh]; rfl
  have first := @accumulate_chunk state completion choice.index delta .null assembled
    (by rw [unknown, accumulated])
  rw [updateChoice_fresh fresh] at first
  rw [CompletionState.accumulateAll, first, Option.bind_some, CompletionState.accumulateAll]
  have known : (({ state.identify completion with choices := state.choices ++ [(choice.index, assembled)] } :
      CompletionState).choice? choice.index) = some assembled := choice?_last fresh assembled
  have second := @accumulate_chunk { state.identify completion with choices := state.choices ++ [(choice.index, assembled)] }
    completion choice.index [] (.str choice.finishReason) assembled (by rw [known]; rfl)
  rw [CompletionState.identify_twice, updateChoice_last fresh] at second
  exact congrArg (Option.bind · _) second

/-- Both events of a choice give the client the choice. -/
theorem Received.step {completion : Object} {state : CompletionState} {choices : List Choice}
    (received : Received completion state choices) {choice : Choice} {delta : Object}
    (nodup : choice.message.keys.Nodup) (computed : messageDelta choice.message = .ok delta)
    (unindexed : choice.Unindexed) (fresh : choice.index ∉ choices.map Choice.index) :
    ∃ next, Received completion next (choices ++ [choice]) ∧
      ∀ rest, state.accumulateAll (chunk completion choice.index delta .null ::
        chunk completion choice.index [] (.str choice.finishReason) :: rest) = next.accumulateAll rest := by
  obtain ⟨assembled, accumulated, assembles, _⟩ := (messageDelta_delivers nodup computed).accumulate unindexed
  rw [← received.indices] at fresh
  refine ⟨{ state.identify completion with choices := state.choices ++
    [(choice.index, { assembled with finishReason := some (.str choice.finishReason) })] },
    ⟨?_, ?_, received.usage, ?_⟩, accumulate_choice state accumulated fresh⟩
  · have id := received.id
    by_cases first : choices = [] <;> simp [CompletionState.identify, id, first]
  · have model := received.model
    by_cases first : choices = [] <;> simp [CompletionState.identify, model, first]
  · exact List.rel_append received.entries (.cons ⟨rfl, assembles, rfl⟩ .nil)

/-- The events of all choices give the client all choices. -/
theorem Received.run {completion : Object} {values : List Value} {events : List Object}
    (replayed : ReplayedChoices completion values events) {state : CompletionState} {seen : List Choice}
    (received : Received completion state seen)
    (nodup : ∀ value ∈ values, ∀ choice, choiceOf value = some choice → choice.message.keys.Nodup)
    (unindexed : ∀ value ∈ values, ∀ choice, choiceOf value = some choice → choice.Unindexed)
    (distinct : ((seen ++ values.filterMap choiceOf).map Choice.index).Nodup)
    (rest : List Object) :
    ∃ next choices, List.Forall₂ (fun value choice => choiceOf value = some choice) values choices ∧
      Received completion next (seen ++ choices) ∧ state.accumulateAll (events ++ rest) = next.accumulateAll rest := by
  induction replayed generalizing state seen with
  | nil => exact ⟨state, [], .nil, by simpa using received, rfl⟩
  | cons read computed replayed ih =>
      next value choice delta values events =>
      obtain ⟨nodupHead, nodupTail⟩ := List.forall_mem_cons.mp nodup
      obtain ⟨unindexedHead, unindexedTail⟩ := List.forall_mem_cons.mp unindexed
      have same : seen ++ (value :: values).filterMap choiceOf = (seen ++ [choice]) ++ values.filterMap choiceOf := by
        simp [read]
      rw [same] at distinct
      have fresh : choice.index ∉ seen.map Choice.index := fun member => by
        rw [List.map_append, List.map_append] at distinct
        exact List.disjoint_of_nodup_append (List.nodup_append.mp distinct).1 member (by simp)
      obtain ⟨middle, receivedOne, one⟩ :=
        received.step (nodupHead choice read) computed (unindexedHead choice read) fresh
      obtain ⟨next, choices, reads, receivedAll, others⟩ := ih receivedOne nodupTail unindexedTail distinct
      refine ⟨next, choice :: choices, .cons read reads, by simpa using receivedAll, ?_⟩
      rw [List.cons_append, List.cons_append, one, others]

theorem restores_of_holds {choices : List Choice} {entries : List (Int × ChoiceState)}
    (held : List.Forall₂ Holds choices entries) (distinct : (choices.map Choice.index).Nodup) :
    ∀ choice ∈ choices, ∃ assembled, entries.lookup choice.index = some assembled ∧
      assembled.Assembles choice.message ∧ assembled.finishReason = some (.str choice.finishReason) := by
  induction held with
  | nil => simp
  | cons holds _ ih =>
      next first entry choices entries _ =>
      obtain ⟨absent, others⟩ := List.nodup_cons.mp distinct
      refine List.forall_mem_cons.mpr ⟨⟨entry.2, ?_, holds.message, holds.finishReason⟩, fun choice member => ?_⟩
      · rw [← holds.index]
        exact List.lookup_cons_self
      · obtain ⟨assembled, found, rest⟩ := ih others choice member
        have different : choice.index ≠ entry.1 := by
          rw [holds.index]
          exact fun same => absent (same ▸ List.mem_map_of_mem member)
        refine ⟨assembled, ?_, rest⟩
        rw [List.lookup_cons, beq_false_of_ne different]
        exact found

theorem Received.restores {completion : Object} {state : CompletionState} {choices : List Choice}
    (received : Received completion state choices) (distinct : (choices.map Choice.index).Nodup) :
    ∀ choice ∈ choices, Restores state choice := restores_of_holds received.entries distinct

theorem usageEvents_cases (completion : Object) (options : ReplayOptions) :
    (usageEvents completion options = [] ∧ expectedUsage completion options = none) ∨
      ∃ usage, usageEvents completion options =
          [((chunkBase completion).assign "choices" (.arr [])).assign "usage" (.obj usage)] ∧
        expectedUsage completion options = some (.obj usage) := by
  cases included : options.includeUsage with
  | false => exact .inl ⟨by simp [usageEvents, included], by simp [expectedUsage, included]⟩
  | true => cases found : completion.get? "usage" with
    | none => exact .inl ⟨by simp [usageEvents, found], by simp [expectedUsage, found]⟩
    | some value => cases value with
      | obj usage =>
          exact .inr ⟨usage, by simp [usageEvents, included, found], by simp [expectedUsage, included, found]⟩
      | _ => exact .inl ⟨by simp [usageEvents, found], by simp [expectedUsage, found]⟩

/-- The usage event changes the usage only. -/
theorem accumulate_usage {completion : Object} {state : CompletionState} {choices : List Choice}
    (received : Received completion state choices) (nonempty : choices ≠ []) (options : ReplayOptions) :
    state.accumulateAll (usageEvents completion options) =
      some { state with usage := expectedUsage completion options } := by
  have id := received.id
  have model := received.model
  have unused := received.usage
  rw [if_neg nonempty] at id model
  rcases usageEvents_cases completion options with ⟨sent, expected⟩ | ⟨usage, sent, expected⟩
  · rw [sent, expected, ← unused]
    rfl
  · rw [sent, expected]
    have entries : (((chunkBase completion).assign "choices" (.arr [])).assign "usage" (.obj usage)).get? "choices" =
        some (.arr []) := by
      rw [Object.get?_assign_ne _ _ _ (by decide), Object.get?_assign_self]
    simp only [CompletionState.accumulateAll, CompletionState.accumulate, entries]
    rw [Object.get?_assign_self]
    simp [CompletionState.accumulateChoices, id, model]

theorem unindexed_of_lossless {py : Python} {completion : Object} {options : ReplayOptions} {maxBytes : Option Nat}
    {chunks : List Bytes} (lossless : Lossless py completion options maxBytes chunks) : UnindexedCalls completion := by
  intro value member choice read calls present call callMember
  obtain ⟨_, _, state, _, _, _, _, _, _, _, restored⟩ := lossless.events
  obtain ⟨same, readAgain, assembled, _, fields, _⟩ := restored value member
  rw [read] at readAgain
  cases readAgain
  have field := fields "tool_calls"
  rw [present, ChoiceState.field, if_pos rfl, Option.map_eq_some_iff] at field
  obtain ⟨table, _, same⟩ := field
  cases same
  obtain ⟨entry, _, popped⟩ := List.mem_map.mp callMember
  cases popped
  exact Object.get?_pop_self ..

theorem forall₂_choiceOf {values : List Value} {choices : List Choice}
    (reads : List.Forall₂ (fun value choice => choiceOf value = some choice) values choices) :
    values.filterMap choiceOf = choices := by
  induction reads with
  | nil => rfl
  | cons read _ ih => rw [List.filterMap_cons, read, ih]

theorem exists_choice {values : List Value} {choices : List Choice}
    (reads : List.Forall₂ (fun value choice => choiceOf value = some choice) values choices) {value : Value}
    (member : value ∈ values) : ∃ choice ∈ choices, choiceOf value = some choice := by
  induction reads with
  | nil => cases member
  | cons read _ ih =>
      rcases List.mem_cons.mp member with rfl | member
      · exact ⟨_, List.mem_cons_self, read⟩
      · obtain ⟨choice, member, read⟩ := ih member
        exact ⟨choice, List.mem_cons_of_mem _ member, read⟩

theorem choicesOf_clean {py : Python} {completion : Object} (clean : completion.Clean py) :
    ∀ value ∈ choicesOf completion, value.Clean py := by
  unfold choicesOf
  split
  · next found => exact cleanItems_iff.mp (clean.get? found)
  · simp

theorem valueOf_eq {completion : Object} {key : Text} (text : (nonemptyText? (completion.get? key)).isSome) :
    some (valueOf completion key) = completion.get? key := by
  cases found : completion.get? key with
  | none => simp [found, nonemptyText?] at text
  | some value => simp [valueOf, found]

theorem unindexed_choice {py : Python} {completion : Object} (clean : completion.Clean py)
    (unindexed : UnindexedCalls completion) {value : Value} (member : value ∈ choicesOf completion) {choice : Choice}
    (read : choiceOf value = some choice) : choice.Unindexed := by
  intro calls present call callMember
  have messageClean := choiceOf_clean read (choicesOf_clean clean value member)
  have callsClean := cleanItems_iff.mp (messageClean.get? (get?_of_present? present))
  have listed := List.mem_map_of_mem (f := Value.obj) callMember
  exact ⟨(callsClean _ listed).1, unindexed value member choice read _ present call listed⟩

theorem lossless_of_unindexed {py : Python} {completion : Object} {options : ReplayOptions} {maxBytes : Option Nat}
    {chunks : List Bytes} (returned : replayCompletion completion options maxBytes = .ok chunks)
    (clean : completion.Clean py) (distinct : (((choicesOf completion).filterMap choiceOf).map Choice.index).Nodup)
    (unindexed : UnindexedCalls completion) : Lossless py completion options maxBytes chunks := by
  obtain ⟨events, bodies, replayed, framed, rfl, nonempty, id, model, bounded⟩ := replayCompletion_eq_ok returned
  have valuesClean := choicesOf_clean clean
  have eventsClean : ∀ event ∈ events ++ usageEvents completion options, event.Clean py :=
    List.forall_mem_append.mpr ⟨replayed.clean clean valuesClean, usageEvents_clean clean options⟩
  obtain ⟨texts, rfl, uncontrolled, reads⟩ := framed_bodies framed eventsClean
  have all : ∀ text ∈ texts ++ [done], Uncontrolled text :=
    List.forall_mem_append.mpr ⟨uncontrolled, List.forall_mem_singleton.mpr (by decide)⟩
  have chunks : texts.map frameBytes ++ [doneBytes] = (texts ++ [done]).map frameBytes := by
    rw [List.map_append]
    rfl
  have nothing : Received completion {} [] := ⟨rfl, rfl, rfl, .nil⟩
  obtain ⟨state, choices, choiceReads, received, accumulated⟩ := nothing.run replayed
    (fun value member choice read => (choiceOf_clean read (valuesClean value member)).nodup)
    (fun value member choice read => unindexed_choice clean unindexed member read) distinct
    (usageEvents completion options)
  have some : choices ≠ [] := by
    rintro rfl
    exact nonempty (List.forall₂_nil_right_iff.mp choiceReads)
  rw [List.nil_append] at received
  refine ⟨⟨texts, _, { state with usage := expectedUsage completion options }, ?_, ?_, reads, ?_, ?_, ?_, rfl, ?_⟩,
    bounded⟩
  · rw [chunks, List.map_map]
    exact List.map_congr_left fun text member => eventData_frame (all text member)
  · rw [chunks, eventData_frames all]
  · rw [accumulated, accumulate_usage received some]
  · rw [received.id, if_neg some, valueOf_eq id]
  · rw [received.model, if_neg some, valueOf_eq model]
  · intro value member
    rw [forall₂_choiceOf choiceReads] at distinct
    obtain ⟨choice, choiceMember, read⟩ := exists_choice choiceReads member
    exact ⟨choice, read, received.restores distinct choice choiceMember⟩

/-- A choice with two tool calls. -/
def callsChoice (first second : Object) : Value :=
  .obj [("index", .int 0), ("finish_reason", .str "tool_calls"), ("message", .obj [("role", .str "assistant"),
    ("content", .null), ("tool_calls", .arr [.obj first, .obj second])])]

def callsCompletion (first second : Object) : Object :=
  [("id", .str "chatcmpl-1"), ("model", .str "m"), ("choices", .arr [callsChoice first second])]

theorem callsCompletion_clean {py : Python} {first second : Object} (firstClean : first.Clean py)
    (secondClean : second.Clean py) : (callsCompletion first second).Clean py := by
  have message : (["role", "content", "tool_calls"] : List Text).Nodup := by decide
  have choice : (["index", "finish_reason", "message"] : List Text).Nodup := by decide
  have completion : (["id", "model", "choices"] : List Text).Nodup := by decide
  exact ⟨completion, trivial, trivial, ⟨⟨choice, trivial, trivial, ⟨message, trivial, trivial,
    ⟨firstClean, secondClean, trivial⟩, trivial⟩, trivial⟩, trivial⟩, trivial⟩

end HarnessProxy.Streaming

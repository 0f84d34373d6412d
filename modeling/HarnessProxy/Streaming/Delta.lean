import HarnessProxy.Streaming.Client
import HarnessProxy.Streaming.Replay

namespace HarnessProxy.Streaming

open HarnessProxy.Json HarnessProxy.Service

/-! # The delta of a message

The fields that a delta delivers, and the choice that a client has after it.
-/

theorem get?_eq_none_iff {fields : Object} {key : Text} : fields.get? key = none ↔ key ∉ fields.keys := by
  rw [← Object.has_iff_mem_keys]
  simp [Object.has]

theorem get?_filter {fields : Object} (nodup : fields.keys.Nodup) (keep : Text × Value → Bool) (key : Text) :
    Object.get? (List.filter keep fields) key = (fields.get? key).filter fun value => keep (key, value) := by
  induction fields with
  | nil => rfl
  | cons field rest ih =>
      obtain ⟨name, value⟩ := field
      rw [Object.keys_cons, List.nodup_cons] at nodup
      obtain ⟨fresh, others⟩ := nodup
      rw [Object.get?_cons]
      by_cases same : name = key
      · subst same
        have absent : Object.get? (List.filter keep rest) name = none := by
          rw [ih others, get?_eq_none_iff.mpr fresh]
          rfl
        rw [if_pos rfl, List.filter_cons]
        cases kept : keep (name, value) with
        | true => simp [Object.get?_cons, Option.filter, kept]
        | false => simp [absent, Option.filter, kept]
      · rw [if_neg same, List.filter_cons]
        split
        · rw [Object.get?_cons, if_neg same, ih others]
        · exact ih others

/-- A null field is as good as an absent one. -/
theorem present?_eq (message : Object) (key : Text) :
    present? message key = (message.get? key).filter (· ≠ .null) := by
  unfold present?
  split
  · next absent => simp [absent]
  · next null => simp [null, Option.filter]
  · next value notNull present =>
    have different : value ≠ .null := by
      rintro rfl
      exact notNull rfl
    simp [present, Option.filter, different]

theorem get?_plainDelta {message : Object} (nodup : message.keys.Nodup) {key : Text}
    (notRefusal : key ≠ ("refusal" : Text)) (notCalls : key ≠ ("tool_calls" : Text)) :
    Object.get? (plainDelta message) key = present? message key := by
  rw [plainDelta, get?_filter nodup, present?_eq]
  simp [notRefusal, notCalls]

theorem get?_plainDelta_calls {message : Object} (nodup : message.keys.Nodup) :
    Object.get? (plainDelta message) "tool_calls" = none := by
  rw [plainDelta, get?_filter nodup]
  cases message.get? "tool_calls" <;> simp [Option.filter]

theorem get?_plainDelta_refusal {message : Object} (nodup : message.keys.Nodup) :
    Object.get? (plainDelta message) "refusal" = none := by
  rw [plainDelta, get?_filter nodup]
  cases message.get? "refusal" <;> simp [Option.filter]

/-- The calls that a message delivers, if it has any. -/
structure Delivers (message delta : Object) : Prop where
  nodup : delta.keys.Nodup
  plain : ∀ key, key ≠ ("tool_calls" : Text) → delta.get? key = present? message key
  calls : match present? message "tool_calls" with
    | none => delta.get? "tool_calls" = none
    | some value => ∃ calls, objects? value = some calls ∧
        delta.get? "tool_calls" = some (.arr (indexedCalls 0 calls))

/-- A delta before its refusal is put back. -/
inductive BaseDelta (message : Object) : Object → Prop where
  | plain : present? message "tool_calls" = none → BaseDelta message (plainDelta message)
  | calls {value : Value} {calls : List Object} : present? message "tool_calls" = some value →
      objects? value = some calls →
      BaseDelta message ((plainDelta message).assign "tool_calls" (.arr (indexedCalls 0 calls)))

theorem messageDelta_eq_ok {message delta : Object} (computed : messageDelta message = .ok delta) :
    ∃ base, BaseDelta message base ∧ delta = match present? message "refusal" with
      | none => base
      | some refusal => base.assign "refusal" refusal := by
  have refused {base : Object} (returned : (match present? message "refusal" with
      | none => pure base
      | some refusal => pure (base.assign "refusal" refusal)) = (.ok delta : Except Raised Object)) :
      delta = match present? message "refusal" with
        | none => base
        | some refusal => base.assign "refusal" refusal := by
    cases present : present? message "refusal" <;> rw [present] at returned <;> cases returned <;> rfl
  unfold messageDelta at computed
  cases present : present? message "tool_calls" with
  | none =>
      rw [present] at computed
      exact ⟨_, .plain present, refused computed⟩
  | some value =>
      rw [present] at computed
      cases objects : objects? value with
      | none => simp [objects, bind, Except.bind] at computed
      | some calls =>
          simp only [objects] at computed
          exact ⟨_, .calls present objects, refused computed⟩

theorem BaseDelta.delivers {message base : Object} (nodup : message.keys.Nodup) (computed : BaseDelta message base) :
    base.get? "refusal" = none ∧ base.keys.Nodup ∧
      (∀ key, key ≠ ("tool_calls" : Text) → key ≠ ("refusal" : Text) → base.get? key = present? message key) ∧
      match present? message "tool_calls" with
        | none => base.get? "tool_calls" = none
        | some value => ∃ calls, objects? value = some calls ∧
            base.get? "tool_calls" = some (.arr (indexedCalls 0 calls)) := by
  have plainNodup : (plainDelta message).keys.Nodup := nodup.sublist (List.filter_sublist.map Prod.fst)
  have plain (key : Text) (notCalls : key ≠ ("tool_calls" : Text)) (notRefusal : key ≠ ("refusal" : Text)) :
      Object.get? (plainDelta message) key = present? message key :=
    get?_plainDelta nodup notRefusal notCalls
  cases computed with
  | plain present =>
      rw [present]
      exact ⟨get?_plainDelta_refusal nodup, plainNodup, plain, get?_plainDelta_calls nodup⟩
  | calls present objects =>
      rw [present]
      refine ⟨?_, Object.nodup_keys_assign _ _ _ plainNodup, fun key notCalls notRefusal => ?_, _, objects,
        Object.get?_assign_self ..⟩
      · rw [Object.get?_assign_ne _ _ _ (by decide), get?_plainDelta_refusal nodup]
      · rw [Object.get?_assign_ne _ _ _ notCalls, plain key notCalls notRefusal]

theorem messageDelta_delivers {message delta : Object} (nodup : message.keys.Nodup)
    (computed : messageDelta message = .ok delta) : Delivers message delta := by
  obtain ⟨base, computed, same⟩ := messageDelta_eq_ok computed
  obtain ⟨unrefused, baseNodup, plain, calls⟩ := computed.delivers nodup
  cases present : present? message "refusal" with
  | none =>
      rw [present] at same
      subst same
      refine ⟨baseNodup, fun key notCalls => ?_, calls⟩
      by_cases refusal : key = ("refusal" : Text)
      · rw [refusal, unrefused, present]
      · exact plain key notCalls refusal
  | some refusal =>
      rw [present] at same
      subst same
      refine ⟨Object.nodup_keys_assign _ _ _ baseNodup, fun key notCalls => ?_, ?_⟩
      · by_cases same : key = ("refusal" : Text)
        · rw [same, Object.get?_assign_self, present]
        · rw [Object.get?_assign_ne _ _ _ same, plain key notCalls same]
      · rwa [Object.get?_assign_ne _ _ _ (by decide)]

/-! ## Tool calls -/

theorem pop_fresh {fields : Object} {key : Text} (fresh : key ∉ fields.keys) : fields.pop key = fields := by
  refine List.filter_eq_self.mpr fun field member => ?_
  have different : field.1 ≠ key := by
    rintro rfl
    exact fresh (List.mem_map_of_mem member)
  simpa using different

theorem keys_append_cons (fields rest : Object) (key : Text) (value : Value) :
    Object.keys (fields ++ [(key, value)]) ++ Object.keys rest =
      fields.keys ++ Object.keys ((key, value) :: rest) := by
  simp [Object.keys]

theorem foldl_assign_fresh (members fields : Object) (nodup : (fields.keys ++ members.keys).Nodup) :
    members.foldl (fun fields field => Object.assign fields field.1 field.2) fields = fields ++ members := by
  induction members generalizing fields with
  | nil => simp
  | cons member rest ih =>
      obtain ⟨key, value⟩ := member
      have fresh : key ∉ fields.keys := fun member => List.disjoint_of_nodup_append nodup member (by simp)
      rw [List.foldl_cons, assign_fresh fresh, ih _ (keys_append_cons fields rest key value ▸ nodup)]
      simp

/-- A tool call that leaves its index to the proxy. -/
structure Unindexed (call : Object) : Prop where
  nodup : call.keys.Nodup
  unindexed : call.get? "index" = none

theorem Unindexed.indexedCall {call : Object} (unindexed : Unindexed call) (index : Nat) :
    indexedCall index call = ((("index" : Text), Value.int index) :: call : Object) := by
  have fresh := get?_eq_none_iff.mp unindexed.unindexed
  rw [Streaming.indexedCall, foldl_assign_fresh]
  · rfl
  · exact List.nodup_cons.mpr ⟨fresh, unindexed.nodup⟩

theorem Unindexed.pop {call : Object} (unindexed : Unindexed call) (index : Nat) :
    Object.pop (Streaming.indexedCall index call) "index" = call := by
  have fresh := pop_fresh (get?_eq_none_iff.mp unindexed.unindexed)
  rw [unindexed.indexedCall]
  simpa [Object.pop] using fresh

/-- An index that the table does not have is added at the end. -/
theorem CallTable.merge_fresh {table : CallTable} {index : Int} (fresh : index ∉ table.map Prod.fst) (delta : Object) :
    table.merge index delta = table ++ [(index, delta)] := by
  induction table with
  | nil => rfl
  | cons entry rest ih =>
      obtain ⟨other, call⟩ := entry
      rw [List.map_cons, List.mem_cons, not_or] at fresh
      rw [CallTable.merge, if_neg (Ne.symm fresh.1), ih fresh.2]
      rfl

/-- The table of calls that are numbered from `index`. -/
def callTable (index : Nat) : List Object → CallTable
  | [] => []
  | call :: rest => ((index : Int), indexedCall index call) :: callTable (index + 1) rest

theorem accumulateCalls_indexedCalls {calls : List Object} (all : ∀ call ∈ calls, Unindexed call)
    {table : CallTable} {index : Nat} (below : ∀ entry ∈ table, entry.1 < (index : Int)) :
    accumulateCalls table (indexedCalls index calls) = some (table ++ callTable index calls) := by
  induction calls generalizing table index with
  | nil => simp [indexedCalls, accumulateCalls, callTable]
  | cons call rest ih =>
      obtain ⟨unindexed, others⟩ := List.forall_mem_cons.mp all
      have found : Object.get? (indexedCall index call) "index" = some (.int index) := by
        rw [unindexed.indexedCall]
        rfl
      have fresh : (index : Int) ∉ table.map Prod.fst := by
        intro member
        obtain ⟨entry, member, same⟩ := List.mem_map.mp member
        have bound := below entry member
        omega
      have next : ∀ entry ∈ table ++ [((index : Int), indexedCall index call)],
          entry.1 < ((index + 1 : Nat) : Int) := by
        intro entry member
        rcases List.mem_append.mp member with old | new
        · have bound := below entry old
          omega
        · rw [List.mem_singleton.mp new]
          simp only []
          omega
      rw [indexedCalls, accumulateCalls, found]
      simp only []
      rw [CallTable.merge_fresh fresh, ih others next, List.append_assoc]
      rfl

theorem callTable_pop {calls : List Object} (all : ∀ call ∈ calls, Unindexed call) (index : Nat) :
    (callTable index calls).map (fun entry => Value.obj (Object.pop entry.2 "index")) = calls.map Value.obj := by
  induction calls generalizing index with
  | nil => rfl
  | cons call rest ih =>
      obtain ⟨unindexed, others⟩ := List.forall_mem_cons.mp all
      rw [callTable, List.map_cons, ih others, unindexed.pop, List.map_cons]

/-! ## Accumulating a delta -/

theorem mergeFields_fresh {fields : Object} {key : Text} (fresh : key ∉ fields.keys) (value : Value) :
    mergeFields fields [(key, value)] = fields ++ [(key, value)] := by
  simp only [mergeFields, get?_eq_none_iff.mpr fresh, assign_fresh fresh]

theorem ChoiceState.accumulate_cons (choice : ChoiceState) {key : Text} (plain : key ≠ ("tool_calls" : Text))
    (fresh : key ∉ choice.fields.keys) (value : Value) (rest : Object) :
    choice.accumulate ((key, value) :: rest) =
      ChoiceState.accumulate { choice with fields := choice.fields ++ [(key, value)] } rest := by
  rw [← mergeFields_fresh fresh]
  cases value <;> simp [ChoiceState.accumulate, plain]

theorem ChoiceState.accumulate_plain {delta : Object} (plain : ("tool_calls" : Text) ∉ delta.keys)
    (choice : ChoiceState) (nodup : (choice.fields.keys ++ delta.keys).Nodup) :
    choice.accumulate delta = some { choice with fields := choice.fields ++ delta } := by
  induction delta generalizing choice with
  | nil => simp [ChoiceState.accumulate]
  | cons field rest ih =>
      obtain ⟨key, value⟩ := field
      rw [Object.keys_cons, List.mem_cons, not_or] at plain
      have fresh : key ∉ choice.fields.keys := fun member => List.disjoint_of_nodup_append nodup member (by simp)
      rw [ChoiceState.accumulate_cons choice (Ne.symm plain.1) fresh,
        ih plain.2 _ (keys_append_cons choice.fields rest key value ▸ nodup)]
      simp

theorem ChoiceState.accumulate_calls {delta : Object} {deltas : List Value}
    (found : delta.get? "tool_calls" = some (.arr deltas)) {choice : ChoiceState} {calls : CallTable}
    (accumulated : accumulateCalls (choice.calls.getD []) deltas = some calls)
    (nodup : (choice.fields.keys ++ delta.keys).Nodup) :
    choice.accumulate delta =
      some { choice with fields := choice.fields ++ delta.pop "tool_calls", calls := some calls } := by
  induction delta generalizing choice with
  | nil => cases found
  | cons field rest ih =>
      obtain ⟨key, value⟩ := field
      rw [Object.get?_cons] at found
      by_cases same : key = ("tool_calls" : Text)
      · subst same
        rw [if_pos rfl] at found
        cases found
        obtain ⟨absent, _⟩ := List.nodup_cons.mp (List.nodup_append.mp nodup).2.1
        have popped : Object.pop ((("tool_calls" : Text), Value.arr deltas) :: rest) "tool_calls" = rest := by
          have unchanged := pop_fresh absent
          simpa [Object.pop] using unchanged
        have others : (choice.fields.keys ++ Object.keys rest).Nodup :=
          nodup.sublist (List.Sublist.append_left (List.sublist_cons_self _ _) _)
        rw [ChoiceState.accumulate, if_pos rfl]
        simp only [accumulated]
        rw [popped]
        exact ChoiceState.accumulate_plain absent _ others
      · rw [if_neg same] at found
        have fresh : key ∉ choice.fields.keys := fun member => List.disjoint_of_nodup_append nodup member (by simp)
        have popped : Object.pop ((key, value) :: rest) "tool_calls" = (key, value) :: Object.pop rest "tool_calls" := by
          simp [Object.pop, same]
        have extended := (keys_append_cons choice.fields rest key value).symm ▸ nodup
        rw [ChoiceState.accumulate_cons choice same fresh, popped]
        have tail := @ih found { choice with fields := choice.fields ++ [(key, value)] } accumulated extended
        refine tail.trans ?_
        simp

/-- The message that a choice has accumulated, field by field. -/
def ChoiceState.Assembles (choice : ChoiceState) (message : Object) : Prop :=
  ∀ key, choice.field key = present? message key

theorem mapM_asObject? {items : List Value} {calls : List Object} (mapped : items.mapM Value.asObject? = some calls) :
    items = calls.map Value.obj := by
  induction items generalizing calls with
  | nil =>
      cases mapped
      rfl
  | cons item rest ih =>
      rw [List.mapM_cons, Option.bind_eq_bind, Option.bind_eq_some_iff] at mapped
      obtain ⟨fields, object, remaining⟩ := mapped
      obtain ⟨others, mappedRest, returned⟩ := Option.bind_eq_some_iff.mp remaining
      cases returned
      cases item <;> cases object
      rw [ih mappedRest]
      rfl

theorem objects?_eq_some {value : Value} {calls : List Object} (objects : objects? value = some calls) :
    value = .arr (calls.map Value.obj) := by
  obtain ⟨items, list, mapped⟩ := Option.bind_eq_some_iff.mp objects
  cases value <;> cases list
  rw [mapM_asObject? mapped]

/-- A delta gives a new choice the whole message. -/
theorem Delivers.accumulate {message delta : Object} (delivers : Delivers message delta)
    (unindexed : ∀ calls : List Object, present? message "tool_calls" = some (.arr (calls.map Value.obj)) →
      ∀ call ∈ calls, Unindexed call) :
    ∃ choice, ({} : ChoiceState).accumulate delta = some choice ∧ choice.Assembles message ∧
      choice.finishReason = none := by
  have nodup : (Object.keys [] ++ delta.keys).Nodup := delivers.nodup
  have calls := delivers.calls
  cases present : present? message "tool_calls" with
  | none =>
      rw [present] at calls
      refine ⟨_, ChoiceState.accumulate_plain (get?_eq_none_iff.mp calls) _ nodup, fun key => ?_, rfl⟩
      by_cases same : key = ("tool_calls" : Text)
      · subst same
        exact present.symm
      · rw [ChoiceState.field, if_neg same]
        exact delivers.plain key same
  | some value =>
      rw [present] at calls
      obtain ⟨calls, objects, found⟩ := calls
      cases objects?_eq_some objects
      have all := unindexed calls present
      have table := @accumulateCalls_indexedCalls _ all [] 0 (by simp)
      refine ⟨_, ChoiceState.accumulate_calls found table nodup, fun key => ?_, rfl⟩
      by_cases same : key = ("tool_calls" : Text)
      · subst same
        rw [ChoiceState.field, if_pos rfl, present]
        simp [callTable_pop all]
      · rw [ChoiceState.field, if_neg same, List.nil_append, Object.get?_pop_ne _ _ same]
        exact delivers.plain key same

/-! ## Deltas can be read back -/

section
variable {py : Python} {message : Object}

theorem indexedCall_clean {call : Object} (clean : call.Clean py) (index : Nat) :
    (indexedCall index call).Clean py := by
  have all := clean.values
  have start : Object.Clean py [("index", .int index)] := .mk (by simp) (by simp [Value.Clean])
  unfold indexedCall
  clear clean
  generalize ([("index", .int index)] : Object) = fields at start ⊢
  induction call generalizing fields with
  | nil => exact start
  | cons field rest ih =>
      obtain ⟨head, tail⟩ := List.forall_mem_cons.mp all
      exact ih tail _ (start.assign field.1 head)

theorem indexedCalls_clean {calls : List Object} (all : ∀ call ∈ calls, call.Clean py) (index : Nat) :
    ∀ item ∈ indexedCalls index calls, item.Clean py := by
  induction calls generalizing index with
  | nil => simp [indexedCalls]
  | cons call rest ih =>
      obtain ⟨head, tail⟩ := List.forall_mem_cons.mp all
      exact List.forall_mem_cons.mpr ⟨indexedCall_clean head index, ih tail (index + 1)⟩

theorem get?_of_present? {key : Text} {value : Value} (present : present? message key = some value) :
    message.get? key = some value := by
  rw [present?_eq] at present
  exact (Option.filter_eq_some_iff.mp present).1

theorem BaseDelta.clean (clean : message.Clean py) {base : Object} (computed : BaseDelta message base) :
    base.Clean py := by
  have plain : Object.Clean py (plainDelta message) := clean.filter _
  cases computed with
  | plain => exact plain
  | calls present objects =>
      next calls =>
      have whole := clean.get? (get?_of_present? present)
      rw [objects?_eq_some objects] at whole
      have each : ∀ call ∈ calls, Object.Clean py call := fun call member =>
        cleanItems_iff.mp whole _ (List.mem_map_of_mem member)
      have indexed : Value.Clean py (.arr (indexedCalls 0 calls)) := cleanItems_iff.mpr (indexedCalls_clean each 0)
      exact plain.assign "tool_calls" indexed

theorem messageDelta_clean (clean : message.Clean py) {delta : Object} (computed : messageDelta message = .ok delta) :
    delta.Clean py := by
  obtain ⟨base, computed, same⟩ := messageDelta_eq_ok computed
  have baseClean := computed.clean clean
  cases present : present? message "refusal" with
  | none =>
      rw [present] at same
      exact same ▸ baseClean
  | some refusal =>
      rw [present] at same
      exact same ▸ baseClean.assign _ (clean.get? (get?_of_present? present))

end

end HarnessProxy.Streaming

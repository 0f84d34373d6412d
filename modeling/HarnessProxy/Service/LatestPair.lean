import HarnessProxy.Service.Complete

namespace HarnessProxy.Service

open HarnessProxy.Json HarnessProxy.Core HarnessProxy.Transcript

/-! # Two pairings of the latest result

The projection pairs the latest result on its own and gives up where
`reconstruct` warns.  As long as it goes on, it knows every call that
`reconstruct` waits for.
-/

/-- The pending calls of the two scans after the same messages. -/
structure Follows (pending : AList (fun _ : Text => Text)) (state : ReadState) : Prop where
  covers : ∀ callId entry, state.pending.lookup callId = some entry → pending.lookup callId = some entry.1
  exact : state.warnings = [] → ∀ callId name, pending.lookup callId = some name →
    ∃ arguments, state.pending.lookup callId = some (name, arguments)

section
variable {py : Python} {pending next : AList (fun _ : Text => Text)} {state final : ReadState}

theorem warn_warnings (warning : Text) : (state.warn warning).warnings ≠ [] :=
  List.append_ne_nil_of_right_ne_nil _ (List.cons_ne_nil _ _)

theorem Follows.warn (follows : Follows pending state) (warning : Text) : Follows pending (state.warn warning) where
  covers := follows.covers
  exact none := absurd none (warn_warnings warning)

/-- A warning is never taken back. -/
theorem readCall_warnings (call : Value) (warned : state.warnings ≠ []) : (state.readCall py call).warnings ≠ [] := by
  unfold ReadState.readCall
  split
  · split
    · apply warn_warnings
    · split
      · apply warn_warnings
      · split
        · apply warn_warnings
        · exact warned
  · apply warn_warnings

theorem readCalls_warnings (calls : List Value) (warned : state.warnings ≠ []) :
    (calls.foldl (ReadState.readCall py) state).warnings ≠ [] := by
  induction calls generalizing state with
  | nil => exact warned
  | cons call rest ih => exact ih (readCall_warnings call warned)

theorem readMessage_warnings {message : Value} (read : state.readMessage py message = .ok final)
    (warned : state.warnings ≠ []) : final.warnings ≠ [] := by
  unfold ReadState.readMessage at read
  split at read
  · split at read
    · split at read <;> cases read
      · exact readCalls_warnings _ warned
      · apply warn_warnings
    · split at read
      · unfold ReadState.readResult at read
        split at read
        · split at read
          · cases read
            apply warn_warnings
          · simp only [bind_eq_ok, pure, Except.pure, Except.ok.injEq] at read
            obtain ⟨harness, _, rfl⟩ := read
            exact warned
        · cases read
          apply warn_warnings
      · cases read
        exact warned
  · cases read
    apply warn_warnings

theorem readMessages_warnings {messages : List Value} (read : state.readMessages py messages = .ok final)
    (warned : state.warnings ≠ []) : final.warnings ≠ [] := by
  induction messages generalizing state with
  | nil =>
      cases read
      exact warned
  | cons message rest ih =>
      simp only [ReadState.readMessages, bind_eq_ok] at read
      obtain ⟨next, first, others⟩ := read
      exact ih others (readMessage_warnings first warned)

/-! ## One call -/

theorem Follows.insert (follows : Follows pending state) {callId name : Text} (absent : callId ∉ pending)
    (arguments : Object) : Follows (pending.insert callId name)
      { state with pending := state.pending.insert callId (name, arguments) } where
  covers other entry found := by
    by_cases same : other = callId
    · subst same
      rw [AList.lookup_insert] at found ⊢
      cases found
      rfl
    · rw [AList.lookup_insert_ne same] at found ⊢
      exact follows.covers other entry found
  exact none other known found := by
    by_cases same : other = callId
    · subst same
      rw [AList.lookup_insert] at found ⊢
      cases found
      exact ⟨arguments, rfl⟩
    · dsimp only
      rw [AList.lookup_insert_ne same] at found ⊢
      exact follows.exact none other known found

/-- The projection also keeps a call whose arguments do not decode. -/
theorem Follows.insertUndecoded (follows : Follows pending state) {callId name warning : Text}
    (absent : callId ∉ pending) : Follows (pending.insert callId name) (state.warn warning) where
  covers other entry found := by
    have known := follows.covers other entry found
    have different : other ≠ callId := by
      rintro rfl
      rw [AList.lookup_eq_none.mpr absent] at known
      cases known
    rw [AList.lookup_insert_ne different]
    exact known
  exact none := absurd none (warn_warnings warning)

theorem Follows.absent (follows : Follows pending state) {callId : Text} (absent : callId ∉ pending) :
    callId ∉ state.pending := by
  intro waits
  obtain ⟨entry, found⟩ := Option.isSome_iff_exists.mp (AList.lookup_isSome.mpr waits)
  have known := follows.covers callId entry found
  rw [AList.lookup_eq_none.mpr absent] at known
  cases known

/-- The projection takes a call that it has no pending call for, whether or not
`reconstruct` decodes its arguments. -/
theorem Follows.readCall (follows : Follows pending state) {fields : Object} {callId name : Text}
    (head : callHead? fields = some (callId, name)) (absent : callId ∉ pending) :
    Follows (pending.insert callId name) (state.readCall py (.obj fields)) := by
  have unknown := follows.absent absent
  cases decoded : callArguments py fields with
  | none =>
      simp only [ReadState.readCall, head, if_neg unknown, decoded]
      exact follows.insertUndecoded absent
  | some arguments =>
      simp only [ReadState.readCall, head, if_neg unknown, decoded]
      exact follows.insert absent arguments

theorem Follows.readCalls (follows : Follows pending state) {calls : List Value}
    (paired : pairCalls pending calls = some next) : Follows next (calls.foldl (ReadState.readCall py) state) := by
  induction calls generalizing pending state with
  | nil =>
      cases paired
      exact follows
  | cons call rest ih =>
      simp only [pairCalls] at paired
      split at paired
      · split at paired
        · next head =>
          split at paired
          · cases paired
          · next absent => exact ih (follows.readCall head absent) paired
        · cases paired
      · cases paired

/-- Where no warning is given the projection goes on. -/
theorem Follows.pairsCalls (follows : Follows pending state) {calls : List Value}
    (clean : (calls.foldl (ReadState.readCall py) state).warnings = []) : ∃ next, pairCalls pending calls = some next := by
  induction calls generalizing pending state with
  | nil => exact ⟨pending, rfl⟩
  | cons call rest ih =>
      rw [List.foldl_cons] at clean
      have step : (state.readCall py call).warnings = [] := by
        by_contra warned
        exact readCalls_warnings rest warned clean
      have before : state.warnings = [] := by
        by_contra warned
        exact readCall_warnings call warned step
      cases call with
      | obj fields =>
          cases head : callHead? fields with
          | none =>
              simp only [ReadState.readCall, head] at step
              exact absurd step (warn_warnings _)
          | some found =>
              obtain ⟨callId, name⟩ := found
              by_cases waits : callId ∈ pending
              · obtain ⟨known, found⟩ := Option.isSome_iff_exists.mp (AList.lookup_isSome.mpr waits)
                obtain ⟨arguments, same⟩ := follows.exact before callId known found
                have member : callId ∈ state.pending := AList.lookup_isSome.mp (by rw [same]; rfl)
                simp only [ReadState.readCall, head, if_pos member] at step
                exact absurd step (warn_warnings _)
              · obtain ⟨next, paired⟩ := ih (follows.readCall head waits) clean
                exact ⟨next, by simp only [pairCalls, head, if_neg waits, paired]⟩
      | null | bool _ | int _ | float _ | str _ | arr _ => exact absurd step (warn_warnings _)

/-! ## One message -/

theorem Follows.erase (follows : Follows pending state) (callId : Text) {harness : AgentHarness}
    {latest : Option (Text × Text)} : Follows (pending.erase callId)
      { state with harness, pending := state.pending.erase callId, latest } where
  covers other entry found := by
    by_cases same : other = callId
    · subst same
      rw [AList.lookup_erase] at found
      cases found
    · rw [AList.lookup_erase_ne same] at found ⊢
      exact follows.covers other entry found
  exact none other known found := by
    by_cases same : other = callId
    · subst same
      rw [AList.lookup_erase] at found
      cases found
    · dsimp only
      rw [AList.lookup_erase_ne same] at found ⊢
      exact follows.exact none other known found

/-- A result that `reconstruct` has no call for is forgotten by the projection. -/
theorem Follows.orphan (follows : Follows pending state) {callId warning : Text} (unknown : state.pending.lookup callId = none) :
    Follows (pending.erase callId) (state.warn warning) where
  covers other entry found := by
    have different : other ≠ callId := by
      rintro rfl
      have none : state.pending.lookup other = some entry := found
      rw [unknown] at none
      cases none
    rw [AList.lookup_erase_ne different]
    exact follows.covers other entry found
  exact none := absurd none (warn_warnings warning)

theorem Follows.readMessage (follows : Follows pending state) {message : Value}
    (read : state.readMessage py message = .ok final) (paired : pairMessage pending message = some next) :
    Follows next final := by
  unfold pairMessage at paired
  unfold ReadState.readMessage at read
  split at paired
  · next fields =>
    dsimp only at read
    split at paired
    · next assistant =>
      rw [if_pos assistant] at read
      split at paired
      · next calls shape =>
        rw [shape] at read
        cases read
        exact follows.readCalls paired
      · cases paired
    · next notAssistant =>
      rw [if_neg notAssistant] at read
      split at paired
      · next tool =>
        rw [if_pos tool] at read
        split at paired
        · next callId found =>
          split at paired
          · cases paired
            unfold ReadState.readResult at read
            rw [found] at read
            dsimp only at read
            split at read
            · next unknown =>
              cases read
              exact follows.orphan unknown
            · simp only [bind_eq_ok, pure, Except.pure, Except.ok.injEq] at read
              obtain ⟨harness, _, rfl⟩ := read
              exact follows.erase callId
          · cases paired
        · cases paired
      · next notTool =>
        rw [if_neg notTool] at read
        cases read
        cases paired
        exact follows
  · cases paired

theorem pairMessage_assistant {fields : Object} {calls : List Value} (assistant : hasRole fields "assistant" = true)
    (shape : toolCalls fields = .arr calls) : pairMessage pending (.obj fields) = pairCalls pending calls := by
  simp only [pairMessage, if_pos assistant, shape]

theorem pairMessage_tool {fields : Object} {callId : Text} (notAssistant : ¬ hasRole fields "assistant" = true)
    (tool : hasRole fields "tool" = true) (found : Object.get? fields "tool_call_id" = some (.str callId))
    (waits : callId ∈ pending) : pairMessage pending (.obj fields) = some (pending.erase callId) := by
  simp only [pairMessage, if_neg notAssistant, if_pos tool, found, if_pos waits]

theorem Follows.pairsMessage (follows : Follows pending state) {message : Value}
    (read : state.readMessage py message = .ok final) (clean : final.warnings = []) :
    ∃ next, pairMessage pending message = some next := by
  unfold ReadState.readMessage at read
  split at read
  · next fields =>
    split at read
    · next assistant =>
      split at read
      · next calls shape =>
        cases read
        rw [pairMessage_assistant assistant shape]
        exact follows.pairsCalls clean
      · cases read
        exact absurd clean (warn_warnings _)
    · next notAssistant =>
      split at read
      · next tool =>
        unfold ReadState.readResult at read
        split at read
        · next callId found =>
          split at read
          · cases read
            exact absurd clean (warn_warnings _)
          · next name arguments waits =>
            have known := follows.covers callId (name, arguments) waits
            have member : callId ∈ pending := AList.lookup_isSome.mp (by rw [known]; rfl)
            exact ⟨_, pairMessage_tool notAssistant tool found member⟩
        · cases read
          exact absurd clean (warn_warnings _)
      · next notTool => exact ⟨pending, by simp only [pairMessage, if_neg notAssistant, if_neg notTool]⟩
  · cases read
    exact absurd clean (warn_warnings _)

/-! ## All messages -/

theorem Follows.readMessages (follows : Follows pending state) {messages : List Value}
    (read : state.readMessages py messages = .ok final) (paired : pairMessages pending messages = some next) :
    Follows next final := by
  induction messages generalizing pending state with
  | nil =>
      cases read
      cases paired
      exact follows
  | cons message rest ih =>
      simp only [ReadState.readMessages, bind_eq_ok] at read
      simp only [pairMessages, Option.bind_eq_some_iff] at paired
      obtain ⟨middle, first, others⟩ := read
      obtain ⟨known, pairedFirst, pairedOthers⟩ := paired
      exact ih (follows.readMessage first pairedFirst) others pairedOthers

theorem Follows.pairsMessages (follows : Follows pending state) {messages : List Value}
    (read : state.readMessages py messages = .ok final) (clean : final.warnings = []) :
    ∃ next, pairMessages pending messages = some next := by
  induction messages generalizing pending state with
  | nil => exact ⟨pending, rfl⟩
  | cons message rest ih =>
      simp only [ReadState.readMessages, bind_eq_ok] at read
      obtain ⟨middle, first, others⟩ := read
      have cleanFirst : middle.warnings = [] := by
        by_contra warned
        exact readMessages_warnings others warned clean
      obtain ⟨known, paired⟩ := follows.pairsMessage first cleanFirst
      obtain ⟨next, pairedOthers⟩ := ih (follows.readMessage first paired) others
      exact ⟨next, by rw [pairMessages, paired, Option.bind_some, pairedOthers]⟩

theorem follows_start (harness : AgentHarness) : Follows ∅ { harness } where
  covers callId entry found := by cases found
  exact _ callId name found := by cases found

end

/-! ## The latest result -/

/-- The last message is a result with a text. -/
structure LastResult (messages earlier : List Value) (final : Object) (text : Text) : Prop where
  split : messages = earlier ++ [.obj final]
  tool : hasRole final "tool" = true
  content : final.get? "content" = some (.str text)

/-- `reconstruct` consumes the last message: a call waits for it. -/
def ConsumesLast (py : Python) (start : AgentHarness) (messages : List Value) : Prop :=
  ∃ earlier final callId entry, ∃ before : ReadState, messages = earlier ++ [.obj final] ∧
    hasRole final "tool" = true ∧ final.get? "tool_call_id" = some (.str callId) ∧
    ReadState.readMessages py { harness := start } earlier = .ok before ∧ before.pending.lookup callId = some entry

section
variable {py : Python} {messages : List Value} {start : AgentHarness} {last : ReadState}

theorem latestExact_eq_some {name result : Text} :
    latestExactPairedToolResult messages = some (name, result) ↔ ∃ earlier final callId pending,
      LastResult messages earlier final result ∧ final.get? "tool_call_id" = some (.str callId) ∧
        pairMessages ∅ earlier = some pending ∧ pending.lookup callId = some name := by
  constructor
  · intro latest
    simp only [latestExactPairedToolResult] at latest
    split at latest
    · next final ends =>
      split at latest
      · next tool =>
        split at latest
        · next content found =>
          simp only [Option.bind_eq_bind, Option.bind_eq_some_iff] at latest
          obtain ⟨pending, paired, latest⟩ := latest
          split at latest
          · next callId id =>
            simp only [Option.bind_eq_some_iff, pure, Option.some.injEq, Prod.mk.injEq] at latest
            obtain ⟨called, waiting, rfl, rfl⟩ := latest
            have split : messages = messages.dropLast ++ [.obj final] :=
              (List.dropLast_append_getLast? _ ends).symm
            exact ⟨messages.dropLast, final, callId, pending, ⟨split, tool, found⟩, id, paired, waiting⟩
          · cases latest
        · cases latest
      · cases latest
    · cases latest
  · rintro ⟨earlier, final, callId, pending, ⟨rfl, tool, content⟩, id, paired, waiting⟩
    simp [latestExactPairedToolResult, tool, content, id, paired, waiting]

theorem latestExact_eq_none (other : ∀ earlier final text, ¬ LastResult messages earlier final text) :
    latestExactPairedToolResult messages = none := by
  cases latest : latestExactPairedToolResult messages with
  | none => rfl
  | some pair =>
      obtain ⟨earlier, final, callId, pending, ends, _⟩ := latestExact_eq_some.mp latest
      exact absurd ends (other _ _ _)

theorem LastResult.notAssistant {earlier : List Value} {final : Object} {text : Text}
    (ends : LastResult messages earlier final text) : ¬ hasRole final "assistant" = true := by
  have tool := ends.tool
  simp only [hasRole, decide_eq_true_eq] at tool ⊢
  rw [tool]
  decide

/-- Reading a last result that a call waits for. -/
theorem readMessage_last {before : ReadState} {earlier : List Value} {final : Object} {text callId : Text}
    {entry : Text × Object} (ends : LastResult messages earlier final text)
    (id : final.get? "tool_call_id" = some (.str callId)) (waits : before.pending.lookup callId = some entry)
    (read : before.readMessage py (.obj final) = .ok last) : last.latest = some (entry.1, text) := by
  simp only [ReadState.readMessage, if_neg ends.notAssistant, if_pos ends.tool, ReadState.readResult, id, waits,
    bind_eq_ok, pure, Except.pure, Except.ok.injEq] at read
  obtain ⟨harness, _, rfl⟩ := read
  simp [messageText, ends.content, contentText]

theorem consumed_of_clean {before : ReadState} {earlier : List Value} {final : Object} {text : Text}
    (ends : LastResult messages earlier final text) (read : before.readMessage py (.obj final) = .ok last)
    (clean : last.warnings = []) : ∃ callId entry, final.get? "tool_call_id" = some (.str callId) ∧
      before.pending.lookup callId = some entry := by
  simp only [ReadState.readMessage, if_neg ends.notAssistant, if_pos ends.tool, ReadState.readResult] at read
  split at read
  · next callId id =>
    split at read
    · cases read
      exact absurd clean (warn_warnings _)
    · next waits => exact ⟨callId, _, id, waits⟩
  · cases read
    exact absurd clean (warn_warnings _)

end

/-- The two pairings name the same latest call and result: without a warning
always, and else whenever both name one. -/
theorem latest_pairings_agree (py : Python) (messages : List Value) (availableTools : List Text) (roles : ToolRoles)
    (contract : SchemaContract) (requireReceipt : Bool) (rebuilt : Reconstruction)
    (ran : reconstruct py (.arr messages) availableTools roles contract requireReceipt = .ok rebuilt) :
    (rebuilt.degraded = false →
      ((∃ earlier final text, LastResult messages earlier final text) →
        ∃ pair, rebuilt.latest = some pair ∧ latestExactPairedToolResult messages = some pair) ∧
      ((∀ earlier final text, ¬ LastResult messages earlier final text) →
        latestExactPairedToolResult messages = none)) ∧
    ∀ pair, latestExactPairedToolResult messages = some pair →
      ConsumesLast py (freshHarness messages availableTools roles contract requireReceipt) messages →
      rebuilt.latest = some pair := by
  obtain ⟨last, read, rfl⟩ := reconstruct_eq_ok.mp ran
  generalize freshHarness messages availableTools roles contract requireReceipt = start at read ⊢
  refine ⟨fun sound => ⟨?_, latestExact_eq_none⟩, ?_⟩
  · rintro ⟨earlier, final, text, ends⟩
    have clean := (finish_degraded_eq_false.mp sound).1
    rw [ends.split, readMessages_append] at read
    obtain ⟨before, first, second⟩ := read
    simp only [ReadState.readMessages, bind_eq_ok, Except.ok.injEq] at second
    obtain ⟨_, second, rfl⟩ := second
    have cleanBefore : before.warnings = [] := by
      by_contra warned
      exact readMessage_warnings second warned clean
    obtain ⟨pending, paired⟩ := (follows_start start).pairsMessages first cleanBefore
    have follows := (follows_start start).readMessages first paired
    -- a last result without a waiting call would have been warned of
    obtain ⟨callId, entry, id, waits⟩ := consumed_of_clean ends second clean
    have known := follows.covers callId entry waits
    exact ⟨(entry.1, text), readMessage_last ends id waits second,
      latestExact_eq_some.mpr ⟨earlier, final, callId, pending, ends, id, paired, known⟩⟩
  · rintro ⟨name, result⟩ latest ⟨earlier, final, callId, entry, before, split, tool, id, first, waits⟩
    obtain ⟨others, other, otherId, pending, ends, foundId, paired, waiting⟩ := latestExact_eq_some.mp latest
    obtain ⟨rfl, sameFinal⟩ := List.append_inj' (split.symm.trans ends.split) rfl
    cases sameFinal
    cases id.symm.trans foundId
    rw [split, readMessages_append] at read
    obtain ⟨again, first', second⟩ := read
    cases first.symm.trans first'
    simp only [ReadState.readMessages, bind_eq_ok, Except.ok.injEq] at second
    obtain ⟨_, second, rfl⟩ := second
    have follows := (follows_start start).readMessages first paired
    have known := follows.covers callId entry waits
    cases known.symm.trans waiting
    exact readMessage_last ends id waits second

/-- A call and its result. -/
def answeredRead : List Value :=
  [callsMessage [functionCall "x" "read_file" "\x7b\x7d"], toolMessage "x" "text"]

theorem latest_pairings_agree_answered : ∃ rebuilt pair,
    reconstruct .reference (.arr answeredRead) ["read_file"] {} {} true = .ok rebuilt ∧
    rebuilt.degraded = false ∧ rebuilt.latest = some pair ∧ latestExactPairedToolResult answeredRead = some pair := by
  have returns : (reconstruct .reference (.arr answeredRead) ["read_file"] {} {} true).toOption.map
      (fun rebuilt => rebuilt.degraded) = some false := by decide
  cases ran : reconstruct .reference (.arr answeredRead) ["read_file"] {} {} true with
  | error e =>
      rw [ran] at returns
      cases returns
  | ok rebuilt =>
      rw [ran] at returns
      simp only [Except.toOption, Option.map_some, Option.some.injEq] at returns
      obtain ⟨pair, latest, exact⟩ := ((latest_pairings_agree .reference answeredRead ["read_file"] {} {} true rebuilt
        ran).1 returns).1 ⟨[callsMessage [functionCall "x" "read_file" "\x7b\x7d"]], _, "text", rfl, by decide, rfl⟩
      exact ⟨rebuilt, pair, rfl, returns, latest, exact⟩

end HarnessProxy.Service

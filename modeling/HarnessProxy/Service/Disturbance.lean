import HarnessProxy.Service.Budgets
import HarnessProxy.Service.SchemaContract

namespace HarnessProxy.Service

open HarnessProxy.Json HarnessProxy.Core HarnessProxy.Data HarnessProxy.Projection HarnessProxy.Transcript

/-! # Responses that no handler expects

Two things of a response can raise past `complete`: a text that the decoder of
Python gives up on otherwise than with a decoding error, and a proposed call
whose name cannot be encoded when it is signed.
-/

/-- `json.loads` raises on the text, but no `JSONDecodeError`. -/
def Unreadable (py : Python) (text : Text) : Prop := ∃ error, loads py text = .error error ∧ error ≠ .jsonDecodeError

/-- The body of a fenced content is unreadable. -/
def FencesUnreadable (py : Python) (content : Text) : Prop :=
  ∃ candidate, fencedCandidate (Text.strip content) = some candidate ∧ Unreadable py candidate

/-- A permitted call that is signed, but has a name with a surrogate. -/
def Unsignable (py : Python) (deniedTools : List Text) (harness : AgentHarness) (call : Value) : Prop :=
  ∃ fields name arguments, call = .obj fields ∧ callNameArguments py fields = some (name, arguments) ∧
    name ∉ deniedTools ∧ harness.stalls name = false ∧ Text.encodable name = false

section
variable {py : Python} {deniedTools : List Text} {harness : AgentHarness}

/-- The errors of a decoder that catches decoding errors. -/
theorem normalizeBareJson_raises_iff {content : Text} :
    (∃ error, normalizeBareJson py content = .error error) ↔ FencesUnreadable py content := by
  unfold normalizeBareJson FencesUnreadable Unreadable
  cases fencedCandidate (Text.strip content) with
  | none => simp
  | some candidate =>
      cases read : loads py candidate with
      | ok value => cases value <;> simp [read]
      | error error => cases error <;> simp [read]

/-- A fence is no JSON. -/
theorem loads_fenced {text candidate : Text} (fenced : fencedCandidate text = some candidate) :
    loads py text = .error .jsonDecodeError := by
  simp only [fencedCandidate, Option.bind_eq_bind, Option.bind_eq_some_iff] at fenced
  obtain ⟨opened, prefixed, _⟩ := fenced
  cases text with
  | nil => cases prefixed
  | cons c rest =>
      have head : c = codePoint '`' := by
        by_contra other
        have fence : Text.literal "```" = codePoint '`' :: Text.literal "``" := by decide
        rw [fence, Text.dropPrefix?, if_neg other] at prefixed
        cases prefixed
      subst head
      rfl

theorem judgeCall_raises_iff {call : Value} :
    (∃ error, judgeCall py deniedTools harness call = .error error) ↔ Unsignable py deniedTools harness call := by
  unfold judgeCall Unsignable
  constructor
  · rintro ⟨error, raises⟩
    split at raises
    · next fields =>
      split at raises
      · cases raises
      · next name arguments decoded =>
        split at raises
        · cases raises
        · next permitted =>
          split at raises
          · cases raises
          · next continues =>
            refine ⟨fields, name, arguments, rfl, decoded, permitted, by simpa using continues, ?_⟩
            cases signs : Text.encodable name with
            | false => rfl
            | true =>
                have signed := (@canonicalSignature_ok py _ arguments _).mpr ⟨signs, rfl⟩
                simp only [AgentHarness.duplicate, signed] at raises
                cases raises
    · cases raises
  · rintro ⟨fields, name, arguments, rfl, decoded, permitted, continues, unsigned⟩
    refine ⟨.unicodeEncodeError, ?_⟩
    have raises : canonicalSignature py name arguments = .error .unicodeEncodeError := by
      rw [canonicalSignature, encodable_preimage, unsigned]
      rfl
    simp only [decoded, permitted, continues, AgentHarness.duplicate, raises]
    rfl

/-- One call is enough: all are judged on one ledger. -/
theorem rejectEach_raises_iff {calls : List Value} :
    (∃ error, rejectEach py deniedTools harness calls = .error error) ↔
      ∃ call ∈ calls, Unsignable py deniedTools harness call := by
  induction calls generalizing harness with
  | nil => simp [rejectEach]
  | cons call rest ih =>
      rw [List.exists_mem_cons_iff, ← judgeCall_raises_iff]
      cases judged : judgeCall py deniedTools harness call with
      | error error => simp [rejectEach, judged, bind, Except.bind]
      | ok refusal =>
          have tail (next : AgentHarness) (same : ledger next = ledger harness) :
              (∃ error, rejectEach py deniedTools next rest = .error error) ↔
                ∃ call ∈ rest, Unsignable py deniedTools harness call := by
            rw [ih]
            refine exists_congr fun other => and_congr_right fun _ => ?_
            rw [← judgeCall_raises_iff, ← judgeCall_raises_iff, judgeCall_congr same]
          cases refusal with
          | none =>
              rw [← tail harness rfl]
              cases others : rejectEach py deniedTools harness rest <;>
                simp [rejectEach, judged, others, bind, Except.bind, pure, Except.pure]
          | some refusal =>
              rw [← tail _ (refuse_ledger refusal)]
              cases others : rejectEach py deniedTools (refuse harness refusal).2 rest <;>
                simp [rejectEach, judged, others, bind, Except.bind, pure, Except.pure]

theorem rejectedResults_raises_iff {calls : List Value} :
    (∃ error, rejectedResults py deniedTools harness calls = .error error) ↔
      ∃ call ∈ calls, Unsignable py deniedTools harness call := by
  rw [← rejectEach_raises_iff, rejectedResults]
  cases rejectEach py deniedTools harness calls <;> simp [bind, Except.bind, pure, Except.pure]

/-! ## Contents -/

/-- Only primitive types are declared. -/
def PrimitiveTypes (types : List (Text × Text)) : Prop := ∀ entry ∈ types, entry.2 ∈ primitiveTypes

theorem contract_primitive {format : Option Value} {contract : SchemaContract}
    (derived : responseSchemaContract format = .ok contract) : PrimitiveTypes contract.types := by
  simp only [responseSchemaContract] at derived
  split at derived
  · cases derived
    intro entry member
    cases member
  · simp only [bind_eq_ok] at derived
    obtain ⟨types, typed, derived⟩ := derived
    cases types with
    | none =>
        cases derived
        intro entry member
        cases member
    | some types =>
        cases derived
        intro entry member
        obtain ⟨property, _, _, _, _, _, primitive⟩ := aligned_of_mem_right (propertyTypes_eq_some_iff.mp typed) member
        exact primitive

theorem typeIssue_returns {types : List (Text × Text)} (primitive : PrimitiveTypes types) (value : Object) :
    ∃ issue, typeIssue value types = .ok issue := by
  induction types with
  | nil => exact ⟨none, rfl⟩
  | cons entry rest ih =>
      obtain ⟨key, typeName⟩ := entry
      obtain ⟨known, others⟩ := List.forall_mem_cons.mp primitive
      obtain ⟨issue, tail⟩ := ih others
      rw [typeIssue]
      cases value.get? key with
      | none => exact ⟨issue, tail⟩
      | some item =>
          have matched : ∃ conforms, matchesJsonType item typeName = .ok conforms := by
            simp only [primitiveTypes, List.mem_cons, List.not_mem_nil, or_false] at known
            rcases known with rfl | rfl | rfl | rfl <;> exact ⟨_, rfl⟩
          obtain ⟨conforms, matched⟩ := matched
          simp only [matched]
          cases conforms with
          | true => exact ⟨issue, tail⟩
          | false => exact ⟨_, rfl⟩

/-- The check of an answer raises only where its text is unreadable. -/
theorem bareJsonIssue_raises_iff {types : List (Text × Text)} (primitive : PrimitiveTypes types) {content : Text}
    {keys : Option (List Text)} :
    (∃ error, bareJsonIssue py content keys types = .error error) ↔ Unreadable py (Text.strip content) := by
  have returns (value : Object) : ∃ issue, typeIssue value types = .ok issue := typeIssue_returns primitive value
  unfold bareJsonIssue Unreadable
  dsimp only
  split
  · next empty =>
    rw [empty]
    have undecoded : loads py [] = .error .jsonDecodeError := rfl
    simp [undecoded]
  · cases read : loads py (Text.strip content) with
    | error error => cases error <;> simp
    | ok value =>
        cases value with
        | obj fields =>
            obtain ⟨issue, returned⟩ := returns fields
            cases keys with
            | none => simp [returned]
            | some keys =>
                dsimp only
                split <;> simp [returned]
        | null | bool _ | int _ | float _ | str _ | arr _ => simp

theorem terminalIssue_raises_iff (primitive : PrimitiveTypes harness.requiredJsonTypes) {content : Text} :
    (∃ error, harness.terminalIssue py content = .error error) ↔
      harness.ledgerIssue = none ∧ Unreadable py (Text.strip content) := by
  have answers {keys : List Text} := @bareJsonIssue_raises_iff py _ primitive content (some keys)
  unfold AgentHarness.terminalIssue
  cases harness.ledgerIssue with
  | some issue => simp
  | none =>
      dsimp only
      unfold Unreadable at answers ⊢
      cases read : loads py (Text.strip content) with
      | error error =>
          rw [read] at answers
          cases error with
          | jsonDecodeError =>
              cases harness.requiredJsonKeys with
              | none => simp [AgentHarness.claimIssue, bind, Except.bind, pure, Except.pure]
              | some keys => simpa [AgentHarness.claimIssue, bind, Except.bind, pure, Except.pure] using answers
          | unicodeEncodeError | valueError _ | typeError => simp [bind, Except.bind, throw, throwThe, MonadExceptOf.throw]
      | ok value =>
          rw [read] at answers
          cases claim : harness.claimIssue (some value) with
          | some issue => simp [claim, bind, Except.bind, pure, Except.pure]
          | none =>
              cases harness.requiredJsonKeys with
              | none => simp [claim, bind, Except.bind, pure, Except.pure]
              | some keys => simpa [claim, bind, Except.bind, pure, Except.pure] using answers

theorem unreadable_normalized {content text : Text} {changed : Bool}
    (normalized : normalizeBareJson py content = .ok (text, changed)) :
    Unreadable py (Text.strip text) ↔ Unreadable py (Text.strip content) := by
  cases changed with
  | false => rw [normalizeBareJson_unchanged normalized]
  | true =>
      -- the object in the fence is readable, and the fence is no JSON
      unfold normalizeBareJson at normalized
      split at normalized
      · cases normalized
      · next candidate fenced =>
        have undecoded := @loads_fenced py _ _ fenced
        split at normalized
        · cases normalized
        · cases normalized
        · next fields parsed =>
          cases normalized
          simp only [fencedCandidate, Option.bind_eq_bind, Option.bind_eq_some_iff, pure, Option.some.injEq] at fenced
          obtain ⟨_, _, inner, _, rfl⟩ := fenced
          rw [Unreadable, Unreadable, Text.strip_strip, parsed, undecoded]
          simp
        · cases normalized

/-- A content that raises: `checked` says whether its text is parsed again. -/
def RaisesOnContent (py : Python) (content : Text) (checked : Prop) : Prop :=
  FencesUnreadable py content ∨ checked ∧ Unreadable py (Text.strip content)

end

/-! ## Rounds -/

/-- The response raises past `complete` in this state of the loop. -/
def Disturbs (context : LoopContext) (state : LoopState) (response : Object) : Prop :=
  ∃ choice message, responseMessage? response = some (choice, message) ∧
    (toolCalls message = .arr [] ∧
        RaisesOnContent context.py (validatedContent message) (state.harness.ledgerIssue = none) ∨
      ∃ calls, toolCalls message = .arr calls ∧ state.phase ≠ some .finalization ∧
        ∃ call ∈ calls, Unsignable context.py context.settings.deniedTools state.harness call)

/-- The response raises past the loop without the harness. -/
def OffDisturbs (context : LoopContext) (state : OffState) (response : Object) : Prop :=
  ∃ choice message, responseMessage? response = some (choice, message) ∧ toolCalls message = .arr [] ∧
    state.phase = .finalization ∧ RaisesOnContent context.py (validatedContent message) True

/-- A run that ends with an exception of Python. -/
def Crashes {α : Type} (outcome : Except Raised α) : Prop := ∃ error, outcome = .error (.python error)

section
variable {context : LoopContext} {state : LoopState} {reply : Reply}

/-- The verdict of a round is an exception of Python. -/
def CrashVerdict (verdict : Verdict LoopState Stopped) : Prop :=
  ∃ stopped, verdict = .stop stopped ∧ Crashes stopped.outcome

theorem not_crash_raise {raised : Raised} (planned : ∀ error, raised ≠ .python error) (other : LoopState) :
    ¬ CrashVerdict (.stop (LoopContext.raise other raised)) := by
  rintro ⟨_, same, error, crashed⟩
  cases same
  cases crashed
  exact planned error rfl

theorem not_crash_correct (turn : List Value) (issue : Text) :
    ¬ CrashVerdict (context.correct state turn issue) := by
  unfold LoopContext.correct
  split
  · exact not_crash_raise (fun error same => by cases same) state
  · rintro ⟨_, same, _⟩
    cases same

theorem reactContent_crashes_iff (primitive : PrimitiveTypes state.harness.requiredJsonTypes)
    (response choice message : Object) : CrashVerdict (context.reactContent state response choice message) ↔
      RaisesOnContent context.py (validatedContent message) (state.harness.ledgerIssue = none) := by
  unfold LoopContext.reactContent RaisesOnContent
  rw [← normalizeBareJson_raises_iff]
  cases normalized : normalizeBareJson context.py (validatedContent message) with
  | error error => simp [CrashVerdict, Crashes, LoopContext.raise]
  | ok result =>
      obtain ⟨text, changed⟩ := result
      rw [← unreadable_normalized normalized, ← terminalIssue_raises_iff primitive]
      cases issue : state.harness.terminalIssue context.py text with
      | error error => simp [CrashVerdict, Crashes, LoopContext.raise, issue]
      | ok found =>
          cases found with
          | none => simp [CrashVerdict, Crashes, LoopContext.release, issue]
          | some found => simpa [issue] using not_crash_correct _ _

theorem reactCalls_crashes_iff (response message : Object) (calls : List Value) :
    CrashVerdict (context.reactCalls state response message calls) ↔ state.phase ≠ some .finalization ∧
      ∃ call ∈ calls, Unsignable context.py context.settings.deniedTools state.harness call := by
  unfold LoopContext.reactCalls
  rw [← rejectedResults_raises_iff]
  split
  · next finalizing => simpa [finalizing] using not_crash_correct _ _
  · next acquiring =>
    cases rejected : rejectedResults context.py context.settings.deniedTools state.harness calls with
    | error error => simp [CrashVerdict, Crashes, LoopContext.raise, acquiring]
    | ok judged =>
        simp only [reduceCtorEq, exists_false, and_false, iff_false]
        rintro ⟨stopped, stops, error, crashed⟩
        split at stops
        · cases stops
          cases crashed
        · split at stops
          · cases stops
            cases crashed
          · cases stops

theorem react_crashes_iff (primitive : PrimitiveTypes state.harness.requiredJsonTypes) :
    CrashVerdict (context.react state reply) ↔
      ∃ response, reply.answer = .ok response ∧ Disturbs context state response.fields := by
  unfold LoopContext.react
  cases reply.answer with
  | error error => simpa using not_crash_raise (fun error same => by cases same) state
  | ok response =>
      simp only [Except.ok.injEq, exists_eq_left']
      unfold LoopContext.reactResponse Disturbs
      cases responseMessage? response.fields with
      | none => simpa using not_crash_raise (fun error same => by cases same) _
      | some found =>
          obtain ⟨choice, message⟩ := found
          dsimp only
          simp only [Option.some.injEq, Prod.mk.injEq]
          cases batch : toolCalls message with
          | arr calls =>
              cases calls with
              | nil =>
                  have answered : PrimitiveTypes (context.answered state reply).harness.requiredJsonTypes := primitive
                  have content := @reactContent_crashes_iff context _ answered response.fields choice message
                  refine content.trans ⟨fun raises => ⟨choice, message, ⟨rfl, rfl⟩, .inl ⟨batch, raises⟩⟩, ?_⟩
                  rintro ⟨_, _, ⟨rfl, rfl⟩, ⟨_, raises⟩ | ⟨calls, same, _, call, member, _⟩⟩
                  · exact raises
                  · cases batch.symm.trans same
                    cases member
              | cons call rest =>
                  have judged := @reactCalls_crashes_iff context (context.answered state reply)
                    response.fields message (call :: rest)
                  refine judged.trans ⟨fun raises => ⟨choice, message, ⟨rfl, rfl⟩, .inr ⟨_, batch, raises⟩⟩, ?_⟩
                  rintro ⟨_, _, ⟨rfl, rfl⟩, ⟨same, _⟩ | ⟨calls, same, raises⟩⟩
                  · cases batch.symm.trans same
                  · cases batch.symm.trans same
                    exact raises
          | null | bool _ | int _ | float _ | str _ | obj _ =>
              refine ⟨fun crashes => absurd crashes (not_crash_raise (fun error same => by cases same) _), ?_⟩
              rintro ⟨_, _, ⟨rfl, rfl⟩, ⟨same, _⟩ | ⟨calls, same, _⟩⟩ <;> cases batch.symm.trans same

/-! ## Rounds without the harness -/

def OffCrashVerdict (verdict : Verdict OffState LoopContext.OffStopped) : Prop :=
  ∃ outcome, verdict = .stop outcome ∧ Crashes outcome

theorem not_offCrash_retry (state : OffState) : ¬ OffCrashVerdict (context.offRetry state) := by
  unfold LoopContext.offRetry
  split
  · rintro ⟨_, same, error, crashed⟩
    cases same
    cases crashed
  · rintro ⟨_, same, _⟩
    cases same

theorem terminalSchemaIssue_raises_iff (py : Python) (response choice message : Object) {contract : SchemaContract}
    (primitive : PrimitiveTypes contract.types) :
    (∃ error, terminalSchemaIssue py response choice message contract = .error error) ↔
      RaisesOnContent py (validatedContent message) True := by
  unfold terminalSchemaIssue RaisesOnContent
  rw [← normalizeBareJson_raises_iff]
  cases normalized : normalizeBareJson py (validatedContent message) with
  | error error => simp [bind, Except.bind]
  | ok result =>
      obtain ⟨text, changed⟩ := result
      rw [← unreadable_normalized normalized, ← @bareJsonIssue_raises_iff _ _ primitive _ contract.keys]
      cases issue : bareJsonIssue py text contract.keys contract.types <;>
        simp [issue, bind, Except.bind, pure, Except.pure]

theorem offReactContent_crashes_iff {off : OffState} (primitive : PrimitiveTypes context.prepared.contract.types)
    (response choice message : Object) : OffCrashVerdict (context.offReactContent off response choice message) ↔
      off.phase = .finalization ∧ RaisesOnContent context.py (validatedContent message) True := by
  unfold LoopContext.offReactContent
  cases off.phase with
  | acquisition => simp [OffCrashVerdict]
  | finalization =>
      rw [← terminalSchemaIssue_raises_iff context.py response choice message primitive]
      cases checked : terminalSchemaIssue context.py response choice message context.prepared.contract with
      | error error => simp [OffCrashVerdict, Crashes]
      | ok result =>
          obtain ⟨issue, response⟩ := result
          cases issue with
          | none => simp [OffCrashVerdict, Crashes, LoopContext.offResult]
          | some issue => simpa using not_offCrash_retry off

theorem offReact_crashes_iff {off : OffState} (primitive : PrimitiveTypes context.prepared.contract.types) :
    OffCrashVerdict (context.offReact off reply) ↔
      ∃ response, reply.answer = .ok response ∧ OffDisturbs context off response.fields := by
  have not_stop {raised : Raised} (planned : ∀ error, raised ≠ .python error) :
      ¬ OffCrashVerdict (.stop (.error raised)) := by
    rintro ⟨_, same, error, crashed⟩
    cases same
    cases crashed
    exact planned error rfl
  unfold LoopContext.offReact
  cases reply.answer with
  | error error => simpa using not_stop fun error same => by cases same
  | ok response =>
      simp only [Except.ok.injEq, exists_eq_left']
      unfold LoopContext.offReactResponse OffDisturbs
      cases responseMessage? response.fields with
      | none => simpa using not_stop fun error same => by cases same
      | some found =>
          obtain ⟨choice, message⟩ := found
          dsimp only
          simp only [Option.some.injEq, Prod.mk.injEq]
          cases batch : toolCalls message with
          | arr calls =>
              cases calls with
              | nil =>
                  have content := @offReactContent_crashes_iff context (context.offAnswered off reply)
                    primitive response.fields choice message
                  refine content.trans ⟨fun raises => ⟨choice, message, ⟨rfl, rfl⟩, batch, raises⟩, ?_⟩
                  rintro ⟨_, _, ⟨rfl, rfl⟩, _, raises⟩
                  exact raises
              | cons call rest =>
                  constructor
                  · dsimp only
                    split
                    · rintro ⟨_, same, error, crashed⟩
                      cases same
                      cases crashed
                    · exact fun crashes => absurd crashes (not_offCrash_retry _)
                  · rintro ⟨_, _, ⟨rfl, rfl⟩, same, _⟩
                    cases batch.symm.trans same
          | null | bool _ | int _ | float _ | str _ | obj _ =>
              refine ⟨fun crashes => absurd crashes (not_stop fun error same => by cases same), ?_⟩
              rintro ⟨_, _, ⟨rfl, rfl⟩, same, _⟩
              cases batch.symm.trans same

end

end HarnessProxy.Service

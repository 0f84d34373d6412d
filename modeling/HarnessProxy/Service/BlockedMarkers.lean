import HarnessProxy.Json.Ascii
import HarnessProxy.Service.Complete

namespace HarnessProxy.Service

open HarnessProxy.Json HarnessProxy.Core HarnessProxy.Data HarnessProxy.Projection HarnessProxy.Transcript

/-! # Synthetic results in a transcript

`_rejected_results` and `complete` write a marker into every result of a withheld
batch, and `_has_blocked_unresolved_action` looks for five markers.  The two lists
do not agree on a stall and on a denied tool.
-/

section
variable {py : Python} {deniedTools : List Text} {harness final : AgentHarness} {before after : List Value}

/-- `json.dumps` prints every receipt id of the ledger. -/
def Printed (harness : AgentHarness) : Prop :=
  ∀ receipt ∈ harness.receipts, (Text.ofNat receipt.receiptId).length ≤ maxStrDigits

/-- A message before which a scan finds nothing is the first that carries a
recognised marker. -/
def ShowsMarker (py : Python) (messages : List Value) : Prop :=
  ∃ earlier shown later, messages = earlier ++ shown :: later ∧
    (∀ message ∈ earlier, isBlockedMarker py message = .ok false) ∧ isBlockedMarker py shown = .ok true

/-- No message carries a marker, and none holds a text on which the scan
raises. -/
def Quiet (py : Python) (messages : List Value) : Prop :=
  ∀ message ∈ messages, isBlockedMarker py message = .ok false

/-- The call is answered with a result that says it was denied or stalled. -/
def DeniedOrStalled (py : Python) (deniedTools : List Text) (harness : AgentHarness) (call : Value) : Prop :=
  ∃ fields name arguments, call = .obj fields ∧ callNameArguments py fields = some (name, arguments) ∧
    (name ∈ deniedTools ∨ harness.stalls name = true)

/-- Wherever a tool message holds this text after these messages, the action
counts as blocked and nothing is projected. -/
def Recognised (py : Python) (before : List Value) (content : Text) : Prop :=
  ∀ fields after, hasRole fields "tool" = true → Object.get? fields "content" = some (.str content) →
    hasBlockedUnresolvedAction py (before ++ .obj fields :: after) = .ok true ∧
    ∀ rebuilt released,
      projectLatestIfCurrent py (before ++ .obj fields :: after) rebuilt ≠ .ok (some released)

/-! ## The scan -/

theorem hasBlocked_append (quiet : Quiet py before) :
    hasBlockedUnresolvedAction py (before ++ after) = hasBlockedUnresolvedAction py after := by
  induction before with
  | nil => rfl
  | cons message rest ih =>
      obtain ⟨first, others⟩ := List.forall_mem_cons.mp quiet
      rw [List.cons_append, hasBlockedUnresolvedAction, first]
      exact ih others

theorem hasBlocked_of_shows (shows : ShowsMarker py before) :
    hasBlockedUnresolvedAction py (before ++ after) = .ok true := by
  obtain ⟨earlier, shown, later, rfl, quiet, marked⟩ := shows
  rw [List.append_assoc, hasBlocked_append quiet, List.cons_append, hasBlockedUnresolvedAction, marked]
  rfl

/-- What a scan that succeeds has found. -/
theorem shows_of_hasBlocked {messages : List Value} (blocked : hasBlockedUnresolvedAction py messages = .ok true) :
    ShowsMarker py messages := by
  induction messages with
  | nil => cases blocked
  | cons message rest ih =>
      simp only [hasBlockedUnresolvedAction, bind_eq_ok] at blocked
      obtain ⟨marked, first, others⟩ := blocked
      cases marked with
      | true => exact ⟨[], message, rest, rfl, by simp, first⟩
      | false =>
          obtain ⟨earlier, shown, later, rfl, quiet, found⟩ := ih others
          exact ⟨message :: earlier, shown, later, rfl, List.forall_mem_cons.mpr ⟨first, quiet⟩, found⟩

/-- The first marker of a list is before a message, at it or after it. -/
theorem shows_append {message : Value} (shows : ShowsMarker py (before ++ [message])) :
    ShowsMarker py before ∨ Quiet py before ∧ isBlockedMarker py message = .ok true := by
  obtain ⟨earlier, shown, later, shape, quiet, marked⟩ := shows
  rcases List.eq_nil_or_concat later with rfl | ⟨others, last, rfl⟩
  · obtain ⟨rfl, same⟩ := List.append_inj' shape rfl
    cases same
    exact .inr ⟨quiet, marked⟩
  · rw [List.concat_eq_append, ← List.cons_append, ← List.append_assoc] at shape
    obtain ⟨rfl, _⟩ := List.append_inj' shape rfl
    exact .inl ⟨earlier, shown, others, rfl, quiet, marked⟩

/-- A blocked action rules out a projection. -/
theorem projectLatestIfCurrent_blocked {messages : List Value} {rebuilt : Reconstruction} {released : Text}
    (blocked : hasBlockedUnresolvedAction py messages = .ok true) :
    projectLatestIfCurrent py messages rebuilt ≠ .ok (some released) := by
  intro projected
  simp only [projectLatestIfCurrent] at projected
  split at projected
  · cases projected
  · next name result _ =>
    split at projected
    · cases projected
    · obtain ⟨reason, rejects⟩ : ∃ reason, ledgerRejection rebuilt.harness name rebuilt.degraded true = some reason := by
        cases degraded : rebuilt.degraded with
        | true => exact ⟨_, rfl⟩
        | false => exact ⟨_, rfl⟩
      have shadow : decideShadowCandidate py rebuilt.harness name result rebuilt.degraded true = .ok (rejected reason) := by
        rw [decideShadowCandidate, rejects]
      have decided : decideLocalProjection py rebuilt.harness name result rebuilt.degraded true = .ok (rejected reason) := by
        rw [decideLocalProjection, shadow]
        rfl
      rw [blocked] at projected
      simp only [bind, Except.bind, decided, pure, Except.pure, Except.ok.injEq] at projected
      cases projected

theorem recognised_iff_marker {content : Text} : Recognised py before content ↔
    ShowsMarker py before ∨ Quiet py before ∧
      isBlockedMarker py (.obj [("role", .str "tool"), ("content", .str content)]) = .ok true := by
  have reads {fields : Object} (tool : hasRole fields "tool" = true)
      (found : Object.get? fields "content" = some (.str content)) :
      isBlockedMarker py (.obj fields) =
        isBlockedMarker py (.obj [("role", .str "tool"), ("content", .str content)]) := by
    have plain : hasRole [("role", .str "tool"), ("content", .str content)] "tool" = true := rfl
    have held : Object.get? [("role", .str "tool"), ("content", .str content)] "content" = some (.str content) := rfl
    simp only [isBlockedMarker, tool, found, plain, held, if_true]
  constructor
  · intro recognised
    have blocked := (recognised [("role", .str "tool"), ("content", .str content)] [] rfl rfl).1
    exact shows_append (shows_of_hasBlocked blocked)
  · intro marked fields after tool found
    have blocked : hasBlockedUnresolvedAction py (before ++ .obj fields :: after) = .ok true := by
      rcases marked with shows | ⟨quiet, marker⟩
      · exact hasBlocked_of_shows shows
      · rw [hasBlocked_append quiet, hasBlockedUnresolvedAction, reads tool found, marker]
        rfl
    exact ⟨blocked, fun _ _ => projectLatestIfCurrent_blocked blocked⟩

/-! ## What the producers write -/

/-- The marker of a refusal. -/
def Refusal.marker : Refusal → Text
  | .invalidToolCall => "invalid_tool_call"
  | .invalidToolArguments => "invalid_tool_arguments"
  | .deniedByServer => "tool_denied_by_server"
  | .stalled => "investigation_stall_blocked"
  | .duplicate _ => "duplicate_call_blocked"

/-- Members with a text or a number each. -/
inductive Plain : Text × Value → Prop
  | str {key text : Text} (ascii : plain key && plain text) : Plain (key, .str text)
  | nat {key : Text} {n : Nat} (ascii : plain key) (short : (Text.ofNat n).length ≤ maxStrDigits) :
      Plain (key, .int n)

theorem ascii_of_plain {fields : Object} (members : ∀ field ∈ fields, Plain field) : (Value.obj fields).Ascii := by
  refine ascii_obj.mpr fun field member => ?_
  cases members field member with
  | str ascii =>
      rw [Bool.and_eq_true] at ascii
      exact ⟨ascii.1, ascii_str.mpr ascii.2⟩
  | nat ascii short => exact ⟨ascii, ascii_int _⟩

theorem readable_of_plain {fields : Object} (nodup : fields.keys.Nodup) (members : ∀ field ∈ fields, Plain field) :
    (Value.obj fields).Readable py := by
  refine ⟨nodup, readableFields_iff.mpr fun field member => ?_⟩
  cases members field member with
  | str ascii => trivial
  | nat ascii short => exact short

/-- A JSON object of plain members, printed as the content of a tool message. -/
theorem isBlockedMarker_dumps {fields : Object} {marker : Text} (nodup : fields.keys.Nodup)
    (members : ∀ field ∈ fields, Plain field) (found : Object.get? fields "shiftedx_harness" = some (.str marker)) :
    isBlockedMarker py (.obj [("role", .str "tool"), ("content", .str (dumps false (.obj fields)))]) =
      .ok (blockedMarkers.contains marker) := by
  have read : loads py (dumps false (.obj fields)) = .ok (.obj fields) := by
    rw [dumps_ascii false (ascii_of_plain members), loads_dumpsUnicode (readable_of_plain nodup members)]
  have role : hasRole [("role", .str "tool"), ("content", .str (dumps false (.obj fields)))] "tool" = true := rfl
  have content : Object.get? [("role", .str "tool"), ("content", .str (dumps false (.obj fields)))] "content" =
      some (.str (dumps false (.obj fields))) := rfl
  simp only [isBlockedMarker, role, if_true, content, read, found, Option.getD_some, Value.memberOf]

theorem isBlockedMarker_refuse {refusal : Refusal}
    (printed : ∀ prior, refusal = .duplicate prior → (Text.ofNat prior.receiptId).length ≤ maxStrDigits) :
    isBlockedMarker py (.obj [("role", .str "tool"), ("content", .str (refuse harness refusal).1)]) =
      .ok (blockedMarkers.contains refusal.marker) := by
  cases refusal with
  | invalidToolCall =>
      have text : (refuse harness .invalidToolCall).1 =
          dumps false (.obj [("shiftedx_harness", .str "invalid_tool_call")]) := by
        simp only [refuse]
        decide
      rw [text]
      exact isBlockedMarker_dumps (by simp) (List.forall_mem_singleton.mpr (.str (by decide))) rfl
  | invalidToolArguments =>
      have text : (refuse harness .invalidToolArguments).1 =
          dumps false (.obj [("shiftedx_harness", .str "invalid_tool_arguments")]) := by
        simp only [refuse]
        decide
      rw [text]
      exact isBlockedMarker_dumps (by simp) (List.forall_mem_singleton.mpr (.str (by decide))) rfl
  | deniedByServer =>
      refine isBlockedMarker_dumps (by decide) ?_ rfl
      simp only [List.forall_mem_cons]
      exact ⟨.str (by decide), .str (by decide), .str (by decide), .str (by decide), by simp⟩
  | stalled =>
      refine isBlockedMarker_dumps (by decide) ?_ rfl
      simp only [List.forall_mem_cons]
      exact ⟨.str (by decide), .str (by decide +kernel), by simp⟩
  | duplicate prior =>
      refine isBlockedMarker_dumps ?_ ?_ rfl
      · simp only [Object.keys, List.map]
        decide
      · simp only [List.forall_mem_cons]
        refine ⟨.str (by decide), .str (by decide), .str (by decide),
          .nat (by decide) (printed prior rfl), .str ?_, by simp⟩
        split <;> decide

theorem isBlockedMarker_withheld :
    isBlockedMarker py (.obj [("role", .str "tool"), ("content", .str withheldResult)]) = .ok true := by
  have known : blockedMarkers.contains "response_withheld_due_to_blocked_sibling" = true := by decide
  rw [withheldResult, ← known]
  refine isBlockedMarker_dumps (by decide) ?_ rfl
  simp only [List.forall_mem_cons]
  exact ⟨.str (by decide), .str (by decide), by simp⟩

/-- The refusals that the scan knows. -/
def Refusal.known : Refusal → Bool
  | .deniedByServer | .stalled => false
  | _ => true

theorem marker_known (refusal : Refusal) : blockedMarkers.contains refusal.marker = refusal.known := by
  cases refusal with
  | duplicate prior =>
      simp only [Refusal.marker, Refusal.known]
      decide
  | invalidToolCall | invalidToolArguments | deniedByServer | stalled => decide

/-! ## The results of a batch -/

/-- Each result is the text of the refusal, on the ledger of the whole batch. -/
theorem rejectEach_texts {calls : List Value} {results : List (Option Text)} {canFinalize : Bool}
    (rejects : rejectEach py deniedTools harness calls = .ok (results, canFinalize, final)) :
    List.Forall₂ (fun call result => ∃ refusal, judgeCall py deniedTools harness call = .ok refusal ∧
      result = refusal.map fun refusal => (refuse harness refusal).1) calls results := by
  induction calls generalizing harness results canFinalize with
  | nil =>
      cases rejects
      exact .nil
  | cons call rest ih =>
      simp only [rejectEach, bind_eq_ok] at rejects
      obtain ⟨refusal, judged, rejects⟩ := rejects
      cases refusal with
      | none =>
          simp only [bind_eq_ok] at rejects
          obtain ⟨⟨others, can, last⟩, tail, same⟩ := rejects
          cases same
          exact .cons ⟨none, judged, rfl⟩ (ih tail)
      | some refusal =>
          simp only [bind_eq_ok] at rejects
          obtain ⟨⟨others, can, last⟩, tail, same⟩ := rejects
          cases same
          have step : ledger (refuse harness refusal).2 = ledger harness := refuse_ledger refusal
          have text (other : Refusal) : (refuse (refuse harness refusal).2 other).1 = (refuse harness other).1 :=
            eq_of_ledger (fun harness => (refuse harness other).1) (fun _ => by cases other <;> rfl) step
          refine .cons ⟨some refusal, judged, rfl⟩ ((ih tail).imp ?_)
          rintro other result ⟨otherRefusal, decided, rfl⟩
          refine ⟨otherRefusal, (judgeCall_congr step other).symm.trans decided, ?_⟩
          cases otherRefusal with
          | none => rfl
          | some otherRefusal => exact congrArg some (text otherRefusal)

/-- The decisions of `judgeCall` that lead to an unknown marker. -/
theorem unknown_iff {call : Value} {refusal : Option Refusal} (judged : judgeCall py deniedTools harness call = .ok refusal) :
    refusal.any (fun refusal => !refusal.known) = true ↔ DeniedOrStalled py deniedTools harness call := by
  unfold judgeCall at judged
  unfold DeniedOrStalled
  split at judged
  · next fields =>
    split at judged
    · next undecoded =>
      cases judged
      simp [Refusal.known, undecoded]
    · next name arguments decoded =>
      split at judged
      · next denied =>
        cases judged
        simpa [Refusal.known, decoded] using .inl denied
      · next allowed =>
        split at judged
        · next stalled =>
          cases judged
          simpa [Refusal.known, decoded] using .inr stalled
        · next continues =>
          simp only [bind_eq_ok, pure, Except.pure, Except.ok.injEq] at judged
          obtain ⟨prior, _, rfl⟩ := judged
          cases prior <;> simp [Refusal.known, decoded, allowed, continues]
  · next other =>
    cases judged
    simp only [Option.any_some, Refusal.known, Bool.not_true, Bool.false_eq_true, false_iff]
    rintro ⟨fields, _, _, rfl, _⟩
    exact other fields rfl

theorem duplicate_printed (printed : Printed harness) {call : Value} {prior : Receipt}
    (judged : judgeCall py deniedTools harness call = .ok (some (.duplicate prior))) :
    (Text.ofNat prior.receiptId).length ≤ maxStrDigits := by
  unfold judgeCall at judged
  split at judged
  · split at judged
    · cases judged
    · split at judged
      · cases judged
      · split at judged
        · cases judged
        · simp only [bind_eq_ok, pure, Except.pure, Except.ok.injEq, Option.map_eq_some_iff, Refusal.duplicate.injEq,
            AgentHarness.duplicate] at judged
          obtain ⟨_, ⟨_, _, rfl⟩, _, found, rfl⟩ := judged
          exact printed _ (List.mem_reverse.mp (List.mem_of_find?_eq_some found))
  · cases judged

end

/-- The result of a call in a withheld batch is recognised after some messages
exactly when these already show a marker, or the scan passes them and the call
was neither denied nor stalled. -/
theorem withheld_recognised_iff {py : Python} {deniedTools : List Text} {harness final : AgentHarness} {calls : List Value}
    {results : List (Option Text)} {index : Nat} {call : Value} {result : Option Text} (before : List Value)
    (printed : Printed harness) (rejects : rejectedResults py deniedTools harness calls = .ok (results, final))
    (called : calls[index]? = some call) (answered : results[index]? = some result) :
    Recognised py before (result.getD withheldResult) ↔
      ShowsMarker py before ∨ Quiet py before ∧ ¬ DeniedOrStalled py deniedTools harness call := by
  simp only [rejectedResults, bind_eq_ok, pure, Except.pure, Except.ok.injEq, Prod.mk.injEq] at rejects
  obtain ⟨⟨results, canFinalize, last⟩, each, rfl, _⟩ := rejects
  have texts := rejectEach_texts each
  obtain ⟨refusal, judged, rfl⟩ : ∃ refusal, judgeCall py deniedTools harness call = .ok refusal ∧
      result = refusal.map fun refusal => (refuse harness refusal).1 := by
    obtain ⟨inCalls, rfl⟩ := List.getElem?_eq_some_iff.mp called
    obtain ⟨inResults, rfl⟩ := List.getElem?_eq_some_iff.mp answered
    exact texts.get inCalls inResults
  rw [recognised_iff_marker, ← unknown_iff judged]
  refine or_congr_right (and_congr_right fun _ => ?_)
  cases refusal with
  | none => simp [isBlockedMarker_withheld]
  | some refusal =>
      have short : ∀ prior, refusal = .duplicate prior → (Text.ofNat prior.receiptId).length ≤ maxStrDigits :=
        fun prior same => duplicate_printed printed (same ▸ judged)
      rw [Option.map_some, Option.getD_some, isBlockedMarker_refuse short, marker_known]
      simp

/-! ## A stall that the scan overlooks -/

/-- A failed verification with three investigations since, and a tool to edit
with. -/
def stalledHarness : AgentHarness where
  goal := "repair the build"
  availableTools := ["edit_file"]
  receipts := [⟨1, "run_tests", "run_tests:0", .failure, 0⟩]
  openFailures := AList.insert "run_tests" 1 ∅
  investigationsSinceFailedVerification := 3

def fourthCall : Object :=
  [("id", .str "r"), ("type", .str "function"),
    ("function", .obj [("name", .str "read_file"), ("arguments", .str "\x7b\x7d")])]

theorem stalledHarness_printed : Printed stalledHarness := by
  intro receipt member
  cases List.mem_singleton.mp member
  decide

theorem fourthCall_stalls : judgeCall Python.reference [] stalledHarness (.obj fourthCall) = .ok (some .stalled) := by
  have decoded : callNameArguments Python.reference fourthCall =
      some (Text.literal "read_file", []) := by decide
  have stalls : stalledHarness.stalls "read_file" = true := by decide
  simp [judgeCall, decoded, stalls]

theorem fourthCall_rejected : ∃ final, rejectedResults Python.reference [] stalledHarness [.obj fourthCall] =
    .ok ([some stalledHarness.stalledResult.1], final) := by
  simp only [rejectedResults, rejectEach, fourthCall_stalls]
  exact ⟨_, rfl⟩

/-- The result of the stalled call is not recognised at the start of a list. -/
theorem stall_unrecognised : ∃ text final,
    rejectedResults Python.reference [] stalledHarness [.obj fourthCall] = .ok ([some text], final) ∧
    hasBlockedUnresolvedAction Python.reference [.obj [("role", .str "tool"), ("content", .str text)]] = .ok false ∧
    ¬ Recognised Python.reference [] text := by
  obtain ⟨final, rejected⟩ := fourthCall_rejected
  have marker : isBlockedMarker Python.reference
      (.obj [("role", .str "tool"), ("content", .str stalledHarness.stalledResult.1)]) = .ok false := by
    have unknown : blockedMarkers.contains Refusal.stalled.marker = false := marker_known .stalled
    have short : ∀ prior, Refusal.stalled = .duplicate prior → (Text.ofNat prior.receiptId).length ≤ maxStrDigits :=
      fun _ other => by cases other
    have text : stalledHarness.stalledResult.1 = (refuse stalledHarness .stalled).1 := rfl
    rw [text, isBlockedMarker_refuse short, unknown]
  have scanned : hasBlockedUnresolvedAction Python.reference
      [.obj [("role", .str "tool"), ("content", .str stalledHarness.stalledResult.1)]] = .ok false := by
    rw [hasBlockedUnresolvedAction, marker]
    rfl
  refine ⟨_, final, rejected, scanned, fun recognised => ?_⟩
  have blocked := (recognised [("role", .str "tool"), ("content", .str stalledHarness.stalledResult.1)] [] rfl rfl).1
  rw [List.nil_append, scanned] at blocked
  cases blocked

theorem withheld_recognised_iff_stalled : ∃ text,
    Recognised Python.reference [] text ↔ ShowsMarker Python.reference [] ∨
      Quiet Python.reference [] ∧ ¬ DeniedOrStalled Python.reference [] stalledHarness (.obj fourthCall) := by
  obtain ⟨final, rejected⟩ := fourthCall_rejected
  have called : [Value.obj fourthCall][0]? = some (.obj fourthCall) := rfl
  exact ⟨_, withheld_recognised_iff [] stalledHarness_printed rejected called rfl⟩

end HarnessProxy.Service

import HarnessProxy.Transcript.Turn

namespace HarnessProxy.Transcript

open HarnessProxy.Json HarnessProxy.Core HarnessProxy.Data

/-! # Turns that leave one receipt for each call

Such a turn is read without a warning exactly when the calls have distinct
identifiers and every result can be classified.
-/

/-- The call decodes, and its signature can be computed. -/
def SignedCall (py : Python) (call : Value) : Prop :=
  ∃ name arguments signature, DecodedCall py call name arguments ∧
    canonicalSignature py name arguments = .ok signature

/-- The receipt of the call, whatever its result. -/
def ReceiptOfCall (py : Python) (call : Value) (receipt : Receipt) : Prop :=
  ∃ name arguments, DecodedCall py call name arguments ∧ receipt.tool = name ∧
    canonicalSignature py name arguments = .ok receipt.signature

/-- Classifying the text does not raise. -/
def Classified (py : Python) (text : Text) : Prop := ∃ status, receiptStatus py text = .ok status

/-- The turn is read without a warning, and each of its calls leaves a receipt. -/
structure RecordedTurn (py : Python) (state : ReadState) (turn calls : List Value) (final : ReadState) : Prop where
  read : state.readMessages py turn = .ok final
  clean : final.finish.degraded = false
  receipts : ∃ added, final.harness.receipts = state.harness.receipts ++ added ∧
    List.Forall₂ (ReceiptOfCall py) calls added

section
variable {py : Python} {state final : ReadState} {roles : ToolRoles} {harness : AgentHarness}
  {calls results : List Value}

theorem settled_iff : Settled state ↔ state.pending.entries = [] := by
  constructor
  · intro settled
    by_contra nonempty
    obtain ⟨⟨callId, body⟩, member⟩ := List.exists_mem_of_ne_nil _ nonempty
    have found := AList.mem_lookup_iff.mpr member
    rw [settled callId] at found
    cases found
  · intro empty callId
    have none : state.pending = ∅ := AList.ext empty
    rw [none]
    exact AList.lookup_empty _

/-- Recording succeeds when each call can be signed and each result classified. -/
theorem recordAll_returns {answers : List ToolResult}
    (possible : ∀ answer ∈ answers, Classified py answer.result ∧
      ∃ signature, canonicalSignature py answer.name answer.arguments = .ok signature) :
    ∃ final, recordAll py harness answers = .ok final := by
  induction answers generalizing harness with
  | nil => exact ⟨harness, rfl⟩
  | cons answer rest ih =>
      obtain ⟨⟨status, classified⟩, signature, signed⟩ := possible answer (by simp)
      obtain ⟨final, recorded⟩ :
          ∃ final, recordAll py (harness.recordReceipt answer.name signature status) rest = .ok final :=
        ih fun other member => possible other (by simp [member])
      exact ⟨final, bind_eq_ok.mpr ⟨_, record_eq_ok.mpr ⟨status, signature, classified, signed, rfl⟩, recorded⟩⟩

theorem SignedCall.decoded {call : Value} (signed : SignedCall py call) :
    ∃ name arguments, DecodedCall py call name arguments := by
  obtain ⟨name, arguments, _, decoded, _⟩ := signed
  exact ⟨name, arguments, decoded⟩

/-- The receipts of a batch that is recorded as a whole. -/
theorem FullBatch.receipts {answers : List ToolResult} {added : List Receipt}
    (full : FullBatch py calls results answers) (left : List.Forall₂ (ReceiptOf py) answers added) :
    List.Forall₂ (ReceiptOfCall py) calls added := by
  refine aligned_trans full.calls left fun call answer receipt readable left => ?_
  obtain ⟨callId, readable⟩ := readable
  exact ⟨_, _, decoded_of_readable readable, left.tool, left.signature⟩

/-- Reading a turn gives one receipt for each call and no warning exactly when
the calls have distinct identifiers and the results can be classified. -/
theorem recordedTurn_iff {message : Object} (meaning : PolicyMeaning roles state.harness)
    (clean : state.finish.degraded = false) (assistant : hasRole message "assistant" = true)
    (batch : toolCalls message = .arr calls) (signed : ∀ call ∈ calls, SignedCall py call)
    (executed : List.Forall₂ ResultOf calls results) :
    (∃ final, RecordedTurn py state (.obj message :: results) calls final) ↔
      (∃ callIds, List.Forall₂ (Identified py) calls callIds ∧ callIds.Nodup) ∧
        ∀ result ∈ results, Classified py (resultText result) := by
  obtain ⟨quiet, empty⟩ := finish_degraded_eq_false.mp clean
  have settled := settled_iff.mpr empty
  have decoded : ∀ call ∈ calls, ∃ name arguments, DecodedCall py call name arguments :=
    fun call member => (signed call member).decoded
  have sameLength := executed.length_eq
  constructor
  · rintro ⟨final, read, _, added, receipts, left⟩
    obtain ⟨recorded, _⟩ := readTurn_recorded settled assistant batch decoded executed read
    obtain ⟨_, others, otherReceipts, related⟩ := recordAll_meaning meaning recorded
    have same : added = others := List.append_cancel_left (receipts.symm.trans otherReceipts)
    subst same
    obtain ⟨callIds, identified, nodup, unseen⟩ :=
      identified_of_full (related.length_eq.trans left.length_eq.symm)
    refine ⟨⟨callIds, identified, nodup⟩, fun result member => ?_⟩
    have full := fullBatch_of_identified sameLength identified nodup unseen
    have text : resultText result ∈ (batchResults py [] calls results).map ToolResult.result :=
      full.results ▸ List.mem_map_of_mem member
    obtain ⟨answer, found, same⟩ := List.mem_map.mp text
    obtain ⟨receipt, _, of⟩ := aligned_of_mem_left related found
    exact ⟨receipt.status, same ▸ of.status⟩
  · rintro ⟨⟨callIds, identified, nodup⟩, classified⟩
    have full : FullBatch py calls results (batchResults py [] calls results) :=
      fullBatch_of_identified sameLength identified nodup (by simp)
    obtain ⟨harness, recorded⟩ : ∃ harness, recordAll py state.harness (batchResults py [] calls results) =
        .ok harness := by
      refine recordAll_returns fun answer member => ⟨?_, ?_⟩
      · obtain ⟨result, found, same⟩ := List.mem_map.mp (full.results ▸ List.mem_map_of_mem member)
        exact same ▸ classified result found
      · obtain ⟨call, found, callId, readable⟩ := mem_batchResults member
        obtain ⟨name, arguments, signature, decodedCall, signed⟩ := signed call found
        obtain ⟨rfl, rfl⟩ := decodedCall.unique (decoded_of_readable readable)
        exact ⟨signature, signed⟩
    have awaits : Awaits py (calls.foldl (ReadState.readCall py) state) [] calls := fun callId => by
      rw [readCalls_pending, settled callId]
      rfl
    obtain ⟨final, readResults, warnings⟩ := readResults_full awaits decoded executed identified nodup (by simp)
      (by rw [readCalls_harness]; exact recorded)
    have read : state.readMessages py (.obj message :: results) = .ok final := by
      simp only [ReadState.readMessages, ReadState.readMessage, assistant, if_true, batch]
      exact readResults
    obtain ⟨again, settledAfter⟩ := readTurn_recorded settled assistant batch decoded executed read
    obtain ⟨_, added, receipts, related⟩ := recordAll_meaning meaning again
    refine ⟨final, read, finish_degraded_eq_false.mpr ⟨?_, settled_iff.mp settledAfter⟩, added, receipts,
      full.receipts related⟩
    rw [warnings, readCalls_warnings identified nodup, quiet]
    intro callId _ waits
    have found := AList.lookup_isSome.mpr waits
    rw [settled callId] at found
    cases found

end

end HarnessProxy.Transcript

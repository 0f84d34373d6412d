import HarnessProxy.Core.PolicyState
import HarnessProxy.Data.Epochs

namespace HarnessProxy.Core

open HarnessProxy.Json HarnessProxy.Data

/-! # Repeated calls

The receipts of a ledger are a log with epochs: the key of an entry is a
signature, and a successful mutation ends an epoch.
-/

/-- No two receipts have the same epoch and the same signature. -/
def Unrepeated (receipts : List Receipt) : Prop :=
  (receipts.map fun receipt => (receipt.epoch, receipt.signature)).Nodup

def receiptEntry (roles : ToolRoles) (receipt : Receipt) : Entry (Except PyError Text) where
  key := .ok receipt.signature
  advances := decide (receipt.IsMutation roles)

/-- The entry of the receipt that a call leaves. -/
def resultEntry (py : Python) (roles : ToolRoles) (call : ToolResult) : Entry (Except PyError Text) where
  key := canonicalSignature py call.name call.arguments
  advances := decide (receiptStatus py call.result = .ok .success ∧ call.name ∈ roles.mutation)

section
variable {py : Python} {roles : ToolRoles} {harness final : AgentHarness} {receipts : List Receipt}

theorem ReceiptOf.entry {call : ToolResult} {receipt : Receipt} (left : ReceiptOf py call receipt) :
    resultEntry py roles call = receiptEntry roles receipt := by
  simp only [resultEntry, receiptEntry, left.signature, left.status, Entry.mk.injEq, true_and]
  simp [Receipt.IsMutation, left.tool]

theorem entries_eq {calls : List ToolResult} (left : List.Forall₂ (ReceiptOf py) calls receipts) :
    calls.map (resultEntry py roles) = receipts.map (receiptEntry roles) := by
  induction left with
  | nil => rfl
  | cons head tail ih => rw [List.map_cons, List.map_cons, head.entry, ih]

/-- The epochs that receipts carry are those of the log. -/
theorem PolicyMeaning.stamps (meaning : PolicyMeaning roles harness) :
    harness.receipts.map (fun receipt => (receipt.epoch, Except.ok receipt.signature)) =
      Entry.stamps 0 (harness.receipts.map (receiptEntry roles)) := by
  have tail (before rest : List Receipt) (split : harness.receipts = before ++ rest) :
      rest.map (fun receipt => (receipt.epoch, Except.ok receipt.signature)) =
        Entry.stamps (before.countP fun earlier => decide (earlier.IsMutation roles))
          (rest.map (receiptEntry roles)) := by
    induction rest generalizing before with
    | nil => rfl
    | cons receipt rest ih =>
        have later := ih (before ++ [receipt]) (by simp [split])
        rw [List.countP_append, List.countP_singleton] at later
        simp only [List.map_cons, Entry.stamps, later, meaning.receiptEpochs before receipt rest split]
        by_cases mutation : receipt.IsMutation roles <;> simp [receiptEntry, mutation]
  exact tail [] harness.receipts rfl

theorem PolicyMeaning.epochAfter (meaning : PolicyMeaning roles harness) :
    Entry.epochAfter 0 (harness.receipts.map (receiptEntry roles)) = harness.epoch := by
  rw [meaning.epoch, Entry.epochAfter, Nat.zero_add, List.countP_map]
  rfl

theorem PolicyMeaning.unrepeated_iff (meaning : PolicyMeaning roles harness) :
    Unrepeated harness.receipts ↔ (Entry.stamps 0 (harness.receipts.map (receiptEntry roles))).Nodup := by
  have injective : Function.Injective fun stamp : Nat × Text => (stamp.1, (Except.ok stamp.2 : Except PyError Text)) := by
    rintro ⟨_, _⟩ ⟨_, _⟩ same
    simpa using same
  rw [← meaning.stamps, Unrepeated, ← List.nodup_map_iff injective, List.map_map]
  rfl

/-- Recording calls that no receipt of the current epoch repeats keeps the
ledger free of repetitions exactly when the calls are separated. -/
theorem recordAll_unrepeated_iff {calls : List ToolResult} (meaning : PolicyMeaning roles harness)
    (unrepeated : Unrepeated harness.receipts)
    (fresh : ∀ call ∈ calls, ∀ receipt ∈ harness.receipts, receipt.epoch = harness.epoch →
      canonicalSignature py call.name call.arguments ≠ .ok receipt.signature)
    (ran : recordAll py harness calls = .ok final) :
    Unrepeated final.receipts ↔ Entry.Separated (calls.map (resultEntry py roles)) := by
  obtain ⟨finalMeaning, added, shape, left⟩ := recordAll_meaning meaning ran
  rw [finalMeaning.unrepeated_iff, shape, List.map_append, entries_eq left]
  refine Entry.nodup_stamps_append (meaning.unrepeated_iff.mp unrepeated) ?_
  rw [← meaning.stamps, meaning.epochAfter, ← entries_eq left]
  intro stamp before current entry after
  obtain ⟨receipt, member, rfl⟩ := List.mem_map.mp before
  obtain ⟨call, called, rfl⟩ := List.mem_map.mp after
  exact fresh call called receipt member current

end

end HarnessProxy.Core

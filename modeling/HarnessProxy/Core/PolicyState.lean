import HarnessProxy.Core.Harness
import HarnessProxy.Data.History
import HarnessProxy.Python.Reference

namespace HarnessProxy.Core

open HarnessProxy.Json HarnessProxy.Data

/-! # What the incremental policy state means

`record` updates five fields in one branching function.  `PolicyMeaning` says
what each of them is in terms of the receipts alone.
-/

namespace Receipt

variable (roles : ToolRoles) (receipt : Receipt)

def IsMutation : Prop := receipt.status = .success ∧ receipt.tool ∈ roles.mutation

def IsVerification : Prop := receipt.tool ∈ roles.verification

def IsFailedVerification : Prop := receipt.status = .failure ∧ receipt.tool ∈ roles.verification

def IsInvestigation : Prop := receipt.status = .success ∧ receipt.tool ∈ roles.investigation

instance : Decidable (receipt.IsMutation roles) := inferInstanceAs (Decidable (_ ∧ _))
instance : Decidable (receipt.IsVerification roles) := inferInstanceAs (Decidable (_ ∈ _))
instance : Decidable (receipt.IsFailedVerification roles) := inferInstanceAs (Decidable (_ ∧ _))
instance : Decidable (receipt.IsInvestigation roles) := inferInstanceAs (Decidable (_ ∧ _))

/-- The receipts that restart the count of investigations. -/
def RestartsCount : Prop := receipt.IsFailedVerification roles ∨ receipt.IsMutation roles

end Receipt

/-- The most recent receipt of `tool` is the failed verification `receipt`. -/
def OpenFailure (roles : ToolRoles) (receipts : List Receipt) (tool : Text) (receipt : Receipt) : Prop :=
  receipt.IsFailedVerification roles ∧
    ∃ before after, LastAt (fun other => other.tool = tool) receipts before receipt after

/-- A successful mutation has not been followed by any verification. -/
def VerificationPending (roles : ToolRoles) (receipts : List Receipt) : Prop :=
  Unfollowed (Receipt.IsMutation roles) (Receipt.IsVerification roles) receipts

structure PolicyMeaning (roles : ToolRoles) (harness : AgentHarness) : Prop where
  roles_eq : harness.roles = roles
  receiptIds : harness.receipts.map Receipt.receiptId = List.range' 1 harness.receipts.length
  epoch : harness.epoch = harness.receipts.countP fun receipt => decide (receipt.IsMutation roles)
  receiptEpochs : ∀ before receipt after, harness.receipts = before ++ receipt :: after →
    receipt.epoch = before.countP fun earlier => decide (earlier.IsMutation roles)
  openFailures : ∀ tool id, harness.openFailures.lookup tool = some id ↔
    ∃ receipt, OpenFailure roles harness.receipts tool receipt ∧ receipt.receiptId = id
  pendingVerification : harness.pendingVerification = true ↔ VerificationPending roles harness.receipts
  investigations : harness.hasOpenFailures = true → ∃ before receipt after,
    LastAt (Receipt.RestartsCount roles) harness.receipts before receipt after ∧
    harness.investigationsSinceFailedVerification =
      after.countP fun later => decide (later.IsInvestigation roles)
  lastActionBlocked : harness.lastActionBlocked = false
  forceFinalize : harness.forceFinalize = false

/-- An investigation would stall: a verification failure is open, it could be
repaired, and three investigations have succeeded since the last receipt of a
given kind. -/
structure InvestigationStall (restarts : Receipt → Prop) (roles : ToolRoles) (availableTools : List Text)
    (receipts : List Receipt) (name : Text) : Prop where
  investigates : name ∈ roles.investigation
  unresolved : ∃ tool receipt, OpenFailure roles receipts tool receipt
  repairable : ∃ tool ∈ availableTools, tool ∈ roles.mutation
  diagnosed : ∃ before restart after, LastAt restarts receipts before restart after ∧
    3 ≤ after.countP fun later => decide (later.IsInvestigation roles)

/-! ## What one call changes -/

namespace AgentHarness

variable {harness : AgentHarness} {name signature : Text} {status : ReceiptStatus}

theorem hasOpenFailures_iff :
    harness.hasOpenFailures = true ↔ ∃ tool id, harness.openFailures.lookup tool = some id := by
  simp only [hasOpenFailures, Bool.not_eq_true', List.isEmpty_eq_false_iff]
  constructor
  · intro nonempty
    obtain ⟨⟨tool, id⟩, member⟩ := List.exists_mem_of_ne_nil _ nonempty
    exact ⟨tool, id, AList.mem_lookup_iff.mpr member⟩
  · rintro ⟨tool, id, found⟩ empty
    have member := AList.mem_lookup_iff.mp found
    simp [empty] at member

theorem hasFailedVerification_iff : harness.hasFailedVerification = true ↔
    ∃ tool id, harness.openFailures.lookup tool = some id ∧ tool ∈ harness.roles.verification := by
  simp only [hasFailedVerification, List.any_eq_true, List.contains_iff_mem]
  constructor
  · rintro ⟨tool, member, verifies⟩
    obtain ⟨id, found⟩ := Option.isSome_iff_exists.mp (AList.lookup_isSome.mpr (AList.mem_keys.mpr member))
    exact ⟨tool, id, found, verifies⟩
  · rintro ⟨tool, id, found, verifies⟩
    exact ⟨tool, AList.mem_keys.mp (AList.lookup_isSome.mp (by simp [found])), verifies⟩

/-- What one receipt changes. -/
structure Recorded (before : AgentHarness) (receipt : Receipt) (after : AgentHarness) : Prop where
  roles : after.roles = before.roles
  receipts : after.receipts = before.receipts ++ [receipt]
  epoch : after.epoch = before.epoch + if receipt.IsMutation before.roles then 1 else 0
  openFailures : after.openFailures =
    if receipt.IsFailedVerification before.roles then
      before.openFailures.insert receipt.tool receipt.receiptId
    else before.openFailures.erase receipt.tool
  pendingVerification : after.pendingVerification =
    if receipt.IsMutation before.roles then true
    else if receipt.IsVerification before.roles then false else before.pendingVerification
  restarted : receipt.RestartsCount before.roles → after.investigationsSinceFailedVerification = 0
  counted : ¬ receipt.RestartsCount before.roles → after.hasFailedVerification = true →
    after.investigationsSinceFailedVerification = before.investigationsSinceFailedVerification +
      if receipt.IsInvestigation before.roles then 1 else 0
  lastActionBlocked : after.lastActionBlocked = false
  forceFinalize : after.forceFinalize = false

section
variable (receipt : Receipt)

theorem trackFailures_failed (failed : receipt.IsFailedVerification harness.roles) :
    harness.trackFailures receipt = { harness with
      openFailures := harness.openFailures.insert receipt.tool receipt.receiptId
      investigationsSinceFailedVerification := 0 } := if_pos failed

/-- Without a failed verification only the count is left open. -/
theorem trackFailures_closed (other : ¬ receipt.IsFailedVerification harness.roles) :
    ∃ count, harness.trackFailures receipt = { harness with
        openFailures := harness.openFailures.erase receipt.tool
        investigationsSinceFailedVerification := count } ∧
      ((harness.trackFailures receipt).hasFailedVerification = true →
        count = harness.investigationsSinceFailedVerification +
          if receipt.IsInvestigation harness.roles then 1 else 0) := by
  have step : harness.trackFailures receipt = _ := if_neg other
  rw [step]
  dsimp only
  split
  · next counts =>
    refine ⟨_, rfl, fun _ => ?_⟩
    rw [if_pos (show receipt.IsInvestigation harness.roles from ⟨counts.1, counts.2.1⟩)]
  · next counts =>
    refine ⟨_, rfl, fun stillOpen => ?_⟩
    rw [if_neg fun investigates : receipt.IsInvestigation harness.roles =>
      counts ⟨investigates.1, investigates.2, stillOpen⟩, Nat.add_zero]

theorem trackEpoch_mutation (mutation : receipt.IsMutation harness.roles) :
    harness.trackEpoch receipt = { harness with
      epoch := harness.epoch + 1
      pendingVerification := true
      investigationsSinceFailedVerification := 0 } := if_pos mutation

theorem trackEpoch_other (other : ¬ receipt.IsMutation harness.roles) :
    harness.trackEpoch receipt = { harness with
      pendingVerification :=
        if receipt.IsVerification harness.roles then false else harness.pendingVerification } := by
  have step : harness.trackEpoch receipt = _ := if_neg other
  rw [step]
  by_cases verifies : receipt.IsVerification harness.roles
  · rw [if_pos verifies]
    by_cases pending : harness.pendingVerification = true
    · rw [if_pos ⟨verifies, pending⟩]
    · rw [if_neg fun both => pending both.2, ← Bool.eq_false_of_not_eq_true pending]
  · rw [if_neg fun both => verifies both.1, if_neg verifies]

end

/-- The branches of `record`, once for all later proofs. -/
theorem recordReceipt_recorded (harness : AgentHarness) (name signature : Text) (status : ReceiptStatus) :
    Recorded harness (harness.nextReceipt name signature status)
      (harness.recordReceipt name signature status) := by
  unfold recordReceipt
  generalize harness.nextReceipt name signature status = receipt
  dsimp only
  generalize shape : ({ harness with
    lastActionBlocked := false
    forceFinalize := false
    receipts := harness.receipts ++ [receipt] } : AgentHarness) = recorded
  have roles : recorded.roles = harness.roles := by rw [← shape]
  by_cases failed : receipt.IsFailedVerification harness.roles
  · have other : ¬ receipt.IsMutation harness.roles := fun mutation => by
      have := failed.1.symm.trans mutation.1
      cases this
    have verifies : receipt.IsVerification harness.roles := failed.2
    have restarts : receipt.RestartsCount harness.roles := Or.inl failed
    rw [trackFailures_failed receipt (by rwa [roles]), trackEpoch_other receipt (by rwa [roles])]
    subst shape
    constructor <;> simp [failed, other, verifies, restarts]
  · obtain ⟨count, step, counted⟩ := trackFailures_closed receipt
      (show ¬ receipt.IsFailedVerification recorded.roles by rwa [roles])
    by_cases mutation : receipt.IsMutation harness.roles
    · have restarts : receipt.RestartsCount harness.roles := Or.inr mutation
      rw [step, trackEpoch_mutation receipt (by rwa [roles])]
      subst shape
      constructor <;> simp [failed, mutation, restarts]
    · have continues : ¬ receipt.RestartsCount harness.roles := fun restarts =>
        restarts.elim failed mutation
      rw [step] at counted ⊢
      rw [trackEpoch_other receipt (by rwa [roles])]
      subst shape
      constructor
      case counted => exact fun _ stillOpen => counted stillOpen
      all_goals simp [failed, mutation, continues]

end AgentHarness

/-! ## The meaning is an invariant -/

theorem openFailure_concat {roles : ToolRoles} {receipts : List Receipt} {tool : Text}
    {receipt last : Receipt} : OpenFailure roles (receipts ++ [last]) tool receipt ↔
      (receipt = last ∧ last.tool = tool ∧ last.IsFailedVerification roles) ∨
        (last.tool ≠ tool ∧ OpenFailure roles receipts tool receipt) := by
  constructor
  · rintro ⟨failed, before, after, latest⟩
    rcases lastAt_concat.mp latest with ⟨same, _, rfl, _⟩ | ⟨different, init, _, earlier⟩
    · exact Or.inl ⟨rfl, same, failed⟩
    · exact Or.inr ⟨different, failed, before, init, earlier⟩
  · rintro (⟨rfl, same, failed⟩ | ⟨different, failed, before, after, latest⟩)
    · exact ⟨failed, receipts, [], .appended same⟩
    · exact ⟨failed, before, after ++ [last], latest.concat different⟩

theorem OpenFailure.isVerification {roles : ToolRoles} {receipts : List Receipt} {tool : Text}
    {receipt : Receipt} (isOpen : OpenFailure roles receipts tool receipt) : tool ∈ roles.verification := by
  obtain ⟨failed, _, _, latest⟩ := isOpen
  exact latest.holds ▸ failed.2

section
variable {roles : ToolRoles} {before after : AgentHarness} {receipt : Receipt}

theorem PolicyMeaning.hasFailedVerification (meaning : PolicyMeaning roles before) :
    before.hasOpenFailures = true → before.hasFailedVerification = true := by
  rw [AgentHarness.hasOpenFailures_iff, AgentHarness.hasFailedVerification_iff]
  rintro ⟨tool, id, found⟩
  obtain ⟨receipt, isOpen, _⟩ := (meaning.openFailures tool id).mp found
  exact ⟨tool, id, found, by rw [meaning.roles_eq]; exact isOpen.isVerification⟩

/-- What the stall test means. -/
theorem PolicyMeaning.stalls_iff (meaning : PolicyMeaning roles before) (name : Text) :
    before.stalls name = true ↔ InvestigationStall (Receipt.RestartsCount roles) roles before.availableTools
      before.receipts name := by
  simp only [AgentHarness.stalls, AgentHarness.offers, meaning.roles_eq, Bool.and_eq_true,
    List.contains_iff_mem, List.any_eq_true, decide_eq_true_eq]
  constructor
  · rintro ⟨⟨⟨investigates, failed⟩, repairable⟩, count⟩
    obtain ⟨tool, id, found, _⟩ := AgentHarness.hasFailedVerification_iff.mp failed
    obtain ⟨receipt, isOpen, _⟩ := (meaning.openFailures tool id).mp found
    obtain ⟨earlier, restart, later, last, shape⟩ :=
      meaning.investigations (AgentHarness.hasOpenFailures_iff.mpr ⟨tool, id, found⟩)
    exact ⟨investigates, ⟨tool, receipt, isOpen⟩, repairable, earlier, restart, later, last, shape ▸ count⟩
  · rintro ⟨investigates, ⟨tool, receipt, isOpen⟩, repairable, earlier, restart, later, last, count⟩
    have found := (meaning.openFailures tool receipt.receiptId).mpr ⟨receipt, isOpen, rfl⟩
    have unresolved := AgentHarness.hasOpenFailures_iff.mpr ⟨tool, _, found⟩
    obtain ⟨_, _, _, same, shape⟩ := meaning.investigations unresolved
    obtain ⟨_, _, rfl⟩ := last.unique same
    exact ⟨⟨⟨investigates, meaning.hasFailedVerification unresolved⟩, repairable⟩, shape ▸ count⟩

theorem recorded_openFailures (meaning : PolicyMeaning roles before)
    (recorded : AgentHarness.Recorded before receipt after) (tool : Text) (id : Nat) :
    after.openFailures.lookup tool = some id ↔
      ∃ latest, OpenFailure roles after.receipts tool latest ∧ latest.receiptId = id := by
  rw [recorded.receipts, recorded.openFailures, meaning.roles_eq]
  simp only [openFailure_concat]
  by_cases failed : receipt.IsFailedVerification roles
  · rw [if_pos failed]
    by_cases same : tool = receipt.tool
    · subst same
      rw [AList.lookup_insert]
      constructor
      · intro found
        cases found
        exact ⟨receipt, Or.inl ⟨rfl, rfl, failed⟩, rfl⟩
      · rintro ⟨latest, ⟨rfl, _⟩ | ⟨different, _⟩, rfl⟩
        · rfl
        · exact absurd rfl different
    · rw [AList.lookup_insert_ne same, meaning.openFailures]
      constructor
      · rintro ⟨latest, isOpen, rfl⟩
        exact ⟨latest, Or.inr ⟨Ne.symm same, isOpen⟩, rfl⟩
      · rintro ⟨latest, ⟨_, equal, _⟩ | ⟨_, isOpen⟩, rfl⟩
        · exact absurd equal.symm same
        · exact ⟨latest, isOpen, rfl⟩
  · rw [if_neg failed]
    by_cases same : tool = receipt.tool
    · subst same
      rw [AList.lookup_erase]
      constructor
      · intro found
        cases found
      · rintro ⟨latest, ⟨_, _, isFailed⟩ | ⟨different, _⟩, _⟩
        · exact absurd isFailed failed
        · exact absurd rfl different
    · rw [AList.lookup_erase_ne same, meaning.openFailures]
      constructor
      · rintro ⟨latest, isOpen, rfl⟩
        exact ⟨latest, Or.inr ⟨Ne.symm same, isOpen⟩, rfl⟩
      · rintro ⟨latest, ⟨_, equal, _⟩ | ⟨_, isOpen⟩, rfl⟩
        · exact absurd equal.symm same
        · exact ⟨latest, isOpen, rfl⟩

theorem recorded_investigations (meaning : PolicyMeaning roles before)
    (recorded : AgentHarness.Recorded before receipt after)
    (unresolved : after.hasFailedVerification = true) : ∃ earlier restart later,
      LastAt (Receipt.RestartsCount roles) after.receipts earlier restart later ∧
      after.investigationsSinceFailedVerification =
        later.countP fun counted => decide (counted.IsInvestigation roles) := by
  rw [recorded.receipts]
  by_cases restarts : receipt.RestartsCount roles
  · refine ⟨before.receipts, receipt, [], .appended restarts, ?_⟩
    rw [recorded.restarted (by rwa [meaning.roles_eq])]
    rfl
  · -- the entry that is still open was open before, since only a failed verification opens one
    have wasOpen : before.hasOpenFailures = true := by
      rw [AgentHarness.hasOpenFailures_iff]
      obtain ⟨tool, id, found, _⟩ := AgentHarness.hasFailedVerification_iff.mp unresolved
      rw [recorded.openFailures, meaning.roles_eq, if_neg fun failed => restarts (Or.inl failed)] at found
      have different : tool ≠ receipt.tool := by
        rintro rfl
        rw [AList.lookup_erase] at found
        cases found
      exact ⟨tool, id, by rwa [AList.lookup_erase_ne different] at found⟩
    obtain ⟨earlier, restart, later, latest, count⟩ := meaning.investigations wasOpen
    refine ⟨earlier, restart, later ++ [receipt], latest.concat restarts, ?_⟩
    rw [recorded.counted (by rwa [meaning.roles_eq]) unresolved, count, meaning.roles_eq,
      List.countP_append, List.countP_singleton]
    by_cases investigates : receipt.IsInvestigation roles <;> simp [investigates]

/-- Step lemma: recording one receipt keeps the meaning of every field. -/
theorem PolicyMeaning.record (meaning : PolicyMeaning roles before)
    (recorded : AgentHarness.Recorded before receipt after)
    (receiptId : receipt.receiptId = before.receipts.length + 1) (epoch : receipt.epoch = before.epoch) :
    PolicyMeaning roles after := by
  have openFailures := recorded_openFailures meaning recorded
  have sameRoles : after.roles = roles := recorded.roles.trans meaning.roles_eq
  refine ⟨sameRoles, ?_, ?_, ?_, openFailures, ?_, ?_, recorded.lastActionBlocked,
    recorded.forceFinalize⟩
  · rw [recorded.receipts, List.map_append, meaning.receiptIds, List.length_append, List.map_singleton,
      receiptId, List.length_singleton, List.range'_1_concat, Nat.add_comm 1]
  · rw [recorded.receipts, recorded.epoch, meaning.epoch, meaning.roles_eq, List.countP_append,
      List.countP_singleton]
    by_cases mutation : receipt.IsMutation roles <;> simp [mutation]
  · intro earlier other later split
    rw [recorded.receipts] at split
    rcases append_cons_eq_concat split with ⟨_, rfl, rfl⟩ | ⟨init, _, shape⟩
    · rw [epoch, meaning.epoch]
    · exact meaning.receiptEpochs earlier other init shape
  · rw [recorded.receipts, recorded.pendingVerification, meaning.roles_eq, VerificationPending,
      unfollowed_concat]
    by_cases mutation : receipt.IsMutation roles
    · simp [mutation]
    · by_cases verifies : receipt.IsVerification roles
      · simp [mutation, verifies]
      · simp only [mutation, verifies, if_false, false_or, not_false_eq_true, true_and]
        exact meaning.pendingVerification
  · intro unresolved
    refine recorded_investigations meaning recorded ?_
    rw [AgentHarness.hasFailedVerification_iff]
    obtain ⟨tool, id, found⟩ := AgentHarness.hasOpenFailures_iff.mp unresolved
    obtain ⟨latest, isOpen, _⟩ := (openFailures tool id).mp found
    exact ⟨tool, id, found, by rw [sameRoles]; exact isOpen.isVerification⟩

theorem PolicyMeaning.recordReceipt (meaning : PolicyMeaning roles before)
    (name signature : Text) (status : ReceiptStatus) :
    PolicyMeaning roles (before.recordReceipt name signature status) :=
  meaning.record (before.recordReceipt_recorded name signature status) rfl rfl

end

/-! ## Runs -/

/-- The arguments of one `record` call. -/
structure ToolResult where
  name : Text
  arguments : Object
  result : Text

def recordAll (py : Python) : AgentHarness → List ToolResult → Except PyError AgentHarness
  | harness, [] => .ok harness
  | harness, call :: rest => do
    let recorded ← harness.record py call.name call.arguments call.result
    recordAll py recorded rest

/-- The receipt that a call leaves, apart from its number and its epoch. -/
structure ReceiptOf (py : Python) (call : ToolResult) (receipt : Receipt) : Prop where
  tool : receipt.tool = call.name
  signature : canonicalSignature py call.name call.arguments = .ok receipt.signature
  status : receiptStatus py call.result = .ok receipt.status

section
variable {py : Python} {roles : ToolRoles} {harness final : AgentHarness}

theorem record_eq_ok {name result : Text} {arguments : Object} :
    harness.record py name arguments result = .ok final ↔ ∃ status signature,
      receiptStatus py result = .ok status ∧ canonicalSignature py name arguments = .ok signature ∧
      final = harness.recordReceipt name signature status := by
  simp only [AgentHarness.record, bind_eq_ok, pure, Except.pure, Except.ok.injEq]
  constructor
  · rintro ⟨status, classified, signature, signed, rfl⟩
    exact ⟨status, signature, classified, signed, rfl⟩
  · rintro ⟨status, signature, classified, signed, rfl⟩
    exact ⟨status, classified, signature, signed, rfl⟩

theorem recordAll_append {first second : List ToolResult} :
    recordAll py harness (first ++ second) = .ok final ↔
      ∃ middle, recordAll py harness first = .ok middle ∧ recordAll py middle second = .ok final := by
  induction first generalizing harness with
  | nil => simp [recordAll]
  | cons call rest ih =>
      simp only [List.cons_append, recordAll, bind_eq_ok, ih]
      constructor
      · rintro ⟨next, recorded, middle, others, last⟩
        exact ⟨middle, ⟨next, recorded, others⟩, last⟩
      · rintro ⟨middle, ⟨next, recorded, others⟩, last⟩
        exact ⟨next, recorded, middle, others, last⟩

theorem recordAll_singleton {call : ToolResult} : recordAll py harness [call] = .ok final ↔
    harness.record py call.name call.arguments call.result = .ok final := by
  simp [recordAll, bind_eq_ok]

/-- The fresh harness with the same constructor arguments. -/
def configured (harness : AgentHarness) : AgentHarness :=
  .fresh harness.goal harness.availableTools harness.requiredJsonKeys harness.requiredJsonTypes
    harness.enforceFailedExecutionClaim harness.requireReceipt harness.roles

theorem trackFailures_configured (receipt : Receipt) :
    configured (harness.trackFailures receipt) = configured harness := by
  simp only [AgentHarness.trackFailures]
  split
  · rfl
  · split <;> rfl

theorem trackEpoch_configured (receipt : Receipt) :
    configured (harness.trackEpoch receipt) = configured harness := by
  simp only [AgentHarness.trackEpoch]
  split
  · rfl
  · split <;> rfl

/-- Recording changes no constructor argument. -/
theorem recordAll_configured {calls : List ToolResult} (ran : recordAll py harness calls = .ok final) :
    configured final = configured harness := by
  induction calls generalizing harness with
  | nil =>
      cases ran
      rfl
  | cons call rest ih =>
      simp only [recordAll, bind_eq_ok] at ran
      obtain ⟨next, recorded, ran⟩ := ran
      obtain ⟨status, signature, _, _, rfl⟩ := record_eq_ok.mp recorded
      rw [ih ran, AgentHarness.recordReceipt, trackEpoch_configured, trackFailures_configured]
      rfl

/-- The harness with the goal, the tools and the contract of another request. -/
def reconfigure (other harness : AgentHarness) : AgentHarness :=
  { harness with
    goal := other.goal
    availableTools := other.availableTools
    requiredJsonKeys := other.requiredJsonKeys
    requiredJsonTypes := other.requiredJsonTypes
    enforceFailedExecutionClaim := other.enforceFailedExecutionClaim
    requireReceipt := other.requireReceipt }

/-- Recording reads none of what differs between two requests with one set of
roles. -/
theorem record_reconfigure (other : AgentHarness) {name result : Text} {arguments : Object} :
    (reconfigure other harness).record py name arguments result =
      (harness.record py name arguments result).map (reconfigure other) := by
  have step (signature : Text) (status : ReceiptStatus) :
      (reconfigure other harness).recordReceipt name signature status =
        reconfigure other (harness.recordReceipt name signature status) := by
    have failures (before : AgentHarness) (receipt : Receipt) :
        (reconfigure other before).trackFailures receipt = reconfigure other (before.trackFailures receipt) := by
      simp only [AgentHarness.trackFailures, apply_ite (reconfigure other)]
      rfl
    have epochs (before : AgentHarness) (receipt : Receipt) :
        (reconfigure other before).trackEpoch receipt = reconfigure other (before.trackEpoch receipt) := by
      simp only [AgentHarness.trackEpoch, apply_ite (reconfigure other)]
      rfl
    rw [AgentHarness.recordReceipt, AgentHarness.recordReceipt, ← epochs, ← failures]
    rfl
  simp only [AgentHarness.record]
  cases receiptStatus py result with
  | error e => rfl
  | ok status =>
      cases canonicalSignature py name arguments with
      | error e => rfl
      | ok signature => simp [bind, Except.bind, pure, Except.pure, Except.map, step]

/-- Run lemma, by induction on the calls. -/
theorem recordAll_meaning {calls : List ToolResult} (meaning : PolicyMeaning roles harness)
    (ran : recordAll py harness calls = .ok final) : PolicyMeaning roles final ∧
      ∃ receipts, final.receipts = harness.receipts ++ receipts ∧
        List.Forall₂ (ReceiptOf py) calls receipts := by
  induction calls generalizing harness with
  | nil =>
      cases ran
      exact ⟨meaning, [], by simp, .nil⟩
  | cons call rest ih =>
      simp only [recordAll, bind_eq_ok] at ran
      obtain ⟨next, recorded, ran⟩ := ran
      obtain ⟨status, signature, classified, signed, rfl⟩ := record_eq_ok.mp recorded
      obtain ⟨finalMeaning, receipts, shape, related⟩ := ih (meaning.recordReceipt _ _ _) ran
      refine ⟨finalMeaning, harness.nextReceipt call.name signature status :: receipts, ?_,
        .cons ⟨rfl, signed, classified⟩ related⟩
      rw [shape, (harness.recordReceipt_recorded _ _ _).receipts, List.append_assoc, List.singleton_append]

theorem fresh_meaning (goal : Text) (availableTools : List Text) (requiredJsonKeys : Option (List Text))
    (requiredJsonTypes : List (Text × Text)) (enforceFailedExecutionClaim requireReceipt : Bool) :
    PolicyMeaning roles (.fresh goal availableTools requiredJsonKeys requiredJsonTypes
      enforceFailedExecutionClaim requireReceipt roles) := by
  constructor <;>
    simp [AgentHarness.fresh, AgentHarness.hasOpenFailures, VerificationPending, unfollowed_nil]
  intro tool receipt isOpen
  obtain ⟨_, _, _, latest⟩ := isOpen
  simpa using latest.split

/-- The incremental policy state equals its declarative meaning: after any
sequence of `record` calls on a fresh harness every field is the function of
the receipts that `PolicyMeaning` names, and the receipts are those of the
calls in order. -/
theorem recordAll_fresh_meaning (py : Python) (goal : Text) (availableTools : List Text)
    (requiredJsonKeys : Option (List Text)) (requiredJsonTypes : List (Text × Text))
    (enforceFailedExecutionClaim requireReceipt : Bool) (roles : ToolRoles) (calls : List ToolResult)
    (final : AgentHarness)
    (ran : recordAll py (.fresh goal availableTools requiredJsonKeys requiredJsonTypes
      enforceFailedExecutionClaim requireReceipt roles) calls = .ok final) :
    PolicyMeaning roles final ∧ List.Forall₂ (ReceiptOf py) calls final.receipts := by
  obtain ⟨meaning, receipts, shape, related⟩ := recordAll_meaning (fresh_meaning _ _ _ _ _ _) ran
  exact ⟨meaning, by rw [shape]; exact related⟩

/-- A verification fails, one file is read, the file is changed and the
verification passes. -/
def recoveryCalls : List ToolResult :=
  [⟨"run_tests", [], "1 failed"⟩, ⟨"read_file", [("path", .str "a")], "text"⟩,
    ⟨"edit_file", [("path", .str "a")], "ok"⟩, ⟨"run_tests", [], "2 passed"⟩]

theorem recordAll_fresh_meaning_recovery : ∃ final,
    recordAll .reference (.fresh "fix" ["run_tests", "read_file", "edit_file"] none [] false true {})
      recoveryCalls = .ok final ∧
    PolicyMeaning {} final ∧ List.Forall₂ (ReceiptOf .reference) recoveryCalls final.receipts := by
  cases ran : recordAll .reference (.fresh "fix" ["run_tests", "read_file", "edit_file"] none [] false
      true {}) recoveryCalls with
  | error e =>
      have returns : (recordAll .reference (.fresh "fix" ["run_tests", "read_file", "edit_file"] none []
        false true {}) recoveryCalls).isOk = true := by decide
      rw [ran] at returns
      cases returns
  | ok final => exact ⟨final, rfl, recordAll_fresh_meaning _ _ _ _ _ _ _ _ _ _ ran⟩

end

end HarnessProxy.Core

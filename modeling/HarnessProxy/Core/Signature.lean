import HarnessProxy.Core.PolicyState
import HarnessProxy.Json.Sorted

namespace HarnessProxy.Core

open HarnessProxy.Json HarnessProxy.Data

/-! # Which calls count as equal

The text that `canonical_signature` hashes tells calls apart by name and by
arguments up to the order of keys, so a duplicate is an equal call of the current
epoch as far as the truncated digest separates the calls at hand.
-/

/-- The arguments of a call that the hashed text determines. -/
def Told (arguments : Object) : Prop := (Value.obj arguments).Valid ∧ (Value.obj arguments).unpaired = true

section
variable {py : Python} {harness final : AgentHarness} {name other : Text} {arguments others : Object}

/-- The name and the arguments are separated by the last NUL. -/
theorem signaturePreimage_inj : signaturePreimage name arguments = signaturePreimage other others ↔
    name = other ∧ dumps true (.obj arguments) = dumps true (.obj others) := by
  have noMark (fields : Object) : codePoint '\x00' ∉ dumps true (.obj fields) := fun inside =>
    absurd (dumps_sorted_visible (.obj fields) _ inside).1 (by decide)
  constructor
  · exact append_cons_inj (noMark arguments) (noMark others)
  · rintro ⟨rfl, same⟩
    rw [signaturePreimage, same, signaturePreimage]

theorem signaturePreimage_same_iff (told : Told arguments) (otherTold : Told others) :
    signaturePreimage name arguments = signaturePreimage other others ↔
      name = other ∧ Same (.obj arguments) (.obj others) := by
  rw [signaturePreimage_inj, dumps_sorted_same_iff told.1 told.2 otherTold.2]

/-- A call is signed exactly when its name can be encoded. -/
theorem encodable_preimage : Text.encodable (signaturePreimage name arguments) = Text.encodable name := by
  have body : Text.encodable (codePoint '\x00' :: dumps true (.obj arguments)) = true := by
    refine List.all_eq_true.mpr fun c member => ?_
    have small : c.val < 0x80 := by
      rcases List.mem_cons.mp member with rfl | inside
      · decide
      · exact (dumps_sorted_visible _ c inside).2
    simp only [Text.isSurrogate, Bool.not_eq_true', Bool.and_eq_false_iff, decide_eq_false_iff_not]
    omega
  rw [signaturePreimage, Text.encodable, List.all_append]
  exact (congrArg (Text.encodable name && ·) body).trans (Bool.and_true _)

theorem canonicalSignature_ok {signature : Text} : canonicalSignature py name arguments = .ok signature ↔
    Text.encodable name = true ∧ signature = name ++ codePoint ':' :: (py.sha256 (signaturePreimage name arguments)).take 12 := by
  rw [canonicalSignature, encodable_preimage]
  cases Text.encodable name with
  | false => simp
  | true => simp [eq_comm]

/-- The truncated digests tell a call from the calls of a run. -/
structure Separated (py : Python) (calls : List ToolResult) (name : Text) (arguments : Object) : Prop where
  long : 12 ≤ (py.sha256 (signaturePreimage name arguments)).length
  longEach : ∀ call ∈ calls, 12 ≤ (py.sha256 (signaturePreimage call.name call.arguments)).length
  distinct : ∀ call ∈ calls, (py.sha256 (signaturePreimage call.name call.arguments)).take 12 =
    (py.sha256 (signaturePreimage name arguments)).take 12 →
      signaturePreimage call.name call.arguments = signaturePreimage name arguments

/-- Signatures of separated calls. -/
theorem Separated.signature_iff {calls : List ToolResult} (separated : Separated py calls name arguments)
    {call : ToolResult} (member : call ∈ calls) {signature own : Text}
    (signed : canonicalSignature py call.name call.arguments = .ok signature)
    (ownSigned : canonicalSignature py name arguments = .ok own) :
    signature = own ↔ signaturePreimage call.name call.arguments = signaturePreimage name arguments := by
  obtain ⟨_, rfl⟩ := canonicalSignature_ok.mp signed
  obtain ⟨_, rfl⟩ := canonicalSignature_ok.mp ownSigned
  have long := separated.long
  have longCall := separated.longEach call member
  constructor
  · intro same
    obtain ⟨_, digests⟩ := List.append_inj' same (by simp only [List.length_cons, List.length_take]; omega)
    exact separated.distinct call member (List.cons.inj digests).2
  · intro same
    have names := (signaturePreimage_inj.mp same).1
    rw [same, names]

/-- An equal call with this number was recorded in the current epoch. -/
structure EqualCall (calls : List ToolResult) (final : AgentHarness) (name : Text) (arguments : Object) (index : Nat)
    (receipt : Receipt) : Prop where
  equal : ∃ call, calls[index]? = some call ∧ call.name = name ∧ Same (.obj call.arguments) (.obj arguments)
  recorded : final.receipts[index]? = some receipt
  epoch : receipt.epoch = final.epoch

theorem find?_reverse {α : Type} {p : α → Bool} {items : List α} {item : α} :
    items.reverse.find? p = some item ↔ ∃ index : Nat, items[index]? = some item ∧ p item = true ∧
      ∀ later other, index < later → items[later]? = some other → p other = false := by
  rw [List.find?_eq_some_iff_append]
  constructor
  · rintro ⟨holds, before, after, shape, fails⟩
    have split : items = after.reverse ++ item :: before.reverse := by
      rw [← List.reverse_reverse items, shape]
      simp
    subst split
    refine ⟨after.reverse.length, by simp, holds, fun later other above found => ?_⟩
    rw [List.getElem?_append_right (by omega)] at found
    obtain ⟨rest, shift⟩ : ∃ rest, later - after.reverse.length = rest + 1 := ⟨later - after.reverse.length - 1, by omega⟩
    rw [shift, List.getElem?_cons_succ] at found
    have inside := List.mem_reverse.mp (List.mem_of_getElem? found)
    simpa using fails other inside
  · rintro ⟨index, found, holds, fails⟩
    obtain ⟨bound, rfl⟩ := List.getElem?_eq_some_iff.mp found
    refine ⟨holds, (items.drop (index + 1)).reverse, (items.take index).reverse, ?_, fun other inside => ?_⟩
    · have split : items.take index ++ items[index] :: items.drop (index + 1) = items := by
        rw [List.cons_getElem_drop_succ, List.take_append_drop]
      conv_lhs => rw [← split]
      simp
    · obtain ⟨offset, at_⟩ := List.mem_iff_getElem?.mp (List.mem_reverse.mp inside)
      rw [List.getElem?_drop] at at_
      simp [fails (index + 1 + offset) other (by omega) at_]

/-- The receipts that `duplicate` looks for. -/
theorem equalCall_iff {calls : List ToolResult} (receipts : List.Forall₂ (ReceiptOf py) calls final.receipts)
    (told : ∀ call ∈ calls, Told call.arguments) (ownTold : Told arguments) (separated : Separated py calls name arguments)
    {own : Text} (signed : canonicalSignature py name arguments = .ok own) {index : Nat} {receipt : Receipt}
    (found : final.receipts[index]? = some receipt) :
    EqualCall calls final name arguments index receipt ↔
      (decide (receipt.epoch = final.epoch) && decide (receipt.signature = own)) = true := by
  obtain ⟨bound, rfl⟩ := List.getElem?_eq_some_iff.mp found
  have inCalls : index < calls.length := receipts.length_eq ▸ bound
  have of := receipts.get inCalls bound
  simp only [List.get_eq_getElem] at of
  have member : calls[index] ∈ calls := List.getElem_mem inCalls
  have signature := separated.signature_iff member of.signature signed
  rw [signaturePreimage_same_iff (told _ member) ownTold] at signature
  rw [Bool.and_eq_true, decide_eq_true_eq, decide_eq_true_eq, signature]
  constructor
  · rintro ⟨⟨call, calledAt, named, same⟩, _, current⟩
    cases (List.getElem?_eq_getElem inCalls).symm.trans calledAt
    exact ⟨current, named, same⟩
  · rintro ⟨current, named, same⟩
    exact ⟨⟨_, List.getElem?_eq_getElem inCalls, named, same⟩, found, current⟩

end

/-- The hashed text identifies calls that are equal up to the order of keys, and
`duplicate` returns the most recent receipt of such a call in the current epoch. -/
theorem duplicate_identifies_calls (py : Python) {goal : Text} {availableTools : List Text} {keys : Option (List Text)}
    {types : List (Text × Text)} {enforce require : Bool} {roles : ToolRoles} {calls : List ToolResult}
    {final : AgentHarness} {name : Text} {arguments : Object}
    (ran : recordAll py (.fresh goal availableTools keys types enforce require roles) calls = .ok final)
    (told : ∀ call ∈ calls, Told call.arguments) (ownTold : Told arguments)
    (separated : Separated py calls name arguments) :
    (∀ first second left right, Told left → Told right →
      (signaturePreimage first left = signaturePreimage second right ↔ first = second ∧ Same (.obj left) (.obj right))) ∧
    ((∃ receipt, final.duplicate py name arguments = .ok (some receipt)) ↔
      ∃ index receipt, EqualCall calls final name arguments index receipt) ∧
    ∀ receipt, final.duplicate py name arguments = .ok (some receipt) ↔
      ∃ index, EqualCall calls final name arguments index receipt ∧
        ∀ later other, index < later → ¬ EqualCall calls final name arguments later other := by
  have receipts := (recordAll_fresh_meaning py _ _ _ _ _ _ _ _ _ ran).2
  have latest : ∀ receipt, final.duplicate py name arguments = .ok (some receipt) ↔
      ∃ index, EqualCall calls final name arguments index receipt ∧
        ∀ later other, index < later → ¬ EqualCall calls final name arguments later other := by
    intro receipt
    cases signed : canonicalSignature py name arguments with
    | error error =>
        have raised : final.duplicate py name arguments = .error error := by rw [AgentHarness.duplicate, signed]; rfl
        rw [raised]
        refine iff_of_false (by simp) ?_
        rintro ⟨index, ⟨⟨call, calledAt, rfl, _⟩, _⟩, _⟩
        -- a call of the same name was signed when it was recorded
        obtain ⟨_, _, of⟩ := aligned_of_mem_left receipts (List.mem_of_getElem? calledAt)
        have encodable := (canonicalSignature_ok.mp of.signature).1
        rw [canonicalSignature_ok.mpr ⟨encodable, rfl⟩] at signed
        cases signed
    | ok own =>
        have looked : final.duplicate py name arguments = .ok (final.receipts.reverse.find? fun receipt =>
            decide (receipt.epoch = final.epoch) && decide (receipt.signature = own)) := by
          rw [AgentHarness.duplicate, signed]
          rfl
        rw [looked, Except.ok.injEq, find?_reverse]
        refine exists_congr fun index => ?_
        constructor
        · rintro ⟨found, holds, fails⟩
          refine ⟨(equalCall_iff receipts told ownTold separated signed found).mpr holds, fun later other above equal => ?_⟩
          have again := (equalCall_iff receipts told ownTold separated signed equal.recorded).mp equal
          rw [fails later other above equal.recorded] at again
          cases again
        · rintro ⟨equal, fails⟩
          refine ⟨equal.recorded, (equalCall_iff receipts told ownTold separated signed equal.recorded).mp equal, ?_⟩
          intro later other above found
          refine Bool.eq_false_iff.mpr fun holds => fails later other above ?_
          exact (equalCall_iff receipts told ownTold separated signed found).mpr holds
  refine ⟨fun _ _ _ _ left right => signaturePreimage_same_iff left right, ?_, latest⟩
  constructor
  · rintro ⟨receipt, found⟩
    obtain ⟨index, equal, _⟩ := (latest receipt).mp found
    exact ⟨index, receipt, equal⟩
  · rintro ⟨index, receipt, equal⟩
    -- the last of the equal calls
    have bounded : ∀ index, (∃ receipt, EqualCall calls final name arguments index receipt) → index ≤ final.receipts.length := by
      rintro index ⟨receipt, equal⟩
      exact (List.getElem?_eq_some_iff.mp equal.recorded).1.le
    classical
    obtain ⟨other, lastEqual⟩ := Nat.findGreatest_spec (P := fun index => ∃ receipt, EqualCall calls final name arguments index receipt)
      (bounded index ⟨receipt, equal⟩) ⟨receipt, equal⟩
    refine ⟨other, (latest other).mpr ⟨_, lastEqual, fun later another above equal => ?_⟩⟩
    exact Nat.findGreatest_is_greatest above (bounded later ⟨another, equal⟩) ⟨another, equal⟩

/-! ## A surrogate pair in two pieces -/

/-- The text of an object whose string is a raw high surrogate and an escaped low
one. -/
def splitPairText : Text := "\x7b\"a\":\"" ++ chr 0xd83d :: "\\ude00\"\x7d"

def splitPair : Object := [("a", .str [chr 0xd83d, chr 0xde00])]

def joinedPair : Object := [("a", .str [chr 0x1f600])]

/-- Two objects that Python tells apart have one hashed text. -/
theorem split_pair_collides : loads Python.reference splitPairText = .ok (.obj splitPair) ∧
    (Value.obj splitPair).Valid ∧ (Value.obj joinedPair).Valid ∧
    signaturePreimage "read_file" splitPair = signaturePreimage "read_file" joinedPair ∧
    ¬ Same (.obj splitPair) (.obj joinedPair) := by
  refine ⟨by decide +kernel, by decide, by decide, by decide, fun same => ?_⟩
  have equal := (same_iff_canonical (by decide)).mp same
  exact absurd equal (by decide)

/-- A file that was read twice, before and after a change. -/
def rereadCalls : List ToolResult :=
  [⟨"read_file", [("path", .str "a")], "text"⟩, ⟨"edit_file", [("path", .str "a")], "ok"⟩,
    ⟨"read_file", [("path", .str "a")], "text"⟩]

theorem duplicate_identifies_calls_reread : ∃ final,
    recordAll Python.reference (.fresh "fix" ["read_file", "edit_file"] none [] false true {}) rereadCalls = .ok final ∧
    ((∃ receipt, final.duplicate Python.reference "read_file" [("path", .str "a")] = .ok (some receipt)) ↔
      ∃ index receipt, EqualCall rereadCalls final "read_file" [("path", .str "a")] index receipt) := by
  cases ran : recordAll Python.reference (.fresh "fix" ["read_file", "edit_file"] none [] false true {}) rereadCalls with
  | error error =>
      have returns : (recordAll Python.reference (.fresh "fix" ["read_file", "edit_file"] none [] false true {})
        rereadCalls).isOk = true := by decide
      rw [ran] at returns
      cases returns
  | ok final =>
      have told : ∀ call ∈ rereadCalls, Told call.arguments := by
        intro call member
        have all : rereadCalls.all (fun call => decide (Value.obj call.arguments).Valid &&
          (Value.obj call.arguments).unpaired) = true := by decide
        have both := List.all_eq_true.mp all call member
        rw [Bool.and_eq_true, decide_eq_true_eq] at both
        exact both
      have separated : Separated Python.reference rereadCalls "read_file" [("path", .str "a")] := by
        have checked : decide (12 ≤ (Python.reference.sha256 (signaturePreimage "read_file" [("path", .str "a")])).length) = true ∧
            rereadCalls.all (fun call =>
              decide (12 ≤ (Python.reference.sha256 (signaturePreimage call.name call.arguments)).length) &&
              decide ((Python.reference.sha256 (signaturePreimage call.name call.arguments)).take 12 =
                  (Python.reference.sha256 (signaturePreimage "read_file" [("path", .str "a")])).take 12 →
                signaturePreimage call.name call.arguments = signaturePreimage "read_file" [("path", .str "a")])) = true := by
          decide
        have each := List.all_eq_true.mp checked.2
        simp only [Bool.and_eq_true, decide_eq_true_eq] at each
        exact ⟨of_decide_eq_true checked.1, fun call member => (each call member).1, fun call member => (each call member).2⟩
      exact ⟨final, rfl, (duplicate_identifies_calls Python.reference ran told (by constructor <;> decide) separated).2.1⟩

end HarnessProxy.Core

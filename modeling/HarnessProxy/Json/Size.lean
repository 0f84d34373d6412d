import Mathlib.Algebra.Order.BigOperators.Group.List
import HarnessProxy.Json.Ascii

namespace HarnessProxy.Json

/-! # How long a printed value is

A bound that needs no digits: a small integer takes eight characters, any other
one what `str` is willing to print.
-/

def intRoom (i : Int) : Nat := if i.natAbs < 10000000 then 8 else maxStrDigits + 1

mutual
/-- A bound on the length of `json.dumps`. -/
def Value.room : Value → Nat
  | .null => 4
  | .bool _ => 5
  | .int i => intRoom i
  | .float f => (dumpsFloat f).length
  | .str text => (quoteUnicode text).length
  | .arr items => 2 + roomItems items
  | .obj fields => 2 + roomFields fields

def roomItems : List Value → Nat
  | [] => 0
  | item :: rest => item.room + 1 + roomItems rest

def roomFields : List (Text × Value) → Nat
  | [] => 0
  | (key, value) :: rest => (quoteUnicode key).length + value.room + 2 + roomFields rest
end

theorem intRoom_le (i : Int) : intRoom i ≤ 4301 := by
  unfold intRoom
  split <;> decide

theorem length_ofNat_le {n : Nat} (small : n < 10000000) : (Text.ofNat n).length ≤ 7 := by
  unfold Text.ofNat
  split
  · decide
  · rw [List.length_map, List.length_reverse]
    exact (Nat.digits_length_le_iff (by decide) n).mpr small

theorem length_ofInt_le {i : Int} (printable : (Text.ofNat i.natAbs).length ≤ maxStrDigits) :
    (Text.ofInt i).length ≤ intRoom i := by
  unfold Text.ofInt intRoom
  by_cases small : i.natAbs < 10000000
  · have short := length_ofNat_le small
    rw [if_pos small]
    split
    · rw [List.length_cons]
      omega
    · omega
  · rw [if_neg small]
    split
    · rw [List.length_cons]
      omega
    · omega

theorem length_join_le (separator : CodePoint) (parts : List Text) :
    (Text.join [separator] parts).length ≤ (parts.map fun part => part.length + 1).sum := by
  induction parts with
  | nil => simp [Text.join]
  | cons part rest ih =>
      cases rest with
      | nil => simp [Text.join]
      | cons next others =>
          have shape : Text.join [separator] (part :: next :: others) =
              part ++ separator :: Text.join [separator] (next :: others) := by
            simp [Text.join, List.intercalate]
          rw [shape, List.map_cons, List.sum_cons, List.length_append, List.length_cons]
          omega

theorem roomItems_eq (items : List Value) : roomItems items = (items.map fun item => item.room + 1).sum := by
  induction items with
  | nil => rfl
  | cons item rest ih => rw [roomItems, ih, List.map_cons, List.sum_cons]

theorem roomFields_eq (fields : Object) :
    roomFields fields = (fields.map fun field => (quoteUnicode field.1).length + field.2.room + 2).sum := by
  induction fields with
  | nil => rfl
  | cons field rest ih =>
      obtain ⟨key, value⟩ := field
      rw [roomFields, ih, List.map_cons, List.sum_cons]

theorem length_dumpsUnicode_le (sortKeys : Bool) {value : Value} (printable : value.printable = true) :
    (dumpsUnicode sortKeys value).length ≤ value.room := by
  induction value using Value.induction with
  | null => exact le_of_eq rfl
  | bool b => cases b <;> cases sortKeys <;> decide
  | int i => exact length_ofInt_le (by simpa [Value.printable] using printable)
  | float f => exact le_rfl
  | str text => exact le_rfl
  | arr items ih =>
      have prints := printableItems_iff.mp printable
      have joined := length_join_le (codePoint ',') (dumpsUnicodeItems sortKeys items)
      have each : ((dumpsUnicodeItems sortKeys items).map fun part => part.length + 1).sum ≤
          (items.map fun item => item.room + 1).sum := by
        rw [dumpsUnicodeItems_eq, List.map_map]
        exact List.sum_le_sum fun item member => Nat.add_le_add_right (ih item member (prints item member)) 1
      have shape : (dumpsUnicode sortKeys (.arr items)).length =
          (Text.join [codePoint ','] (dumpsUnicodeItems sortKeys items)).length + 2 := by
        rw [dumpsUnicode, List.length_cons, List.length_append]
        rfl
      rw [shape, Value.room, roomItems_eq]
      omega
  | obj fields ih =>
      have prints := printableFields_iff.mp printable
      let members := orderFields sortKeys (dumpsUnicodeFields sortKeys fields)
      have perm : members.Perm (fields.map (memberText sortKeys)) := by
        rw [← dumpsUnicodeFields_eq]
        simp only [members, orderFields]
        split
        · exact List.perm_insertionSort _ _
        · exact .refl _
      have joined := length_join_le (codePoint ',') (members.map Prod.snd)
      have ordered : ((members.map Prod.snd).map fun part => part.length + 1).sum =
          (((fields.map (memberText sortKeys)).map Prod.snd).map fun part => part.length + 1).sum :=
        ((perm.map Prod.snd).map _).sum_eq
      have each : (((fields.map (memberText sortKeys)).map Prod.snd).map fun part => part.length + 1).sum ≤
          (fields.map fun field => (quoteUnicode field.1).length + field.2.room + 2).sum := by
        rw [List.map_map, List.map_map]
        refine List.sum_le_sum fun field member => ?_
        have inner := ih field member (prints field member)
        simp only [Function.comp_apply, memberText, List.length_append, List.length_cons]
        omega
      have shape : (dumpsUnicode sortKeys (.obj fields)).length =
          (Text.join [codePoint ','] (members.map Prod.snd)).length + 2 := by
        rw [dumpsUnicode, List.length_cons, List.length_append]
        rfl
      rw [shape, Value.room, roomFields_eq]
      omega

/-- An object whose values all have room. -/
theorem room_obj_le {fields : Object} {each : Nat} (values : ∀ field ∈ fields, field.2.room ≤ each) :
    (Value.obj fields).room ≤ 2 + (fields.keys.map fun key => (quoteUnicode key).length + 2).sum + fields.length * each := by
  rw [Value.room, roomFields_eq]
  induction fields with
  | nil => simp
  | cons field rest ih =>
      obtain ⟨head, tail⟩ := List.forall_mem_cons.mp values
      have others := ih tail
      simp only [Object.keys_cons, List.map_cons, List.sum_cons, List.length_cons, Nat.add_mul, Nat.one_mul] at others ⊢
      omega

end HarnessProxy.Json

import HarnessProxy.Data.Lines
import HarnessProxy.Python.Bytes

namespace HarnessProxy

open Data

/-! # Text files

Strict UTF-8, universal newlines, and the two notions of a line.
-/

def lineFeed : CodePoint := chr 0x0a
def carriageReturn : CodePoint := chr 0x0d

/-- Where `str.splitlines` ends a line. -/
def textEnds : LineEnds CodePoint where
  isEnd c := (0x0a ≤ c.val && c.val ≤ 0x0d) || (0x1c ≤ c.val && c.val ≤ 0x1e) || c.val = 0x85 ||
    c.val = 0x2028 || c.val = 0x2029
  carriageReturn := carriageReturn
  lineFeed := lineFeed
  ends := by decide
  distinct := by decide

/-- Where `bytes.splitlines` ends a line. -/
def byteEnds : LineEnds UInt8 where
  isEnd b := b = byte 0x0a || b = byte 0x0d
  carriageReturn := byte 0x0d
  lineFeed := byte 0x0a
  ends := by decide
  distinct := by decide

/-- `bytes.decode("utf-8")`, with the error handler `surrogatepass` if asked
for.  A malformed sequence is one that is not the encoding of a character. -/
def decodeUtf8 (surrogatepass : Bool) : Nat → Bytes → Option Text
  | _, [] => some []
  | 0, _ :: _ => none
  | fuel + 1, b :: bytes => match decodeChar (b :: bytes) with
    | none => none
    | some (c, rest) =>
      if encodeChar c ++ rest = b :: bytes ∧ (surrogatepass = true ∨ Text.isSurrogate c = false)
      then (decodeUtf8 surrogatepass fuel rest).map fun text => c :: text
      else none

/-- `bytes.decode("utf-8", errors)` -/
def decodeStrict (surrogatepass : Bool) (bytes : Bytes) : Option Text := decodeUtf8 surrogatepass bytes.length bytes

/-- Reading in text mode: `\r\n` and `\r` become `\n`. -/
def universalNewlines (afterCarriage : Bool) : Text → Text
  | [] => []
  | c :: rest =>
    if c = carriageReturn then lineFeed :: universalNewlines true rest
    else if c = lineFeed ∧ afterCarriage then universalNewlines false rest
    else c :: universalNewlines false rest

/-! ## What was encoded is read back -/

theorem decodeUtf8_flatMap {surrogatepass : Bool} {text : Text}
    (scalar : ∀ c ∈ text, Text.isSurrogate c = false) {fuel : Nat}
    (enough : (text.flatMap encodeChar).length ≤ fuel) :
    decodeUtf8 surrogatepass fuel (text.flatMap encodeChar) = some text := by
  induction text generalizing fuel with
  | nil => cases fuel <;> rfl
  | cons c rest ih =>
      obtain ⟨head, tail⟩ := List.forall_mem_cons.mp scalar
      have one := encodeChar_length c
      have decoded := decodeChar_encodeChar c (rest.flatMap encodeChar)
      rw [List.flatMap_cons] at enough ⊢
      rw [List.length_append] at enough
      cases bytes : encodeChar c ++ rest.flatMap encodeChar with
      | nil =>
          have length := congrArg List.length bytes
          rw [List.length_append, List.length_nil] at length
          omega
      | cons b others =>
          cases fuel with
          | zero => omega
          | succ fuel =>
              rw [bytes] at decoded
              rw [decodeUtf8, decoded]
              dsimp only
              rw [if_pos ⟨bytes, .inr head⟩, ih tail (by omega)]
              rfl

theorem decodeStrict_flatMap (surrogatepass : Bool) {text : Text}
    (scalar : ∀ c ∈ text, Text.isSurrogate c = false) :
    decodeStrict surrogatepass (text.flatMap encodeChar) = some text :=
  decodeUtf8_flatMap scalar (Nat.le_refl _)

theorem universalNewlines_id {text : Text} (none : carriageReturn ∉ text) : universalNewlines false text = text := by
  induction text with
  | nil => rfl
  | cons c rest ih =>
      rw [List.mem_cons, not_or] at none
      have unflagged : ¬ (c = lineFeed ∧ false = true) := by simp
      rw [universalNewlines, if_neg (Ne.symm none.1), if_neg unflagged, ih none.2]

/-- Only an ASCII character has an ASCII byte, and it is the only one. -/
theorem mem_encodeChar {c : CodePoint} {b : UInt8} (member : b ∈ encodeChar c) (ascii : b.toNat < 0x80) :
    b.toNat = c.val := by
  have bound := c.isLt
  have high {value : Nat} (small : value < 0x100) (large : 0x80 ≤ value) : b ≠ byte value := by
    rintro rfl
    rw [byte_toNat value small] at ascii
    omega
  unfold encodeChar at member
  split at member
  · rw [List.mem_singleton.mp member, byte_toNat c.val (by omega)]
  · split at member
    · simp only [List.mem_cons, List.not_mem_nil, or_false] at member
      rcases member with same | same
      · exact absurd same (high (by omega) (by omega))
      · exact absurd same (high (by omega) (by omega))
    · split at member
      · simp only [List.mem_cons, List.not_mem_nil, or_false] at member
        rcases member with same | same | same
        · exact absurd same (high (by omega) (by omega))
        · exact absurd same (high (by omega) (by omega))
        · exact absurd same (high (by omega) (by omega))
      · simp only [List.mem_cons, List.not_mem_nil, or_false] at member
        rcases member with same | same | same | same
        · exact absurd same (high (by omega) (by omega))
        · exact absurd same (high (by omega) (by omega))
        · exact absurd same (high (by omega) (by omega))
        · exact absurd same (high (by omega) (by omega))

end HarnessProxy

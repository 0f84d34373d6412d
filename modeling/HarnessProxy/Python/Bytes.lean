import HarnessProxy.Python.Runtime

namespace HarnessProxy

/-! # UTF-8

`str.encode()` and its inverse on whole texts.
-/

abbrev Bytes := List UInt8

def byte (value : Nat) : UInt8 := UInt8.ofNat value

/-- The UTF-8 bytes of a character that is not a surrogate. -/
def encodeChar (c : CodePoint) : Bytes :=
  if c.val < 0x80 then [byte c.val]
  else if c.val < 0x800 then [byte (0xc0 + c.val / 0x40), byte (0x80 + c.val % 0x40)]
  else if c.val < 0x10000 then
    [byte (0xe0 + c.val / 0x1000), byte (0x80 + c.val / 0x40 % 0x40), byte (0x80 + c.val % 0x40)]
  else
    [byte (0xf0 + c.val / 0x40000), byte (0x80 + c.val / 0x1000 % 0x40), byte (0x80 + c.val / 0x40 % 0x40),
      byte (0x80 + c.val % 0x40)]

/-- `text.encode()` -/
def encode (text : Text) : Except PyError Bytes :=
  if Text.encodable text then .ok (text.flatMap encodeChar) else .error .unicodeEncodeError

/-- Read one character and leave the bytes after it. -/
def decodeChar : Bytes → Option (CodePoint × Bytes)
  | [] => none
  | a :: rest =>
    if a.toNat < 0x80 then some (chr a.toNat, rest)
    else if a.toNat < 0xe0 then match rest with
      | b :: rest => some (chr ((a.toNat - 0xc0) * 0x40 + (b.toNat - 0x80)), rest)
      | _ => none
    else if a.toNat < 0xf0 then match rest with
      | b :: c :: rest =>
        some (chr ((a.toNat - 0xe0) * 0x1000 + (b.toNat - 0x80) * 0x40 + (c.toNat - 0x80)), rest)
      | _ => none
    else match rest with
      | b :: c :: d :: rest =>
        some (chr ((a.toNat - 0xf0) * 0x40000 + (b.toNat - 0x80) * 0x1000 + (c.toNat - 0x80) * 0x40 +
          (d.toNat - 0x80)), rest)
      | _ => none

/-- Decode a stream of that many bytes at most; a malformed tail is dropped. -/
def decodeBytes : Nat → Bytes → Text
  | 0, _ => []
  | fuel + 1, bytes => match decodeChar bytes with
    | some (c, rest) => c :: decodeBytes fuel rest
    | none => []

def decode (bytes : Bytes) : Text := decodeBytes bytes.length bytes

theorem byte_toNat (value : Nat) (small : value < 0x100) : (byte value).toNat = value := by
  simp only [byte, UInt8.toNat_ofNat']
  exact Nat.mod_eq_of_lt small

theorem chr_eq {c : CodePoint} {value : Nat} (same : value = c.val) : chr value = c := by
  subst same
  exact Fin.ofNat_val_eq_self c

/-- A character is read back from its bytes. -/
theorem decodeChar_encodeChar (c : CodePoint) (rest : Bytes) :
    decodeChar (encodeChar c ++ rest) = some (c, rest) := by
  have bound := c.isLt
  unfold encodeChar
  split
  · next one =>
    have value := byte_toNat c.val (by omega)
    simp [decodeChar, value, one, chr_eq rfl]
  · split
    · next two =>
      have first := byte_toNat (0xc0 + c.val / 0x40) (by omega)
      have second := byte_toNat (0x80 + c.val % 0x40) (by omega)
      have high : ¬ 0xc0 + c.val / 0x40 < 0x80 := by omega
      have low : 0xc0 + c.val / 0x40 < 0xe0 := by omega
      simp only [decodeChar, List.cons_append, List.nil_append, first, second, if_neg high, if_pos low]
      rw [chr_eq (c := c) (by omega)]
    · split
      · next three =>
        have first := byte_toNat (0xe0 + c.val / 0x1000) (by omega)
        have second := byte_toNat (0x80 + c.val / 0x40 % 0x40) (by omega)
        have third := byte_toNat (0x80 + c.val % 0x40) (by omega)
        have high : ¬ 0xe0 + c.val / 0x1000 < 0x80 := by omega
        have higher : ¬ 0xe0 + c.val / 0x1000 < 0xe0 := by omega
        have low : 0xe0 + c.val / 0x1000 < 0xf0 := by omega
        simp only [decodeChar, List.cons_append, List.nil_append, first, second, third, if_neg high, if_neg higher,
          if_pos low]
        rw [chr_eq (c := c) (by omega)]
      · have first := byte_toNat (0xf0 + c.val / 0x40000) (by omega)
        have second := byte_toNat (0x80 + c.val / 0x1000 % 0x40) (by omega)
        have third := byte_toNat (0x80 + c.val / 0x40 % 0x40) (by omega)
        have fourth := byte_toNat (0x80 + c.val % 0x40) (by omega)
        have high : ¬ 0xf0 + c.val / 0x40000 < 0x80 := by omega
        have higher : ¬ 0xf0 + c.val / 0x40000 < 0xe0 := by omega
        have highest : ¬ 0xf0 + c.val / 0x40000 < 0xf0 := by omega
        simp only [decodeChar, List.cons_append, List.nil_append, first, second, third, fourth, if_neg high,
          if_neg higher, if_neg highest]
        rw [chr_eq (c := c) (by omega)]

theorem encodeChar_length (c : CodePoint) : 1 ≤ (encodeChar c).length := by
  unfold encodeChar
  split
  · simp
  · split
    · simp
    · split <;> simp

theorem decodeBytes_flatMap {text : Text} {fuel : Nat} (enough : (text.flatMap encodeChar).length ≤ fuel) :
    decodeBytes fuel (text.flatMap encodeChar) = text := by
  induction text generalizing fuel with
  | nil => cases fuel <;> rfl
  | cons c rest ih =>
      rw [List.flatMap_cons, List.length_append] at enough
      have one := encodeChar_length c
      cases fuel with
      | zero => omega
      | succ fuel =>
          rw [List.flatMap_cons, decodeBytes, decodeChar_encodeChar]
          dsimp only
          rw [ih (by omega)]

/-- What `encode` returns is decoded to the text. -/
theorem decode_encode {text : Text} {bytes : Bytes} (encoded : encode text = .ok bytes) :
    decode bytes = text := by
  unfold encode at encoded
  split at encoded
  · cases encoded
    exact decodeBytes_flatMap (Nat.le_refl _)
  · cases encoded

end HarnessProxy

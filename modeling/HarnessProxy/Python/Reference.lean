import HarnessProxy.Python.Runtime

namespace HarnessProxy

/-! # An interpreter for concrete runs

The tables are those of ASCII, on which they agree with Python, and the digest
is SHA-256 of the UTF-8 encoding.
-/

namespace Sha256

/-- Words are natural numbers below `2 ^ 32`. -/
def add (x y : Nat) : Nat := (x + y) % 0x100000000

def rotateRight (x shift : Nat) : Nat := (x >>> shift) ||| ((x <<< (32 - shift)) % 0x100000000)

def initial : List Nat :=
  [0x6a09e667, 0xbb67ae85, 0x3c6ef372, 0xa54ff53a, 0x510e527f, 0x9b05688c, 0x1f83d9ab, 0x5be0cd19]

def roundConstants : List Nat :=
  [0x428a2f98, 0x71374491, 0xb5c0fbcf, 0xe9b5dba5, 0x3956c25b, 0x59f111f1, 0x923f82a4, 0xab1c5ed5,
    0xd807aa98, 0x12835b01, 0x243185be, 0x550c7dc3, 0x72be5d74, 0x80deb1fe, 0x9bdc06a7, 0xc19bf174,
    0xe49b69c1, 0xefbe4786, 0x0fc19dc6, 0x240ca1cc, 0x2de92c6f, 0x4a7484aa, 0x5cb0a9dc, 0x76f988da,
    0x983e5152, 0xa831c66d, 0xb00327c8, 0xbf597fc7, 0xc6e00bf3, 0xd5a79147, 0x06ca6351, 0x14292967,
    0x27b70a85, 0x2e1b2138, 0x4d2c6dfc, 0x53380d13, 0x650a7354, 0x766a0abb, 0x81c2c92e, 0x92722c85,
    0xa2bfe8a1, 0xa81a664b, 0xc24b8b70, 0xc76c51a3, 0xd192e819, 0xd6990624, 0xf40e3585, 0x106aa070,
    0x19a4c116, 0x1e376c08, 0x2748774c, 0x34b0bcb5, 0x391c0cb3, 0x4ed8aa4a, 0x5b9cca4f, 0x682e6ff3,
    0x748f82ee, 0x78a5636f, 0x84c87814, 0x8cc70208, 0x90befffa, 0xa4506ceb, 0xbef9a3f7, 0xc67178f2]

/-- The UTF-8 bytes of a character. -/
def utf8 (c : CodePoint) : List Nat :=
  let n := c.val
  if n < 0x80 then [n]
  else if n < 0x800 then [0xc0 + n / 0x40, 0x80 + n % 0x40]
  else if n < 0x10000 then [0xe0 + n / 0x1000, 0x80 + n / 0x40 % 0x40, 0x80 + n % 0x40]
  else [0xf0 + n / 0x40000, 0x80 + n / 0x1000 % 0x40, 0x80 + n / 0x40 % 0x40, 0x80 + n % 0x40]

def pad (message : List Nat) : List Nat :=
  let zeros := (119 - message.length % 64) % 64
  let bits := 8 * message.length
  message ++ 0x80 :: List.replicate zeros 0 ++
    (List.range 8).reverse.map fun index => bits >>> (8 * index) % 0x100

def words : List Nat → List Nat
  | a :: b :: c :: d :: rest => (a * 0x1000000 + b * 0x10000 + c * 0x100 + d) :: words rest
  | _ => []

/-- The message schedule, latest word first. -/
def schedule : Nat → List Nat → List Nat
  | 0, latest => latest
  | count + 1, latest =>
    let w15 := latest.getD 14 0
    let w2 := latest.getD 1 0
    let s0 := rotateRight w15 7 ^^^ rotateRight w15 18 ^^^ (w15 >>> 3)
    let s1 := rotateRight w2 17 ^^^ rotateRight w2 19 ^^^ (w2 >>> 10)
    schedule count (add (add (latest.getD 15 0) s0) (add (latest.getD 6 0) s1) :: latest)

def round : List Nat → Nat × Nat → List Nat
  | [a, b, c, d, e, f, g, h], (constant, word) =>
    let s1 := rotateRight e 6 ^^^ rotateRight e 11 ^^^ rotateRight e 25
    let choice := (e &&& f) ^^^ ((0xffffffff - e) &&& g)
    let first := add (add h s1) (add choice (add constant word))
    let s0 := rotateRight a 2 ^^^ rotateRight a 13 ^^^ rotateRight a 22
    let majority := (a &&& b) ^^^ (a &&& c) ^^^ (b &&& c)
    [add first (add s0 majority), a, b, c, add d first, e, f, g]
  | state, _ => state

def block (state words : List Nat) : List Nat :=
  let expanded := (schedule 48 words.reverse).reverse
  List.zipWith add state ((roundConstants.zip expanded).foldl round state)

/-- Compress blocks of sixteen words; the fuel is the number of blocks. -/
def blocks : Nat → List Nat → List Nat → List Nat
  | 0, state, _ => state
  | count + 1, state, words => blocks count (block state (words.take 16)) (words.drop 16)

def hexDigit (digit : Nat) : CodePoint :=
  chr (if digit < 10 then 0x30 + digit else 0x61 + (digit - 10))

def hexdigest (text : Text) : Text :=
  let message := words (pad (text.flatMap utf8))
  (blocks (message.length / 16) initial message).flatMap fun word =>
    (List.range 8).reverse.map fun index => hexDigit (word >>> (4 * index) % 0x10)

theorem round_length {state : List Nat} (eight : state.length = 8) (input : Nat × Nat) : (round state input).length = 8 := by
  match state, eight with
  | [_, _, _, _, _, _, _, _], _ => rfl

theorem block_length {state : List Nat} (eight : state.length = 8) (words : List Nat) : (block state words).length = 8 := by
  have rounds (inputs : List (Nat × Nat)) : (inputs.foldl round state).length = 8 := by
    induction inputs using List.reverseRecOn with
    | nil => exact eight
    | append_singleton inputs input ih =>
        rw [List.foldl_append]
        exact round_length ih input
  rw [block, List.length_zipWith, eight, rounds]
  rfl

theorem blocks_length {state : List Nat} (eight : state.length = 8) (count : Nat) (words : List Nat) :
    (blocks count state words).length = 8 := by
  induction count generalizing state words with
  | zero => exact eight
  | succ count ih => exact ih (block_length eight _) _

theorem hexdigest_length (text : Text) : (hexdigest text).length = 64 := by
  have eight : initial.length = 8 := rfl
  rw [hexdigest, List.length_flatMap]
  simp only [List.length_map, List.length_reverse, List.length_range, List.map_const', blocks_length eight]
  rfl

theorem hexdigest_digits {text : Text} {c : CodePoint} (member : c ∈ hexdigest text) : ∃ digit < 16, c = hexDigit digit := by
  simp only [hexdigest, List.mem_flatMap, List.mem_map] at member
  obtain ⟨word, _, index, _, rfl⟩ := member
  exact ⟨_, Nat.mod_lt _ (by decide), rfl⟩

end Sha256

def asciiDigit (c : CodePoint) : Option (Fin 10) :=
  if 0x30 ≤ c.val ∧ c.val ≤ 0x39 then some (Fin.ofNat 10 (c.val - 0x30)) else none

/-- Python on ASCII text and on float literals that are their own `repr`. -/
def Python.reference : Python where
  isAlnum c := (0x30 ≤ c.val && c.val ≤ 0x39) || (0x41 ≤ c.val && c.val ≤ 0x5a) ||
    (0x61 ≤ c.val && c.val ≤ 0x7a)
  decimal := asciiDigit
  casefold c := [Text.lowerChar c]
  float literal :=
    if isRepr : literal.all isFloatChar = true ∧
      (literal.any fun c => c = codePoint '.' || c = codePoint 'e') = true
    then .finite ⟨literal, isRepr⟩ else .nan
  sha256 := Sha256.hexdigest
  describe error := match error with
    | .valueError message => message
    | _ => ""
  uuidHex := "00000000000040008000000000000000"
  time := 0

example : Sha256.hexdigest "abc" = "ba7816bf8f01cfea414140de5dae2223b00361a396177a9cb410ff61f20015ad" := by
  decide +kernel

end HarnessProxy

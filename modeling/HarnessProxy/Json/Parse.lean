import HarnessProxy.Json.Value

namespace HarnessProxy.Json

/-! # `json.loads`

The parser produces a syntax tree that keeps what a Python value forgets:
repeated keys and the literals `NaN`, `Infinity` and `-Infinity`.  The value is
read off the tree, and a strict reader is a condition on the tree.
-/

inductive Syntax where
  | null
  | bool (b : Bool)
  | int (i : Int)
  | float (literal : Text)
  | constant (f : PyFloat)
  | str (text : Text)
  | arr (items : List Syntax)
  | obj (members : List (Text × Syntax))

/-- A scanner returns what it read and the text after it. -/
abbrev Scan (α : Type) := Except PyError (α × Text)

/-- The whitespace of the JSON grammar. -/
def isJsonSpace (c : CodePoint) : Bool :=
  c = codePoint ' ' || c = codePoint '\t' || c = codePoint '\n' || c = codePoint '\r'

def skipSpace (text : Text) : Text := text.dropWhile isJsonSpace

def isDigit (c : CodePoint) : Bool := 0x30 ≤ c.val && c.val ≤ 0x39

def digitValue (c : CodePoint) : Nat := c.val - 0x30

def hexValue (c : CodePoint) : Option Nat :=
  if 0x30 ≤ c.val ∧ c.val ≤ 0x39 then some (c.val - 0x30)
  else if 0x41 ≤ c.val ∧ c.val ≤ 0x46 then some (c.val - 0x41 + 10)
  else if 0x61 ≤ c.val ∧ c.val ≤ 0x66 then some (c.val - 0x61 + 10)
  else none

def simpleEscape (c : CodePoint) : Option CodePoint :=
  if c = codePoint '"' ∨ c = codePoint '\\' ∨ c = codePoint '/' then some c
  else if c = codePoint 'b' then some (chr 0x08)
  else if c = codePoint 'f' then some (chr 0x0c)
  else if c = codePoint 'n' then some (chr 0x0a)
  else if c = codePoint 'r' then some (chr 0x0d)
  else if c = codePoint 't' then some (chr 0x09)
  else none

def isHighSurrogate (unit : Nat) : Bool := 0xd800 ≤ unit && unit ≤ 0xdbff
def isLowSurrogate (unit : Nat) : Bool := 0xdc00 ≤ unit && unit ≤ 0xdfff

def joinSurrogates (high low : Nat) : CodePoint :=
  chr (0x10000 + (high - 0xd800) * 0x400 + (low - 0xdc00))

/-- Where the scanner stands inside a string literal.  `held` is a high
surrogate just read from an escape, which the next escape may complete. -/
inductive StringMode where
  | plain (held : Option Nat)
  | escape (held : Option Nat)
  | hex (held : Option Nat) (digits : List Nat)

def release (held : Option Nat) : Text := (held.map chr).toList

/-- Put decoded characters in front of what the rest of a literal decodes to. -/
def prepend (decoded : Text) : Scan Text → Scan Text
  | .ok (text, rest) => .ok (decoded ++ text, rest)
  | .error e => .error e

/-- `scanstring`, started after the opening quote. -/
def scanString : StringMode → Text → Scan Text
  | _, [] => .error .jsonDecodeError
  | .plain held, c :: rest =>
    if c = codePoint '"' then .ok (release held, rest)
    else if c = codePoint '\\' then scanString (.escape held) rest
    else if c.val ≤ 0x1f then .error .jsonDecodeError
    else prepend (release held ++ [c]) (scanString (.plain none) rest)
  | .escape held, c :: rest =>
    if c = codePoint 'u' then scanString (.hex held []) rest
    else match simpleEscape c with
      | none => .error .jsonDecodeError
      | some decoded => prepend (release held ++ [decoded]) (scanString (.plain none) rest)
  | .hex held digits, c :: rest =>
    match hexValue c with
    | none => .error .jsonDecodeError
    | some digit =>
      if digits.length < 3 then scanString (.hex held (digits ++ [digit])) rest
      else
        let unit := (digits ++ [digit]).foldl (fun total d => 16 * total + d) 0
        match held with
        | some high =>
          if isLowSurrogate unit then prepend [joinSurrogates high unit] (scanString (.plain none) rest)
          else if isHighSurrogate unit then prepend (release held) (scanString (.plain (some unit)) rest)
          else prepend (release held ++ release (some unit)) (scanString (.plain none) rest)
        | none =>
          if isHighSurrogate unit then scanString (.plain (some unit)) rest
          else prepend (release (some unit)) (scanString (.plain none) rest)

/-! ## Numbers -/

/-- The longest run of digits, and what follows it. -/
def scanDigits (text : Text) : Text × Text := (text.takeWhile isDigit, text.dropWhile isDigit)

/-- The integer part: a single zero, or digits that do not start with one. -/
def scanInteger : Text → Option (Text × Text)
  | [] => none
  | c :: rest =>
    if c = codePoint '0' then some ([c], rest)
    else if isDigit c then some (scanDigits (c :: rest))
    else none

/-- A point followed by at least one digit, or nothing. -/
def scanFraction : Text → Text × Text
  | [] => ([], [])
  | c :: rest =>
    if c = codePoint '.' ∧ (scanDigits rest).1 ≠ [] then (c :: (scanDigits rest).1, (scanDigits rest).2)
    else ([], c :: rest)

def scanSign : Text → Text × Text
  | [] => ([], [])
  | c :: rest => if c = codePoint '+' ∨ c = codePoint '-' then ([c], rest) else ([], c :: rest)

/-- An exponent with at least one digit, or nothing. -/
def scanExponent : Text → Text × Text
  | [] => ([], [])
  | c :: rest =>
    let sign := scanSign rest
    let digits := scanDigits sign.2
    if (c = codePoint 'e' ∨ c = codePoint 'E') ∧ digits.1 ≠ [] then (c :: (sign.1 ++ digits.1), digits.2)
    else ([], c :: rest)

def digitsValue (digits : Text) : Nat := digits.foldl (fun total c => 10 * total + digitValue c) 0

/-- A number after its optional sign.  Without fraction and exponent it is an
`int`, which refuses too many digits. -/
def scanNumber (negative : Bool) (text : Text) : Scan Syntax :=
  match scanInteger text with
  | none => .error .jsonDecodeError
  | some (digits, rest) =>
    let fraction := scanFraction rest
    let exponent := scanExponent fraction.2
    if fraction.1 = [] ∧ exponent.1 = [] then
      if digits.length > maxStrDigits then .error digitLimitError
      else .ok (.int (if negative then -(digitsValue digits : Int) else digitsValue digits), exponent.2)
    else
      let sign : Text := if negative then "-" else ""
      .ok (.float (sign ++ digits ++ fraction.1 ++ exponent.1), exponent.2)

def constants : List (Text × Syntax) :=
  [("null", .null), ("true", .bool true), ("false", .bool false), ("NaN", .constant .nan),
    ("Infinity", .constant .infinity), ("-Infinity", .constant .negInfinity)]

/-- Match one of the literal words at the start of a text. -/
def scanConstant : List (Text × Syntax) → Text → Option (Syntax × Text)
  | [], _ => none
  | (word, tree) :: others, text => match Text.dropPrefix? word text with
    | some rest => some (tree, rest)
    | none => scanConstant others text

/-- A value that is not a string, an array or an object. -/
def scanScalar (text : Text) : Scan Syntax :=
  match scanConstant constants text with
  | some result => .ok result
  | none => match text with
    | [] => .error .jsonDecodeError
    | c :: rest => if c = codePoint '-' then scanNumber true rest else scanNumber false (c :: rest)

/-! ## Values

The fuel bounds the recursion; `parseDocument` gives more than any text uses.
-/

mutual
def parseValue : Nat → Text → Scan Syntax
  | 0, _ => .error .jsonDecodeError
  | _ + 1, [] => .error .jsonDecodeError
  | fuel + 1, c :: rest =>
    if c = codePoint '"' then match scanString (.plain none) rest with
      | .error e => .error e
      | .ok (text, rest) => .ok (.str text, rest)
    else if c = codePoint '[' then match skipSpace rest with
      | [] => .error .jsonDecodeError
      | d :: after =>
        if d = codePoint ']' then .ok (.arr [], after)
        else match parseItems fuel (d :: after) with
          | .error e => .error e
          | .ok (items, rest) => .ok (.arr items, rest)
    else if c = codePoint '{' then match skipSpace rest with
      | [] => .error .jsonDecodeError
      | d :: after =>
        if d = codePoint '}' then .ok (.obj [], after)
        else match parseMembers fuel (d :: after) with
          | .error e => .error e
          | .ok (members, rest) => .ok (.obj members, rest)
    else scanScalar (c :: rest)

/-- The items of a non-empty array and its closing bracket. -/
def parseItems : Nat → Text → Scan (List Syntax)
  | 0, _ => .error .jsonDecodeError
  | fuel + 1, text => match parseValue fuel text with
    | .error e => .error e
    | .ok (item, rest) => match skipSpace rest with
      | [] => .error .jsonDecodeError
      | d :: after =>
        if d = codePoint ']' then .ok ([item], after)
        else if d = codePoint ',' then match parseItems fuel (skipSpace after) with
          | .error e => .error e
          | .ok (items, rest) => .ok (item :: items, rest)
        else .error .jsonDecodeError

/-- The members of a non-empty object and its closing brace. -/
def parseMembers : Nat → Text → Scan (List (Text × Syntax))
  | 0, _ => .error .jsonDecodeError
  | _ + 1, [] => .error .jsonDecodeError
  | fuel + 1, c :: text =>
    if c ≠ codePoint '"' then .error .jsonDecodeError
    else match scanString (.plain none) text with
      | .error e => .error e
      | .ok (key, rest) => match skipSpace rest with
        | [] => .error .jsonDecodeError
        | colon :: rest =>
          if colon ≠ codePoint ':' then .error .jsonDecodeError
          else match parseValue fuel (skipSpace rest) with
            | .error e => .error e
            | .ok (value, rest) => match skipSpace rest with
              | [] => .error .jsonDecodeError
              | d :: after =>
                if d = codePoint '}' then .ok ([(key, value)], after)
                else if d = codePoint ',' then match parseMembers fuel (skipSpace after) with
                  | .error e => .error e
                  | .ok (members, rest) => .ok ((key, value) :: members, rest)
                else .error .jsonDecodeError
end

/-- Enough fuel for every text: a call consumes a character at least every
second time the recursion descends. -/
def parseFuel (text : Text) : Nat := 2 * text.length + 2

/-- `JSONDecoder.decode`: one value with JSON whitespace around it. -/
def parseDocument (text : Text) : Except PyError Syntax :=
  match parseValue (parseFuel text) (skipSpace text) with
  | .error e => .error e
  | .ok (tree, rest) => if skipSpace rest = [] then .ok tree else .error .jsonDecodeError

mutual
/-- The Python value of a tree; in an object the last of repeated keys wins. -/
def Syntax.value (py : Python) : Syntax → Value
  | .null => .null
  | .bool b => .bool b
  | .int i => .int i
  | .float literal => .float (py.float literal)
  | .constant f => .float f
  | .str text => .str text
  | .arr items => .arr (itemValues py items)
  | .obj members => .obj (memberValues py [] members)

def itemValues (py : Python) : List Syntax → List Value
  | [] => []
  | item :: rest => item.value py :: itemValues py rest

def memberValues (py : Python) (fields : Object) : List (Text × Syntax) → Object
  | [] => fields
  | (key, tree) :: rest => memberValues py (fields.assign key (tree.value py)) rest
end

/-- `json.loads(text)`. -/
def loads (py : Python) (text : Text) : Except PyError Value :=
  (parseDocument text).map (Syntax.value py)

mutual
theorem Syntax.value_valid (py : Python) : (tree : Syntax) → (tree.value py).Valid
  | .arr items => by simpa [Syntax.value, Value.Valid] using itemValues_valid py items
  | .obj members => by
      simpa [Syntax.value, Value.Valid] using
        memberValues_valid py members [] List.nodup_nil (by simp [Value.ValidFields])
  | .null | .bool _ | .int _ | .float _ | .constant _ | .str _ => by simp [Syntax.value, Value.Valid]

theorem itemValues_valid (py : Python) : (items : List Syntax) → Value.ValidItems (itemValues py items)
  | [] => trivial
  | item :: rest => ⟨item.value_valid py, itemValues_valid py rest⟩

theorem memberValues_valid (py : Python) : (members : List (Text × Syntax)) → (fields : Object) →
    fields.keys.Nodup → Value.ValidFields fields →
    (memberValues py fields members).keys.Nodup ∧ Value.ValidFields (memberValues py fields members)
  | [], _, nodup, valid => ⟨nodup, valid⟩
  | (key, tree) :: rest, fields, nodup, valid =>
      memberValues_valid py rest (fields.assign key (tree.value py)) (fields.nodup_keys_assign key _ nodup)
        (Value.validFields_assign key valid (tree.value_valid py))
end

/-- What `json.loads` returns repeats no key. -/
theorem loads_valid {py : Python} {text : Text} {value : Value} (parsed : loads py text = .ok value) :
    value.Valid := by
  unfold loads at parsed
  cases tree : parseDocument text with
  | error e =>
      rw [tree] at parsed
      cases parsed
  | ok tree' =>
      rw [tree] at parsed
      cases parsed
      exact tree'.value_valid py

end HarnessProxy.Json

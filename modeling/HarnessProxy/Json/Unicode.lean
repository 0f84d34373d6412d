import HarnessProxy.Json.Encode

namespace HarnessProxy.Json

/-! # `json.dumps` with `ensure_ascii=False`

The encoder of `Json.Encode` with another escape function, and the error that
`json.dumps` raises for an integer that `str` refuses to print.
-/

/-- The escapes that JSON requires and no others. -/
def escapeControl (c : CodePoint) : Text :=
  if c = codePoint '"' then "\\\""
  else if c = codePoint '\\' then "\\\\"
  else if c.val = 0x0a then "\\n"
  else if c.val = 0x0d then "\\r"
  else if c.val = 0x09 then "\\t"
  else if c.val = 0x0c then "\\f"
  else if c.val = 0x08 then "\\b"
  else if c.val < 0x20 then unicodeEscape c.val
  else [c]

def quoteUnicode (text : Text) : Text := codePoint '"' :: (text.flatMap escapeControl ++ [codePoint '"'])

mutual
/-- `json.dumps(value, ensure_ascii=False, separators=(",", ":"))`, with sorted
keys if asked for. -/
def dumpsUnicode (sortKeys : Bool) : Value → Text
  | .null => "null"
  | .bool true => "true"
  | .bool false => "false"
  | .int i => Text.ofInt i
  | .float f => dumpsFloat f
  | .str text => quoteUnicode text
  | .arr items => codePoint '[' :: (Text.join "," (dumpsUnicodeItems sortKeys items) ++ [codePoint ']'])
  | .obj fields => codePoint '{' ::
      (Text.join "," ((orderFields sortKeys (dumpsUnicodeFields sortKeys fields)).map Prod.snd) ++
        [codePoint '}'])

def dumpsUnicodeItems (sortKeys : Bool) : List Value → List Text
  | [] => []
  | item :: rest => dumpsUnicode sortKeys item :: dumpsUnicodeItems sortKeys rest

def dumpsUnicodeFields (sortKeys : Bool) : List (Text × Value) → List (Text × Text)
  | [] => []
  | (key, value) :: rest =>
    (key, quoteUnicode key ++ codePoint ':' :: dumpsUnicode sortKeys value) ::
      dumpsUnicodeFields sortKeys rest
end

mutual
/-- Every integer of the value has a decimal text that `str` prints. -/
def Value.printable : Value → Bool
  | .int i => (Text.ofNat i.natAbs).length ≤ maxStrDigits
  | .arr items => printableItems items
  | .obj fields => printableFields fields
  | _ => true

def printableItems : List Value → Bool
  | [] => true
  | item :: rest => item.printable && printableItems rest

def printableFields : List (Text × Value) → Bool
  | [] => true
  | (_, value) :: rest => value.printable && printableFields rest
end

/-- `json.dumps` with its one error. -/
def dumpText (sortKeys : Bool) (value : Value) : Except PyError Text :=
  if value.printable then .ok (dumpsUnicode sortKeys value) else .error digitLimitError

end HarnessProxy.Json

import HarnessProxy.Data.PrefixCode
import HarnessProxy.Json.Canonical

namespace HarnessProxy.Json

open HarnessProxy.Data

/-! # Texts of values with ASCII escapes

`json.dumps` prints a character outside the basic plane as two escapes, so that
the text determines a string as a sequence of 16-bit units, and it determines
everything else.
-/

/-- The UTF-16 units of a character. -/
def units (c : CodePoint) : Text :=
  if c.val < 0x10000 then [c]
  else [chr (0xd800 + (c.val - 0x10000) / 0x400), chr (0xdc00 + (c.val - 0x10000) % 0x400)]

def textUnits (text : Text) : Text := text.flatMap units

mutual
/-- The value with every string and every key as its units. -/
def Value.units : Value → Value
  | .str text => .str (textUnits text)
  | .arr items => .arr (unitsItems items)
  | .obj fields => .obj (unitsFields fields)
  | value => value

def unitsItems : List Value → List Value
  | [] => []
  | item :: rest => item.units :: unitsItems rest

def unitsFields : List (Text × Value) → List (Text × Value)
  | [] => []
  | (key, value) :: rest => (textUnits key, value.units) :: unitsFields rest
end

theorem unitsItems_eq (items : List Value) : unitsItems items = items.map Value.units := by
  induction items with
  | nil => rfl
  | cons item rest ih => rw [unitsItems, ih, List.map_cons]

theorem unitsFields_eq (fields : Object) :
    unitsFields fields = fields.map fun field => (textUnits field.1, field.2.units) := by
  induction fields with
  | nil => rfl
  | cons field rest ih => rw [unitsFields, ih, List.map_cons]

/-! ## Characters -/

theorem units_small {c : CodePoint} : ∀ unit ∈ units c, unit.val < 0x10000 := by
  intro unit member
  unfold units at member
  split at member
  · next small =>
    cases List.mem_singleton.mp member
    exact small
  · have bound := c.isLt
    simp only [List.mem_cons, List.not_mem_nil, or_false] at member
    rcases member with rfl | rfl <;> rw [chr_val] <;> omega

theorem textUnits_small {text : Text} : ∀ unit ∈ textUnits text, unit.val < 0x10000 := by
  intro unit member
  obtain ⟨c, _, inside⟩ := List.mem_flatMap.mp member
  exact units_small unit inside

theorem textUnits_of_small {text : Text} (small : ∀ c ∈ text, c.val < 0x10000) : textUnits text = text := by
  induction text with
  | nil => rfl
  | cons c rest ih =>
      obtain ⟨head, tail⟩ := List.forall_mem_cons.mp small
      have others : rest.flatMap units = rest := ih tail
      rw [textUnits, List.flatMap_cons, others, units, if_pos head, List.singleton_append]

theorem escapeChar_unit {unit : CodePoint} (large : 0x7e < unit.val) (small : unit.val < 0x10000) :
    escapeChar unit = unicodeEscape unit.val := by
  have differs (c : Char) (ascii : c.toNat ≤ 0x7e) : unit ≠ codePoint c := by
    rintro rfl
    exact absurd large (Nat.not_lt.mpr ascii)
  rw [escapeChar, if_neg (differs _ (by decide)), if_neg (differs _ (by decide)), if_neg (by omega), if_neg (by omega),
    if_neg (by omega), if_neg (by omega), if_neg (by omega), if_neg (by omega), if_pos small]

/-- The escape of a character is the escapes of its units. -/
theorem escapeChar_units (c : CodePoint) : (units c).flatMap escapeChar = escapeChar c := by
  unfold units
  split
  · exact List.append_nil _
  · next large =>
    have bound := c.isLt
    have differs (d : Char) (ascii : d.toNat ≤ 0x7e) : c ≠ codePoint d := by
      rintro rfl
      exact large (Nat.lt_of_le_of_lt ascii (by decide))
    have high : (chr (0xd800 + (c.val - 0x10000) / 0x400)).val = 0xd800 + (c.val - 0x10000) / 0x400 := by
      rw [chr_val]
      omega
    have low : (chr (0xdc00 + (c.val - 0x10000) % 0x400)).val = 0xdc00 + (c.val - 0x10000) % 0x400 := by
      rw [chr_val]
      omega
    rw [List.flatMap_cons, List.flatMap_cons, List.flatMap_nil, List.append_nil, escapeChar_unit (by omega) (by omega),
      escapeChar_unit (by omega) (by omega), high, low]
    rw [escapeChar, if_neg (differs _ (by decide)), if_neg (differs _ (by decide)), if_neg (by omega),
      if_neg (by omega), if_neg (by omega), if_neg (by omega), if_neg (by omega), if_neg (by omega), if_neg large]

theorem flatMap_escapeChar (text : Text) : text.flatMap escapeChar = (textUnits text).flatMap escapeChar := by
  rw [textUnits, List.flatMap_assoc]
  exact List.flatMap_congr fun c _ => (escapeChar_units c).symm

def readHex : Text → Option (CodePoint × Text)
  | e :: f :: g :: h :: rest => do
    let digits ← [e, f, g, h].mapM hexValue
    return (chr (digits.foldl (fun total digit => 16 * total + digit) 0), rest)
  | _ => none

/-- Read one escaped unit off a text. -/
def readUnit : Text → Option (CodePoint × Text)
  | [] => none
  | [c] => some (c, [])
  | c :: d :: rest =>
    if c ≠ codePoint '\\' then some (c, d :: rest)
    else if d = codePoint 'u' then readHex rest
    else (simpleEscape d).map (·, rest)

theorem hexValue_hexChar {digit : Nat} (small : digit < 16) : hexValue (hexChar digit) = some digit := by
  interval_cases digit <;> decide

theorem readUnit_unicodeEscape {unit : Nat} (small : unit < 0x10000) (rest : Text) :
    readUnit (unicodeEscape unit ++ rest) = some (chr unit, rest) := by
  have digits : [hexChar (unit / 0x1000 % 16), hexChar (unit / 0x100 % 16), hexChar (unit / 0x10 % 16),
      hexChar (unit % 16)].mapM hexValue = some [unit / 0x1000 % 16, unit / 0x100 % 16, unit / 0x10 % 16, unit % 16] := by
    simp [hexValue_hexChar (Nat.mod_lt _ (by decide : 0 < 16))]
  have value : 16 * (16 * (16 * (16 * 0 + unit / 0x1000 % 16) + unit / 0x100 % 16) + unit / 0x10 % 16) + unit % 16 = unit := by
    omega
  simp only [unicodeEscape, List.cons_append, List.nil_append, readUnit, ne_eq, not_true_eq_false, if_false, if_true,
    readHex, digits, Option.bind_eq_bind, Option.bind_some, List.foldl_cons, List.foldl_nil, value]
  rfl

theorem readUnit_escapeChar {unit : CodePoint} (small : unit.val < 0x10000) (rest : Text) :
    readUnit (escapeChar unit ++ rest) = some (unit, rest) := by
  have same {value : Nat} (equal : unit.val = value) : chr value = unit := by
    rw [← equal]
    exact Fin.ofNat_val_eq_self unit
  have simple (d : CodePoint) (decoded : simpleEscape d = some unit) (notHex : d ≠ codePoint 'u') :
      readUnit (codePoint '\\' :: d :: rest) = some (unit, rest) := by
    rw [readUnit, if_neg (by simp), if_neg notHex, decoded]
    rfl
  unfold escapeChar
  split
  · next quote => exact simple _ (by rw [quote]; decide) (by decide)
  split
  · next backslash => exact simple _ (by rw [backslash]; decide) (by decide)
  split
  · next newline => exact simple (codePoint 'n') (by rw [← same newline]; decide) (by decide)
  split
  · next carriage => exact simple (codePoint 'r') (by rw [← same carriage]; decide) (by decide)
  split
  · next tab => exact simple (codePoint 't') (by rw [← same tab]; decide) (by decide)
  split
  · next feed => exact simple (codePoint 'f') (by rw [← same feed]; decide) (by decide)
  split
  · next back => exact simple (codePoint 'b') (by rw [← same back]; decide) (by decide)
  split
  · next notBackslash _ _ _ _ _ _ =>
    cases rest with
    | nil => rfl
    | cons d rest => exact if_pos notBackslash
  · rw [readUnit_unicodeEscape small, same rfl]

/-- The escapes of two units that agree from here on. -/
theorem escapeChar_splits {unit other : CodePoint} (small : unit.val < 0x10000) (otherSmall : other.val < 0x10000)
    {rest last : Text} (same : escapeChar unit ++ rest = escapeChar other ++ last) : unit = other ∧ rest = last := by
  have read := readUnit_escapeChar small rest
  rw [same, readUnit_escapeChar otherSmall] at read
  cases read
  exact ⟨rfl, rfl⟩

theorem escapeChar_head (c : CodePoint) (rest last : Text) : escapeChar c ++ rest ≠ codePoint '"' :: last := by
  intro same
  unfold escapeChar at same
  split_ifs at same with quote
  all_goals first
    | exact absurd (List.cons.inj same).1 (by decide)
    | exact quote (List.cons.inj same).1

/-- A string literal determines the units of its text. -/
theorem quote_splits {text other rest last : Text} (same : quote text ++ rest = quote other ++ last) :
    textUnits text = textUnits other ∧ rest = last := by
  have body : (textUnits text).flatMap escapeChar ++ codePoint '"' :: rest =
      (textUnits other).flatMap escapeChar ++ codePoint '"' :: last := by
    rw [← flatMap_escapeChar, ← flatMap_escapeChar]
    simpa [quote] using same
  exact flatMap_splits (fun unit member other inside _ _ => escapeChar_splits (textUnits_small unit member)
    (textUnits_small other inside)) escapeChar_head body

/-! ## Values -/

/-- What the first character of a text says about its value. -/
inductive Kind where
  | null
  | bool
  | number
  | string
  | array
  | object
deriving DecidableEq

def kindOf (c : CodePoint) : Kind :=
  if c = codePoint '"' then .string
  else if c = codePoint '[' then .array
  else if c = codePoint '\x7b' then .object
  else if c = codePoint 'n' then .null
  else if c = codePoint 't' ∨ c = codePoint 'f' then .bool
  else .number

def Value.kind : Value → Kind
  | .null => .null
  | .bool _ => .bool
  | .int _ | .float _ => .number
  | .str _ => .string
  | .arr _ => .array
  | .obj _ => .object

/-- The characters of the texts of numbers. -/
def isNumberChar (c : CodePoint) : Bool :=
  isFloatChar c || c ∈ Text.literal "Infinity" || c = codePoint 'N' || c = codePoint 'a'

/-- A text that does not go on with a number. -/
def EndsValue (rest : Text) : Prop := ∀ c others, rest = c :: others → isNumberChar c = false

theorem endsValue_cons {c : CodePoint} (ends : isNumberChar c = false) (rest : Text) : EndsValue (c :: rest) := by
  intro first others same
  cases same
  exact ends

theorem ofInt_floatChar {i : Int} {c : CodePoint} (member : c ∈ Text.ofInt i) : isFloatChar c = true := by
  unfold Text.ofInt at member
  split at member
  · rcases List.mem_cons.mp member with rfl | member
    · decide
    · exact isFloatChar_of_isDigit (ofNat_isDigit member)
  · exact isFloatChar_of_isDigit (ofNat_isDigit member)

/-- The text of a number. -/
def numberText : Value → Text
  | .int i => Text.ofInt i
  | .float f => dumpsFloat f
  | _ => []

theorem numberText_chars {value : Value} {c : CodePoint} (member : c ∈ numberText value) : isNumberChar c = true := by
  have float {c : CodePoint} (float : isFloatChar c = true) : isNumberChar c = true := by simp [isNumberChar, float]
  cases value with
  | int i => exact float (ofInt_floatChar member)
  | float f =>
      cases f with
      | finite shortest => exact float (List.all_eq_true.mp shortest.isRepr.1 c member)
      | infinity =>
          have all : (Text.literal "Infinity").all isNumberChar = true := by decide
          exact List.all_eq_true.mp all c member
      | negInfinity =>
          have all : (Text.literal "-Infinity").all isNumberChar = true := by decide
          exact List.all_eq_true.mp all c member
      | nan =>
          have all : (Text.literal "NaN").all isNumberChar = true := by decide
          exact List.all_eq_true.mp all c member
  | null | bool | str | arr | obj => cases member

theorem ofInt_injective {i j : Int} (same : Text.ofInt i = Text.ofInt j) : i = j := by
  have digits {n : Nat} {rest : Text} (start : Text.ofNat n = codePoint '-' :: rest) : False := by
    have digit : isDigit (codePoint '-') = true := ofNat_isDigit (start ▸ List.mem_cons_self ..)
    exact absurd digit (by decide)
  have abs {m n : Nat} (texts : Text.ofNat m = Text.ofNat n) : m = n := by
    rw [← digitsValue_ofNat m, texts, digitsValue_ofNat]
  unfold Text.ofInt at same
  split at same <;> split at same
  · have equal := abs (List.cons.inj same).2
    omega
  · exact (digits same.symm).elim
  · exact (digits same).elim
  · have equal := abs same
    omega

theorem ofInt_plain {i : Int} {c : CodePoint} (member : c ∈ Text.ofInt i) : c ≠ codePoint '.' ∧ c ≠ codePoint 'e' := by
  have digit {n : Nat} (inside : c ∈ Text.ofNat n) : c ≠ codePoint '.' ∧ c ≠ codePoint 'e' := by
    have digit := ofNat_isDigit inside
    constructor <;>
    · rintro rfl
      exact absurd digit (by decide)
  unfold Text.ofInt at member
  split at member
  · rcases List.mem_cons.mp member with rfl | inside
    · decide
    · exact digit inside
  · exact digit member

/-- A text with a letter that no finite number has. -/
def Worded (text : Text) : Prop := ∃ c ∈ text, isFloatChar c = false

theorem dumpsFloat_worded {f : PyFloat} (special : f = .infinity ∨ f = .negInfinity ∨ f = .nan) :
    Worded (dumpsFloat f) := by
  rcases special with rfl | rfl | rfl
  · exact ⟨codePoint 'I', by decide, by decide⟩
  · exact ⟨codePoint 'I', by decide, by decide⟩
  · exact ⟨codePoint 'N', by decide, by decide⟩

theorem dumpsFloat_injective {f g : PyFloat} (same : dumpsFloat f = dumpsFloat g) : f = g := by
  have finite {shortest : FloatRepr} {text : Text} (worded : Worded text) : shortest.text ≠ text := by
    rintro rfl
    obtain ⟨c, member, letter⟩ := worded
    rw [List.all_eq_true.mp shortest.isRepr.1 c member] at letter
    cases letter
  cases f with
  | finite left =>
      cases g with
      | finite right =>
          obtain ⟨text, _⟩ := left
          obtain ⟨text', _⟩ := right
          cases (show text = text' from same)
          rfl
      | infinity | negInfinity | nan => exact absurd same (finite (dumpsFloat_worded (by simp)))
  | infinity | negInfinity | nan =>
      cases g with
      | finite right => exact absurd same.symm (finite (dumpsFloat_worded (by simp)))
      | infinity | negInfinity | nan => first | rfl | exact absurd same (by decide)

theorem ofInt_ne_dumpsFloat (i : Int) (f : PyFloat) : Text.ofInt i ≠ dumpsFloat f := by
  intro same
  have worded (worded : Worded (dumpsFloat f)) : False := by
    rw [← same] at worded
    obtain ⟨c, member, letter⟩ := worded
    rw [ofInt_floatChar member] at letter
    cases letter
  cases f with
  | finite shortest =>
      obtain ⟨c, member, mark⟩ := List.any_eq_true.mp shortest.isRepr.2
      have member : c ∈ dumpsFloat (.finite shortest) := member
      rw [← same] at member
      have plain := ofInt_plain member
      simp [plain] at mark
  | infinity | negInfinity | nan => exact worded (dumpsFloat_worded (by simp))

/-- A number is determined by its text. -/
theorem numberText_injective {value other : Value} (number : value.kind = .number) (otherNumber : other.kind = .number)
    (same : numberText value = numberText other) : value = other := by
  cases value with
  | int i =>
      cases other with
      | int j => rw [ofInt_injective same]
      | float f => exact absurd same (ofInt_ne_dumpsFloat i f)
      | null | bool | str | arr | obj => cases otherNumber
  | float f =>
      cases other with
      | int j => exact absurd same.symm (ofInt_ne_dumpsFloat j f)
      | float g => rw [dumpsFloat_injective same]
      | null | bool | str | arr | obj => cases otherNumber
  | null | bool | str | arr | obj => cases number

theorem numberText_splits {value other : Value} {rest last : Text} (ends : EndsValue rest) (lastEnds : EndsValue last)
    (same : numberText value ++ rest = numberText other ++ last) : numberText value = numberText other ∧ rest = last := by
  have taken {value : Value} {rest : Text} (ends : EndsValue rest) :
      (numberText value ++ rest).takeWhile isNumberChar = numberText value := by
    rw [List.takeWhile_append_of_pos fun c => numberText_chars]
    cases rest with
    | nil => simp
    | cons c others => rw [List.takeWhile_cons_of_neg (by simp [ends c others rfl]), List.append_nil]
  have texts := congrArg (List.takeWhile isNumberChar) same
  rw [taken ends, taken lastEnds] at texts
  exact ⟨texts, List.append_cancel_left (texts ▸ same)⟩

theorem kindOf_numberChar {c : CodePoint} (number : isNumberChar c = true) (notN : c ≠ codePoint 'n') (notT : c ≠ codePoint 't')
    (notF : c ≠ codePoint 'f') : kindOf c = .number := by
  have differs (d : Char) (other : isNumberChar (codePoint d) = false) : c ≠ codePoint d := by
    rintro rfl
    rw [number] at other
    cases other
  rw [kindOf, if_neg (differs '"' (by decide)), if_neg (differs '[' (by decide)),
    if_neg (differs '\x7b' (by decide)), if_neg notN, if_neg (by simp [notT, notF])]

/-- The text of a value begins with a character that tells its kind. -/
theorem dumps_head (value : Value) : ∃ c rest, dumps false value = c :: rest ∧ kindOf c = value.kind ∧
    c ≠ codePoint ']' := by
  have float {c : CodePoint} (float : isFloatChar c = true) : kindOf c = .number ∧ c ≠ codePoint ']' := by
    have differs (d : Char) (other : isFloatChar (codePoint d) = false) : c ≠ codePoint d := by
      rintro rfl
      rw [float] at other
      cases other
    exact ⟨kindOf_numberChar (by simp [isNumberChar, float]) (differs 'n' (by decide)) (differs 't' (by decide))
      (differs 'f' (by decide)), differs ']' (by decide)⟩
  cases value with
  | null => exact ⟨codePoint 'n', _, rfl, by decide, by decide⟩
  | bool b =>
      cases b with
      | false => exact ⟨codePoint 'f', _, rfl, by decide, by decide⟩
      | true => exact ⟨codePoint 't', _, rfl, by decide, by decide⟩
  | int i =>
      have nonempty : ∃ c rest, Text.ofInt i = c :: rest := by
        unfold Text.ofInt
        split
        · exact ⟨_, _, rfl⟩
        · obtain ⟨c, rest, shape, _⟩ := ofNat_head i.natAbs
          exact ⟨c, rest, shape⟩
      obtain ⟨c, rest, shape⟩ := nonempty
      have head := float (ofInt_floatChar (shape ▸ List.mem_cons_self ..))
      exact ⟨c, rest, shape, head⟩
  | float f =>
      cases f with
      | finite shortest =>
          obtain ⟨mark, member, _⟩ := List.any_eq_true.mp shortest.isRepr.2
          cases shape : shortest.text with
          | nil =>
              rw [shape] at member
              cases member
          | cons c rest =>
              have inside : c ∈ shortest.text := shape ▸ List.mem_cons_self ..
              exact ⟨c, rest, shape, float (List.all_eq_true.mp shortest.isRepr.1 c inside)⟩
      | infinity => exact ⟨codePoint 'I', _, rfl, by decide, by decide⟩
      | negInfinity => exact ⟨codePoint '-', _, rfl, by decide, by decide⟩
      | nan => exact ⟨codePoint 'N', _, rfl, by decide, by decide⟩
  | str text => exact ⟨codePoint '"', _, rfl, (by decide : kindOf (codePoint '"') = .string), by decide⟩
  | arr items => exact ⟨codePoint '[', _, rfl, (by decide : kindOf (codePoint '[') = .array), by decide⟩
  | obj fields => exact ⟨codePoint '\x7b', _, rfl, (by decide : kindOf (codePoint '\x7b') = .object), by decide⟩

theorem dumpsItems_eq (sortKeys : Bool) (items : List Value) : dumpsItems sortKeys items = items.map (dumps sortKeys) := by
  induction items with
  | nil => rfl
  | cons item rest ih => rw [dumpsItems, ih, List.map_cons]

/-- The key and the text of a member. -/
def dumpedMember (sortKeys : Bool) (field : Text × Value) : Text × Text :=
  (field.1, quote field.1 ++ codePoint ':' :: dumps sortKeys field.2)

theorem dumpsFields_eq (sortKeys : Bool) (fields : Object) :
    dumpsFields sortKeys fields = fields.map (dumpedMember sortKeys) := by
  induction fields with
  | nil => rfl
  | cons field rest ih =>
      rw [dumpsFields, ih, List.map_cons]
      rfl

/-- Values with one text have equal units. -/
def SameUnits (value other : Value) : Prop := value.units = other.units

def SameMember (field other : Text × Value) : Prop := textUnits field.1 = textUnits other.1 ∧ field.2.units = other.2.units

theorem endsValue_comma (rest : Text) : EndsValue (codePoint ',' :: rest) := endsValue_cons (by decide) rest
theorem endsValue_bracket (rest : Text) : EndsValue (codePoint ']' :: rest) := endsValue_cons (by decide) rest
theorem endsValue_brace (rest : Text) : EndsValue (codePoint '\x7d' :: rest) := endsValue_cons (by decide) rest

theorem member_splits {field : Text × Value} (splits : SplitsOff SameUnits EndsValue (dumps false) field.2) :
    SplitsOff SameMember EndsValue (fun field => (dumpedMember false field).2) field := by
  intro other rest last ends lastEnds same
  simp only [dumpedMember, List.append_assoc, List.cons_append] at same
  obtain ⟨keys, values⟩ := quote_splits same
  obtain ⟨equal, tails⟩ := splits other.2 rest last ends lastEnds (List.cons.inj values).2
  exact ⟨⟨keys, equal⟩, tails⟩

/-- The text of a value, split off a longer text. -/
theorem dumps_splits (value : Value) : SplitsOff SameUnits EndsValue (dumps false) value := by
  have kinds {value other : Value} {rest last : Text} (same : dumps false value ++ rest = dumps false other ++ last) :
      value.kind = other.kind := by
    obtain ⟨c, first, shape, kind, _⟩ := dumps_head value
    obtain ⟨d, second, otherShape, otherKind, _⟩ := dumps_head other
    rw [shape, otherShape] at same
    rw [← kind, ← otherKind, (List.cons.inj same).1]
  have number {value : Value} (number : value.kind = .number) : SplitsOff SameUnits EndsValue (dumps false) value := by
    intro other rest last ends lastEnds same
    have otherNumber : other.kind = .number := (kinds same).symm.trans number
    have text {value : Value} (number : value.kind = .number) : dumps false value = numberText value := by
      cases value with
      | int | float => rfl
      | null | bool | str | arr | obj => cases number
    rw [text number, text otherNumber] at same
    obtain ⟨texts, tails⟩ := numberText_splits ends lastEnds same
    exact ⟨congrArg Value.units (numberText_injective number otherNumber texts), tails⟩
  have notBracket (item : Value) (rest last : Text) : dumps false item ++ rest ≠ codePoint ']' :: last := by
    intro same
    obtain ⟨c, first, shape, _, other⟩ := dumps_head item
    rw [shape] at same
    exact other (List.cons.inj same).1
  induction value using Value.induction with
  | null =>
      intro other rest last _ _ same
      cases other with
      | null => exact ⟨rfl, List.append_cancel_left same⟩
      | bool | int | float | str | arr | obj => cases kinds same
  | bool b =>
      intro other rest last _ _ same
      cases other with
      | bool d =>
          cases b <;> cases d
          · exact ⟨rfl, List.append_cancel_left same⟩
          · exact absurd (List.cons.inj same).1 (by decide)
          · exact absurd (List.cons.inj same).1 (by decide)
          · exact ⟨rfl, List.append_cancel_left same⟩
      | null | int | float | str | arr | obj => cases kinds same
  | int i => exact number rfl
  | float f => exact number rfl
  | str text =>
      intro other rest last _ _ same
      cases other with
      | str otherText =>
          obtain ⟨texts, tails⟩ := quote_splits same
          exact ⟨congrArg Value.str texts, tails⟩
      | null | bool | int | float | arr | obj => cases kinds same
  | arr items ih =>
      intro other rest last _ _ same
      cases other with
      | arr others =>
          simp only [dumps, dumpsItems_eq, List.cons_append, List.append_assoc, List.nil_append, List.cons.injEq,
            true_and] at same
          obtain ⟨related, tails⟩ := separated_splits endsValue_comma endsValue_bracket (by decide) ih notBracket same
          refine ⟨?_, tails⟩
          rw [SameUnits, Value.units, Value.units, unitsItems_eq, unitsItems_eq]
          exact congrArg Value.arr (List.forall₂_eq_eq_eq ▸ List.forall₂_map_left_iff.mpr (List.forall₂_map_right_iff.mpr related))
      | null | bool | int | float | str | obj => cases kinds same
  | obj fields ih =>
      intro other rest last _ _ same
      cases other with
      | obj others =>
          simp only [dumps, dumpsFields_eq, orderFields, Bool.false_eq_true, if_false, List.map_map, List.cons_append,
            List.append_assoc, List.nil_append, List.cons.injEq, true_and] at same
          obtain ⟨related, tails⟩ := separated_splits endsValue_comma endsValue_brace (by decide)
            (fun field member => member_splits (ih field member))
            (fun field rest last same => absurd (List.cons.inj same).1 (by decide : codePoint '"' ≠ codePoint '\x7d')) same
          refine ⟨?_, tails⟩
          rw [SameUnits, Value.units, Value.units, unitsFields_eq, unitsFields_eq]
          have equal : fields.map (fun field => (textUnits field.1, field.2.units)) =
              others.map fun field => (textUnits field.1, field.2.units) := by
            rw [← List.forall₂_eq_eq_eq]
            exact List.forall₂_map_left_iff.mpr (List.forall₂_map_right_iff.mpr
              (related.imp fun _ _ same => Prod.ext same.1 same.2))
          exact congrArg Value.obj equal
      | null | bool | int | float | str | arr => cases kinds same

/-- Equal units give one text. -/
theorem dumps_units (value : Value) : dumps false value.units = dumps false value := by
  have text (text : Text) : quote (textUnits text) = quote text := by
    rw [quote, quote, flatMap_escapeChar text, flatMap_escapeChar (textUnits text), textUnits_of_small textUnits_small]
  induction value using Value.induction with
  | null | bool | int | float => rfl
  | str literal => exact text literal
  | arr items ih =>
      simp only [Value.units, dumps, dumpsItems_eq, unitsItems_eq, List.map_map]
      rw [List.map_congr_left (f := dumps false ∘ Value.units) ih]
  | obj fields ih =>
      simp only [Value.units, dumps, dumpsFields_eq, unitsFields_eq, orderFields, Bool.false_eq_true, if_false, List.map_map]
      have each : ∀ field ∈ fields, (Prod.snd ∘ dumpedMember false ∘ fun field => (textUnits field.1, field.2.units)) field =
          (Prod.snd ∘ dumpedMember false) field := by
        intro field member
        simp only [Function.comp_apply, dumpedMember, text, ih field member]
      rw [List.map_congr_left each]

/-- Two values have one text exactly when they have the same units. -/
theorem dumps_eq_iff {value other : Value} : dumps false value = dumps false other ↔ value.units = other.units := by
  constructor
  · intro same
    have ends : EndsValue [] := fun _ _ shape => by cases shape
    exact (dumps_splits value other [] [] ends ends (by rw [same])).1
  · intro same
    rw [← dumps_units value, same, dumps_units]

end HarnessProxy.Json

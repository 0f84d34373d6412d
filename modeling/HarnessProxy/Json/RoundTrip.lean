import HarnessProxy.Json.Numeral
import HarnessProxy.Json.Unicode

namespace HarnessProxy.Json

/-! # `json.loads` reads what `json.dumps` writes

The encoder without ASCII escapes, read back by the parser.  Floats are printed
by the interpreter, so their part of the law is a condition on the interpreter.
-/

/-- `float(repr(f)) == f`, where `repr(f)` is a number of the JSON grammar. -/
def ReadsBack (py : Python) : PyFloat → Prop
  | .finite shortest => py.float shortest.text = .finite shortest ∧ ∀ c rest, EndsNumeral c →
      scanScalar (shortest.text ++ c :: rest) = .ok (.float shortest.text, c :: rest)
  | _ => True

mutual
/-- A value that is printed and read back. -/
def Value.Readable (py : Python) : Value → Prop
  | .int i => (Text.ofNat i.natAbs).length ≤ maxStrDigits
  | .float f => ReadsBack py f
  | .arr items => ReadableItems py items
  | .obj fields => (Object.keys fields).Nodup ∧ ReadableFields py fields
  | _ => True

def ReadableItems (py : Python) : List Value → Prop
  | [] => True
  | item :: rest => item.Readable py ∧ ReadableItems py rest

def ReadableFields (py : Python) : List (Text × Value) → Prop
  | [] => True
  | (_, value) :: rest => value.Readable py ∧ ReadableFields py rest
end

def floatTree : PyFloat → Syntax
  | .finite shortest => .float shortest.text
  | other => .constant other

mutual
/-- The tree that the text of a value is read as. -/
def Value.tree : Value → Syntax
  | .null => .null
  | .bool b => .bool b
  | .int i => .int i
  | .float f => floatTree f
  | .str text => .str text
  | .arr items => .arr (treeItems items)
  | .obj fields => .obj (treeFields fields)

def treeItems : List Value → List Syntax
  | [] => []
  | item :: rest => item.tree :: treeItems rest

def treeFields : List (Text × Value) → List (Text × Syntax)
  | [] => []
  | (key, value) :: rest => (key, value.tree) :: treeFields rest
end

/-! ## Strings -/

theorem scanString_unicodeEscape {unit : Nat} (control : unit < 0x20) (rest : Text) :
    scanString (.plain none) (unicodeEscape unit ++ rest) =
      prepend [chr unit] (scanString (.plain none) rest) := by
  interval_cases unit <;> rfl

theorem scanString_escapeControl (c : CodePoint) (rest : Text) :
    scanString (.plain none) (escapeControl c ++ rest) = prepend [c] (scanString (.plain none) rest) := by
  have same {value : Nat} (equal : c.val = value) : chr value = c := by
    rw [← equal]
    exact Fin.ofNat_val_eq_self c
  unfold escapeControl
  split
  · next quote => rw [quote]; rfl
  split
  · next backslash => rw [backslash]; rfl
  split
  · next newline => rw [← same newline]; rfl
  split
  · next carriage => rw [← same carriage]; rfl
  split
  · next tab => rw [← same tab]; rfl
  split
  · next feed => rw [← same feed]; rfl
  split
  · next back => rw [← same back]; rfl
  split
  · next control => rw [scanString_unicodeEscape control, same rfl]
  · next notQuote notBackslash _ _ _ _ _ notControl =>
    simp [scanString, notQuote, notBackslash, release]
    omega

theorem prepend_ok_eq (decoded text rest : Text) : prepend decoded (.ok (text, rest)) = .ok (decoded ++ text, rest) :=
  rfl

/-- The body of a string literal, up to its closing quote. -/
theorem scanString_quoted (text rest : Text) :
    scanString (.plain none) (text.flatMap escapeControl ++ codePoint '"' :: rest) = .ok (text, rest) := by
  induction text with
  | nil => rfl
  | cons c others ih =>
      rw [List.flatMap_cons, List.append_assoc, scanString_escapeControl, ih]
      rfl

theorem parseValue_quoteUnicode (fuel : Nat) (text rest : Text) :
    parseValue (fuel + 1) (quoteUnicode text ++ rest) = .ok (.str text, rest) := by
  simp [parseValue, quoteUnicode, scanString_quoted]

/-! ## Scalars -/

/-- A word of the grammar that no earlier word of the table begins like. -/
theorem parseValue_constant {word : Text} {tree : Syntax} (member : (word, tree) ∈ constants) (fuel : Nat)
    (rest : Text) : parseValue (fuel + 1) (word ++ rest) = .ok (tree, rest) := by
  simp only [constants, List.mem_cons, List.not_mem_nil, or_false, Prod.mk.injEq] at member
  rcases member with ⟨rfl, rfl⟩ | ⟨rfl, rfl⟩ | ⟨rfl, rfl⟩ | ⟨rfl, rfl⟩ | ⟨rfl, rfl⟩ | ⟨rfl, rfl⟩ <;> rfl

theorem scanNumber_negative {n : Nat} {c : CodePoint} {rest : Text} (ends : EndsNumeral c)
    (short : (Text.ofNat n).length ≤ maxStrDigits) :
    scanNumber true (Text.ofNat n ++ c :: rest) = .ok (.int (-n), c :: rest) := by
  obtain ⟨notDigit, notPoint, notLower, notUpper⟩ := ends
  have fraction : scanFraction (c :: rest) = ([], c :: rest) := by simp [scanFraction, notPoint]
  have exponent : scanExponent (c :: rest) = ([], c :: rest) := by simp [scanExponent, notLower, notUpper]
  simp [scanNumber, scanInteger_ofNat notDigit, fraction, exponent, Nat.not_lt.mpr short, digitsValue_ofNat]

theorem dropPrefix?_head (word text : Text) (e c : CodePoint) (different : c ≠ e) :
    Text.dropPrefix? (e :: word) (c :: text) = none := if_neg different

/-- After a sign only `Infinity` is a word. -/
theorem scanConstant_minus {first : CodePoint} {text : Text} (digit : isDigit first = true) :
    scanConstant constants (codePoint '-' :: first :: text) = none := by
  have different : first ≠ codePoint 'I' := by
    rintro rfl
    cases digit
  have infinity : Text.dropPrefix? "-Infinity" (codePoint '-' :: first :: text) = none :=
    dropPrefix?_head "nfinity" text (codePoint 'I') first different
  have last : scanConstant [("-Infinity", Syntax.constant .negInfinity)] (codePoint '-' :: first :: text) = none := by
    rw [scanConstant, infinity, scanConstant]
  exact last

theorem parseValue_ofInt {i : Int} {fuel : Nat} {c : CodePoint} {rest : Text} (ends : EndsNumeral c)
    (short : (Text.ofNat i.natAbs).length ≤ maxStrDigits) :
    parseValue (fuel + 1) (Text.ofInt i ++ c :: rest) = .ok (.int i, c :: rest) := by
  unfold Text.ofInt
  split
  · next negative =>
    obtain ⟨first, others, shape, _⟩ := ofNat_head i.natAbs
    have digit : isDigit first = true := ofNat_isDigit (n := i.natAbs) (by rw [shape]; simp)
    have word : scanConstant constants (codePoint '-' :: (Text.ofNat i.natAbs ++ c :: rest)) = none := by
      rw [shape]
      exact scanConstant_minus digit
    have number : scanNumber true (Text.ofNat i.natAbs ++ c :: rest) = .ok (.int (-i.natAbs), c :: rest) :=
      scanNumber_negative ends short
    have value : -(i.natAbs : Int) = i := by omega
    rw [value] at number
    have minus : codePoint '-' ≠ codePoint '"' ∧ codePoint '-' ≠ codePoint '[' ∧ codePoint '-' ≠ codePoint '{' := by
      decide
    simp [parseValue, scanScalar, word, number, minus]
  · next nonnegative =>
    have value : (i.natAbs : Int) = i := by omega
    have parsed : parseValue (fuel + 1) (Text.ofNat i.natAbs ++ c :: rest) = .ok (.int i.natAbs, c :: rest) :=
      parseValue_ofNat ends short
    rwa [value] at parsed

theorem floatText_head (shortest : FloatRepr) :
    ∃ c rest, shortest.text = c :: rest ∧ c ≠ codePoint '"' ∧ c ≠ codePoint '[' ∧ c ≠ codePoint '{' := by
  obtain ⟨all, some⟩ := shortest.isRepr
  cases shape : shortest.text with
  | nil => simp [shape] at some
  | cons c rest =>
      rw [shape, List.all_cons, Bool.and_eq_true] at all
      refine ⟨c, rest, rfl, ?_, ?_, ?_⟩ <;>
      · rintro rfl
        exact absurd all.1 (by decide)

theorem parseValue_dumpsFloat {py : Python} {f : PyFloat} (reads : ReadsBack py f) {fuel : Nat} {c : CodePoint}
    {rest : Text} (ends : EndsNumeral c) :
    parseValue (fuel + 1) (dumpsFloat f ++ c :: rest) = .ok (floatTree f, c :: rest) := by
  cases f with
  | finite shortest =>
      have scanned := reads.2 c rest ends
      obtain ⟨d, others, shape, notQuote, notBracket, notBrace⟩ := floatText_head shortest
      simp only [dumpsFloat, floatTree]
      rw [shape, List.cons_append] at scanned ⊢
      rw [parseValue, if_neg notQuote, if_neg notBracket, if_neg notBrace, scanned]
  | infinity => exact parseValue_constant (by simp [constants, dumpsFloat, floatTree]) fuel (c :: rest)
  | negInfinity => exact parseValue_constant (by simp [constants, dumpsFloat, floatTree]) fuel (c :: rest)
  | nan => exact parseValue_constant (by simp [constants, dumpsFloat, floatTree]) fuel (c :: rest)

/-! ## Arrays and objects -/

theorem join_singleton (part : Text) : Text.join "," [part] = part := by
  simp [Text.join]

theorem join_cons_cons (part next : Text) (others : List Text) :
    Text.join "," (part :: next :: others) = part ++ codePoint ',' :: Text.join "," (next :: others) := by
  simp [Text.join, List.intercalate, List.intersperse]
  rfl

theorem skipSpace_cons {c : CodePoint} {rest : Text} (solid : isJsonSpace c = false) :
    skipSpace (c :: rest) = c :: rest := by
  simp [skipSpace, solid]

theorem skipSpace_join {c : CodePoint} (solid : isJsonSpace c = false) (head : Text) (parts : List Text)
    (rest : Text) :
    skipSpace (Text.join "," ((c :: head) :: parts) ++ rest) = Text.join "," ((c :: head) :: parts) ++ rest := by
  cases parts with
  | nil =>
      rw [join_singleton]
      exact skipSpace_cons solid
  | cons next others =>
      rw [join_cons_cons, List.append_assoc]
      exact skipSpace_cons solid

/-- The characters that close an item or separate it from the next. -/
theorem endsNumeral_comma : EndsNumeral (codePoint ',') := by unfold EndsNumeral; decide
theorem endsNumeral_bracket : EndsNumeral (codePoint ']') := by unfold EndsNumeral; decide
theorem endsNumeral_brace : EndsNumeral (codePoint '\x7d') := by unfold EndsNumeral; decide

/-- How the text of a value may start. -/
def StartsValue (c : CodePoint) : Prop := isJsonSpace c = false ∧ c ≠ codePoint ']'

theorem startsValue_floatChar {c : CodePoint} (float : isFloatChar c = true) : StartsValue c := by
  constructor
  · by_contra space
    simp only [Bool.not_eq_false, isJsonSpace, Bool.or_eq_true, decide_eq_true_eq] at space
    rcases space with ((rfl | rfl) | rfl) | rfl <;> cases float
  · rintro rfl
    cases float

theorem isFloatChar_of_isDigit {c : CodePoint} (digit : isDigit c = true) : isFloatChar c = true := by
  have same : isDigit c = (0x30 ≤ c.val && c.val ≤ 0x39) := rfl
  simp [isFloatChar, ← same, digit]

theorem dumpsUnicode_head (value : Value) :
    ∃ c rest, dumpsUnicode false value = c :: rest ∧ StartsValue c := by
  cases value with
  | null => exact ⟨codePoint 'n', "ull", rfl, by decide, by decide⟩
  | bool b =>
      cases b with
      | true => exact ⟨codePoint 't', "rue", rfl, by decide, by decide⟩
      | false => exact ⟨codePoint 'f', "alse", rfl, by decide, by decide⟩
  | int i =>
      obtain ⟨first, others, shape, _⟩ := ofNat_head i.natAbs
      have digit : isDigit first = true := ofNat_isDigit (n := i.natAbs) (by rw [shape]; simp)
      simp only [dumpsUnicode, Text.ofInt]
      split
      · exact ⟨codePoint '-', _, rfl, by decide, by decide⟩
      · exact ⟨first, others, shape, startsValue_floatChar (isFloatChar_of_isDigit digit)⟩
  | float f =>
      cases f with
      | finite shortest =>
          obtain ⟨all, some⟩ := shortest.isRepr
          cases shape : shortest.text with
          | nil => simp [shape] at some
          | cons c rest =>
              rw [shape, List.all_cons, Bool.and_eq_true] at all
              exact ⟨c, rest, by simp [dumpsUnicode, dumpsFloat, shape], startsValue_floatChar all.1⟩
      | infinity => exact ⟨codePoint 'I', "nfinity", rfl, by decide, by decide⟩
      | negInfinity => exact ⟨codePoint '-', "Infinity", rfl, by decide, by decide⟩
      | nan => exact ⟨codePoint 'N', "aN", rfl, by decide, by decide⟩
  | str text => exact ⟨codePoint '"', _, rfl, by decide, by decide⟩
  | arr items => exact ⟨codePoint '[', _, rfl, by decide, by decide⟩
  | obj fields => exact ⟨codePoint '\x7b', _, rfl, by decide, by decide⟩

/-- The text of a value is read as its tree, and nothing after it is touched. -/
def Reads (value : Value) : Prop :=
  ∀ fuel c rest, EndsNumeral c → 2 * (dumpsUnicode false value).length ≤ fuel →
    parseValue fuel (dumpsUnicode false value ++ c :: rest) = .ok (value.tree, c :: rest)

/-- The items of an array up to its closing bracket. -/
theorem parseItems_dumpsUnicode (item : Value) (items : List Value) (reads : ∀ x ∈ item :: items, Reads x)
    (fuel : Nat) (rest : Text)
    (enough : 2 * (Text.join "," (dumpsUnicodeItems false (item :: items))).length < fuel) :
    parseItems fuel (Text.join "," (dumpsUnicodeItems false (item :: items)) ++ codePoint ']' :: rest) =
      .ok (treeItems (item :: items), rest) := by
  induction items generalizing item fuel with
  | nil =>
      obtain ⟨fuel, rfl⟩ := Nat.exists_eq_add_one_of_ne_zero (Nat.ne_zero_of_lt enough)
      simp only [dumpsUnicodeItems, join_singleton] at enough ⊢
      have first := reads item (by simp) fuel (codePoint ']') rest endsNumeral_bracket (by omega)
      simp [parseItems, first, skipSpace_cons (c := codePoint ']') (by decide), treeItems]
  | cons next others ih =>
      obtain ⟨fuel, rfl⟩ := Nat.exists_eq_add_one_of_ne_zero (Nat.ne_zero_of_lt enough)
      have rest' := ih next (fun x member => reads x (List.mem_cons_of_mem item member)) fuel
      simp only [dumpsUnicodeItems, join_cons_cons] at enough rest' ⊢
      simp only [List.length_append, List.length_cons] at enough
      have tail := rest' (by omega)
      have first := reads item (by simp) fuel (codePoint ',') (Text.join "," (dumpsUnicode false next ::
        dumpsUnicodeItems false others) ++ codePoint ']' :: rest) endsNumeral_comma (by omega)
      obtain ⟨c, head, shape, starts⟩ := dumpsUnicode_head next
      have skipped := skipSpace_join starts.1 head (dumpsUnicodeItems false others) (codePoint ']' :: rest)
      rw [← shape] at skipped
      rw [List.append_assoc, List.cons_append, parseItems, first]
      dsimp only
      rw [skipSpace_cons (by decide)]
      dsimp only
      rw [if_neg (by decide), if_pos rfl, skipped, tail]
      rfl

/-- The encoded members of an object. -/
def memberTexts (fields : Object) : List Text := (dumpsUnicodeFields false fields).map Prod.snd

theorem memberTexts_cons (key : Text) (value : Value) (fields : Object) :
    memberTexts ((key, value) :: fields) =
      (quoteUnicode key ++ codePoint ':' :: dumpsUnicode false value) :: memberTexts fields := rfl

theorem join_head {c : CodePoint} (head : Text) (parts : List Text) :
    ∃ rest, Text.join "," ((c :: head) :: parts) = c :: rest := by
  cases parts with
  | nil => exact ⟨head, join_singleton _⟩
  | cons next others => exact ⟨_, join_cons_cons _ _ _⟩

theorem memberTexts_head (key : Text) (value : Value) (fields : Object) :
    ∃ rest, Text.join "," (memberTexts ((key, value) :: fields)) = codePoint '"' :: rest := by
  rw [memberTexts_cons, quoteUnicode, List.cons_append]
  exact join_head _ _

/-- One member, up to the character after it. -/
theorem parseMembers_member {value : Value} (reads : Reads value) (key : Text) {d : CodePoint}
    (ends : EndsNumeral d) (solid : isJsonSpace d = false) {fuel : Nat} (rest : Text)
    (enough : 2 * (dumpsUnicode false value).length ≤ fuel) :
    parseMembers (fuel + 1) (quoteUnicode key ++ codePoint ':' :: (dumpsUnicode false value ++ d :: rest)) =
      if d = codePoint '\x7d' then .ok ([(key, value.tree)], rest)
      else if d = codePoint ',' then match parseMembers fuel (skipSpace rest) with
        | .error e => .error e
        | .ok (members, rest) => .ok ((key, value.tree) :: members, rest)
      else .error .jsonDecodeError := by
  obtain ⟨v, head, shape, starts⟩ := dumpsUnicode_head value
  have colon (after : Text) : skipSpace (codePoint ':' :: after) = codePoint ':' :: after :=
    skipSpace_cons (by decide)
  have skipped (after : Text) :
      skipSpace (dumpsUnicode false value ++ after) = dumpsUnicode false value ++ after := by
    rw [shape]
    exact skipSpace_cons starts.1
  have read := reads fuel d rest ends enough
  simp only [quoteUnicode, List.cons_append, List.append_assoc, List.nil_append]
  rw [parseMembers, if_neg (by decide), scanString_quoted]
  dsimp only
  rw [colon]
  dsimp only
  rw [if_neg (by decide), skipped, read]
  dsimp only
  rewrite [skipSpace_cons solid]
  rfl

/-- The members of an object up to its closing brace. -/
theorem parseMembers_dumpsUnicode (key : Text) (value : Value) (fields : Object)
    (reads : ∀ field ∈ (key, value) :: fields, Reads field.2) (fuel : Nat) (rest : Text)
    (enough : 2 * (Text.join "," (memberTexts ((key, value) :: fields))).length < fuel) :
    parseMembers fuel (Text.join "," (memberTexts ((key, value) :: fields)) ++ codePoint '\x7d' :: rest) =
      .ok (treeFields ((key, value) :: fields), rest) := by
  induction fields generalizing key value fuel with
  | nil =>
      obtain ⟨fuel, rfl⟩ := Nat.exists_eq_add_one_of_ne_zero (Nat.ne_zero_of_lt enough)
      have head : Reads value := reads (key, value) (List.mem_cons_self ..)
      have empty : memberTexts [] = [] := rfl
      rw [memberTexts_cons, empty, join_singleton] at enough ⊢
      simp only [List.length_append, List.length_cons] at enough
      rw [List.append_assoc, List.cons_append,
        parseMembers_member head key endsNumeral_brace (by decide) rest (by omega), if_pos rfl]
      rfl
  | cons next others ih =>
      obtain ⟨fuel, rfl⟩ := Nat.exists_eq_add_one_of_ne_zero (Nat.ne_zero_of_lt enough)
      obtain ⟨nextKey, nextValue⟩ := next
      have head : Reads value := reads (key, value) (List.mem_cons_self ..)
      have tail := ih nextKey nextValue (fun field member => reads field (List.mem_cons_of_mem _ member)) fuel
      obtain ⟨quoted, shape⟩ := memberTexts_head nextKey nextValue others
      rw [memberTexts_cons, memberTexts_cons, join_cons_cons, ← memberTexts_cons nextKey] at enough ⊢
      simp only [List.length_append, List.length_cons] at enough
      have skipped : skipSpace (Text.join "," (memberTexts ((nextKey, nextValue) :: others)) ++
          codePoint '\x7d' :: rest) =
          Text.join "," (memberTexts ((nextKey, nextValue) :: others)) ++ codePoint '\x7d' :: rest := by
        rw [shape]
        exact skipSpace_cons (by decide)
      rw [List.append_assoc, List.append_assoc, List.cons_append, List.cons_append,
        parseMembers_member head key endsNumeral_comma (by decide) _ (by omega), if_neg (by decide), if_pos rfl,
        skipped, tail (by omega)]
      rfl

theorem reads_scalar {value : Value} (scalar : ∀ fuel c rest, EndsNumeral c →
    parseValue (fuel + 1) (dumpsUnicode false value ++ c :: rest) = .ok (value.tree, c :: rest)) : Reads value := by
  intro fuel c rest ends enough
  obtain ⟨d, others, shape, _⟩ := dumpsUnicode_head value
  rw [shape, List.length_cons] at enough
  obtain ⟨fuel, rfl⟩ := Nat.exists_eq_add_one_of_ne_zero (show fuel ≠ 0 by omega)
  exact scalar fuel c rest ends

/-- An object is read whatever follows it. -/
theorem parseValue_obj (fields : Object) (reads : ∀ field ∈ fields, Reads field.2) (fuel : Nat) (rest : Text)
    (enough : 2 * (dumpsUnicode false (.obj fields)).length ≤ fuel) :
    parseValue fuel (dumpsUnicode false (.obj fields) ++ rest) = .ok (Value.tree (.obj fields), rest) := by
  have shape : dumpsUnicode false (.obj fields) =
      codePoint '\x7b' :: (Text.join "," (memberTexts fields) ++ [codePoint '\x7d']) := by
    simp [dumpsUnicode, orderFields, memberTexts]
  rw [shape] at enough ⊢
  simp only [List.length_append, List.length_cons, List.length_nil] at enough
  obtain ⟨fuel, rfl⟩ := Nat.exists_eq_add_one_of_ne_zero (show fuel ≠ 0 by omega)
  rw [List.cons_append, List.append_assoc, parseValue, if_neg (by decide), if_neg (by decide), if_pos rfl]
  cases fields with
  | nil => rfl
  | cons field others =>
      obtain ⟨key, value⟩ := field
      have members := parseMembers_dumpsUnicode key value others reads fuel rest (by omega)
      obtain ⟨quoted, shape⟩ := memberTexts_head key value others
      rw [shape] at members ⊢
      rw [List.cons_append] at members ⊢
      simp only [List.singleton_append]
      rw [skipSpace_cons (by decide)]
      dsimp only
      rw [if_neg (by decide), members]
      rfl

theorem readableItems_iff {py : Python} {items : List Value} :
    ReadableItems py items ↔ ∀ item ∈ items, item.Readable py := by
  induction items with
  | nil => simp [ReadableItems]
  | cons item rest ih => simp [ReadableItems, ih]

theorem readableFields_iff {py : Python} {fields : List (Text × Value)} :
    ReadableFields py fields ↔ ∀ field ∈ fields, field.2.Readable py := by
  induction fields with
  | nil => simp [ReadableFields]
  | cons field rest ih =>
      obtain ⟨key, value⟩ := field
      simp [ReadableFields, ih]

theorem Value.Readable.reads {py : Python} {value : Value} (readable : value.Readable py) : Reads value := by
  induction value using Value.induction with
  | null => exact reads_scalar fun fuel c rest _ => parseValue_constant (by simp [constants, dumpsUnicode, Value.tree]) fuel _
  | bool b =>
      cases b <;>
        exact reads_scalar fun fuel c rest _ =>
          parseValue_constant (by simp [constants, dumpsUnicode, Value.tree]) fuel _
  | int i => exact reads_scalar fun fuel c rest ends => parseValue_ofInt ends readable
  | float f => exact reads_scalar fun fuel c rest ends => parseValue_dumpsFloat readable ends
  | str text => exact reads_scalar fun fuel c rest _ => parseValue_quoteUnicode fuel text _
  | arr items ih =>
      have all := readableItems_iff.mp readable
      intro fuel c rest _ enough
      simp only [dumpsUnicode, List.length_cons, List.length_append, List.length_nil] at enough ⊢
      obtain ⟨fuel, rfl⟩ := Nat.exists_eq_add_one_of_ne_zero (show fuel ≠ 0 by omega)
      rw [List.cons_append, List.append_assoc, parseValue, if_neg (by decide), if_pos rfl]
      cases items with
      | nil => rfl
      | cons item others =>
          have items := parseItems_dumpsUnicode item others (fun x member => ih x member (all x member)) fuel
            (c :: rest) (by omega)
          obtain ⟨d, head, shape, starts⟩ := dumpsUnicode_head item
          obtain ⟨joined, first⟩ := join_head (c := d) head (dumpsUnicodeItems false others)
          rw [dumpsUnicodeItems, shape, first] at items
          rw [dumpsUnicodeItems, shape, first]
          rw [List.cons_append] at items ⊢
          simp only [List.singleton_append]
          rw [skipSpace_cons starts.1]
          dsimp only
          rw [if_neg starts.2, items]
          rfl
  | obj fields ih =>
      have all := readableFields_iff.mp readable.2
      exact fun fuel c rest _ enough =>
        parseValue_obj fields (fun field member => ih field member (all field member)) fuel (c :: rest) enough

/-! ## The value of the tree -/

theorem assign_fresh {fields : Object} {key : Text} (fresh : key ∉ fields.keys) (value : Value) :
    fields.assign key value = fields ++ [(key, value)] := by
  induction fields with
  | nil => rfl
  | cons field rest ih =>
      obtain ⟨name, old⟩ := field
      rw [Object.keys_cons, List.mem_cons, not_or] at fresh
      rw [Object.assign, if_neg (Ne.symm fresh.1), ih fresh.2]
      rfl

/-- Members with distinct keys are kept in their order. -/
theorem memberValues_fresh {py : Python} (members : List (Text × Syntax)) (fields : Object)
    (nodup : (fields.keys ++ members.map Prod.fst).Nodup) :
    memberValues py fields members = fields ++ members.map fun member => (member.1, member.2.value py) := by
  induction members generalizing fields with
  | nil => simp [memberValues]
  | cons member rest ih =>
      obtain ⟨key, tree⟩ := member
      have fresh : key ∉ fields.keys := fun member =>
        List.disjoint_of_nodup_append nodup member (by simp)
      have keys : (fields ++ [(key, tree.value py)]).keys ++ rest.map Prod.fst =
          fields.keys ++ ((key, tree) :: rest).map Prod.fst := by
        simp [Object.keys]
      rw [memberValues, assign_fresh fresh, ih _ (keys ▸ nodup)]
      simp

theorem treeFields_eq (fields : Object) : treeFields fields = fields.map fun field => (field.1, field.2.tree) := by
  induction fields with
  | nil => rfl
  | cons field rest ih => rw [treeFields, ih]; rfl

theorem itemValues_treeItems {py : Python} {items : List Value} (same : ∀ item ∈ items, item.tree.value py = item) :
    itemValues py (treeItems items) = items := by
  induction items with
  | nil => rfl
  | cons item rest ih =>
      obtain ⟨head, tail⟩ := List.forall_mem_cons.mp same
      rw [treeItems, itemValues, head, ih tail]

theorem Value.Readable.tree_value {py : Python} {value : Value} (readable : value.Readable py) :
    value.tree.value py = value := by
  induction value using Value.induction with
  | null | bool | int | str => rfl
  | float f =>
      cases f with
      | finite shortest =>
          have same : py.float shortest.text = .finite shortest := readable.1
          simp [Value.tree, floatTree, Syntax.value, same]
      | infinity | negInfinity | nan => rfl
  | arr items ih =>
      have all := readableItems_iff.mp readable
      rw [Value.tree, Syntax.value, itemValues_treeItems fun item member => ih item member (all item member)]
  | obj fields ih =>
      have all := readableFields_iff.mp readable.2
      have nodup : (Object.keys [] ++ (treeFields fields).map Prod.fst).Nodup := by
        simpa [treeFields_eq, Object.keys, Function.comp_def] using readable.1
      rw [Value.tree, Syntax.value, memberValues_fresh _ _ nodup, treeFields_eq]
      simp only [List.nil_append, List.map_map, Value.obj.injEq]
      refine List.map_congr_left (fun field member => ?_) |>.trans (List.map_id fields)
      exact Prod.ext rfl (ih field member (all field member))

/-- The text of an object is parsed to its tree. -/
theorem parseDocument_dumpsUnicode {py : Python} {fields : Object} (readable : (Value.obj fields).Readable py) :
    parseDocument (dumpsUnicode false (.obj fields)) = .ok (Value.tree (.obj fields)) := by
  have all := readableFields_iff.mp readable.2
  have parsed := parseValue_obj fields (fun field member => (all field member).reads)
    (parseFuel (dumpsUnicode false (.obj fields))) [] (by rw [parseFuel]; omega)
  rw [List.append_nil] at parsed
  obtain ⟨c, rest, shape, starts⟩ := dumpsUnicode_head (.obj fields)
  have skipped : skipSpace (dumpsUnicode false (.obj fields)) = dumpsUnicode false (.obj fields) := by
    rw [shape]
    exact skipSpace_cons starts.1
  rw [parseDocument, skipped, parsed]
  rfl

/-- `json.loads(json.dumps(value, ensure_ascii=False)) == value` for objects. -/
theorem loads_dumpsUnicode {py : Python} {fields : Object} (readable : (Value.obj fields).Readable py) :
    loads py (dumpsUnicode false (.obj fields)) = .ok (.obj fields) := by
  rw [loads, parseDocument_dumpsUnicode readable, Except.map, readable.tree_value]

/-! ## No control characters -/

/-- Every character of a text is one that JSON does not escape by number. -/
def Uncontrolled (text : Text) : Prop := ∀ c ∈ text, 0x20 ≤ c.val

theorem Uncontrolled.append {left right : Text} (first : Uncontrolled left) (second : Uncontrolled right) :
    Uncontrolled (left ++ right) := fun c member =>
  (List.mem_append.mp member).elim (first c) (second c)

theorem Uncontrolled.cons {c : CodePoint} {text : Text} (head : 0x20 ≤ c.val) (tail : Uncontrolled text) :
    Uncontrolled (c :: text) := fun d member =>
  (List.mem_cons.mp member).elim (fun same => same ▸ head) (tail d)

instance (text : Text) : Decidable (Uncontrolled text) := List.decidableBAll _ text

theorem hexChar_uncontrolled (digit : Nat) : 0x20 ≤ (hexChar (digit % 16)).val := by
  have small : digit % 16 < 16 := Nat.mod_lt _ (by decide)
  generalize digit % 16 = d at small
  interval_cases d <;> decide

theorem escapeControl_uncontrolled (c : CodePoint) : Uncontrolled (escapeControl c) := by
  unfold escapeControl
  split
  · decide
  split
  · decide
  split
  · decide
  split
  · decide
  split
  · decide
  split
  · decide
  split
  · decide
  split
  · intro d member
    simp only [unicodeEscape, List.mem_cons, List.not_mem_nil, or_false] at member
    rcases member with rfl | rfl | rfl | rfl | rfl | rfl
    · decide
    · decide
    all_goals exact hexChar_uncontrolled _
  · intro d member
    rw [List.mem_singleton.mp member]
    omega

theorem quoteUnicode_uncontrolled (text : Text) : Uncontrolled (quoteUnicode text) := by
  refine .cons (by decide) (.append (fun c member => ?_) (by decide))
  obtain ⟨d, _, escaped⟩ := List.mem_flatMap.mp member
  exact escapeControl_uncontrolled d c escaped

theorem join_uncontrolled {parts : List Text} (all : ∀ part ∈ parts, Uncontrolled part) :
    Uncontrolled (Text.join "," parts) := by
  induction parts with
  | nil => exact fun c member => (by cases member)
  | cons part rest ih =>
      obtain ⟨head, tail⟩ := List.forall_mem_cons.mp all
      cases rest with
      | nil =>
          rw [join_singleton]
          exact head
      | cons next others =>
          rw [join_cons_cons]
          exact head.append (.cons (by decide) (ih tail))

theorem ofNat_uncontrolled (n : Nat) : Uncontrolled (Text.ofNat n) := by
  intro c member
  have digit := ofNat_isDigit member
  have same : isDigit c = (0x30 ≤ c.val && c.val ≤ 0x39) := rfl
  simp only [same, Bool.and_eq_true, decide_eq_true_eq] at digit
  omega

theorem dumpsFloat_uncontrolled (f : PyFloat) : Uncontrolled (dumpsFloat f) := by
  cases f with
  | finite shortest =>
      intro c member
      have float := List.all_eq_true.mp shortest.isRepr.1 c member
      by_contra control
      simp only [isFloatChar, Bool.or_eq_true, Bool.and_eq_true, decide_eq_true_eq] at float
      rcases float with (((digit | rfl) | rfl) | rfl) | rfl
      · exact control (by omega)
      all_goals exact control (by decide)
  | infinity | negInfinity | nan => decide

/-- A JSON text is a single line, whatever its strings hold. -/
theorem dumpsUnicode_uncontrolled (value : Value) : Uncontrolled (dumpsUnicode false value) := by
  induction value using Value.induction with
  | null => decide
  | bool b => cases b <;> decide
  | int i =>
      simp only [dumpsUnicode, Text.ofInt]
      split
      · exact .cons (by decide) (ofNat_uncontrolled _)
      · exact ofNat_uncontrolled _
  | float f => exact dumpsFloat_uncontrolled f
  | str text => exact quoteUnicode_uncontrolled text
  | arr items ih =>
      have texts : ∀ part ∈ dumpsUnicodeItems false items, Uncontrolled part := by
        induction items with
        | nil => exact fun part member => (by cases member)
        | cons item rest tail =>
            obtain ⟨head, others⟩ := List.forall_mem_cons.mp ih
            exact List.forall_mem_cons.mpr ⟨head, tail others⟩
      exact .cons (by decide) (.append (join_uncontrolled texts) (by decide))
  | obj fields ih =>
      have texts : ∀ part ∈ memberTexts fields, Uncontrolled part := by
        induction fields with
        | nil => exact fun part member => (by cases member)
        | cons field rest tail =>
            obtain ⟨key, value⟩ := field
            obtain ⟨head, others⟩ := List.forall_mem_cons.mp ih
            rw [memberTexts_cons]
            exact List.forall_mem_cons.mpr
              ⟨(quoteUnicode_uncontrolled key).append (.cons (by decide) head), tail others⟩
      have shape : dumpsUnicode false (.obj fields) =
          codePoint '\x7b' :: (Text.join "," (memberTexts fields) ++ [codePoint '\x7d']) := by
        simp [dumpsUnicode, orderFields, memberTexts]
      rw [shape]
      exact .cons (by decide) (.append (join_uncontrolled texts) (by decide))

/-! ## Values that are readable as soon as they are printable -/

mutual
/-- No object repeats a key, and every float is read back. -/
def Value.Clean (py : Python) : Value → Prop
  | .float f => ReadsBack py f
  | .arr items => CleanItems py items
  | .obj fields => (Object.keys fields).Nodup ∧ CleanFields py fields
  | _ => True

def CleanItems (py : Python) : List Value → Prop
  | [] => True
  | item :: rest => item.Clean py ∧ CleanItems py rest

def CleanFields (py : Python) : List (Text × Value) → Prop
  | [] => True
  | (_, value) :: rest => value.Clean py ∧ CleanFields py rest
end

section
variable {py : Python}

theorem cleanItems_iff {items : List Value} : CleanItems py items ↔ ∀ item ∈ items, item.Clean py := by
  induction items with
  | nil => simp [CleanItems]
  | cons item rest ih => simp [CleanItems, ih]

theorem cleanFields_iff {fields : List (Text × Value)} :
    CleanFields py fields ↔ ∀ field ∈ fields, field.2.Clean py := by
  induction fields with
  | nil => simp [CleanFields]
  | cons field rest ih =>
      obtain ⟨key, value⟩ := field
      simp [CleanFields, ih]

theorem printableItems_iff {items : List Value} :
    printableItems items = true ↔ ∀ item ∈ items, item.printable = true := by
  induction items with
  | nil => simp [printableItems]
  | cons item rest ih => simp [printableItems, ih]

theorem printableFields_iff {fields : List (Text × Value)} :
    printableFields fields = true ↔ ∀ field ∈ fields, field.2.printable = true := by
  induction fields with
  | nil => simp [printableFields]
  | cons field rest ih =>
      obtain ⟨key, value⟩ := field
      simp [printableFields, ih]

theorem Value.Clean.readable {value : Value} (clean : value.Clean py) (printable : value.printable = true) :
    value.Readable py := by
  induction value using Value.induction with
  | null | bool | str => trivial
  | int i => simpa [Value.printable, Value.Readable] using printable
  | float f => exact clean
  | arr items ih =>
      have cleans := cleanItems_iff.mp clean
      have prints := printableItems_iff.mp printable
      exact readableItems_iff.mpr fun item member => ih item member (cleans item member) (prints item member)
  | obj fields ih =>
      have cleans := cleanFields_iff.mp clean.2
      have prints := printableFields_iff.mp printable
      exact ⟨clean.1, readableFields_iff.mpr fun field member =>
        ih field member (cleans field member) (prints field member)⟩

/-- The fields of a clean object. -/
def Object.Clean (py : Python) (fields : Object) : Prop := (Value.obj fields).Clean py

namespace Object.Clean

variable {fields : Object}

theorem nodup (clean : fields.Clean py) : fields.keys.Nodup := clean.1

theorem values (clean : fields.Clean py) : ∀ field ∈ fields, field.2.Clean py := cleanFields_iff.mp clean.2

theorem mk (nodup : fields.keys.Nodup) (values : ∀ field ∈ fields, field.2.Clean py) : fields.Clean py :=
  ⟨nodup, cleanFields_iff.mpr values⟩

theorem get? (clean : fields.Clean py) {key : Text} {value : Value} (found : fields.get? key = some value) :
    value.Clean py := by
  have all := clean.values
  clear clean
  induction fields with
  | nil => cases found
  | cons field rest ih =>
      obtain ⟨name, first⟩ := field
      obtain ⟨head, tail⟩ := List.forall_mem_cons.mp all
      rw [Object.get?_cons] at found
      split at found
      · cases found
        exact head
      · exact ih found tail

theorem assign (clean : fields.Clean py) (key : Text) {value : Value} (added : value.Clean py) :
    Object.Clean py (fields.assign key value) := by
  refine .mk (fields.nodup_keys_assign key value clean.nodup) ?_
  have all := clean.values
  clear clean
  induction fields with
  | nil =>
      intro field member
      rw [List.mem_singleton.mp member]
      exact added
  | cons field rest ih =>
      obtain ⟨name, first⟩ := field
      obtain ⟨head, tail⟩ := List.forall_mem_cons.mp all
      rw [Object.assign]
      split
      · exact List.forall_mem_cons.mpr ⟨added, tail⟩
      · exact List.forall_mem_cons.mpr ⟨head, ih tail⟩

theorem filter (clean : fields.Clean py) (keep : Text × Value → Bool) :
    Object.Clean py (List.filter keep fields) := by
  refine .mk ?_ fun field member => clean.values field (List.mem_of_mem_filter member)
  exact clean.nodup.sublist (List.filter_sublist.map Prod.fst)

end Object.Clean

end

end HarnessProxy.Json

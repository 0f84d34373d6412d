import HarnessProxy.Json.RoundTrip

namespace HarnessProxy.Json

/-! # Objects with sorted keys

`json.dumps` with `sort_keys=True` prints the value whose objects have their
members in the order of the keys, so that this value is what `json.loads` reads
back.
-/

/-- The order of members by key. -/
def keyOrder (left right : Text × Value) : Prop := left.1 ≤ right.1

instance : DecidableRel keyOrder := fun left right => inferInstanceAs (Decidable (left.1 ≤ right.1))

mutual
/-- The value with the members of every object in the order of their keys. -/
def Value.canonical : Value → Value
  | .arr items => .arr (canonicalItems items)
  | .obj fields => .obj ((canonicalFields fields).insertionSort keyOrder)
  | value => value

def canonicalItems : List Value → List Value
  | [] => []
  | item :: rest => item.canonical :: canonicalItems rest

def canonicalFields : List (Text × Value) → List (Text × Value)
  | [] => []
  | (key, value) :: rest => (key, value.canonical) :: canonicalFields rest
end

theorem canonicalItems_eq (items : List Value) : canonicalItems items = items.map Value.canonical := by
  induction items with
  | nil => rfl
  | cons item rest ih => rw [canonicalItems, ih, List.map_cons]

theorem canonicalFields_eq (fields : Object) :
    canonicalFields fields = fields.map fun field => (field.1, field.2.canonical) := by
  induction fields with
  | nil => rfl
  | cons field rest ih => rw [canonicalFields, ih, List.map_cons]

/-- An object with the members in the order of their keys. -/
def Object.canonical (fields : Object) : Object := (canonicalFields fields).insertionSort keyOrder

theorem Object.canonical_perm (fields : Object) :
    fields.canonical.Perm (fields.map fun field => (field.1, field.2.canonical)) := by
  rw [← canonicalFields_eq]
  exact List.perm_insertionSort keyOrder _

theorem dumpsUnicodeItems_eq (sortKeys : Bool) (items : List Value) :
    dumpsUnicodeItems sortKeys items = items.map (dumpsUnicode sortKeys) := by
  induction items with
  | nil => rfl
  | cons item rest ih => rw [dumpsUnicodeItems, ih, List.map_cons]

/-- The encoded text of a member with its key. -/
def memberText (sortKeys : Bool) (field : Text × Value) : Text × Text :=
  (field.1, quoteUnicode field.1 ++ codePoint ':' :: dumpsUnicode sortKeys field.2)

theorem dumpsUnicodeFields_eq (sortKeys : Bool) (fields : Object) :
    dumpsUnicodeFields sortKeys fields = fields.map (memberText sortKeys) := by
  induction fields with
  | nil => rfl
  | cons field rest ih =>
      rw [dumpsUnicodeFields, ih, List.map_cons]
      rfl

/-- Sorting while printing is sorting before printing. -/
theorem dumpsUnicode_canonical (value : Value) : dumpsUnicode true value = dumpsUnicode false value.canonical := by
  induction value using Value.induction with
  | null | int | float | str => rfl
  | bool b => cases b <;> rfl
  | arr items ih =>
      have each : items.map (dumpsUnicode true) = (items.map Value.canonical).map (dumpsUnicode false) := by
        rw [List.map_map]
        exact List.map_congr_left ih
      simp only [Value.canonical, dumpsUnicode, dumpsUnicodeItems_eq, canonicalItems_eq, each]
  | obj fields ih =>
      have each : fields.map (memberText true) =
          (fields.map fun field => (field.1, field.2.canonical)).map (memberText false) := by
        rw [List.map_map]
        refine List.map_congr_left fun field member => ?_
        simp [memberText, ih field member]
      have sorted := List.map_insertionSort keyOrder (fun left right : Text × Text => left.1 ≤ right.1)
        (memberText false) (canonicalFields fields) fun _ _ _ _ => Iff.rfl
      simp only [Value.canonical, dumpsUnicode, dumpsUnicodeFields_eq, orderFields, if_true, each]
      rw [← canonicalFields_eq, ← sorted]
      rfl

/-! ## What sorting keeps -/

theorem Object.canonical_keys_perm (fields : Object) : (Object.keys fields.canonical).Perm fields.keys := by
  have perm := fields.canonical_perm.map Prod.fst
  rwa [List.map_map] at perm

theorem Object.mem_canonical {fields : Object} {field : Text × Value} (member : field ∈ fields.canonical) :
    ∃ original ∈ fields, field = (original.1, original.2.canonical) := by
  obtain ⟨original, member, same⟩ := List.mem_map.mp (fields.canonical_perm.mem_iff.mp member)
  exact ⟨original, member, same.symm⟩

theorem Value.Clean.canonical {py : Python} {value : Value} (clean : value.Clean py) :
    value.canonical.Clean py := by
  induction value using Value.induction with
  | null | bool | int | float | str => exact clean
  | arr items ih =>
      have all := cleanItems_iff.mp clean
      rw [Value.canonical, canonicalItems_eq]
      refine cleanItems_iff.mpr fun item member => ?_
      obtain ⟨original, inside, rfl⟩ := List.mem_map.mp member
      exact ih original inside (all original inside)
  | obj fields ih =>
      have all := cleanFields_iff.mp clean.2
      refine ⟨(Object.canonical_keys_perm fields).nodup_iff.mpr clean.1, cleanFields_iff.mpr fun field member => ?_⟩
      obtain ⟨original, inside, rfl⟩ := Object.mem_canonical member
      exact ih original inside (all original inside)

theorem Value.printable_canonical {value : Value} (printable : value.printable = true) :
    value.canonical.printable = true := by
  induction value using Value.induction with
  | null | bool | int | float | str => exact printable
  | arr items ih =>
      have all := printableItems_iff.mp printable
      rw [Value.canonical, canonicalItems_eq]
      refine printableItems_iff.mpr fun item member => ?_
      obtain ⟨original, inside, rfl⟩ := List.mem_map.mp member
      exact ih original inside (all original inside)
  | obj fields ih =>
      have all := printableFields_iff.mp printable
      refine printableFields_iff.mpr fun field member => ?_
      obtain ⟨original, inside, rfl⟩ := Object.mem_canonical member
      exact ih original inside (all original inside)

theorem SameFields.of_perm {fs gs : Object} (perm : fs.Perm gs) : SameFields fs gs := by
  induction perm with
  | nil => exact .nil
  | cons field _ ih => exact .cons (.refl field.2) ih
  | swap first second rest => exact .swap second first rest
  | trans _ _ firstIH secondIH => exact firstIH.trans secondIH

/-- Sorting the members leaves a value the same JSON. -/
theorem Value.same_canonical (value : Value) : Same value value.canonical := by
  induction value using Value.induction with
  | null | bool | int | float | str => exact .refl _
  | arr items ih =>
      refine .arr ?_
      rw [canonicalItems_eq]
      induction items with
      | nil => exact .nil
      | cons item rest tail =>
          obtain ⟨head, others⟩ := List.forall_mem_cons.mp ih
          exact .cons head (tail others)
  | obj fields ih =>
      have each : SameFields fields (fields.map fun field => (field.1, field.2.canonical)) := by
        induction fields with
        | nil => exact .nil
        | cons field rest tail =>
            obtain ⟨head, others⟩ := List.forall_mem_cons.mp ih
            exact .cons head (tail others)
      exact .obj (each.trans (.of_perm (Object.canonical_perm fields).symm))

/-- `json.loads(json.dumps(fields, sort_keys=True))` has the members in order. -/
theorem loads_dumpsUnicode_sorted {py : Python} {fields : Object} (clean : fields.Clean py)
    (printable : (Value.obj fields).printable = true) :
    loads py (dumpsUnicode true (.obj fields)) = .ok (.obj fields.canonical) := by
  rw [dumpsUnicode_canonical]
  exact loads_dumpsUnicode (Value.Clean.readable (Value.Clean.canonical clean) (Value.printable_canonical printable))

/-! ## Characters -/

mutual
/-- A character of a key or of a string, at any depth. -/
def Value.Contains (c : CodePoint) : Value → Prop
  | .str text => c ∈ text
  | .arr items => ItemsContain c items
  | .obj fields => FieldsContain c fields
  | _ => False

def ItemsContain (c : CodePoint) : List Value → Prop
  | [] => False
  | item :: rest => item.Contains c ∨ ItemsContain c rest

def FieldsContain (c : CodePoint) : List (Text × Value) → Prop
  | [] => False
  | (key, value) :: rest => c ∈ key ∨ value.Contains c ∨ FieldsContain c rest
end

section
variable {c : CodePoint}

theorem itemsContain_iff {items : List Value} : ItemsContain c items ↔ ∃ item ∈ items, item.Contains c := by
  induction items with
  | nil => simp [ItemsContain]
  | cons item rest ih => simp [ItemsContain, ih]

theorem fieldsContain_iff {fields : Object} :
    FieldsContain c fields ↔ ∃ field ∈ fields, c ∈ field.1 ∨ field.2.Contains c := by
  induction fields with
  | nil => simp [FieldsContain]
  | cons field rest ih => simp [FieldsContain, ih, or_assoc]

theorem mem_join {separator : Text} {parts : List Text} (other : c ∉ separator) :
    c ∈ Text.join separator parts ↔ ∃ part ∈ parts, c ∈ part := by
  induction parts with
  | nil => simp [Text.join]
  | cons part rest ih =>
      cases rest with
      | nil => simp [Text.join]
      | cons next others =>
          have joined : Text.join separator (part :: next :: others) =
              part ++ (separator ++ Text.join separator (next :: others)) := by
            simp [Text.join, List.intercalate]
          rw [joined, List.mem_append, List.mem_append, ih]
          simp [other]

theorem Value.contains_canonical {value : Value} : value.canonical.Contains c ↔ value.Contains c := by
  induction value using Value.induction with
  | null | bool | int | float | str => exact Iff.rfl
  | arr items ih =>
      rw [Value.canonical, canonicalItems_eq]
      simp only [Value.Contains, itemsContain_iff, List.mem_map, exists_exists_and_eq_and]
      exact exists_congr fun item => and_congr_right fun member => ih item member
  | obj fields ih =>
      have sorted (field : Text × Value) : field ∈ Object.canonical fields ↔
          ∃ original ∈ fields, (original.1, original.2.canonical) = field := by
        rw [(Object.canonical_perm fields).mem_iff, List.mem_map]
      change FieldsContain c (Object.canonical fields) ↔ FieldsContain c fields
      simp only [fieldsContain_iff, sorted]
      constructor
      · rintro ⟨_, ⟨original, member, rfl⟩, found⟩
        exact ⟨original, member, found.imp_right (ih original member).mp⟩
      · rintro ⟨original, member, found⟩
        exact ⟨_, ⟨original, member, rfl⟩, found.imp_right (ih original member).mpr⟩

theorem Object.mem_assign {fields : Object} {key : Text} {value : Value} {field : Text × Value}
    (member : field ∈ fields.assign key value) : field = (key, value) ∨ field ∈ fields := by
  induction fields with
  | nil => exact .inl (List.mem_singleton.mp member)
  | cons first rest ih =>
      obtain ⟨name, old⟩ := first
      rw [Object.assign] at member
      split at member
      · exact (List.mem_cons.mp member).imp_right (List.mem_cons_of_mem _)
      · rcases List.mem_cons.mp member with same | inside
        · exact .inr (same ▸ List.mem_cons_self)
        · exact (ih inside).imp_right (List.mem_cons_of_mem _)

theorem contains_assign {fields : Object} {key : Text} {value : Value}
    (found : (Value.obj (fields.assign key value)).Contains c) :
    (Value.obj fields).Contains c ∨ c ∈ key ∨ value.Contains c := by
  obtain ⟨field, member, inside⟩ := fieldsContain_iff.mp found
  rcases Object.mem_assign member with rfl | member
  · exact .inr inside
  · exact .inl (fieldsContain_iff.mpr ⟨field, member, inside⟩)

theorem printable_assign {fields : Object} (printable : (Value.obj fields).printable = true) (key : Text)
    {value : Value} (added : value.printable = true) : (Value.obj (fields.assign key value)).printable = true := by
  refine printableFields_iff.mpr fun field member => ?_
  rcases Object.mem_assign member with rfl | member
  · exact added
  · exact printableFields_iff.mp printable field member

/-- A character that is not ASCII. -/
def Wide (c : CodePoint) : Prop := 0x80 ≤ c.val

def isAscii (c : CodePoint) : Bool := c.val < 0x80

theorem Wide.not_mem {text : Text} (wide : Wide c) (ascii : text.all isAscii = true) : c ∉ text := by
  intro member
  have bound := of_decide_eq_true (List.all_eq_true.mp ascii c member)
  unfold Wide at wide
  omega

theorem Wide.ne {d : CodePoint} (wide : Wide c) (ascii : isAscii d = true) : c ≠ d := by
  rintro rfl
  exact wide.not_mem (List.all_eq_true.mpr (List.forall_mem_singleton.mpr ascii)) (List.mem_singleton_self c)

theorem hexChar_ascii (digit : Nat) : isAscii (hexChar (digit % 16)) = true := by
  have small : digit % 16 < 16 := Nat.mod_lt _ (by decide)
  generalize digit % 16 = d at small
  interval_cases d <;> decide

theorem unicodeEscape_ascii (unit : Nat) : (unicodeEscape unit).all isAscii = true := by
  simp [unicodeEscape, hexChar_ascii]
  decide

/-- A character is escaped in ASCII or not at all. -/
theorem escapeControl_cases (d : CodePoint) :
    ((escapeControl d).all isAscii = true ∧ isAscii d = true) ∨ escapeControl d = [d] := by
  unfold escapeControl
  split
  · next same => exact .inl ⟨by decide, by rw [same]; decide⟩
  split
  · next same => exact .inl ⟨by decide, by rw [same]; decide⟩
  split
  · next same => exact .inl ⟨by decide, by simp [isAscii, same]⟩
  split
  · next same => exact .inl ⟨by decide, by simp [isAscii, same]⟩
  split
  · next same => exact .inl ⟨by decide, by simp [isAscii, same]⟩
  split
  · next same => exact .inl ⟨by decide, by simp [isAscii, same]⟩
  split
  · next same => exact .inl ⟨by decide, by simp [isAscii, same]⟩
  split
  · next control => exact .inl ⟨unicodeEscape_ascii _, by simp [isAscii]; omega⟩
  · exact .inr rfl

theorem mem_escapeControl (wide : Wide c) (d : CodePoint) : c ∈ escapeControl d ↔ c = d := by
  rcases escapeControl_cases d with ⟨escaped, ascii⟩ | plain
  · exact iff_of_false (wide.not_mem escaped) (wide.ne ascii)
  · rw [plain, List.mem_singleton]

theorem mem_quoteUnicode (wide : Wide c) (text : Text) : c ∈ quoteUnicode text ↔ c ∈ text := by
  have quotes : c ∉ [codePoint '"'] := wide.not_mem (by decide)
  have inner : c ∈ text.flatMap escapeControl ↔ c ∈ text := by
    simp [List.mem_flatMap, mem_escapeControl wide]
  rw [quoteUnicode, List.mem_cons, List.mem_append, inner]
  rw [List.mem_singleton] at quotes
  simp [quotes]

theorem ofInt_ascii (i : Int) : (Text.ofInt i).all isAscii = true := by
  have digits (n : Nat) : (Text.ofNat n).all isAscii = true := by
    refine List.all_eq_true.mpr fun d member => ?_
    have digit := ofNat_isDigit member
    simp only [isDigit, Bool.and_eq_true, decide_eq_true_eq] at digit
    exact decide_eq_true (by omega)
  unfold Text.ofInt
  split
  · rw [List.all_cons, digits]
    decide
  · exact digits _

theorem dumpsFloat_ascii (f : PyFloat) : (dumpsFloat f).all isAscii = true := by
  cases f with
  | finite shortest =>
      refine List.all_eq_true.mpr fun d member => ?_
      have float := List.all_eq_true.mp shortest.isRepr.1 d member
      simp only [isFloatChar, Bool.or_eq_true, Bool.and_eq_true, decide_eq_true_eq] at float
      rcases float with (((digit | rfl) | rfl) | rfl) | rfl
      · exact decide_eq_true (by omega)
      all_goals decide
  | infinity | negInfinity | nan => decide

/-- Printing keeps the characters that are not ASCII as they are. -/
theorem mem_dumpsUnicode (wide : Wide c) (value : Value) : c ∈ dumpsUnicode false value ↔ value.Contains c := by
  induction value using Value.induction with
  | null => exact iff_of_false (wide.not_mem (by decide)) id
  | bool b => cases b <;> exact iff_of_false (wide.not_mem (by decide)) id
  | int i => exact iff_of_false (wide.not_mem (ofInt_ascii i)) id
  | float f => exact iff_of_false (wide.not_mem (dumpsFloat_ascii f)) id
  | str text => exact mem_quoteUnicode wide text
  | arr items ih =>
      have comma : c ∉ ("," : Text) := wide.not_mem (by decide)
      have first : c ≠ codePoint '[' := wide.ne (by decide)
      have last : c ≠ codePoint ']' := wide.ne (by decide)
      rw [dumpsUnicode, List.mem_cons, List.mem_append, mem_join comma, dumpsUnicodeItems_eq]
      simp only [first, last, List.mem_singleton, false_or, or_false, Value.Contains, itemsContain_iff, List.mem_map,
        exists_exists_and_eq_and]
      exact exists_congr fun item => and_congr_right fun member => ih item member
  | obj fields ih =>
      have comma : c ∉ ("," : Text) := wide.not_mem (by decide)
      have first : c ≠ codePoint '{' := wide.ne (by decide)
      have last : c ≠ codePoint '}' := wide.ne (by decide)
      have colon : c ≠ codePoint ':' := wide.ne (by decide)
      have shape : dumpsUnicode false (.obj fields) = codePoint '{' ::
          (Text.join "," (fields.map fun field => (memberText false field).2) ++ [codePoint '}']) := by
        simp [dumpsUnicode, orderFields, dumpsUnicodeFields_eq, Function.comp_def]
      rw [shape, List.mem_cons, List.mem_append, mem_join comma]
      simp only [first, last, List.mem_singleton, false_or, or_false, Value.Contains, fieldsContain_iff, List.mem_map,
        exists_exists_and_eq_and]
      refine exists_congr fun field => and_congr_right fun member => ?_
      rw [memberText, List.mem_append, List.mem_cons, mem_quoteUnicode wide, ih field member]
      simp [colon]

end

end HarnessProxy.Json

import HarnessProxy.Json.Ascii
import HarnessProxy.Json.Equal
import HarnessProxy.Json.Sorted

namespace HarnessProxy.Json

/-! # JSON that a ledger keeps -/

section
variable {py : Python}

theorem Value.Clean.valid {value : Value} (clean : value.Clean py) : value.Valid := by
  induction value using Value.induction with
  | null | bool | int | float | str => trivial
  | arr items ih =>
      have cleans := cleanItems_iff.mp clean
      exact validItems_iff.mpr fun item member => ih item member (cleans item member)
  | obj fields ih =>
      have cleans := cleanFields_iff.mp clean.2
      exact ⟨clean.1, validFields_iff.mpr fun field member => ih field member (cleans field member)⟩

/-- Sorting the keys first prints the same. -/
theorem dumpsUnicode_of_canonical {value : Value} (valid : value.Valid) :
    dumpsUnicode true value.canonical = dumpsUnicode true value := by
  have same := ((Value.same_canonical value).canonical_eq valid).1
  rw [dumpsUnicode_canonical, dumpsUnicode_canonical, ← same]

/-- Values that differ in the order of members print the same. -/
theorem Same.dumpsUnicode_eq {value other : Value} (same : Same value other) (valid : value.Valid) :
    dumpsUnicode true value = dumpsUnicode true other := by
  rw [dumpsUnicode_canonical, dumpsUnicode_canonical, (same.canonical_eq valid).1]

theorem same_canonicalFields (fields : Object) : Same (.obj fields) (.obj (canonicalFields fields)) := by
  have sorted : Same (.obj (Object.canonical fields)) (.obj (canonicalFields fields)) :=
    .obj (.of_perm (List.perm_insertionSort keyOrder (canonicalFields fields)))
  exact (Value.same_canonical (.obj fields)).trans sorted

theorem mem_dumpsUnicode_sorted {c : CodePoint} (wide : Wide c) (value : Value) :
    c ∈ dumpsUnicode true value ↔ value.Contains c := by
  rw [dumpsUnicode_canonical, mem_dumpsUnicode wide, Value.contains_canonical]

/-- A value without surrogates. -/
def Value.Scalar (value : Value) : Prop := ∀ c, value.Contains c → Text.isSurrogate c = false

theorem wide_of_surrogate {c : CodePoint} (surrogate : Text.isSurrogate c = true) : Wide c := by
  simp only [Text.isSurrogate, Bool.and_eq_true, decide_eq_true_eq] at surrogate
  unfold Wide
  omega

/-- The encoder of a printed value fails exactly at a surrogate. -/
theorem encodable_dumpsUnicode {value : Value} :
    Text.encodable (dumpsUnicode true value) = true ↔ value.Scalar := by
  simp only [Text.encodable, List.all_eq_true, Bool.not_eq_true']
  constructor
  · intro encodable c found
    cases surrogate : Text.isSurrogate c with
    | false => rfl
    | true =>
        have printed := encodable c ((mem_dumpsUnicode_sorted (wide_of_surrogate surrogate) value).mpr found)
        rw [surrogate] at printed
        cases printed
  · intro scalar c member
    cases surrogate : Text.isSurrogate c with
    | false => rfl
    | true =>
        have kept := scalar c ((mem_dumpsUnicode_sorted (wide_of_surrogate surrogate) value).mp member)
        rw [surrogate] at kept
        cases kept

theorem scalar_obj {fields : Object} : (Value.obj fields).Scalar ↔
    ∀ field ∈ fields, (∀ c ∈ field.1, Text.isSurrogate c = false) ∧ field.2.Scalar := by
  simp only [Value.Scalar, Value.Contains, fieldsContain_iff]
  constructor
  · exact fun all field member => ⟨fun c inside => all c ⟨field, member, .inl inside⟩,
      fun c found => all c ⟨field, member, .inr found⟩⟩
  · rintro all c ⟨field, member, inside | found⟩
    · exact (all field member).1 c inside
    · exact (all field member).2 c found

theorem scalar_of_ascii {value : Value} (ascii : value.Ascii) : value.Scalar := by
  intro c found
  have small := ascii c found
  simp only [Text.isSurrogate, Bool.and_eq_false_iff, decide_eq_false_iff_not]
  omega

/-- A value that every writer prints on one line and every reader gets back. -/
structure Printed (py : Python) (value : Value) : Prop where
  clean : value.Clean py
  printable : value.printable = true
  ascii : value.Ascii

/-- A property that objects with ASCII keys inherit from their members. -/
structure Structural (P : Value → Prop) : Prop where
  null : P .null
  bool : ∀ b, P (.bool b)
  str : ∀ text, plain text = true → P (.str text)
  obj : ∀ fields : Object, fields.keys.Nodup → (∀ key ∈ fields.keys, plain key = true) → (∀ field ∈ fields, P field.2) →
    P (.obj fields)

/-- Keys that are distinct and ASCII. -/
def wellKeyed (names : List Text) : Bool := decide names.Nodup && names.all plain

theorem Structural.fields {P : Value → Prop} (structural : Structural P) {fields : Object} (names : List Text)
    (keys : fields.keys = names) (well : wellKeyed names = true) (all : ∀ field ∈ fields, P field.2) : P (.obj fields) := by
  simp only [wellKeyed, Bool.and_eq_true, decide_eq_true_eq, List.all_eq_true] at well
  exact structural.obj fields (keys ▸ well.1) (keys ▸ well.2) all

/-- A value that `json.dumps` prints and UTF-8 encodes. -/
def Value.Encodable (value : Value) : Prop := value.printable = true ∧ value.Scalar

theorem encodable_structural : Structural Value.Encodable where
  null := ⟨rfl, fun _ found => found.elim⟩
  bool _ := ⟨rfl, fun _ found => found.elim⟩
  str _ ascii := ⟨rfl, scalar_of_ascii (ascii_str.mpr ascii)⟩
  obj _ _ keys all := ⟨printableFields_iff.mpr fun field member => (all field member).1,
    scalar_obj.mpr fun field member =>
      ⟨scalar_of_ascii (ascii_str.mpr (keys _ (List.mem_map_of_mem member))), (all field member).2⟩⟩

theorem Printed.encodable {value : Value} (printed : Printed py value) : value.Encodable :=
  ⟨printed.printable, scalar_of_ascii printed.ascii⟩

theorem valid_structural : Structural Value.Valid where
  null := trivial
  bool _ := trivial
  str _ _ := trivial
  obj _ nodup _ all := ⟨nodup, Value.validFields_iff.mpr all⟩

theorem printed_structural : Structural (Printed py) where
  null := ⟨trivial, rfl, ascii_null⟩
  bool b := ⟨trivial, rfl, ascii_bool b⟩
  str _ ascii := ⟨trivial, rfl, ascii_str.mpr ascii⟩
  obj _ nodup keys all :=
    ⟨⟨nodup, cleanFields_iff.mpr fun field member => (all field member).clean⟩,
      printableFields_iff.mpr fun field member => (all field member).printable,
      ascii_obj.mpr fun field member => ⟨keys _ (List.mem_map_of_mem member), (all field member).ascii⟩⟩

end

/-- Which natural numbers `str` prints. -/
theorem printable_nat {n : Nat} : (Value.int n).printable = true ↔ n < 10 ^ maxStrDigits := by
  simp only [Value.printable, Int.natAbs_natCast, decide_eq_true_eq]
  by_cases zero : n = 0
  · subst zero
    exact iff_of_true (by decide) (Nat.pow_pos (by decide))
  · rw [Text.ofNat, if_neg zero, List.length_map, List.length_reverse]
    exact Nat.digits_length_le_iff (by decide) n

end HarnessProxy.Json

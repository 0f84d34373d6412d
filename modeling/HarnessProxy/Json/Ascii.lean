import HarnessProxy.Json.Canonical

namespace HarnessProxy.Json

/-! # `json.dumps` of ASCII text

Where all text is ASCII, both settings of `ensure_ascii` print the same.
-/

/-- Every character of every string and key is one that `ensure_ascii` keeps. -/
def Value.Ascii (value : Value) : Prop := ∀ c, value.Contains c → c.val < 0x7f

/-- A text of such characters. -/
def plain (text : Text) : Bool := text.all fun c => c.val < 0x7f

theorem plain_iff {text : Text} : plain text = true ↔ ∀ c ∈ text, c.val < 0x7f := by
  simp [plain]

theorem ascii_str {text : Text} : (Value.str text).Ascii ↔ plain text = true := plain_iff.symm

theorem ascii_arr {items : List Value} : (Value.arr items).Ascii ↔ ∀ item ∈ items, item.Ascii := by
  simp only [Value.Ascii, Value.Contains, itemsContain_iff]
  constructor
  · exact fun all item member c found => all c ⟨item, member, found⟩
  · rintro all c ⟨item, member, found⟩
    exact all item member c found

theorem ascii_obj {fields : Object} :
    (Value.obj fields).Ascii ↔ ∀ field ∈ fields, plain field.1 = true ∧ field.2.Ascii := by
  simp only [Value.Ascii, Value.Contains, fieldsContain_iff, plain_iff]
  constructor
  · exact fun all field member => ⟨fun c inside => all c ⟨field, member, .inl inside⟩,
      fun c found => all c ⟨field, member, .inr found⟩⟩
  · rintro all c ⟨field, member, inside | found⟩
    · exact (all field member).1 c inside
    · exact (all field member).2 c found

theorem ascii_null : Value.null.Ascii := fun _ found => found.elim
theorem ascii_bool (b : Bool) : (Value.bool b).Ascii := fun _ found => found.elim
theorem ascii_int (i : Int) : (Value.int i).Ascii := fun _ found => found.elim

theorem escapeChar_ascii {c : CodePoint} (ascii : c.val < 0x7f) : escapeChar c = escapeControl c := by
  unfold escapeChar escapeControl
  split_ifs <;> first | rfl | omega

theorem quote_ascii {text : Text} (ascii : ∀ c ∈ text, c.val < 0x7f) : quote text = quoteUnicode text := by
  have same : text.flatMap escapeChar = text.flatMap escapeControl :=
    List.flatMap_congr fun c member => escapeChar_ascii (ascii c member)
  rw [quote, quoteUnicode, same]

theorem dumps_ascii (sortKeys : Bool) {value : Value} (ascii : value.Ascii) :
    dumps sortKeys value = dumpsUnicode sortKeys value := by
  induction value using Value.induction with
  | null => rfl
  | bool b => cases b <;> rfl
  | int i => rfl
  | float f => rfl
  | str text => exact quote_ascii ascii
  | arr items ih =>
      have each := ascii_arr.mp ascii
      have texts : dumpsItems sortKeys items = dumpsUnicodeItems sortKeys items := by
        induction items with
        | nil => rfl
        | cons item rest tail =>
            obtain ⟨head, others⟩ := List.forall_mem_cons.mp ih
            obtain ⟨itemAscii, restAscii⟩ := List.forall_mem_cons.mp each
            rw [dumpsItems, dumpsUnicodeItems, head itemAscii, tail others (ascii_arr.mpr restAscii) restAscii]
      rw [dumps, dumpsUnicode, texts]
  | obj fields ih =>
      have each := ascii_obj.mp ascii
      have texts : dumpsFields sortKeys fields = dumpsUnicodeFields sortKeys fields := by
        induction fields with
        | nil => rfl
        | cons field rest tail =>
            obtain ⟨head, others⟩ := List.forall_mem_cons.mp ih
            obtain ⟨fieldAscii, restAscii⟩ := List.forall_mem_cons.mp each
            obtain ⟨key, value⟩ := field
            rw [dumpsFields, dumpsUnicodeFields, head fieldAscii.2, quote_ascii (plain_iff.mp fieldAscii.1),
              tail others (ascii_obj.mpr restAscii) restAscii]
      rw [dumps, dumpsUnicode, texts]

end HarnessProxy.Json

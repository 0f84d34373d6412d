import HarnessProxy.Json.Injective

namespace HarnessProxy.Json

/-! # Sorted texts

`json.dumps` with sorted keys prints one text for two values exactly when they
are the same JSON, where no string holds a surrogate pair as two characters.
-/

/-- The member order that `json.dumps` prints is that of the sorted value. -/
theorem dumps_canonical (value : Value) : dumps true value = dumps false value.canonical := by
  induction value using Value.induction with
  | null | int | float | str => rfl
  | bool b => cases b <;> rfl
  | arr items ih =>
      have each : items.map (dumps true) = (items.map Value.canonical).map (dumps false) := by
        rw [List.map_map]
        exact List.map_congr_left ih
      simp only [Value.canonical, dumps, dumpsItems_eq, canonicalItems_eq, each]
  | obj fields ih =>
      have each : fields.map (dumpedMember true) =
          (fields.map fun field => (field.1, field.2.canonical)).map (dumpedMember false) := by
        rw [List.map_map]
        refine List.map_congr_left fun field member => ?_
        simp [dumpedMember, ih field member]
      have sorted := List.map_insertionSort keyOrder (fun left right : Text × Text => left.1 ≤ right.1)
        (dumpedMember false) (canonicalFields fields) fun _ _ _ _ => Iff.rfl
      simp only [Value.canonical, dumps, dumpsFields_eq, orderFields, if_true, each]
      rw [← canonicalFields_eq, ← sorted]
      rfl

/-! ## Equality up to the order of keys -/

mutual
theorem Same.symm : {v w : Value} → Same v w → Same w v
  | _, _, .refl value => .refl value
  | _, _, .arr items => .arr items.symm
  | _, _, .obj fields => .obj fields.symm

theorem SameItems.symm : {xs ys : List Value} → SameItems xs ys → SameItems ys xs
  | _, _, .nil => .nil
  | _, _, .cons head tail => .cons head.symm tail.symm

theorem SameFields.symm : {fs gs : List (Text × Value)} → SameFields fs gs → SameFields gs fs
  | _, _, .nil => .nil
  | _, _, .cons head tail => .cons head.symm tail.symm
  | _, _, .swap f g fs => .swap g f fs
  | _, _, .trans first second => .trans second.symm first.symm
end

mutual
theorem Same.trans : {u v w : Value} → Same u v → Same v w → Same u w
  | _, _, _, .refl _, second => second
  | _, _, _, .arr items, .refl _ => .arr items
  | _, _, _, .arr items, .arr others => .arr (items.trans others)
  | _, _, _, .obj fields, .refl _ => .obj fields
  | _, _, _, .obj fields, .obj others => .obj (.trans fields others)

theorem SameItems.trans : {xs ys zs : List Value} → SameItems xs ys → SameItems ys zs → SameItems xs zs
  | _, _, _, .nil, .nil => .nil
  | _, _, _, .cons head tail, .cons next others => .cons (head.trans next) (tail.trans others)
end

/-- Members with distinct keys have one sorted order. -/
theorem insertionSort_perm {fields others : Object} (perm : fields.Perm others) (nodup : fields.keys.Nodup) :
    fields.insertionSort keyOrder = others.insertionSort keyOrder := by
  have leftPerm := List.perm_insertionSort keyOrder fields
  have rightPerm := List.perm_insertionSort keyOrder others
  have : Std.Total keyOrder := ⟨fun a b => le_total a.1 b.1⟩
  have : IsTrans (Text × Value) keyOrder := ⟨fun _ _ _ => le_trans⟩
  refine List.Perm.eq_of_pairwise ?_ (List.pairwise_insertionSort keyOrder fields)
    (List.pairwise_insertionSort keyOrder others) (leftPerm.trans (perm.trans rightPerm.symm))
  intro a b left right below above
  exact List.inj_on_of_nodup_map nodup (leftPerm.mem_iff.mp left)
    (perm.mem_iff.mpr (rightPerm.mem_iff.mp right)) (le_antisymm below above)

theorem keys_canonicalFields (fields : Object) : Object.keys (canonicalFields fields) = fields.keys := by
  rw [canonicalFields_eq, Object.keys, List.map_map]
  rfl

mutual
theorem Same.canonical_eq : {v w : Value} → Same v w → v.Valid → v.canonical = w.canonical ∧ w.Valid
  | _, _, .refl _, valid => ⟨rfl, valid⟩
  | .arr _, .arr _, .arr items, valid => by
      obtain ⟨equal, valid⟩ := items.canonical_eq (by simpa [Value.Valid] using valid)
      exact ⟨by rw [Value.canonical, Value.canonical, equal], by simpa [Value.Valid] using valid⟩
  | .obj fs, .obj gs, .obj fields, valid => by
      simp only [Value.Valid] at valid
      obtain ⟨nodup, members⟩ := valid
      obtain ⟨perm, membersValid⟩ := fields.canonical_perm members
      have sorted := insertionSort_perm perm (by rw [keys_canonicalFields]; exact nodup)
      refine ⟨by rw [Value.canonical, Value.canonical, sorted], ?_⟩
      simp only [Value.Valid]
      exact ⟨(fields.keys_perm.nodup_iff).mp nodup, membersValid⟩

theorem SameItems.canonical_eq : {xs ys : List Value} → SameItems xs ys → Value.ValidItems xs →
    canonicalItems xs = canonicalItems ys ∧ Value.ValidItems ys
  | _, _, .nil, valid => ⟨rfl, valid⟩
  | _, _, .cons head tail, valid => by
      simp only [Value.ValidItems] at valid
      obtain ⟨headEq, headValid⟩ := head.canonical_eq valid.1
      obtain ⟨tailEq, tailValid⟩ := tail.canonical_eq valid.2
      exact ⟨by rw [canonicalItems, canonicalItems, headEq, tailEq], by
        simp only [Value.ValidItems]; exact ⟨headValid, tailValid⟩⟩

theorem SameFields.canonical_perm : {fs gs : List (Text × Value)} → SameFields fs gs → Value.ValidFields fs →
    (canonicalFields fs).Perm (canonicalFields gs) ∧ Value.ValidFields gs
  | _, _, .nil, valid => ⟨.nil, valid⟩
  | _, _, .cons head tail, valid => by
      simp only [Value.ValidFields] at valid
      obtain ⟨headEq, headValid⟩ := head.canonical_eq valid.1
      obtain ⟨tailPerm, tailValid⟩ := tail.canonical_perm valid.2
      refine ⟨?_, by simp only [Value.ValidFields]; exact ⟨headValid, tailValid⟩⟩
      rw [canonicalFields, canonicalFields, headEq]
      exact tailPerm.cons _
  | _, _, .swap f g fs, valid => by
      obtain ⟨k, v⟩ := f
      obtain ⟨l, w⟩ := g
      simp only [Value.ValidFields] at valid ⊢
      exact ⟨.swap _ _ _, valid.2.1, valid.1, valid.2.2⟩
  | _, _, .trans first second, valid => by
      obtain ⟨firstPerm, middleValid⟩ := first.canonical_perm valid
      obtain ⟨secondPerm, lastValid⟩ := second.canonical_perm middleValid
      exact ⟨firstPerm.trans secondPerm, lastValid⟩
end

theorem same_iff_canonical {v w : Value} (valid : v.Valid) : Same v w ↔ v.canonical = w.canonical := by
  constructor
  · exact fun same => (same.canonical_eq valid).1
  · intro equal
    have left := v.same_canonical
    rw [equal] at left
    exact left.trans w.same_canonical.symm

/-! ## Surrogate pairs -/

/-- A high surrogate is directly followed by a low one. -/
def paired : Text → Bool
  | c :: d :: rest => (isHighSurrogate c.val && isLowSurrogate d.val) || paired (d :: rest)
  | _ => false

mutual
/-- No key and no string of the value holds a surrogate pair as two characters. -/
def Value.unpaired : Value → Bool
  | .str text => !paired text
  | .arr items => unpairedItems items
  | .obj fields => unpairedFields fields
  | _ => true

def unpairedItems : List Value → Bool
  | [] => true
  | item :: rest => item.unpaired && unpairedItems rest

def unpairedFields : List (Text × Value) → Bool
  | [] => true
  | (key, value) :: rest => !paired key && value.unpaired && unpairedFields rest
end

theorem unpairedItems_iff {items : List Value} :
    unpairedItems items = true ↔ ∀ item ∈ items, item.unpaired = true := by
  induction items with
  | nil => simp [unpairedItems]
  | cons item rest ih => simp [unpairedItems, ih]

theorem unpairedFields_iff {fields : Object} :
    unpairedFields fields = true ↔ ∀ field ∈ fields, paired field.1 = false ∧ field.2.unpaired = true := by
  induction fields with
  | nil => simp [unpairedFields]
  | cons field rest ih => simp [unpairedFields, ih]

/-- The text of a sequence of units. -/
def joinUnits : Text → Text
  | c :: d :: rest =>
    if isHighSurrogate c.val && isLowSurrogate d.val then joinSurrogates c.val d.val :: joinUnits rest
    else c :: joinUnits (d :: rest)
  | text => text

/-- Units that no low surrogate begins are joined apart from a small character
before them. -/
theorem joinUnits_cons {c : CodePoint} {rest : Text}
    (apart : ∀ d others, rest = d :: others → (isHighSurrogate c.val && isLowSurrogate d.val) = false) :
    joinUnits (c :: rest) = c :: joinUnits rest := by
  cases rest with
  | nil => rfl
  | cons d others => rw [joinUnits, apart d others rfl, if_neg (by simp)]

theorem units_cases (c : CodePoint) : c.val < 0x10000 ∧ units c = [c] ∨
    0x10000 ≤ c.val ∧ ∃ high low : CodePoint, units c = [high, low] ∧ high.val = 0xd800 + (c.val - 0x10000) / 0x400 ∧
      low.val = 0xdc00 + (c.val - 0x10000) % 0x400 := by
  have bound := c.isLt
  by_cases small : c.val < 0x10000
  · exact .inl ⟨small, if_pos small⟩
  · refine .inr ⟨by omega, _, _, if_neg small, ?_, ?_⟩ <;> rw [chr_val] <;> omega

theorem joinUnits_textUnits {text : Text} (unpaired : paired text = false) : joinUnits (textUnits text) = text := by
  induction text with
  | nil => rfl
  | cons c rest ih =>
      have others : paired rest = false := by
        cases rest with
        | nil => rfl
        | cons d rest =>
            rw [paired, Bool.or_eq_false_iff] at unpaired
            exact unpaired.2
      have tail : joinUnits (rest.flatMap units) = rest := ih others
      rw [textUnits, List.flatMap_cons]
      rcases units_cases c with ⟨_, shape⟩ | ⟨large, high, low, shape, highValue, lowValue⟩
      · rw [shape, List.singleton_append, joinUnits_cons, tail]
        intro d following start
        cases rest with
        | nil => cases start
        | cons next rest =>
            rw [List.flatMap_cons] at start
            rw [paired, Bool.or_eq_false_iff] at unpaired
            rcases units_cases next with ⟨_, nextShape⟩ | ⟨nextLarge, nextHigh, _, nextShape, nextValue, _⟩
            · rw [nextShape] at start
              cases start
              exact unpaired.1
            · rw [nextShape, List.cons_append, List.cons.injEq] at start
              have bound := next.isLt
              have notLow : isLowSurrogate d.val = false := by
                rw [isLowSurrogate, ← start.1, nextValue, Bool.and_eq_false_iff]
                left
                simp only [decide_eq_false_iff_not]
                omega
              rw [notLow, Bool.and_false]
      · have bound := c.isLt
        have pair : (isHighSurrogate high.val && isLowSurrogate low.val) = true := by
          simp only [isHighSurrogate, isLowSurrogate, Bool.and_eq_true, decide_eq_true_eq]
          omega
        have joined : joinSurrogates high.val low.val = c := by
          refine Fin.ext ?_
          rw [joinSurrogates, chr_val]
          omega
        rw [shape, List.cons_append, List.cons_append, List.nil_append, joinUnits, if_pos pair, joined, tail]

theorem textUnits_injective {text other : Text} (unpaired : paired text = false) (otherUnpaired : paired other = false)
    (same : textUnits text = textUnits other) : text = other := by
  rw [← joinUnits_textUnits unpaired, same, joinUnits_textUnits otherUnpaired]

theorem map_inj_of_mem {α β : Type*} {f : α → β} {xs ys : List α}
    (injective : ∀ x ∈ xs, ∀ y ∈ ys, f x = f y → x = y) (same : xs.map f = ys.map f) : xs = ys := by
  induction xs generalizing ys with
  | nil => exact (List.map_eq_nil_iff.mp same.symm).symm
  | cons x xs ih =>
      cases ys with
      | nil => cases same
      | cons y ys =>
          obtain ⟨head, tail⟩ := List.cons.inj same
          rw [injective x (by simp) y (by simp) head, ih (fun x member y inside =>
            injective x (List.mem_cons_of_mem _ member) y (List.mem_cons_of_mem _ inside)) tail]

/-- A value without surrogate pairs is determined by its units. -/
theorem Value.units_injective {value other : Value} (unpaired : value.unpaired = true)
    (otherUnpaired : other.unpaired = true) (same : value.units = other.units) : value = other := by
  induction value using Value.induction generalizing other with
  | null | bool | int | float =>
      cases other with
      | null | bool | int | float => exact same
      | str | arr | obj => cases same
  | str text =>
      cases other with
      | str otherText =>
          simp only [Value.unpaired, Bool.not_eq_true'] at unpaired otherUnpaired
          rw [textUnits_injective unpaired otherUnpaired (Value.str.inj same)]
      | null | bool | int | float | arr | obj => cases same
  | arr items ih =>
      cases other with
      | arr others =>
          rw [Value.units, Value.units, unitsItems_eq, unitsItems_eq, Value.arr.injEq] at same
          rw [Value.unpaired, unpairedItems_iff] at unpaired otherUnpaired
          rw [map_inj_of_mem (fun x member y inside => ih x member (unpaired x member) (otherUnpaired y inside)) same]
      | null | bool | int | float | str | obj => cases same
  | obj fields ih =>
      cases other with
      | obj others =>
          rw [Value.units, Value.units, unitsFields_eq, unitsFields_eq, Value.obj.injEq] at same
          rw [Value.unpaired, unpairedFields_iff] at unpaired otherUnpaired
          refine congrArg Value.obj (map_inj_of_mem (fun x member y inside equal => ?_) same)
          obtain ⟨keys, values⟩ := Prod.mk.inj equal
          obtain ⟨key, value⟩ := unpaired x member
          obtain ⟨otherKey, otherValue⟩ := otherUnpaired y inside
          exact Prod.ext (textUnits_injective key otherKey keys) (ih x member value otherValue values)
      | null | bool | int | float | str | arr => cases same

theorem Value.unpaired_canonical {value : Value} (unpaired : value.unpaired = true) : value.canonical.unpaired = true := by
  induction value using Value.induction with
  | null | bool | int | float | str => exact unpaired
  | arr items ih =>
      have all := unpairedItems_iff.mp unpaired
      rw [Value.canonical, canonicalItems_eq]
      refine unpairedItems_iff.mpr fun item member => ?_
      obtain ⟨original, inside, rfl⟩ := List.mem_map.mp member
      exact ih original inside (all original inside)
  | obj fields ih =>
      have all := unpairedFields_iff.mp unpaired
      refine unpairedFields_iff.mpr fun field member => ?_
      obtain ⟨original, inside, rfl⟩ := Object.mem_canonical member
      exact ⟨(all original inside).1, ih original inside (all original inside).2⟩

/-- The sorted text of a value determines the units of the sorted value. -/
theorem dumps_sorted_eq_iff {v w : Value} : dumps true v = dumps true w ↔ v.canonical.units = w.canonical.units := by
  rw [dumps_canonical, dumps_canonical, dumps_eq_iff]

/-- Without surrogate pairs the sorted text tells JSON values apart. -/
theorem dumps_sorted_same_iff {v w : Value} (valid : v.Valid) (unpaired : v.unpaired = true)
    (otherUnpaired : w.unpaired = true) : dumps true v = dumps true w ↔ Same v w := by
  rw [dumps_sorted_eq_iff, same_iff_canonical valid]
  constructor
  · exact Value.units_injective (Value.unpaired_canonical unpaired) (Value.unpaired_canonical otherUnpaired)
  · exact congrArg Value.units

/-! ## Visible characters -/

/-- A text of ASCII characters without controls. -/
def Visible (text : Text) : Prop := ∀ c ∈ text, 0x20 ≤ c.val ∧ c.val < 0x80

instance (text : Text) : Decidable (Visible text) := List.decidableBAll _ text

theorem Visible.append {left right : Text} (first : Visible left) (second : Visible right) : Visible (left ++ right) :=
  fun c member => (List.mem_append.mp member).elim (first c) (second c)

theorem Visible.cons {c : CodePoint} {text : Text} (head : 0x20 ≤ c.val ∧ c.val < 0x80) (tail : Visible text) :
    Visible (c :: text) := fun d member => (List.mem_cons.mp member).elim (fun same => same ▸ head) (tail d)

theorem visible_of {text : Text} (uncontrolled : Uncontrolled text) (ascii : text.all isAscii = true) : Visible text := by
  intro c member
  have small := List.all_eq_true.mp ascii c member
  simp only [isAscii, decide_eq_true_eq] at small
  exact ⟨uncontrolled c member, small⟩

theorem unicodeEscape_visible (unit : Nat) : Visible (unicodeEscape unit) := by
  refine visible_of (fun c member => ?_) (unicodeEscape_ascii unit)
  simp only [unicodeEscape, List.mem_cons, List.not_mem_nil, or_false] at member
  rcases member with rfl | rfl | rfl | rfl | rfl | rfl
  · decide
  · decide
  all_goals exact hexChar_uncontrolled _

theorem escapeChar_visible (c : CodePoint) : Visible (escapeChar c) := by
  unfold escapeChar
  split
  · decide
  split
  · decide
  split
  · decide
  split
  · decide
  split
  · decide
  split
  · decide
  split
  · decide
  split
  · intro d member
    rw [List.mem_singleton.mp member]
    omega
  split
  · exact unicodeEscape_visible _
  · exact (unicodeEscape_visible _).append (unicodeEscape_visible _)

theorem quote_visible (text : Text) : Visible (quote text) := by
  refine .cons (by decide) (.append (fun c member => ?_) (by decide))
  obtain ⟨d, _, escaped⟩ := List.mem_flatMap.mp member
  exact escapeChar_visible d c escaped

theorem join_visible {parts : List Text} (all : ∀ part ∈ parts, Visible part) : Visible (Text.join "," parts) := by
  induction parts with
  | nil => exact fun c member => (by cases member)
  | cons part rest ih =>
      obtain ⟨head, tail⟩ := List.forall_mem_cons.mp all
      cases rest with
      | nil =>
          rw [join_singleton]
          exact head
      | cons next others =>
          rw [join_cons_cons]
          exact head.append (.cons (by decide) (ih tail))

theorem ofInt_visible (i : Int) : Visible (Text.ofInt i) := by
  refine visible_of ?_ (ofInt_ascii i)
  unfold Text.ofInt
  split
  · exact .cons (by decide) (ofNat_uncontrolled _)
  · exact ofNat_uncontrolled _

/-- The text of a value has visible ASCII characters only. -/
theorem dumps_visible (value : Value) : Visible (dumps false value) := by
  induction value using Value.induction with
  | null => decide
  | bool b => cases b <;> decide
  | int i => exact ofInt_visible i
  | float f => exact visible_of (dumpsFloat_uncontrolled f) (dumpsFloat_ascii f)
  | str text => exact quote_visible text
  | arr items ih =>
      rw [dumps, dumpsItems_eq]
      exact .cons (by decide) (.append (join_visible (List.forall_mem_map.mpr ih)) (by decide))
  | obj fields ih =>
      rw [dumps, dumpsFields_eq, orderFields, if_neg (by decide), List.map_map]
      refine .cons (by decide) (.append (join_visible (List.forall_mem_map.mpr fun field member => ?_)) (by decide))
      exact (quote_visible field.1).append (.cons (by decide) (ih field member))

theorem dumps_sorted_visible (value : Value) : Visible (dumps true value) := by
  rw [dumps_canonical]
  exact dumps_visible _

end HarnessProxy.Json

import HarnessProxy.Evidence.PublicExport
import Mathlib.Algebra.Order.BigOperators.Group.List
import Mathlib.Tactic.Ring

namespace HarnessProxy.Evidence

open HarnessProxy.Json

/-! # Values that may be published

They are ASCII, hold no path and no forbidden key, and take a bounded number of
characters.
-/

structure Presentable (platform : ExportPlatform) (size : Nat) (value : Value) : Prop where
  clean : value.Clean platform.py
  ascii : value.Ascii
  shown : scanPublic platform value = true
  room : value.room ≤ size

/-- A text without a slash. -/
def publicWord (text : Text) : Bool := plain text && text.all (· ≠ codePoint '/')

/-- A character that is printed as it is. -/
def isPrinted (c : CodePoint) : Bool :=
  0x20 ≤ c.val && c.val < 0x7f && c ≠ codePoint '"' && c ≠ codePoint '\\'

/-- A key that the scan lets through; the forbidden ones are short. -/
def publicKey (key : Text) : Bool :=
  key.all isPrinted && (decide (14 < key.length) || decide (key.map Text.lowerChar ∉ forbiddenPublicKeys))

section
variable {platform : ExportPlatform}

theorem casefold_plain {text : Text} (ascii : plain text = true) : casefold platform text = text.map Text.lowerChar := by
  have each : ∀ c ∈ text, (if c.val < 0x80 then [Text.lowerChar c] else platform.py.casefold c) = [Text.lowerChar c] := by
    intro c member
    have small := plain_iff.mp ascii c member
    exact if_pos (by omega)
  rw [casefold, List.flatMap_congr each, ← List.map_eq_flatMap]

theorem dropPrefix?_mem {c : CodePoint} {start text : Text} (dropped : (Text.dropPrefix? (c :: start) text).isSome = true) :
    c ∈ text := by
  cases text with
  | nil => simp [Text.dropPrefix?] at dropped
  | cons d rest =>
      rw [Text.dropPrefix?] at dropped
      split at dropped
      · next same =>
        rw [same]
        exact List.mem_cons_self
      · cases dropped

theorem holds_mem {c : CodePoint} {part text : Text} (inside : c ∈ part) (found : holds part text = true) : c ∈ text := by
  have dropped : ∀ {start rest : Text}, c ∈ start → (Text.dropPrefix? start rest).isSome = true → c ∈ rest := by
    intro start rest member shown
    induction start generalizing rest with
    | nil => cases member
    | cons d others ih =>
        have head := dropPrefix?_mem shown
        cases rest with
        | nil => cases head
        | cons e rest =>
            rw [Text.dropPrefix?] at shown
            split at shown
            · next same =>
              rcases List.mem_cons.mp member with rfl | later
              · exact head
              · exact List.mem_cons_of_mem _ (ih later shown)
            · cases shown
  induction text with
  | nil =>
      rw [holds, decide_eq_true_eq] at found
      rw [found] at inside
      cases inside
  | cons d rest ih =>
      rw [holds, Bool.or_eq_true] at found
      rcases found with here | later
      · exact dropped inside here
      · exact List.mem_cons_of_mem _ (ih later)

theorem lowerChar_slash {c : CodePoint} (lowered : Text.lowerChar c = codePoint '/') : c = codePoint '/' := by
  unfold Text.lowerChar at lowered
  split at lowered
  · next upper =>
    have value : c.val + 32 = 0x2f := congrArg Fin.val lowered
    omega
  · split at lowered
    · cases lowered
    · exact lowered

theorem publicText_of_word {text : Text} (word : publicWord text = true) : publicText platform text = true := by
  obtain ⟨ascii, noSlash⟩ := Bool.and_eq_true_iff.mp word
  have absent : codePoint '/' ∉ text := fun member => by
    have different := List.all_eq_true.mp noSlash _ member
    simp at different
  rw [publicText, Bool.and_eq_true, Bool.not_eq_true']
  constructor
  · cases found : holds "://" text with
    | false => rfl
    | true => exact absurd (holds_mem (by decide) found) absent
  · refine List.all_eq_true.mpr fun start member => ?_
    have starts : ∃ rest, start = codePoint '/' :: rest := by
      simp only [privatePrefixes, List.mem_cons, List.not_mem_nil, or_false] at member
      rcases member with rfl | rfl | rfl | rfl | rfl <;> exact ⟨_, rfl⟩
    obtain ⟨rest, rfl⟩ := starts
    cases dropped : Text.dropPrefix? (codePoint '/' :: rest) (casefold platform text) with
    | none => rfl
    | some after =>
        have inside := dropPrefix?_mem (by rw [dropped]; rfl)
        rw [casefold_plain ascii] at inside
        obtain ⟨c, cMember, lowered⟩ := List.mem_map.mp inside
        exact absurd (lowerChar_slash lowered ▸ cMember) absent

theorem scanFields_iff {fields : Object} :
    scanFields platform fields = true ↔
      ∀ field ∈ fields, casefold platform field.1 ∉ forbiddenPublicKeys ∧ scanPublic platform field.2 = true := by
  induction fields with
  | nil => simp [scanFields]
  | cons field rest ih =>
      obtain ⟨key, value⟩ := field
      rw [scanFields, Bool.and_eq_true, Bool.and_eq_true, decide_eq_true_eq, ih, List.forall_mem_cons]

theorem scanItems_iff {items : List Value} :
    scanItems platform items = true ↔ ∀ item ∈ items, scanPublic platform item = true := by
  induction items with
  | nil => simp [scanItems]
  | cons item rest ih => rw [scanItems, Bool.and_eq_true, ih, List.forall_mem_cons]

/-- The order of keys does not matter. -/
theorem scanPublic_canonical {value : Value} (shown : scanPublic platform value = true) :
    scanPublic platform value.canonical = true := by
  induction value using Value.induction with
  | null | bool | int | float => rfl
  | str text => exact shown
  | arr items ih =>
      have each := scanItems_iff.mp shown
      rw [Value.canonical, canonicalItems_eq]
      refine scanItems_iff.mpr fun item member => ?_
      obtain ⟨source, sourceMember, rfl⟩ := List.mem_map.mp member
      exact ih source sourceMember (each source sourceMember)
  | obj fields ih =>
      have each := scanFields_iff.mp shown
      refine scanFields_iff.mpr fun field member => ?_
      obtain ⟨source, sourceMember, rfl⟩ := Object.mem_canonical member
      exact ⟨(each source sourceMember).1, ih source sourceMember (each source sourceMember).2⟩

theorem publicKey_allowed {key : Text} (named : publicKey key = true) : key.map Text.lowerChar ∉ forbiddenPublicKeys := by
  have short : forbiddenPublicKeys.all (fun word => decide (word.length ≤ 14)) = true := by decide
  have choice := (Bool.and_eq_true_iff.mp named).2
  rw [Bool.or_eq_true, decide_eq_true_eq, decide_eq_true_eq] at choice
  rcases choice with long | allowed
  · intro member
    have bound := of_decide_eq_true (List.all_eq_true.mp short _ member)
    rw [List.length_map] at bound
    omega
  · exact allowed

/-! ## Building them -/

theorem escapeControl_length (c : CodePoint) : (escapeControl c).length ≤ 6 := by
  unfold escapeControl
  split_ifs <;> exact Nat.le_of_ble_eq_true rfl

theorem length_quoteUnicode_le (text : Text) : (quoteUnicode text).length ≤ 6 * text.length + 2 := by
  have body : (text.flatMap escapeControl).length ≤ 6 * text.length := by
    induction text with
    | nil => exact le_rfl
    | cons c rest ih =>
        have head := escapeControl_length c
        rw [List.flatMap_cons, List.length_append, List.length_cons]
        omega
  rw [quoteUnicode, List.length_cons, List.length_append, List.length_singleton]
  omega

theorem length_quoteUnicode_key {key : Text} (printed : key.all isPrinted = true) :
    (quoteUnicode key).length = key.length + 2 := by
  have same : key.flatMap escapeControl = key := by
    have each : ∀ c ∈ key, escapeControl c = [c] := by
      intro c member
      have shown := List.all_eq_true.mp printed c member
      simp only [isPrinted, Bool.and_eq_true, decide_eq_true_eq, ne_eq] at shown
      obtain ⟨⟨⟨low, high⟩, quote⟩, slash⟩ := shown
      unfold escapeControl
      rw [if_neg quote, if_neg slash]
      split_ifs <;> first | rfl | omega
    rw [List.flatMap_congr each]
    exact List.flatMap_singleton' key
  rw [quoteUnicode, same, List.length_cons, List.length_append, List.length_singleton]

theorem plain_of_printed {key : Text} (printed : key.all isPrinted = true) : plain key = true := by
  refine plain_iff.mpr fun c member => ?_
  have shown := List.all_eq_true.mp printed c member
  simp only [isPrinted, Bool.and_eq_true, decide_eq_true_eq] at shown
  exact shown.1.1.2

theorem Presentable.mono {small large : Nat} {value : Value} (presentable : Presentable platform small value)
    (bound : small ≤ large) : Presentable platform large value :=
  { presentable with room := presentable.room.trans bound }

theorem presentable_null : Presentable platform 4 .null := ⟨trivial, ascii_null, rfl, le_rfl⟩

theorem presentable_bool (b : Bool) : Presentable platform 5 (.bool b) := ⟨trivial, ascii_bool b, rfl, le_rfl⟩

theorem presentable_int (i : Int) : Presentable platform 4301 (.int i) := ⟨trivial, ascii_int i, rfl, intRoom_le i⟩

theorem presentable_small {i : Int} (small : i.natAbs < 10000000) : Presentable platform 8 (.int i) :=
  ⟨trivial, ascii_int i, rfl, (if_pos small).le⟩

theorem presentable_optionalInt (i : Option Int) : Presentable platform 4301 (optionalInt i) := by
  cases i with
  | none => exact presentable_null.mono (by norm_num)
  | some i => exact presentable_int i

theorem presentable_str {text : Text} (word : publicWord text = true) :
    Presentable platform (6 * text.length + 2) (.str text) :=
  ⟨trivial, ascii_str.mpr (Bool.and_eq_true_iff.mp word).1, publicText_of_word word, length_quoteUnicode_le text⟩

theorem presentable_arr {items : List Value} (each : Nat) (all : ∀ item ∈ items, Presentable platform each item) :
    Presentable platform (2 + items.length * (each + 1)) (.arr items) where
  clean := cleanItems_iff.mpr fun item member => (all item member).clean
  ascii := ascii_arr.mpr fun item member => (all item member).ascii
  shown := scanItems_iff.mpr fun item member => (all item member).shown
  room := by
    rw [Value.room, roomItems_eq]
    refine Nat.add_le_add_left ?_ 2
    have bound := List.sum_le_card_nsmul (items.map fun item => item.room + 1) (each + 1) (by
      intro size member
      obtain ⟨item, inside, rfl⟩ := List.mem_map.mp member
      exact Nat.add_le_add_right (all item inside).room 1)
    rwa [List.length_map] at bound

theorem presentable_empty : Presentable platform 2 (.obj []) :=
  ⟨⟨.nil, trivial⟩, fun _ found => found.elim, rfl, le_rfl⟩

theorem presentable_cons {key : Text} {value : Value} {rest : Object} {a b : Nat} (named : publicKey key = true)
    (fresh : key ∉ rest.keys) (first : Presentable platform a value) (others : Presentable platform b (.obj rest)) :
    Presentable platform (key.length + 4 + a + b) (.obj ((key, value) :: rest)) := by
  have printed := (Bool.and_eq_true_iff.mp named).1
  have ascii := plain_of_printed printed
  refine ⟨⟨List.nodup_cons.mpr ⟨fresh, others.clean.1⟩, first.clean, others.clean.2⟩, ?_, ?_, ?_⟩
  · exact ascii_obj.mpr (List.forall_mem_cons.mpr ⟨⟨ascii, first.ascii⟩, ascii_obj.mp others.ascii⟩)
  · have unforbidden : casefold platform key ∉ forbiddenPublicKeys := by
      rw [casefold_plain ascii]
      exact publicKey_allowed named
    exact scanFields_iff.mpr (List.forall_mem_cons.mpr ⟨⟨unforbidden, first.shown⟩, scanFields_iff.mp others.shown⟩)
  · have quoted := length_quoteUnicode_key printed
    have firstRoom := first.room
    have othersRoom := others.room
    rw [Value.room] at othersRoom ⊢
    rw [roomFields]
    omega

/-- The room of an object with these keys and the room of their values. -/
def objectRoom (entries : List (Text × Nat)) : Nat := 2 + (entries.map fun entry => entry.1.length + 4 + entry.2).sum

/-- The keys may be published, and the object is not too large. -/
def fitsIn (entries : List (Text × Nat)) (size : Nat) : Bool :=
  (entries.map Prod.fst).all publicKey && decide (entries.map Prod.fst).Nodup && decide (objectRoom entries ≤ size)

def forbiddenCodes : List Nat :=
  [17143, 7380, 54279, 44739, 45790, 43664, 60301, 34858, 18066, 35993, 6591, 7873, 45093, 22057, 40040, 61977, 8489, 1190,
    31233, 51044, 19757, 22893, 4314, 2807, 31804, 32644, 29264, 11745, 36605, 9706, 38917, 36402, 14720]

theorem forbiddenCodes_words : forbiddenPublicKeys.map Text.code = forbiddenCodes := by
  simp only [forbiddenPublicKeys, Text.coe_list, List.map_cons, List.map_nil]
  repeat rw [Text.literal_ofList]
  decide

/-- `fitsIn`, decided on the numbers of the keys. -/
def fitsByCode (entries : List (Text × Nat)) (size : Nat) : Bool :=
  (entries.all fun entry => entry.1.all isPrinted &&
      !forbiddenCodes.contains (Text.code (entry.1.map Text.lowerChar))) &&
    decide (entries.map fun entry => Text.code entry.1).Nodup && decide (objectRoom entries ≤ size)

theorem fitsIn_of_code {entries : List (Text × Nat)} {size : Nat} (fits : fitsByCode entries size = true) :
    fitsIn entries size = true := by
  simp only [fitsByCode, Bool.and_eq_true, List.all_eq_true, Bool.not_eq_true', decide_eq_true_eq] at fits
  obtain ⟨⟨keys, distinct⟩, room⟩ := fits
  have named : ∀ key ∈ entries.map Prod.fst, publicKey key = true := by
    intro key member
    obtain ⟨entry, inside, rfl⟩ := List.mem_map.mp member
    obtain ⟨printed, other⟩ := keys entry inside
    have allowed : entry.1.map Text.lowerChar ∉ forbiddenPublicKeys := fun forbidden => by
      rw [← forbiddenCodes_words, List.contains_iff_mem.mpr (List.mem_map_of_mem forbidden)] at other
      cases other
    rw [publicKey, decide_eq_true allowed, Bool.or_true, Bool.and_true]
    exact List.all_eq_true.mpr printed
  have nodup : (entries.map Prod.fst).Nodup := by
    refine List.Nodup.of_map Text.code ?_
    rwa [List.map_map]
  simp only [fitsIn, Bool.and_eq_true, List.all_eq_true, decide_eq_true_eq]
  exact ⟨⟨named, nodup⟩, room⟩

/-- Each field has the key of its entry and no more room. -/
abbrev LaidOut (platform : ExportPlatform) : List (Text × Nat) → Object → Prop :=
  List.Forall₂ fun entry field => field.1 = entry.1 ∧ Presentable platform entry.2 field.2

theorem LaidOut.keys {entries : List (Text × Nat)} {fields : Object} (laid : LaidOut platform entries fields) :
    fields.keys = entries.map Prod.fst := by
  induction laid with
  | nil => rfl
  | @cons entry field _ _ head _ ih =>
      obtain ⟨key, value⟩ := field
      rw [Object.keys_cons, List.map_cons, ih, ← head.1]

theorem presentable_laidOut {entries : List (Text × Nat)} {fields : Object} (laid : LaidOut platform entries fields)
    (named : (entries.map Prod.fst).all publicKey = true) (nodup : (entries.map Prod.fst).Nodup) :
    Presentable platform (objectRoom entries) (.obj fields) := by
  induction laid with
  | nil => exact presentable_empty
  | @cons entry field entries fields head tail ih =>
      obtain ⟨key, value⟩ := field
      obtain ⟨rfl, first⟩ := head
      rw [List.map_cons, List.all_cons, Bool.and_eq_true] at named
      obtain ⟨fresh, others⟩ := List.nodup_cons.mp nodup
      refine (presentable_cons named.1 (LaidOut.keys tail ▸ fresh) first (ih named.2 others)).mono (le_of_eq ?_)
      rw [objectRoom, objectRoom, List.map_cons, List.sum_cons]
      ring

/-- An object laid out as the entries say. -/
theorem presentable_fields (entries : List (Text × Nat)) {size : Nat} {fields : Object} (fits : fitsIn entries size = true)
    (laid : LaidOut platform entries fields) : Presentable platform size (.obj fields) := by
  simp only [fitsIn, Bool.and_eq_true, decide_eq_true_eq] at fits
  exact (presentable_laidOut laid fits.1.1 fits.1.2).mono fits.2

/-- An object whose values all take the same room. -/
theorem presentable_alike {keys : List Text} {size : Nat} {fields : Object} (same : fields.keys = keys) (each : Nat)
    (fits : fitsIn (keys.map fun key => (key, each)) size = true)
    (values : ∀ field ∈ fields, Presentable platform each field.2) : Presentable platform size (.obj fields) := by
  refine presentable_fields _ fits ?_
  subst same
  clear fits
  induction fields with
  | nil => exact .nil
  | cons field rest ih =>
      obtain ⟨head, tail⟩ := List.forall_mem_cons.mp values
      exact .cons ⟨rfl, head⟩ (ih tail)

end

end HarnessProxy.Evidence

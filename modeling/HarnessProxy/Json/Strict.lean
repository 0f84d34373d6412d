import HarnessProxy.Json.Parse

namespace HarnessProxy.Json

open Text

/-! # Strict JSON texts

`StrictText` is RFC-style JSON: JSON whitespace, one value, JSON whitespace, no
repeated key and none of the literals that only Python accepts.  What the
source accepts is wider, and `strictText_iff` says by how much.
-/

mutual
/-- No object of the tree repeats a key, and no literal denotes a non-finite
number. -/
def Syntax.Strict : Syntax → Prop
  | .constant _ => False
  | .arr items => StrictItems items
  | .obj members => (members.map Prod.fst).Nodup ∧ StrictMembers members
  | _ => True

def StrictItems : List Syntax → Prop
  | [] => True
  | item :: rest => item.Strict ∧ StrictItems rest

def StrictMembers : List (Text × Syntax) → Prop
  | [] => True
  | (_, tree) :: rest => tree.Strict ∧ StrictMembers rest
end

mutual
def Syntax.strict : Syntax → Bool
  | .constant _ => false
  | .arr items => strictItems items
  | .obj members => decide (members.map Prod.fst).Nodup && strictMembers members
  | _ => true

def strictItems : List Syntax → Bool
  | [] => true
  | item :: rest => item.strict && strictItems rest

def strictMembers : List (Text × Syntax) → Bool
  | [] => true
  | (_, tree) :: rest => tree.strict && strictMembers rest
end

mutual
theorem Syntax.strict_iff : (tree : Syntax) → (tree.strict = true ↔ tree.Strict)
  | .arr items => by simpa [Syntax.strict, Syntax.Strict] using strictItems_iff items
  | .obj members => by simp [Syntax.strict, Syntax.Strict, strictMembers_iff members]
  | .constant _ => by simp [Syntax.strict, Syntax.Strict]
  | .null | .bool _ | .int _ | .float _ | .str _ => by simp [Syntax.strict, Syntax.Strict]

theorem strictItems_iff : (items : List Syntax) → (strictItems items = true ↔ StrictItems items)
  | [] => by simp [strictItems, StrictItems]
  | item :: rest => by simp [strictItems, StrictItems, Syntax.strict_iff item, strictItems_iff rest]

theorem strictMembers_iff : (members : List (Text × Syntax)) →
    (strictMembers members = true ↔ StrictMembers members)
  | [] => by simp [strictMembers, StrictMembers]
  | (_, tree) :: rest => by
      simp [strictMembers, StrictMembers, Syntax.strict_iff tree, strictMembers_iff rest]
end

instance (tree : Syntax) : Decidable tree.Strict := decidable_of_iff _ tree.strict_iff

/-- The text is a strict JSON document with this tree. -/
def StrictText (text : Text) (tree : Syntax) : Prop :=
  ∃ before core after, text = before ++ core ++ after ∧
    (∀ c ∈ before, isJsonSpace c = true) ∧ (∀ c ∈ after, isJsonSpace c = true) ∧
    parseValue (parseFuel core) core = .ok (tree, []) ∧ tree.Strict

/-- What `str.strip` removes from the text is JSON whitespace. -/
def JsonFramed (text : Text) : Prop :=
  ∃ before after, text = before ++ strip text ++ after ∧
    (∀ c ∈ before, isJsonSpace c = true) ∧ ∀ c ∈ after, isJsonSpace c = true

/-! ## A value begins and ends with something other than whitespace -/

theorem isSpace_of_isJsonSpace {c : CodePoint} (space : isJsonSpace c = true) : isSpace c = true := by
  simp only [isJsonSpace, Bool.or_eq_true, decide_eq_true_eq] at space
  rcases space with ((rfl | rfl) | rfl) | rfl <;> decide

/-- A scanner took a non-empty piece of the text that ends outside whitespace. -/
def Consumed (text rest : Text) : Prop := ∃ before c, text = before ++ c :: rest ∧ isSpace c = false

theorem Consumed.append {text rest : Text} (taken : Consumed text rest) (before : Text) :
    Consumed (before ++ text) rest := by
  obtain ⟨middle, c, rfl, notSpace⟩ := taken
  exact ⟨before ++ middle, c, by simp, notSpace⟩

theorem Consumed.cons {text rest : Text} (taken : Consumed text rest) (c : CodePoint) :
    Consumed (c :: text) rest := taken.append [c]

theorem Consumed.trans {text middle rest : Text} (first : Consumed text middle)
    (second : Consumed middle rest) : Consumed text rest := by
  obtain ⟨before, c, rfl, _⟩ := first
  simpa using (second.cons c).append before

theorem Consumed.of_solid {taken rest : Text} (nonempty : taken ≠ [])
    (solid : ∀ c ∈ taken, isSpace c = false) : Consumed (taken ++ rest) rest :=
  ⟨taken.dropLast, taken.getLast nonempty, by
    rw [List.append_cons, List.dropLast_append_getLast nonempty], solid _ (List.getLast_mem nonempty)⟩

theorem skipSpace_suffix (text : Text) : ∃ spaces, text = spaces ++ skipSpace text ∧
    ∀ c ∈ spaces, isJsonSpace c = true :=
  ⟨text.takeWhile isJsonSpace, List.takeWhile_append_dropWhile.symm,
    fun _ member => List.mem_takeWhile_imp member⟩

theorem Consumed.of_skipSpace {text rest : Text} (taken : Consumed (skipSpace text) rest) :
    Consumed text rest := by
  obtain ⟨spaces, shape, _⟩ := skipSpace_suffix text
  rw [shape]
  exact taken.append spaces

theorem prepend_ok {decoded text rest : Text} {scan : Scan Text}
    (scanned : prepend decoded scan = .ok (text, rest)) : ∃ tail, scan = .ok (tail, rest) := by
  cases scan with
  | error e => simp [prepend] at scanned
  | ok result =>
      simp only [prepend, Except.ok.injEq, Prod.mk.injEq] at scanned
      exact ⟨result.1, by rw [← scanned.2]⟩

theorem scanString_consumed {mode : StringMode} {text decoded rest : Text}
    (scanned : scanString mode text = .ok (decoded, rest)) : Consumed text rest := by
  induction text generalizing mode decoded with
  | nil => simp [scanString] at scanned
  | cons c text ih =>
      have prepended {front out : Text} {next : StringMode}
          (result : prepend front (scanString next text) = .ok (out, rest)) :
          Consumed (c :: text) rest := by
        obtain ⟨tail, inner⟩ := prepend_ok result
        exact (ih inner).cons c
      cases mode with
      | plain held =>
          simp only [scanString] at scanned
          split at scanned
          · next quote =>
            cases scanned
            exact ⟨[], c, rfl, by rw [quote]; decide⟩
          · split at scanned
            · exact (ih scanned).cons c
            · split at scanned
              · cases scanned
              · exact prepended scanned
      | escape held =>
          simp only [scanString] at scanned
          split at scanned
          · exact (ih scanned).cons c
          · split at scanned
            · cases scanned
            · exact prepended scanned
      | hex held digits =>
          simp only [scanString] at scanned
          split at scanned
          · cases scanned
          · split at scanned
            · exact (ih scanned).cons c
            · split at scanned
              · split at scanned
                · exact prepended scanned
                · split at scanned <;> exact prepended scanned
              · split at scanned
                · exact (ih scanned).cons c
                · exact prepended scanned

/-! ## Scalars -/

theorem isSpace_of_isDigit {c : CodePoint} (digit : isDigit c = true) : isSpace c = false := by
  simp only [isDigit, Bool.and_eq_true, decide_eq_true_eq] at digit
  simp only [isSpace, Bool.or_eq_false_iff, Bool.and_eq_false_iff, decide_eq_false_iff_not]
  omega

theorem scanDigits_append (text : Text) : (scanDigits text).1 ++ (scanDigits text).2 = text :=
  List.takeWhile_append_dropWhile

theorem scanDigits_solid (text : Text) : ∀ c ∈ (scanDigits text).1, isSpace c = false :=
  fun _ member => isSpace_of_isDigit (List.mem_takeWhile_imp member)

theorem scanInteger_solid {text digits rest : Text} (scanned : scanInteger text = some (digits, rest)) :
    text = digits ++ rest ∧ digits ≠ [] ∧ ∀ c ∈ digits, isSpace c = false := by
  cases text with
  | nil => simp [scanInteger] at scanned
  | cons c text =>
      simp only [scanInteger] at scanned
      split at scanned
      · next zero =>
        cases scanned
        refine ⟨rfl, by simp, ?_⟩
        simp only [List.mem_singleton, forall_eq]
        rw [zero]
        decide
      · split at scanned
        · next digit =>
          cases scanned
          exact ⟨List.takeWhile_append_dropWhile.symm, by simp [digit], scanDigits_solid (c :: text)⟩
        · cases scanned

theorem scanFraction_solid (text : Text) : text = (scanFraction text).1 ++ (scanFraction text).2 ∧
    ∀ c ∈ (scanFraction text).1, isSpace c = false := by
  cases text with
  | nil => simp [scanFraction]
  | cons c text =>
      simp only [scanFraction]
      split
      · next point =>
        refine ⟨by simp [scanDigits_append], ?_⟩
        intro d member
        rcases List.mem_cons.mp member with rfl | member
        · rw [point.1]
          decide
        · exact scanDigits_solid text d member
      · simp

theorem scanExponent_solid (text : Text) : text = (scanExponent text).1 ++ (scanExponent text).2 ∧
    ∀ c ∈ (scanExponent text).1, isSpace c = false := by
  cases text with
  | nil => simp [scanExponent]
  | cons c text =>
      simp only [scanExponent]
      split
      · next letter =>
        have sign : text = (scanSign text).1 ++ (scanSign text).2 ∧
            ∀ c ∈ (scanSign text).1, isSpace c = false := by
          cases text with
          | nil => simp [scanSign]
          | cons d text =>
              simp only [scanSign]
              split
              · next signed => rcases signed with rfl | rfl <;> simp <;> decide
              · simp
        refine ⟨?_, ?_⟩
        · rw [List.cons_append, List.append_assoc, scanDigits_append, ← sign.1]
        · intro d member
          rcases List.mem_cons.mp member with rfl | member
          · rcases letter.1 with same | same <;> rw [same] <;> decide
          · rcases List.mem_append.mp member with member | member
            · exact sign.2 d member
            · exact scanDigits_solid _ d member
      · simp

/-- A non-empty piece without whitespace was taken off the front. -/
def TakesSolid (text rest : Text) : Prop :=
  ∃ taken, text = taken ++ rest ∧ taken ≠ [] ∧ ∀ c ∈ taken, isSpace c = false

theorem scanNumber_solid {negative : Bool} {text rest : Text} {tree : Syntax}
    (scanned : scanNumber negative text = .ok (tree, rest)) : TakesSolid text rest := by
  cases integer : scanInteger text with
  | none => simp [scanNumber, integer] at scanned
  | some result =>
      obtain ⟨digits, after⟩ := result
      obtain ⟨shape, nonempty, digitsSolid⟩ := scanInteger_solid integer
      obtain ⟨fractionShape, fractionSolid⟩ := scanFraction_solid after
      obtain ⟨exponentShape, exponentSolid⟩ := scanExponent_solid (scanFraction after).2
      have left : rest = (scanExponent (scanFraction after).2).2 := by
        simp only [scanNumber, integer] at scanned
        split at scanned
        · split at scanned
          · cases scanned
          · cases scanned; rfl
        · cases scanned; rfl
      refine ⟨digits ++ (scanFraction after).1 ++ (scanExponent (scanFraction after).2).1, ?_,
        by simp [nonempty], ?_⟩
      · rw [left, List.append_assoc, List.append_assoc, ← exponentShape, ← fractionShape, shape]
      · intro c member
        rcases List.mem_append.mp member with member | member
        · rcases List.mem_append.mp member with member | member
          · exact digitsSolid c member
          · exact fractionSolid c member
        · exact exponentSolid c member

theorem dropPrefix?_append {wanted text rest : Text} (dropped : dropPrefix? wanted text = some rest) :
    text = wanted ++ rest := by
  induction wanted generalizing text with
  | nil => cases dropped; rfl
  | cons expected wanted ih =>
      cases text with
      | nil => simp [dropPrefix?] at dropped
      | cons c text =>
          simp only [dropPrefix?] at dropped
          split at dropped
          · next same => rw [same, ih dropped, List.cons_append]
          · cases dropped

theorem scanConstant_append {table : List (Text × Syntax)} {text rest : Text} {tree : Syntax}
    (scanned : scanConstant table text = some (tree, rest)) :
    ∃ entry ∈ table, entry.2 = tree ∧ text = entry.1 ++ rest := by
  induction table with
  | nil => simp [scanConstant] at scanned
  | cons entry others ih =>
      simp only [scanConstant] at scanned
      cases dropped : dropPrefix? entry.1 text with
      | some after =>
          rw [dropped] at scanned
          cases scanned
          exact ⟨entry, by simp, rfl, dropPrefix?_append dropped⟩
      | none =>
          rw [dropped] at scanned
          obtain ⟨other, member, same⟩ := ih scanned
          exact ⟨other, by simp [member], same⟩

theorem scanScalar_solid {text rest : Text} {tree : Syntax}
    (scanned : scanScalar text = .ok (tree, rest)) : TakesSolid text rest := by
  cases constant : scanConstant constants text with
  | some result =>
      simp only [scanScalar, constant] at scanned
      cases scanned
      obtain ⟨entry, member, _, shape⟩ := scanConstant_append constant
      have solid : ∀ entry ∈ constants, entry.1 ≠ [] ∧ ∀ c ∈ entry.1, isSpace c = false := by
        have checked : (constants.all fun e => !e.1.isEmpty && e.1.all fun c => !isSpace c) = true := by
          decide
        simpa using checked
      exact ⟨entry.1, shape, solid entry member⟩
  | none =>
      simp only [scanScalar, constant] at scanned
      cases text with
      | nil => cases scanned
      | cons c text =>
          simp only at scanned
          split at scanned
          · next minus =>
            obtain ⟨taken, shape, _, solid⟩ := scanNumber_solid scanned
            refine ⟨c :: taken, by rw [shape, List.cons_append], by simp, ?_⟩
            intro d member
            rcases List.mem_cons.mp member with rfl | member
            · rw [minus]
              decide
            · exact solid d member
          · exact scanNumber_solid scanned

/-! ## Composite values -/

theorem TakesSolid.consumed {text rest : Text} (taken : TakesSolid text rest) : Consumed text rest := by
  obtain ⟨taken, rfl, nonempty, solid⟩ := taken
  exact .of_solid nonempty solid

/-- A closing bracket or brace ends what was taken. -/
theorem Consumed.closing {before text rest : Text} {c : CodePoint} (taken : Consumed before text)
    (next : skipSpace text = c :: rest) (notSpace : isSpace c = false) : Consumed before rest :=
  taken.trans (Consumed.of_skipSpace (by rw [next]; exact ⟨[], c, rfl, notSpace⟩))

/-- Between two items stand whitespace and a comma. -/
theorem Consumed.separated {before text middle rest : Text} {c : CodePoint}
    (taken : Consumed before text) (next : skipSpace text = c :: middle)
    (more : Consumed (skipSpace middle) rest) : Consumed before rest :=
  taken.trans (Consumed.of_skipSpace (by rw [next]; exact (Consumed.of_skipSpace more).cons c))

/-- By induction on the fuel: a call on fuel `n + 1` only makes calls on fuel `n`. -/
theorem parse_consumed (fuel : Nat) :
    (∀ {text rest tree}, parseValue fuel text = .ok (tree, rest) → Consumed text rest) ∧
    (∀ {text rest items}, parseItems fuel text = .ok (items, rest) → Consumed text rest) ∧
    (∀ {text rest members}, parseMembers fuel text = .ok (members, rest) → Consumed text rest) := by
  induction fuel with
  | zero => simp [parseValue, parseItems, parseMembers]
  | succ fuel ih =>
      obtain ⟨value, items, members⟩ := ih
      refine ⟨?_, ?_, ?_⟩
      · intro text rest tree parsed
        cases text with
        | nil => simp [parseValue] at parsed
        | cons c text =>
            simp only [parseValue] at parsed
            split at parsed
            · split at parsed
              · cases parsed
              · next scanned =>
                cases parsed
                exact (scanString_consumed scanned).cons c
            · split at parsed
              · split at parsed
                · cases parsed
                · next next =>
                  split at parsed
                  · next close =>
                    cases parsed
                    exact (Consumed.of_skipSpace (by
                      rw [next]; exact ⟨[], _, rfl, by rw [close]; decide⟩)).cons c
                  · split at parsed
                    · cases parsed
                    · next inner =>
                      cases parsed
                      exact (Consumed.of_skipSpace (by rw [next]; exact items inner)).cons c
              · split at parsed
                · split at parsed
                  · cases parsed
                  · next next =>
                    split at parsed
                    · next close =>
                      cases parsed
                      exact (Consumed.of_skipSpace (by
                        rw [next]; exact ⟨[], _, rfl, by rw [close]; decide⟩)).cons c
                    · split at parsed
                      · cases parsed
                      · next inner =>
                        cases parsed
                        exact (Consumed.of_skipSpace (by rw [next]; exact members inner)).cons c
                · exact (scanScalar_solid parsed).consumed
      · intro text rest all parsed
        simp only [parseItems] at parsed
        split at parsed
        · cases parsed
        · next item =>
          split at parsed
          · cases parsed
          · next next =>
            split at parsed
            · next close =>
              cases parsed
              exact (value item).closing next (by rw [close]; decide)
            · split at parsed
              · split at parsed
                · cases parsed
                · next more =>
                  cases parsed
                  exact (value item).separated next (items more)
              · cases parsed
      · intro text rest all parsed
        cases text with
        | nil => simp [parseMembers] at parsed
        | cons c text =>
            simp only [parseMembers] at parsed
            split at parsed
            · cases parsed
            · split at parsed
              · cases parsed
              · next scanned =>
                have key := (scanString_consumed scanned).cons c
                split at parsed
                · cases parsed
                · next colon =>
                  split at parsed
                  · cases parsed
                  · split at parsed
                    · cases parsed
                    · next item =>
                      have pair := key.separated colon (value item)
                      split at parsed
                      · cases parsed
                      · next next =>
                        split at parsed
                        · next close =>
                          cases parsed
                          exact pair.closing next (by rw [close]; decide)
                        · split at parsed
                          · split at parsed
                            · cases parsed
                            · next more =>
                              cases parsed
                              exact pair.separated next (members more)
                          · cases parsed

theorem parseValue_head {fuel : Nat} {text rest : Text} {tree : Syntax}
    (parsed : parseValue fuel text = .ok (tree, rest)) :
    ∃ c tail, text = c :: tail ∧ isSpace c = false := by
  cases fuel with
  | zero => simp [parseValue] at parsed
  | succ fuel =>
      cases text with
      | nil => simp [parseValue] at parsed
      | cons c text =>
          refine ⟨c, text, rfl, ?_⟩
          simp only [parseValue] at parsed
          split at parsed
          · next quote => rw [quote]; decide
          · split at parsed
            · next bracket => rw [bracket]; decide
            · split at parsed
              · next brace => rw [brace]; decide
              · obtain ⟨taken, shape, nonempty, solid⟩ := scanScalar_solid parsed
                cases taken with
                | nil => exact absurd rfl nonempty
                | cons d taken =>
                    cases shape
                    exact solid c (by simp)

theorem parseValue_solid {fuel : Nat} {core : Text} {tree : Syntax}
    (parsed : parseValue fuel core = .ok (tree, [])) : Solid core := by
  obtain ⟨before, c, shape, notSpace⟩ := (parse_consumed fuel).1 parsed
  exact ⟨parseValue_head parsed, before, c, shape, notSpace⟩

theorem skipSpace_of_solid {core : Text} (solid : Solid core) : skipSpace core = core := by
  obtain ⟨c, rest, rfl, notSpace⟩ := solid.head
  have notJson : isJsonSpace c = false := by
    by_contra space
    rw [isSpace_of_isJsonSpace (Bool.eq_true_of_not_eq_false space)] at notSpace
    cases notSpace
  simp [skipSpace, notJson]

/-- On a stripped text `json.loads` is one value and nothing else. -/
theorem parseDocument_solid {core : Text} (solid : Solid core) {tree : Syntax} :
    parseDocument core = .ok tree ↔ parseValue (parseFuel core) core = .ok (tree, []) := by
  rw [parseDocument, skipSpace_of_solid solid]
  constructor
  · intro accepted
    split at accepted
    · cases accepted
    · next rest parsed =>
      split at accepted
      · next noRest =>
        cases accepted
        suffices empty : rest = [] by rw [parsed, empty]
        obtain ⟨before, shape⟩ : ∃ before, core = before ++ rest := by
          obtain ⟨before, c, shape, _⟩ := (parse_consumed _).1 parsed
          exact ⟨before ++ [c], by rw [shape, List.append_assoc, List.singleton_append]⟩
        obtain ⟨spaces, spacesShape, spacesJson⟩ := skipSpace_suffix rest
        rw [noRest, List.append_nil] at spacesShape
        obtain ⟨init, c, last, notSpace⟩ := solid.last
        -- the last character of the core is not whitespace, so no whitespace is left over
        by_contra nonempty
        have same : rest.getLast nonempty = c := by
          have := congrArg List.getLast? (shape.symm.trans last)
          simpa [List.getLast?_append, List.getLast?_eq_getLast_of_ne_nil nonempty] using this
        have space := isSpace_of_isJsonSpace (spacesJson c (by
          rw [← spacesShape, ← same]; exact List.getLast_mem nonempty))
        rw [notSpace] at space
        cases space
      · cases accepted
  · intro parsed
    rw [parsed]
    rfl

theorem parseDocument_strip_solid {text : Text} {tree : Syntax}
    (parsed : parseDocument (strip text) = .ok tree) : Solid (strip text) := by
  apply strip_solid
  intro empty
  rw [empty] at parsed
  cases parsed

/-- Strict texts are the texts that the source accepts after `strip`, except
for the width of its whitespace, its literals and its repeated keys. -/
theorem strictText_iff {text : Text} {tree : Syntax} : StrictText text tree ↔
    parseDocument (strip text) = .ok tree ∧ JsonFramed text ∧ tree.Strict := by
  constructor
  · rintro ⟨before, core, after, rfl, leading, trailing, parsed, strict⟩
    have solid := parseValue_solid parsed
    have stripped : strip (before ++ core ++ after) = core :=
      strip_of_frame (fun c member => isSpace_of_isJsonSpace (leading c member))
        (fun c member => isSpace_of_isJsonSpace (trailing c member)) solid
    refine ⟨?_, ⟨before, after, by rw [stripped], leading, trailing⟩, strict⟩
    rw [stripped]
    exact (parseDocument_solid solid).mpr parsed
  · rintro ⟨parsed, ⟨before, after, shape, leading, trailing⟩, strict⟩
    exact ⟨before, strip text, after, shape, leading, trailing,
      (parseDocument_solid (parseDocument_strip_solid parsed)).mp parsed, strict⟩

end HarnessProxy.Json

import HarnessProxy.Json.Value

namespace HarnessProxy.Json

/-! # `json.dumps` with compact separators

Every call of the source uses `separators=(",", ":")` and ASCII output.  Only
`canonical_signature` sorts the keys, which is the parameter `sortKeys`.
-/

def hexChar (digit : Nat) : CodePoint :=
  chr (if digit < 10 then 0x30 + digit else 0x61 + (digit - 10))

/-- A `\u` escape of one 16-bit unit. -/
def unicodeEscape (unit : Nat) : Text :=
  [codePoint '\\', codePoint 'u', hexChar (unit / 0x1000 % 16), hexChar (unit / 0x100 % 16),
    hexChar (unit / 0x10 % 16), hexChar (unit % 16)]

def escapeChar (c : CodePoint) : Text :=
  if c = codePoint '"' then "\\\""
  else if c = codePoint '\\' then "\\\\"
  else if c.val = 0x0a then "\\n"
  else if c.val = 0x0d then "\\r"
  else if c.val = 0x09 then "\\t"
  else if c.val = 0x0c then "\\f"
  else if c.val = 0x08 then "\\b"
  else if 0x20 ≤ c.val ∧ c.val ≤ 0x7e then [c]
  else if c.val < 0x10000 then unicodeEscape c.val
  else
    let rest := c.val - 0x10000
    unicodeEscape (0xd800 + rest / 0x400) ++ unicodeEscape (0xdc00 + rest % 0x400)

def quote (text : Text) : Text := codePoint '"' :: (text.flatMap escapeChar ++ [codePoint '"'])

def dumpsFloat : PyFloat → Text
  | .finite shortest => shortest.text
  | .infinity => "Infinity"
  | .negInfinity => "-Infinity"
  | .nan => "NaN"

/-- Order the encoded members of one object by key. -/
def orderFields (sortKeys : Bool) (members : List (Text × Text)) : List (Text × Text) :=
  if sortKeys then members.insertionSort (fun left right => left.1 ≤ right.1) else members

mutual
def dumps (sortKeys : Bool) : Value → Text
  | .null => "null"
  | .bool true => "true"
  | .bool false => "false"
  | .int i => Text.ofInt i
  | .float f => dumpsFloat f
  | .str text => quote text
  | .arr items => codePoint '[' :: (Text.join "," (dumpsItems sortKeys items) ++ [codePoint ']'])
  | .obj fields => codePoint '{' ::
      (Text.join "," ((orderFields sortKeys (dumpsFields sortKeys fields)).map Prod.snd) ++ [codePoint '}'])

def dumpsItems (sortKeys : Bool) : List Value → List Text
  | [] => []
  | item :: rest => dumps sortKeys item :: dumpsItems sortKeys rest

/-- The key and the encoded text of every member. -/
def dumpsFields (sortKeys : Bool) : List (Text × Value) → List (Text × Text)
  | [] => []
  | (key, value) :: rest =>
    (key, quote key ++ codePoint ':' :: dumps sortKeys value) :: dumpsFields sortKeys rest
end

/-! ## Equality up to the order of keys -/

mutual
/-- Two values are the same JSON when one becomes the other by reordering the
members of objects, at any depth. -/
inductive Same : Value → Value → Prop
  | refl (value : Value) : Same value value
  | arr {xs ys : List Value} (items : SameItems xs ys) : Same (.arr xs) (.arr ys)
  | obj {fs gs : List (Text × Value)} (fields : SameFields fs gs) : Same (.obj fs) (.obj gs)

inductive SameItems : List Value → List Value → Prop
  | nil : SameItems [] []
  | cons {x y : Value} {xs ys : List Value} (head : Same x y) (tail : SameItems xs ys) :
      SameItems (x :: xs) (y :: ys)

inductive SameFields : List (Text × Value) → List (Text × Value) → Prop
  | nil : SameFields [] []
  | cons {key : Text} {v w : Value} {fs gs : List (Text × Value)} (head : Same v w)
      (tail : SameFields fs gs) : SameFields ((key, v) :: fs) ((key, w) :: gs)
  | swap (f g : Text × Value) (fs : List (Text × Value)) : SameFields (f :: g :: fs) (g :: f :: fs)
  | trans {fs gs hs : List (Text × Value)} (first : SameFields fs gs) (second : SameFields gs hs) :
      SameFields fs hs
end

/-- Reordering members leaves the set of keys alone. -/
theorem SameFields.keys_perm {fs gs : Object} (same : SameFields fs gs) :
    (Object.keys fs).Perm (Object.keys gs) := by
  refine SameFields.rec (motive_1 := fun _ _ _ => True) (motive_2 := fun _ _ _ => True)
    (motive_3 := fun fs gs _ => (Object.keys fs).Perm (Object.keys gs))
    ?_ ?_ ?_ ?_ ?_ ?_ ?_ ?_ ?_ same
  · intro _; trivial
  · intro _ _ _ _; trivial
  · intro _ _ _ _; trivial
  · trivial
  · intro _ _ _ _ _ _ _ _; trivial
  · exact .nil
  · intro key _ _ _ _ _ _ _ ih
    exact ih.cons key
  · intro f g fs
    exact .swap _ _ _
  · intro _ _ _ _ _ first second
    exact first.trans second

theorem keys_dumpsFields (sortKeys : Bool) (fields : Object) :
    (dumpsFields sortKeys fields).map Prod.fst = Object.keys fields := by
  induction fields with
  | nil => rfl
  | cons field rest ih => simp [dumpsFields, ih]

/-- Sorting by key forgets the order of members whose keys are distinct. -/
theorem orderFields_perm {left right : List (Text × Text)} (same : left.Perm right)
    (nodup : (left.map Prod.fst).Nodup) : orderFields true left = orderFields true right := by
  have leftPerm := List.perm_insertionSort (fun a b : Text × Text => a.1 ≤ b.1) left
  have rightPerm := List.perm_insertionSort (fun a b : Text × Text => a.1 ≤ b.1) right
  have unique : ∀ a ∈ left, ∀ b ∈ left, a.1 = b.1 → a = b := fun a memA b memB equal =>
    List.inj_on_of_nodup_map nodup memA memB equal
  have total : ∀ a b : Text × Text, a.1 ≤ b.1 ∨ b.1 ≤ a.1 := fun a b => le_total a.1 b.1
  simp only [orderFields, if_true]
  have : Std.Total (fun a b : Text × Text => a.1 ≤ b.1) := ⟨total⟩
  have : IsTrans (Text × Text) (fun a b => a.1 ≤ b.1) := ⟨fun _ _ _ => le_trans⟩
  refine List.Perm.eq_of_pairwise ?_ (List.pairwise_insertionSort (fun a b : Text × Text => a.1 ≤ b.1) left)
    (List.pairwise_insertionSort (fun a b : Text × Text => a.1 ≤ b.1) right)
    (leftPerm.trans (same.trans rightPerm.symm))
  intro a b memA memB below above
  exact unique a (leftPerm.mem_iff.mp memA) b (same.mem_iff.mpr (rightPerm.mem_iff.mp memB))
    (le_antisymm below above)

mutual
/-- The sorted encoding does not see the order of keys. -/
theorem Same.dumps_eq : {v w : Value} → Same v w → v.Valid →
    dumps true v = dumps true w ∧ w.Valid
  | _, _, .refl _, valid => ⟨rfl, valid⟩
  | .arr _, .arr _, .arr items, valid => by
      obtain ⟨encoded, valid⟩ := items.dumps_eq (by simpa [Value.Valid] using valid)
      exact ⟨by simp [dumps, encoded], by simpa [Value.Valid] using valid⟩
  | .obj fs, .obj gs, .obj fields, valid => by
      simp only [Value.Valid] at valid
      obtain ⟨nodup, members⟩ := valid
      obtain ⟨permuted, membersValid⟩ := fields.dumps_perm members
      have ordered := orderFields_perm permuted (by rw [keys_dumpsFields]; exact nodup)
      refine ⟨by simp [dumps, ordered], ?_⟩
      simp only [Value.Valid]
      exact ⟨(fields.keys_perm.nodup_iff).mp nodup, membersValid⟩

theorem SameItems.dumps_eq : {xs ys : List Value} → SameItems xs ys → Value.ValidItems xs →
    dumpsItems true xs = dumpsItems true ys ∧ Value.ValidItems ys
  | _, _, .nil, valid => ⟨rfl, valid⟩
  | _, _, .cons head tail, valid => by
      simp only [Value.ValidItems] at valid
      obtain ⟨headEq, headValid⟩ := head.dumps_eq valid.1
      obtain ⟨tailEq, tailValid⟩ := tail.dumps_eq valid.2
      exact ⟨by simp [dumpsItems, headEq, tailEq], by simp only [Value.ValidItems]; exact ⟨headValid, tailValid⟩⟩

theorem SameFields.dumps_perm : {fs gs : List (Text × Value)} → SameFields fs gs →
    Value.ValidFields fs →
    (dumpsFields true fs).Perm (dumpsFields true gs) ∧ Value.ValidFields gs
  | _, _, .nil, valid => ⟨.nil, valid⟩
  | _, _, .cons head tail, valid => by
      simp only [Value.ValidFields] at valid
      obtain ⟨headEq, headValid⟩ := head.dumps_eq valid.1
      obtain ⟨tailPerm, tailValid⟩ := tail.dumps_perm valid.2
      refine ⟨?_, by simp only [Value.ValidFields]; exact ⟨headValid, tailValid⟩⟩
      simp only [dumpsFields, headEq]
      exact tailPerm.cons _
  | _, _, .swap f g fs, valid => by
      obtain ⟨k, v⟩ := f
      obtain ⟨l, w⟩ := g
      simp only [Value.ValidFields] at valid ⊢
      exact ⟨.swap _ _ _, valid.2.1, valid.1, valid.2.2⟩
  | _, _, .trans first second, valid => by
      obtain ⟨firstPerm, middleValid⟩ := first.dumps_perm valid
      obtain ⟨secondPerm, lastValid⟩ := second.dumps_perm middleValid
      exact ⟨firstPerm.trans secondPerm, lastValid⟩
end

end HarnessProxy.Json

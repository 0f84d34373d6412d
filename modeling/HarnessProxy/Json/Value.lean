import HarnessProxy.Python.Runtime

namespace HarnessProxy.Json

/-! # JSON values as Python holds them

A `dict` keeps its insertion order, so an object is the list of its items.
`Value.Valid` says that no object repeats a key; it is a field of `JsonObject`,
the type of everything that crosses the proxy boundary.
-/

inductive Value where
  | null
  | bool (b : Bool)
  | int (i : Int)
  | float (f : PyFloat)
  | str (text : Text)
  | arr (items : List Value)
  | obj (fields : List (Text × Value))

/-- The items of a `dict[str, Any]`. -/
abbrev Object := List (Text × Value)

instance : Inhabited Value := ⟨.null⟩

mutual
def Value.decEq : (left right : Value) → Decidable (left = right)
  | .null, .null => .isTrue rfl
  | .bool a, .bool b => decidable_of_iff (a = b) (by simp)
  | .int a, .int b => decidable_of_iff (a = b) (by simp)
  | .float a, .float b => decidable_of_iff (a = b) (by simp)
  | .str a, .str b => decidable_of_iff (a = b) (by simp)
  | .arr xs, .arr ys => match decEqItems xs ys with
    | .isTrue same => .isTrue (by rw [same])
    | .isFalse different => .isFalse (by simpa using different)
  | .obj fs, .obj gs => match decEqFields fs gs with
    | .isTrue same => .isTrue (by rw [same])
    | .isFalse different => .isFalse (by simpa using different)
  | .null, .bool _ | .null, .int _ | .null, .float _ | .null, .str _ | .null, .arr _ | .null, .obj _
  | .bool _, .null | .bool _, .int _ | .bool _, .float _ | .bool _, .str _ | .bool _, .arr _
  | .bool _, .obj _ | .int _, .null | .int _, .bool _ | .int _, .float _ | .int _, .str _
  | .int _, .arr _ | .int _, .obj _ | .float _, .null | .float _, .bool _ | .float _, .int _
  | .float _, .str _ | .float _, .arr _ | .float _, .obj _ | .str _, .null | .str _, .bool _
  | .str _, .int _ | .str _, .float _ | .str _, .arr _ | .str _, .obj _ | .arr _, .null
  | .arr _, .bool _ | .arr _, .int _ | .arr _, .float _ | .arr _, .str _ | .arr _, .obj _
  | .obj _, .null | .obj _, .bool _ | .obj _, .int _ | .obj _, .float _ | .obj _, .str _
  | .obj _, .arr _ => .isFalse (by simp)

def decEqItems : (left right : List Value) → Decidable (left = right)
  | [], [] => .isTrue rfl
  | x :: xs, y :: ys => match x.decEq y, decEqItems xs ys with
    | .isTrue head, .isTrue tail => .isTrue (by rw [head, tail])
    | .isFalse head, _ => .isFalse (by simp [head])
    | _, .isFalse tail => .isFalse (by simp [tail])
  | [], _ :: _ | _ :: _, [] => .isFalse (by simp)

def decEqFields : (left right : List (Text × Value)) → Decidable (left = right)
  | [], [] => .isTrue rfl
  | (k, v) :: fs, (l, w) :: gs =>
    match (inferInstance : Decidable (k = l)), v.decEq w, decEqFields fs gs with
    | .isTrue key, .isTrue value, .isTrue tail => .isTrue (by rw [key, value, tail])
    | .isFalse key, _, _ => .isFalse (by simp [key])
    | _, .isFalse value, _ => .isFalse (by simp [value])
    | _, _, .isFalse tail => .isFalse (by simp [tail])
  | [], _ :: _ | _ :: _, [] => .isFalse (by simp)
end

instance : DecidableEq Value := Value.decEq

/-- Induction over a value with the hypothesis for every item of an array and
every field of an object. -/
theorem Value.induction {motive : Value → Prop} (null : motive .null) (bool : ∀ b, motive (.bool b))
    (int : ∀ i, motive (.int i)) (float : ∀ f, motive (.float f)) (str : ∀ text, motive (.str text))
    (arr : ∀ items, (∀ item ∈ items, motive item) → motive (.arr items))
    (obj : ∀ fields, (∀ field ∈ fields, motive field.2) → motive (.obj fields))
    (value : Value) : motive value := by
  refine Value.rec (motive_1 := motive) (motive_2 := fun items => ∀ item ∈ items, motive item)
    (motive_3 := fun fields => ∀ field ∈ fields, motive field.2)
    (motive_4 := fun field => motive field.2) null bool int float str
    (fun items ih => arr items ih) (fun fields ih => obj fields ih) ?_ ?_ ?_ ?_ ?_ value
  · simp
  · intro head tail headIH tailIH item member
    rcases List.mem_cons.mp member with rfl | member
    · exact headIH
    · exact tailIH item member
  · simp
  · intro head tail headIH tailIH field member
    rcases List.mem_cons.mp member with rfl | member
    · exact headIH
    · exact tailIH field member
  · intro key value ih
    exact ih

/-! ## Dictionaries -/

namespace Object

variable (fields : Object) (key : Text)

/-- `fields.get(key)`, with `none` for an absent key. -/
def get? : Object → Text → Option Value
  | [], _ => none
  | (name, value) :: rest, key => if name = key then some value else get? rest key

def keys : List Text := fields.map Prod.fst

/-- `key in fields`. -/
def has : Bool := (fields.get? key).isSome

/-- `fields[key] = value`: an existing key keeps its position. -/
def assign : Object → Text → Value → Object
  | [], key, value => [(key, value)]
  | (name, old) :: rest, key, value =>
    if name = key then (key, value) :: rest else (name, old) :: assign rest key value

/-- `fields.pop(key, None)`. -/
def pop : Object := fields.filter fun field => field.1 ≠ key

@[simp] theorem get?_nil : get? [] key = none := rfl

theorem get?_cons (name : Text) (value : Value) (rest : Object) :
    get? ((name, value) :: rest) key = if name = key then some value else get? rest key := rfl

@[simp] theorem get?_assign_self (value : Value) : (fields.assign key value).get? key = some value := by
  induction fields with
  | nil => simp [assign, get?_cons]
  | cons field rest ih =>
      obtain ⟨name, old⟩ := field
      by_cases same : name = key <;> simp [assign, get?_cons, same, ih]

theorem get?_assign_ne (value : Value) {other : Text} (different : other ≠ key) :
    (fields.assign key value).get? other = fields.get? other := by
  induction fields with
  | nil => simp [assign, get?_cons, different.symm]
  | cons field rest ih =>
      obtain ⟨name, old⟩ := field
      by_cases same : name = key
      · subst same
        simp [assign, get?_cons, different.symm]
      · simp [assign, get?_cons, same, ih]

@[simp] theorem get?_pop_self : (fields.pop key).get? key = none := by
  induction fields with
  | nil => rfl
  | cons field rest ih =>
      obtain ⟨name, old⟩ := field
      by_cases same : name = key
      · simpa [pop, same] using ih
      · simpa [pop, get?_cons, same] using ih

theorem get?_pop_ne {other : Text} (different : other ≠ key) :
    (fields.pop key).get? other = fields.get? other := by
  induction fields with
  | nil => rfl
  | cons field rest ih =>
      obtain ⟨name, old⟩ := field
      by_cases same : name = key
      · have skipped : ¬ name = other := fun equal => different (equal.symm.trans same)
        rw [get?_cons, if_neg skipped]
        simpa [pop, same] using ih
      · by_cases found : name = other
        · simp [pop, get?_cons, found, different]
        · have kept : pop ((name, old) :: rest) key = (name, old) :: pop rest key := by
            simp [pop, same]
          rw [kept, get?_cons, get?_cons, if_neg found, if_neg found]
          exact ih

theorem mem_of_get? {value : Value} (found : fields.get? key = some value) :
    (key, value) ∈ fields := by
  induction fields with
  | nil => simp at found
  | cons field rest ih =>
      obtain ⟨name, old⟩ := field
      rw [get?_cons] at found
      split at found
      · next same =>
        cases found
        simp [same]
      · exact List.mem_cons_of_mem _ (ih found)

theorem has_iff_mem_keys : fields.has key = true ↔ key ∈ fields.keys := by
  induction fields with
  | nil => simp [has, keys]
  | cons field rest ih =>
      obtain ⟨name, old⟩ := field
      by_cases same : name = key
      · simp [has, keys, get?_cons, same]
      · have reversed : ¬ key = name := fun equal => same equal.symm
        simpa [has, keys, get?_cons, same, reversed] using ih

@[simp] theorem keys_nil : keys [] = [] := rfl

@[simp] theorem keys_cons (field : Text × Value) : keys (field :: fields) = field.1 :: keys fields := rfl

theorem mem_keys_assign (value : Value) (name : Text) :
    name ∈ (fields.assign key value).keys ↔ name = key ∨ name ∈ fields.keys := by
  induction fields with
  | nil => simp [assign]
  | cons field rest ih =>
      obtain ⟨first, old⟩ := field
      by_cases same : first = key
      · simp [assign, same]
      · simp only [assign, if_neg same, keys_cons, List.mem_cons, ih]
        exact or_left_comm

theorem nodup_keys_assign (value : Value) (nodup : fields.keys.Nodup) :
    (fields.assign key value).keys.Nodup := by
  induction fields with
  | nil => simp [assign]
  | cons field rest ih =>
      obtain ⟨first, old⟩ := field
      obtain ⟨absent, tail⟩ := List.nodup_cons.mp nodup
      by_cases same : first = key
      · simpa [assign, same] using ⟨same ▸ absent, tail⟩
      · simp only [assign, if_neg same, keys_cons]
        refine List.nodup_cons.mpr ⟨?_, ih tail⟩
        rw [mem_keys_assign]
        rintro (equal | member)
        · exact same equal
        · exact absent member

end Object

namespace Value

/-- `isinstance(value, dict)` with the items. -/
def asObject? : Value → Option Object
  | .obj fields => some fields
  | _ => none

def asString? : Value → Option Text
  | .str text => some text
  | _ => none

def asList? : Value → Option (List Value)
  | .arr items => some items
  | _ => none

/-- `bool(value)`. -/
def truthy : Value → Bool
  | .null => false
  | .bool b => b
  | .int i => i ≠ 0
  | .float f => !f.isZero
  | .str text => text ≠ []
  | .arr items => !items.isEmpty
  | .obj fields => !fields.isEmpty

/-- `value in names` for a set of strings.  Lists and dictionaries are not
hashable, so looking one up raises. -/
def memberOf (names : List Text) : Value → Except PyError Bool
  | .arr _ | .obj _ => .error .typeError
  | .str text => .ok (names.contains text)
  | _ => .ok false

mutual
/-- No object of the value repeats a key. -/
def Valid : Value → Prop
  | .arr items => ValidItems items
  | .obj fields => (Object.keys fields).Nodup ∧ ValidFields fields
  | _ => True

def ValidItems : List Value → Prop
  | [] => True
  | item :: rest => item.Valid ∧ ValidItems rest

def ValidFields : List (Text × Value) → Prop
  | [] => True
  | (_, value) :: rest => value.Valid ∧ ValidFields rest
end

mutual
def valid : Value → Bool
  | .arr items => validItems items
  | .obj fields => decide (Object.keys fields).Nodup && validFields fields
  | _ => true

def validItems : List Value → Bool
  | [] => true
  | item :: rest => item.valid && validItems rest

def validFields : List (Text × Value) → Bool
  | [] => true
  | (_, value) :: rest => value.valid && validFields rest
end

theorem validItems_iff {items : List Value} : ValidItems items ↔ ∀ item ∈ items, item.Valid := by
  induction items with
  | nil => simp [ValidItems]
  | cons item rest ih => simp [ValidItems, ih]

theorem validFields_iff {fields : Object} : ValidFields fields ↔ ∀ field ∈ fields, field.2.Valid := by
  induction fields with
  | nil => simp [ValidFields]
  | cons field rest ih => simp [ValidFields, ih]

theorem validFields_assign {fields : Object} {value : Value} (key : Text) (members : ValidFields fields)
    (valid : value.Valid) : ValidFields (fields.assign key value) := by
  induction fields with
  | nil => exact ⟨valid, trivial⟩
  | cons field rest ih =>
      obtain ⟨name, old⟩ := field
      by_cases same : name = key
      · simp only [Object.assign, if_pos same]
        exact ⟨valid, members.2⟩
      · simp only [Object.assign, if_neg same]
        exact ⟨members.1, ih members.2⟩

mutual
theorem valid_iff : (value : Value) → (value.valid = true ↔ value.Valid)
  | .arr items => by simpa [valid, Valid] using validItems_eq items
  | .obj fields => by simp [valid, Valid, validFields_eq fields]
  | .null | .bool _ | .int _ | .float _ | .str _ => by simp [valid, Valid]

theorem validItems_eq : (items : List Value) → (validItems items = true ↔ ValidItems items)
  | [] => by simp [validItems, ValidItems]
  | item :: rest => by simp [validItems, ValidItems, valid_iff item, validItems_eq rest]

theorem validFields_eq : (fields : Object) → (validFields fields = true ↔ ValidFields fields)
  | [] => by simp [validFields, ValidFields]
  | (_, value) :: rest => by simp [validFields, ValidFields, valid_iff value, validFields_eq rest]
end

instance (value : Value) : Decidable value.Valid := decidable_of_iff _ (valid_iff value)

end Value

/-- A JSON object as `json.loads` returns it. -/
structure JsonObject where
  fields : Object
  valid : (Value.obj fields).Valid

theorem Object.valid_pop {fields : Object} (valid : (Value.obj fields).Valid) (key : Text) :
    (Value.obj (fields.pop key)).Valid := by
  obtain ⟨nodup, members⟩ := valid
  rw [Value.validFields_iff] at members
  refine ⟨nodup.sublist (List.filter_sublist.map Prod.fst), ?_⟩
  rw [Value.validFields_iff]
  exact fun field kept => members field (List.mem_of_mem_filter kept)

/-- `payload.pop(key, None)` of a whole object. -/
def JsonObject.pop (object : JsonObject) (key : Text) : JsonObject where
  fields := object.fields.pop key
  valid := Object.valid_pop object.valid key

theorem Object.valid_of_get? {fields : Object} {key : Text} {value : Value}
    (valid : (Value.obj fields).Valid) (found : fields.get? key = some value) : value.Valid := by
  have members := valid.2
  rw [Value.validFields_iff] at members
  exact members _ (fields.mem_of_get? key found)

end HarnessProxy.Json

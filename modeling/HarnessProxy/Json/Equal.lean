import HarnessProxy.Json.Canonical

namespace HarnessProxy.Json

/-! # `==` on JSON values -/

namespace Value

/-- The integer that a number without fraction compares as; `True == 1`. -/
def integer? : Value → Option Int
  | .bool true => some 1
  | .bool false => some 0
  | .int i => some i
  | _ => none

mutual
/-- Python's `==`.  Comparisons with a float are the parameter. -/
def equal (floatEqual : Value → Value → Bool) : Value → Value → Bool
  | .null, .null => true
  | .str left, .str right => left = right
  | .arr items, .arr others => equalItems floatEqual items others
  | .obj fields, .obj others => fields.length = others.length && equalFields floatEqual others fields
  | .float f, other => floatEqual (.float f) other
  | .bool b, other => equalNumber floatEqual (.bool b) other
  | .int i, other => equalNumber floatEqual (.int i) other
  | _, _ => false

def equalItems (floatEqual : Value → Value → Bool) : List Value → List Value → Bool
  | [], [] => true
  | item :: rest, other :: others => item.equal floatEqual other && equalItems floatEqual rest others
  | _, _ => false

/-- Every member has its equal among the members of the other object. -/
def equalFields (floatEqual : Value → Value → Bool) (others : Object) : List (Text × Value) → Bool
  | [] => true
  | (key, value) :: rest =>
    (match others.get? key with
      | some other => value.equal floatEqual other
      | none => false) && equalFields floatEqual others rest

def equalNumber (floatEqual : Value → Value → Bool) (number other : Value) : Bool :=
  match other with
  | .float g => floatEqual number (.float g)
  | _ => number.integer?.isSome && number.integer? = other.integer?
end

mutual
def Floatless : Value → Prop
  | .float _ => False
  | .arr items => FloatlessItems items
  | .obj fields => FloatlessFields fields
  | _ => True

def FloatlessItems : List Value → Prop
  | [] => True
  | item :: rest => item.Floatless ∧ FloatlessItems rest

def FloatlessFields : List (Text × Value) → Prop
  | [] => True
  | (_, value) :: rest => value.Floatless ∧ FloatlessFields rest
end

theorem floatlessItems_iff {items : List Value} : FloatlessItems items ↔ ∀ item ∈ items, item.Floatless := by
  induction items with
  | nil => simp [FloatlessItems]
  | cons item rest ih => simp [FloatlessItems, ih]

theorem floatlessFields_iff {fields : Object} : FloatlessFields fields ↔ ∀ field ∈ fields, field.2.Floatless := by
  induction fields with
  | nil => simp [FloatlessFields]
  | cons field rest ih =>
      obtain ⟨key, value⟩ := field
      simp [FloatlessFields, ih]

variable {floatEqual : Value → Value → Bool}

theorem equalItems_map {items : List Value} {change : Value → Value}
    (each : ∀ item ∈ items, (change item).equal floatEqual item = true) :
    equalItems floatEqual (items.map change) items = true := by
  induction items with
  | nil => rfl
  | cons item rest ih =>
      obtain ⟨head, tail⟩ := List.forall_mem_cons.mp each
      rw [List.map_cons, equalItems, head, ih tail]
      rfl

theorem equalFields_iff {others fields : Object} :
    equalFields floatEqual others fields = true ↔
      ∀ field ∈ fields, ∃ other, others.get? field.1 = some other ∧ field.2.equal floatEqual other = true := by
  induction fields with
  | nil => simp [equalFields]
  | cons field rest ih =>
      obtain ⟨key, value⟩ := field
      rw [equalFields, Bool.and_eq_true, List.forall_mem_cons, ih]
      refine and_congr_left fun _ => ?_
      cases others.get? key <;> simp

/-- The first member with a key is the only one. -/
theorem get?_of_mem {fields : Object} (nodup : fields.keys.Nodup) {field : Text × Value} (member : field ∈ fields) :
    fields.get? field.1 = some field.2 := by
  induction fields with
  | nil => cases member
  | cons first rest ih =>
      obtain ⟨key, value⟩ := first
      obtain ⟨fresh, others⟩ := List.nodup_cons.mp nodup
      rw [Object.get?_cons]
      rcases List.mem_cons.mp member with rfl | inside
      · exact if_pos rfl
      · have different : key ≠ field.1 := by
          intro same
          have inKeys : field.1 ∈ rest.map Prod.fst := List.mem_map_of_mem inside
          exact fresh (same ▸ inKeys)
        rw [if_neg different, ih others inside]

theorem get?_canonical {fields : Object} (nodup : fields.keys.Nodup) (key : Text) :
    Object.get? fields.canonical key = (fields.get? key).map canonical := by
  have canonicalNodup : (Object.keys fields.canonical).Nodup := (Object.canonical_keys_perm fields).nodup_iff.mpr nodup
  cases found : fields.get? key with
  | some value =>
      have member : (key, value.canonical) ∈ fields.canonical :=
        (Object.canonical_perm fields).mem_iff.mpr (List.mem_map.mpr ⟨(key, value), fields.mem_of_get? key found, rfl⟩)
      exact get?_of_mem canonicalNodup member
  | none =>
      have absent : key ∉ fields.keys := fun inside => by
        have has := (Object.has_iff_mem_keys fields key).mpr inside
        rw [Object.has, found] at has
        cases has
      have canonicalAbsent : key ∉ Object.keys fields.canonical :=
        fun inside => absent ((Object.canonical_keys_perm fields).mem_iff.mp inside)
      cases other : Object.get? fields.canonical key with
      | none => rfl
      | some value => exact absurd (List.mem_map_of_mem (Object.mem_of_get? _ key other)) canonicalAbsent

/-- A value equals what sorting the keys makes of it. -/
theorem equal_canonical {py : Python} {value : Value} (clean : value.Clean py) (floatless : value.Floatless) :
    value.canonical.equal floatEqual value = true := by
  induction value using Value.induction with
  | null => rfl
  | bool b => cases b <;> rfl
  | int i => simp [canonical, equal, equalNumber, integer?]
  | float f => cases floatless
  | str text => simp [canonical, equal]
  | arr items ih =>
      have cleans := cleanItems_iff.mp clean
      have floatless := floatlessItems_iff.mp floatless
      rw [canonical, canonicalItems_eq, equal]
      exact equalItems_map fun item member => ih item member (cleans item member) (floatless item member)
  | obj fields ih =>
      have cleans := cleanFields_iff.mp clean.2
      have floatless := floatlessFields_iff.mp floatless
      have lengths : (Object.canonical fields).length = fields.length := by
        rw [(Object.canonical_perm fields).length_eq, List.length_map]
      change (Value.obj (Object.canonical fields)).equal floatEqual (.obj fields) = true
      rw [equal, Bool.and_eq_true, decide_eq_true_eq]
      refine ⟨lengths, equalFields_iff.mpr fun field member => ?_⟩
      obtain ⟨source, sourceMember, rfl⟩ := Object.mem_canonical member
      exact ⟨source.2, get?_of_mem clean.1 sourceMember,
        ih source sourceMember (cleans source sourceMember) (floatless source sourceMember)⟩

/-- A value equals itself as long as every float does. -/
theorem equal_refl (floats : ∀ f, floatEqual (.float f) (.float f) = true) {value : Value} (valid : value.Valid) :
    value.equal floatEqual value = true := by
  induction value using Value.induction with
  | null => rfl
  | bool b => cases b <;> rfl
  | int i => simp [equal, equalNumber, integer?]
  | float f => exact floats f
  | str text => simp [equal]
  | arr items ih =>
      have valids := validItems_iff.mp valid
      have all : equalItems floatEqual (items.map id) items = true :=
        equalItems_map fun item member => ih item member (valids item member)
      rwa [List.map_id] at all
  | obj fields ih =>
      have valids := validFields_iff.mp valid.2
      rw [equal, Bool.and_eq_true, decide_eq_true_eq]
      exact ⟨rfl, equalFields_iff.mpr fun field member =>
        ⟨field.2, get?_of_mem valid.1 member, ih field member (valids field member)⟩⟩

/-- The order of the members does not matter. -/
theorem equal_perm (floats : ∀ f, floatEqual (.float f) (.float f) = true) {fields others : Object}
    (perm : fields.Perm others) (valid : (Value.obj others).Valid) :
    (Value.obj fields).equal floatEqual (.obj others) = true := by
  have valids := validFields_iff.mp valid.2
  rw [equal, Bool.and_eq_true, decide_eq_true_eq]
  refine ⟨perm.length_eq, equalFields_iff.mpr fun field member => ?_⟩
  have inside := perm.mem_iff.mp member
  exact ⟨field.2, get?_of_mem valid.1 inside, equal_refl floats (valids field inside)⟩

end Value

end HarnessProxy.Json

import HarnessProxy.Data.History
import HarnessProxy.Service.Validation
import HarnessProxy.Transcript.Tools

namespace HarnessProxy.Service

open HarnessProxy.Json HarnessProxy.Core HarnessProxy.Data HarnessProxy.Transcript

/-! # Which schemas get a contract

The scan of the properties stops at the first one outside the primitive subset.
If the `type` of that one is a list or an object, the scan raises.
-/

/-- The property is declared with this primitive type. -/
def Declares (property : Text × Value) (type : Text) : Prop :=
  ∃ fields, property.2 = .obj fields ∧ Object.get? fields "type" = some (.str type) ∧ type ∈ primitiveTypes

def IsPrimitive (property : Text × Value) : Prop := ∃ type, Declares property type

/-- The type of the property is a list or an object, which no set contains. -/
def Unhashable (property : Text × Value) : Prop :=
  ∃ fields type, property.2 = .obj fields ∧ Object.get? fields "type" = some type ∧
    (type matches .arr _ | .obj _) = true

/-- The first property outside the primitive subset. -/
def FirstOther (properties : Object) (property : Text × Value) : Prop :=
  ∃ before after : Object, properties = before ++ property :: after ∧ (∀ earlier ∈ before, IsPrimitive earlier) ∧
    ¬ IsPrimitive property

section
variable {property other : Text × Value} {rest properties : Object}

theorem firstOther_cons : FirstOther (property :: rest) other ↔
    ¬ IsPrimitive property ∧ other = property ∨ IsPrimitive property ∧ FirstOther rest other := by
  constructor
  · rintro ⟨before, after, split, primitive, outside⟩
    cases before with
    | nil =>
        cases split
        exact Or.inl ⟨outside, rfl⟩
    | cons first before =>
        cases split
        exact Or.inr ⟨primitive _ (List.mem_cons_self ..), before, after, rfl,
          fun earlier member => primitive _ (List.mem_cons_of_mem _ member), outside⟩
  · rintro (⟨outside, rfl⟩ | ⟨first, before, after, rfl, primitive, outside⟩)
    · exact ⟨[], rest, rfl, by simp, outside⟩
    · exact ⟨property :: before, after, rfl, List.forall_mem_cons.mpr ⟨first, primitive⟩, outside⟩

/-! ## One property -/

theorem propertyTypes_declares {type : Text} (declares : Declares property type) :
    propertyTypes (property :: rest) =
      (propertyTypes rest).map fun types => types.map fun types => (property.1, type) :: types := by
  obtain ⟨key, definition⟩ := property
  obtain ⟨fields, rfl, typed, primitive⟩ := declares
  have known : Value.memberOf primitiveTypes (.str type) = .ok true := by
    rw [Value.memberOf, List.contains_iff_mem.mpr primitive]
  simp only [propertyTypes, Value.asObject?, typed, Option.getD_some, known, Option.bind_some, Value.asString?]
  cases propertyTypes rest <;> rfl

theorem propertyTypes_unhashable (unhashable : Unhashable property) :
    propertyTypes (property :: rest) = .error .typeError := by
  obtain ⟨key, definition⟩ := property
  obtain ⟨fields, type, rfl, typed, shape⟩ := unhashable
  simp only [propertyTypes, Value.asObject?, typed, Option.getD_some]
  cases type with
  | arr items => rfl
  | obj members => rfl
  | null | bool _ | int _ | float _ | str _ => cases shape

theorem propertyTypes_outside (outside : ¬ IsPrimitive property) (hashable : ¬ Unhashable property) :
    propertyTypes (property :: rest) = .ok none := by
  obtain ⟨key, definition⟩ := property
  cases definition with
  | obj fields =>
      cases typed : Object.get? fields "type" with
      | none => simp only [propertyTypes, Value.asObject?, typed, Option.getD_none, Value.memberOf]
      | some type =>
          simp only [propertyTypes, Value.asObject?, typed, Option.getD_some]
          cases type with
          | str text =>
              have unknown : primitiveTypes.contains text = false := by
                by_contra known
                exact outside ⟨text, fields, rfl, typed, List.contains_iff_mem.mp (Bool.eq_true_of_not_eq_false known)⟩
              simp only [Value.memberOf, unknown]
          | arr items => exact absurd ⟨fields, _, rfl, typed, rfl⟩ hashable
          | obj members => exact absurd ⟨fields, _, rfl, typed, rfl⟩ hashable
          | null | bool _ | int _ | float _ => rfl
  | null | bool _ | int _ | float _ | str _ | arr _ => rfl

/-! ## All properties -/

/-- The scan raises exactly at an unhashable type that it comes to. -/
theorem propertyTypes_raises_iff : (∃ error, propertyTypes properties = .error error) ↔
    ∃ property, FirstOther properties property ∧ Unhashable property := by
  induction properties with
  | nil => simp [propertyTypes, FirstOther]
  | cons property rest ih =>
      simp only [firstOther_cons]
      by_cases primitive : IsPrimitive property
      · obtain ⟨type, declares⟩ := primitive
        have isPrimitive : IsPrimitive property := ⟨type, declares⟩
        rw [propertyTypes_declares declares]
        simp only [isPrimitive, not_true_eq_false, false_and, true_and, false_or, ← ih]
        cases propertyTypes rest <;> simp [Except.map]
      · simp only [primitive, not_false_eq_true, true_and, false_and, or_false, exists_eq_left]
        by_cases unhashable : Unhashable property
        · simp [propertyTypes_unhashable unhashable, unhashable]
        · simp [propertyTypes_outside primitive unhashable, unhashable]

/-- The scan succeeds exactly on primitive properties, and lists their types. -/
theorem propertyTypes_eq_some_iff {types : List (Text × Text)} : propertyTypes properties = .ok (some types) ↔
    List.Forall₂ (fun property entry => entry.1 = property.1 ∧ Declares property entry.2) properties types := by
  induction properties generalizing types with
  | nil => simp [propertyTypes, eq_comm]
  | cons property rest ih =>
      constructor
      · intro typed
        by_cases primitive : IsPrimitive property
        · obtain ⟨type, declares⟩ := primitive
          rw [propertyTypes_declares declares] at typed
          cases tail : propertyTypes rest with
          | error error =>
              rw [tail] at typed
              cases typed
          | ok others =>
              rw [tail] at typed
              cases others with
              | none => cases typed
              | some others =>
                  cases typed
                  exact .cons ⟨rfl, declares⟩ (ih.mp tail)
        · by_cases unhashable : Unhashable property
          · rw [propertyTypes_unhashable unhashable] at typed
            cases typed
          · rw [propertyTypes_outside primitive unhashable] at typed
            cases typed
      · intro declared
        cases declared with
        | @cons _ entry _ others first tail =>
            obtain ⟨key, type⟩ := entry
            obtain ⟨rfl, declares⟩ := first
            rw [propertyTypes_declares declares, ih.mpr tail]
            rfl

end

/-! ## The whole contract -/

/-- A response format that declares an object with these properties. -/
structure DeclaresObject (format : Value) (wrapper schema properties : Object) : Prop where
  wrapped : ∃ fields, format = .obj fields ∧ Object.get? fields "type" = some (.str "json_schema") ∧
    Object.get? fields "json_schema" = some (.obj wrapper)
  declared : wrapper.get? "schema" = some (.obj schema)
  isObject : schema.get? "type" = some (.str "object")
  listed : schema.get? "properties" = some (.obj properties)

/-- The schema is strict and closed, requires each property once, and uses
annotations only. -/
structure StrictSchema (wrapper schema properties : Object) : Prop where
  strict : wrapper.get? "strict" = some (.bool true)
  closed : schema.get? "additionalProperties" = some (.bool false)
  required : ∃ names : List Text, schema.get? "required" = some (.arr (names.map .str)) ∧ names.Nodup ∧
    ∀ key, key ∈ names ↔ key ∈ properties.keys
  keywords : ∀ key ∈ schema.keys, key ∈ allowedSchemaKeys
  annotations : ∀ property ∈ properties, ∀ fields, property.2 = .obj fields →
    ∀ key ∈ Object.keys fields, key ∈ allowedPropertyKeys

/-- The contract says of the format what the conservative subset allows. -/
structure ExactContract (format : Value) (contract : SchemaContract) : Prop where
  declared : contract.keys ≠ none ↔ ∃ wrapper schema properties,
    DeclaresObject format wrapper schema properties ∧ ∀ property ∈ properties, IsPrimitive property
  primitive : ∀ wrapper schema properties, DeclaresObject format wrapper schema properties →
    (∀ property ∈ properties, IsPrimitive property) → contract.keys = some properties.keys ∧
      List.Forall₂ (fun property entry => entry.1 = property.1 ∧ Declares property entry.2) properties contract.types ∧
      (contract.strictPrimitiveObject = true ↔ StrictSchema wrapper schema properties)
  other : contract.keys = none → contract = {}

section
variable {format : Value} {wrapper schema properties : Object}

theorem asObject?_eq_some {value : Value} {fields : Object} : value.asObject? = some fields ↔ value = .obj fields := by
  cases value <;> simp [Value.asObject?]

theorem objectSchema?_eq_some : objectSchema? (some format) = some (wrapper, schema, properties) ↔
    DeclaresObject format wrapper schema properties := by
  simp only [objectSchema?, Option.bind_eq_bind, Option.bind_some, Option.bind_eq_some_iff, asObject?_eq_some]
  constructor
  · rintro ⟨fields, rfl, found⟩
    split at found
    · cases found
    · next isSchema =>
      simp only [Option.bind_eq_some_iff, asObject?_eq_some] at found
      obtain ⟨_, foundWrapper, wrapper, rfl, _, foundSchema, schema, rfl, found⟩ := found
      split at found
      · cases found
      · next isObject =>
        simp only [Option.bind_eq_some_iff, asObject?_eq_some] at found
        obtain ⟨_, foundProperties, properties, rfl, same⟩ := found
        cases same
        exact ⟨⟨fields, rfl, not_not.mp isSchema, foundWrapper⟩, foundSchema, not_not.mp isObject, foundProperties⟩
  · rintro ⟨⟨fields, rfl, isSchema, foundWrapper⟩, foundSchema, isObject, foundProperties⟩
    refine ⟨fields, rfl, ?_⟩
    simp [isSchema, foundWrapper, foundSchema, isObject, foundProperties, Value.asObject?]

/-- Distinct names that are the keys of the properties, each once. -/
theorem enumerates_iff {names keys : List Text} (nodup : keys.Nodup) :
    names.length = keys.length ∧ (∀ name ∈ names, name ∈ keys) ∧ (∀ key ∈ keys, key ∈ names) ↔
      names.Nodup ∧ ∀ key, key ∈ names ↔ key ∈ keys := by
  constructor
  · rintro ⟨length, included, all⟩
    have permutes := (List.subperm_of_subset nodup all).perm_of_length_le length.le
    exact ⟨permutes.nodup_iff.mp nodup, fun key => ⟨included key, all key⟩⟩
  · rintro ⟨distinct, same⟩
    have permutes := (List.perm_ext_iff_of_nodup distinct nodup).mpr same
    exact ⟨permutes.length_eq, fun name => (same name).mp, fun key => (same key).mpr⟩

theorem strings_of_all {items : List Value} (strings : ∀ item ∈ items, item.asString?.isSome = true) :
    items = (items.filterMap Value.asString?).map .str := by
  induction items with
  | nil => rfl
  | cons item rest ih =>
      obtain ⟨first, tail⟩ := List.forall_mem_cons.mp strings
      cases item with
      | str text => exact congrArg _ (ih tail)
      | null | bool _ | int _ | float _ | arr _ | obj _ => cases first

theorem strings_filterMap (names : List Text) : (names.map Value.str).filterMap Value.asString? = names := by
  induction names with
  | nil => rfl
  | cons name rest ih => exact congrArg (name :: ·) ih

theorem strict_iff (nodup : properties.keys.Nodup) (primitive : ∀ property ∈ properties, IsPrimitive property) :
    isStrictPrimitiveObjectSchema wrapper schema properties = true ↔ StrictSchema wrapper schema properties := by
  have lengths : properties.keys.length = properties.length := List.length_map ..
  simp only [isStrictPrimitiveObjectSchema, Bool.and_eq_true, decide_eq_true_eq, List.all_eq_true,
    List.contains_iff_mem]
  constructor
  · rintro ⟨⟨⟨⟨strict, closed⟩, required⟩, keywords⟩, annotations⟩
    refine ⟨strict, closed, ?_, keywords, fun property member fields shape => ?_⟩
    · split at required
      · next items found =>
        simp only [Bool.and_eq_true, decide_eq_true_eq, List.all_eq_true, List.contains_iff_mem] at required
        obtain ⟨⟨⟨length, strings⟩, included⟩, all⟩ := required
        have named := strings_of_all strings
        refine ⟨items.filterMap Value.asString?, found.trans (congrArg (some ∘ Value.arr) named), ?_⟩
        refine (enumerates_iff nodup).mp ⟨?_, included, all⟩
        have mapped := congrArg List.length named
        rw [List.length_map] at mapped
        omega
      · cases required
    · have annotated := annotations property member
      rw [shape] at annotated
      simpa [Value.asObject?] using annotated
  · rintro ⟨strict, closed, ⟨names, found, enumerates⟩, keywords, annotations⟩
    obtain ⟨length, included, all⟩ := (enumerates_iff nodup).mpr enumerates
    refine ⟨⟨⟨⟨strict, closed⟩, ?_⟩, keywords⟩, fun property member => ?_⟩
    · rw [found]
      simp only [strings_filterMap, List.length_map, Bool.and_eq_true, decide_eq_true_eq, List.all_eq_true,
        List.contains_iff_mem]
      refine ⟨⟨⟨length.trans lengths, ?_⟩, included⟩, all⟩
      intro item isName
      obtain ⟨name, _, rfl⟩ := List.mem_map.mp isName
      rfl
    · obtain ⟨_, fields, shape, _⟩ := primitive property member
      rw [shape]
      simpa [Value.asObject?] using annotations property member fields shape

theorem DeclaresObject.nodup (declares : DeclaresObject format wrapper schema properties) (valid : format.Valid) :
    properties.keys.Nodup := by
  obtain ⟨fields, rfl, _, wrapped⟩ := declares.wrapped
  have validWrapper := Object.valid_of_get? valid wrapped
  have validSchema := Object.valid_of_get? validWrapper declares.declared
  exact (Object.valid_of_get? validSchema declares.listed).1

theorem exists_types (primitive : ∀ property ∈ properties, IsPrimitive property) :
    ∃ types : List (Text × Text),
      List.Forall₂ (fun property entry => entry.1 = property.1 ∧ Declares property entry.2) properties types := by
  induction properties with
  | nil => exact ⟨[], .nil⟩
  | cons property rest ih =>
      obtain ⟨⟨type, declares⟩, others⟩ := List.forall_mem_cons.mp primitive
      obtain ⟨types, tail⟩ := ih others
      exact ⟨(property.1, type) :: types, .cons ⟨rfl, declares⟩ tail⟩

theorem isPrimitive_of_forall₂ {types : List (Text × Text)}
    (declared : List.Forall₂ (fun property entry => entry.1 = property.1 ∧ Declares property entry.2) properties types) :
    ∀ property ∈ properties, IsPrimitive property := by
  intro property member
  obtain ⟨entry, _, _, declares⟩ := aligned_of_mem_left declared member
  exact ⟨entry.2, declares⟩

/-- What the derivation returns is exact. -/
theorem responseSchemaContract_exact {contract : SchemaContract} (valid : format.Valid)
    (derived : responseSchemaContract (some format) = .ok contract) : ExactContract format contract := by
  simp only [responseSchemaContract] at derived
  split at derived
  · next none =>
    cases derived
    have undeclared {wrapper schema properties : Object} : ¬ DeclaresObject format wrapper schema properties := by
      intro declares
      rw [objectSchema?_eq_some.mpr declares] at none
      cases none
    refine ⟨⟨fun some => absurd rfl some, ?_⟩, fun _ _ _ declares => absurd declares undeclared, fun _ => rfl⟩
    rintro ⟨_, _, _, declares, _⟩
    exact absurd declares undeclared
  · next wrapper schema properties found =>
    have declares := objectSchema?_eq_some.mp found
    have only {w s p : Object} (other : DeclaresObject format w s p) : w = wrapper ∧ s = schema ∧ p = properties := by
      rw [objectSchema?_eq_some.mpr other] at found
      cases found
      exact ⟨rfl, rfl, rfl⟩
    simp only [bind_eq_ok] at derived
    obtain ⟨types, typed, derived⟩ := derived
    cases types with
    | none =>
        cases derived
        have outside : ¬ ∀ property ∈ properties, IsPrimitive property := by
          intro primitive
          obtain ⟨types, declared⟩ := exists_types primitive
          rw [propertyTypes_eq_some_iff.mpr declared] at typed
          cases typed
        refine ⟨⟨fun some => absurd rfl some, ?_⟩, ?_, fun _ => rfl⟩
        · rintro ⟨_, _, _, other, primitive⟩
          obtain ⟨rfl, rfl, rfl⟩ := only other
          exact absurd primitive outside
        · intro _ _ _ other primitive
          obtain ⟨rfl, rfl, rfl⟩ := only other
          exact absurd primitive outside
    | some types =>
        cases derived
        have declared := propertyTypes_eq_some_iff.mp typed
        have primitive := isPrimitive_of_forall₂ declared
        refine ⟨⟨fun _ => ⟨wrapper, schema, properties, declares, primitive⟩, fun _ none => by cases none⟩, ?_,
          fun none => by cases none⟩
        intro _ _ _ other _
        obtain ⟨rfl, rfl, rfl⟩ := only other
        exact ⟨rfl, declared, strict_iff (declares.nodup valid) primitive⟩

end

/-- The derivation returns, and then an exact contract, unless the first property
outside the primitive subset has a list or an object for its type. -/
theorem responseSchemaContract_exact_iff (format : Value) (valid : format.Valid) :
    (∃ contract, responseSchemaContract (some format) = .ok contract ∧ ExactContract format contract) ↔
      ∀ wrapper schema properties property, DeclaresObject format wrapper schema properties →
        FirstOther properties property → ¬ Unhashable property := by
  constructor
  · rintro ⟨contract, derived, _⟩ wrapper schema properties property declares first unhashable
    obtain ⟨error, raises⟩ := propertyTypes_raises_iff.mpr ⟨property, first, unhashable⟩
    simp only [responseSchemaContract, objectSchema?_eq_some.mpr declares, raises] at derived
    cases derived
  · intro hashable
    cases derived : responseSchemaContract (some format) with
    | ok contract => exact ⟨contract, rfl, responseSchemaContract_exact valid derived⟩
    | error error =>
        simp only [responseSchemaContract] at derived
        split at derived
        · cases derived
        · next wrapper schema properties found =>
          cases typed : propertyTypes properties with
          | ok types =>
              rw [typed] at derived
              cases types <;> cases derived
          | error raised =>
              obtain ⟨property, first, unhashable⟩ := propertyTypes_raises_iff.mp ⟨raised, typed⟩
              exact absurd unhashable (hashable _ _ _ _ (objectSchema?_eq_some.mp found) first)

/-- A schema that declares these properties. -/
def propertiesFormat (properties : Object) : Value :=
  .obj [("type", .str "json_schema"),
    ("json_schema", .obj [("schema", .obj [("type", .str "object"), ("properties", .obj properties)])])]

/-- A status that may be a string or null. -/
def nullableStatus : Object := [("status", .obj [("type", .arr [.str "string", .str "null"])])]

theorem union_type_raises : validateResponseFormat (propertiesFormat nullableStatus) = .ok () ∧
    (propertiesFormat nullableStatus).Valid ∧
    ∀ contract, responseSchemaContract (some (propertiesFormat nullableStatus)) ≠ .ok contract := by
  refine ⟨rfl, by decide, fun contract derived => ?_⟩
  have raises : responseSchemaContract (some (propertiesFormat nullableStatus)) = .error .typeError := rfl
  rw [raises] at derived
  cases derived

def partsProperty : Text × Value := ("parts", .obj [("type", .str "array")])

theorem responseSchemaContract_exact_iff_array : ∃ contract,
    responseSchemaContract (some (propertiesFormat [partsProperty])) = .ok contract ∧
      ExactContract (propertiesFormat [partsProperty]) contract := by
  refine (responseSchemaContract_exact_iff (propertiesFormat [partsProperty]) (by decide)).mpr ?_
  rintro wrapper schema properties property declares ⟨before, after, split, _⟩ ⟨fields, type, shape, typed, bad⟩
  have same : objectSchema? (some (propertiesFormat [partsProperty])) = some (_, _, [partsProperty]) := rfl
  rw [objectSchema?_eq_some.mpr declares] at same
  cases same
  have only : property ∈ [partsProperty] := split ▸ by simp
  rw [List.mem_singleton.mp only] at shape
  cases shape
  cases typed.symm.trans (show _ = some (.str "array") from rfl)
  cases bad

end HarnessProxy.Service

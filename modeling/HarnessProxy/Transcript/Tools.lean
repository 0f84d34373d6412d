import HarnessProxy.Core.Receipt

namespace HarnessProxy.Transcript

open HarnessProxy.Json HarnessProxy.Core

/-! # Tool schemas and response contracts -/

/-- The errors of `prepare_tools`: a `PolicyAnnotationError` or a plain `ValueError`. -/
inductive PrepareError where
  | policyAnnotationError (statusCode : Nat) (code message : Text)
  | valueError (message : Text)
deriving DecidableEq

def roleKey : Text := "x-shiftedx-role"

def parseRole (text : Text) : Option ToolRole :=
  if text = ("mutation" : Text) then some .mutation
  else if text = ("verification" : Text) then some .verification
  else if text = ("investigation" : Text) then some .investigation
  else if text = ("other" : Text) then some .other
  else none

/-- `_annotation_role`; `none` stands for a missing annotation. -/
def annotationRole : Option Value → Except PrepareError (Option ToolRole)
  | none => .ok none
  | some (.str text) => match parseRole (Text.lower (Text.strip text)) with
    | some role => .ok (some role)
    | none => .error (.policyAnnotationError 400 "invalid_role_annotation"
        "x-shiftedx-role must be a supported string when present.")
  | some _ => .error (.policyAnnotationError 400 "invalid_role_annotation"
      "x-shiftedx-role must be a supported string when present.")

/-- `function` and its string `name`, if a tool schema has both. -/
def toolFunction? (tool : Object) : Option (Object × Text) := do
  let function ← (← tool.get? "function").asObject?
  let name ← (← function.get? "name").asString?
  return (function, name)

/-- What an agreed annotation does to the roles. -/
def applyAnnotation (configuredRoles : ToolRoles) (policyExtensionsAllowed : Bool) (roles : ToolRoles)
    (policyExtensionUsed : Bool) (name : Text) (role : ToolRole) : Except PrepareError (ToolRoles × Bool) :=
  match configuredRoles.configuredRole name with
  | .error _ =>
    .error (.valueError "Configured tool roles must assign each tool name to only one role")
  | .ok none => .ok ( roles.withAnnotation name role, policyExtensionUsed)
  | .ok (some protectedRole) =>
    if role = protectedRole then .ok (roles, policyExtensionUsed)
    else if policyExtensionsAllowed then .ok ( roles.withAnnotation name role, true)
    else .error (.policyAnnotationError 403 "protected_role_override_denied"
      "A server-configured tool role cannot be changed by this principal.")

/-- One round of the loop of `prepare_tools`: the stripped tool, the roles and
whether a policy extension was used. -/
def prepareTool (configuredRoles : ToolRoles) (policyExtensionsAllowed : Bool) (roles : ToolRoles)
    (policyExtensionUsed : Bool) (tool : Value) : Except PrepareError (Value × ToolRoles × Bool) :=
  match tool.asObject? with
  | none => .error (.valueError "Every tool must be an object")
  | some fields => match toolFunction? fields with
    | none => .error (.valueError "Every tool must contain function.name")
    | some (function, name) => do
      let stripped : Value := .obj ((fields.pop roleKey).assign "function" (.obj (function.pop roleKey)))
      let topRole ← annotationRole (fields.get? roleKey)
      let functionRole ← annotationRole (function.get? roleKey)
      raiseIf (topRole.isSome && functionRole.isSome && topRole ≠ functionRole)
        (.policyAnnotationError 400 "conflicting_role_annotation"
          "Top-level and function x-shiftedx-role annotations must agree.")
      match functionRole.or topRole with
      | none => .ok (stripped, roles, policyExtensionUsed)
      | some role => ( applyAnnotation configuredRoles policyExtensionsAllowed roles policyExtensionUsed
          name role).map fun applied => (stripped, applied)

def prepareEach (configuredRoles : ToolRoles) (policyExtensionsAllowed : Bool) :
    ToolRoles → Bool → List Value → Except PrepareError (List Value × ToolRoles × Bool)
  | roles, used, [] => .ok ([], roles, used)
  | roles, used, tool :: rest => do
    let (stripped, roles, used) ← prepareTool configuredRoles policyExtensionsAllowed roles used tool
    let (others, roles, used) ← prepareEach configuredRoles policyExtensionsAllowed roles used rest
    return (stripped :: others, roles, used)

/-- Strip proxy role annotations while retaining every unrelated upstream field. -/
def prepareTools (rawTools : Option Value) (configuredRoles : ToolRoles)
    (policyExtensionsAllowed : Bool) : Except PrepareError (List Value × ToolRoles × Bool) :=
  match rawTools with
  | none | some .null => .ok ([], configuredRoles, false)
  | some (.arr tools) => prepareEach configuredRoles policyExtensionsAllowed configuredRoles false tools
  | some _ => .error (.valueError "tools must be an array")

section
variable {configured roles roles' : ToolRoles} {allowed used used' : Bool}

theorem applyAnnotation_disjoint {name : Text} {role : ToolRole} (disjoint : roles.Disjoint)
    (applied : applyAnnotation configured allowed roles used name role = .ok (roles', used')) :
    roles'.Disjoint := by
  simp only [ applyAnnotation] at applied
  split at applied
  · cases applied
  · cases applied
    exact ToolRoles.withAnnotation_disjoint disjoint _ _
  · split at applied
    · cases applied
      exact disjoint
    · split at applied
      · cases applied
        exact ToolRoles.withAnnotation_disjoint disjoint _ _
      · cases applied

theorem prepareTool_disjoint {tool stripped : Value} (disjoint : roles.Disjoint)
    (prepared : prepareTool configured allowed roles used tool = .ok (stripped, roles', used')) :
    roles'.Disjoint := by
  simp only [prepareTool] at prepared
  split at prepared
  · cases prepared
  · split at prepared
    · cases prepared
    · next function name _ =>
      simp only [bind_eq_ok] at prepared
      obtain ⟨topRole, _, functionRole, _, _, _, prepared⟩ := prepared
      split at prepared
      · cases prepared
        exact disjoint
      · next role _ =>
        cases applied : applyAnnotation configured allowed roles used name role with
        | error e => simp [applied, Except.map] at prepared
        | ok result =>
            simp only [applied, Except.map, Except.ok.injEq, Prod.mk.injEq] at prepared
            obtain ⟨_, rfl⟩ := prepared
            exact applyAnnotation_disjoint disjoint applied

theorem prepareEach_disjoint {tools stripped : List Value} (disjoint : roles.Disjoint)
    (prepared : prepareEach configured allowed roles used tools = .ok (stripped, roles', used')) :
    roles'.Disjoint := by
  induction tools generalizing roles used stripped with
  | nil =>
      cases prepared
      exact disjoint
  | cons tool rest ih =>
      simp only [prepareEach, bind_eq_ok] at prepared
      obtain ⟨⟨first, middle, middleUsed⟩, head, ⟨others, last, lastUsed⟩, tail, same⟩ := prepared
      cases same
      exact ih (prepareTool_disjoint disjoint head) tail

/-- Annotations never give a tool two roles. -/
theorem prepareTools_disjoint {rawTools : Option Value} {tools : List Value}
    (disjoint : configured.Disjoint)
    (prepared : prepareTools rawTools configured allowed = .ok (tools, roles, used)) :
    roles.Disjoint := by
  simp only [prepareTools] at prepared
  split at prepared
  · cases prepared
    exact disjoint
  · cases prepared
    exact disjoint
  · exact prepareEach_disjoint disjoint prepared
  · cases prepared

end

/-! ## Response contracts -/

structure SchemaContract where
  keys : Option (List Text) := none
  types : List (Text × Text) := []
  strictPrimitiveObject : Bool := false
  enforceFailedExecutionClaim : Bool := false

def primitiveTypes : List Text := ["string", "integer", "number", "boolean"]

/-- The declared primitive types of the properties, `none` where one is outside
the supported subset.  A type that is a list raises. -/
def propertyTypes : Object → Except PyError (Option (List (Text × Text)))
  | [] => .ok (some [])
  | (key, definition) :: rest => match definition.asObject? with
    | none => .ok none
    | some fields => match (fields.get? "type").getD .null |>.memberOf primitiveTypes with
      | .error e => .error e
      | .ok false => .ok none
      | .ok true => do
        let types ← propertyTypes rest
        return types.map fun types => (key, ((fields.get? "type").bind Value.asString?).getD "") :: types

def allowedSchemaKeys : List Text :=
  ["type", "properties", "required", "additionalProperties", "title", "description"]

def allowedPropertyKeys : List Text := ["type", "title", "description"]

/-- `_is_strict_primitive_object_schema`.  The types of the properties were
checked before. -/
def isStrictPrimitiveObjectSchema (wrapper schema properties : Object) : Bool :=
  wrapper.get? "strict" = some (.bool true) &&
    schema.get? "additionalProperties" = some (.bool false) &&
    (match schema.get? "required" with
      | some (.arr required) =>
        required.length = properties.length && required.all (fun key => key.asString?.isSome) &&
          (required.filterMap Value.asString?).all properties.keys.contains &&
          properties.keys.all (required.filterMap Value.asString?).contains
      | _ => false) &&
    schema.keys.all allowedSchemaKeys.contains &&
    properties.all fun property => match property.2.asObject? with
      | some definition => definition.keys.all allowedPropertyKeys.contains
      | none => false

/-- The `json_schema` wrapper, the schema and its properties, where a response
format declares an object. -/
def objectSchema? (responseFormat : Option Value) : Option (Object × Object × Object) := do
  let format ← (← responseFormat).asObject?
  if format.get? "type" ≠ some (.str "json_schema") then none
  let wrapper ← (← format.get? "json_schema").asObject?
  let schema ← (← wrapper.get? "schema").asObject?
  if schema.get? "type" ≠ some (.str "object") then none
  let properties ← (← schema.get? "properties").asObject?
  return (wrapper, schema, properties)

/-- Derive the conservative primitive object contract. -/
def responseSchemaContract (responseFormat : Option Value) : Except PyError SchemaContract :=
  match objectSchema? responseFormat with
  | none => .ok {}
  | some (wrapper, schema, properties) => do
    match ← propertyTypes properties with
    | none => return {}
    | some types =>
      let strict := isStrictPrimitiveObjectSchema wrapper schema properties
      return {
        keys := some properties.keys
        types
        strictPrimitiveObject := strict
        enforceFailedExecutionClaim := strict &&
          wrapper.get? "name" = some (.str "shiftedx_recovery_result_v1") &&
          types.lookup ("failed_executions" : Text) = some ("integer" : Text) }

theorem propertyTypes_keys {properties : Object} {types : List (Text × Text)}
    (typed : propertyTypes properties = .ok (some types)) : types.map Prod.fst = properties.keys := by
  induction properties generalizing types with
  | nil =>
      cases typed
      rfl
  | cons property rest ih =>
      obtain ⟨key, definition⟩ := property
      simp only [propertyTypes] at typed
      split at typed
      · cases typed
      · split at typed
        · cases typed
        · cases typed
        · simp only [bind_eq_ok, pure, Except.pure, Except.ok.injEq] at typed
          obtain ⟨others, tail, shape⟩ := typed
          cases others with
          | none => cases shape
          | some others =>
              simp only [Option.map_some, Option.some.injEq] at shape
              subst shape
              simp [ih tail]

/-- The declared types are those of the declared keys, in their order. -/
theorem responseSchemaContract_types {responseFormat : Option Value} {contract : SchemaContract}
    (derived : responseSchemaContract responseFormat = .ok contract) {keys : List Text}
    (declared : contract.keys = some keys) : contract.types.map Prod.fst = keys := by
  simp only [responseSchemaContract] at derived
  split at derived
  · cases derived
    cases declared
  · simp only [bind_eq_ok] at derived
    obtain ⟨types, typed, derived⟩ := derived
    cases types with
    | none =>
        cases derived
        cases declared
    | some types =>
        cases derived
        cases declared
        exact propertyTypes_keys typed

/-- A failed execution claim is only enforced where the key is declared. -/
theorem responseSchemaContract_enforced {responseFormat : Option Value} {contract : SchemaContract}
    (derived : responseSchemaContract responseFormat = .ok contract)
    (enforced : contract.enforceFailedExecutionClaim = true) :
    contract.types.lookup ("failed_executions" : Text) = some ("integer" : Text) := by
  simp only [responseSchemaContract] at derived
  split at derived
  · cases derived
    cases enforced
  · simp only [bind_eq_ok] at derived
    obtain ⟨types, _, derived⟩ := derived
    cases types with
    | none =>
        cases derived
        cases enforced
    | some types =>
        cases derived
        simp only [Bool.and_eq_true, decide_eq_true_eq] at enforced
        exact enforced.2

end HarnessProxy.Transcript

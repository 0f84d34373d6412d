import HarnessProxy.Transcript.Tools

namespace HarnessProxy.Transcript

open HarnessProxy.Json HarnessProxy.Core

/-! # Protected roles

Without policy extensions an annotation can only name the role of a tool that
the server has given none.
-/

/-- The tool without the annotations of the proxy. -/
def strippedTool (tool : Value) : Value :=
  match tool with
  | .obj fields => match Object.get? fields "function" with
    | some (.obj function) =>
      .obj ((Object.pop fields roleKey).assign "function" (.obj (Object.pop function roleKey)))
    | _ => tool
  | _ => tool

/-- A named tool whose annotations are valid and agree on `role`. -/
def AnnotatedTool (tool : Value) (name : Text) (role : Option ToolRole) : Prop :=
  ∃ fields function top inner, tool = .obj fields ∧ toolFunction? fields = some (function, name) ∧
    annotationRole (Object.get? fields roleKey) = .ok top ∧
    annotationRole (Object.get? function roleKey) = .ok inner ∧
    (∀ first second, top = some first → inner = some second → first = second) ∧ role = inner.or top

/-- The tool carries an annotation, whatever its value. -/
def CarriesAnnotation (tool : Value) (name : Text) : Prop :=
  ∃ fields function, tool = .obj fields ∧ toolFunction? fields = some (function, name) ∧
    (Object.has fields roleKey = true ∨ Object.has function roleKey = true)

/-- The sets agree on the name. -/
structure SameRole (left right : ToolRoles) (name : Text) : Prop where
  mutation : name ∈ left.mutation ↔ name ∈ right.mutation
  verification : name ∈ left.verification ↔ name ∈ right.verification
  investigation : name ∈ left.investigation ↔ name ∈ right.investigation

/-- What the annotations of an untrusted client leave of the configured roles. -/
structure RolesKept (configured roles : ToolRoles) (tools : List Value) : Prop where
  protectedTools : ∀ name role, configured.configuredRole name = .ok (some role) →
    roles.configuredRole name = .ok (some role)
  disjoint : roles.Disjoint
  unannotated : ∀ name, (∀ tool ∈ tools, ¬ CarriesAnnotation tool name) → SameRole configured roles name

/-- An annotation that would change a configured role stands in front of
everything that is `malformed`. -/
def OverridesBefore (malformed : Value → Prop) (configured : ToolRoles) (tools : List Value) : Prop :=
  ∃ before tool after, tools = before ++ tool :: after ∧ (∀ earlier ∈ before, ¬ malformed earlier) ∧
    ∃ name role protectedRole, AnnotatedTool tool name (some role) ∧
      configured.configuredRole name = .ok (some protectedRole) ∧ role ≠ protectedRole

/-- The tool has no name, or its annotations are invalid or conflict. -/
def MalformedTool (tool : Value) : Prop := ∀ name role, ¬ AnnotatedTool tool name role

namespace SameRole

variable {left middle right : ToolRoles} {name : Text}

theorem refl (roles : ToolRoles) : SameRole roles roles name := ⟨Iff.rfl, Iff.rfl, Iff.rfl⟩

theorem trans (first : SameRole left middle name) (second : SameRole middle right name) :
    SameRole left right name :=
  ⟨first.mutation.trans second.mutation, first.verification.trans second.verification,
    first.investigation.trans second.investigation⟩

theorem configuredRole (same : SameRole left right name) : left.configuredRole name = right.configuredRole name := by
  have mutation := same.mutation
  have verification := same.verification
  have investigation := same.investigation
  by_cases first : name ∈ right.mutation <;> by_cases second : name ∈ right.verification <;>
    by_cases third : name ∈ right.investigation <;> simp_all [ToolRoles.configuredRole]

theorem annotated (roles : ToolRoles) {other : Text} (role : ToolRole) (different : name ≠ other) :
    SameRole roles ( roles.withAnnotation other role) name := by
  cases role <;> constructor <;> simp [ToolRoles.withAnnotation, different]

end SameRole

section
variable {configured roles roles' : ToolRoles} {allowed used used' : Bool} {tool stripped : Value} {name : Text}
  {role : Option ToolRole} {tools others : List Value}

/-- Disjoint roles give every name at most one of them. -/
theorem configuredRole_of_disjoint (disjoint : configured.Disjoint) (name : Text) :
    ∃ protectedRole, configured.configuredRole name = .ok protectedRole := by
  have first := disjoint.mutation_verification name
  have second := disjoint.mutation_investigation name
  have third := disjoint.verification_investigation name
  by_cases mutation : name ∈ configured.mutation <;> by_cases verification : name ∈ configured.verification <;>
    by_cases investigation : name ∈ configured.investigation <;>
    simp_all [ToolRoles.configuredRole, List.filter]

theorem strippedTool_named {fields function : Object} (named : toolFunction? fields = some (function, name)) :
    strippedTool (.obj fields) = .obj ((fields.pop roleKey).assign "function" (.obj (function.pop roleKey))) := by
  simp only [toolFunction?, Option.bind_eq_bind, Option.bind_eq_some_iff, pure, Option.some.injEq, Prod.mk.injEq] at named
  obtain ⟨value, found, object, isObject, _, _, _, _, rfl, _⟩ := named
  cases value with
  | obj inner =>
      cases isObject
      simp [strippedTool, found]
  | _ => cases isObject

/-- One round of the loop, on a tool with valid annotations. -/
theorem prepareTool_annotated (annotated : AnnotatedTool tool name role) :
    prepareTool configured allowed roles used tool = role.elim (.ok (strippedTool tool, roles, used))
      fun role => ( applyAnnotation configured allowed roles used name role).map (strippedTool tool, ·) := by
  obtain ⟨fields, function, top, inner, rfl, named, topRole, innerRole, agree, rfl⟩ := annotated
  have noConflict : (top.isSome && inner.isSome && decide (top ≠ inner)) = false := by
    cases top with
    | none => rfl
    | some first =>
        cases inner with
        | none => rfl
        | some second => simp [agree first second rfl rfl]
  simp only [prepareTool, Value.asObject?, named, topRole, innerRole, bind, Except.bind, raiseIf, noConflict,
    Bool.false_eq_true, if_false, strippedTool_named named]
  cases inner.or top <;> rfl

/-- An error that refuses a change of a configured role. -/
def DeniesOverride (error : PrepareError) : Prop := ∃ code message, error = .policyAnnotationError 403 code message

theorem annotationRole_error {found : Option Value} {error : PrepareError}
    (invalid : annotationRole found = .error error) : ¬ DeniesOverride error := by
  unfold annotationRole at invalid
  rintro ⟨code, message, rfl⟩
  split at invalid
  · cases invalid
  · split at invalid <;> cases invalid
  · cases invalid

/-- One round of the loop, on any other tool. -/
theorem prepareTool_malformed (malformed : MalformedTool tool) :
    ∃ error, prepareTool configured allowed roles used tool = .error error ∧ ¬ DeniesOverride error := by
  have plain (message : Text) : ¬ DeniesOverride (.valueError message) := fun denies => by
    obtain ⟨_, _, same⟩ := denies
    cases same
  unfold prepareTool
  cases tool with
  | obj fields =>
      cases named : toolFunction? fields with
      | none => exact ⟨_, by simp only [Value.asObject?, named]; rfl, plain _⟩
      | some found =>
          obtain ⟨function, name⟩ := found
          simp only [Value.asObject?, named, bind, Except.bind]
          cases topRole : annotationRole (Object.get? fields roleKey) with
          | error error => exact ⟨error, rfl, annotationRole_error topRole⟩
          | ok top =>
              cases innerRole : annotationRole (Object.get? function roleKey) with
              | error error => exact ⟨error, rfl, annotationRole_error innerRole⟩
              | ok inner =>
                  by_cases conflict : (top.isSome && inner.isSome && decide (top ≠ inner)) = true
                  · refine ⟨_, by simp only [raiseIf, conflict, if_true]; rfl, ?_⟩
                    rintro ⟨_, _, same⟩
                    cases same
                  · refine absurd ⟨fields, function, top, inner, rfl, named, topRole, innerRole, ?_, rfl⟩
                      (malformed name (inner.or top))
                    rintro first second rfl rfl
                    by_contra different
                    exact conflict (by simp [different])
  | _ => exact ⟨_, rfl, plain _⟩

/-- Whoever asks, the tools are forwarded without the annotations. -/
theorem prepareEach_stripped (prepared : prepareEach configured allowed roles used tools = .ok (others, roles', used')) :
    others = tools.map strippedTool := by
  induction tools generalizing roles used others with
  | nil =>
      cases prepared
      rfl
  | cons tool rest ih =>
      simp only [prepareEach, bind_eq_ok] at prepared
      obtain ⟨⟨first, middle, middleUsed⟩, head, ⟨stripped, last, lastUsed⟩, tail, same⟩ := prepared
      cases same
      rw [ih tail, List.map_cons]
      congr 1
      by_cases malformed : MalformedTool tool
      · obtain ⟨error, raised, _⟩ : ∃ error, prepareTool configured allowed roles used tool = .error error ∧
            ¬ DeniesOverride error := prepareTool_malformed malformed
        rw [raised] at head
        cases head
      · simp only [MalformedTool, not_forall, not_not] at malformed
        obtain ⟨name, role, annotated⟩ := malformed
        rw [prepareTool_annotated annotated] at head
        cases role with
        | none =>
            cases head
            rfl
        | some role =>
            cases applied : applyAnnotation configured allowed roles used name role with
            | error e => simp [applied, Except.map] at head
            | ok result =>
                simp only [Option.elim_some, applied, Except.map, Except.ok.injEq, Prod.mk.injEq] at head
                exact head.1.symm

/-- A tool whose annotations agree on a role carries one of them. -/
theorem AnnotatedTool.carries {role : ToolRole} (annotated : AnnotatedTool tool name (some role)) :
    CarriesAnnotation tool name := by
  obtain ⟨fields, function, top, inner, rfl, named, topRole, innerRole, _, agreed⟩ := annotated
  refine ⟨fields, function, rfl, named, ?_⟩
  by_contra none
  rw [not_or, Object.has, Object.has, Bool.not_eq_true, Bool.not_eq_true, Option.isSome_eq_false_iff,
    Option.isSome_eq_false_iff, Option.isNone_iff_eq_none, Option.isNone_iff_eq_none] at none
  rw [none.1] at topRole
  rw [none.2] at innerRole
  cases topRole
  cases innerRole
  cases agreed

/-- What one round does to the roles and to the flag. -/
theorem prepareTool_kept (disjoint : configured.Disjoint)
    (prepared : prepareTool configured false roles used tool = .ok (stripped, roles', used')) :
    stripped = strippedTool tool ∧ used' = used ∧
      ∀ name, (∃ role, configured.configuredRole name = .ok (some role)) ∨ ¬ CarriesAnnotation tool name →
        SameRole roles roles' name := by
  by_cases malformed : MalformedTool tool
  · obtain ⟨error, raised, _⟩ : ∃ error, prepareTool configured false roles used tool = .error error ∧
        ¬ DeniesOverride error := prepareTool_malformed malformed
    rw [raised] at prepared
    cases prepared
  · simp only [MalformedTool, not_forall, not_not] at malformed
    obtain ⟨name, role, annotated⟩ := malformed
    rw [prepareTool_annotated annotated] at prepared
    cases role with
    | none =>
        cases prepared
        exact ⟨rfl, rfl, fun _ _ => .refl roles⟩
    | some role =>
        simp only [Option.elim_some, applyAnnotation] at prepared
        obtain ⟨configuredRole, found⟩ := configuredRole_of_disjoint disjoint name
        rw [found] at prepared
        cases configuredRole with
        | none =>
            cases prepared
            refine ⟨rfl, rfl, fun other kept => .annotated roles role ?_⟩
            rintro rfl
            rcases kept with ⟨otherRole, other⟩ | free
            · rw [found] at other
              cases other
            · exact free annotated.carries
        | some protectedRole =>
            by_cases same : role = protectedRole
            · simp only [same, if_true] at prepared
              cases prepared
              exact ⟨rfl, rfl, fun _ _ => .refl roles⟩
            · simp only [same, if_false, Bool.false_eq_true] at prepared
              cases prepared

/-- Run lemma, by induction on the tools. -/
theorem prepareEach_kept (disjoint : configured.Disjoint)
    (prepared : prepareEach configured false roles used tools = .ok (others, roles', used')) :
    others = tools.map strippedTool ∧ used' = used ∧
      ∀ name, (∃ role, configured.configuredRole name = .ok (some role)) ∨
        (∀ tool ∈ tools, ¬ CarriesAnnotation tool name) → SameRole roles roles' name := by
  induction tools generalizing roles used others with
  | nil =>
      cases prepared
      exact ⟨rfl, rfl, fun _ _ => .refl _⟩
  | cons tool rest ih =>
      simp only [prepareEach, bind_eq_ok] at prepared
      obtain ⟨⟨first, middle, middleUsed⟩, head, ⟨stripped, last, lastUsed⟩, tail, same⟩ := prepared
      cases same
      obtain ⟨rfl, rfl, keptHead⟩ := prepareTool_kept disjoint head
      obtain ⟨rfl, rfl, keptTail⟩ := ih tail
      refine ⟨rfl, rfl, fun name kept => ?_⟩
      have first := keptHead name (kept.imp_right fun free => free tool (by simp))
      exact first.trans (keptTail name (kept.imp_right fun free other member => free other (by simp [member])))

/-- One round of the loop denies exactly the changes of a configured role. -/
theorem prepareTool_denies_iff (disjoint : configured.Disjoint) :
    (∃ error, prepareTool configured false roles used tool = .error error ∧ DeniesOverride error) ↔
      ∃ name role protectedRole, AnnotatedTool tool name (some role) ∧
        configured.configuredRole name = .ok (some protectedRole) ∧ role ≠ protectedRole := by
  constructor
  · rintro ⟨error, raised, denies⟩
    by_cases malformed : MalformedTool tool
    · obtain ⟨other, otherRaised, allows⟩ : ∃ other, prepareTool configured false roles used tool = .error other ∧
          ¬ DeniesOverride other := prepareTool_malformed malformed
      cases raised.symm.trans otherRaised
      exact absurd denies allows
    · simp only [MalformedTool, not_forall, not_not] at malformed
      obtain ⟨name, role, annotated⟩ := malformed
      rw [prepareTool_annotated annotated] at raised
      cases role with
      | none => cases raised
      | some role =>
          obtain ⟨configuredRole, found⟩ := configuredRole_of_disjoint disjoint name
          simp only [Option.elim_some, applyAnnotation, found] at raised
          cases configuredRole with
          | none => cases raised
          | some protectedRole =>
              refine ⟨name, role, protectedRole, annotated, found, fun same => ?_⟩
              simp only [same, if_true] at raised
              cases raised
  · rintro ⟨name, role, protectedRole, annotated, found, different⟩
    have denied : applyAnnotation configured false roles used name role = .error (.policyAnnotationError 403
        "protected_role_override_denied" "A server-configured tool role cannot be changed by this principal.") := by
      simp [ applyAnnotation, found, different]
    exact ⟨_, by rw [prepareTool_annotated annotated, Option.elim_some, denied]; rfl, _, _, rfl⟩

/-- Without a denial and without a malformed tool a round returns. -/
theorem prepareTool_returns (disjoint : configured.Disjoint) (annotated : ¬ MalformedTool tool)
    (allowed : ¬ ∃ error, prepareTool configured false roles used tool = .error error ∧ DeniesOverride error) :
    ∃ result, prepareTool configured false roles used tool = .ok result := by
  simp only [MalformedTool, not_forall, not_not] at annotated
  obtain ⟨name, role, annotated⟩ := annotated
  rw [prepareTool_annotated annotated] at allowed ⊢
  cases role with
  | none => exact ⟨_, rfl⟩
  | some role =>
      obtain ⟨configuredRole, found⟩ := configuredRole_of_disjoint disjoint name
      simp only [Option.elim_some, applyAnnotation, found] at allowed ⊢
      cases configuredRole with
      | none => exact ⟨_, rfl⟩
      | some protectedRole =>
          by_cases same : role = protectedRole
          · simp only [same, if_true]
            exact ⟨_, rfl⟩
          · exact absurd ⟨_, by simp only [same, if_false, Bool.false_eq_true]; rfl, _, _, rfl⟩ allowed

/-- The loop denies at the first change of a configured role, by induction on
the tools. -/
theorem prepareEach_denies_iff (disjoint : configured.Disjoint) :
    (∃ error, prepareEach configured false roles used tools = .error error ∧ DeniesOverride error) ↔
      OverridesBefore MalformedTool configured tools := by
  induction tools generalizing roles used with
  | nil =>
      constructor
      · rintro ⟨error, raised, _⟩
        cases raised
      · rintro ⟨before, tool, after, split, _⟩
        cases before <;> cases split
  | cons tool rest ih =>
      by_cases denied : ∃ error, prepareTool configured false roles used tool = .error error ∧ DeniesOverride error
      · refine iff_of_true ?_ ⟨[], tool, rest, rfl, by simp, (prepareTool_denies_iff disjoint).mp denied⟩
        obtain ⟨error, raised, denies⟩ := denied
        exact ⟨error, by simp [prepareEach, raised, bind, Except.bind], denies⟩
      · by_cases malformed : MalformedTool tool
        · obtain ⟨error, raised, allows⟩ : ∃ error, prepareTool configured false roles used tool = .error error ∧
              ¬ DeniesOverride error := prepareTool_malformed malformed
          refine iff_of_false ?_ ?_
          · rintro ⟨other, otherRaised, denies⟩
            simp only [prepareEach, raised, bind, Except.bind, Except.error.injEq] at otherRaised
            exact allows (otherRaised ▸ denies)
          · rintro ⟨before, changed, after, split, wellFormed, name, role, protectedRole, annotated, _⟩
            cases before with
            | nil =>
                cases split
                exact malformed name _ annotated
            | cons first before =>
                cases split
                exact wellFormed tool (by simp) malformed
        · obtain ⟨⟨stripped, middle, middleUsed⟩, returned⟩ := prepareTool_returns disjoint malformed denied
          have step : (∃ error, prepareEach configured false roles used (tool :: rest) = .error error ∧
              DeniesOverride error) ↔
              ∃ error, prepareEach configured false middle middleUsed rest = .error error ∧ DeniesOverride error := by
            refine exists_congr fun error => and_congr_left fun _ => ?_
            simp only [prepareEach, returned, bind, Except.bind]
            cases prepareEach configured false middle middleUsed rest <;> simp [pure, Except.pure]
          rw [step, ih]
          constructor
          · rintro ⟨before, changed, after, rfl, wellFormed, override⟩
            refine ⟨tool :: before, changed, after, rfl, fun earlier member => ?_, override⟩
            rcases List.mem_cons.mp member with rfl | member
            · exact malformed
            · exact wellFormed earlier member
          · rintro ⟨before, changed, after, split, wellFormed, override⟩
            cases before with
            | nil =>
                cases split
                exact absurd ((prepareTool_denies_iff disjoint).mpr override) denied
            | cons first before =>
                cases split
                exact ⟨before, changed, after, rfl, fun earlier member => wellFormed earlier (by simp [member]),
                  override⟩

end

def annotatedTool (name : Text) (role : Value) : Value :=
  .obj [("type", .str "function"), (roleKey, role), ("function", .obj [("name", .str name)])]

theorem defaultRoles_disjoint : ToolRoles.Disjoint {} := ⟨by decide, by decide, by decide⟩

/-- An annotation of the tool has an invalid value, or its two annotations
conflict. -/
def MalformedAnnotation (tool : Value) : Prop :=
  ∃ fields, tool = .obj fields ∧ ((∃ error, annotationRole (Object.get? fields roleKey) = .error error) ∨
    ∃ function, Object.get? fields "function" = some (.obj function) ∧
      ((∃ error, annotationRole (Object.get? function roleKey) = .error error) ∨
        ∃ first second, annotationRole (Object.get? fields roleKey) = .ok (some first) ∧
          annotationRole (Object.get? function roleKey) = .ok (some second) ∧ first ≠ second))

end HarnessProxy.Transcript

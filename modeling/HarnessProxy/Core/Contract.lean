import HarnessProxy.Core.Harness
import HarnessProxy.Json.Numeral

namespace HarnessProxy.Core

open HarnessProxy.Json

/-! # Answers that conform to a contract

`bare_json_issue` accepts exactly the texts that parse to an object with the
declared keys and types.
-/

structure Conforms (keys : List Text) (types : List (Text × Text)) (value : Object) : Prop where
  keys : ∀ key, key ∈ value.keys ↔ key ∈ keys
  types : ∀ entry ∈ types, ∃ item, value.get? entry.1 = some item ∧
    matchesJsonType item entry.2 = .ok true

theorem sameKeys_iff {value : Object} {keys : List Text} :
    sameKeys value keys = true ↔ ∀ key, key ∈ value.keys ↔ key ∈ keys := by
  simp only [sameKeys, Bool.and_eq_true, List.all_eq_true, List.contains_iff_mem]
  constructor
  · exact fun both key => ⟨both.1 key, both.2 key⟩
  · exact fun same => ⟨fun key => (same key).mp, fun key => (same key).mpr⟩

/-- Every declared key is present, so no declared type goes unchecked. -/
theorem typeIssue_eq_none {value : Object} {types : List (Text × Text)}
    (present : ∀ entry ∈ types, entry.1 ∈ value.keys) : typeIssue value types = .ok none ↔
      ∀ entry ∈ types, ∃ item, value.get? entry.1 = some item ∧ matchesJsonType item entry.2 = .ok true := by
  induction types with
  | nil => simp [typeIssue]
  | cons entry rest ih =>
      obtain ⟨key, typeName⟩ := entry
      have tail := ih fun entry member => present entry (by simp [member])
      have has := value.has_iff_mem_keys key |>.mpr (present (key, typeName) (by simp))
      obtain ⟨item, found⟩ := Option.isSome_iff_exists.mp has
      simp only [typeIssue, found, List.forall_mem_cons, Option.some.injEq, exists_eq_left']
      cases matched : matchesJsonType item typeName with
      | error e => simp
      | ok conforms => cases conforms <;> simp [tail]

variable {py : Python} {keys : List Text} {types : List (Text × Text)}

theorem conforms_iff {value : Object} (aligned : types.map Prod.fst = keys) :
    Conforms keys types value ↔ sameKeys value keys = true ∧ typeIssue value types = .ok none := by
  have present (same : sameKeys value keys = true) : ∀ entry ∈ types, entry.1 ∈ value.keys := by
    intro entry member
    refine (sameKeys_iff.mp same _).mpr ?_
    rw [← aligned]
    exact List.mem_map_of_mem member
  constructor
  · intro conforms
    have same := sameKeys_iff.mpr conforms.keys
    exact ⟨same, (typeIssue_eq_none (present same)).mpr conforms.types⟩
  · rintro ⟨same, noIssue⟩
    exact ⟨sameKeys_iff.mp same, (typeIssue_eq_none (present same)).mp noIssue⟩

theorem bareJsonIssue_eq_none {content : Text} (aligned : types.map Prod.fst = keys) :
    bareJsonIssue py content (some keys) types = .ok none ↔
      ∃ value, loads py (Text.strip content) = .ok (.obj value) ∧ Conforms keys types value := by
  simp only [conforms_iff aligned, bareJsonIssue]
  split
  · next empty =>
    have unparsed : loads py (Text.strip content) = .error .jsonDecodeError := by
      rw [empty]
      rfl
    simp [unparsed]
  · split
    · next parsed => simp [parsed]
    · next parsed => simp [parsed]
    · next value parsed =>
      simp only [parsed, Except.ok.injEq, Value.obj.injEq, exists_eq_left']
      cases sameKeys value keys <;> simp
    · next other notObject parsed =>
      simp only [parsed, Except.ok.injEq]
      constructor
      · rintro ⟨⟩
      · rintro ⟨value, rfl, _⟩
        exact absurd rfl (notObject value)

/-! ## The terminal gate -/

section
variable {harness : AgentHarness} {content : Text}

/-- An answer that the terminal gate accepts parses to a conforming object. -/
theorem terminalIssue_conforms (declared : harness.requiredJsonKeys = some keys)
    (aligned : harness.requiredJsonTypes.map Prod.fst = keys)
    (accepted : harness.terminalIssue py content = .ok none) :
    ∃ tree value, parseDocument (Text.strip content) = .ok tree ∧ tree.value py = .obj value ∧
      Conforms keys harness.requiredJsonTypes value ∧ harness.claimIssue (some (.obj value)) = none := by
  simp only [AgentHarness.terminalIssue, declared, bind, Except.bind, pure, Except.pure] at accepted
  split at accepted
  · cases accepted
  · split at accepted
    · next failed =>
      cases noClaim : harness.claimIssue none with
      | some issue =>
          rw [noClaim] at accepted
          cases accepted
      | none =>
          rw [noClaim] at accepted
          obtain ⟨_, loaded, _⟩ := (bareJsonIssue_eq_none aligned).mp accepted
          rw [failed] at loaded
          cases loaded
    · cases accepted
    · next structured parsed =>
      cases noClaim : harness.claimIssue (some structured) with
      | some issue =>
          rw [noClaim] at accepted
          cases accepted
      | none =>
          rw [noClaim] at accepted
          obtain ⟨value, loaded, conforms⟩ := (bareJsonIssue_eq_none aligned).mp accepted
          rw [parsed] at loaded
          cases loaded
          cases tree : parseDocument (Text.strip content) with
          | error e =>
              rw [loads, tree] at parsed
              cases parsed
          | ok read =>
              rw [loads, tree] at parsed
              simp only [Except.map, Except.ok.injEq] at parsed
              exact ⟨read, value, rfl, parsed, conforms, noClaim⟩

theorem claimIssue_eq_none {value : Object} {claimed : Value} (enforced : harness.enforceFailedExecutionClaim = true)
    (found : value.get? "failed_executions" = some claimed)
    (accepted : harness.claimIssue (some (.obj value)) = none) : claimed = .int harness.failedExecutions := by
  simp only [AgentHarness.claimIssue, found, enforced] at accepted
  split at accepted
  · next correct => simpa using correct
  · cases accepted

end

/-! ## Fenced answers -/

/-- A text without a fenced object is left as it is. -/
theorem normalizeBareJson_unchanged {content text : Text}
    (normalized : normalizeBareJson py content = .ok (text, false)) : text = content := by
  unfold normalizeBareJson at normalized
  split at normalized
  · cases normalized
    rfl
  · split at normalized <;> cases normalized
    · rfl
    · rfl

/-- A fenced object and the text around it are not blank. -/
theorem normalizeBareJson_changed {content text : Text}
    (normalized : normalizeBareJson py content = .ok (text, true)) :
    Text.isBlank content = false ∧ Text.isBlank text = false := by
  unfold normalizeBareJson at normalized
  split at normalized
  · cases normalized
  · next candidate fenced =>
    split at normalized
    · cases normalized
    · cases normalized
    · next fields parsed =>
      cases normalized
      constructor
      · refine decide_eq_false fun empty => ?_
        rw [empty] at fenced
        cases fenced
      · refine decide_eq_false fun empty => ?_
        simp only [fencedCandidate, Option.bind_eq_bind, Option.bind_eq_some_iff, pure, Option.some.injEq] at fenced
        obtain ⟨_, _, inner, _, rfl⟩ := fenced
        rw [Text.strip_strip] at empty
        rw [empty] at parsed
        cases parsed
    · cases normalized

/-- What a value other than a string is written as starts with neither
whitespace nor a code fence. -/
theorem dumps_head (sortKeys : Bool) {value : Value} (notString : value.asString? = none) :
    ∃ c rest, dumps sortKeys value = c :: rest ∧ Text.isSpace c = false ∧ c.val ≠ 0x60 := by
  have numeral {c : CodePoint} (digit : isDigit c = true) : Text.isSpace c = false ∧ c.val ≠ 0x60 := by
    refine ⟨isSpace_of_isDigit digit, ?_⟩
    simp only [isDigit, Bool.and_eq_true, decide_eq_true_eq] at digit
    omega
  cases value with
  | null => exact ⟨_, _, by rw [dumps]; rfl, by decide, by decide⟩
  | bool b => cases b <;> exact ⟨_, _, by rw [dumps]; rfl, by decide, by decide⟩
  | int i =>
      rw [dumps, Text.ofInt]
      split
      · exact ⟨_, _, rfl, by decide, by decide⟩
      · obtain ⟨c, rest, shape, _⟩ := ofNat_head i.natAbs
        exact ⟨c, rest, shape, numeral (ofNat_isDigit (n := i.natAbs) (by rw [shape]; simp))⟩
  | float f =>
      cases f with
      | finite shortest =>
          obtain ⟨text, all, exponent⟩ := shortest
          cases text with
          | nil => cases exponent
          | cons c rest =>
              have plain := List.all_eq_true.mp all c (List.mem_cons_self ..)
              simp only [isFloatChar, Bool.or_eq_true, decide_eq_true_eq] at plain
              refine ⟨c, rest, by rw [dumps, dumpsFloat], ?_⟩
              rcases plain with (((digit | rfl) | rfl) | rfl) | rfl
              · exact numeral digit
              all_goals exact ⟨by decide, by decide⟩
      | infinity => exact ⟨_, _, by rw [dumps]; rfl, by decide, by decide⟩
      | negInfinity => exact ⟨_, _, by rw [dumps]; rfl, by decide, by decide⟩
      | nan => exact ⟨_, _, by rw [dumps]; rfl, by decide, by decide⟩
  | str text => cases notString
  | arr items => exact ⟨codePoint '[', _, by rw [dumps], by decide, by decide⟩
  | obj fields => exact ⟨codePoint '{', _, by rw [dumps], by decide, by decide⟩

/-- Only a string can be fenced. -/
theorem normalizeBareJson_dumps {sortKeys : Bool} {value : Value} (notString : value.asString? = none) :
    normalizeBareJson py (dumps sortKeys value) = .ok (dumps sortKeys value, false) := by
  obtain ⟨c, rest, shape, notSpace, notFence⟩ := dumps_head sortKeys notString
  have stripped : ∃ tail, Text.strip (dumps sortKeys value) = c :: tail := shape ▸ Text.strip_cons notSpace
  obtain ⟨tail, stripped⟩ := stripped
  have unfenced : fencedCandidate (Text.strip (dumps sortKeys value)) = none := by
    have fence : Text.literal "```" = [0x60, 0x60, 0x60] := by decide
    have differs : ¬ c = 0x60 := fun same => notFence (by rw [same]; rfl)
    simp [fencedCandidate, stripped, fence, Text.dropPrefix?, differs]
  simp [normalizeBareJson, unfenced]

end HarnessProxy.Core

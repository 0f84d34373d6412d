import HarnessProxy.Evidence.ModelBoundary
import HarnessProxy.Json.Printed

namespace HarnessProxy.Evidence

open HarnessProxy.Json
open HarnessProxy.Timing (isSha256 isHexDigit)
open HarnessProxy.Service (harnessSystemSuffix isInfix)

/-! # The fingerprint of a request

What the observer computes from a request, and the requests for which it can.
-/

section
variable {py : Python}

/-! ## Digests and members -/

theorem sha256Of_eq_ok {value : Value} {digest : Text} : sha256Of py value = .ok digest ↔
    value.printable = true ∧ value.Scalar ∧ py.sha256 (dumpsUnicode true value) = digest := by
  rw [← encodable_dumpsUnicode]
  cases printable : value.printable with
  | false => simp [sha256Of, dumpText, printable, bind, Except.bind]
  | true =>
      cases encodable : Text.encodable (dumpsUnicode true value) with
      | false => simp [sha256Of, dumpText, printable, encodable, raiseIf, bind, Except.bind]
      | true => simp [sha256Of, dumpText, printable, encodable, raiseIf, bind, Except.bind, pure, Except.pure]

theorem sha256Of_same {value other : Value} (same : Same value other) (valid : value.Valid)
    (printable : value.printable = true) (otherPrintable : other.printable = true) :
    sha256Of py other = sha256Of py value := by
  rw [sha256Of, sha256Of, dumpText, dumpText, if_pos printable, if_pos otherPrintable, same.dumpsUnicode_eq valid]

theorem item_canonical {fields : Object} (nodup : fields.keys.Nodup) (key : Text) :
    item fields.canonical key = (item fields key).canonical := by
  rw [item, item, Value.get?_canonical nodup]
  cases fields.get? key <;> rfl

theorem clean_item {fields : Object} (clean : fields.Clean py) (key : Text) : (item fields key).Clean py := by
  unfold item
  cases found : fields.get? key with
  | none => trivial
  | some value => exact clean.get? found

theorem printable_item {fields : Object} (printable : (Value.obj fields).printable = true) (key : Text) :
    (item fields key).printable = true := by
  unfold item
  cases found : fields.get? key with
  | none => rfl
  | some value => exact printableFields_iff.mp printable _ (fields.mem_of_get? key found)

theorem liftBoundary_eq_ok {α : Type} {result : Except PyError α} {value : α} :
    liftBoundary result = .ok value ↔ result = .ok value := by
  cases result <;> simp [liftBoundary]

theorem plain_of_hex {text : Text} (hex : isSha256 (some (.str text)) = true) : plain text = true := by
  simp only [isSha256, Bool.and_eq_true, List.all_eq_true] at hex
  refine plain_iff.mpr fun c member => ?_
  have digit := hex.2 c member
  simp only [isHexDigit, Bool.or_eq_true, Bool.and_eq_true, decide_eq_true_eq] at digit
  omega

/-! ## What is recorded of a request -/

/-- The parts of a fingerprint that are computed. -/
structure Parts where
  system : Text
  base : Text
  model : Text
  tools : Text
  choice : Value
  terminal : Text
  effort : Value
  phase : Phase
  deltas : Object
  cachePrefix : Text

namespace Parts

def declared (parts : Parts) (payload : Object) : Object :=
  declare [
    ("system_prompt_sha256", .str parts.system),
    ("base_system_prompt_sha256", .str parts.base),
    ("model_id_sha256", .str parts.model),
    ("tool_schema_sha256", .str parts.tools),
    ("tool_choice_policy", parts.choice),
    ("terminal_schema_sha256", .str parts.terminal),
    ("sampler", .obj (sampler payload)),
    ("reasoning", .obj [
      ("thinking_enabled", thinkingEnabled (item payload "thinking")),
      ("effort", parts.effort)]),
    ("token_budget", item payload "max_tokens"),
    ("cache_mode_policy", cacheModePolicy payload)] parts.phase parts.deltas

def prefixObject (parts : Parts) (payload : Object) : Object :=
  ("digest", .str parts.cachePrefix) :: prefixIdentity (parts.declared payload)

def fields (parts : Parts) (payload : Object) : Object :=
  List.append (parts.declared payload) [("cache_prefix", .obj (parts.prefixObject payload))]

/-- The parts are what the code computes. -/
structure Computed (py : Python) (parts : Parts) (payload : Object) (prompt : Value) : Prop where
  prompted : requestSystemPrompt payload = .ok prompt
  system : sha256Of py prompt = .ok parts.system
  base : sha256Of py (normalizedBaseSystemPrompt prompt) = .ok parts.base
  model : sha256Of py (item payload "model") = .ok parts.model
  tools : sha256Of py (item payload "tools") = .ok parts.tools
  choice : safePolicy py (item payload "tool_choice") = .ok parts.choice
  terminal : sha256Of py (item payload "response_format") = .ok parts.terminal
  effort : safePolicy py (item payload "reasoning_effort") = .ok parts.effort
  phase : observedModelBoundaryPhase payload = .ok parts.phase
  deltas : observedHarnessPolicyDelta py payload = .ok parts.deltas
  cachePrefix : sha256Of py (.obj (prefixIdentity (parts.declared payload))) = .ok parts.cachePrefix

end Parts

theorem fingerprintFields_eq_ok {payload fields : Object} : fingerprintFields py payload = .ok fields ↔
    ∃ parts prompt, Parts.Computed py parts payload prompt ∧ fields = parts.fields payload := by
  simp only [fingerprintFields, modelBoundaryFields, cachePrefixIdentity, bind_eq_ok, liftBoundary_eq_ok, pure, Except.pure,
    Except.ok.injEq]
  constructor
  · rintro ⟨_, ⟨prompt, prompted, system, systemAt, base, baseAt, model, modelAt, tools, toolsAt, choice, choiceAt, terminal,
      terminalAt, effort, effortAt, rfl⟩, phase, phaseAt, deltas, deltasAt, _, ⟨cachePrefix, prefixAt, rfl⟩, rfl⟩
    exact ⟨⟨system, base, model, tools, choice, terminal, effort, phase, deltas, cachePrefix⟩, prompt,
      ⟨prompted, systemAt, baseAt, modelAt, toolsAt, choiceAt, terminalAt, effortAt, phaseAt, deltasAt, prefixAt⟩, rfl⟩
  · rintro ⟨parts, prompt, computed, rfl⟩
    exact ⟨_, ⟨prompt, computed.prompted, _, computed.system, _, computed.base, _, computed.model, _, computed.tools, _,
      computed.choice, _, computed.terminal, _, computed.effort, rfl⟩, _, computed.phase, _, computed.deltas, _,
      ⟨_, computed.cachePrefix, rfl⟩, rfl⟩

/-- Every digest is one of SHA-256. -/
structure Parts.Hexadecimal (parts : Parts) : Prop where
  system : isSha256 (some (.str parts.system)) = true
  base : isSha256 (some (.str parts.base)) = true
  model : isSha256 (some (.str parts.model)) = true
  tools : isSha256 (some (.str parts.tools)) = true
  terminal : isSha256 (some (.str parts.terminal)) = true
  cachePrefix : isSha256 (some (.str parts.cachePrefix)) = true

section
variable {P : Value → Prop} (structural : Structural P)
include structural

theorem structural_hash {text : Text} (hex : isSha256 (some (.str text)) = true) : P (.str text) :=
  structural.str text (plain_of_hex hex)

theorem structural_sampler {payload : Object} (temperature : P (item payload "temperature")) (topP : P (item payload "top_p"))
    (topK : P (item payload "top_k")) : P (.obj (sampler payload)) := by
  refine structural.fields ["temperature", "top_p", "top_k"] rfl (by decide) ?_
  simp only [sampler, List.forall_mem_cons]
  exact ⟨temperature, topP, topK, List.forall_mem_nil _⟩

omit structural in
theorem thinkingEnabled_cases (thinking : Value) :
    thinkingEnabled thinking = .null ∨ ∃ enabled, thinkingEnabled thinking = .bool enabled := by
  unfold thinkingEnabled
  split
  · split
    · exact .inr ⟨_, rfl⟩
    · exact .inl rfl
  · exact .inl rfl

theorem structural_reasoning (payload : Object) {effort : Value} (kept : P effort) :
    P (.obj [("thinking_enabled", thinkingEnabled (item payload "thinking")), ("effort", effort)]) := by
  have enabled : P (thinkingEnabled (item payload "thinking")) := by
    rcases thinkingEnabled_cases (item payload "thinking") with same | ⟨enabled, same⟩
    · exact same ▸ structural.null
    · exact same ▸ structural.bool enabled
  refine structural.fields ["thinking_enabled", "effort"] rfl (by decide) ?_
  simp only [List.forall_mem_cons]
  exact ⟨enabled, kept, List.forall_mem_nil _⟩

theorem structural_cacheMode (payload : Object) : P (cacheModePolicy payload) := by
  unfold cacheModePolicy
  split
  · split
    · exact structural.str _ (by decide)
    · exact structural.null
  · exact structural.null

theorem structural_phase (phase : Phase) : P (.str phase.name) := by
  refine structural.str _ ?_
  cases phase <;> decide

theorem structural_compatibility (phase : Phase) : P (.obj (compatibility phase)) := by
  refine structural.fields ["mode", "version", "phase"] rfl (by decide) ?_
  simp only [compatibility, List.forall_mem_cons]
  exact ⟨structural.str _ (by decide), structural.str _ (by decide), structural_phase structural phase, List.forall_mem_nil _⟩

end

def prefixKeys : List Text :=
  ["version", "template_sha256", "system_prompt_sha256", "model_id_sha256", "tool_schema_sha256", "tool_choice_policy",
    "terminal_schema_sha256", "sampler", "reasoning", "token_budget", "phase", "cache_mode_policy"]

/-- The property holds of what a request puts into its fingerprint. -/
structure Kept (P : Value → Prop) (payload : Object) (parts : Parts) : Prop where
  temperature : P (item payload "temperature")
  topP : P (item payload "top_p")
  topK : P (item payload "top_k")
  budget : P (item payload "max_tokens")
  choice : P parts.choice
  effort : P parts.effort
  deltas : P (.obj parts.deltas)

section
variable {P : Value → Prop} (structural : Structural P) {payload : Object} {parts : Parts} (kept : Kept P payload parts)
include structural kept

omit structural kept in
theorem prefixIdentity_declared : prefixIdentity (parts.declared payload) = ([
    ("version", .str "compatible-prefix-v1"),
    ("template_sha256", .str parts.base),
    ("system_prompt_sha256", .str parts.system),
    ("model_id_sha256", .str parts.model),
    ("tool_schema_sha256", .str parts.tools),
    ("tool_choice_policy", parts.choice),
    ("terminal_schema_sha256", .str parts.terminal),
    ("sampler", .obj (sampler payload)),
    ("reasoning", .obj [("thinking_enabled", thinkingEnabled (item payload "thinking")), ("effort", parts.effort)]),
    ("token_budget", item payload "max_tokens"),
    ("phase", .str parts.phase.name),
    ("cache_mode_policy", cacheModePolicy payload)] : Object) := rfl

theorem prefix_members (hex : parts.Hexadecimal) : ∀ field ∈ prefixIdentity (parts.declared payload), P field.2 := by
  rw [prefixIdentity_declared]
  simp only [List.forall_mem_cons]
  exact ⟨structural.str _ (by decide), structural_hash structural hex.base, structural_hash structural hex.system,
    structural_hash structural hex.model, structural_hash structural hex.tools, kept.choice,
    structural_hash structural hex.terminal, structural_sampler structural kept.temperature kept.topP kept.topK,
    structural_reasoning structural payload kept.effort, kept.budget, structural_phase structural parts.phase,
    structural_cacheMode structural payload, List.forall_mem_nil _⟩

theorem structural_prefix (hex : parts.Hexadecimal) : P (.obj (prefixIdentity (parts.declared payload))) :=
  structural.fields prefixKeys rfl (by decide) (prefix_members structural kept hex)

theorem structural_prefixObject (hex : parts.Hexadecimal) : P (.obj (parts.prefixObject payload)) :=
  structural.fields ("digest" :: prefixKeys) rfl (by decide)
    (List.forall_mem_cons.mpr ⟨structural_hash structural hex.cachePrefix, prefix_members structural kept hex⟩)

theorem structural_fields (hex : parts.Hexadecimal) : P (.obj (parts.fields payload)) := by
  refine structural.fields modelBoundaryFieldKeys rfl (by decide) ?_
  change ∀ field ∈ (_ :: _ :: _ :: _ :: _ :: _ :: _ :: _ :: _ :: _ :: _ :: _ :: _ :: [] : Object), P field.2
  simp only [List.forall_mem_cons]
  exact ⟨structural_hash structural hex.system, structural_hash structural hex.base, structural_hash structural hex.model,
    structural_hash structural hex.tools, kept.choice, structural_hash structural hex.terminal,
    structural_sampler structural kept.temperature kept.topP kept.topK, structural_reasoning structural payload kept.effort,
    kept.budget, structural_cacheMode structural payload, structural_compatibility structural parts.phase, kept.deltas,
    structural_prefixObject structural kept hex, List.forall_mem_nil _⟩

end

/-! ## When a request can be recorded -/

/-- `payload.get("messages", [])` can be iterated over. -/
def messagesIterable (payload : Object) : Bool :=
  match payload.get? "messages" with
  | none | some (.arr _) | some (.obj _) | some (.str _) => true
  | some _ => false

/-- The system prompt of a request whose messages can be iterated over. -/
def promptOf (payload : Object) : Value :=
  match payload.get? "messages" with
  | some (.arr messages) => systemContent messages
  | _ => .null

theorem requestSystemPrompt_eq_ok {payload : Object} {prompt : Value} :
    requestSystemPrompt payload = .ok prompt ↔ messagesIterable payload = true ∧ promptOf payload = prompt := by
  unfold requestSystemPrompt messagesIterable promptOf
  cases payload.get? "messages" with
  | none => simp
  | some messages => cases messages <;> simp

theorem scalar_take {text : Text} (scalar : (Value.str text).Scalar) (count : Nat) : (Value.str (text.take count)).Scalar :=
  fun c found => scalar c (List.mem_of_mem_take found)

theorem scalar_base {prompt : Value} (scalar : prompt.Scalar) : (normalizedBaseSystemPrompt prompt).Scalar := by
  unfold normalizedBaseSystemPrompt
  split
  · split
    · exact scalar_take scalar _
    · exact scalar
  · exact scalar

theorem printable_base {prompt : Value} (printable : prompt.printable = true) :
    (normalizedBaseSystemPrompt prompt).printable = true := by
  unfold normalizedBaseSystemPrompt
  split
  · split
    · rfl
    · rfl
  · exact printable

/-- A policy value is hashed if it is a string, and has to be encoded then. -/
def PolicyScalar (value : Value) : Prop := ∀ text, value = .str text → value.Scalar

theorem plain_literal {text : Text} (literal : text ∈ safePolicyLiterals) : plain text = true := by
  have all : ∀ text ∈ safePolicyLiterals, plain text = true := by decide
  exact all text literal

theorem safePolicy_exists {value : Value} : (∃ choice, safePolicy py value = .ok choice) ↔ PolicyScalar value := by
  cases value with
  | str text =>
      by_cases literal : text ∈ safePolicyLiterals
      · have scalar := scalar_of_ascii (ascii_str.mpr (plain_literal literal))
        exact iff_of_true ⟨.str text, by rw [safePolicy, if_pos literal]; rfl⟩ fun _ _ => scalar
      · have hashed : safePolicy py (.str text) = (do return .obj [("sha256", .str (← sha256Of py (.str text)))]) := by
          rw [safePolicy, if_neg literal]
        rw [hashed]
        simp only [bind_eq_ok, sha256Of_eq_ok, pure, Except.pure]
        exact ⟨fun ⟨_, _, ⟨_, scalar, _⟩, _⟩ _ _ => scalar, fun scalar => ⟨_, _, ⟨rfl, scalar text rfl, rfl⟩, rfl⟩⟩
  | null | bool | int | float | arr | obj => exact iff_of_true ⟨_, rfl⟩ fun _ same => by cases same

theorem plain_suffix : plain harnessSystemSuffix = true := by
  unfold harnessSystemSuffix
  repeat rw [Text.literal_ofList]
  decide +kernel

theorem expectedDelta_exists :
    ∃ digest, expectedHarnessPolicyDelta py = .ok [("harness_system_suffix_sha256", .str digest)] := by
  simp only [expectedHarnessPolicyDelta, bind_eq_ok, sha256Of_eq_ok]
  exact ⟨_, _, ⟨rfl, scalar_of_ascii (ascii_str.mpr plain_suffix), rfl⟩, rfl⟩

theorem observedDelta_exists {payload : Object} {prompt : Value} (prompted : requestSystemPrompt payload = .ok prompt) :
    ∃ deltas, observedHarnessPolicyDelta py payload = .ok deltas := by
  obtain ⟨digest, computed⟩ := @expectedDelta_exists py
  simp only [observedHarnessPolicyDelta, bind_eq_ok, prompted, Except.ok.injEq, exists_eq_left']
  split
  · exact ⟨_, computed⟩
  · split
    · split <;> exact ⟨_, rfl⟩
    · exact ⟨_, rfl⟩

/-- Both features of the phases are asked for at once. -/
def Ambiguous (payload : Object) : Prop :=
  (item payload "tools").truthy = true ∧ (item payload "response_format").truthy = true

theorem observedPhase_exists {payload : Object} :
    (∃ phase, observedModelBoundaryPhase payload = .ok phase) ↔ ¬ Ambiguous payload := by
  unfold observedModelBoundaryPhase Ambiguous
  rw [← Bool.and_eq_true]
  split
  · rename_i both
    exact iff_of_false (fun ⟨_, same⟩ => by cases same) (not_not.mpr both)
  · rename_i notBoth
    refine iff_of_true ?_ notBoth
    split
    · exact ⟨_, rfl⟩
    · split <;> exact ⟨_, rfl⟩

/-- Everything of the request that is hashed can be encoded. -/
structure Recordable (payload : Object) : Prop where
  iterable : messagesIterable payload = true
  prompt : (promptOf payload).Scalar
  model : (item payload "model").Scalar
  tools : (item payload "tools").Scalar
  choice : PolicyScalar (item payload "tool_choice")
  terminal : (item payload "response_format").Scalar
  effort : PolicyScalar (item payload "reasoning_effort")
  temperature : (item payload "temperature").Scalar
  topP : (item payload "top_p").Scalar
  topK : (item payload "top_k").Scalar
  budget : (item payload "max_tokens").Scalar

end

/-- What `py.sha256` computes is a digest of SHA-256. -/
def HexDigests (py : Python) : Prop := ∀ text, isSha256 (some (.str (py.sha256 text))) = true

theorem hexDigests_reference : HexDigests .reference := by
  intro text
  have digits : ∀ c ∈ Sha256.hexdigest text, isHexDigit c = true := by
    intro c member
    obtain ⟨digit, small, rfl⟩ := Sha256.hexdigest_digits member
    have all : ∀ digit < 16, isHexDigit (Sha256.hexDigit digit) = true := by decide
    exact all digit small
  have length : (Sha256.hexdigest text).length = 64 := Sha256.hexdigest_length text
  change (decide ((Sha256.hexdigest text).length = 64) && (Sha256.hexdigest text).all isHexDigit) = true
  rw [length, List.all_eq_true.mpr digits]
  rfl

section
variable {py : Python} (hexDigests : HexDigests py)
include hexDigests

theorem sha256Of_hex {value : Value} {digest : Text} (computed : sha256Of py value = .ok digest) :
    isSha256 (some (.str digest)) = true := by
  obtain ⟨_, _, rfl⟩ := sha256Of_eq_ok.mp computed
  exact hexDigests _

theorem Parts.Computed.hexadecimal {parts : Parts} {payload : Object} {prompt : Value}
    (computed : Parts.Computed py parts payload prompt) : parts.Hexadecimal :=
  ⟨sha256Of_hex hexDigests computed.system, sha256Of_hex hexDigests computed.base, sha256Of_hex hexDigests computed.model,
    sha256Of_hex hexDigests computed.tools, sha256Of_hex hexDigests computed.terminal,
    sha256Of_hex hexDigests computed.cachePrefix⟩

/-- A policy value of a request is one that the reader accepts. -/
theorem safePolicy_safe {value choice : Value} (computed : safePolicy py value = .ok choice) (clean : value.Clean py)
    (printable : value.printable = true) : Printed py choice ∧ safePolicyValue choice = true := by
  cases value with
  | str text =>
      by_cases literal : text ∈ safePolicyLiterals
      · rw [safePolicy, if_pos literal] at computed
        cases computed
        exact ⟨printed_structural.str text (plain_literal literal), decide_eq_true literal⟩
      · rw [safePolicy, if_neg literal] at computed
        simp only [bind_eq_ok, pure, Except.pure, Except.ok.injEq] at computed
        obtain ⟨digest, hashed, rfl⟩ := computed
        have hex := sha256Of_hex hexDigests hashed
        refine ⟨printed_structural.fields ["sha256"] rfl (by decide) ?_, ?_⟩
        · simp only [List.forall_mem_cons]
          exact ⟨structural_hash printed_structural hex, List.forall_mem_nil _⟩
        · exact hex
  | null | bool | int | float =>
      cases computed
      exact ⟨⟨clean, printable, fun _ found => found.elim⟩, rfl⟩
  | arr | obj =>
      cases computed
      exact ⟨printed_structural.null, rfl⟩

/-- The declared differences are one of three objects. -/
theorem observedDelta_cases {payload deltas : Object} (observed : observedHarnessPolicyDelta py payload = .ok deltas) :
    Printed py (.obj deltas) ∧ (deltas = [] ∨ expectedHarnessPolicyDelta py = .ok deltas ∨ deltas = invalidPolicyDelta) := by
  have single {text : Text} (ascii : plain text = true) :
      Printed py (.obj [("harness_system_suffix_sha256", .str text)]) := by
    refine printed_structural.fields ["harness_system_suffix_sha256"] rfl (by decide) ?_
    simp only [List.forall_mem_cons]
    exact ⟨printed_structural.str text ascii, List.forall_mem_nil _⟩
  have empty : Printed py (.obj []) := printed_structural.fields [] rfl (by decide) (List.forall_mem_nil _)
  simp only [observedHarnessPolicyDelta, bind_eq_ok] at observed
  obtain ⟨prompt, _, observed⟩ := observed
  split at observed
  · refine ⟨?_, .inr (.inl observed)⟩
    simp only [expectedHarnessPolicyDelta, bind_eq_ok, pure, Except.pure, Except.ok.injEq] at observed
    obtain ⟨digest, hashed, rfl⟩ := observed
    exact single (plain_of_hex (sha256Of_hex hexDigests hashed))
  · split at observed
    · split at observed
      · cases observed
        exact ⟨single (by decide), .inr (.inr rfl)⟩
      · cases observed
        exact ⟨empty, .inl rfl⟩
    · cases observed
      exact ⟨empty, .inl rfl⟩

section
variable {payload : Object} (clean : payload.Clean py) (printable : (Value.obj payload).printable = true)
include clean printable

theorem Parts.Computed.kept {P : Value → Prop} (ofPrinted : ∀ value, Printed py value → P value) {parts : Parts} {prompt : Value}
    (computed : Parts.Computed py parts payload prompt) (temperature : P (item payload "temperature"))
    (topP : P (item payload "top_p")) (topK : P (item payload "top_k")) (budget : P (item payload "max_tokens")) :
    Kept P payload parts :=
  ⟨temperature, topP, topK, budget,
    ofPrinted _ (safePolicy_safe hexDigests computed.choice (clean_item clean _) (printable_item printable _)).1,
    ofPrinted _ (safePolicy_safe hexDigests computed.effort (clean_item clean _) (printable_item printable _)).1,
    ofPrinted _ (observedDelta_cases hexDigests computed.deltas).1⟩

omit hexDigests clean in
theorem printable_prompt : (promptOf payload).printable = true := by
  have content (messages : List Value) (all : ∀ message ∈ messages, message.printable = true) :
      (systemContent messages).printable = true := by
    induction messages with
    | nil => rfl
    | cons message rest ih =>
        obtain ⟨head, tail⟩ := List.forall_mem_cons.mp all
        cases message with
        | obj fields =>
            rw [systemContent]
            split
            · exact printable_item head _
            · exact ih tail
        | null | bool | int | float | str | arr => exact ih tail
  unfold promptOf
  split
  · rename_i messages found
    exact content messages (printableItems_iff.mp (printableFields_iff.mp printable _ (payload.mem_of_get? _ found)))
  · rfl

/-- A request is fingerprinted unless it is ambiguous or cannot be hashed. -/
theorem fingerprint_exists : (∃ fields, fingerprintFields py payload = .ok fields) ↔
    ¬ Ambiguous payload ∧ Recordable payload := by
  have print (key : Text) := printable_item printable key
  constructor
  · rintro ⟨fields, fingerprinted⟩
    obtain ⟨parts, prompt, computed, rfl⟩ := fingerprintFields_eq_ok.mp fingerprinted
    obtain ⟨iterable, rfl⟩ := requestSystemPrompt_eq_ok.mp computed.prompted
    have hashed := (sha256Of_eq_ok.mp computed.cachePrefix).2.1
    rw [prefixIdentity_declared] at hashed
    simp only [scalar_obj, List.forall_mem_cons] at hashed
    obtain ⟨_, _, _, _, _, _, _, ⟨_, sampled⟩, _, ⟨_, budget⟩, _⟩ := hashed
    simp only [sampler, List.forall_mem_cons] at sampled
    obtain ⟨⟨_, temperature⟩, ⟨_, topP⟩, ⟨_, topK⟩, _⟩ := sampled
    exact ⟨observedPhase_exists.mp ⟨_, computed.phase⟩, iterable, (sha256Of_eq_ok.mp computed.system).2.1,
      (sha256Of_eq_ok.mp computed.model).2.1, (sha256Of_eq_ok.mp computed.tools).2.1,
      safePolicy_exists.mp ⟨_, computed.choice⟩, (sha256Of_eq_ok.mp computed.terminal).2.1,
      safePolicy_exists.mp ⟨_, computed.effort⟩, temperature, topP, topK, budget⟩
  · rintro ⟨unambiguous, recordable⟩
    have prompted := requestSystemPrompt_eq_ok.mpr ⟨recordable.iterable, rfl⟩
    have digest {value : Value} (valuePrintable : value.printable = true) (scalar : value.Scalar) :
        sha256Of py value = .ok (py.sha256 (dumpsUnicode true value)) := sha256Of_eq_ok.mpr ⟨valuePrintable, scalar, rfl⟩
    obtain ⟨choice, chosen⟩ : ∃ choice, safePolicy py (item payload "tool_choice") = .ok choice :=
      safePolicy_exists.mpr recordable.choice
    obtain ⟨effort, tried⟩ : ∃ effort, safePolicy py (item payload "reasoning_effort") = .ok effort :=
      safePolicy_exists.mpr recordable.effort
    obtain ⟨phase, observed⟩ := observedPhase_exists.mpr unambiguous
    obtain ⟨deltas, declared⟩ := @observedDelta_exists py payload _ prompted
    let hash (value : Value) : Text := py.sha256 (dumpsUnicode true value)
    let draft : Parts := ⟨hash (promptOf payload), hash (normalizedBaseSystemPrompt (promptOf payload)),
      hash (item payload "model"), hash (item payload "tools"), choice, hash (item payload "response_format"), effort, phase,
      deltas, py.sha256 []⟩
    have hex : draft.Hexadecimal := ⟨hexDigests _, hexDigests _, hexDigests _, hexDigests _, hexDigests _, hexDigests _⟩
    have kept : Kept Value.Encodable payload draft :=
      ⟨⟨print _, recordable.temperature⟩, ⟨print _, recordable.topP⟩, ⟨print _, recordable.topK⟩, ⟨print _, recordable.budget⟩,
        (safePolicy_safe hexDigests chosen (clean_item clean _) (print _)).1.encodable,
        (safePolicy_safe hexDigests tried (clean_item clean _) (print _)).1.encodable,
        (observedDelta_cases hexDigests declared).1.encodable⟩
    obtain ⟨identityPrintable, identityScalar⟩ := structural_prefix encodable_structural kept hex
    have computed : Parts.Computed py { draft with cachePrefix := hash (.obj (prefixIdentity (draft.declared payload))) }
        payload (promptOf payload) :=
      ⟨prompted, digest (printable_prompt printable) recordable.prompt,
        digest (printable_base (printable_prompt printable)) (scalar_base recordable.prompt),
        digest (print _) recordable.model, digest (print _) recordable.tools, chosen, digest (print _) recordable.terminal, tried,
        observed, declared, digest identityPrintable identityScalar⟩
    exact ⟨_, fingerprintFields_eq_ok.mpr ⟨_, _, computed, rfl⟩⟩

end

end

end HarnessProxy.Evidence

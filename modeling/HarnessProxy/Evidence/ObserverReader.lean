import HarnessProxy.Evidence.Fingerprint

namespace HarnessProxy.Evidence

open HarnessProxy.Json
open HarnessProxy.Timing (isSha256)

/-! # What the reader of the observer's ledger accepts -/

/-! ## What is recorded of a response -/

theorem sameKeys_of_keys {fields : Object} {names : List Text} (keys : fields.keys = names) :
    Core.sameKeys fields names = true :=
  Core.sameKeys_iff.mpr fun key => by rw [keys]

theorem sameKeys_canonical (fields : Object) (names : List Text) :
    Core.sameKeys fields.canonical names = Core.sameKeys fields names := by
  have keys (key : Text) : key ∈ Object.keys fields.canonical ↔ key ∈ fields.keys :=
    (Object.canonical_keys_perm fields).mem_iff
  rw [Bool.eq_iff_iff, Core.sameKeys_iff, Core.sameKeys_iff]
  exact forall_congr' fun key => by rw [keys key]

theorem natural?_eq_some {value : Value} {count : Nat} : natural? value = some count ↔ value = .int count := by
  cases value with
  | int i =>
      by_cases nonneg : 0 ≤ i
      · simp only [natural?, if_pos nonneg, Option.some.injEq, Value.int.injEq]
        omega
      · simp only [natural?, if_neg nonneg, Value.int.injEq]
        exact iff_of_false (by simp) (by omega)
  | null | bool | float | str | arr | obj => simp [natural?]

/-- The statistics name their source by a list or an object, and are complete
enough for it to be looked up. -/
def sourceUnhashable (response : Value) : Bool :=
  match response with
  | .obj members => match item members "mtplx_stats" with
    | .obj stats => (postcommitStored stats).isSome && (natural? (item stats "prompt_tokens")).isSome &&
        (natural? (item stats "cached_tokens")).isSome && (natural? (item stats "new_prefill_tokens")).isSome &&
        (natural? (item stats "ssd_cached_tokens")).isSome && (item stats "cache_source" matches .arr _ | .obj _)
    | _ => false
  | _ => false

theorem cacheObservation_exists {stats : Object} (keys : Core.sameKeys stats cacheKeys = true) :
    (∃ cache, cacheObservation (.obj stats) = .ok cache) ↔
      ((natural? (item stats "prompt_tokens")).isSome && (natural? (item stats "cached_tokens")).isSome &&
        (natural? (item stats "new_prefill_tokens")).isSome && (natural? (item stats "ssd_cached_tokens")).isSome &&
        (item stats "cache_source" matches .arr _ | .obj _)) = false := by
  rw [cacheObservation, keys]
  cases natural? (item stats "prompt_tokens") with
  | none => exact iff_of_true ⟨_, rfl⟩ rfl
  | some prompt =>
      cases natural? (item stats "cached_tokens") with
      | none => exact iff_of_true ⟨_, rfl⟩ rfl
      | some cached =>
          cases natural? (item stats "new_prefill_tokens") with
          | none => exact iff_of_true ⟨_, rfl⟩ rfl
          | some prefill =>
              cases natural? (item stats "ssd_cached_tokens") with
              | none => exact iff_of_true ⟨_, rfl⟩ rfl
              | some ssd =>
                  cases item stats "cache_source" with
                  | arr | obj => exact iff_of_false (fun ⟨_, same⟩ => by cases same) (by simp)
                  | null | bool | int | float => exact iff_of_true ⟨none, rfl⟩ rfl
                  | str source =>
                      refine iff_of_true ?_ rfl
                      simp only [Bool.not_true, Bool.false_eq_true, if_false, Value.memberOf, bind, Except.bind]
                      split <;> exact ⟨_, rfl⟩

theorem cacheObservationFromResponse_exists {response : Value} :
    (∃ cache, cacheObservationFromResponse response = .ok cache) ↔ sourceUnhashable response = false := by
  unfold cacheObservationFromResponse sourceUnhashable
  cases response with
  | null | bool | int | float | str | arr => exact iff_of_true ⟨_, rfl⟩ rfl
  | obj members =>
      dsimp only
      cases item members "mtplx_stats" with
      | null | bool | int | float | str | arr => exact iff_of_true ⟨_, rfl⟩ rfl
      | obj stats =>
          dsimp only
          cases postcommitStored stats with
          | none => exact iff_of_true ⟨_, rfl⟩ rfl
          | some stored => exact @cacheObservation_exists (cacheStatistics stats stored) (sameKeys_of_keys rfl)

/-- What an accepted observation says about the statistics. -/
theorem cacheObservation_eq_some {value : Value} {cache : CacheObservation} :
    cacheObservation value = .ok (some cache) ↔ ∃ stats, value = .obj stats ∧ Core.sameKeys stats cacheKeys = true ∧
      item stats "prompt_tokens" = .int cache.promptTokens ∧ item stats "cached_tokens" = .int cache.cachedTokens ∧
      item stats "new_prefill_tokens" = .int cache.newPrefillTokens ∧ item stats "cache_source" = .str cache.cacheSource ∧
      item stats "ssd_cache_hit" = .bool cache.ssdCacheHit ∧ item stats "ssd_cached_tokens" = .int cache.ssdCachedTokens ∧
      item stats "session_cache_hit" = .bool cache.sessionCacheHit ∧
      item stats "request_session_bank_bypass" = .bool cache.requestSessionBankBypass ∧
      item stats "postcommit_stored" = .bool cache.postcommitStored ∧ cache.cacheSource ∈ cacheSources := by
  constructor
  · intro observed
    cases value with
    | null | bool | int | float | str | arr => cases observed
    | obj stats =>
        refine ⟨stats, rfl, ?_⟩
        cases keys : Core.sameKeys stats cacheKeys with
        | false =>
            rw [cacheObservation, keys] at observed
            cases observed
        | true =>
            rw [cacheObservation, keys] at observed
            simp only [Bool.not_true, Bool.false_eq_true, if_false] at observed
            split at observed
            · rename_i prompt cached prefill ssd promptAt cachedAt prefillAt ssdAt
              rw [natural?_eq_some] at promptAt cachedAt prefillAt ssdAt
              simp only [bind_eq_ok] at observed
              obtain ⟨known, looked, observed⟩ := observed
              split at observed
              · rename_i source hit session bypass stored sourceAt hitAt sessionAt bypassAt storedAt
                cases observed
                rw [sourceAt] at looked
                refine ⟨rfl, promptAt, cachedAt, prefillAt, sourceAt, hitAt, ssdAt, sessionAt, bypassAt, storedAt, ?_⟩
                exact List.contains_iff_mem.mp (Except.ok.inj looked)
              · cases observed
            · cases observed
  · rintro ⟨stats, rfl, keys, prompt, cached, prefill, source, hit, ssd, session, bypass, stored, known⟩
    have counted (count : Nat) : natural? (.int count) = some count := natural?_eq_some.mpr rfl
    have looked : (Value.str cache.cacheSource).memberOf cacheSources = .ok true :=
      congrArg Except.ok (List.contains_iff_mem.mpr known)
    rw [cacheObservation, keys, prompt, cached, prefill, ssd, source, hit, session, bypass, stored]
    simp only [counted, looked, Bool.not_true, Bool.false_eq_true, if_false, bind, Except.bind]
    rfl

theorem cache_nodup (cache : CacheObservation) : (Object.keys cache.toDict).Nodup := by
  have keys : Object.keys cache.toDict = cacheKeys := rfl
  rw [keys]
  decide

/-- An observation that is written is read back. -/
theorem cacheObservation_toDict {cache : CacheObservation} (known : cache.cacheSource ∈ cacheSources) :
    cacheObservation (.obj (Object.canonical cache.toDict)) = .ok (some cache) := by
  have read (key : Text) := item_canonical (cache_nodup cache) key
  refine cacheObservation_eq_some.mpr ⟨_, rfl, ?_, read _, read _, read _, read _, read _, read _, read _, read _, read _, known⟩
  rw [sameKeys_canonical]
  exact sameKeys_of_keys rfl

theorem observedCache {py : Python} {response : Value} {cache : CacheObservation} (printable : response.printable = true)
    (observed : cacheObservationFromResponse response = .ok (some cache)) :
    Printed py (.obj cache.toDict) ∧ cache.cacheSource ∈ cacheSources := by
  unfold cacheObservationFromResponse at observed
  cases response with
  | null | bool | int | float | str | arr => cases observed
  | obj members =>
      dsimp only at observed
      cases found : item members "mtplx_stats" with
      | null | bool | int | float | str | arr => rw [found] at observed; cases observed
      | obj stats =>
          have statsPrintable := printable_item printable "mtplx_stats"
          rw [found] at observed statsPrintable
          dsimp only at observed
          cases stored : postcommitStored stats with
          | none => rw [stored] at observed; cases observed
          | some value =>
              rw [stored] at observed
              obtain ⟨_, same, _, prompt, cached, prefill, _, _, ssd, _, _, _, known⟩ := cacheObservation_eq_some.mp observed
              cases same
              have count (key : Text) {tokens : Nat} (counted : item stats key = .int tokens) : Printed py (.int tokens) :=
                ⟨trivial, counted ▸ printable_item statsPrintable key, ascii_int _⟩
              have source : plain cache.cacheSource = true := by
                have all : ∀ text ∈ cacheSources, plain text = true := by decide
                exact all _ known
              refine ⟨printed_structural.fields cacheKeys rfl (by decide) ?_, known⟩
              simp only [CacheObservation.toDict, List.forall_mem_cons]
              exact ⟨count "prompt_tokens" prompt, count "cached_tokens" cached,
                count "new_prefill_tokens" prefill, printed_structural.str _ source, printed_structural.bool _,
                count "ssd_cached_tokens" ssd, printed_structural.bool _, printed_structural.bool _,
                printed_structural.bool _, List.forall_mem_nil _⟩

/-! ## What the reader accepts -/

/-- The values that are copied from the request are numbers. -/
structure Sampled (payload : Object) : Prop where
  temperature : isSamplerValue (item payload "temperature") = true
  topP : isSamplerValue (item payload "top_p") = true
  topK : isSamplerValue (item payload "top_k") = true
  budget : isTokenBudget (item payload "max_tokens") = true

theorem canonical_sampler {value : Value} (number : isSamplerValue value = true) : value.canonical = value := by
  cases value <;> first | rfl | cases number

theorem isSamplerValue_of_budget {value : Value} (budget : isTokenBudget value = true) : isSamplerValue value = true := by
  cases value <;> first | rfl | cases budget

theorem printed_sampler {py : Python} {value : Value} (number : isSamplerValue value = true) (clean : value.Clean py)
    (printable : value.printable = true) : Printed py value := by
  cases value with
  | null | int | float => exact ⟨clean, printable, fun _ found => found.elim⟩
  | bool | str | arr | obj => cases number

theorem isSha256_canonical (value : Option Value) : isSha256 (value.map Value.canonical) = isSha256 value := by
  cases value with
  | none => rfl
  | some value => cases value <;> rfl

theorem safePolicyValue_canonical {py : Python} {value : Value} (clean : value.Clean py) :
    safePolicyValue value.canonical = safePolicyValue value := by
  cases value with
  | null | bool | int | float | str | arr => rfl
  | obj fields =>
      change (Core.sameKeys (Object.canonical fields) _ && isSha256 (Object.get? (Object.canonical fields) _)) = _
      rw [sameKeys_canonical, Value.get?_canonical clean.1, isSha256_canonical]
      rfl

section
variable {py : Python} {floatEqual : Value → Value → Bool} (floats : ∀ f, floatEqual (.float f) (.float f) = true)
  (hexDigests : HexDigests py) {payload : Object} (clean : payload.Clean py)
  (printable : (Value.obj payload).printable = true) (sampled : Sampled payload) {parts : Parts} {prompt : Value}
  (computed : Parts.Computed py parts payload prompt)
include hexDigests clean printable sampled computed

theorem printed_kept : Kept (Printed py) payload parts :=
  computed.kept hexDigests clean printable (fun _ => id)
    (printed_sampler sampled.temperature (clean_item clean _) (printable_item printable _))
    (printed_sampler sampled.topP (clean_item clean _) (printable_item printable _))
    (printed_sampler sampled.topK (clean_item clean _) (printable_item printable _))
    (printed_sampler (isSamplerValue_of_budget sampled.budget) (clean_item clean _) (printable_item printable _))

theorem printed_fields : Printed py (.obj (parts.fields payload)) :=
  structural_fields printed_structural (printed_kept hexDigests clean printable sampled computed)
    (computed.hexadecimal hexDigests)

/-- The identity of the fields that are read back is the one that was digested,
with sorted members. -/
theorem prefixIdentity_canonical : prefixIdentity (Object.canonical (parts.fields payload)) =
    canonicalFields (prefixIdentity (parts.declared payload)) := by
  have printed := printed_fields hexDigests clean printable sampled computed
  have read (key : Text) := item_canonical printed.clean.1 key
  have compatible : item (Object.canonical (parts.fields payload)) "compatibility" =
      .obj (Object.canonical (compatibility parts.phase)) := read _
  have keys : (Object.keys (compatibility parts.phase)).Nodup := by
    have keys : Object.keys (compatibility parts.phase) = ["mode", "version", "phase"] := rfl
    rw [keys]
    decide
  have phase : item (Object.canonical (compatibility parts.phase)) "phase" = .str parts.phase.name := item_canonical keys _
  rw [prefixIdentity, compatible]
  dsimp only
  rw [phase, read, read, read, read, read, read, read, read, read, read]
  rfl

theorem safe_hashes :
    (hashFields.all fun key => isSha256 (Object.get? (Object.canonical (parts.fields payload)) key)) = true := by
  have printed := printed_fields hexDigests clean printable sampled computed
  have hex := computed.hexadecimal hexDigests
  have hash (key text : Text) (found : Object.get? (parts.fields payload) key = some (.str text))
      (valid : isSha256 (some (.str text)) = true) :
      isSha256 (Object.get? (Object.canonical (parts.fields payload)) key) = true := by
    rw [Value.get?_canonical printed.clean.1, isSha256_canonical, found]
    exact valid
  simp only [hashFields, List.all_cons, List.all_nil, Bool.and_true, Bool.and_eq_true]
  exact ⟨hash _ _ rfl hex.system, hash _ _ rfl hex.base, hash _ _ rfl hex.model, hash _ _ rfl hex.tools,
    hash _ _ rfl hex.terminal⟩

omit hexDigests clean printable computed in
theorem safe_sampler : safeSampler (.obj (Object.canonical (sampler payload))) = true := by
  rw [safeSampler, sameKeys_canonical, Bool.and_eq_true, List.all_eq_true]
  refine ⟨sameKeys_of_keys rfl, fun field member => ?_⟩
  obtain ⟨original, inside, rfl⟩ := Object.mem_canonical member
  have numbers : ∀ field ∈ sampler payload, isSamplerValue field.2 = true := by
    simp only [sampler, List.forall_mem_cons]
    exact ⟨sampled.temperature, sampled.topP, sampled.topK, List.forall_mem_nil _⟩
  have number := numbers original inside
  rwa [← canonical_sampler number] at number

omit sampled in
theorem safe_reasoning : safeReasoning (.obj (Object.canonical
    [("thinking_enabled", thinkingEnabled (item payload "thinking")), ("effort", parts.effort)])) = true := by
  have effort := safePolicy_safe hexDigests computed.effort (clean_item clean _) (printable_item printable _)
  have reasoning := structural_reasoning printed_structural payload effort.1
  have read (key : Text) := item_canonical reasoning.clean.1 key
  have enabled : item (Object.canonical [("thinking_enabled", thinkingEnabled (item payload "thinking")),
      ("effort", parts.effort)]) "thinking_enabled" = (thinkingEnabled (item payload "thinking")).canonical := read _
  have effortAt : item (Object.canonical [("thinking_enabled", thinkingEnabled (item payload "thinking")),
      ("effort", parts.effort)]) "effort" = parts.effort.canonical := read _
  rw [safeReasoning, sameKeys_canonical, enabled, effortAt, safePolicyValue_canonical effort.1.clean, effort.2,
    Bool.and_true, Bool.and_eq_true]
  refine ⟨sameKeys_of_keys rfl, ?_⟩
  rcases thinkingEnabled_cases (item payload "thinking") with same | ⟨_, same⟩
  · rw [same]
    rfl
  · rw [same]
    rfl

omit hexDigests clean printable sampled computed in
theorem cacheMode_known : isCacheMode (cacheModePolicy payload).canonical = .ok true := by
  unfold cacheModePolicy
  split
  · split <;> rfl
  · rfl

include floats in
theorem safe_prefix : ∃ identity, cachePrefixIdentity py (Object.canonical (parts.fields payload)) = .ok identity ∧
    (Value.obj (Object.canonical (parts.prefixObject payload))).equal floatEqual (.obj identity) = true := by
  have kept := printed_kept hexDigests clean printable sampled computed
  have hex := computed.hexadecimal hexDigests
  have identity := structural_prefix printed_structural kept hex
  have whole := structural_prefixObject printed_structural kept hex
  have identityPrintable : (Value.obj (canonicalFields (prefixIdentity (parts.declared payload)))).printable = true := by
    rw [canonicalFields_eq]
    refine printableFields_iff.mpr fun field member => ?_
    obtain ⟨original, inside, rfl⟩ := List.mem_map.mp member
    exact Value.printable_canonical (printableFields_iff.mp identity.printable original inside)
  have digested : sha256Of py (.obj (prefixIdentity (Object.canonical (parts.fields payload)))) = .ok parts.cachePrefix := by
    rw [prefixIdentity_canonical hexDigests clean printable sampled computed,
      sha256Of_same (same_canonicalFields _) identity.clean.valid identity.printable identityPrintable]
    exact computed.cachePrefix
  refine ⟨canonicalFields (parts.prefixObject payload), ?_, ?_⟩
  · rw [cachePrefixIdentity, digested, prefixIdentity_canonical hexDigests clean printable sampled computed]
    rfl
  · refine Value.equal_perm floats (List.perm_insertionSort keyOrder _) ?_
    exact ((same_canonicalFields _).canonical_eq whole.clean.valid).2

include floats in
theorem safe_fields : safeModelBoundaryFields py floatEqual (Object.canonical (parts.fields payload)) = .ok true := by
  have printed := printed_fields hexDigests clean printable sampled computed
  have read (key : Text) := item_canonical printed.clean.1 key
  have samplerAt : item (Object.canonical (parts.fields payload)) "sampler" = .obj (Object.canonical (sampler payload)) := read _
  have reasoningAt : item (Object.canonical (parts.fields payload)) "reasoning" = .obj (Object.canonical
      [("thinking_enabled", thinkingEnabled (item payload "thinking")), ("effort", parts.effort)]) := read _
  have choiceAt : item (Object.canonical (parts.fields payload)) "tool_choice_policy" = parts.choice.canonical := read _
  have budgetAt : item (Object.canonical (parts.fields payload)) "token_budget" = (item payload "max_tokens").canonical := read _
  have modeAt : item (Object.canonical (parts.fields payload)) "cache_mode_policy" = (cacheModePolicy payload).canonical := read _
  have compatibilityAt : item (Object.canonical (parts.fields payload)) "compatibility" =
      (Value.obj (compatibility parts.phase)).canonical := read _
  have prefixAt : item (Object.canonical (parts.fields payload)) "cache_prefix" =
      .obj (Object.canonical (parts.prefixObject payload)) := read _
  have deltasAt : item (Object.canonical (parts.fields payload)) "declared_policy_deltas" = (Value.obj parts.deltas).canonical :=
    read _
  have choice := safePolicy_safe hexDigests computed.choice (clean_item clean _) (printable_item printable _)
  have choiceSafe := safePolicyValue_canonical choice.1.clean
  have budgetSafe := sampled.budget
  rw [← canonical_sampler (isSamplerValue_of_budget sampled.budget)] at budgetSafe
  have compatible : (phases.any fun phase => ((Value.obj (compatibility parts.phase)).canonical).equal floatEqual
      (.obj (compatibility phase))) = true := by
    refine List.any_eq_true.mpr ⟨parts.phase, by cases parts.phase <;> decide, ?_⟩
    exact Value.equal_perm floats (List.perm_insertionSort keyOrder _)
      (structural_compatibility (@printed_structural py) parts.phase).clean.valid
  obtain ⟨identity, identified, equal⟩ := safe_prefix floats hexDigests clean printable sampled computed
  obtain ⟨digest, expectedAt⟩ := @expectedDelta_exists py
  have declared : ((Value.obj parts.deltas).canonical.equal floatEqual (.obj []) ||
      (Value.obj parts.deltas).canonical.equal floatEqual (.obj [("harness_system_suffix_sha256", .str digest)]) ||
      (Value.obj parts.deltas).canonical.equal floatEqual (.obj invalidPolicyDelta)) = true := by
    obtain ⟨deltas, cases⟩ := observedDelta_cases hexDigests computed.deltas
    have flat (text : Text) : (Value.obj [("harness_system_suffix_sha256", .str text)]).canonical.equal floatEqual
        (.obj [("harness_system_suffix_sha256", .str text)]) = true := by
      refine Value.equal_perm floats (List.perm_insertionSort keyOrder _) ⟨List.nodup_singleton _, trivial, trivial⟩
    rcases cases with empty | same | invalid
    · rw [empty]
      rfl
    · rw [expectedAt] at same
      rw [← Except.ok.inj same, flat digest, Bool.or_true, Bool.true_or]
    · rw [invalid, invalidPolicyDelta, flat, Bool.or_true]
  rw [safeModelBoundaryFields, safe_hashes hexDigests clean printable sampled computed, samplerAt, safe_sampler sampled,
    reasoningAt, safe_reasoning hexDigests clean printable computed, choiceAt, choiceSafe, choice.2, budgetAt,
    budgetSafe, modeAt, cacheMode_known, compatibilityAt, prefixAt, deltasAt, identified, expectedAt]
  simp only [bind, Except.bind, compatible, equal, declared]
  rfl

end

/-- What the reader checks of the values that are copied from a request. -/
theorem safe_numbers {py : Python} {floatEqual : Value → Value → Bool} {fields : Object}
    (safe : safeModelBoundaryFields py floatEqual fields = .ok true) :
    safeSampler (item fields "sampler") = true ∧ isTokenBudget (item fields "token_budget") = true := by
  unfold safeModelBoundaryFields at safe
  cases hashes : hashFields.all fun key => isSha256 (fields.get? key) with
  | false => rw [hashes] at safe; cases safe
  | true =>
      cases sampler : safeSampler (item fields "sampler") with
      | false => rw [hashes, sampler] at safe; cases safe
      | true =>
          cases reasoning : safeReasoning (item fields "reasoning") with
          | false => rw [hashes, sampler, reasoning] at safe; cases safe
          | true =>
              cases choice : safePolicyValue (item fields "tool_choice_policy") with
              | false => rw [hashes, sampler, reasoning, choice] at safe; cases safe
              | true =>
                  cases budget : isTokenBudget (item fields "token_budget") with
                  | false => rw [hashes, sampler, reasoning, choice, budget] at safe; cases safe
                  | true => exact ⟨rfl, rfl⟩

/-- What the reader has checked of a record. -/
structure ReadRecord (py : Python) (floatEqual : Value → Value → Bool) (sequence : Nat) (record : ObservedRecord) : Prop where
  numbered : record.sequence = sequence
  safe : safeModelBoundaryFields py floatEqual record.fields = .ok true
  digested : sha256Of py (.obj record.fields) = .ok record.digest

theorem readRow_checked {py : Python} {floatEqual : Value → Value → Bool} {sequence : Nat} {row : Value} {record : ObservedRecord}
    (read : readRow py floatEqual sequence row = .ok record) : ReadRecord py floatEqual sequence record := by
  cases row with
  | null | bool | int | float | str | arr => cases read
  | obj members =>
      simp only [readRow, bind_eq_ok, raiseIf_eq_ok] at read
      obtain ⟨_, _, read⟩ := read
      split at read
      · rename_i fields _
        simp only [bind_eq_ok, raiseIf_eq_ok, liftBoundary_eq_ok, Bool.not_eq_false'] at read
        obtain ⟨_, _, _, safe, _, rfl, read⟩ := read
        split at read
        · simp only [bind_eq_ok, raiseIf_eq_ok, liftBoundary_eq_ok, decide_eq_false_iff_not, not_not] at read
          obtain ⟨digest, digested, _, rfl, read⟩ := read
          split at read
          · simp only [bind_eq_ok] at read
            obtain ⟨_, _, read⟩ := read
            split at read
            · simp only [bind_eq_ok, pure, Except.pure, Except.ok.injEq] at read
              obtain ⟨_, _, _, _, _, _, rfl⟩ := read
              exact ⟨rfl, safe, digested⟩
            · cases read
          · cases read
        · cases read
      · cases read

theorem readRowsFrom_checked {py : Python} {floatEqual : Value → Value → Bool} {sequence : Nat} {rows : List Value}
    {records : List ObservedRecord} (read : readRowsFrom py floatEqual sequence rows = .ok records) :
    ∀ record ∈ records, ∃ number, ReadRecord py floatEqual number record := by
  induction rows generalizing sequence records with
  | nil =>
      cases read
      exact List.forall_mem_nil _
  | cons row rest ih =>
      simp only [readRowsFrom, bind_eq_ok, pure, Except.pure, Except.ok.injEq] at read
      obtain ⟨record, one, others, remaining, rfl⟩ := read
      exact List.forall_mem_cons.mpr ⟨⟨sequence, readRow_checked one⟩, ih remaining⟩

theorem isSamplerValue_canonical (value : Value) : isSamplerValue value.canonical = isSamplerValue value := by
  cases value <;> rfl

theorem isTokenBudget_canonical (value : Value) : isTokenBudget value.canonical = isTokenBudget value := by
  cases value <;> rfl

/-- A member of a sampler that was accepted is a number or not there. -/
theorem safeSampler_item {sampler : Object} (safe : safeSampler (.obj sampler) = true) (key : Text) :
    isSamplerValue (item sampler key) = true := by
  rw [safeSampler, Bool.and_eq_true, List.all_eq_true] at safe
  unfold item
  cases found : Object.get? sampler key with
  | none => rfl
  | some value => exact safe.2 _ (Object.mem_of_get? sampler key found)

theorem valid_item {fields : Object} (valid : (Value.obj fields).Valid) (key : Text) : (item fields key).Valid := by
  unfold item
  cases found : fields.get? key with
  | none => trivial
  | some value => exact Value.validFields_iff.mp valid.2 _ (fields.mem_of_get? key found)

/-- Equal objects have equal members. -/
theorem item_same {fields others : Object} (same : Same (.obj fields) (.obj others)) (valid : (Value.obj fields).Valid)
    (key : Text) : (item fields key).canonical = (item others key).canonical := by
  obtain ⟨equal, otherValid⟩ := same.canonical_eq valid
  have objects : Object.canonical fields = Object.canonical others := Value.obj.inj equal
  rw [← item_canonical valid.1, ← item_canonical otherValid.1, objects]

/-- If equal fields are accepted, the request held numbers. -/
theorem sampled_of_safe {py : Python} {floatEqual : Value → Value → Bool} {payload others : Object} {parts : Parts}
    (valid : (Value.obj (parts.fields payload)).Valid) (same : Same (.obj (parts.fields payload)) (.obj others))
    (safe : safeModelBoundaryFields py floatEqual others = .ok true) : Sampled payload := by
  obtain ⟨sampled, budget⟩ := safe_numbers safe
  have samplers : (Value.obj (sampler payload)).canonical = (item others "sampler").canonical := item_same same valid "sampler"
  have budgets : (item payload "max_tokens").canonical = (item others "token_budget").canonical :=
    item_same same valid "token_budget"
  have otherValid := (same.canonical_eq valid).2
  cases read : item others "sampler" with
  | null | bool | int | float | str | arr => rw [read] at sampled; cases sampled
  | obj kept =>
      have keptValid : (Value.obj kept).Valid := read ▸ valid_item otherValid "sampler"
      rw [read] at sampled samplers
      have nodup : (Object.keys (sampler payload)).Nodup := by
        have keys : Object.keys (sampler payload) = ["temperature", "top_p", "top_k"] := rfl
        rw [keys]
        decide
      have objects : Object.canonical (sampler payload) = Object.canonical kept := Value.obj.inj samplers
      have number (key : Text) : isSamplerValue (item (sampler payload) key) = true := by
        rw [← isSamplerValue_canonical, ← item_canonical nodup, objects, item_canonical keptValid.1, isSamplerValue_canonical]
        exact safeSampler_item sampled key
      refine ⟨number "temperature", number "top_p", number "top_k", ?_⟩
      rw [← isTokenBudget_canonical, budgets, isTokenBudget_canonical]
      exact budget

end HarnessProxy.Evidence

import HarnessProxy.Evidence.Matched
import HarnessProxy.Evidence.ModelEvidence
import HarnessProxy.Evidence.ObserverReader

namespace HarnessProxy.Evidence.Model

open HarnessProxy.Json
open HarnessProxy.Timing (isSha256 Digest)

/-! # What passed evidence of the model server means -/

/-! ## Attempts -/

/-- The input is an attempt with these fields. -/
def Validates (input : AttemptInput) (attempt : Attempt) : Prop :=
  ∃ record, coerceAttempt input = .ok record ∧ validateAttempt record = .ok attempt

/-- What a validated attempt shows. -/
structure Attempt.Valid (attempt : Attempt) : Prop where
  digest : isSha256 (some (.str attempt.requestDigest)) = true
  status : attempt.status ∈ (["succeeded", "failed"] : List Text)
  source : attempt.cacheSource ∈ (["none", "ram", "ssd"] : List Text)
  total : attempt.promptTokens = attempt.cachedTokens + attempt.newPrefillTokens
  ssd : attempt.ssdCachedTokens ≤ attempt.cachedTokens

theorem guard_eq_some {condition : Prop} [Decidable condition] {done : Unit} :
    (guard condition : Option Unit) = some done ↔ condition := by
  by_cases holds : condition
  · exact iff_of_true (if_pos holds) holds
  · exact iff_of_false (by simp [guard, holds]) holds

theorem valid_of_validateAttempt {record : SafeAttemptRecord} {attempt : Attempt}
    (validated : validateAttempt record = .ok attempt) : attempt.Valid := by
  unfold validateAttempt at validated
  split at validated
  · cases validated
  · rename_i typed read
    split at validated
    · rename_i consistent
      cases validated
      simp only [Attempt.consistent, Bool.and_eq_true, decide_eq_true_eq, Bool.not_eq_true', decide_eq_false_iff_not,
        not_lt] at consistent
      obtain ⟨⟨⟨⟨total, _⟩, ssd⟩, _⟩, _⟩ := consistent
      simp only [SafeAttemptRecord.typed, Option.bind_eq_bind, Option.bind_eq_some_iff, pure, Option.some.injEq,
        guard_eq_some] at read
      obtain ⟨digest, _, _, hex, status, _, _, known, source, _, _, listed, _, _, _, _, _, _, _, _, _, _, _, _, _, _, _, _,
        rfl⟩ := read
      exact ⟨hex, known, listed, total, ssd⟩
    · cases validated

theorem valid_of_validates {input : AttemptInput} {attempt : Attempt} (validates : Validates input attempt) : attempt.Valid := by
  obtain ⟨_, _, validated⟩ := validates
  exact valid_of_validateAttempt validated

theorem valid_of_related {input : Option AttemptInput} {attempt : Attempt}
    (related : Option.Rel Validates input (some attempt)) : attempt.Valid := by
  cases related with
  | some validates => exact valid_of_validates validates

theorem forall₂_comp_iff {α β γ : Type} {first : α → β → Prop} {second : β → γ → Prop} {items : List α} {results : List γ} :
    (∃ between, List.Forall₂ first items between ∧ List.Forall₂ second between results) ↔
      List.Forall₂ (fun item result => ∃ middle, first item middle ∧ second middle result) items results := by
  induction items generalizing results with
  | nil => simp
  | cons item rest ih =>
      constructor
      · rintro ⟨between, left, right⟩
        cases left with
        | cons head tail =>
            cases right with
            | cons next others => exact .cons ⟨_, head, next⟩ (ih.mp ⟨_, tail, others⟩)
      · intro related
        cases related with
        | cons both others =>
            obtain ⟨middle, head, next⟩ := both
            obtain ⟨between, tail, remaining⟩ := ih.mpr others
            exact ⟨middle :: between, .cons head tail, .cons next remaining⟩

theorem coerceAttempts_eq_ok {inputs : Option (List AttemptInput)} {attempts : List Attempt} :
    coerceAttempts inputs = .ok attempts ↔ ∃ given, inputs = some given ∧ List.Forall₂ Validates given attempts := by
  cases inputs with
  | none => simp [coerceAttempts]
  | some given =>
      simp only [coerceAttempts, bind_eq_ok, mapEach_eq_ok_iff, Option.some.injEq, exists_eq_left']
      exact forall₂_comp_iff

theorem coerceOptionalAttempt_eq_ok {input : Option AttemptInput} {attempt : Option Attempt} :
    coerceOptionalAttempt input = .ok attempt ↔ Option.Rel Validates input attempt := by
  cases input with
  | none =>
      cases attempt with
      | none => exact iff_of_true rfl .none
      | some _ => exact iff_of_false (fun same => by cases same) fun related => by cases related
  | some input =>
      simp only [coerceOptionalAttempt, bind_eq_ok, pure, Except.pure, Except.ok.injEq]
      constructor
      · rintro ⟨record, coerced, found, validated, rfl⟩
        exact .some ⟨record, coerced, validated⟩
      · intro related
        cases related with
        | some validates =>
            obtain ⟨record, coerced, validated⟩ := validates
            exact ⟨record, coerced, _, validated, rfl⟩

/-! ## The rules of the lanes -/

/-- What a lane demands of the attempts and the prime. -/
def LaneRules : CacheLane → List Attempt → Option Attempt → Prop
  | .preflight, attempts, prime | .cold, attempts, prime =>
    prime = none ∧ ∀ attempt ∈ attempts, attempt.succeeded = true → attempt.isolated = true
  | .warmPrefix, attempts, prime => ∃ primed first rest, prime = some primed ∧ attempts = first :: rest ∧
      primed.succeeded = true ∧ first.succeeded = true ∧ primed.primes = true ∧ first.reuses = true ∧
      primed.requestDigest = first.requestDigest

/-- The successful attempts, and one more for a prime. -/
def expectedRequests (lane : CacheLane) (attempts : List Attempt) : Nat :=
  successCount attempts + if lane = .warmPrefix then 1 else 0

theorem validateUncached_eq_ok {category : Text} {attempts : List Attempt} {prime : Option Attempt} {expected : Nat} :
    validateUncached category attempts prime = .ok expected ↔
      (prime = none ∧ ∀ attempt ∈ attempts, attempt.succeeded = true → attempt.isolated = true) ∧
        expected = successCount attempts := by
  simp only [validateUncached, bind_eq_ok, raiseIf_eq_ok, forEach_eq_ok, pure, Except.pure, Except.ok.injEq,
    Bool.not_eq_false', List.mem_filter, and_imp, exists_const, Option.isSome_eq_false_iff, Option.isNone_iff_eq_none]
  constructor
  · rintro ⟨absent, each, same⟩
    exact ⟨⟨absent, each⟩, same.symm⟩
  · rintro ⟨⟨absent, each⟩, same⟩
    exact ⟨absent, each, same.symm⟩

theorem validateCacheInvariants_eq_ok {lane : CacheLane} {attempts : List Attempt} {prime : Option Attempt} {expected : Nat} :
    validateCacheInvariants lane attempts prime = .ok expected ↔
      LaneRules lane attempts prime ∧ expected = expectedRequests lane attempts := by
  cases lane with
  | preflight => exact validateUncached_eq_ok
  | cold => exact validateUncached_eq_ok
  | warmPrefix =>
      cases prime with
      | none => exact iff_of_false (fun same => by cases same) fun ⟨⟨_, _, _, same, _⟩, _⟩ => by cases same
      | some primed =>
          cases attempts with
          | nil => exact iff_of_false (fun same => by cases same) fun ⟨⟨_, _, _, _, same, _⟩, _⟩ => by cases same
          | cons first rest =>
              simp only [validateCacheInvariants, bind_eq_ok, raiseIf_eq_ok, pure, Except.pure, Except.ok.injEq,
                Bool.or_eq_false_iff, Bool.not_eq_false', Bool.and_eq_true, decide_eq_true_eq, exists_const, LaneRules,
                expectedRequests, if_true, Nat.add_comm 1]
              constructor
              · rintro ⟨⟨primedSucceeded, firstSucceeded⟩, ⟨⟨primes, digest⟩, reuses⟩, rfl⟩
                exact ⟨⟨primed, first, rest, rfl, rfl, primedSucceeded, firstSucceeded, primes, reuses, digest⟩, rfl⟩
              · rintro ⟨⟨_, _, _, same, listed, primedSucceeded, firstSucceeded, primes, reuses, digest⟩, rfl⟩
                cases same
                cases listed
                exact ⟨⟨primedSucceeded, firstSucceeded⟩, ⟨⟨primes, digest⟩, reuses⟩, rfl⟩

/-- The attempts and the prime are valid and keep the rules of the lane. -/
structure Accounts (lane : CacheLane) (completion : Completion) (attempts : List Attempt) (prime : Option Attempt) : Prop where
  each : ∃ given, completion.attempts = some given ∧ List.Forall₂ Validates given attempts
  primed : Option.Rel Validates completion.prime prime
  rules : LaneRules lane attempts prime

section
variable {lane : CacheLane} {completion : Completion} {attempts : List Attempt} {prime : Option Attempt}

theorem account_eq (accounts : Accounts lane completion attempts prime) :
    account lane completion = ⟨attempts, prime, some (expectedRequests lane attempts), none⟩ := by
  have checked : validateCacheInvariants lane attempts prime = .ok (expectedRequests lane attempts) :=
    validateCacheInvariants_eq_ok.mpr ⟨accounts.rules, rfl⟩
  simp only [account, coerceAttempts_eq_ok.mpr accounts.each, coerceOptionalAttempt_eq_ok.mpr accounts.primed, checked]

theorem accounts_of_account (lane : CacheLane) (completion : Completion) :
    (∀ attempt ∈ (account lane completion).attempts, attempt.Valid) ∧
      (∀ attempt ∈ (account lane completion).prime, attempt.Valid) ∧
      ((account lane completion).failure = none →
        Accounts lane completion (account lane completion).attempts (account lane completion).prime) := by
  unfold account
  split
  · exact ⟨fun _ member => (by cases member), fun _ member => (by cases member), fun failed => (by cases failed)⟩
  · rename_i attempts coerced
    have each := coerceAttempts_eq_ok.mp coerced
    have valid : ∀ attempt ∈ attempts, attempt.Valid := by
      obtain ⟨_, _, related⟩ := each
      intro attempt member
      obtain ⟨_, _, validates⟩ := forall₂_mem_right related member
      exact valid_of_validates validates
    split
    · exact ⟨valid, fun _ member => (by cases member), fun failed => (by cases failed)⟩
    · rename_i prime optional
      have related := coerceOptionalAttempt_eq_ok.mp optional
      have primeValid : ∀ attempt ∈ prime, attempt.Valid := by
        rintro attempt rfl
        exact valid_of_related related
      split
      · exact ⟨valid, primeValid, fun failed => (by cases failed)⟩
      · rename_i expected checked
        exact ⟨valid, primeValid, fun _ => ⟨each, related, (validateCacheInvariants_eq_ok.mp checked).1⟩⟩

end

/-! ## Failures and checks -/

section
variable {session : ModelEvidenceSession} {completion : Completion}

theorem credentialFailure_eq_none : credentialFailure session completion = none ↔
    ∀ key, session.apiKey = some key → completion.credential = .ok key := by
  unfold credentialFailure
  cases session.apiKey with
  | none => exact iff_of_true rfl fun _ absent => by cases absent
  | some key =>
      simp only [Option.bind_some, Option.some.injEq, forall_eq']
      cases completion.credential with
      | error category => exact iff_of_false (fun same => by cases same) fun same => by cases same
      | ok refreshed => simp

/-- The model server is the same one and has answered so many more requests. -/
structure Unchanged (before after : LiveIdentity) (expected : Nat) : Prop where
  stable : after.stableSha256.hex = before.stableSha256.hex
  delta : requestDelta before after = expected

theorem observeAfter_eq_none {before : LiveIdentity} {expected : Nat} {after : Except Text LiveIdentity} :
    (observeAfter before (some expected) after).2 = none ↔ ∃ live, after = .ok live ∧ Unchanged before live expected := by
  unfold observeAfter
  cases after with
  | error category => exact iff_of_false (fun same => by cases same) fun ⟨_, same, _⟩ => by cases same
  | ok live =>
      simp only [Except.ok.injEq, exists_eq_left']
      by_cases stable : live.stableSha256.hex = before.stableSha256.hex
      · by_cases delta : requestDelta before live = expected
        · simp [stable, delta, Unchanged.mk]
        · simpa [stable, delta] using fun unchanged : Unchanged before live expected => delta unchanged.delta
      · simpa [stable] using fun unchanged : Unchanged before live expected => stable unchanged.stable

theorem observeAfter_fst {before : LiveIdentity} {expected : Option Nat} {live : LiveIdentity} :
    (observeAfter before expected (.ok live)).1 = some live := by
  simp only [observeAfter]
  split
  · rfl
  · split <;> rfl

theorem failure_eq_none : (findings session completion).failure = none ↔ (account session.lane completion).failure = none ∧
    credentialFailure session completion = none ∧
    (observeAfter session.before (account session.lane completion).expectedDelta completion.after).2 = none := by
  simp only [findings, Option.map_eq_none_iff, Option.or_eq_none_iff, and_assoc]

/-- A failure leaves a check that is false, and only a failure does. -/
theorem checks_iff : (findings session completion).failure = none ↔
    ∀ field ∈ (findings session completion).checks.document, field.2 = .bool true := by
  rw [failure_eq_none]
  simp only [findings, Checks.document, List.forall_mem_cons, List.not_mem_nil, IsEmpty.forall_iff, implies_true,
    Value.bool.injEq, true_and, and_true, Bool.and_eq_true, Bool.or_eq_true, Option.isNone_iff_eq_none, Bool.not_eq_true',
    decide_eq_true_eq, decide_eq_false_iff_not]
  constructor
  · rintro ⟨accounted, credential, observed⟩
    simp [accounted, credential, observed]
  · rintro ⟨accounted, ⟨_, window⟩, credential, observed | failed⟩
    · exact ⟨accounted, credential, observed⟩
    · exact absurd failed window

end

/-! ## The record -/

theorem plain_safeCategory (category : Text) : plain (safeCategory category) = true := by
  unfold safeCategory
  split
  · rename_i safe
    refine plain_iff.mpr fun c member => ?_
    have kept := List.all_eq_true.mp safe.2 c member
    simp only [isCategoryChar, Bool.or_eq_true, Bool.and_eq_true, decide_eq_true_eq] at kept
    rcases kept with (lower | digit) | rfl
    · omega
    · omega
    · decide
  · decide

/-- The record holds ASCII text only, and its keys are distinct. -/
def Tidy (py : Python) (value : Value) : Prop := value.Clean py ∧ value.Ascii

section
variable {py : Python}

theorem tidy_structural : Structural (Tidy py) where
  null := ⟨trivial, ascii_null⟩
  bool b := ⟨trivial, ascii_bool b⟩
  str _ ascii := ⟨trivial, ascii_str.mpr ascii⟩
  obj _ nodup keys all := ⟨⟨nodup, cleanFields_iff.mpr fun field member => (all field member).1⟩,
    ascii_obj.mpr fun field member => ⟨keys _ (List.mem_map_of_mem member), (all field member).2⟩⟩

theorem tidy_int (i : Int) : Tidy py (.int i) := ⟨trivial, ascii_int i⟩

end

/-! ### Digests of attempts -/

section
variable {P : Value → Prop} (structural : Structural P)
include structural

theorem structural_int {count : Option Int} (each : ∀ i ∈ count, P (.int i)) : P (optionalInt count) := by
  cases count with
  | none => exact structural.null
  | some i => exact each i rfl

theorem structural_count {count : Option Nat} (each : ∀ n ∈ count, P (.int (n : Nat))) : P (optionalCount count) := by
  cases count with
  | none => exact structural.null
  | some n => exact each n rfl

theorem structural_text {text : Option Text} (ascii : ∀ kept ∈ text, plain kept = true) : P (optionalText text) := by
  cases text with
  | none => exact structural.null
  | some kept => exact structural.str kept (ascii kept rfl)

/-- A property of the numbers of an attempt is one of its dictionary. -/
theorem structural_attempt {attempt : Attempt} (valid : attempt.Valid) (numbers : ∀ n ≤ attempt.promptTokens, P (.int n)) :
    P (.obj attempt.toSafeDict) := by
  have total := valid.total
  have ssd := valid.ssd
  have statuses : ∀ status ∈ (["succeeded", "failed"] : List Text), plain status = true := by decide
  have sources : ∀ source ∈ (["none", "ram", "ssd"] : List Text), plain source = true := by decide
  refine structural.fields attemptKeys rfl (by decide) ?_
  simp only [Attempt.toSafeDict, List.forall_mem_cons]
  exact ⟨structural.str _ (plain_of_hex valid.digest), structural.str _ (statuses _ valid.status), numbers _ le_rfl,
    numbers _ (by omega), numbers _ (by omega), structural.str _ (sources _ valid.source), structural.bool _,
    numbers _ (by omega), structural.bool _, structural.bool _, structural.bool _, List.forall_mem_nil _⟩

end

/-- `json.dumps` prints the number. -/
def Countable (n : Nat) : Prop := n < 10 ^ maxStrDigits

theorem encodable_count {n : Nat} (countable : Countable n) : Value.Encodable (.int n) :=
  ⟨printable_nat.mpr countable, fun _ found => found.elim⟩

section
variable {py : Python}

theorem recordSha256_some {attempt : Attempt} (valid : attempt.Valid) :
    (∃ digest, recordSha256 py (some attempt) = .ok digest) ↔ Countable attempt.promptTokens := by
  simp only [recordSha256, bind_eq_ok, sha256Of_eq_ok, pure, Except.pure, Except.ok.injEq]
  constructor
  · rintro ⟨_, _, ⟨printable, _⟩, _⟩
    simp only [Value.printable, Attempt.toSafeDict, printableFields, Bool.and_eq_true] at printable
    exact printable_nat.mp printable.2.2.1
  · intro countable
    obtain ⟨printable, scalar⟩ := structural_attempt encodable_structural valid fun n bound =>
      encodable_count (lt_of_le_of_lt bound countable)
    exact ⟨_, _, ⟨printable, scalar, rfl⟩, rfl⟩

theorem recordSha256_exists {attempt : Option Attempt} (valid : ∀ kept ∈ attempt, kept.Valid) :
    (∃ digest, recordSha256 py attempt = .ok digest) ↔ ∀ kept ∈ attempt, Countable kept.promptTokens := by
  cases attempt with
  | none => exact iff_of_true ⟨none, rfl⟩ fun _ member => (by cases member)
  | some kept =>
      rw [recordSha256_some (valid kept rfl)]
      exact ⟨fun countable other same => (Option.some.inj same) ▸ countable, fun each => each kept rfl⟩

/-- There is a digest where there is an attempt. -/
theorem recordSha256_hex (hexDigests : HexDigests py) {attempt : Option Attempt} {digest : Option Text}
    (computed : recordSha256 py attempt = .ok digest) :
    digest.isSome = attempt.isSome ∧ ∀ hex ∈ digest, isSha256 (some (.str hex)) = true := by
  cases attempt with
  | none =>
      cases computed
      exact ⟨rfl, fun _ member => (by cases member)⟩
  | some kept =>
      simp only [recordSha256, bind_eq_ok, pure, Except.pure, Except.ok.injEq] at computed
      obtain ⟨hex, hashed, rfl⟩ := computed
      exact ⟨rfl, fun other same => (Option.some.inj same) ▸ sha256Of_hex hexDigests hashed⟩

end

/-! ### The whole record -/

/-- The numbers of the record have a property. -/
structure Counted (P : Value → Prop) (session : ModelEvidenceSession) (found : Findings) : Prop where
  before : P (.int session.before.requestsCompleted)
  after : ∀ live ∈ found.after, P (.int live.requestsCompleted) ∧ P (.int (requestDelta session.before live))
  expected : ∀ expected ∈ found.accounting.expectedDelta, P (.int (expected : Nat))
  successes : P (.int (successCount found.accounting.attempts))
  measured : P (.int found.accounting.attempts.length)
  zero : P (.int 0)
  one : P (.int 1)
  first : ∀ first ∈ found.accounting.attempts.head?, ∀ n ≤ first.promptTokens, P (.int n)

/-- The texts of the record come from fixed lists. -/
structure Worded (found : Findings) (primeSha256 firstSha256 : Option Text) : Prop where
  category : ∀ category ∈ found.failure, plain category = true
  primeDigest : ∀ hex ∈ primeSha256, isSha256 (some (.str hex)) = true
  firstDigest : ∀ hex ∈ firstSha256, isSha256 (some (.str hex)) = true
  prime : ∀ prime ∈ found.accounting.prime, prime.Valid
  attempts : ∀ attempt ∈ found.accounting.attempts, attempt.Valid

section
variable {P : Value → Prop} (structural : Structural P) {session : ModelEvidenceSession} {found : Findings}
  (counted : Counted P session found) {primeSha256 firstSha256 : Option Text} (worded : Worded found primeSha256 firstSha256)
include structural

theorem structural_digest (digest : Digest) : P (.str digest.hex) := structural.str _ (plain_of_hex digest.valid)

include counted

theorem structural_window : P (.obj (windowDocument session.before found.after found.accounting.expectedDelta
    found.accounting.attempts)) := by
  refine structural.fields ["before", "after", "delta", "expected", "successful_measured"] rfl (by decide) ?_
  simp only [windowDocument, List.forall_mem_cons]
  refine ⟨counted.before, structural_count structural ?_, structural_int structural ?_,
    structural_count structural counted.expected, counted.successes, List.forall_mem_nil _⟩
  · intro n member
    obtain ⟨live, found, rfl⟩ := Option.mem_map.mp member
    exact (counted.after live found).1
  · intro i member
    obtain ⟨live, found, rfl⟩ := Option.mem_map.mp member
    exact (counted.after live found).2

include worded

theorem structural_prime : P (.obj (primeDocument primeSha256 found.accounting.prime)) := by
  refine structural.fields ["record_sha256", "count", "request_digest"] rfl (by decide) ?_
  simp only [primeDocument, List.forall_mem_cons]
  refine ⟨structural_text structural fun hex member => plain_of_hex (worded.primeDigest hex member), ?_,
    structural_text structural ?_, List.forall_mem_nil _⟩
  · split
    · exact counted.one
    · exact counted.zero
  · intro digest member
    obtain ⟨prime, found, rfl⟩ := Option.mem_map.mp member
    exact plain_of_hex (worded.prime prime found).digest

theorem structural_first : P (.obj (firstDocument firstSha256 found.accounting.attempts)) := by
  have statuses : ∀ status ∈ (["succeeded", "failed"] : List Text), plain status = true := by decide
  have tokens (count : Attempt → Nat) (bounded : ∀ attempt : Attempt, attempt.Valid → count attempt ≤ attempt.promptTokens) :
      P (optionalCount (found.accounting.attempts.head?.map count)) := by
    refine structural_count structural fun n member => ?_
    obtain ⟨first, head, rfl⟩ := Option.mem_map.mp member
    exact counted.first first head _ (bounded first (worded.attempts first (List.mem_of_mem_head? head)))
  refine structural.fields firstAttemptKeys rfl (by decide) ?_
  simp only [firstDocument, List.forall_mem_cons]
  refine ⟨structural_text structural fun hex member => plain_of_hex (worded.firstDigest hex member),
    structural_text structural ?_, counted.measured, counted.successes, tokens _ fun _ _ => le_rfl,
    tokens _ fun attempt valid => ?_, tokens _ fun attempt valid => ?_, List.forall_mem_nil _⟩
  · intro status member
    obtain ⟨first, head, rfl⟩ := Option.mem_map.mp member
    exact statuses _ (worded.attempts first (List.mem_of_mem_head? head)).status
  · have total := valid.total
    omega
  · have total := valid.total
    omega

theorem structural_record : P (.obj (evidenceFields session found primeSha256 firstSha256)) := by
  have stages (stage : EvidenceStage) : plain stage.name = true := by cases stage <;> decide
  have checks : P (.obj found.checks.document) := by
    refine structural.fields checkKeys rfl (by decide) ?_
    simp only [Checks.document, List.forall_mem_cons]
    exact ⟨structural.bool _, structural.bool _, structural.bool _, structural.bool _, structural.bool _,
      List.forall_mem_nil _⟩
  have status : plain (if found.failure.isSome then "failed" else "passed" : Text) = true := by split <;> decide
  have digest := structural_digest structural
  refine structural.fields evidenceKeys rfl (by decide) ?_
  simp only [evidenceFields, List.forall_mem_cons]
  refine ⟨structural.str _ (by decide), structural.str _ (by decide), structural.str _ (stages _), structural.str _ status,
    structural_text structural worded.category, digest _, digest _, digest _, digest _, digest _,
    structural_text structural ?_, structural_window structural counted, structural_prime structural counted worded,
    structural_first structural counted worded, checks, List.forall_mem_nil _⟩
  intro hex member
  obtain ⟨live, _, rfl⟩ := Option.mem_map.mp member
  exact plain_of_hex live.liveSha256.valid

end

/-! ## The file -/

section
variable {py : Python} {wide : JsonEncoding → Bytes → Option Text} {session : ModelEvidenceSession} {completion : Completion}

theorem atomicReplaceJsonl_tidy {record : Object} {written : Bytes} (tidy : Tidy py (.obj record)) :
    atomicReplaceJsonl [record] = .ok written ↔
      ∃ printable, written = (AsciiDocument.mk record tidy.1 printable tidy.2 : AsciiDocument py).bytes := by
  by_cases printable : (Value.obj record).printable = true
  · let document : AsciiDocument py := ⟨record, tidy.1, printable, tidy.2⟩
    have replaced : atomicReplaceJsonl [record] = .ok (payload [document.row]) := atomicReplaceJsonl_payload [document.row]
    have bytes : payload [document.row] = document.bytes := by
      rw [payload, ledgerText, List.map_singleton, Data.LineEnds.unlines_cons]
      rfl
    rw [replaced, bytes]
    constructor
    · exact fun same => ⟨printable, (Except.ok.inj same).symm⟩
    · rintro ⟨_, rfl⟩
      rfl
  · constructor
    · intro same
      simp [atomicReplaceJsonl, mapEach, dumpText, printable, bind, Except.bind] at same
    · rintro ⟨holds, _⟩
      exact absurd holds printable

/-- The digests of the prime and of the first attempt of a session. -/
structure Hashed (py : Python) (found : Findings) (primeSha256 firstSha256 : Option Text) : Prop where
  prime : recordSha256 py found.accounting.prime = .ok primeSha256
  first : recordSha256 py found.accounting.attempts.head? = .ok firstSha256

variable {primeSha256 firstSha256 : Option Text}

theorem evidenceRecord_eq_ok {found : Findings} {record : Object} : evidenceRecord py session found = .ok record ↔
    ∃ primeSha256 firstSha256, Hashed py found primeSha256 firstSha256 ∧
      evidenceFields session found primeSha256 firstSha256 = record := by
  simp only [evidenceRecord, bind_eq_ok, pure, Except.pure, Except.ok.injEq]
  exact ⟨fun ⟨prime, primed, first, firsted, same⟩ => ⟨prime, first, ⟨primed, firsted⟩, same⟩,
    fun ⟨prime, first, hashed, same⟩ => ⟨prime, hashed.prime, first, hashed.first, same⟩⟩

theorem complete_eq_some {written : Bytes} : (session.complete py completion).1 = some written ↔
    session.completed = false ∧ completion.target = none ∧ ∃ record,
      evidenceRecord py session (findings session completion) = .ok record ∧ atomicReplaceJsonl [record] = .ok written := by
  unfold ModelEvidenceSession.complete
  cases session.completed with
  | true => simp
  | false =>
      cases recorded : evidenceRecord py session (findings session completion) with
      | error error => simp [recorded]
      | ok record =>
          cases target : completion.target with
          | some category => simp [recorded]
          | none =>
              cases replaced : atomicReplaceJsonl [record] with
              | error error => simp [recorded, replaced]
              | ok bytes => simp [recorded, replaced]

variable (hexDigests : HexDigests py)
include hexDigests

theorem worded_findings (hashed : Hashed py (findings session completion) primeSha256 firstSha256) :
    Worded (findings session completion) primeSha256 firstSha256 := by
  obtain ⟨attempts, prime, _⟩ := accounts_of_account session.lane completion
  refine ⟨fun category member => ?_, (recordSha256_hex hexDigests hashed.prime).2, (recordSha256_hex hexDigests hashed.first).2,
    prime, attempts⟩
  obtain ⟨raised, _, rfl⟩ := Option.mem_map.mp member
  exact plain_safeCategory raised

theorem tidy_record (hashed : Hashed py (findings session completion) primeSha256 firstSha256) :
    Tidy py (.obj (evidenceFields session (findings session completion) primeSha256 firstSha256)) :=
  structural_record tidy_structural
    ⟨tidy_int _, fun _ _ => ⟨tidy_int _, tidy_int _⟩, fun _ _ => tidy_int _, tidy_int _, tidy_int _, tidy_int _, tidy_int _,
      fun _ _ _ _ => tidy_int _⟩
    (worded_findings hexDigests hashed)

/-- What is written is read back, with sorted keys. -/
theorem written_loaded {written : Bytes} (completed : (session.complete py completion).1 = some written) :
    ∃ primeSha256 firstSha256, Hashed py (findings session completion) primeSha256 firstSha256 ∧
      (Value.obj (evidenceFields session (findings session completion) primeSha256 firstSha256)).printable = true ∧
      loadUnique py wide written =
        some (.obj (Object.canonical (evidenceFields session (findings session completion) primeSha256 firstSha256))) := by
  obtain ⟨_, _, record, recorded, replaced⟩ := complete_eq_some.mp completed
  obtain ⟨primeSha256, firstSha256, hashed, rfl⟩ := evidenceRecord_eq_ok.mp recorded
  obtain ⟨printable, rfl⟩ := (atomicReplaceJsonl_tidy (tidy_record hexDigests hashed)).mp replaced
  exact ⟨primeSha256, firstSha256, hashed, printable, AsciiDocument.loadUnique_bytes _ wide⟩

/-- The status in the file says whether there was a failure. -/
theorem written_status {written : Bytes} (completed : (session.complete py completion).1 = some written) :
    ∃ document, loadUnique py wide written = some (.obj document) ∧
      item document "status" = .str (if (findings session completion).failure.isSome then "failed" else "passed") := by
  obtain ⟨primeSha256, firstSha256, hashed, _, loaded⟩ := @written_loaded py wide session completion hexDigests written completed
  exact ⟨_, loaded, item_canonical (tidy_record hexDigests hashed).1.1 "status"⟩

end

/-! ## When evidence passes -/

/-- `complete` writes evidence with the status `passed`. -/
def WritesPassed (py : Python) (wide : JsonEncoding → Bytes → Option Text) (session : ModelEvidenceSession)
    (completion : Completion) : Prop :=
  ∃ written document, (session.complete py completion).1 = some written ∧ loadUnique py wide written = some (.obj document) ∧
    item document "status" = .str "passed"

/-- The counts that are hashed or written have a printable length. -/
structure Fits (live : LiveIdentity) (attempts : List Attempt) (prime : Option Attempt) : Prop where
  window : Countable live.requestsCompleted
  measured : Countable attempts.length
  first : ∀ first ∈ attempts.head?, Countable first.promptTokens
  primed : ∀ primed ∈ prime, Countable primed.promptTokens

/-- The credential file still holds the key of the session. -/
def CredentialKept (session : ModelEvidenceSession) (completion : Completion) : Prop :=
  ∀ key, session.apiKey = some key → completion.credential = .ok key

/-- The attempts account for the requests of an unchanged model server. -/
structure AccountsFor (session : ModelEvidenceSession) (completion : Completion) (live : LiveIdentity) (attempts : List Attempt)
    (prime : Option Attempt) : Prop where
  accounts : Accounts session.lane completion attempts prime
  observed : completion.after = .ok live
  unchanged : Unchanged session.before live (expectedRequests session.lane attempts)

/-- What passed evidence needs. -/
structure Passes (session : ModelEvidenceSession) (completion : Completion) : Prop where
  first : session.completed = false
  writable : completion.target = none
  credential : CredentialKept session completion
  accounted : ∃ live attempts prime, AccountsFor session completion live attempts prime ∧ Fits live attempts prime

section
variable {py : Python} {wide : JsonEncoding → Bytes → Option Text} {session : ModelEvidenceSession} {completion : Completion}
  {live : LiveIdentity} {attempts : List Attempt} {prime : Option Attempt}

/-- What the findings are where the attempts account for the requests. -/
theorem findings_of_accounts (credential : CredentialKept session completion)
    (accounted : AccountsFor session completion live attempts prime) :
    (findings session completion).failure = none ∧ (findings session completion).after = some live ∧
      (findings session completion).accounting = ⟨attempts, prime, some (expectedRequests session.lane attempts), none⟩ := by
  have account := account_eq accounted.accounts
  refine ⟨failure_eq_none.mpr ⟨by rw [account], credentialFailure_eq_none.mpr credential, ?_⟩, ?_, account⟩
  · rw [account, accounted.observed]
    exact observeAfter_eq_none.mpr ⟨live, rfl, accounted.unchanged⟩
  · simp only [findings, accounted.observed]
    exact observeAfter_fst

/-- Without a failure the attempts account for the requests. -/
theorem accounts_of_findings (failed : (findings session completion).failure = none) :
    CredentialKept session completion ∧ ∃ live attempts prime, AccountsFor session completion live attempts prime := by
  obtain ⟨accounted, credential, observed⟩ := failure_eq_none.mp failed
  obtain ⟨_, _, accounts⟩ := accounts_of_account session.lane completion
  have both := accounts accounted
  rw [account_eq both] at observed
  obtain ⟨live, after, unchanged⟩ := observeAfter_eq_none.mp observed
  exact ⟨credentialFailure_eq_none.mp credential, live, _, _, both, after, unchanged⟩

theorem delta_le {before : LiveIdentity} {expected : Nat} (unchanged : Unchanged before live expected) :
    before.requestsCompleted ≤ live.requestsCompleted ∧ expected ≤ live.requestsCompleted := by
  have delta := unchanged.delta
  unfold requestDelta at delta
  omega

theorem encodable_counted (accounted : AccountsFor session completion live attempts prime)
    (credential : CredentialKept session completion) (fits : Fits live attempts prime) :
    Counted Value.Encodable session (findings session completion) := by
  obtain ⟨_, after, accounting⟩ := findings_of_accounts credential accounted
  obtain ⟨before, expected⟩ := delta_le accounted.unchanged
  have count {n : Nat} (bound : n ≤ live.requestsCompleted) : Value.Encodable (.int n) :=
    encodable_count (lt_of_le_of_lt bound fits.window)
  have successes : successCount attempts ≤ expectedRequests session.lane attempts := Nat.le_add_right _ _
  refine ⟨count before, fun other same => ?_, fun other same => ?_, ?_, ?_, ⟨by decide, fun _ found => found.elim⟩,
    ⟨by decide, fun _ found => found.elim⟩,
    fun first head n bound => ?_⟩
  · rw [after] at same
    cases same
    rw [accounted.unchanged.delta]
    exact ⟨count le_rfl, count expected⟩
  · rw [accounting] at same
    cases same
    exact count expected
  · rw [accounting]
    exact count (successes.trans expected)
  · rw [accounting]
    exact encodable_count fits.measured
  · rw [accounting] at head
    exact encodable_count (lt_of_le_of_lt bound (fits.first first head))

variable (hexDigests : HexDigests py)
include hexDigests

theorem writesPassed_iff : WritesPassed py wide session completion ↔ Passes session completion := by
  constructor
  · rintro ⟨written, document, completed, loaded, passed⟩
    obtain ⟨first, writable, _⟩ := complete_eq_some.mp completed
    obtain ⟨shown, loaded', status⟩ := @written_status py wide session completion hexDigests written completed
    have unfailed : (findings session completion).failure = none := by
      cases Option.some.inj (loaded.symm.trans loaded')
      cases failed : (findings session completion).failure with
      | none => rfl
      | some category =>
          have different : Value.str "passed" ≠ .str "failed" := by decide
          rw [failed, passed] at status
          exact absurd status different
    obtain ⟨credential, live, attempts, prime, accounted⟩ := accounts_of_findings unfailed
    refine ⟨first, writable, credential, live, attempts, prime, accounted, ?_⟩
    obtain ⟨_, after, accounting⟩ := findings_of_accounts credential accounted
    obtain ⟨primeSha256, firstSha256, hashed, printable, _⟩ :=
      @written_loaded py wide session completion hexDigests written completed
    obtain ⟨validAttempts, validPrime, _⟩ := accounts_of_account session.lane completion
    have primed := (recordSha256_exists validPrime).mp ⟨_, hashed.prime⟩
    have firsted := (recordSha256_exists fun first head => validAttempts first (List.mem_of_mem_head? head)).mp ⟨_, hashed.first⟩
    have window : (Value.obj (windowDocument _ _ _ _)).printable = true := printable_item printable "request_window"
    have accountedFirst : (Value.obj (firstDocument _ _)).printable = true := printable_item printable "first_attempt"
    rw [after] at window
    rw [accounting] at accountedFirst
    have answered : (Value.int live.requestsCompleted).printable = true := printable_item window "after"
    have measured : (Value.int attempts.length).printable = true := printable_item accountedFirst "measured_count"
    have same : account session.lane completion = _ := account_eq accounted.accounts
    rw [same] at primed firsted
    exact ⟨printable_nat.mp answered, printable_nat.mp measured, firsted, primed⟩
  · rintro ⟨first, writable, credential, live, attempts, prime, accounted, fits⟩
    obtain ⟨unfailed, after, accounting⟩ := findings_of_accounts credential accounted
    obtain ⟨validAttempts, validPrime, _⟩ := accounts_of_account session.lane completion
    have same : account session.lane completion = _ := account_eq accounted.accounts
    rw [same] at validAttempts validPrime
    obtain ⟨primeSha256, primed⟩ := (@recordSha256_exists py _ validPrime).mpr fits.primed
    obtain ⟨firstSha256, firsted⟩ := (@recordSha256_exists py attempts.head? fun first head =>
      validAttempts first (List.mem_of_mem_head? head)).mpr fits.first
    have hashed : Hashed py (findings session completion) primeSha256 firstSha256 :=
      ⟨by rw [accounting]; exact primed, by rw [accounting]; exact firsted⟩
    have tidy := tidy_record hexDigests hashed
    have printable := (structural_record encodable_structural (encodable_counted accounted credential fits)
      (worded_findings hexDigests hashed)).1
    have replaced := (atomicReplaceJsonl_tidy tidy).mpr ⟨printable, rfl⟩
    have completed := complete_eq_some.mpr ⟨first, writable, _, evidenceRecord_eq_ok.mpr ⟨_, _, hashed, rfl⟩, replaced⟩
    obtain ⟨document, loaded, status⟩ := @written_status py wide session completion hexDigests _ completed
    rw [unfailed] at status
    exact ⟨_, document, completed, loaded, status⟩

end

/-! ## Reading it back -/

theorem natural?_int (n : Nat) : natural? (.int n) = some n := natural?_eq_some.mpr rfl

theorem valid_window {before live : LiveIdentity} {expected : Nat} (unchanged : Unchanged before live expected)
    {attempts : List Attempt} (successes : successCount attempts ≤ expected) :
    validModelRequestWindow (.obj (Object.canonical (windowDocument before (some live) (some expected) attempts))) = true := by
  have nodup : (Object.keys (windowDocument before (some live) (some expected) attempts)).Nodup :=
    (by decide : (["before", "after", "delta", "expected", "successful_measured"] : List Text).Nodup)
  have read := item_canonical nodup
  have beforeAt : item (windowDocument before (some live) (some expected) attempts).canonical "before" =
    .int before.requestsCompleted := read _
  have afterAt : item (windowDocument before (some live) (some expected) attempts).canonical "after" =
    .int live.requestsCompleted := read _
  have deltaAt : item (windowDocument before (some live) (some expected) attempts).canonical "delta" = .int expected :=
    (read _).trans (congrArg Value.int unchanged.delta)
  have expectedAt : item (windowDocument before (some live) (some expected) attempts).canonical "expected" = .int expected := read _
  have successesAt : item (windowDocument before (some live) (some expected) attempts).canonical "successful_measured" =
    .int (successCount attempts) := read _
  have counted := unchanged.delta
  unfold requestDelta at counted
  simp only [validModelRequestWindow, sameKeys_canonical, beforeAt, afterAt, deltaAt, expectedAt, successesAt, natural?_int,
    counted, decide_true, Bool.and_true, Bool.true_and, Bool.and_eq_true, decide_eq_true_eq]
  exact ⟨sameKeys_of_keys rfl, successes⟩

/-- A digest or nothing. -/
theorem optionalSha256_text {digest : Option Text} (hex : ∀ kept ∈ digest, isSha256 (some (.str kept)) = true) :
    optionalSha256 (optionalText digest).canonical = true := by
  cases digest with
  | none => rfl
  | some kept => exact Bool.or_eq_true_iff.mpr (.inr (hex kept rfl))

theorem optionalText_ne_null {text : Option Text} : (optionalText text).canonical ≠ .null ↔ text.isSome = true := by
  cases text with
  | none => exact iff_of_false (fun different => different rfl) Bool.false_ne_true
  | some _ => exact iff_of_true (fun same => by cases same) rfl

theorem valid_prime {prime : Option Attempt} {digest : Option Text} (same : digest.isSome = prime.isSome)
    (hex : ∀ kept ∈ digest, isSha256 (some (.str kept)) = true) (valid : ∀ primed ∈ prime, primed.Valid) :
    validModelPrime (.obj (Object.canonical (primeDocument digest prime))) = true := by
  have nodup : (Object.keys (primeDocument digest prime)).Nodup :=
    (by decide : (["record_sha256", "count", "request_digest"] : List Text).Nodup)
  have read := item_canonical nodup
  have digestAt : item (primeDocument digest prime).canonical "record_sha256" = (optionalText digest).canonical := read _
  have countAt : item (primeDocument digest prime).canonical "count" = .int (if prime.isSome then 1 else 0) := read _
  have requestAt : item (primeDocument digest prime).canonical "request_digest" =
    (optionalText (prime.map Attempt.requestDigest)).canonical := read _
  have request : ∀ kept ∈ prime.map Attempt.requestDigest, isSha256 (some (.str kept)) = true := by
    intro kept member
    obtain ⟨primed, found, rfl⟩ := Option.mem_map.mp member
    exact (valid primed found).digest
  simp only [validModelPrime, sameKeys_canonical, digestAt, countAt, requestAt, optionalSha256_text hex,
    optionalSha256_text request, optionalText_ne_null, Option.isSome_map, same, and_self, Bool.and_true]
  cases prime with
  | none => rfl
  | some _ => rfl

theorem valid_first {attempts : List Attempt} {digest : Option Text} (same : digest.isSome = attempts.head?.isSome)
    (hex : ∀ kept ∈ digest, isSha256 (some (.str kept)) = true) (valid : ∀ attempt ∈ attempts, attempt.Valid) :
    validModelFirstAttempt (.obj (Object.canonical (firstDocument digest attempts))) = true := by
  have nodup : (Object.keys (firstDocument digest attempts)).Nodup := (by decide : firstAttemptKeys.Nodup)
  have read := item_canonical nodup
  have digestAt : item (firstDocument digest attempts).canonical "record_sha256" = (optionalText digest).canonical := read _
  have statusAt : item (firstDocument digest attempts).canonical "status" =
    (optionalText (attempts.head?.map Attempt.status)).canonical := read _
  have measuredAt : item (firstDocument digest attempts).canonical "measured_count" = .int attempts.length := read _
  have successesAt : item (firstDocument digest attempts).canonical "successful_count" = .int (successCount attempts) := read _
  have promptAt : item (firstDocument digest attempts).canonical "prompt_tokens" =
    (optionalCount (attempts.head?.map Attempt.promptTokens)).canonical := read _
  have cachedAt : item (firstDocument digest attempts).canonical "cached_tokens" =
    (optionalCount (attempts.head?.map Attempt.cachedTokens)).canonical := read _
  have prefillAt : item (firstDocument digest attempts).canonical "new_prefill_tokens" =
    (optionalCount (attempts.head?.map Attempt.newPrefillTokens)).canonical := read _
  have successes : successCount attempts ≤ attempts.length := List.countP_le_length
  simp only [validModelFirstAttempt, sameKeys_canonical,
    sameKeys_of_keys (show Object.keys (firstDocument digest attempts) = firstAttemptKeys from rfl), digestAt, statusAt, measuredAt,
    successesAt, promptAt, cachedAt, prefillAt, natural?_int, optionalSha256_text hex, decide_eq_true successes, Bool.true_and,
    Bool.and_true]
  cases attempts with
  | nil =>
      cases digest with
      | none => rfl
      | some _ => cases same
  | cons first rest =>
      cases digest with
      | none => cases same
      | some kept =>
          have status := (valid first List.mem_cons_self).status
          simp only [List.mem_cons, List.not_mem_nil, or_false] at status
          rcases status with named | named <;> simp [optionalCount, optionalText, Value.canonical, natural?_int, named]

/-! ### Checks -/

theorem checks_bool {checks : Checks} : ∀ field ∈ checks.document, ∃ b, field.2 = .bool b := by
  simp [Checks.document]

theorem valid_checks {checks : Checks} (all : ∀ field ∈ checks.document, field.2 = .bool true) :
    validModelChecks (.obj (Object.canonical checks.document)) = true := by
  rw [validModelChecks, sameKeys_canonical, sameKeys_of_keys (show Object.keys checks.document = checkKeys from rfl),
    Bool.true_and, List.all_eq_true]
  intro field member
  obtain ⟨original, inside, rfl⟩ := Object.mem_canonical member
  exact decide_eq_true (congrArg Value.canonical (all original inside))

/-! ### The whole file -/

section
variable {py : Python} {wide : JsonEncoding → Bytes → Option Text} {sha256 : Bytes → Text} {session : ModelEvidenceSession}
  {completion : Completion} (hexDigests : HexDigests py)
include hexDigests

/-- The reader accepts passed evidence for the hashes of its session. -/
theorem loadModelEvidence_passed {written : Bytes} {document : Object}
    (completed : (session.complete py completion).1 = some written) (loaded : loadUnique py wide written = some (.obj document))
    (passed : item document "status" = .str "passed") {contract : Option Text}
    (same : ∀ expected ∈ contract, expected = session.contractSha256.hex) :
    loadModelEvidence py wide sha256 written session.stage session.manifestSha256.hex session.identitySha256.hex contract =
      some ⟨session.stage, session.manifestSha256.hex, session.identitySha256.hex, .str session.contractSha256.hex,
        .str session.before.runtimeInstanceSha256.hex, sha256 written⟩ := by
  obtain ⟨_, _, credential, live, attempts, prime, accounted, _⟩ :=
    (writesPassed_iff hexDigests).mp ⟨written, document, completed, loaded, passed⟩
  obtain ⟨unfailed, after, accounting⟩ := findings_of_accounts credential accounted
  obtain ⟨primeSha256, firstSha256, hashed, _, loaded'⟩ :=
    @written_loaded py wide session completion hexDigests written completed
  obtain ⟨primeSame, primeHex⟩ := recordSha256_hex hexDigests hashed.prime
  obtain ⟨firstSame, firstHex⟩ := recordSha256_hex hexDigests hashed.first
  have worded := worded_findings hexDigests hashed
  rw [Value.obj.inj (Option.some.inj (loaded.symm.trans loaded'))] at passed
  have read := item_canonical (tidy_record hexDigests hashed).1.1
  generalize kept : Object.canonical (evidenceFields session (findings session completion) primeSha256 firstSha256) = record at *
  have keys : Core.sameKeys record evidenceKeys = true := by
    rw [← kept, sameKeys_canonical]
    exact sameKeys_of_keys rfl
  have schema : item record "schema_version" = .str "1.0" := read _
  have recordType : item record "record_type" = .str "qualification_model_cache_evidence" := read _
  have stage : item record "stage" = .str session.stage.name := read _
  have category : item record "failure_category" = .null := by
    have shown : item record "failure_category" = (optionalText (findings session completion).failure).canonical := read _
    rw [shown, unfailed]
    rfl
  have manifest : item record "run_manifest_sha256" = .str session.manifestSha256.hex := read _
  have identity : item record "model_identity_sha256" = .str session.identitySha256.hex := read _
  have contractAt : item record "model_contract_sha256" = .str session.contractSha256.hex := read _
  have instance_ : item record "runtime_instance_sha256" = .str session.before.runtimeInstanceSha256.hex := read _
  have beforeAt : item record "live_before_sha256" = .str session.before.liveSha256.hex := read _
  have afterAt : item record "live_after_sha256" = .str live.liveSha256.hex := by
    have shown : item record "live_after_sha256" =
      (optionalText ((findings session completion).after.map fun after => after.liveSha256.hex)).canonical := read _
    rw [shown, after]
    rfl
  have window : validModelRequestWindow (item record "request_window") = true := by
    have shown : item record "request_window" = .obj (Object.canonical (windowDocument session.before _ _ _)) := read _
    rw [shown, after, accounting]
    exact valid_window accounted.unchanged (Nat.le_add_right _ _)
  have primed : validModelPrime (item record "prime") = true := by
    rw [read]
    exact valid_prime primeSame primeHex worded.prime
  have attempted : validModelFirstAttempt (item record "first_attempt") = true := by
    rw [read]
    exact valid_first firstSame firstHex worded.attempts
  have checked : validModelChecks (item record "checks") = true := by
    rw [read]
    exact valid_checks (checks_iff.mp unfailed)
  have contracted : (contract.all fun expected => isSha256 (some (.str expected)) &&
      decide (Value.str session.contractSha256.hex = .str expected)) = true := by
    cases contract with
    | none => rfl
    | some expected =>
        rw [same expected rfl]
        simp [session.contractSha256.valid]
  simp only [loadModelEvidence, loaded', Option.bind_eq_bind, Option.bind_some, Value.asObject?, keys, schema, recordType, stage,
    passed, category, manifest, identity, contractAt, instance_, beforeAt, afterAt, window, primed, attempted, checked, contracted,
    session.manifestSha256.valid, session.identitySha256.valid, session.contractSha256.valid,
    session.before.runtimeInstanceSha256.valid, session.before.liveSha256.valid, live.liveSha256.valid, guard, if_true, and_self]
  rfl

/-- The status of the file goes with its checks. -/
def StatusMatches (document : Object) : Prop :=
  ∃ checks, item document "checks" = .obj checks ∧
    ((item document "status" = .str "passed" ∧ ∀ key ∈ checkKeys, item checks key = .bool true) ∨
      (item document "status" = .str "failed" ∧ ∃ key ∈ checkKeys, item checks key = .bool false))

theorem written_matches {written : Bytes} {document : Object} (completed : (session.complete py completion).1 = some written)
    (loaded : loadUnique py wide written = some (.obj document)) : StatusMatches document := by
  obtain ⟨primeSha256, firstSha256, hashed, _, loaded'⟩ :=
    @written_loaded py wide session completion hexDigests written completed
  rw [Value.obj.inj (Option.some.inj (loaded.symm.trans loaded'))]
  have read := item_canonical (tidy_record hexDigests hashed).1.1
  let checks := (findings session completion).checks.document
  have nodup : (Object.keys checks).Nodup := (by decide : checkKeys.Nodup)
  have status : item (Object.canonical (evidenceFields session (findings session completion) primeSha256 firstSha256)) "status" =
    .str (if (findings session completion).failure.isSome then "failed" else "passed") := read _
  have each : ∀ field ∈ checks, item (Object.canonical checks) field.1 = field.2.canonical := by
    intro field member
    rw [item_canonical nodup, item, Value.get?_of_mem nodup member]
    rfl
  refine ⟨Object.canonical checks, read "checks", ?_⟩
  cases failed : (findings session completion).failure with
  | none =>
      rw [failed] at status
      refine .inl ⟨status, fun key member => ?_⟩
      have listed : key ∈ checks.map Prod.fst := member
      obtain ⟨field, inside, rfl⟩ := List.mem_map.mp listed
      rw [each field inside, checks_iff.mp failed field inside]
      rfl
  | some category =>
      have notAll : ¬ ∀ field ∈ checks, field.2 = .bool true := fun all => by
        rw [checks_iff.mpr all] at failed
        cases failed
      push Not at notAll
      obtain ⟨field, inside, different⟩ := notAll
      obtain ⟨b, same⟩ := checks_bool field inside
      have listed : field.1 ∈ checks.map Prod.fst := List.mem_map_of_mem inside
      rw [failed] at status
      refine .inr ⟨status, field.1, listed, ?_⟩
      rw [each field inside, same]
      cases b with
      | false => rfl
      | true => exact absurd same different

end

/-- Evidence passes exactly when the attempts account for the requests; passed
evidence can be loaded, and a status never contradicts its checks. -/
theorem model_evidence_settled {py : Python} (hexDigests : HexDigests py) (wide : JsonEncoding → Bytes → Option Text)
    (sha256 : Bytes → Text) (session : ModelEvidenceSession) (completion : Completion) :
    (WritesPassed py wide session completion ↔ Passes session completion) ∧
      ∀ written, (session.complete py completion).1 = some written →
        ∃ document, loadUnique py wide written = some (.obj document) ∧ StatusMatches document ∧
          (item document "status" = .str "passed" → ∀ contract : Option Text,
            (∀ expected ∈ contract, expected = session.contractSha256.hex) →
            loadModelEvidence py wide sha256 written session.stage session.manifestSha256.hex session.identitySha256.hex contract =
              some ⟨session.stage, session.manifestSha256.hex, session.identitySha256.hex, .str session.contractSha256.hex,
                .str session.before.runtimeInstanceSha256.hex, sha256 written⟩) := by
  refine ⟨writesPassed_iff hexDigests, fun written completed => ?_⟩
  obtain ⟨document, loaded, _⟩ := @written_status py wide session completion hexDigests written completed
  exact ⟨document, loaded, written_matches hexDigests completed loaded,
    fun passed _ same => loadModelEvidence_passed hexDigests completed loaded passed same⟩

/-! ## One attempt in the cold lane -/

def zeroDigest : Digest := ⟨List.replicate 64 (codePoint '0'), by decide⟩

def identityAt (requestsCompleted : Nat) : LiveIdentity := ⟨zeroDigest, zeroDigest, zeroDigest, requestsCompleted⟩

def coldSession (apiKey : Option Text) : ModelEvidenceSession :=
  ⟨.cold, .scoreDirect, zeroDigest, zeroDigest, zeroDigest, apiKey, identityAt 0, false⟩

def isolatedAttempt (tokens : Nat) : Attempt :=
  ⟨zeroDigest.hex, "succeeded", tokens, 0, tokens, "none", false, 0, false, true, false⟩

def isolatedRecord (tokens : Nat) : SafeAttemptRecord :=
  ⟨.str zeroDigest.hex, .str "succeeded", .int tokens, .int 0, .int tokens, .str "none", .bool false, .int 0, .bool false,
    .bool true, .bool false⟩

def coldCompletion (tokens : Nat) : Completion :=
  ⟨some [.record (isolatedRecord tokens)], none, .ok "new", .ok (identityAt 1), none⟩

theorem isolated_typed (tokens : Nat) : (isolatedRecord tokens).typed = some (isolatedAttempt tokens) := by
  have succeeded : ("succeeded" : Text) ∈ (["succeeded", "failed"] : List Text) := by decide
  have none_ : ("none" : Text) ∈ (["none", "ram", "ssd"] : List Text) := by decide
  have zero : natural? (.int 0) = some 0 := rfl
  simp only [SafeAttemptRecord.typed, isolatedRecord, Value.asString?, asBool?, natural?_int, zero, zeroDigest.valid, guard,
    if_pos succeeded, if_pos none_, if_true, Option.bind_eq_bind, Option.bind_some]
  rfl

theorem cold_accounts (apiKey : Option Text) (tokens : Nat) :
    AccountsFor (coldSession apiKey) (coldCompletion tokens) (identityAt 1) [isolatedAttempt tokens] none := by
  have uncached : ("none" : Text) ≠ "ssd" := by decide
  have consistent : (isolatedAttempt tokens).consistent = true := by simp [isolatedAttempt, Attempt.consistent, uncached]
  have validates : Validates (.record (isolatedRecord tokens)) (isolatedAttempt tokens) := by
    refine ⟨_, rfl, ?_⟩
    rw [validateAttempt, isolated_typed]
    exact if_pos consistent
  refine ⟨⟨⟨_, rfl, .cons validates .nil⟩, .none, rfl, ?_⟩, rfl, rfl, rfl⟩
  simp [isolatedAttempt, Attempt.isolated]

/-- With a small attempt and without a credential the evidence passes. -/
theorem model_evidence_settled_cold : WritesPassed .reference (fun _ _ => none) (coldSession none) (coldCompletion 7) := by
  have fits : Fits (identityAt 1) [isolatedAttempt 7] none := by
    have small : ∀ n < 10, Countable n := fun n bound => lt_of_lt_of_le bound (Nat.le_self_pow (by decide) 10)
    refine ⟨small 1 (by decide), small 1 (by decide), fun first head => ?_, fun _ member => by cases member⟩
    cases head
    exact small 7 (by decide)
  exact (model_evidence_settled hexDigests_reference (fun _ _ => none) (fun _ => []) _ _).1.mpr
    ⟨rfl, rfl, fun _ absent => (by cases absent), _, _, _, cold_accounts none 7, fits⟩

theorem cold_uncountable {tokens : Nat} (large : ¬ Countable tokens) :
    ¬ WritesPassed .reference (fun _ _ => none) (coldSession none) (coldCompletion tokens) := by
  intro passed
  obtain ⟨_, attempts, prime, accounted, fits⟩ := ((writesPassed_iff hexDigests_reference).mp passed).accounted
  have same := (account_eq accounted.accounts).symm.trans (account_eq (cold_accounts none tokens).accounts)
  have listed : attempts = [isolatedAttempt tokens] := congrArg Accounting.attempts same
  rw [listed] at fits
  exact large (fits.first _ rfl)

/-- The attempts account for the requests, but the credential was replaced, or a
count is too long to be written. -/
theorem accounted_not_passed :
    (AccountsFor (coldSession (some "old")) (coldCompletion 7) (identityAt 1) [isolatedAttempt 7] none ∧
      ¬ WritesPassed .reference (fun _ _ => none) (coldSession (some "old")) (coldCompletion 7)) ∧
    (AccountsFor (coldSession none) (coldCompletion (10 ^ maxStrDigits)) (identityAt 1)
        [isolatedAttempt (10 ^ maxStrDigits)] none ∧
      ¬ WritesPassed .reference (fun _ _ => none) (coldSession none) (coldCompletion (10 ^ maxStrDigits))) := by
  refine ⟨⟨cold_accounts _ _, fun passed => ?_⟩, cold_accounts _ _, cold_uncountable (Nat.lt_irrefl _)⟩
  have kept := ((writesPassed_iff hexDigests_reference).mp passed).credential "old" rfl
  have different : ("new" : Text) ≠ "old" := by decide
  exact different (Except.ok.inj kept)

end HarnessProxy.Evidence.Model

import HarnessProxy.Core.Contract
import HarnessProxy.Json.Numeral
import HarnessProxy.Projection.Decision

namespace HarnessProxy.Projection

open HarnessProxy.Json HarnessProxy.Core HarnessProxy.Transcript

/-! # The projected answer passes the terminal gate -/

/-! ## The answer parses to what it says -/

/-- Characters that a JSON string shows as they are. -/
def isPlain (c : CodePoint) : Bool :=
  c ≠ codePoint '"' && c ≠ codePoint '\\' && 0x20 ≤ c.val && c.val ≤ 0x7e

theorem quote_plain {text : Text} (plain : text.all isPlain = true) :
    quote text = codePoint '"' :: (text ++ [codePoint '"']) := by
  rw [quote]
  congr 2
  induction text with
  | nil => rfl
  | cons c rest ih =>
      simp only [List.all_cons, Bool.and_eq_true] at plain
      have escaped : escapeChar c = [c] := by
        simp only [isPlain, Bool.and_eq_true, decide_eq_true_eq] at plain
        obtain ⟨⟨⟨⟨notQuote, notBackslash⟩, low⟩, high⟩, _⟩ := plain
        simp only [escapeChar, notQuote, notBackslash, if_false]
        rw [if_neg (by omega), if_neg (by omega), if_neg (by omega), if_neg (by omega), if_neg (by omega),
          if_pos ⟨low, high⟩]
      rw [List.flatMap_cons, escaped, ih plain.2, List.singleton_append]

theorem scanString_plain {text rest : Text} (plain : text.all isPlain = true) :
    scanString (.plain none) (text ++ codePoint '"' :: rest) = .ok (text, rest) := by
  induction text with
  | nil => simp [scanString, release]
  | cons c others ih =>
      simp only [List.all_cons, Bool.and_eq_true] at plain
      have tail := ih plain.2
      simp only [isPlain, Bool.and_eq_true, decide_eq_true_eq] at plain
      obtain ⟨⟨⟨⟨notQuote, notBackslash⟩, low⟩, high⟩, _⟩ := plain
      have printable : ¬ c.val ≤ 0x1f := by omega
      simp [scanString, notQuote, notBackslash, printable, tail, prepend, release]

/-- The text of a summary with a tail in place of the number. -/
def summaryText (tail : Text) : Text :=
  codePoint '{' :: codePoint '"' :: (Text.literal "status" ++ codePoint '"' :: codePoint ':' ::
    codePoint '"' :: (Text.literal "passed" ++ codePoint '"' :: codePoint ',' ::
    codePoint '"' :: (Text.literal "tests" ++ codePoint '"' :: codePoint ':' :: tail)))

def summaryTree (tests : Nat) : Syntax := .obj [("status", .str "passed"), ("tests", .int tests)]

theorem dumps_summaryValue (tests : Nat) :
    dumps false (.obj (summaryValue tests)) = summaryText (Text.ofNat tests ++ [codePoint '}']) := by
  have numeral : Text.ofInt (tests : Int) = Text.ofNat tests := by
    simp [Text.ofInt, Int.not_lt.mpr (Int.natCast_nonneg tests)]
  have comma : Text.literal "," = [codePoint ','] := rfl
  simp [summaryValue, dumps, dumpsFields, numeral, orderFields, Text.join, List.intercalate, summaryText,
    comma, quote_plain (show (Text.literal "status").all isPlain = true by decide),
    quote_plain (show (Text.literal "passed").all isPlain = true by decide),
    quote_plain (show (Text.literal "tests").all isPlain = true by decide)]

theorem endsNumeral_brace : EndsNumeral (codePoint '}') := by
  refine ⟨by decide, by decide, by decide, by decide⟩

theorem skipSpace_ofNat (tests : Nat) (rest : Text) :
    skipSpace (Text.ofNat tests ++ rest) = Text.ofNat tests ++ rest := by
  obtain ⟨first, others, shape, _⟩ := ofNat_head tests
  have digit : isDigit first = true := ofNat_isDigit (n := tests) (by rw [shape]; simp)
  have notSpace : ¬ isJsonSpace first = true := by
    intro space
    have width := isSpace_of_isDigit digit
    rw [isSpace_of_isJsonSpace space] at width
    cases width
  rw [shape, List.cons_append, skipSpace, List.dropWhile_cons_of_neg notSpace]

theorem skipSpace_cons {c : CodePoint} (rest : Text) (notSpace : isJsonSpace c = false) :
    skipSpace (c :: rest) = c :: rest := by
  rw [skipSpace, List.dropWhile_cons_of_neg (by simp [notSpace])]

/-- The fields of the summary, one after the other. -/
theorem parseValue_summary {tests fuel : Nat} (short : (Text.ofNat tests).length ≤ maxStrDigits) :
    parseValue (fuel + 4) (summaryText (Text.ofNat tests ++ [codePoint '}'])) =
      .ok (summaryTree tests, []) := by
  have quoteSolid : isJsonSpace (codePoint '"') = false := by decide
  have colonSolid : isJsonSpace (codePoint ':') = false := by decide
  have commaSolid : isJsonSpace (codePoint ',') = false := by decide
  have braceSolid : isJsonSpace (codePoint '}') = false := by decide
  have last : parseMembers (fuel + 2) (codePoint '"' :: (Text.literal "tests" ++ codePoint '"' ::
      codePoint ':' :: (Text.ofNat tests ++ [codePoint '}']))) = .ok ([("tests", .int tests)], []) := by
    simp [parseMembers, scanString_plain (show (Text.literal "tests").all isPlain = true by decide),
      skipSpace_cons _ colonSolid, skipSpace_cons _ braceSolid, skipSpace_ofNat,
      parseValue_ofNat endsNumeral_brace short]
  have passed (tail : Text) : parseValue (fuel + 2) (codePoint '"' :: (Text.literal "passed" ++
      codePoint '"' :: tail)) = .ok (.str "passed", tail) := by
    simp [parseValue, scanString_plain (show (Text.literal "passed").all isPlain = true by decide)]
  have notBrace : codePoint '{' ≠ codePoint '"' := by decide
  have notBracket : codePoint '{' ≠ codePoint '[' := by decide
  have notClosed : codePoint '"' ≠ codePoint '}' := by decide
  have notEnd : codePoint ',' ≠ codePoint '}' := by decide
  have members : parseMembers (fuel + 3) (codePoint '"' :: (Text.literal "status" ++ codePoint '"' ::
      codePoint ':' :: codePoint '"' :: (Text.literal "passed" ++ codePoint '"' :: codePoint ',' ::
      codePoint '"' :: (Text.literal "tests" ++ codePoint '"' :: codePoint ':' ::
      (Text.ofNat tests ++ [codePoint '}']))))) =
      .ok ([("status", .str "passed"), ("tests", .int tests)], []) := by
    simp [parseMembers.eq_def (fuel + 3),
      scanString_plain (show (Text.literal "status").all isPlain = true by decide),
      skipSpace_cons _ colonSolid, skipSpace_cons _ quoteSolid, skipSpace_cons _ commaSolid, passed, last,
      notEnd]
  simp [parseValue.eq_def (fuel + 4), summaryText, notBrace, notBracket, skipSpace_cons _ quoteSolid,
    notClosed, members, summaryTree]

theorem parseDocument_summary {tests : Nat} (short : (Text.ofNat tests).length ≤ maxStrDigits) :
    parseDocument (dumps false (.obj (summaryValue tests))) = .ok (summaryTree tests) := by
  rw [dumps_summaryValue]
  obtain ⟨fuel, enough⟩ : ∃ fuel,
      parseFuel (summaryText (Text.ofNat tests ++ [codePoint '}'])) = fuel + 4 := by
    refine ⟨2 * (summaryText (Text.ofNat tests ++ [codePoint '}'])).length - 2, ?_⟩
    simp only [parseFuel, summaryText, List.length_cons, List.length_append]
    omega
  have solid : skipSpace (summaryText (Text.ofNat tests ++ [codePoint '}'])) =
      summaryText (Text.ofNat tests ++ [codePoint '}']) := skipSpace_cons _ (by decide)
  rw [parseDocument, enough, solid, parseValue_summary short]
  rfl

/-! ## The number is the one in the tool result -/

/-- The tool result reads `<tests> passed`, with whitespace around it. -/
structure SummaryOf (py : Python) (result : Text) (tests : Nat) (digits : Text) : Prop where
  shape : ∃ before between word after, result = before ++ digits ++ between ++ word ++ after ∧
    (∀ c ∈ before, Text.isSpace c = true) ∧ (∀ c ∈ between, Text.isSpace c = true) ∧ between ≠ [] ∧
    Text.matchWord "passed" word = some [] ∧ ∀ c ∈ after, Text.isSpace c = true
  nonempty : digits ≠ []
  decimal : ∀ c ∈ digits, (py.decimal c).isSome = true
  value : py.parseInt digits = .ok tests

theorem matchWord_split {word text rest : Text} (found : Text.matchWord word text = some rest) :
    ∃ taken, text = taken ++ rest ∧ Text.matchWord word taken = some [] := by
  induction word generalizing text with
  | nil =>
      cases found
      exact ⟨[], rfl, rfl⟩
  | cons letter others ih =>
      cases text with
      | nil => cases found
      | cons c text =>
          simp only [Text.matchWord] at found
          split at found
          · next here =>
            obtain ⟨taken, rfl, tail⟩ := ih found
            exact ⟨c :: taken, rfl, by simp [Text.matchWord, here, tail]⟩
          · cases found

theorem verificationSummary_spec {py : Python} {result digits : Text} {tests : Nat}
    (found : verificationSummary py result = some digits) (value : py.parseInt digits = .ok tests) :
    SummaryOf py result tests digits := by
  simp only [verificationSummary] at found
  split at found
  · next accepted =>
    cases found
    simp only [Bool.and_eq_true, decide_eq_true_eq, isPassedSuffix] at accepted
    obtain ⟨nonempty, spaced, word⟩ := accepted
    split at word
    · next rest matched =>
      obtain ⟨taken, split, exact⟩ := matchWord_split matched
      generalize afterSpace : result.dropWhile Text.isSpace = start at *
      generalize afterDigits : start.dropWhile (FailurePattern.isDecimal py) = suffix at *
      have whole := List.takeWhile_append_dropWhile (p := Text.isSpace) (l := suffix)
      refine ⟨⟨result.takeWhile Text.isSpace, suffix.takeWhile Text.isSpace, taken, rest, ?_, ?_, ?_, ?_,
        exact, ?_⟩, nonempty, ?_, value⟩
      · rw [List.append_assoc _ taken, ← split, List.append_assoc, whole, ← afterDigits, List.append_assoc,
          List.takeWhile_append_dropWhile, ← afterSpace, List.takeWhile_append_dropWhile]
      · exact fun c member => List.mem_takeWhile_imp member
      · exact fun c member => List.mem_takeWhile_imp member
      · intro empty
        rw [empty, List.nil_append] at whole
        rw [whole] at spaced
        exact Nat.lt_irrefl _ spaced
      · simpa using word
      · exact fun c member => List.mem_takeWhile_imp (p := FailurePattern.isDecimal py) member
    · cases word
  · cases found

theorem parseInt_length {py : Python} {digits : Text} {tests : Nat}
    (value : py.parseInt digits = .ok tests) : (Text.ofNat tests).length ≤ maxStrDigits := by
  simp only [Python.parseInt] at value
  split at value
  · cases value
  · next short =>
    have bound (total : Nat) : digits.foldl (fun total c => 10 * total + (py.decimal c).elim 0 Fin.val) total <
        (total + 1) * 10 ^ digits.length := by
      clear value short
      induction digits generalizing total with
      | nil => simp
      | cons c rest ih =>
          have digit : (py.decimal c).elim 0 Fin.val < 10 := by
            cases py.decimal c with
            | none => exact Nat.zero_lt_succ _
            | some d => exact d.isLt
          calc rest.foldl (fun total c => 10 * total + (py.decimal c).elim 0 Fin.val)
                (10 * total + (py.decimal c).elim 0 Fin.val)
              < (10 * total + (py.decimal c).elim 0 Fin.val + 1) * 10 ^ rest.length := ih _
            _ ≤ (10 * (total + 1)) * 10 ^ rest.length := Nat.mul_le_mul_right _ (by omega)
            _ = (total + 1) * 10 ^ (c :: rest).length := by rw [List.length_cons, Nat.pow_succ]; ring
    simp only [Except.ok.injEq] at value
    refine ofNat_length (by decide) ?_
    have below := bound 0
    rw [value, Nat.zero_add, Nat.one_mul] at below
    exact Nat.lt_of_lt_of_le below (Nat.pow_le_pow_right (by decide) (Nat.le_of_not_lt short))

/-! ## The gates agree -/

section
variable {py : Python} {harness : AgentHarness} {name result content : Text}

/-- What an eligible decision has checked. -/
theorem decideLocalProjection_content {decision : ProjectionDecision} {degraded blocked : Bool}
    (decided : decideLocalProjection py harness name result degraded blocked = .ok decision)
    (released : decision.content? = some content) :
    ledgerRejection harness name degraded blocked = none ∧ declaredSchema harness = some summarySchema ∧
      name ∈ harness.roles.verification ∧ ∃ digits tests, SummaryOf py result tests digits ∧
        content = dumps false (.obj (summaryValue tests)) := by
  simp only [decideLocalProjection, bind_eq_ok] at decided
  obtain ⟨shadow, candidate, decided⟩ := decided
  have eligible : shadow.eligible = true ∧ shadow.reason = ("proven_verifier_summary" : Text) ∧
      shadow.candidate.map CanonicalProjection.content = some content := by
    cases isEligible : shadow.eligible with
    | false =>
        simp only [isEligible, Bool.not_false, if_true, pure, Except.pure, Except.ok.injEq] at decided
        subst decided
        simp [ProjectionDecision.content?, isEligible] at released
    | true =>
        simp only [isEligible, Bool.not_true, Bool.false_eq_true, if_false] at decided
        split at decided
        · simp only [pure, Except.pure, Except.ok.injEq] at decided
          subst decided
          simp [ProjectionDecision.content?, rejected] at released
        · next reason =>
          simp only [pure, Except.pure, Except.ok.injEq] at decided
          subst decided
          exact ⟨rfl, by simpa using reason, by simpa [ProjectionDecision.content?] using released⟩
  obtain ⟨isEligible, reason, shown⟩ := eligible
  simp only [decideShadowCandidate] at candidate
  split at candidate
  · cases candidate
    cases isEligible
  · next accepted =>
    split at candidate
    · cases candidate
      cases isEligible
    · next schema declared =>
      simp only [bind_eq_ok] at candidate
      obtain ⟨proven, computed, candidate⟩ := candidate
      cases proven with
      | none =>
          have otherReason : ("exact_primitive_object" : Text) ≠ "proven_verifier_summary" := by
            decide
          dsimp only at candidate
          split at candidate
          · cases candidate
            cases isEligible
          · cases candidate
            exact absurd reason otherReason
      | some proven =>
          cases candidate
          simp only [Option.map_some, Option.some.injEq] at shown
          simp only [provenVerificationCandidate] at computed
          split at computed
          · cases computed
          · next gate =>
            have verification : name ∈ harness.roles.verification := by
              by_contra absent
              exact gate (Or.inl absent)
            have isSummary : schema = summarySchema := by
              by_contra other
              exact gate (Or.inr other)
            split at computed
            · cases computed
            · next digits found =>
              simp only [bind_eq_ok, pure, Except.pure, Except.ok.injEq, Option.some.injEq] at computed
              obtain ⟨tests, value, rfl⟩ := computed
              exact ⟨accepted, isSummary ▸ declared, verification, digits, tests,
                verificationSummary_spec found value, shown.symm⟩

/-- A ledger that may be projected is a ledger that may finish. -/
theorem ledgerIssue_of_projected {degraded blocked : Bool}
    (accepted : ledgerRejection harness name degraded blocked = none) :
    harness.ledgerIssue = none ∧ degraded = false ∧
      ∃ latest, harness.receipts.getLast? = some latest ∧ latest.tool = name := by
  simp only [ledgerRejection] at accepted
  split at accepted
  · cases accepted
  · next notDegraded =>
    split at accepted
    · cases accepted
    · next notBlocked =>
      split at accepted
      · cases accepted
      · next notPending =>
        split at accepted
        · cases accepted
        · next noFailure =>
          split at accepted
          · cases accepted
          · next latest found =>
            repeat' split at accepted
            all_goals try cases accepted
            next _ success _ sameTool =>
              have nonempty : harness.receipts.isEmpty = false := by
                cases shape : harness.receipts with
                | nil => simp [shape] at found
                | cons receipt rest => rfl
              simp only [Bool.or_eq_true, not_or, Bool.not_eq_true] at notBlocked
              refine ⟨?_, by simpa using notDegraded, latest, found, by simpa using sameTool⟩
              simp [AgentHarness.ledgerIssue, nonempty, notBlocked.2, found, not_not.mp success, noFailure,
                notPending]

/-- Declared types are listed with the keys that they belong to. -/
def TypesOfKeys (harness : AgentHarness) : Prop :=
  ∀ keys, harness.requiredJsonKeys = some keys → harness.requiredJsonTypes.map Prod.fst = keys

theorem declaredSchema_summary (aligned : TypesOfKeys harness)
    (declared : declaredSchema harness = some summarySchema) :
    harness.requiredJsonKeys = some (summarySchema.map Prod.fst) ∧
      harness.requiredJsonTypes = summarySchema := by
  simp only [declaredSchema] at declared
  split at declared
  · cases declared
  · next keys found =>
    split at declared
    · cases declared
    · split at declared
      · cases declared
      · simp only [Option.some.injEq] at declared
        have keysShape : keys = summarySchema.map Prod.fst := by
          rw [← declared, List.map_map]
          exact (List.map_id keys).symm
        have names := aligned keys found
        have different : (Text.literal "tests" == Text.literal "status") = false := by decide
        refine ⟨by rw [found, keysShape], ?_⟩
        rw [keysShape] at names declared
        match types : harness.requiredJsonTypes with
        | [(first, firstType), (second, secondType)] =>
            simp only [types, summarySchema, List.map_cons, List.map_nil, List.cons.injEq] at names
            obtain ⟨rfl, rfl, _⟩ := names
            simpa [types, summarySchema, List.lookup_cons, different] using declared
        | [] => simp [types, summarySchema] at names
        | [_] => simp [types, summarySchema] at names
        | _ :: _ :: _ :: _ => simp [types, summarySchema] at names

theorem summary_solid (tests : Nat) : Text.Solid (dumps false (.obj (summaryValue tests))) := by
  constructor
  · exact ⟨codePoint '{', _, rfl, by decide⟩
  · rw [dumps]
    exact ⟨_, codePoint '}', by rw [← List.cons_append], by decide⟩

/-- The projected answer parses to the projected value. -/
theorem loads_summary {tests : Nat} (short : (Text.ofNat tests).length ≤ maxStrDigits) :
    loads py (dumps false (.obj (summaryValue tests))) = .ok (.obj (summaryValue tests)) := by
  have different : Text.literal "tests" ≠ Text.literal "status" := by decide
  rw [loads, parseDocument_summary short]
  simp [Except.map, summaryTree, Syntax.value, memberValues, Object.assign, different.symm, summaryValue]

/-- The projected value has the declared keys and types. -/
theorem summary_conforms (tests : Nat) :
    Conforms (summarySchema.map Prod.fst) summarySchema (summaryValue tests) := by
  have different : Text.literal "status" ≠ Text.literal "tests" := by decide
  have isString : matchesJsonType (.str "passed") "string" = .ok true := by decide
  have isInteger : matchesJsonType (.int tests) "integer" = .ok true := by
    have notString : Text.literal "integer" ≠ Text.literal "string" := by decide
    simp [matchesJsonType, notString]
  constructor
  · intro key
    simp [summaryValue, summarySchema]
  · simp [summaryValue, summarySchema, Object.get?_cons, different, isString, isInteger]

theorem strip_summary (tests : Nat) :
    Text.strip (dumps false (.obj (summaryValue tests))) = dumps false (.obj (summaryValue tests)) := by
  have stripped : Text.strip ([] ++ dumps false (.obj (summaryValue tests)) ++ []) = _ :=
    Text.strip_of_frame (by simp) (by simp) (summary_solid tests)
  simpa using stripped

/-- The projected answer is strict JSON. -/
theorem strictText_summary {tests : Nat} (short : (Text.ofNat tests).length ≤ maxStrDigits) :
    StrictText (dumps false (.obj (summaryValue tests))) (summaryTree tests) := by
  have different : Text.literal "status" ≠ Text.literal "tests" := by decide
  refine strictText_iff.mpr ⟨?_, ⟨[], [], by simp [strip_summary], by simp, by simp⟩, ?_⟩
  · rw [strip_summary]
    exact parseDocument_summary short
  · simp [summaryTree, Syntax.Strict, StrictMembers, different]

/-- The terminal gate accepts every answer that is projected. -/
theorem terminalIssue_of_projected {tests : Nat} {digits : Text} {degraded blocked : Bool}
    (aligned : TypesOfKeys harness) (accepted : ledgerRejection harness name degraded blocked = none)
    (declared : declaredSchema harness = some summarySchema) (summary : SummaryOf py result tests digits) :
    harness.terminalIssue py (dumps false (.obj (summaryValue tests))) = .ok none := by
  obtain ⟨keys, types⟩ := declaredSchema_summary aligned declared
  have parsed : loads py (dumps false (.obj (summaryValue tests))) = _ :=
    loads_summary (parseInt_length summary.value)
  have noClaim : harness.claimIssue (some (.obj (summaryValue tests))) = none := by
    have absent : Object.get? (summaryValue tests) "failed_executions" = none := by
      have first : Text.literal "status" ≠ Text.literal "failed_executions" := by decide
      have second : Text.literal "tests" ≠ Text.literal "failed_executions" := by decide
      simp [summaryValue, Object.get?_cons, first, second]
    simp [AgentHarness.claimIssue, absent]
  obtain ⟨sameKeys, noType⟩ := (conforms_iff rfl).mp (summary_conforms tests)
  have nonempty : dumps false (.obj (summaryValue tests)) ≠ [] := by
    obtain ⟨c, rest, shape, _⟩ := (summary_solid tests).head
    simp [shape]
  simp [AgentHarness.terminalIssue, (ledgerIssue_of_projected accepted).1, strip_summary, parsed, noClaim,
    keys, types, bareJsonIssue, nonempty, sameKeys, noType, bind, Except.bind, pure, Except.pure]

end

end HarnessProxy.Projection

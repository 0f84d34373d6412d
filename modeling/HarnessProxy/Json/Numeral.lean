import HarnessProxy.Json.Strict
import Mathlib.Data.Nat.Digits.Lemmas

namespace HarnessProxy.Json

/-! # Decimal numerals

The text of a natural number is read back as that number.
-/

theorem isDigit_digitChar (digit : Nat) : isDigit (Text.digitChar digit) = true := by
  have bound : digit % 10 < 10 := Nat.mod_lt _ (by decide)
  have value : (Text.digitChar digit).val = 0x30 + digit % 10 := by
    simp only [Text.digitChar, chr_val]
    omega
  simp only [isDigit, value, Bool.and_eq_true, decide_eq_true_eq]
  change 48 ≤ 48 + digit % 10 ∧ 48 + digit % 10 ≤ 57
  omega

theorem digitValue_digitChar (digit : Nat) : digitValue (Text.digitChar digit) = digit % 10 := by
  have bound : digit % 10 < 10 := Nat.mod_lt _ (by decide)
  simp only [digitValue, Text.digitChar, chr_val]
  omega

theorem ofNat_eq {n : Nat} (positive : n ≠ 0) :
    Text.ofNat n = (Nat.digits 10 n).reverse.map Text.digitChar := if_neg positive

theorem ofNat_isDigit {n : Nat} {c : CodePoint} (member : c ∈ Text.ofNat n) : isDigit c = true := by
  by_cases zero : n = 0
  · simp only [Text.ofNat, zero, if_true, List.mem_singleton] at member
    rw [member]
    exact isDigit_digitChar 0
  · rw [ofNat_eq zero] at member
    obtain ⟨digit, _, rfl⟩ := List.mem_map.mp member
    exact isDigit_digitChar digit

theorem digitsValue_ofNat (n : Nat) : digitsValue (Text.ofNat n) = n := by
  by_cases zero : n = 0
  · subst zero
    decide
  · rw [ofNat_eq zero, digitsValue, List.foldl_map, List.foldl_reverse]
    have digits : ∀ digit ∈ Nat.digits 10 n, digit < 10 :=
      fun digit member => Nat.digits_lt_base (by decide) member
    calc (Nat.digits 10 n).foldr (fun digit total => 10 * total + digitValue (Text.digitChar digit)) 0
        = (Nat.digits 10 n).foldr (fun digit total => digit + 10 * total) 0 := by
          generalize Nat.digits 10 n = list at digits
          induction list with
          | nil => rfl
          | cons digit rest ih =>
              rw [List.foldr_cons, List.foldr_cons, ih fun other member => digits other (by simp [member]),
                digitValue_digitChar, Nat.mod_eq_of_lt (digits digit (by simp)), Nat.add_comm]
      _ = Nat.ofDigits 10 (Nat.digits 10 n) := (Nat.ofDigits_eq_foldr 10 _).symm
      _ = n := Nat.ofDigits_digits 10 n

/-- A numeral of more than one digit does not start with a zero. -/
theorem ofNat_head (n : Nat) : ∃ c rest, Text.ofNat n = c :: rest ∧ (c = codePoint '0' → rest = []) := by
  by_cases zero : n = 0
  · exact ⟨_, [], by rw [Text.ofNat, if_pos zero], fun _ => rfl⟩
  · have nonempty : Nat.digits 10 n ≠ [] := Nat.digits_ne_nil_iff_ne_zero.mpr zero
    have last := Nat.getLast_digit_ne_zero 10 zero
    have below := Nat.digits_lt_base (by decide : 1 < 10) (List.getLast_mem nonempty)
    have shape := (List.dropLast_append_getLast nonempty).symm
    refine ⟨Text.digitChar ((Nat.digits 10 n).getLast nonempty),
      (Nat.digits 10 n).dropLast.reverse.map Text.digitChar, ?_, ?_⟩
    · rw [ofNat_eq zero]
      conv_lhs => rw [shape]
      simp
    · intro isZero
      have value := congrArg digitValue isZero
      rw [digitValue_digitChar, Nat.mod_eq_of_lt below] at value
      exact absurd (value.trans (by decide)) last

theorem ofNat_length {n bound : Nat} (positive : 0 < bound) (below : n < 10 ^ bound) :
    (Text.ofNat n).length ≤ bound := by
  by_cases zero : n = 0
  · simp only [Text.ofNat, zero, if_true, List.length_singleton]
    exact positive
  · rw [ofNat_eq zero, List.length_map, List.length_reverse]
    exact (Nat.digits_length_le_iff (by decide) n).mpr below

/-- A character that ends a numeral and cannot continue it. -/
def EndsNumeral (c : CodePoint) : Prop :=
  isDigit c = false ∧ c ≠ codePoint '.' ∧ c ≠ codePoint 'e' ∧ c ≠ codePoint 'E'

theorem scanDigits_of_all {digits : Text} {c : CodePoint} {rest : Text}
    (all : ∀ d ∈ digits, isDigit d = true) (ends : isDigit c = false) :
    scanDigits (digits ++ c :: rest) = (digits, c :: rest) := by
  induction digits with
  | nil => simp [scanDigits, ends]
  | cons d others ih =>
      have tail := ih fun e member => all e (by simp [member])
      simp only [scanDigits, Prod.mk.injEq] at tail ⊢
      rw [List.cons_append, List.takeWhile_cons_of_pos (all d (by simp)),
        List.dropWhile_cons_of_pos (all d (by simp)), tail.1, tail.2]
      exact ⟨rfl, rfl⟩

theorem scanInteger_ofNat {n : Nat} {c : CodePoint} {rest : Text} (ends : isDigit c = false) :
    scanInteger (Text.ofNat n ++ c :: rest) = some (Text.ofNat n, c :: rest) := by
  obtain ⟨first, others, shape, single⟩ := ofNat_head n
  have scanned : scanDigits (Text.ofNat n ++ c :: rest) = (Text.ofNat n, c :: rest) :=
    scanDigits_of_all (fun d member => ofNat_isDigit member) ends
  have firstDigit : isDigit first = true := ofNat_isDigit (n := n) (by rw [shape]; simp)
  rw [shape] at scanned ⊢
  rw [List.cons_append] at scanned ⊢
  by_cases zero : first = codePoint '0'
  · simp [scanInteger, zero, single zero]
  · simp [scanInteger, zero, firstDigit, scanned]

theorem scanNumber_ofNat {n : Nat} {c : CodePoint} {rest : Text} (ends : EndsNumeral c)
    (short : (Text.ofNat n).length ≤ maxStrDigits) :
    scanNumber false (Text.ofNat n ++ c :: rest) = .ok (.int n, c :: rest) := by
  obtain ⟨notDigit, notPoint, notLower, notUpper⟩ := ends
  have fraction : scanFraction (c :: rest) = ([], c :: rest) := by simp [scanFraction, notPoint]
  have exponent : scanExponent (c :: rest) = ([], c :: rest) := by simp [scanExponent, notLower, notUpper]
  simp [scanNumber, scanInteger_ofNat notDigit, fraction, exponent, Nat.not_lt.mpr short, digitsValue_ofNat]

/-- No literal word starts with a digit. -/
theorem scanConstant_digit {table : List (Text × Syntax)} {d : CodePoint} {rest : Text}
    (words : ∀ entry ∈ table, ∃ e others, entry.1 = e :: others ∧ isDigit e = false)
    (digit : isDigit d = true) : scanConstant table (d :: rest) = none := by
  induction table with
  | nil => rfl
  | cons entry others ih =>
      obtain ⟨word, tree⟩ := entry
      obtain ⟨e, letters, shape, notDigit⟩ := words _ (List.mem_cons_self ..)
      have differs : ¬ d = e := by
        rintro rfl
        rw [digit] at notDigit
        cases notDigit
      dsimp only at shape
      subst shape
      simp only [scanConstant, Text.dropPrefix?, if_neg differs]
      exact ih fun entry member => words entry (by simp [member])

theorem constants_words : ∀ entry ∈ constants, ∃ e others, entry.1 = e :: others ∧ isDigit e = false := by
  intro entry member
  have heads : constants.all (fun entry => entry.1.head?.any fun e => !isDigit e) = true := by
    decide
  have head := List.all_eq_true.mp heads entry member
  cases shape : entry.1 with
  | nil => simp [shape] at head
  | cons e others => exact ⟨e, others, rfl, by simpa [shape] using head⟩

/-- A numeral is read as the integer that it denotes. -/
theorem parseValue_ofNat {n fuel : Nat} {c : CodePoint} {rest : Text} (ends : EndsNumeral c)
    (short : (Text.ofNat n).length ≤ maxStrDigits) :
    parseValue (fuel + 1) (Text.ofNat n ++ c :: rest) = .ok (.int n, c :: rest) := by
  obtain ⟨first, others, shape, _⟩ := ofNat_head n
  have digit : isDigit first = true := ofNat_isDigit (n := n) (by rw [shape]; simp)
  have differs (e : CodePoint) (notDigit : isDigit e = false) : ¬ first = e := by
    rintro rfl
    rw [digit] at notDigit
    cases notDigit
  have number : scanNumber false (Text.ofNat n ++ c :: rest) = .ok (.int n, c :: rest) :=
    scanNumber_ofNat ends short
  rw [shape, List.cons_append] at number ⊢
  simp [parseValue, scanScalar, scanConstant_digit constants_words digit, differs (codePoint '"') (by decide),
    differs (codePoint '[') (by decide), differs (codePoint '{') (by decide),
    differs (codePoint '-') (by decide), number]

end HarnessProxy.Json

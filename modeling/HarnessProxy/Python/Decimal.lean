import Mathlib.Data.Int.Log
import Mathlib.Data.Rat.Floor
import Mathlib.Algebra.Order.Field.Power
import Mathlib.Tactic.Linarith
import Mathlib.Tactic.NormNum

namespace HarnessProxy

/-! # `decimal` in the default context

The value of a finite decimal is an exact fraction.  An operation rounds its
exact result half to even: to 28 significant digits, and to the grid of the
smallest subnormal where that grid is coarser.  Only nonnegative numbers are
computed with.
-/

/-- A Python `Decimal`. -/
inductive Decimal where
  | finite (coefficient exponent : Int)
  | infinity (negative : Bool)
  | nan
deriving DecidableEq

inductive DecimalError where
  | overflow
  | divisionByZero
deriving DecidableEq

namespace Decimal

/-- The number that a finite decimal stands for. -/
def value : Decimal → ℚ
  | .finite coefficient exponent => coefficient * 10 ^ exponent
  | .infinity _ | .nan => 0

/-- `value.is_finite() and value > 0` -/
def positiveFinite : Decimal → Bool
  | .finite coefficient _ => 0 < coefficient
  | .infinity _ | .nan => false

theorem value_pos {d : Decimal} (positive : d.positiveFinite = true) : 0 < d.value := by
  cases d with
  | finite coefficient exponent =>
      have counted : (0 : ℚ) < coefficient := by simpa [positiveFinite] using positive
      exact mul_pos counted (zpow_pos (by norm_num) exponent)
  | infinity negative => cases positive
  | nan => cases positive

/-! ## Rounding -/

/-- `Emin - prec + 1`, the exponent of the smallest subnormal. -/
def etiny : Int := -1000026

/-- `Emax + 1` -/
def limit : Int := 1000000

/-- The nearest integer, and the even one of two. -/
def roundHalfEven (q : ℚ) : Int :=
  let rest := q - ⌊q⌋
  if rest < 1 / 2 then ⌊q⌋
  else if 1 / 2 < rest then ⌊q⌋ + 1
  else if ⌊q⌋ % 2 = 0 then ⌊q⌋ else ⌊q⌋ + 1

/-- The exponent of the last digit that is kept. -/
def quantum (q : ℚ) : Int := max (Int.log 10 q - 27) etiny

def rounded (q : ℚ) : ℚ := roundHalfEven (q / 10 ^ quantum q) * 10 ^ quantum q

/-- The result of an operation whose exact result is `q`. -/
def fix (q : ℚ) : Except DecimalError ℚ :=
  if 10 ^ limit ≤ rounded q then .error .overflow else .ok (rounded q)

def add (left right : ℚ) : Except DecimalError ℚ := fix (left + right)

def mul (left right : ℚ) : Except DecimalError ℚ := fix (left * right)

def div (left right : ℚ) : Except DecimalError ℚ :=
  if right = 0 then .error .divisionByZero else fix (left / right)

/-! ## Signs -/

theorem fix_eq_ok {q result : ℚ} (fixed : fix q = .ok result) : result = rounded q := by
  unfold fix at fixed
  split at fixed
  · cases fixed
  · exact (Except.ok.inj fixed).symm

theorem roundHalfEven_nonneg {q : ℚ} (nonneg : 0 ≤ q) : 0 ≤ roundHalfEven q := by
  have below : 0 ≤ ⌊q⌋ := Int.floor_nonneg.mpr nonneg
  unfold roundHalfEven
  dsimp only
  split_ifs <;> omega

theorem roundHalfEven_pos {q : ℚ} (large : 1 ≤ q) : 0 < roundHalfEven q := by
  have below : 1 ≤ ⌊q⌋ := Int.le_floor.mpr (by exact_mod_cast large)
  unfold roundHalfEven
  dsimp only
  split_ifs <;> omega

theorem quantum_pos (q : ℚ) : (0 : ℚ) < 10 ^ quantum q := zpow_pos (by norm_num) _

theorem rounded_nonneg {q : ℚ} (nonneg : 0 ≤ q) : 0 ≤ rounded q :=
  mul_nonneg (by exact_mod_cast roundHalfEven_nonneg (div_nonneg nonneg (quantum_pos q).le)) (quantum_pos q).le

theorem rounded_zero : rounded 0 = 0 := by
  have none : roundHalfEven 0 = 0 := by decide +kernel
  rw [rounded, zero_div, none, Int.cast_zero, zero_mul]

/-- Nothing on the grid is rounded away. -/
theorem rounded_pos {q : ℚ} (large : 10 ^ etiny ≤ q) : 0 < rounded q := by
  have positive : 0 < q := lt_of_lt_of_le (zpow_pos (by norm_num) _) large
  have scaled : (10 : ℚ) ^ quantum q ≤ q := by
    rcases le_total (Int.log 10 q - 27) etiny with coarse | fine
    · rw [quantum, max_eq_right coarse]
      exact large
    · rw [quantum, max_eq_left fine]
      calc (10 : ℚ) ^ (Int.log 10 q - 27) ≤ 10 ^ Int.log 10 q := zpow_le_zpow_right₀ (by norm_num) (by omega)
        _ ≤ q := by exact_mod_cast Int.zpow_log_le_self (b := 10) (by norm_num) positive
  have one : 1 ≤ q / 10 ^ quantum q := (one_le_div (quantum_pos q)).mpr scaled
  exact mul_pos (by exact_mod_cast roundHalfEven_pos one) (quantum_pos q)

/-- A rounded number that is not zero lies on the grid. -/
theorem etiny_le_rounded {q : ℚ} (positive : 0 < rounded q) : 10 ^ etiny ≤ rounded q := by
  have counted : (0 : ℚ) < roundHalfEven (q / 10 ^ quantum q) := (mul_pos_iff_of_pos_right (quantum_pos q)).mp positive
  have one : (1 : ℚ) ≤ roundHalfEven (q / 10 ^ quantum q) := by
    have whole : 0 < roundHalfEven (q / 10 ^ quantum q) := by exact_mod_cast counted
    exact_mod_cast whole
  calc (10 : ℚ) ^ etiny ≤ 10 ^ quantum q := zpow_le_zpow_right₀ (by norm_num) (le_max_right _ _)
    _ ≤ roundHalfEven (q / 10 ^ quantum q) * 10 ^ quantum q := le_mul_of_one_le_left (quantum_pos q).le one

end Decimal

end HarnessProxy

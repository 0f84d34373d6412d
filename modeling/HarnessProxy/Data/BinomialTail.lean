import Mathlib.Algebra.BigOperators.Intervals
import Mathlib.Data.Nat.Choose.Sum
import Mathlib.Tactic.Linarith

namespace HarnessProxy.Data

open Finset

/-! # Tails of a fair binomial distribution

`upperTail k n` counts the outcomes of `n` fair trials with at least `k`
successes, so `upperTail k n / 2 ^ n` is the probability of such an outcome.
One more trial that succeeds makes it rarer, one more that fails likelier.
-/

def upperTail (k n : ℕ) : ℕ := ∑ i ∈ Icc k n, n.choose i

theorem upperTail_zero (n : ℕ) : upperTail 0 n = 2 ^ n := by
  rw [upperTail, ← Nat.sum_range_choose, Nat.range_eq_Icc_zero_sub_one _ (Nat.succ_ne_zero n)]
  rfl

theorem upperTail_succ_le (k n : ℕ) : upperTail (k + 1) n ≤ upperTail k n :=
  sum_le_sum_of_subset (Icc_subset_Icc_left (Nat.le_succ k))

/-- Pascal's rule for tails. -/
theorem upperTail_succ_succ (k n : ℕ) : upperTail (k + 1) (n + 1) = upperTail k n + upperTail (k + 1) n := by
  have shift (f : ℕ → ℕ) : ∑ i ∈ Icc (k + 1) (n + 1), f i = ∑ i ∈ Icc k n, f (i + 1) := by
    rw [← map_add_right_Icc, sum_map]
    rfl
  have top : ∑ i ∈ Icc (k + 1) (n + 1), n.choose i = upperTail (k + 1) n := by
    rcases Nat.lt_or_ge n k with above | below
    · rw [upperTail, Icc_eq_empty (by omega), Icc_eq_empty (by omega)]
    · rw [sum_Icc_succ_top (by omega), Nat.choose_succ_self, Nat.add_zero, upperTail]
  calc upperTail (k + 1) (n + 1) = ∑ i ∈ Icc k n, (n.choose i + n.choose (i + 1)) := by
        rw [upperTail, shift]
        exact sum_congr rfl fun i _ => Nat.choose_succ_succ n i
    _ = upperTail k n + upperTail (k + 1) n := by
        rw [sum_add_distrib, ← shift fun i => n.choose i, top]
        rfl

/-- One more success. -/
theorem upperTail_success (k n : ℕ) : upperTail (k + 1) (n + 1) ≤ 2 * upperTail k n := by
  have rarer := upperTail_succ_le k n
  rw [upperTail_succ_succ]
  omega

/-- One more failure. -/
theorem upperTail_failure (k n : ℕ) : 2 * upperTail k n ≤ upperTail k (n + 1) := by
  cases k with
  | zero => rw [upperTail_zero, upperTail_zero, pow_succ, Nat.mul_comm]
  | succ k =>
      have rarer := upperTail_succ_le k n
      rw [upperTail_succ_succ]
      omega

theorem upperTail_successes (successes failures more : ℕ) :
    upperTail (successes + more) (successes + more + failures) ≤ 2 ^ more * upperTail successes (successes + failures) := by
  induction more with
  | zero => simp
  | succ more ih =>
      have shape : successes + (more + 1) + failures = successes + more + failures + 1 := by omega
      have step := upperTail_success (successes + more) (successes + more + failures)
      rw [shape, pow_succ]
      calc upperTail (successes + (more + 1)) (successes + more + failures + 1)
          ≤ 2 * upperTail (successes + more) (successes + more + failures) := step
        _ ≤ 2 * (2 ^ more * upperTail successes (successes + failures)) := Nat.mul_le_mul_left 2 ih
        _ = 2 ^ more * 2 * upperTail successes (successes + failures) := by ring

theorem upperTail_failures (successes failures more : ℕ) :
    2 ^ more * upperTail successes (successes + failures) ≤ upperTail successes (successes + failures + more) := by
  induction more with
  | zero => simp
  | succ more ih =>
      calc 2 ^ (more + 1) * upperTail successes (successes + failures)
          = 2 * (2 ^ more * upperTail successes (successes + failures)) := by ring
        _ ≤ 2 * upperTail successes (successes + failures + more) := Nat.mul_le_mul_left 2 ih
        _ ≤ upperTail successes (successes + failures + (more + 1)) := upperTail_failure successes _

/-- The tail is antitone in the successes and monotone in the failures. -/
theorem upperTail_le {successes failures moreSuccesses fewerFailures : ℕ} (more : successes ≤ moreSuccesses)
    (fewer : fewerFailures ≤ failures) :
    upperTail moreSuccesses (moreSuccesses + fewerFailures) * 2 ^ (successes + failures) ≤
      upperTail successes (successes + failures) * 2 ^ (moreSuccesses + fewerFailures) := by
  obtain ⟨gained, rfl⟩ := Nat.exists_eq_add_of_le more
  obtain ⟨lost, rfl⟩ := Nat.exists_eq_add_of_le fewer
  have gains := upperTail_successes successes fewerFailures gained
  have losses := upperTail_failures successes fewerFailures lost
  rw [Nat.add_assoc] at losses
  calc upperTail (successes + gained) (successes + gained + fewerFailures) * 2 ^ (successes + (fewerFailures + lost))
      ≤ 2 ^ gained * upperTail successes (successes + fewerFailures) * 2 ^ (successes + (fewerFailures + lost)) :=
        Nat.mul_le_mul_right _ gains
    _ = 2 ^ lost * upperTail successes (successes + fewerFailures) * 2 ^ (successes + gained + fewerFailures) := by ring
    _ ≤ upperTail successes (successes + (fewerFailures + lost)) * 2 ^ (successes + gained + fewerFailures) :=
        Nat.mul_le_mul_right _ losses

end HarnessProxy.Data

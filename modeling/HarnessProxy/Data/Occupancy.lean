import Mathlib.Algebra.BigOperators.Group.Finset.Basic
import Mathlib.Algebra.Order.BigOperators.Group.Finset
import Mathlib.Data.Fintype.Basic

namespace HarnessProxy.Data

/-! # Occupancy

Each of finitely many parties is at one point.  A counter of the parties at
some points follows their moves, one party at a time.
-/

variable {ι P : Type*} [Fintype ι] [DecidableEq ι]

/-- How many parties are at a point that `counts`. -/
def occupancy (points : ι → P) (counts : P → Bool) : Nat := ∑ party, (counts (points party)).toNat

def move (points : ι → P) (party : ι) (point : P) : ι → P := Function.update points party point

variable {points : ι → P} {counts other : P → Bool} {party : ι} {point : P}

omit [Fintype ι] in
@[simp] theorem move_self : move points party point party = point := Function.update_self ..

omit [Fintype ι] in
theorem move_ne {another : ι} (different : another ≠ party) : move points party point another = points another :=
  Function.update_of_ne different ..

/-- What the party counted for is exchanged. -/
theorem occupancy_move (points : ι → P) (counts : P → Bool) (party : ι) (point : P) :
    occupancy (move points party point) counts + (counts (points party)).toNat =
      occupancy points counts + (counts point).toNat := by
  have others : ∑ another ∈ Finset.univ.erase party, (counts (move points party point another)).toNat =
      ∑ another ∈ Finset.univ.erase party, (counts (points another)).toNat := by
    refine Finset.sum_congr rfl fun another member => ?_
    rw [move_ne (Finset.ne_of_mem_erase member)]
  have after := Finset.add_sum_erase Finset.univ
    (fun another => (counts (move points party point another)).toNat) (Finset.mem_univ party)
  have before := Finset.add_sum_erase Finset.univ (fun another => (counts (points another)).toNat)
    (Finset.mem_univ party)
  simp only [move_self] at after
  simp only [occupancy]
  omega

omit [DecidableEq ι] in
theorem occupancy_eq_zero : occupancy points counts = 0 ↔ ∀ party, counts (points party) = false := by
  simp [occupancy, Finset.sum_eq_zero_iff]

omit [DecidableEq ι] in
theorem occupancy_pos (at_ : counts (points party) = true) : 0 < occupancy points counts := by
  refine Nat.pos_of_ne_zero fun zero => ?_
  rw [occupancy_eq_zero.mp zero party] at at_
  cases at_

omit [DecidableEq ι] in
theorem occupancy_mono {Q : Type*} {others : ι → Q} {counted : Q → Bool}
    (implies : ∀ party, counts (points party) = true → counted (others party) = true) :
    occupancy points counts ≤ occupancy others counted := by
  refine Finset.sum_le_sum fun party _ => ?_
  cases here : counts (points party) with
  | false => exact Nat.zero_le _
  | true => rw [implies party here]

end HarnessProxy.Data

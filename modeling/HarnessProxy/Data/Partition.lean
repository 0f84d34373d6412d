import Mathlib.Algebra.BigOperators.Group.List.Basic
import Mathlib.Algebra.GroupWithZero.Nat

namespace HarnessProxy.Data

/-! # Counting by parts

A list is divided by a key that takes one of finitely many values.
-/

section
variable {α κ : Type} [DecidableEq κ] {key : α → κ} {keys : List κ}

theorem sum_indicator (nodup : keys.Nodup) {wanted : κ} (listed : wanted ∈ keys) (count : Nat) :
    (keys.map fun k => if wanted = k then count else 0).sum = count := by
  induction keys with
  | nil => cases listed
  | cons k rest ih =>
      obtain ⟨absent, distinct⟩ := List.nodup_cons.mp nodup
      rw [List.map_cons, List.sum_cons]
      by_cases same : wanted = k
      · have others : (rest.map fun k => if wanted = k then count else 0) = rest.map fun _ => 0 := by
          refine List.map_congr_left fun other member => if_neg fun equal => ?_
          exact absent (same ▸ equal ▸ member)
        rw [if_pos same, others, List.map_const', List.sum_replicate, nsmul_zero, add_zero]
      · rw [if_neg same, zero_add]
        exact ih distinct ((List.mem_cons.mp listed).resolve_left same)

/-- What is counted in a list is the sum of what is counted in its parts. -/
theorem countP_parts (nodup : keys.Nodup) {items : List α} (covered : ∀ item ∈ items, key item ∈ keys) (p : α → Bool) :
    items.countP p = (keys.map fun k => (items.filter fun item => key item = k).countP p).sum := by
  induction items with
  | nil => simp
  | cons item rest ih =>
      obtain ⟨head, tail⟩ := List.forall_mem_cons.mp covered
      have part (k : κ) : ((item :: rest).filter fun item => key item = k).countP p =
          (rest.filter fun item => key item = k).countP p + if key item = k then (if p item then 1 else 0) else 0 := by
        rw [List.filter_cons]
        by_cases same : key item = k
        · rw [if_pos (decide_eq_true same), if_pos same, List.countP_cons]
        · rw [if_neg (by simpa using same), if_neg same, add_zero]
      rw [List.countP_cons, ih tail, List.map_congr_left fun k _ => part k, List.sum_map_add, sum_indicator nodup head]

end

end HarnessProxy.Data

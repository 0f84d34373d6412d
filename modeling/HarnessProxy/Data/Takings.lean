import Mathlib.Data.List.Nodup
import Mathlib.Data.Finset.Basic
import Mathlib.Data.Finset.Lattice.Basic
import Mathlib.Data.Finset.Dedup

namespace HarnessProxy.Data

/-! # Taking entries off a growing log

The entries of a log are told apart by a key.  Groups of them are taken, and the
keys taken so far are remembered.
-/

section
variable {α κ : Type} (key : α → κ)

structure Takings (log : List α) (groups : List (List α)) (consumed : Finset κ) : Prop where
  distinct : (log.map key).Nodup
  listed : ∀ entry ∈ groups.flatten, entry ∈ log
  once : (groups.flatten.map key).Nodup
  consumed : ∀ k, k ∈ consumed ↔ k ∈ groups.flatten.map key

variable {key} {log : List α} {groups : List (List α)} {consumed : Finset κ}

theorem Takings.nil : Takings key [] [] (∅ : Finset κ) :=
  ⟨List.nodup_nil, by simp, List.nodup_nil, by simp⟩

theorem Takings.grow {new : List α} (takings : Takings key log groups consumed) (distinct : ((log ++ new).map key).Nodup) :
    Takings key (log ++ new) groups consumed :=
  ⟨distinct, fun entry taken => List.mem_append_left new (takings.listed entry taken), takings.once, takings.consumed⟩

theorem Takings.inj (takings : Takings key log groups consumed) {entry other : α} (left : entry ∈ log) (right : other ∈ log)
    (same : key entry = key other) : entry = other :=
  List.inj_on_of_nodup_map takings.distinct left right same

/-- A group of entries that were not taken before is taken. -/
theorem Takings.take [DecidableEq κ] {group : List α} (takings : Takings key log groups consumed) (sublist : group.Sublist log)
    (fresh : ∀ entry ∈ group, key entry ∉ consumed) :
    Takings key log (groups ++ [group]) (consumed ∪ (group.map key).toFinset) := by
  have flat : (groups ++ [group]).flatten = groups.flatten ++ group := by simp
  refine ⟨takings.distinct, fun entry taken => ?_, ?_, fun k => ?_⟩
  · rw [flat, List.mem_append] at taken
    rcases taken with before | now
    · exact takings.listed entry before
    · exact sublist.mem now
  · rw [flat, List.map_append, List.nodup_append]
    refine ⟨takings.once, takings.distinct.sublist (sublist.map key), fun k before other now => ?_⟩
    obtain ⟨entry, taken, rfl⟩ := List.mem_map.mp now
    rintro rfl
    exact fresh entry taken ((takings.consumed _).mpr before)
  · rw [flat, List.map_append, List.mem_append, Finset.mem_union, takings.consumed, List.mem_toFinset]

/-- Once the log is exhausted, each of its entries is in exactly one group. -/
theorem Takings.exhausted (takings : Takings key log groups consumed) {entry : α} (listed : entry ∈ log)
    (taken : key entry ∈ consumed) : ∃! index : Nat, ∃ group, groups[index]? = some group ∧ entry ∈ group := by
  obtain ⟨other, inside, same⟩ := List.mem_map.mp ((takings.consumed _).mp taken)
  have found : entry = other := takings.inj listed (takings.listed other inside) same.symm
  subst found
  obtain ⟨group, member, holds⟩ := List.mem_flatten.mp inside
  obtain ⟨index, here⟩ := List.mem_iff_getElem?.mp member
  refine ⟨index, ⟨group, here, holds⟩, fun second other => ?_⟩
  obtain ⟨another, there, also⟩ := other
  by_contra different
  have apart : groups.Pairwise List.Disjoint := (List.nodup_flatten.mp takings.once.of_map).2
  rw [List.pairwise_iff_getElem] at apart
  obtain ⟨below, rfl⟩ := List.getElem?_eq_some_iff.mp here
  obtain ⟨secondBelow, rfl⟩ := List.getElem?_eq_some_iff.mp there
  rcases Nat.lt_or_gt_of_ne different with before | after
  · exact apart second index secondBelow below before also holds
  · exact apart index second below secondBelow after holds also

end

end HarnessProxy.Data

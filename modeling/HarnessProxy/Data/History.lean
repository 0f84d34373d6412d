import Mathlib.Data.List.Forall2
import Mathlib.Data.List.Infix

namespace HarnessProxy.Data

/-! # Histories

A history is a list that grows at its end.  `LastAt` singles out the most
recent element with a property, `Unfollowed` says that one thing happened and
another has not happened since.  Both are determined by how they change when
one element is appended, which is what an incremental state can track.
-/

variable {α : Type*} {p q : α → Prop} {history before after : List α} {x y : α}

/-- `x` is the last element with the property, between `before` and `after`. -/
structure LastAt (p : α → Prop) (history before : List α) (x : α) (after : List α) : Prop where
  split : history = before ++ x :: after
  holds : p x
  later : ∀ y ∈ after, ¬ p y

/-- Something with property `p` happened and nothing with property `q` since. -/
def Unfollowed (p q : α → Prop) (history : List α) : Prop :=
  ∃ before x after, history = before ++ x :: after ∧ p x ∧ ∀ y ∈ after, ¬ q y

theorem LastAt.appended (holds : p y) : LastAt p (history ++ [y]) history y [] :=
  ⟨rfl, holds, by simp⟩

theorem LastAt.concat (last : LastAt p history before x after) (fails : ¬ p y) :
    LastAt p (history ++ [y]) before x (after ++ [y]) := by
  refine ⟨by simp [last.split], last.holds, ?_⟩
  intro z member
  rcases List.mem_append.mp member with member | member
  · exact last.later z member
  · rw [List.mem_singleton.mp member]
    exact fails

/-- The last element of `before ++ x :: after` is either `x` or that of `after`. -/
theorem append_cons_eq_concat (split : history ++ [y] = before ++ x :: after) :
    (after = [] ∧ history = before ∧ y = x) ∨
      ∃ init, after = init ++ [y] ∧ history = before ++ x :: init := by
  rcases after.eq_nil_or_concat with rfl | ⟨init, z, rfl⟩
  · obtain ⟨same, last⟩ := List.append_inj' split rfl
    exact Or.inl ⟨rfl, same, by simpa using last⟩
  · have shape : history ++ [y] = (before ++ x :: init) ++ [z] := by simpa using split
    obtain ⟨same, last⟩ := List.append_inj' shape rfl
    have equal : y = z := by simpa using last
    exact Or.inr ⟨init, by rw [equal, List.concat_eq_append], same⟩

theorem lastAt_concat : LastAt p (history ++ [y]) before x after ↔
    (p y ∧ before = history ∧ x = y ∧ after = []) ∨
      (¬ p y ∧ ∃ init, after = init ++ [y] ∧ LastAt p history before x init) := by
  constructor
  · intro last
    rcases append_cons_eq_concat last.split with ⟨rfl, rfl, rfl⟩ | ⟨init, rfl, shape⟩
    · exact Or.inl ⟨last.holds, rfl, rfl, rfl⟩
    · refine Or.inr ⟨last.later y (by simp), init, rfl, shape, last.holds, ?_⟩
      exact fun z member => last.later z (by simp [member])
  · rintro (⟨holds, rfl, rfl, rfl⟩ | ⟨fails, init, rfl, last⟩)
    · exact .appended holds
    · exact last.concat fails

theorem LastAt.exists_of_mem (member : x ∈ history) (holds : p x) :
    ∃ before y after, LastAt p history before y after := by
  induction history using List.reverseRecOn generalizing x with
  | nil => simp at member
  | append_singleton init y ih =>
      by_cases here : p y
      · exact ⟨init, y, [], .appended here⟩
      · rcases List.mem_append.mp member with member | member
        · obtain ⟨before, z, after, last⟩ := ih member holds
          exact ⟨before, z, after ++ [y], last.concat here⟩
        · rw [List.mem_singleton.mp member] at holds
          exact absurd holds here

theorem LastAt.unique {before' after' : List α} (left : LastAt p history before x after)
    (right : LastAt p history before' y after') : before = before' ∧ x = y ∧ after = after' := by
  induction history using List.reverseRecOn generalizing after after' with
  | nil => simpa using left.split
  | append_singleton init z ih =>
      rcases lastAt_concat.mp left with ⟨holds, rfl, rfl, rfl⟩ | ⟨fails, rest, rfl, earlier⟩
      · rcases lastAt_concat.mp right with ⟨_, rfl, rfl, rfl⟩ | ⟨fails, _⟩
        · exact ⟨rfl, rfl, rfl⟩
        · exact absurd holds fails
      · rcases lastAt_concat.mp right with ⟨holds, _⟩ | ⟨_, rest', rfl, earlier'⟩
        · exact absurd holds fails
        · obtain ⟨same, equal, tail⟩ := ih earlier earlier'
          exact ⟨same, equal, by rw [tail]⟩

theorem unfollowed_nil : ¬ Unfollowed p q ([] : List α) := by
  rintro ⟨before, x, after, split, _⟩
  simp at split

theorem unfollowed_concat :
    Unfollowed p q (history ++ [y]) ↔ p y ∨ (¬ q y ∧ Unfollowed p q history) := by
  constructor
  · rintro ⟨before, x, after, split, holds, later⟩
    rcases append_cons_eq_concat split with ⟨rfl, rfl, rfl⟩ | ⟨init, rfl, shape⟩
    · exact Or.inl holds
    · exact Or.inr ⟨later y (by simp), before, x, init, shape, holds,
        fun z member => later z (by simp [member])⟩
  · rintro (holds | ⟨fails, before, x, after, rfl, holds, later⟩)
    · exact ⟨history, y, [], rfl, holds, by simp⟩
    · refine ⟨before, x, after ++ [y], by simp, holds, ?_⟩
      intro z member
      rcases List.mem_append.mp member with member | member
      · exact later z member
      · rw [List.mem_singleton.mp member]
        exact fails

/-! ## Aligned lists -/

section
variable {β : Type*} {R : α → β → Prop} {left : List α} {right : List β}

theorem aligned_of_mem_left (aligned : List.Forall₂ R left right) {a : α} (member : a ∈ left) :
    ∃ b ∈ right, R a b := by
  induction aligned with
  | nil => cases member
  | cons head tail ih =>
      rcases List.mem_cons.mp member with rfl | member
      · exact ⟨_, List.mem_cons_self .., head⟩
      · obtain ⟨b, found, related⟩ := ih member
        exact ⟨b, List.mem_cons_of_mem _ found, related⟩

theorem aligned_of_mem_right (aligned : List.Forall₂ R left right) {b : β} (member : b ∈ right) :
    ∃ a ∈ left, R a b := aligned_of_mem_left aligned.flip member

theorem aligned_trans {γ : Type*} {S : β → γ → Prop} {T : α → γ → Prop} {last : List γ}
    (first : List.Forall₂ R left right) (second : List.Forall₂ S right last)
    (compose : ∀ a b c, R a b → S b c → T a c) : List.Forall₂ T left last := by
  induction first generalizing last with
  | nil =>
      cases second
      exact .nil
  | cons head tail ih =>
      cases second with
      | cons next rest => exact .cons (compose _ _ _ head next) (ih rest)

end

end HarnessProxy.Data

import Mathlib.Data.List.Forall2

namespace HarnessProxy.Data

/-! # Codes that can be split off

Where the texts that may follow a code are known, the code determines its item
and what follows it.  Sequences of such codes are determined when they end in a
mark that starts no code.
-/

variable {α β : Type*} {related : α → α → Prop} {ends : List β → Prop} {code : α → List β}

/-- Two codes with the same text from here on stand for related items and are
followed by the same text. -/
def SplitsOff (related : α → α → Prop) (ends : List β → Prop) (code : α → List β) (item : α) : Prop :=
  ∀ other rest last, ends rest → ends last → code item ++ rest = code other ++ last →
    related item other ∧ rest = last

/-- Codes one after another, up to a mark. -/
theorem flatMap_splits {stop : β} {items others : List α} {rest last : List β}
    (each : ∀ item ∈ items, ∀ other ∈ others, ∀ rest last, code item ++ rest = code other ++ last →
      item = other ∧ rest = last)
    (starts : ∀ item rest last, code item ++ rest ≠ stop :: last)
    (same : items.flatMap code ++ stop :: rest = others.flatMap code ++ stop :: last) :
    items = others ∧ rest = last := by
  induction items generalizing others with
  | nil =>
      cases others with
      | nil => exact ⟨rfl, (List.cons.inj same).2⟩
      | cons other others =>
          rw [List.flatMap_cons, List.append_assoc] at same
          exact absurd same.symm (starts other _ _)
  | cons item items ih =>
      cases others with
      | nil =>
          rw [List.flatMap_cons, List.append_assoc] at same
          exact absurd same (starts item _ _)
      | cons other others =>
          rw [List.flatMap_cons, List.append_assoc, List.flatMap_cons, List.append_assoc] at same
          obtain ⟨rfl, tail⟩ := each item (by simp) other (by simp) _ _ same
          obtain ⟨rfl, equal⟩ := ih (fun item member other inside =>
            each item (List.mem_cons_of_mem _ member) other (List.mem_cons_of_mem _ inside)) tail
          exact ⟨rfl, equal⟩

theorem intercalate_cons (separator : β) (first : List β) (others : List (List β)) :
    [separator].intercalate (first :: others) = first ++ others.flatMap (separator :: ·) := by
  induction others generalizing first with
  | nil => simp [List.intercalate]
  | cons next others ih =>
      have step : [separator].intercalate (first :: next :: others) =
          first ++ separator :: [separator].intercalate (next :: others) := by simp [List.intercalate]
      rw [step, ih, List.flatMap_cons, List.cons_append]

section
variable {separator stop : β} {rest last : List β}
  (afterSeparator : ∀ rest, ends (separator :: rest)) (afterStop : ∀ rest, ends (stop :: rest))

include afterSeparator afterStop in
/-- The separated codes after the first one. -/
theorem tails_split {items others : List α} (different : separator ≠ stop)
    (each : ∀ item ∈ items, SplitsOff related ends code item)
    (same : items.flatMap (fun item => separator :: code item) ++ stop :: rest =
      others.flatMap (fun item => separator :: code item) ++ stop :: last) :
    List.Forall₂ related items others ∧ rest = last := by
  have follows (items : List α) (rest : List β) :
      ends (items.flatMap (fun item => separator :: code item) ++ stop :: rest) := by
    cases items with
    | nil => exact afterStop rest
    | cons item items => exact afterSeparator _
  induction items generalizing others with
  | nil =>
      cases others with
      | nil => exact ⟨.nil, (List.cons.inj same).2⟩
      | cons other others => exact absurd (List.cons.inj same).1.symm different
  | cons item items ih =>
      cases others with
      | nil => exact absurd (List.cons.inj same).1 different
      | cons other others =>
          obtain ⟨head, tails⟩ := List.forall_mem_cons.mp each
          simp only [List.flatMap_cons, List.cons_append, List.append_assoc, List.cons.injEq, true_and] at same
          obtain ⟨first, remaining⟩ := head other _ _ (follows items rest) (follows others last) same
          obtain ⟨others, equal⟩ := ih tails remaining
          exact ⟨.cons first others, equal⟩

include afterSeparator afterStop in
/-- Separated codes up to a mark. -/
theorem separated_splits {items others : List α} (different : separator ≠ stop)
    (each : ∀ item ∈ items, SplitsOff related ends code item)
    (starts : ∀ item rest last, code item ++ rest ≠ stop :: last)
    (same : [separator].intercalate (items.map code) ++ stop :: rest =
      [separator].intercalate (others.map code) ++ stop :: last) :
    List.Forall₂ related items others ∧ rest = last := by
  have follows (items : List α) (rest : List β) :
      ends (items.flatMap (fun item => separator :: code item) ++ stop :: rest) := by
    cases items with
    | nil => exact afterStop rest
    | cons item items => exact afterSeparator _
  cases items with
  | nil =>
      cases others with
      | nil => exact ⟨.nil, (List.cons.inj same).2⟩
      | cons other others =>
          rw [List.map_cons, intercalate_cons, List.append_assoc] at same
          exact absurd same.symm (starts other _ _)
  | cons item items =>
      cases others with
      | nil =>
          rw [List.map_cons, intercalate_cons, List.append_assoc] at same
          exact absurd same (starts item _ _)
      | cons other others =>
          simp only [List.map_cons, intercalate_cons, List.flatMap_map, List.append_assoc] at same
          obtain ⟨head, tails⟩ := List.forall_mem_cons.mp each
          obtain ⟨first, remaining⟩ := head other _ _ (follows items rest) (follows others last) same
          obtain ⟨others, equal⟩ := tails_split afterSeparator afterStop different tails remaining
          exact ⟨.cons first others, equal⟩

end

/-- A mark that the second halves do not hold splits a text in one way. -/
theorem append_cons_inj {mark : β} {left left' right right' : List β} (absent : mark ∉ right) (absent' : mark ∉ right')
    (same : left ++ mark :: right = left' ++ mark :: right') : left = left' ∧ right = right' := by
  rcases List.append_eq_append_iff.mp same with ⟨between, rfl, shape⟩ | ⟨between, rfl, shape⟩
  · cases between with
    | nil => exact ⟨(List.append_nil left).symm, (List.cons.inj shape).2⟩
    | cons first between =>
        have inside : mark ∈ right := by
          rw [(List.cons.inj shape).2]
          simp
        exact absurd inside absent
  · cases between with
    | nil => exact ⟨List.append_nil left', (List.cons.inj shape).2.symm⟩
    | cons first between =>
        have inside : mark ∈ right' := by
          rw [(List.cons.inj shape).2]
          simp
        exact absurd inside absent'

end HarnessProxy.Data

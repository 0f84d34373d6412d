import Mathlib.Data.List.Basic

namespace HarnessProxy.Data

/-! # Sequences with repeats

A sequence expands another one when it runs through it in order, with every
entry answered by one or more copies of something that fits it.
-/

section
variable {α β : Type} (fits : α → β → Prop) (same : β → β → Bool)

inductive Expansion : List α → List β → Prop
  | nil : Expansion [] []
  | run {entry : α} {entries : List α} {first : β} {copies rest : List β} :
      fits entry first → (∀ copy ∈ copies, same copy first = true) → Expansion entries rest →
      Expansion (entry :: entries) (first :: copies ++ rest)

/-- `rest` behind `last` without its first `slack` repeats. -/
def strikeAfter (last : β) : Nat → List β → List β
  | _, [] => []
  | 0, next :: rest => next :: rest
  | slack + 1, next :: rest =>
      if same next last then strikeAfter last slack rest else next :: strikeAfter next (slack + 1) rest

/-- A sequence without its first `slack` repeats. -/
def strike (slack : Nat) : List β → List β
  | [] => []
  | first :: rest => first :: strikeAfter same first slack rest

/-- How many entries in front repeat `last`, while more than `kept` remain. -/
def repeatsOf (last : β) (kept : Nat) : List β → Nat
  | [] => 0
  | next :: rest => if kept < rest.length + 1 ∧ same next last = true then repeatsOf last kept rest + 1 else 0

variable {fits same}

theorem strikeAfter_zero (last : β) (rest : List β) : strikeAfter same last 0 rest = rest := by
  cases rest <;> rfl

theorem strike_zero (entries : List β) : strike same 0 entries = entries := by
  cases entries with
  | nil => rfl
  | cons first rest => rw [strike, strikeAfter_zero]

theorem repeatsOf_le (last : β) (kept : Nat) (entries : List β) :
    repeatsOf same last kept entries ≤ entries.length - kept := by
  induction entries with
  | nil => exact Nat.zero_le _
  | cons next rest ih =>
      rw [repeatsOf, List.length_cons]
      split
      · omega
      · exact Nat.zero_le _

/-- Taking the repeats in front and striking the others later is striking them all at once. -/
theorem strikeAfter_repeats (last : β) (kept : Nat) (entries : List β) :
    strikeAfter same last (entries.length - kept) entries =
      strike same (entries.length - kept - repeatsOf same last kept entries)
        (entries.drop (repeatsOf same last kept entries)) := by
  induction entries with
  | nil => rfl
  | cons next rest ih =>
      rw [List.length_cons]
      by_cases spare : kept < rest.length + 1
      · have slack : rest.length + 1 - kept = rest.length - kept + 1 := by omega
        cases repeated : same next last with
        | true =>
            have taken : repeatsOf same last kept (next :: rest) = repeatsOf same last kept rest + 1 :=
              if_pos ⟨spare, repeated⟩
            rw [taken, slack, strikeAfter, if_pos repeated, ih, List.drop_succ_cons, Nat.add_sub_add_right]
        | false =>
            have taken : repeatsOf same last kept (next :: rest) = 0 := if_neg (by simp [repeated])
            rw [taken, slack, strikeAfter, if_neg (by simp [repeated]), List.drop_zero]
            rfl
      · have slack : rest.length + 1 - kept = 0 := by omega
        have taken : repeatsOf same last kept (next :: rest) = 0 := if_neg fun both => spare both.1
        rw [taken, slack, strikeAfter_zero, List.drop_zero, strike_zero]

theorem Expansion.length_le {entries : List α} {others : List β} (expansion : Expansion fits same entries others) :
    entries.length ≤ others.length := by
  induction expansion with
  | nil => exact Nat.le_refl _
  | run _ _ _ ih =>
      simp only [List.length_cons, List.length_append]
      omega

theorem Expansion.of_forall₂ {entries : List α} {others : List β} (each : List.Forall₂ fits entries others) :
    Expansion fits same entries others := by
  induction each with
  | nil => exact .nil
  | cons fit _ ih => exact @Expansion.run _ _ fits same _ _ _ [] _ fit (by simp) ih

/-- What fits the sequence without its first repeats expands into the sequence. -/
theorem Expansion.of_strikeAfter {last : β} {slack : Nat} {entries : List α} {others : List β}
    (each : List.Forall₂ fits entries (strikeAfter same last slack others)) :
    ∃ copies rest, others = copies ++ rest ∧ (∀ copy ∈ copies, same copy last = true) ∧
      Expansion fits same entries rest := by
  induction others generalizing last slack entries with
  | nil =>
      cases each
      exact ⟨[], [], rfl, by simp, .nil⟩
  | cons next others ih =>
      cases slack with
      | zero => exact ⟨[], next :: others, rfl, by simp, .of_forall₂ each⟩
      | succ slack =>
          rw [strikeAfter] at each
          cases repeated : same next last with
          | true =>
              rw [if_pos repeated] at each
              obtain ⟨copies, rest, split, copied, expansion⟩ := ih each
              exact ⟨next :: copies, rest, by rw [split]; rfl, List.forall_mem_cons.mpr ⟨repeated, copied⟩, expansion⟩
          | false =>
              rw [if_neg (by simp [repeated])] at each
              cases each with
              | cons fit each =>
                  obtain ⟨copies, rest, split, copied, expansion⟩ := ih each
                  exact ⟨[], next :: others, rfl, by simp, by rw [split]; exact .run fit copied expansion⟩

theorem Expansion.of_strike {slack : Nat} {entries : List α} {others : List β}
    (each : List.Forall₂ fits entries (strike same slack others)) : Expansion fits same entries others := by
  cases others with
  | nil =>
      cases each
      exact .nil
  | cons first others =>
      cases each with
      | cons fit each =>
          obtain ⟨copies, rest, split, copied, expansion⟩ := of_strikeAfter each
          rw [split]
          exact .run fit copied expansion

end

end HarnessProxy.Data

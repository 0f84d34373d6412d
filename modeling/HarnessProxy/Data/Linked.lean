import Mathlib.Data.List.Induction

namespace HarnessProxy.Data

/-! # Linked logs

Every entry of a log names the digest of the entry before it.
-/

section
variable {α δ : Type} (digest : α → δ) (previous : α → Option δ)

/-- The log continues one whose last digest is `before`. -/
def Linked : Option δ → List α → Prop
  | _, [] => True
  | before, entry :: rest => previous entry = before ∧ Linked (some (digest entry)) rest

/-- The digest that the next entry has to name. -/
def lastDigest (log : List α) : Option δ := log.getLast?.map digest

variable {digest previous}

@[simp] theorem lastDigest_nil : lastDigest digest [] = none := rfl

@[simp] theorem lastDigest_concat (log : List α) (entry : α) : lastDigest digest (log ++ [entry]) = some (digest entry) := by
  rw [lastDigest, List.getLast?_concat]
  rfl

theorem linked_append {before : Option δ} {log : List α} {entry : α} : Linked digest previous before (log ++ [entry]) ↔
    Linked digest previous before log ∧ previous entry = (lastDigest digest log).or before := by
  induction log generalizing before with
  | nil => simp [Linked]
  | cons first rest ih =>
      have last : (lastDigest digest rest).or (some (digest first)) = (lastDigest digest (first :: rest)).or before := by
        cases rest with
        | nil => rfl
        | cons second others => simp [lastDigest, List.getLast?_eq_some_getLast]
      rw [List.cons_append, Linked, Linked, ih, last, and_assoc]

theorem linked_concat {log : List α} {entry : α} : Linked digest previous none (log ++ [entry]) ↔
    Linked digest previous none log ∧ previous entry = lastDigest digest log := by
  rw [linked_append, Option.or_none]

theorem Linked.of_append {before : Option δ} {log more : List α} (linked : Linked digest previous before (log ++ more)) :
    Linked digest previous before log := by
  induction log generalizing before with
  | nil => trivial
  | cons entry rest ih => exact ⟨linked.1, ih linked.2⟩

/-- What an entry names, by its place. -/
theorem Linked.previous_eq {log : List α} (linked : Linked digest previous none log) {index : Nat} {entry : α}
    (at_ : log[index]? = some entry) : previous entry = lastDigest digest (log.take index) := by
  have split : log.take index ++ [entry] = log.take (index + 1) := by
    rw [List.take_add_one, at_]
    rfl
  have whole := linked
  rw [← List.take_append_drop (index + 1) log, ← split] at whole
  exact (linked_concat.mp whole.of_append).2

/-- Where equal digests are those of equal contents, the last digest tells the
whole log. -/
theorem Linked.contents_eq {γ : Type} (content : α → γ) {left right : List α} (leftLinked : Linked digest previous none left)
    (rightLinked : Linked digest previous none right)
    (distinct : ∀ entry ∈ left, ∀ other ∈ right, digest entry = digest other →
      content entry = content other ∧ previous entry = previous other)
    (same : lastDigest digest left = lastDigest digest right) : left.map content = right.map content := by
  induction left using List.reverseRecOn generalizing right with
  | nil =>
      rcases List.eq_nil_or_concat right with rfl | ⟨others, other, rfl⟩
      · rfl
      · rw [List.concat_eq_append, lastDigest_concat] at same
        cases same
  | append_singleton log entry ih =>
      rcases List.eq_nil_or_concat right with rfl | ⟨others, other, rfl⟩
      · rw [lastDigest_concat] at same
        cases same
      · rw [List.concat_eq_append] at rightLinked distinct same ⊢
        obtain ⟨logLinked, entryNames⟩ := linked_concat.mp leftLinked
        obtain ⟨othersLinked, otherNames⟩ := linked_concat.mp rightLinked
        rw [lastDigest_concat, lastDigest_concat, Option.some.injEq] at same
        obtain ⟨contents, names⟩ := distinct entry (by simp) other (by simp) same
        have before := ih logLinked othersLinked
          (fun one member other inside => distinct one (List.mem_append_left _ member) other (List.mem_append_left _ inside))
          (entryNames.symm.trans (names.trans otherNames))
        rw [List.map_append, List.map_append, before, List.map_singleton, List.map_singleton, contents]

end

end HarnessProxy.Data

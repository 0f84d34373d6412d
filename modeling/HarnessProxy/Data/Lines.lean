import Mathlib.Algebra.BigOperators.Group.List.Basic
import Mathlib.Algebra.GroupWithZero.Nat

namespace HarnessProxy.Data

/-! # Splitting into lines

What ends a line is a parameter.  A line feed right after a carriage return ends
no line of its own, and what is left at the end is the last line.
-/

/-- A notion of the end of a line. -/
structure LineEnds (α : Type*) where
  isEnd : α → Bool
  carriageReturn : α
  lineFeed : α
  ends : isEnd lineFeed = true
  distinct : lineFeed ≠ carriageReturn

namespace LineEnds

variable {α : Type*} (ends : LineEnds α)

/-- The lines of a sequence that starts in the middle of `line`. -/
def split [DecidableEq α] (afterCarriage : Bool) (line : List α) : List α → List (List α)
  | [] => if line = [] then [] else [line]
  | c :: rest =>
    if ends.isEnd c then
      if afterCarriage ∧ c = ends.lineFeed then split false line rest
      else line :: split (c = ends.carriageReturn) [] rest
    else split false (line ++ [c]) rest

/-- `splitlines` -/
def splitLines [DecidableEq α] (text : List α) : List (List α) := ends.split false [] text

/-- Every line with its line feed. -/
def unlines (lines : List (List α)) : List α := lines.flatMap fun line => line ++ [ends.lineFeed]

theorem unlines_cons (line : List α) (rest : List (List α)) :
    ends.unlines (line :: rest) = line ++ ends.lineFeed :: ends.unlines rest := by
  simp [unlines]

theorem getLast?_unlines {lines : List (List α)} (nonempty : lines ≠ []) :
    (ends.unlines lines).getLast? = some ends.lineFeed := by
  induction lines with
  | nil => exact absurd rfl nonempty
  | cons line rest ih =>
      rw [unlines_cons, List.getLast?_append, List.getLast?_cons]
      cases rest with
      | nil => simp [unlines]
      | cons next others => simp [ih (List.cons_ne_nil _ _)]

section
variable {ends}

theorem split_line [DecidableEq α] {line : List α} (solid : ∀ c ∈ line, ends.isEnd c = false) (before rest : List α) :
    ends.split false before (line ++ ends.lineFeed :: rest) = (before ++ line) :: ends.split false [] rest := by
  induction line generalizing before with
  | nil => simp [split, ends.ends, ends.distinct]
  | cons c others ih =>
      obtain ⟨head, tail⟩ := List.forall_mem_cons.mp solid
      rw [List.cons_append, split, head, if_neg Bool.false_ne_true, ih tail, List.append_assoc, List.singleton_append]

/-- Lines that hold no end of a line are read back. -/
theorem splitLines_unlines [DecidableEq α] {lines : List (List α)} (solid : ∀ line ∈ lines, ∀ c ∈ line, ends.isEnd c = false) :
    ends.splitLines (ends.unlines lines) = lines := by
  induction lines with
  | nil => rfl
  | cons line rest ih =>
      obtain ⟨head, tail⟩ := List.forall_mem_cons.mp solid
      have others := ih tail
      rw [splitLines] at others ⊢
      rw [unlines_cons, split_line head, others, List.nil_append]

end

/-! ## Counting the lines that are not blank -/

/-- How often a run of characters that end no line begins. -/
def starts (inside : Bool) : List α → Nat
  | [] => 0
  | c :: rest => if ends.isEnd c then starts false rest else (if inside then 0 else 1) + starts true rest

section
variable {ends}

theorem length_filter_split [DecidableEq α] {afterCarriage : Bool} {line : List α} (blank : afterCarriage = true → line = [])
    (text : List α) :
    ((ends.split afterCarriage line text).filter (· ≠ [])).length =
      (if line = [] then 0 else 1) + ends.starts (line ≠ []) text := by
  induction text generalizing afterCarriage line with
  | nil => by_cases empty : line = [] <;> simp [split, starts, empty]
  | cons c rest ih =>
      rw [split, starts]
      by_cases ended : ends.isEnd c = true
      · rw [if_pos ended, if_pos ended]
        split
        · next feed =>
          have empty := blank feed.1
          subst empty
          rw [ih fun _ => rfl]
          simp
        · have others := @ih (c = ends.carriageReturn) [] fun _ => rfl
          rw [if_pos rfl, Nat.zero_add] at others
          by_cases empty : line = []
          · rw [List.filter_cons_of_neg (by simpa using empty), others, if_pos empty, Nat.zero_add]
            simp
          · rw [List.filter_cons_of_pos (by simpa using empty), List.length_cons, others, if_neg empty, Nat.add_comm]
            simp
      · rw [if_neg ended, if_neg ended, ih (by simp)]
        by_cases empty : line = [] <;> simp [empty]

theorem starts_append (line rest : List α) (inside : Bool) :
    ends.starts inside (line ++ ends.lineFeed :: rest) = ends.starts inside line + ends.starts false rest := by
  induction line generalizing inside with
  | nil => simp [starts, ends.ends]
  | cons c others ih =>
      rw [List.cons_append, starts, starts]
      split
      · rw [ih]
      · rw [ih, Nat.add_assoc]

theorem starts_unlines (lines : List (List α)) :
    ends.starts false (ends.unlines lines) = (lines.map (ends.starts false)).sum := by
  induction lines with
  | nil => rfl
  | cons line rest ih => rw [unlines_cons, starts_append, ih, List.map_cons, List.sum_cons]

/-- A line that begins and ends with a character that ends no line. -/
structure Framed (ends : LineEnds α) (line : List α) : Prop where
  head : ∃ c rest, line = c :: rest ∧ ends.isEnd c = false
  last : ∃ init c, line = init ++ [c] ∧ ends.isEnd c = false

theorem starts_pos {line : List α} {c : α} (member : c ∈ line) (solid : ends.isEnd c = false) :
    1 ≤ ends.starts false line := by
  induction line with
  | nil => cases member
  | cons d rest ih =>
      rw [starts]
      split
      · next ended =>
        have different : c ≠ d := by
          rintro rfl
          rw [solid] at ended
          cases ended
        exact ih ((List.mem_cons.mp member).resolve_left different)
      · simp only [Bool.false_eq_true, if_false]
        omega

theorem starts_last {init : List α} {c e : α} (member : e ∈ init) (ended : ends.isEnd e = true)
    (solid : ends.isEnd c = false) : 1 ≤ ends.starts true (init ++ [c]) := by
  induction init with
  | nil => cases member
  | cons d rest ih =>
      rw [List.cons_append, starts]
      split
      · exact starts_pos (by simp) solid
      · next open_ =>
        have different : e ≠ d := by
          rintro rfl
          exact open_ ended
        have tail := ih ((List.mem_cons.mp member).resolve_left different)
        omega

theorem Framed.starts_pos {line : List α} (framed : Framed ends line) : 1 ≤ ends.starts false line := by
  obtain ⟨c, rest, rfl, solid⟩ := framed.head
  exact LineEnds.starts_pos (by simp) solid

theorem Framed.starts_two {line : List α} (framed : Framed ends line) {e : α} (member : e ∈ line)
    (ended : ends.isEnd e = true) : 2 ≤ ends.starts false line := by
  obtain ⟨init, c, rfl, last⟩ := framed.last
  obtain ⟨d, rest, shape, first⟩ := framed.head
  have inner : e ∈ init := by
    rcases List.mem_append.mp member with inner | single
    · exact inner
    · rw [List.mem_singleton.mp single, last] at ended
      cases ended
  cases init with
  | nil => cases inner
  | cons x others =>
      have same : x = d := by simpa using congrArg List.head? shape
      subst same
      have different : e ≠ x := by
        rintro rfl
        rw [first] at ended
        cases ended
      have tail := starts_last ((List.mem_cons.mp inner).resolve_left different) ended last
      rw [List.cons_append, starts, first]
      simp only [Bool.false_eq_true, if_false]
      omega

/-- Framed lines are as many as they were only if none of them holds an end of a
line. -/
theorem solid_of_length [DecidableEq α] {lines : List (List α)} (framed : ∀ line ∈ lines, Framed ends line)
    (same : ((ends.splitLines (ends.unlines lines)).filter (· ≠ [])).length = lines.length) :
    ∀ line ∈ lines, ∀ c ∈ line, ends.isEnd c = false := by
  rw [splitLines, length_filter_split (by simp)] at same
  simp only [if_true, ne_eq, not_true_eq_false, decide_false, Nat.zero_add, starts_unlines] at same
  induction lines with
  | nil => simp
  | cons line rest ih =>
      obtain ⟨head, tail⟩ := List.forall_mem_cons.mp framed
      have atLeast : rest.length ≤ (rest.map (ends.starts false)).sum := by
        have bound := List.length_le_sum_of_one_le (rest.map (ends.starts false)) fun count member => by
          obtain ⟨other, inside, rfl⟩ := List.mem_map.mp member
          exact (tail other inside).starts_pos
        simpa using bound
      rw [List.map_cons, List.sum_cons, List.length_cons] at same
      have one := head.starts_pos
      refine List.forall_mem_cons.mpr ⟨fun c member => ?_, ih tail (by omega)⟩
      cases ended : ends.isEnd c with
      | false => rfl
      | true =>
          have two := head.starts_two member ended
          omega

end

end LineEnds

end HarnessProxy.Data

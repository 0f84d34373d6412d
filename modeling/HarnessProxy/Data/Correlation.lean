import Mathlib.Data.List.Infix
import Mathlib.Data.Nat.Find
import Mathlib.Logic.Function.Basic

namespace HarnessProxy.Data.Correlation

/-! # Calls and results correlated by identifiers

A log interleaves calls and results that carry identifiers.  A reader keeps, per
identifier, the call that waits for a result.  `run` is that reader; the
relations `Awaiting` and `Answers` say the same without a state, in terms of
positions in the log.
-/

/-- A call without a body can never be answered. -/
inductive Event (ι α β : Type*) where
  | call (id : ι) (body : Option α)
  | result (id : ι) (body : β)

variable {ι α β : Type*}

def IsResult (log : List (Event ι α β)) (id : ι) (position : Nat) : Prop :=
  ∃ body, log[position]? = some (Event.result id body)

/-- `call` is the call with this identifier that waits just before `position`:
the first one with a body since the last result with the identifier. -/
structure Awaiting (log : List (Event ι α β)) (id : ι) (position call : Nat) (body : α) : Prop where
  isCall : log[call]? = some (Event.call id (some body))
  before : call < position
  unanswered : ∀ between, call < between → between < position → ¬ IsResult log id between
  first : ∀ earlier, earlier < call → ∀ other, log[earlier]? = some (Event.call id (some other)) →
    ∃ between, earlier < between ∧ between < call ∧ IsResult log id between

/-- A call and the result that consumes it. -/
structure Answer (ι α β : Type*) where
  id : ι
  call : Nat
  callBody : α
  result : Nat
  resultBody : β

def Answers (log : List (Event ι α β)) (answer : Answer ι α β) : Prop :=
  log[answer.result]? = some (Event.result answer.id answer.resultBody) ∧
    Awaiting log answer.id answer.result answer.call answer.callBody

/-- Every call has a body, no call reuses an identifier that waits, and every
result finds a waiting call. -/
structure Clean (log : List (Event ι α β)) : Prop where
  bodies : ∀ (position : Nat) (id : ι), log[position]? ≠ some (Event.call id none)
  fresh : ∀ (position : Nat) (id : ι) (body : α), log[position]? = some (Event.call id (some body)) →
    ∀ call other, ¬ Awaiting log id position call other
  matched : ∀ (position : Nat) (id : ι) (body : β), log[position]? = some (Event.result id body) →
    ∃ call callBody, Awaiting log id position call callBody

/-- Every call with a body is consumed by a result. -/
def Answered (log : List (Event ι α β)) : Prop :=
  ∀ (call : Nat) (id : ι) (body : α), log[call]? = some (Event.call id (some body)) →
    ∃ answer, Answers log answer ∧ answer.call = call

/-! ## Appending an event

Nothing said about a position depends on later events.
-/

variable {log : List (Event ι α β)} {event : Event ι α β} {id : ι} {position call : Nat} {body : α}

theorem getElem?_concat_of_lt (lower : position < log.length) :
    (log ++ [event])[position]? = log[position]? := List.getElem?_append_left lower

theorem getElem?_concat_length : (log ++ [event])[log.length]? = some event := by simp

theorem isResult_concat (lower : position < log.length) :
    IsResult (log ++ [event]) id position ↔ IsResult log id position := by
  simp only [IsResult, getElem?_concat_of_lt lower]

theorem awaiting_concat (bound : position ≤ log.length) :
    Awaiting (log ++ [event]) id position call body ↔ Awaiting log id position call body := by
  constructor
  · intro waiting
    have lower := Nat.lt_of_lt_of_le waiting.before bound
    refine ⟨by rw [← getElem?_concat_of_lt lower]; exact waiting.isCall, waiting.before, ?_, ?_⟩
    · intro between above below result
      exact waiting.unanswered between above below ((isResult_concat (by omega)).mpr result)
    · intro earlier above other isCall
      obtain ⟨between, low, high, result⟩ := waiting.first earlier above other
        (by rw [getElem?_concat_of_lt (by omega)]; exact isCall)
      exact ⟨between, low, high, (isResult_concat (by omega)).mp result⟩
  · intro waiting
    have lower := Nat.lt_of_lt_of_le waiting.before bound
    refine ⟨by rw [getElem?_concat_of_lt lower]; exact waiting.isCall, waiting.before, ?_, ?_⟩
    · intro between above below result
      exact waiting.unanswered between above below ((isResult_concat (by omega)).mp result)
    · intro earlier above other isCall
      obtain ⟨between, low, high, result⟩ := waiting.first earlier above other
        (by rw [← getElem?_concat_of_lt (by omega : earlier < log.length)]; exact isCall)
      exact ⟨between, low, high, (isResult_concat (by omega)).mpr result⟩

/-- If nothing waits, a result stands between every call and the position. -/
theorem result_of_none_awaiting (none : ∀ call body, ¬ Awaiting log id position call body)
    (isCall : log[call]? = some (.call id (some body))) (before : call < position) :
    ∃ between, call < between ∧ between < position ∧ IsResult log id between := by
  -- by strong induction: an earlier call that is answered is answered before this one
  induction call using Nat.strongRecOn generalizing body with
  | ind call ih =>
      by_contra unanswered
      refine none call body ⟨isCall, before, ?_, ?_⟩
      · exact fun between above below result => unanswered ⟨between, above, below, result⟩
      · intro earlier above other earlierCall
        obtain ⟨between, low, high, result⟩ := ih earlier above earlierCall (by omega)
        refine ⟨between, low, ?_, result⟩
        by_contra notBelow
        rcases Nat.lt_or_eq_of_le (Nat.le_of_not_lt notBelow) with after | same
        · exact unanswered ⟨between, after, high, result⟩
        · obtain ⟨_, isResult⟩ := result
          rw [← same, isCall] at isResult
          cases isResult

theorem Awaiting.unique {call' : Nat} {body' : α} (left : Awaiting log id position call body)
    (right : Awaiting log id position call' body') : call = call' ∧ body = body' := by
  rcases Nat.lt_trichotomy call call' with below | same | above
  · obtain ⟨between, low, high, result⟩ := right.first call below body left.isCall
    exact absurd result (left.unanswered between low (by have := right.before; omega))
  · subst same
    have := left.isCall.symm.trans right.isCall
    exact ⟨rfl, by simpa using this⟩
  · obtain ⟨between, low, high, result⟩ := left.first call' above body' right.isCall
    exact absurd result (right.unanswered between low (by have := left.before; omega))

/-- What waits after an event is a call that is this event or waited before it. -/
theorem awaiting_succ : Awaiting log id (position + 1) call body ↔
    (call = position ∧ log[position]? = some (.call id (some body)) ∧
      ∀ other otherBody, ¬ Awaiting log id position other otherBody) ∨
    (¬ IsResult log id position ∧ Awaiting log id position call body) := by
  constructor
  · intro waiting
    rcases Nat.lt_or_eq_of_le (Nat.le_of_lt_succ waiting.before) with below | rfl
    · refine Or.inr ⟨waiting.unanswered position below (Nat.lt_succ_self _), waiting.isCall, below, ?_,
        waiting.first⟩
      exact fun between above before => waiting.unanswered between above (by omega)
    · refine Or.inl ⟨rfl, waiting.isCall, fun other otherBody earlier => ?_⟩
      obtain ⟨between, low, high, result⟩ := waiting.first other earlier.before otherBody earlier.isCall
      exact earlier.unanswered between low high result
  · rintro (⟨rfl, isCall, none⟩ | ⟨noResult, waiting⟩)
    · refine ⟨isCall, Nat.lt_succ_self _, fun between above below => by omega, ?_⟩
      exact fun earlier before other earlierCall => result_of_none_awaiting none earlierCall before
    · refine ⟨waiting.isCall, Nat.lt_succ_of_lt waiting.before, ?_, waiting.first⟩
      intro between above below result
      rcases Nat.lt_or_eq_of_le (Nat.le_of_lt_succ below) with before | rfl
      · exact waiting.unanswered between above before result
      · exact noResult result

theorem awaiting_end_concat : Awaiting (log ++ [event]) id (log.length + 1) call body ↔
    (call = log.length ∧ event = .call id (some body) ∧
      ∀ other otherBody, ¬ Awaiting log id log.length other otherBody) ∨
    ((∀ result, event ≠ .result id result) ∧ Awaiting log id log.length call body) := by
  rw [awaiting_succ]
  simp only [awaiting_concat (Nat.le_refl log.length), IsResult, getElem?_concat_length,
    Option.some.injEq, not_exists, ne_eq]

theorem answers_concat (answer : Answer ι α β) : Answers (log ++ [event]) answer ↔
    Answers log answer ∨ (answer.result = log.length ∧ event = .result answer.id answer.resultBody ∧
      Awaiting log answer.id log.length answer.call answer.callBody) := by
  rcases Nat.lt_trichotomy answer.result log.length with below | same | above
  · rw [Answers, Answers, getElem?_concat_of_lt below, awaiting_concat below.le]
    constructor
    · exact Or.inl
    · rintro (answers | ⟨equal, _⟩)
      · exact answers
      · omega
  · rw [Answers, Answers, same, getElem?_concat_length, awaiting_concat (Nat.le_refl _)]
    simp
  · have beyond : (log ++ [event])[answer.result]? = none := by simp; omega
    have outside : log[answer.result]? = none := by simp; omega
    rw [Answers, Answers, beyond, outside]
    constructor
    · rintro ⟨found, _⟩
      cases found
    · rintro (⟨found, _⟩ | ⟨equal, _⟩)
      · cases found
      · omega

/-- The conditions that the event at one position meets in a clean log. -/
def Fits (log : List (Event ι α β)) (position : Nat) : Event ι α β → Prop
  | .call _ none => False
  | .call id (some _) => ∀ call other, ¬ Awaiting log id position call other
  | .result id _ => ∃ call callBody, Awaiting log id position call callBody

theorem clean_iff : Clean log ↔
    ∀ (position : Nat) (event : Event ι α β), log[position]? = some event → Fits log position event := by
  constructor
  · intro clean position event found
    match event with
    | .call id none => exact clean.bodies position id found
    | .call id (some body) => exact clean.fresh position id body found
    | .result id body => exact clean.matched position id body found
  · intro fits
    exact ⟨fun position id found => fits position _ found,
      fun position id body found => fits position _ found,
      fun position id body found => fits position _ found⟩

theorem fits_concat {other : Event ι α β} (bound : position ≤ log.length) :
    Fits (log ++ [event]) position other ↔ Fits log position other := by
  cases other with
  | call id body => cases body <;> simp [Fits, awaiting_concat bound]
  | result id body => simp [Fits, awaiting_concat bound]

theorem clean_concat : Clean (log ++ [event]) ↔ Clean log ∧ Fits log log.length event := by
  simp only [clean_iff]
  constructor
  · intro fits
    refine ⟨fun position other found => ?_, ?_⟩
    · have below : position < log.length := (List.getElem?_eq_some_iff.mp found).1
      exact (fits_concat below.le).mp (fits position other (by rw [getElem?_concat_of_lt below]; exact found))
    · exact (fits_concat (Nat.le_refl _)).mp (fits _ event getElem?_concat_length)
  · rintro ⟨fits, last⟩ position other found
    rcases Nat.lt_or_eq_of_le (Nat.le_of_lt_succ (show position < log.length + 1 by
      have := (List.getElem?_eq_some_iff.mp found).1
      simpa using this)) with below | rfl
    · rw [getElem?_concat_of_lt below] at found
      exact (fits_concat below.le).mpr (fits position other found)
    · rw [getElem?_concat_length] at found
      cases found
      exact (fits_concat (Nat.le_refl _)).mpr last

/-! ## The reader -/

structure State (ι α β : Type*) where
  position : Nat := 0
  pending : ι → Option (Nat × α) := fun _ => none
  answered : List (Answer ι α β) := []
  clean : Bool := true

section
variable [DecidableEq ι]

def State.step (state : State ι α β) (event : Event ι α β) : State ι α β :=
  let next := { state with position := state.position + 1 }
  match event with
  | .call _ none => { next with clean := false }
  | .call id (some body) => match state.pending id with
    | some _ => { next with clean := false }
    | none => { next with pending := Function.update state.pending id (some (state.position, body)) }
  | .result id body => match state.pending id with
    | none => { next with clean := false }
    | some (call, callBody) => { next with
        pending := Function.update state.pending id none
        answered := state.answered ++
          [{ id, call, callBody, result := state.position, resultBody := body }] }

def run (log : List (Event ι α β)) : State ι α β := log.foldl State.step {}

theorem run_concat (log : List (Event ι α β)) (event : Event ι α β) :
    run (log ++ [event]) = (run log).step event := by
  simp [run]

end

/-! ## What the reader computes -/

structure Correct (log : List (Event ι α β)) (state : State ι α β) : Prop where
  position : state.position = log.length
  pending : ∀ id call body, state.pending id = some (call, body) ↔ Awaiting log id log.length call body
  answered : ∀ answer, answer ∈ state.answered ↔ Answers log answer
  ordered : state.answered.Pairwise fun earlier later => earlier.result < later.result
  clean : state.clean = true ↔ Clean log

section
variable {state : State ι α β}

theorem Correct.none_awaiting (correct : Correct log state) (none : state.pending id = none) :
    ∀ call body, ¬ Awaiting log id log.length call body := by
  intro call body waiting
  have found := (correct.pending id call body).mpr waiting
  rw [none] at found
  cases found

/-- An event that leaves the pending calls and the answers alone, and is unclean. -/
theorem Correct.unclean (correct : Correct log state) (unfit : ¬ Fits log log.length event)
    (kept : ∀ id call body, Awaiting (log ++ [event]) id (log.length + 1) call body ↔
      Awaiting log id log.length call body)
    (noAnswer : ∀ answer, Answers (log ++ [event]) answer ↔ Answers log answer) :
    Correct (log ++ [event]) { state with position := state.position + 1, clean := false } := by
  refine ⟨by simp [correct.position], ?_, ?_, correct.ordered, ?_⟩
  · intro id call body
    rw [List.length_append, List.length_singleton, kept]
    exact correct.pending id call body
  · intro answer
    rw [noAnswer]
    exact correct.answered answer
  · simp [clean_concat, unfit]

/-- Step lemma, one case for each branch of the reader. -/
theorem Correct.step [DecidableEq ι] (correct : Correct log state) (event : Event ι α β) :
    Correct (log ++ [event]) (state.step event) := by
  match event with
  | .call id none =>
      refine correct.unclean (by simp [Fits]) ?_ ?_
      · intro other call body
        simp [awaiting_end_concat]
      · intro answer
        simp [answers_concat]
  | .call id (some body) =>
      cases waits : state.pending id with
      | some waiting =>
          obtain ⟨first, firstBody⟩ := waiting
          have awaiting := (correct.pending id first firstBody).mp waits
          simp only [State.step, waits]
          refine correct.unclean (fun fits => fits first firstBody awaiting) ?_ ?_
          · intro other call otherBody
            rw [awaiting_end_concat]
            constructor
            · rintro (⟨_, same, none⟩ | ⟨_, kept⟩)
              · cases same
                exact absurd awaiting (none first firstBody)
              · exact kept
            · exact fun kept => Or.inr ⟨by simp, kept⟩
          · intro answer
            simp [answers_concat]
      | none =>
          have idle := correct.none_awaiting waits
          simp only [State.step, waits]
          refine ⟨by simp [correct.position], ?_, ?_, correct.ordered, ?_⟩
          · intro other call otherBody
            rw [List.length_append, List.length_singleton, awaiting_end_concat]
            dsimp only
            rw [Function.update_apply]
            by_cases same : other = id
            · subst same
              simp only [if_true, Option.some.injEq, Prod.mk.injEq, correct.position]
              constructor
              · rintro ⟨rfl, rfl⟩
                exact Or.inl ⟨rfl, rfl, idle⟩
              · rintro (⟨rfl, equal, _⟩ | ⟨_, waiting⟩)
                · cases equal
                  exact ⟨rfl, rfl⟩
                · exact absurd waiting (idle call otherBody)
            · simp [same, correct.pending, Ne.symm same]
          · intro answer
            simp [answers_concat, correct.answered]
          · rw [clean_concat, correct.clean]
            exact ⟨fun clean => ⟨clean, idle⟩, And.left⟩
  | .result id result =>
      cases waits : state.pending id with
      | none =>
          have idle := correct.none_awaiting waits
          simp only [State.step, waits]
          refine correct.unclean (fun ⟨call, callBody, waiting⟩ => idle call callBody waiting) ?_ ?_
          · intro other call body
            rw [awaiting_end_concat]
            constructor
            · rintro (⟨_, same, _⟩ | ⟨_, kept⟩)
              · cases same
              · exact kept
            · refine fun kept => Or.inr ⟨?_, kept⟩
              rintro body same
              cases same
              exact idle call _ kept
          · intro answer
            rw [answers_concat]
            constructor
            · rintro (answers | ⟨_, same, waiting⟩)
              · exact answers
              · cases same
                exact absurd waiting (idle _ _)
            · exact Or.inl
      | some waiting =>
          obtain ⟨call, callBody⟩ := waiting
          have awaiting := (correct.pending id call callBody).mp waits
          simp only [State.step, waits]
          refine ⟨by simp [correct.position], ?_, ?_, ?_, ?_⟩
          · intro other otherCall otherBody
            rw [List.length_append, List.length_singleton, awaiting_end_concat]
            dsimp only
            rw [Function.update_apply]
            by_cases same : other = id
            · subst same
              simp
            · simp [same, correct.pending, Ne.symm same]
          · intro answer
            rw [List.mem_append, List.mem_singleton, correct.answered, answers_concat, correct.position]
            refine or_congr_right ⟨?_, ?_⟩
            · rintro rfl
              exact ⟨rfl, rfl, awaiting⟩
            · rintro ⟨position, same, waiting⟩
              obtain ⟨answerId, answerCall, answerBody, answerResult, resultBody⟩ := answer
              cases same
              obtain ⟨rfl, rfl⟩ := waiting.unique awaiting
              cases position
              rfl
          · rw [List.pairwise_append]
            refine ⟨correct.ordered, by simp, ?_⟩
            intro earlier member later isLast
            rw [List.mem_singleton.mp isLast, correct.position]
            have answers := (correct.answered earlier).mp member
            exact (List.getElem?_eq_some_iff.mp answers.1).1
          · rw [clean_concat, correct.clean]
            exact ⟨fun clean => ⟨clean, call, callBody, awaiting⟩, And.left⟩

end

theorem correct_nil : Correct ([] : List (Event ι α β)) {} := by
  refine ⟨rfl, ?_, ?_, .nil, ?_⟩
  · intro id call body
    constructor
    · intro found
      cases found
    · exact fun waiting => absurd waiting.before (Nat.not_lt_zero _)
  · intro answer
    constructor
    · intro member
      cases member
    · exact fun answers => by simpa using answers.1
  · simp [clean_iff]

/-- Run lemma: the reader keeps exactly the calls that wait and the answers. -/
theorem run_correct [DecidableEq ι] (log : List (Event ι α β)) : Correct log (run log) := by
  induction log using List.reverseRecOn with
  | nil => exact correct_nil
  | append_singleton init event ih =>
      rw [run_concat]
      exact ih.step event

/-- No call is consumed twice. -/
theorem Answers.result_unique {left right : Answer ι α β} (first : Answers log left)
    (second : Answers log right) (same : left.call = right.call) : left.result = right.result := by
  have calls := first.2.isCall.symm.trans (same ▸ second.2.isCall)
  simp only [Option.some.injEq, Event.call.injEq] at calls
  rcases Nat.lt_trichotomy left.result right.result with below | equal | above
  · refine absurd ⟨_, calls.1 ▸ first.1⟩ (second.2.unanswered left.result ?_ below)
    exact same ▸ first.2.before
  · exact equal
  · refine absurd ⟨_, calls.1.symm ▸ second.1⟩ (first.2.unanswered right.result ?_ above)
    exact same.symm ▸ second.2.before

/-- In a clean log nothing waits at the end exactly when every call is consumed. -/
theorem answered_iff (clean : Clean log) :
    Answered log ↔ ∀ id call body, ¬ Awaiting log id log.length call body := by
  constructor
  · intro answered id call body waiting
    obtain ⟨answer, answers, rfl⟩ := answered call id body waiting.isCall
    have calls := answers.2.isCall.symm.trans waiting.isCall
    simp only [Option.some.injEq, Event.call.injEq] at calls
    refine waiting.unanswered answer.result answers.2.before ?_ ⟨_, calls.1 ▸ answers.1⟩
    exact (List.getElem?_eq_some_iff.mp answers.1).1
  · intro none call id body isCall
    have bound : call < log.length := (List.getElem?_eq_some_iff.mp isCall).1
    classical
    -- the first result after the call is the one that consumes it
    have later := result_of_none_awaiting (none id) isCall bound
    obtain ⟨above, below, result, isResult⟩ := Nat.find_spec later
    refine ⟨⟨id, call, body, Nat.find later, result⟩, ⟨isResult, isCall, above, ?_, ?_⟩, rfl⟩
    · exact fun between low high found => Nat.find_min later high ⟨low, Nat.lt_trans high below, found⟩
    · exact fun earlier before other earlierCall =>
        result_of_none_awaiting (clean.fresh call id body isCall) earlierCall before

end HarnessProxy.Data.Correlation

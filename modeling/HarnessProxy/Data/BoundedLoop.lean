import Mathlib.Data.List.Basic

namespace HarnessProxy.Data

/-! # Bounded request loops

A loop sends a request, reacts to the reply and either stops with an outcome or
goes on in a new state, at most a given number of times.  `Reached` is the
states that it goes through; the rules below reduce a fact about a whole run to
a fact about one round.
-/

variable {σ Req Rep Out : Type*}

inductive Verdict (σ Out : Type*) where
  | again (state : σ)
  | stop (outcome : Out)

/-- What a verdict promises: an invariant of the next state, or a fact about the
outcome. -/
def Verdict.Promises (Inv : σ → Prop) (Post : Out → Prop) : Verdict σ Out → Prop
  | .again state => Inv state
  | .stop outcome => Post outcome

/-- Two verdicts go on in related states or stop with related outcomes. -/
inductive Verdict.Related {σ' Out' : Type*} (R : σ → σ' → Prop) (Q : Out → Out' → Prop) :
    Verdict σ Out → Verdict σ' Out' → Prop
  | again {state : σ} {state' : σ'} (related : R state state') : Related R Q (.again state) (.again state')
  | stop {outcome : Out} {outcome' : Out'} (related : Q outcome outcome') :
      Related R Q (.stop outcome) (.stop outcome')

structure BoundedLoop (σ Req Rep Out : Type*) where
  /-- What changes before a request is built. -/
  enter : σ → σ
  request : σ → Req
  react : σ → Rep → Verdict σ Out
  /-- The outcome when no round is left. -/
  exhausted : σ → Out

namespace BoundedLoop

variable (loop : BoundedLoop σ Req Rep Out) (reply : Nat → Rep)

/-- The requests of a run in order, and its outcome. -/
def run : Nat → Nat → σ → List Req × Out
  | 0, _, state => ([], loop.exhausted state)
  | rounds + 1, round, state =>
    match loop.react (loop.enter state) (reply round) with
    | .stop outcome => ([loop.request (loop.enter state)], outcome)
    | .again next =>
      let rest := run rounds (round + 1) next
      (loop.request (loop.enter state) :: rest.1, rest.2)

/-- The state before a round. -/
inductive Reached (start : σ) : Nat → σ → Prop
  | start : Reached start 0 start
  | again {round : Nat} {state next : σ} (earlier : Reached start round state)
      (reacts : loop.react (loop.enter state) (reply round) = .again next) :
      Reached start (round + 1) next

variable {loop reply} {start state : σ} {rounds round : Nat}

theorem run_zero : loop.run reply 0 round state = ([], loop.exhausted state) := rfl

theorem run_stop {outcome : Out} (reacts : loop.react (loop.enter state) (reply round) = .stop outcome) :
    loop.run reply (rounds + 1) round state = ([loop.request (loop.enter state)], outcome) := by
  rw [run, reacts]

theorem run_again {next : σ} (reacts : loop.react (loop.enter state) (reply round) = .again next) :
    loop.run reply (rounds + 1) round state = (loop.request (loop.enter state) :: (loop.run reply rounds (round + 1) next).1,
      (loop.run reply rounds (round + 1) next).2) := by
  rw [run, reacts]

/-- The invariant rule. -/
theorem Reached.invariant {Inv : σ → Prop} (holds : Inv start)
    (step : ∀ state answer next, Inv state → loop.react (loop.enter state) answer = .again next → Inv next)
    (reached : loop.Reached reply start round state) : Inv state := by
  induction reached with
  | start => exact holds
  | again earlier reacts ih => exact step _ _ _ ih reacts

/-- How a run ends that begins with round `first`: a reply to its last request
stops it in a state that it reaches, or no round is left. -/
inductive Ends (loop : BoundedLoop σ Req Rep Out) (reply : Nat → Rep) (start : σ) (first bound : Nat)
    (result : List Req × Out) : Prop where
  | stopped {round : Nat} {state : σ} (reached : loop.Reached reply start round state)
      (below : round < bound)
      (reacts : loop.react (loop.enter state) (reply round) = .stop result.2)
      (last : result.1.getLast? = some (loop.request (loop.enter state)))
      (count : first + result.1.length = round + 1)
  | exhausted {state : σ} (reached : loop.Reached reply start bound state)
      (outcome : result.2 = loop.exhausted state)

theorem run_ends (reached : loop.Reached reply start round state) :
    loop.Ends reply start round (round + rounds) (loop.run reply rounds round state) := by
  induction rounds generalizing round state with
  | zero => exact .exhausted reached rfl
  | succ rounds ih =>
      cases reacts : loop.react (loop.enter state) (reply round) with
      | stop outcome =>
          exact .stopped reached (by omega) (by simp [run_stop reacts, reacts]) (by simp [run_stop reacts])
            (by simp [run_stop reacts])
      | again next =>
          have shift : round + (rounds + 1) = round + 1 + rounds := by omega
          have tail := ih (reached.again reacts)
          rw [← shift] at tail
          simp only [run_again reacts]
          cases tail with
          | stopped later below stops last count =>
              refine .stopped later below stops ?_ ?_
              · rw [List.getLast?_cons, last]
                rfl
              · simpa [Nat.add_assoc, Nat.add_comm 1] using count
          | exhausted later outcome => exact .exhausted later outcome

theorem run_ends_start (loop : BoundedLoop σ Req Rep Out) (reply : Nat → Rep) (start : σ) (rounds : Nat) :
    loop.Ends reply start 0 rounds (loop.run reply rounds 0 start) := by
  have ends : loop.Ends reply start 0 (0 + rounds) (loop.run reply rounds 0 start) := run_ends .start
  rwa [Nat.zero_add] at ends

/-- Every request is built in a state that the run reaches. -/
theorem run_sent (reached : loop.Reached reply start round state) {request : Req}
    (sent : request ∈ (loop.run reply rounds round state).1) :
    ∃ later point, loop.Reached reply start later point ∧ later < round + rounds ∧
      request = loop.request (loop.enter point) := by
  induction rounds generalizing round state with
  | zero => cases sent
  | succ rounds ih =>
      cases reacts : loop.react (loop.enter state) (reply round) with
      | stop outcome =>
          simp only [run_stop reacts, List.mem_singleton] at sent
          exact ⟨round, state, reached, by omega, sent⟩
      | again next =>
          simp only [run_again reacts, List.mem_cons] at sent
          rcases sent with rfl | sent
          · exact ⟨round, state, reached, by omega, rfl⟩
          · obtain ⟨later, point, found, bound, shape⟩ := ih (reached.again reacts) sent
            exact ⟨later, point, found, by omega, shape⟩

theorem run_sent_length : (loop.run reply rounds round state).1.length ≤ rounds := by
  induction rounds generalizing round state with
  | zero => exact Nat.le_refl 0
  | succ rounds ih =>
      cases reacts : loop.react (loop.enter state) (reply round) with
      | stop outcome => simp [run_stop reacts]
      | again next => simpa [run_again reacts] using ih

/-- A run goes on from any state that it reaches. -/
theorem run_of_reached (reached : loop.Reached reply start round state) (rounds : Nat) :
    (loop.run reply (round + rounds) 0 start).2 = (loop.run reply rounds round state).2 := by
  induction reached generalizing rounds with
  | start => rw [Nat.zero_add]
  | @again round state next earlier reacts ih =>
      have shift : round + 1 + rounds = round + (rounds + 1) := by omega
      rw [shift, ih]
      simp only [run_again reacts]

/-- The outcome rule: what an exhausted loop never is comes from the round that
stops the run. -/
theorem run_outcome_iff {Bad : Out → Prop} {bound : Nat} (spared : ∀ state, ¬ Bad (loop.exhausted state)) :
    Bad (loop.run reply bound 0 start).2 ↔ ∃ round state outcome, loop.Reached reply start round state ∧
      round < bound ∧ loop.react (loop.enter state) (reply round) = .stop outcome ∧ Bad outcome := by
  constructor
  · intro bad
    cases loop.run_ends_start reply start bound with
    | stopped reached below reacts => exact ⟨_, _, _, reached, below, reacts, bad⟩
    | exhausted reached outcome =>
        rw [outcome] at bad
        exact absurd bad (spared _)
  · rintro ⟨round, state, outcome, reached, below, reacts, bad⟩
    obtain ⟨rounds, rfl⟩ := Nat.exists_eq_add_of_lt below
    rw [Nat.add_assoc, run_of_reached reached (rounds + 1)]
    simp only [run_stop reacts]
    exact bad

/-- The budget rule: a run whose states are all early sends few requests. -/
theorem run_length_le {limit : Nat} (early : ∀ round state, loop.Reached reply start round state → round ≤ limit)
    (reached : loop.Reached reply start round state) :
    (loop.run reply rounds round state).1.length + round ≤ limit + 1 := by
  induction rounds generalizing round state with
  | zero =>
      have bound := early round state reached
      simp only [run_zero, List.length_nil]
      omega
  | succ rounds ih =>
      have bound := early round state reached
      cases reacts : loop.react (loop.enter state) (reply round) with
      | stop outcome =>
          simp only [run_stop reacts, List.length_singleton]
          omega
      | again next =>
          have tail := ih (reached.again reacts)
          simp only [run_again reacts, List.length_cons]
          omega

/-- The latch rule: once a state is late, all later states are, so a request of
a late state is only followed by such requests. -/
theorem run_latched {Inv Late : σ → Prop} {LateRequest : Req → Prop} (holds : Inv state)
    (step : ∀ state answer next, Inv state → loop.react (loop.enter state) answer = .again next → Inv next)
    (stays : ∀ state answer next, Inv state → Late (loop.enter state) →
      loop.react (loop.enter state) answer = .again next → Late (loop.enter next))
    (late : ∀ state, Inv state → (LateRequest (loop.request (loop.enter state)) ↔ Late (loop.enter state))) :
    (loop.run reply rounds round state).1.Pairwise fun earlier later =>
      LateRequest earlier → LateRequest later := by
  -- from a late state on every request is late
  have all (rounds : Nat) : ∀ round state, Inv state → Late (loop.enter state) →
      ∀ request ∈ (loop.run reply rounds round state).1, LateRequest request := by
    induction rounds with
    | zero =>
        intro round state _ _ request sent
        cases sent
    | succ rounds ih =>
        intro round state inv isLate request sent
        cases reacts : loop.react (loop.enter state) (reply round) with
        | stop outcome =>
            simp only [run_stop reacts, List.mem_singleton] at sent
            rw [sent]
            exact (late state inv).mpr isLate
        | again next =>
            simp only [run_again reacts, List.mem_cons] at sent
            rcases sent with rfl | sent
            · exact (late state inv).mpr isLate
            · exact ih (round + 1) next (step _ _ _ inv reacts) (stays _ _ _ inv isLate reacts) request sent
  induction rounds generalizing round state with
  | zero => exact .nil
  | succ rounds ih =>
      cases reacts : loop.react (loop.enter state) (reply round) with
      | stop outcome => simp [run_stop reacts]
      | again next =>
          simp only [run_again reacts, List.pairwise_cons]
          refine ⟨fun request sent isLate => ?_, ih (step _ _ _ holds reacts)⟩
          exact all rounds _ next (step _ _ _ holds reacts)
            (stays _ _ _ holds ((late state holds).mp isLate) reacts) request sent

/-- The rule of pre- and postconditions: every outcome of a run meets what every
round and the exhausted loop promise. -/
theorem run_promises (Inv : σ → Prop) (Post : Out → Prop)
    (step : ∀ state answer, Inv state → (loop.react (loop.enter state) answer).Promises Inv Post)
    (exhausted : ∀ state, Inv state → Post (loop.exhausted state)) (holds : Inv state) :
    Post (loop.run reply rounds round state).2 := by
  induction rounds generalizing round state with
  | zero => exact exhausted state holds
  | succ rounds ih =>
      have promise := step state (reply round) holds
      cases reacts : loop.react (loop.enter state) (reply round) with
      | stop outcome => simpa [run_stop reacts, reacts, Verdict.Promises] using promise
      | again next =>
          rw [reacts] at promise
          simpa [run_again reacts] using ih promise

/-! ## Interruptions -/

section
variable {σ' Out' Int : Type*}

/-- The same loop when a reply may never come: an interruption stops it in the
state that waits for the reply. -/
def interruptible (loop : BoundedLoop σ Req Rep Out) (interrupted : σ → Int → Out) :
    BoundedLoop σ Req (Except Int Rep) Out where
  enter := loop.enter
  request := loop.request
  react state
    | .ok reply => loop.react state reply
    | .error reason => .stop (interrupted state reason)
  exhausted := loop.exhausted

/-- The simulation rule: loops that react alike in related states send the same
requests and end alike. -/
theorem run_simulates {Rep' : Type*} {other : BoundedLoop σ' Req Rep' Out'} {reply' : Nat → Rep'}
    {R : σ → σ' → Prop} {Q : Out → Out' → Prop}
    (requests : ∀ state state', R state state' →
      loop.request (loop.enter state) = other.request (other.enter state'))
    (reacts : ∀ round state state', R state state' → Verdict.Related R Q
      (loop.react (loop.enter state) (reply round)) (other.react (other.enter state') (reply' round)))
    (exhausted : ∀ state state', R state state' → Q (loop.exhausted state) (other.exhausted state'))
    {state : σ} {state' : σ'} (related : R state state') :
    (loop.run reply rounds round state).1 = (other.run reply' rounds round state').1 ∧
      Q (loop.run reply rounds round state).2 (other.run reply' rounds round state').2 := by
  induction rounds generalizing round state state' with
  | zero => exact ⟨rfl, exhausted _ _ related⟩
  | succ rounds ih =>
      have verdicts := reacts round state state' related
      simp only [run]
      generalize loop.react (loop.enter state) (reply round) = first at verdicts ⊢
      generalize other.react (other.enter state') (reply' round) = second at verdicts ⊢
      cases verdicts with
      | stop ends => exact ⟨by rw [requests _ _ related], ends⟩
      | again goesOn =>
          obtain ⟨sent, ends⟩ := @ih (round + 1) _ _ goesOn
          refine ⟨?_, ends⟩
          dsimp only
          rw [requests _ _ related, sent]

end

end BoundedLoop

end HarnessProxy.Data

import Mathlib.Logic.Relation

namespace HarnessProxy.Data

/-! # Programs that call their surroundings

A program makes one call after another and raises or returns at last.  It may be
killed between any two calls, and the surroundings keep what was done.  `Keeps`
is the Hoare logic of such programs: what holds at every point where a run can
be cut off, what may be called there, and what holds at the end.
-/

/-- A program whose call of `op` is answered by a `Reply op`. -/
inductive Program (Op : Type) (Reply : Op → Type) (ε α : Type) where
  | done (result : Except ε α)
  | call (op : Op) (next : Reply op → Program Op Reply ε α)

variable {Op : Type} {Reply : Op → Type} {ε α β σ : Type}

namespace Program

def bind : Program Op Reply ε α → (α → Program Op Reply ε β) → Program Op Reply ε β
  | done (.ok value), rest => rest value
  | done (.error error), _ => done (.error error)
  | call op next, rest => call op fun reply => (next reply).bind rest

instance : Monad (Program Op Reply ε) where
  pure value := done (.ok value)
  bind := bind

/-- The reply to one call. -/
def ask (op : Op) : Program Op Reply ε (Reply op) := call op fun reply => done (.ok reply)

def raise (error : ε) : Program Op Reply ε α := done (.error error)

/-- `if not condition: raise error` -/
def require (condition : Prop) [Decidable condition] (error : ε) : Program Op Reply ε Unit :=
  if condition then pure () else raise error

/-- A value that may be missing. -/
def orRaise (error : ε) : Option α → Program Op Reply ε α
  | some value => pure value
  | none => raise error

def lift (outcome : Except ε α) : Program Op Reply ε α := done outcome

end Program

open Program

/-- What the surroundings may reply to a call, and what they become. -/
abbrev Surroundings (Op : Type) (Reply : Op → Type) (σ : Type) := σ → (op : Op) → Reply op → σ → Prop

/-- One call is made and answered. -/
inductive Steps (world : Surroundings Op Reply σ) : Program Op Reply ε α × σ → Program Op Reply ε α × σ → Prop
  | call {state after : σ} {op : Op} {next : Reply op → Program Op Reply ε α} {reply : Reply op}
      (answered : world state op reply after) : Steps world (.call op next, state) (next reply, after)

abbrev Reaches (world : Surroundings Op Reply σ) :
    Program Op Reply ε α × σ → Program Op Reply ε α × σ → Prop :=
  Relation.ReflTransGen (Steps world)

/-- One run of a program after another, each of them to its end or killed before. -/
inductive Session (world : Surroundings Op Reply σ) (program : Program Op Reply ε α) : σ → σ → Prop
  | start (state : σ) : Session world program state state
  | run {first state after : σ} {rest : Program Op Reply ε α} (earlier : Session world program first state)
      (reached : Reaches world (program, state) (rest, after)) : Session world program first after

/-- What holds at every point of a run and what may be called there. -/
structure Duty (Op σ : Type) where
  holds : σ → Prop
  allows : σ → Op → Prop

variable {world : Surroundings Op Reply σ} {duty : Duty Op σ} {ends ends' : Except ε α → σ → Prop}

/-- Every run of the program does its duty, and ends as it should. -/
def Keeps (world : Surroundings Op Reply σ) (duty : Duty Op σ) (ends : Except ε α → σ → Prop) :
    Program Op Reply ε α → σ → Prop
  | .done result, state => duty.holds state ∧ ends result state
  | .call op next, state => duty.holds state ∧ duty.allows state op ∧
      ∀ reply after, world state op reply after → Keeps world duty ends (next reply) after

theorem Keeps.holds {program : Program Op Reply ε α} {state : σ} (keeps : Keeps world duty ends program state) :
    duty.holds state := by
  cases program with
  | done result => exact keeps.1
  | call op next => exact keeps.1

theorem Keeps.mono {program : Program Op Reply ε α} {state : σ} (keeps : Keeps world duty ends program state)
    (weaker : ∀ result after, duty.holds after → ends result after → ends' result after) :
    Keeps world duty ends' program state := by
  induction program generalizing state with
  | done result => exact ⟨keeps.1, weaker result state keeps.1 keeps.2⟩
  | call op next ih => exact ⟨keeps.1, keeps.2.1, fun reply after answered => ih reply (keeps.2.2 reply after answered)⟩

/-- The rule of sequences. -/
theorem Keeps.bind {program : Program Op Reply ε α} {rest : α → Program Op Reply ε β} {last : Except ε β → σ → Prop} {state : σ}
    (keeps : Keeps world duty (fun result after => match result with
      | .ok value => Keeps world duty last (rest value) after
      | .error error => last (.error error) after) program state) :
    Keeps world duty last (program >>= rest) state := by
  change Keeps world duty last (program.bind rest) state
  induction program generalizing state with
  | done result =>
      cases result with
      | ok value => exact keeps.2
      | error error => exact keeps
  | call op next ih => exact ⟨keeps.1, keeps.2.1, fun reply after answered => ih reply (keeps.2.2 reply after answered)⟩

/-- One program after another, by what the first one ends with. -/
theorem Keeps.seq {program : Program Op Reply ε α} {rest : α → Program Op Reply ε β} {last : Except ε β → σ → Prop} {state : σ}
    (first : Keeps world duty ends program state)
    (fails : ∀ error after, ends (.error error) after → last (.error error) after)
    (passes : ∀ value after, duty.holds after → ends (.ok value) after → Keeps world duty last (rest value) after) :
    Keeps world duty last (program >>= rest) state := by
  refine Keeps.bind (first.mono fun result after holds ended => ?_)
  cases result with
  | ok value => exact passes value after holds ended
  | error error => exact fails error after ended

/-- An end that is about the value only. -/
def Returning (claim : α → σ → Prop) : Except ε α → σ → Prop
  | .ok value, state => claim value state
  | .error _, _ => True

theorem Keeps.pure {value : α} {state : σ} (holds : duty.holds state) (last : ends (.ok value) state) :
    Keeps world duty ends (pure value : Program Op Reply ε α) state := ⟨holds, last⟩

theorem Keeps.raise {error : ε} {state : σ} (holds : duty.holds state) (last : ends (.error error) state) :
    Keeps world duty ends (raise error : Program Op Reply ε α) state := ⟨holds, last⟩

theorem Keeps.ended {outcome : Except ε α} {state : σ} (holds : duty.holds state) (last : ends outcome state) :
    Keeps world duty ends (lift outcome : Program Op Reply ε α) state := ⟨holds, last⟩

/-- The rule of a call. -/
theorem Keeps.ask {op : Op} {rest : Reply op → Program Op Reply ε β} {last : Except ε β → σ → Prop} {state : σ}
    (holds : duty.holds state) (allowed : duty.allows state op)
    (answers : ∀ reply after, world state op reply after → Keeps world duty last (rest reply) after) :
    Keeps world duty last (ask op >>= rest) state := ⟨holds, allowed, answers⟩

/-- The rule of a check. -/
theorem Keeps.require {condition : Prop} [Decidable condition] {error : ε} {rest : Unit → Program Op Reply ε β}
    {last : Except ε β → σ → Prop} {state : σ} (holds : duty.holds state) (fails : ¬ condition → last (.error error) state)
    (passes : condition → Keeps world duty last (rest ()) state) :
    Keeps world duty last (Program.require condition error >>= rest) state := by
  unfold Program.require
  split
  · next met => exact passes met
  · next unmet => exact ⟨holds, fails unmet⟩

theorem Keeps.orRaise {error : ε} {value : Option α} {rest : α → Program Op Reply ε β}
    {last : Except ε β → σ → Prop} {state : σ} (holds : duty.holds state) (fails : value = none → last (.error error) state)
    (passes : ∀ found, value = some found → Keeps world duty last (rest found) state) :
    Keeps world duty last (Program.orRaise error value >>= rest) state := by
  cases value with
  | none => exact ⟨holds, fails rfl⟩
  | some found => exact passes found rfl

theorem Keeps.lift {outcome : Except ε α} {rest : α → Program Op Reply ε β} {last : Except ε β → σ → Prop} {state : σ}
    (holds : duty.holds state) (fails : ∀ error, outcome = .error error → last (.error error) state)
    (passes : ∀ value, outcome = .ok value → Keeps world duty last (rest value) state) :
    Keeps world duty last (Program.lift outcome >>= rest) state := by
  cases outcome with
  | error error => exact ⟨holds, fails error rfl⟩
  | ok value => exact passes value rfl

/-! ## Reached points -/

theorem Reaches.ask {op : Op} {rest : Reply op → Program Op Reply ε α} {state after : σ}
    {target : Program Op Reply ε α × σ} (reply : Reply op) (answered : world state op reply after)
    (reached : Reaches world (rest reply, after) target) : Reaches world (ask op >>= rest, state) target :=
  .head (.call answered) reached

theorem Reaches.require {condition : Prop} [Decidable condition] {error : ε} {rest : Unit → Program Op Reply ε α} {state : σ}
    {target : Program Op Reply ε α × σ} (holds : condition) (reached : Reaches world (rest (), state) target) :
    Reaches world (Program.require condition error >>= rest, state) target := by
  rw [Program.require, if_pos holds]
  exact reached

theorem Reaches.orRaise {error : ε} {value : Option α} {found : α} {rest : α → Program Op Reply ε β} {state : σ}
    {target : Program Op Reply ε β × σ} (known : value = some found) (reached : Reaches world (rest found, state) target) :
    Reaches world (Program.orRaise error value >>= rest, state) target := by
  rw [known]
  exact reached

/-- What every call of a run leaves as it is. -/
theorem Reaches.keeps (kept : σ → Prop) {program rest : Program Op Reply ε α} {state after : σ}
    (reached : Reaches world (program, state) (rest, after)) (start : kept state)
    (step : ∀ op next reply middle last, Reaches world (program, state) (.call op next, middle) → kept middle →
      world middle op reply last → kept last) : kept after := by
  generalize stop : (rest, after) = target at reached
  induction reached generalizing rest after with
  | refl =>
      cases stop
      exact start
  | tail earlier single ih =>
      cases single with
      | call answered =>
          cases stop
          exact step _ _ _ _ _ earlier (ih rfl) answered

/-! ## Runs -/

theorem Keeps.reaches {program rest : Program Op Reply ε α} {state after : σ} (keeps : Keeps world duty ends program state)
    (reached : Reaches world (program, state) (rest, after)) : Keeps world duty ends rest after := by
  generalize start : (program, state) = first at reached
  generalize stop : (rest, after) = last at reached
  induction reached generalizing rest after with
  | refl =>
      cases start
      cases stop
      exact keeps
  | tail earlier step ih =>
      cases step with
      | call answered =>
          cases stop
          exact (ih rfl).2.2 _ _ answered

/-- What every run keeps holds in every session. -/
theorem Session.holds {program : Program Op Reply ε α} {first state : σ} (session : Session world program first state)
    (each : ∀ state, duty.holds state → Keeps world duty ends program state) (start : duty.holds first) :
    duty.holds state := by
  induction session with
  | start => exact start
  | run _ reached ih => exact ((each _ ih).reaches reached).holds

/-- What is called in a session is allowed where it is called. -/
theorem Session.allows {program : Program Op Reply ε α} {first state after : σ} (session : Session world program first state)
    (each : ∀ state, duty.holds state → Keeps world duty ends program state) (start : duty.holds first) {op : Op}
    {next : Reply op → Program Op Reply ε α} (reached : Reaches world (program, state) (.call op next, after)) :
    duty.allows after op :=
  ((each state (session.holds each start)).reaches reached).2.1

theorem Session.trans {program : Program Op Reply ε α} {first state last : σ} (earlier : Session world program first state)
    (later : Session world program state last) : Session world program first last := by
  induction later with
  | start => exact earlier
  | run _ reached ih => exact .run ih reached

end HarnessProxy.Data

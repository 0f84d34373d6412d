import HarnessProxy.Api.InterventionCounts

namespace HarnessProxy.Api

open HarnessProxy.Json HarnessProxy.Service HarnessProxy.Streaming
open HarnessProxy.Timing (Outcome classify)

/-! # Counters and outcomes of a sequence of requests

The reconciliation of a qualification run compares the error counters of the
process with the outcomes that were captured.  Each request moves both sides by
the same amount, except that a cancellation which raises no `ProxyError` is
never counted as an error.
-/

/-- The counters after requests in sequence, and the captured outcomes. -/
def serveAll (py : Python) (settings : ApiSettings) : Counters → List Request → Counters × List Outcome
  | counters, [] => (counters, [])
  | counters, request :: rest =>
    let served := serve py settings request counters
    let others := serveAll py settings served.1 rest
    (others.1, served.2 :: others.2)

/-- The equations that `_checks` requires of the error counters. -/
structure Reconciles (before after : Counters) (outcomes : List Outcome) : Prop where
  errors : after.errors =
    before.errors + (outcomes.count .failed + outcomes.count .cancelled + outcomes.count .deadline)
  cancellations : after.cancellations = before.cancellations + outcomes.count .cancelled
  deadlineExpiries : after.deadlineExpiries = before.deadlineExpiries + outcomes.count .deadline

instance (before after : Counters) (outcomes : List Outcome) : Decidable (Reconciles before after outcomes) :=
  decidable_of_iff
    (after.errors = before.errors +
        (outcomes.count .failed + outcomes.count .cancelled + outcomes.count .deadline) ∧
      after.cancellations = before.cancellations + outcomes.count .cancelled ∧
      after.deadlineExpiries = before.deadlineExpiries + outcomes.count .deadline)
    ⟨fun ⟨errors, cancellations, deadlines⟩ => ⟨errors, cancellations, deadlines⟩,
      fun ⟨errors, cancellations, deadlines⟩ => ⟨errors, cancellations, deadlines⟩⟩

/-- The counters of `Reconciles`. -/
@[ext] structure ErrorCounts where
  errors : Nat
  cancellations : Nat
  deadlineExpiries : Nat

instance : Add ErrorCounts where
  add left right := ⟨left.errors + right.errors, left.cancellations + right.cancellations,
    left.deadlineExpiries + right.deadlineExpiries⟩

@[simp] theorem ErrorCounts.add_mk (a b c d e f : Nat) :
    (⟨a, b, c⟩ + ⟨d, e, f⟩ : ErrorCounts) = ⟨a + d, b + e, c + f⟩ := rfl

theorem ErrorCounts.add_assoc (a b c : ErrorCounts) : a + b + c = a + (b + c) :=
  ErrorCounts.ext (Nat.add_assoc ..) (Nat.add_assoc ..) (Nat.add_assoc ..)

theorem ErrorCounts.add_right_comm (a b c : ErrorCounts) : a + b + c = a + c + b :=
  ErrorCounts.ext (Nat.add_right_comm ..) (Nat.add_right_comm ..) (Nat.add_right_comm ..)

def Counters.errorCounts (counters : Counters) : ErrorCounts :=
  ⟨counters.errors, counters.cancellations, counters.deadlineExpiries⟩

/-- What one outcome stands for on the other side of the equations. -/
def countsOf : Outcome → ErrorCounts
  | .succeeded => ⟨0, 0, 0⟩
  | .failed => ⟨1, 0, 0⟩
  | .cancelled => ⟨1, 1, 0⟩
  | .deadline => ⟨1, 0, 1⟩

section
variable (py : Python) (settings : ApiSettings) (request : Request) (counters : Counters)

/-- The task of the request is cancelled while the endpoint runs, or its replay
is cancelled: the two branches that count a cancellation alone. -/
def cancelledQuietly : Bool :=
  match (chat py settings request counters).1 with
  | .error (.interrupted .cancelled) => true
  | .ok (some _) => streamResponse request.sends = .cancelled
  | _ => false

/-- The control flow of the endpoint does not read the counters. -/
theorem chat_exit : (chat py settings request counters).1 = (chat py settings request {}).1 := by
  have served : (serveAdmitted py settings request counters).1 = (serveAdmitted py settings request {}).1 := by
    unfold serveAdmitted observeResult
    cases admitPayload settings request with
    | error exit => rfl
    | ok admitted =>
        obtain ⟨payload, replayOptions, options⟩ := admitted
        dsimp only
        cases completeWhileConnected request.waiting
            (watch py settings.service request.awaited options payload).ending with
        | error exit => rfl
        | ok result =>
            dsimp only
            cases buildResponse settings request replayOptions result with
            | error exit => rfl
            | ok response =>
                dsimp only
                split <;> rfl
  unfold chat
  generalize serveAdmitted py settings request counters = left at served ⊢
  generalize serveAdmitted py settings request {} = right at served ⊢
  obtain ⟨exit, state⟩ := left
  obtain ⟨other, start⟩ := right
  cases served
  split <;> simp_all

/-- How the error counters and the classification stand when the endpoint has
returned or raised. -/
def Classified (before : ErrorCounts) : Except Exit Response × EndpointState → Prop
  | (.ok none, state) => state.outcome = some .succeeded ∧ state.counters.errorCounts = before
  | (.ok (some _), state) => state.outcome = none ∧ state.counters.errorCounts = before
  | (.error (.proxy error), state) =>
    (state.outcome = none ∨ state.outcome = some .deadline ∧ error = deadlineExceeded) ∧
      state.counters.errorCounts = before
  | (.error (.interrupted .cancelled), state) =>
    state.outcome = some .cancelled ∧ state.counters.errorCounts = before + ⟨0, 1, 0⟩
  | (.error (.interrupted .timeout), _) => False
  | (.error (.interrupted .other), _) => True

/-- A body is replayed exactly when the client asked for a stream. -/
theorem buildResponse_isNone {replayOptions : Option ReplayOptions} {result : ChatResult} {response : Response}
    (built : buildResponse settings request replayOptions result = .ok response) :
    response.isNone = replayOptions.isNone := by
  unfold buildResponse at built
  split at built
  · split at built <;> cases built
    rfl
  · split at built <;> cases built
    rfl

/-- The classification that the `try` block leaves. -/
def blockOutcome : Except Exit Response → Option Outcome
  | .ok none => some .succeeded
  | _ => none

/-- The `try` block classifies nothing but a buffered success. -/
theorem serveAdmitted_unclassified {exit : Except Exit Response} {state : EndpointState}
    (served : serveAdmitted py settings request counters = (exit, state)) :
    state.counters.errorCounts = counters.errorCounts ∧ state.outcome = blockOutcome exit := by
  unfold serveAdmitted observeResult at served
  dsimp only at served
  split at served
  · cases served
    exact ⟨rfl, rfl⟩
  · split at served
    · cases served
      exact ⟨rfl, rfl⟩
    · split at served
      · cases served
        exact ⟨rfl, rfl⟩
      · next replayOptions _ _ _ _ _ _ response built =>
        split at served
        · cases served
          exact ⟨rfl, rfl⟩
        · cases served
          refine ⟨rfl, ?_⟩
          have same := buildResponse_isNone settings request built
          dsimp only
          rw [← same]
          cases response <;> rfl

theorem chat_classified : Classified counters.errorCounts (chat py settings request counters) := by
  cases served : serveAdmitted py settings request counters with
  | mk exit state =>
      obtain ⟨counted, outcome⟩ := serveAdmitted_unclassified py settings request counters served
      unfold chat
      rw [served]
      cases exit with
      | ok response => cases response <;> exact ⟨outcome, counted⟩
      | error exit =>
          have unclassified : state.outcome = none := outcome
          cases exit with
          | proxy error => exact ⟨.inl unclassified, counted⟩
          | interrupted reason =>
              cases reason with
              | timeout =>
                  refine ⟨.inr ⟨?_, rfl⟩, counted⟩
                  dsimp only
                  rw [unclassified]
                  rfl
              | cancelled =>
                  refine ⟨?_, ?_⟩
                  · dsimp only
                    rw [unclassified]
                    rfl
                  · rw [← counted]
                    rfl
              | other => trivial

/-- The error handler counts an error the way it classifies it. -/
theorem observeError_errorCounts (error : ProxyError) :
    (counters.observeError error).errorCounts = counters.errorCounts + countsOf (errorOutcome error) := by
  have different : Text.literal "request_deadline_exceeded" ≠ "downstream_disconnected" := by decide
  unfold errorOutcome
  split
  · next deadline => simp [Counters.observeError, Counters.errorCounts, countsOf, deadline, different, tally]
  · next notDeadline =>
    split
    · next cancelled =>
      simp [Counters.observeError, Counters.errorCounts, countsOf, cancelled, different.symm, tally]
    · next notCancelled =>
      simp [Counters.observeError, Counters.errorCounts, countsOf, notDeadline, notCancelled, tally]

/-- One request moves the counters as its outcome says, but for a quiet
cancellation. -/
theorem serve_errorCounts (expected : ¬ crashes py settings request counters) :
    (serve py settings request counters).1.errorCounts +
        ⟨tally (cancelledQuietly py settings request counters), 0, 0⟩ =
      counters.errorCounts + countsOf (serve py settings request counters).2 := by
  have classified := chat_classified py settings request counters
  unfold crashes at expected
  unfold serve cancelledQuietly
  generalize chat py settings request counters = result at classified expected ⊢
  obtain ⟨result, state⟩ := result
  cases result with
  | ok response =>
      cases response with
      | none =>
          obtain ⟨outcome, counted⟩ := classified
          dsimp only [deliver]
          rw [outcome, counted]
          rfl
      | some chunks =>
          obtain ⟨outcome, counted⟩ := classified
          rw [← counted]
          dsimp only [deliver]
          cases streamResponse request.sends <;>
            simp [observeReplayOutcome, outcome, classify, Counters.errorCounts, countsOf, tally]
  | error exit =>
      cases exit with
      | proxy error =>
          obtain ⟨outcome, counted⟩ := classified
          have handled : (proxyErrorHandler error state).counters.errorCounts =
              counters.errorCounts + countsOf (errorOutcome error) := by
            dsimp only [proxyErrorHandler]
            rw [observeError_errorCounts, ← counted]
            rfl
          have captured : (proxyErrorHandler error state).outcome = some (errorOutcome error) := by
            dsimp only [proxyErrorHandler]
            rcases outcome with unclassified | ⟨deadline, rfl⟩
            · rw [unclassified]
              rfl
            · rw [deadline]
              rfl
          dsimp only [deliver]
          rw [handled, captured]
          rfl
      | interrupted reason =>
          cases reason with
          | cancelled =>
              obtain ⟨outcome, counted⟩ := classified
              dsimp only [deliver]
              rw [outcome, counted]
              simp [Counters.errorCounts, countsOf, tally]
          | timeout => exact classified.elim
          | other => exact absurd rfl expected

end

section
variable (py : Python) (settings : ApiSettings)

/-- The requests of a sequence whose cancellation is not counted as an error. -/
def quietCancellations (requests : List Request) : Nat :=
  requests.countP fun request => cancelledQuietly py settings request {}

theorem cancelledQuietly_counters (request : Request) (counters : Counters) :
    cancelledQuietly py settings request counters = cancelledQuietly py settings request {} := by
  unfold cancelledQuietly
  rw [chat_exit]

theorem crashes_counters (request : Request) (counters : Counters) :
    crashes py settings request counters ↔ crashes py settings request {} := by
  unfold crashes
  rw [chat_exit]

/-- The other side of the equations for a whole sequence. -/
def outcomeCounts (outcomes : List Outcome) : ErrorCounts :=
  ⟨outcomes.count .failed + outcomes.count .cancelled + outcomes.count .deadline, outcomes.count .cancelled,
    outcomes.count .deadline⟩

theorem outcomeCounts_cons (outcome : Outcome) (rest : List Outcome) :
    outcomeCounts (outcome :: rest) = countsOf outcome + outcomeCounts rest := by
  cases outcome <;> simp [outcomeCounts, countsOf] <;> omega

/-- The counters of a whole sequence, by induction over its requests. -/
theorem serveAll_errorCounts (requests : List Request) (counters : Counters)
    (expected : ∀ request ∈ requests, ¬ crashes py settings request {}) :
    (serveAll py settings counters requests).1.errorCounts + ⟨quietCancellations py settings requests, 0, 0⟩ =
      counters.errorCounts + outcomeCounts (serveAll py settings counters requests).2 := by
  induction requests generalizing counters with
  | nil => rfl
  | cons request rest ih =>
      have first := serve_errorCounts py settings request counters
        fun crashed => expected request (by simp) ((crashes_counters py settings request counters).mp crashed)
      have others := ih (serve py settings request counters).1 fun other member => expected other (by simp [member])
      rw [cancelledQuietly_counters] at first
      have quiet : (⟨quietCancellations py settings (request :: rest), 0, 0⟩ : ErrorCounts) =
          ⟨quietCancellations py settings rest, 0, 0⟩ +
            ⟨tally (cancelledQuietly py settings request {}), 0, 0⟩ := by
        simp [quietCancellations, List.countP_cons, tally]
      dsimp only [serveAll]
      rw [quiet, ← ErrorCounts.add_assoc, others, ErrorCounts.add_right_comm, first, ErrorCounts.add_assoc,
        ← outcomeCounts_cons]

end

/-- A sequence of requests reconciles exactly when none of them was cancelled
quietly. -/
theorem serveAll_reconciles_iff (py : Python) (settings : ApiSettings) (counters : Counters)
    (requests : List Request) (expected : ∀ request ∈ requests, ¬ crashes py settings request {}) :
    Reconciles counters (serveAll py settings counters requests).1
        (serveAll py settings counters requests).2 ↔
      ∀ request ∈ requests, cancelledQuietly py settings request {} = false := by
  have counts := serveAll_errorCounts py settings requests counters expected
  have quiet : quietCancellations py settings requests = 0 ↔
      ∀ request ∈ requests, cancelledQuietly py settings request {} = false := by
    simp [quietCancellations, List.countP_eq_zero]
  rw [← quiet]
  generalize serveAll py settings counters requests = final at counts ⊢
  simp only [Counters.errorCounts, outcomeCounts, ErrorCounts.add_mk, ErrorCounts.mk.injEq, Nat.add_zero] at counts
  obtain ⟨errors, cancellations, deadlines⟩ := counts
  constructor
  · intro reconciled
    have balance := reconciled.errors
    omega
  · intro none
    exact ⟨by omega, by omega, by omega⟩

/-- A cancelled request is captured as cancelled and never counted as an error. -/
theorem serveAll_unreconciled : ¬ Reconciles {}
    (serveAll .reference { service := defaultSettings } {} [abandonedRequest]).1
    (serveAll .reference { service := defaultSettings } {} [abandonedRequest]).2 := by
  decide

/-- The same client, seen to be gone by the proxy itself. -/
def disconnectedRequest : Request := { abandonedRequest with waiting := .disconnected }

theorem serveAll_reconciles_iff_disconnected :
    Reconciles {} (serveAll .reference { service := defaultSettings } {} [disconnectedRequest]).1
        (serveAll .reference { service := defaultSettings } {} [disconnectedRequest]).2 ↔
      ∀ request ∈ [disconnectedRequest],
        cancelledQuietly .reference { service := defaultSettings } request {} = false :=
  serveAll_reconciles_iff _ _ _ _ (by decide)

end HarnessProxy.Api

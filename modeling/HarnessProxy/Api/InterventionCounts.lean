import HarnessProxy.Api.Endpoint
import HarnessProxy.Service.TerminalRelease

namespace HarnessProxy.Api

open HarnessProxy.Json HarnessProxy.Service HarnessProxy.Streaming HarnessProxy.Transcript

/-! # Interventions are counted once

Between the task of a request and the counters of the process stand the shared
list and the telemetry of the result.  A released result is counted from its
telemetry, and the list is cleared; every other end is counted from the list.
-/

instance : Add Interventions where
  add left right := ⟨left.corrections + right.corrections, left.blockedDuplicates + right.blockedDuplicates,
    left.blockedStalls + right.blockedStalls⟩

theorem interventions_add_none (counts : Interventions) : counts + noInterventions = counts := rfl

def Counters.interventions (counters : Counters) : Interventions :=
  ⟨counters.correctionTurns, counters.blockedDuplicates, counters.blockedStalls⟩

@[simp] theorem observe_interventions (counters : Counters) (result : ChatResult) :
    (counters.observe result).interventions = counters.interventions + result.telemetry.interventions := rfl

@[simp] theorem observeInterventions_interventions (counters : Counters) (counts : Interventions) :
    (counters.observeInterventions counts).interventions = counters.interventions + counts := rfl

@[simp] theorem observeError_interventions (error : ProxyError) (counters : Counters) :
    (counters.observeError error).interventions = counters.interventions := rfl

section
variable (py : Python) (settings : ApiSettings) (request : Request) (counters : Counters)

/-- The task of the service, if the request gets that far. -/
def task? : Option Finished :=
  match admitPayload settings request with
  | .ok (payload, _, options) => some (watch py settings.service request.awaited options payload)
  | .error _ => none

/-- What the harness of a request has counted when the request is over. -/
def requestInterventions : Interventions := finalInterventions ((task? py settings request).bind Finished.harness)

/-- A request ends in an exception that the endpoint does not expect. -/
def crashes : Prop := (chat py settings request counters).1 = .error (.interrupted .other)

instance : Decidable (crashes py settings request counters) :=
  decidable_of_iff ((chat py settings request counters).1 matches .error (.interrupted .other)) (by
    unfold crashes
    generalize (chat py settings request counters).1 = result
    cases result with
    | ok response => simp
    | error exit =>
        cases exit with
        | proxy error => simp
        | interrupted reason => cases reason <;> simp)

variable {py settings request counters}

theorem completeWhileConnected_ok {waiting : Waiting} {ending : Except Failure ChatResult} {result : ChatResult}
    (completed : completeWhileConnected waiting ending = .ok result) : ending = .ok result := by
  unfold completeWhileConnected at completed
  split at completed
  · cases completed
    rfl
  all_goals cases completed

theorem completeWhileConnected_crashed {finished : Finished} (crashed : finished.crashed = true)
    (waiting : Waiting) : completeWhileConnected waiting finished.ending = .error (.interrupted .other) := by
  unfold Finished.crashed at crashed
  split at crashed
  · next error ending =>
    rw [ending]
    cases waiting <;> rfl
  · next ending =>
    rw [ending]
    cases waiting <;> rfl
  · cases crashed

/-- Where the interventions of a request are when its `try` block ends. -/
structure Accounted (total : Interventions) (base : Counters) (result : Except Exit Response × EndpointState) :
    Prop where
  released : ∀ response, result.1 = .ok response →
    result.2.counters.interventions = base.interventions + total ∧ result.2.interventions = noInterventions
  raised : ∀ exit, result.1 = .error exit → exit ≠ .interrupted .other →
    result.2.counters.interventions = base.interventions ∧ result.2.interventions = total

theorem accounted_error {total : Interventions} {exit : Exit} {state : EndpointState}
    (counted : state.counters.interventions = counters.interventions)
    (kept : exit ≠ .interrupted .other → state.interventions = total) :
    Accounted total counters (.error exit, state) where
  released _ same := by cases same
  raised _ same expected := by
    cases same
    exact ⟨counted, kept expected⟩

theorem observeResult_accounted {replayOptions : Option ReplayOptions} {result : ChatResult}
    {state : EndpointState} (counted : state.counters.interventions = counters.interventions)
    (kept : state.interventions = result.telemetry.interventions) :
    Accounted result.telemetry.interventions counters
      (observeResult settings request replayOptions result state) := by
  unfold observeResult
  split
  · exact accounted_error counted fun _ => kept
  · split
    · exact accounted_error counted fun _ => kept
    · refine ⟨fun _ _ => ⟨?_, rfl⟩, fun _ same => by cases same⟩
      rw [observe_interventions, counted]

variable (py settings request counters)

theorem serveAdmitted_accounted :
    Accounted (requestInterventions py settings request) counters
      (serveAdmitted py settings request counters) := by
  unfold serveAdmitted requestInterventions task?
  cases admitPayload settings request with
  | error exit => exact accounted_error rfl fun _ => rfl
  | ok admitted =>
      obtain ⟨payload, replayOptions, options⟩ := admitted
      have faithful := watch_faithful py settings.service request.awaited options payload
      dsimp only [Option.bind_some]
      generalize watch py settings.service request.awaited options payload = finished at faithful ⊢
      split
      · next exit waits =>
        refine accounted_error rfl fun expected => ?_
        cases crashed : finished.crashed with
        | false => exact faithful.counts crashed
        | true =>
            rw [completeWhileConnected_crashed crashed] at waits
            cases waits
            exact absurd rfl expected
      · next result waits =>
        have ending := completeWhileConnected_ok waits
        have telemetry := faithful.telemetry result ending
        have counts := faithful.counts (by simp [Finished.crashed, ending])
        rw [← telemetry]
        exact observeResult_accounted rfl (counts.trans telemetry.symm)

/-- Where they are when the endpoint has returned or raised. -/
def Collected (total : Interventions) (base : Counters) : Except Exit Response × EndpointState → Prop
  | (.ok _, state) => state.counters.interventions = base.interventions + total
  | (.error (.proxy _), state) => state.counters.interventions = base.interventions ∧ state.interventions = total
  | (.error (.interrupted reason), state) =>
    reason ≠ .other → state.counters.interventions = base.interventions + total

theorem chat_collected :
    Collected (requestInterventions py settings request) counters (chat py settings request counters) := by
  have accounted := serveAdmitted_accounted py settings request counters
  unfold chat
  cases served : serveAdmitted py settings request counters with
  | mk result state =>
      rw [served] at accounted
      cases result with
      | ok response => exact (accounted.released _ rfl).1
      | error exit =>
          cases exit with
          | proxy error => exact accounted.raised _ rfl (by simp)
          | interrupted reason =>
              cases reason with
              | timeout => exact accounted.raised _ rfl (by simp)
              | cancelled =>
                  obtain ⟨counted, kept⟩ := accounted.raised _ rfl (by simp)
                  intro _
                  rw [observeInterventions_interventions, kept]
                  exact congrArg (· + requestInterventions py settings request) counted
              | other => exact fun expected => absurd rfl expected

theorem observeReplayOutcome_interventions (outcome : ReplayOutcome) (state : EndpointState) :
    (observeReplayOutcome outcome state).counters.interventions = state.counters.interventions := by
  cases outcome <;> rfl

end

/-- Over a whole request the process counts exactly the interventions of its
harness, however the request ends. -/
theorem serve_interventions (py : Python) (settings : ApiSettings) (request : Request) (counters : Counters)
    (expected : ¬ crashes py settings request counters) :
    (serve py settings request counters).1.interventions =
      counters.interventions + requestInterventions py settings request := by
  have collected := chat_collected py settings request counters
  unfold crashes at expected
  unfold serve
  generalize chat py settings request counters = result at collected expected ⊢
  obtain ⟨result, state⟩ := result
  cases result with
  | ok response =>
      cases response with
      | none => exact collected
      | some chunks => exact (observeReplayOutcome_interventions _ _).trans collected
  | error exit =>
      cases exit with
      | proxy error =>
          obtain ⟨counted, kept⟩ := collected
          dsimp only [deliver, proxyErrorHandler]
          rw [observeError_interventions, observeInterventions_interventions, kept, counted]
      | interrupted reason => exact collected fun other => expected (by rw [other])

/-- A repeated call is refused, and the client goes away during the next attempt. -/
def abandonedRequest : Request where
  payload := .ok verifiedRequest
  waiting := .cancelled false
  awaited := { reply := fun round =>
    if round = 0 then .ok (callsReply [functionCall "b" "run_tests" "\x7b\x7d"]) else .error .cancelled }

theorem serve_interventions_abandoned :
    requestInterventions .reference { service := defaultSettings } abandonedRequest = ⟨0, 1, 0⟩ ∧
    (serve .reference { service := defaultSettings } abandonedRequest {}).1.interventions =
      Counters.interventions {} +
        requestInterventions .reference { service := defaultSettings } abandonedRequest :=
  ⟨by decide, serve_interventions _ _ _ _ (by decide)⟩

end HarnessProxy.Api

import HarnessProxy.Admission.Controller
import HarnessProxy.Data.Occupancy

namespace HarnessProxy.Admission

open HarnessProxy.Data

/-! # Turns

The calls of `admit` and `upstream_slot` share one controller.  Each turn of the
event loop lets one call run: a call begins, the permit it waits for is set
aside, it resumes, its wait times out, it is cancelled, or its body ends.  A
semaphore always suspends, and which waiter it serves next is left open.
-/

/-- The gate that a call goes through. -/
inductive Gate where
  | admission (principal : Option Text)
  | upstreamSlot

def Gate.principal : Gate → Option Text
  | .admission principal => principal
  | .upstreamSlot => none

inductive Wake where
  | begin
  | grant
  | resume
  | timeout
  | cancel
  | finish
deriving DecidableEq, Repr

/-- A call that reached the rate charge. -/
structure Charge (τ : Type*) where
  principal : Option Text
  moment : τ
  admitted : Bool
deriving DecidableEq

/-- What a turn leaves behind. -/
structure Turned (τ : Type*) where
  controller : AdmissionController τ
  point : Point τ
  charge : Option (Charge τ) := none

variable {τ ι : Type*} [AddCommGroup τ] [LinearOrder τ]

namespace AdmissionController

/-- `await self._principal(principal_key)`, up to the wait for the budget. -/
def findPrincipal (limits : Limits τ) (principal : Option Text) (opened : τ) (controller : AdmissionController τ) :
    AdmissionController τ × Point τ :=
  if controller.principalsLocked then (controller, .lookup)
  else
    let found := controller.openBudget limits opened (budgetKey limits principal)
    (found.1, .principal found.2 false)

/-- `await self._charge_rate(principal)` and what follows it. -/
def charge (limits : Limits τ) (principal : Option Text) (budget : Nat) (now : τ) (tick : Readings τ)
    (controller : AdmissionController τ) : Turned τ :=
  if (controller.budgets budget).locked then { controller, point := .charge budget now }
  else
    let charged := controller.chargeRate limits budget now
    if charged.2 then
      { controller := { charged.1 with queued := charged.1.queued - 1, active := charged.1.active + 1 }
        point := .body budget
        charge := some { principal, moment := now, admitted := true } }
    else
      let left := charged.1.leave limits budget true false tick.released tick.pruned
      { controller := left.1, point := left.2, charge := some { principal, moment := now, admitted := false } }

end AdmissionController

/-- The result of a function that charges nothing. -/
def Turned.uncharged (result : AdmissionController τ × Point τ) : Turned τ :=
  { controller := result.1, point := result.2 }

/-- `asyncio.Semaphore` gives back the permit of a wait that fails. -/
def giveBack (granted : Bool) (free : Nat) : Nat := if granted then free + 1 else free

/-- One turn of a call. -/
def turn (limits : Limits τ) (gate : Gate) (wake : Wake) (tick : Readings τ) (controller : AdmissionController τ)
    (point : Point τ) : Option (Turned τ) :=
  match wake, point with
  | .begin, .idle => match gate with
    | .admission principal => some (.uncharged (AdmissionController.findPrincipal limits principal tick.opened
        { controller with queued := controller.queued + 1 }))
    | .upstreamSlot => some { controller, point := .slot false }
  | .grant, .principal budget false =>
    if 0 < (controller.budgets budget).free then
      some { controller := controller.update budget fun found => { found with free := found.free - 1 }
             point := .principal budget true }
    else none
  | .grant, .admission budget false =>
    if 0 < controller.admission then
      some { controller := { controller with admission := controller.admission - 1 }
             point := .admission budget true }
    else none
  | .grant, .slot false =>
    if 0 < controller.upstream then
      some { controller := { controller with upstream := controller.upstream - 1 }, point := .slot true }
    else none
  | .resume, .lookup =>
    if controller.principalsLocked then none
    else some (.uncharged (controller.findPrincipal limits gate.principal tick.opened))
  | .resume, .principal budget true => some { controller, point := .admission budget false }
  | .resume, .dropping budget =>
    if controller.principalsLocked then none
    else some (.uncharged (controller.dropReference limits budget tick.pruned))
  | .resume, .admission budget true => some (controller.charge limits gate.principal budget tick.charged tick)
  | .resume, .charge budget now =>
    if (controller.budgets budget).locked then none
    else some (controller.charge limits gate.principal budget now tick)
  | .resume, .releasing budget globalAcquired active =>
    if controller.principalsLocked then none
    else some (.uncharged
      ((controller.releaseReference budget).releaseGlobal limits globalAcquired active tick.pruned))
  | .resume, .prune now =>
    if controller.principalsLocked then none
    else some (.uncharged (AdmissionController.pruneEntries limits now controller.principals.entries
      { controller with principalsLocked := true }))
  | .resume, .pruneEntry entries now =>
    if entries.head?.any fun entry => (controller.budgets entry.2).locked then none
    else some (.uncharged (controller.pruneEntries limits now entries))
  | .resume, .slot true =>
    some { controller := { controller with upstreamActive := controller.upstreamActive + 1 }, point := .slotBody }
  | .timeout, .principal budget granted =>
    some (.uncharged (AdmissionController.dropReference limits budget tick.pruned
      { controller.update budget fun found => { found with free := giveBack granted found.free } with
        admissionRejections := controller.admissionRejections + 1 }))
  | .timeout, .admission budget granted =>
    some (.uncharged (AdmissionController.leave limits budget false false tick.released tick.pruned
      { controller with
        admission := giveBack granted controller.admission
        admissionRejections := controller.admissionRejections + 1 }))
  | .timeout, .slot granted | .cancel, .slot granted =>
    some { controller := { controller with upstream := giveBack granted controller.upstream }, point := .ended }
  | .cancel, .lookup => some (.uncharged (controller.leaveUnacquired limits tick.pruned))
  | .cancel, .principal budget granted =>
    some (.uncharged (AdmissionController.dropReference limits budget tick.pruned
      (controller.update budget fun found => { found with free := giveBack granted found.free })))
  | .cancel, .dropping _ => some (.uncharged (controller.leaveUnacquired limits tick.pruned))
  | .cancel, .admission budget granted =>
    some (.uncharged (AdmissionController.leave limits budget false false tick.released tick.pruned
      { controller with admission := giveBack granted controller.admission }))
  | .cancel, .charge budget _ =>
    some (.uncharged (controller.leave limits budget true false tick.released tick.pruned))
  -- A cancellation inside the `finally` block skips the rest of it.
  | .cancel, .releasing _ _ _ | .cancel, .prune _ => some { controller, point := .ended }
  | .cancel, .pruneEntry _ _ => some { controller := { controller with principalsLocked := false }, point := .ended }
  | .finish, .body budget | .cancel, .body budget =>
    some (.uncharged (controller.leave limits budget true true tick.released tick.pruned))
  | .finish, .slotBody | .cancel, .slotBody =>
    some {
      controller := { controller with
        upstreamActive := controller.upstreamActive - 1
        upstream := controller.upstream + 1 }
      point := .ended }
  | _, _ => none

/-- The calls, their controller, the clock and the charges so far. -/
structure System (ι τ : Type*) where
  controller : AdmissionController τ
  points : ι → Point τ
  clock : τ
  charges : List (Charge τ) := []

namespace System

def start (limits : Limits τ) (clock : τ) : System ι τ where
  controller := .start limits clock
  points _ := .idle
  clock

variable [DecidableEq ι]

/-- One turn of one of the calls.  The clock never runs backwards. -/
def step (limits : Limits τ) (calls : ι → Gate) (system : System ι τ) (call : ι) (wake : Wake)
    (tick : Readings τ) : Option (System ι τ) :=
  if system.clock ≤ tick.opened then
    (turn limits (calls call) wake tick system.controller (system.points call)).map fun turned =>
      { controller := turned.controller
        points := move system.points call turned.point
        clock := tick.pruned
        charges := system.charges ++ turned.charge.toList }
  else none

/-- The states of all runs. -/
inductive Reachable (limits : Limits τ) (calls : ι → Gate) : System ι τ → Prop
  | start (clock : τ) : Reachable limits calls (start limits clock)
  | step {system next : System ι τ} (earlier : Reachable limits calls system) (call : ι) (wake : Wake)
      (tick : Readings τ) (turned : system.step limits calls call wake tick = some next) :
      Reachable limits calls next

/-- A sequence of turns. -/
def run (limits : Limits τ) (calls : ι → Gate) (system : System ι τ) :
    List (ι × Wake × Readings τ) → Option (System ι τ)
  | [] => some system
  | (call, wake, tick) :: turns => (system.step limits calls call wake tick).bind fun next => run limits calls next turns

theorem run_reachable {limits : Limits τ} {calls : ι → Gate} {system last : System ι τ}
    {turns : List (ι × Wake × Readings τ)} (reachable : Reachable limits calls system)
    (ran : system.run limits calls turns = some last) : Reachable limits calls last := by
  induction turns generalizing system with
  | nil => exact Option.some.inj ran ▸ reachable
  | cons entry turns ih =>
      obtain ⟨call, wake, tick⟩ := entry
      obtain ⟨next, turned, rest⟩ := Option.bind_eq_some_iff.mp ran
      exact ih (.step reachable call wake tick turned) rest

end System

end HarnessProxy.Admission

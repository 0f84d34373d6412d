import HarnessProxy.Data.SlidingWindow
import HarnessProxy.Python.Text
import Mathlib.Data.List.AList
import Mathlib.Tactic.Simps.Basic

namespace HarnessProxy.Admission

open HarnessProxy.Data

/-! # The admission controller

`AdmissionController` as the turns of the event loop see it.  A call runs from
one suspension to the next; what it does in between is a function of the
controller that ends with the point where the call waits.  A lock that is held
suspends a call, so every `async with` of a lock is a test here.
-/

inductive BudgetMode where
  | authenticated
  | global
deriving DecidableEq, Repr

/-- The settings that the controller reads. -/
structure Limits (τ : Type*) where
  admissionLimit : Nat
  principalBudgetMode : BudgetMode := .authenticated
  principalConcurrencyLimit : Nat
  principalRateLimit : Nat
  principalRateWindowSeconds : τ
  concurrencyLimit : Nat

/-- `_PrincipalBudget`.  `free` is the value of the semaphore. -/
structure PrincipalBudget (τ : Type*) where
  free : Nat
  arrivals : List τ := []
  locked : Bool := false
  lastUsed : τ
  references : Int := 0

/-- The controller, with the budgets that its tasks may still refer to. -/
structure AdmissionController (τ : Type*) where
  admission : Nat
  upstream : Nat
  principals : AList fun _ : Text => Nat := ∅
  principalsLocked : Bool := false
  budgets : Nat → PrincipalBudget τ
  created : Nat := 0
  active : Int := 0
  queued : Int := 0
  upstreamActive : Int := 0
  admissionRejections : Nat := 0
  rateRejections : Nat := 0

/-- Where a call waits.  `granted` says that its permit has been set aside. -/
inductive Point (τ : Type*) where
  | idle
  | lookup
  | principal (budget : Nat) (granted : Bool)
  | dropping (budget : Nat)
  | admission (budget : Nat) (granted : Bool)
  | charge (budget : Nat) (now : τ)
  | body (budget : Nat)
  | releasing (budget : Nat) (globalAcquired active : Bool)
  | prune (now : τ)
  | pruneEntry (entries : List (Σ _ : Text, Nat)) (now : τ)
  | slot (granted : Bool)
  | slotBody
  | ended

/-- The readings of the clock in one turn, in the order of the source. -/
structure Readings (τ : Type*) [LE τ] where
  opened : τ
  charged : τ
  released : τ
  pruned : τ
  opened_le : opened ≤ charged
  charged_le : charged ≤ released
  released_le : released ≤ pruned

/-- A turn during which the clock shows one reading. -/
def Readings.steady {τ : Type*} [Preorder τ] (now : τ) : Readings τ :=
  ⟨now, now, now, now, le_rfl, le_rfl, le_rfl⟩

def globalBudgetKey : Text := "global"

variable {τ : Type*}

/-- The key of the budget of a principal. -/
def budgetKey (limits : Limits τ) (key : Option Text) : Text :=
  match limits.principalBudgetMode, key with
  | .authenticated, some key => key
  | _, _ => globalBudgetKey

namespace AdmissionController

def start (limits : Limits τ) (clock : τ) : AdmissionController τ where
  admission := limits.admissionLimit
  upstream := limits.concurrencyLimit
  budgets _ := { free := limits.principalConcurrencyLimit, lastUsed := clock }

@[simps] def update (controller : AdmissionController τ) (budget : Nat)
    (change : PrincipalBudget τ → PrincipalBudget τ) : AdmissionController τ :=
  { controller with
    budgets := fun other => if other = budget then change (controller.budgets budget) else controller.budgets other }

def budget? (controller : AdmissionController τ) (key : Text) : Option Nat := controller.principals.lookup key

/-- `_principal` under its lock. -/
def openBudget (limits : Limits τ) (opened : τ) (key : Text) (controller : AdmissionController τ) :
    AdmissionController τ × Nat :=
  match controller.budget? key with
  | some budget => (controller.update budget fun found => { found with references := found.references + 1 }, budget)
  | none =>
    let fresh := controller.created
    ({ controller.update fresh fun _ =>
        { free := limits.principalConcurrencyLimit, lastUsed := opened, references := 1 } with
      principals := controller.principals.insert key fresh
      created := fresh + 1 }, fresh)

/-- What `_principal` can do. -/
theorem openBudget_cases (limits : Limits τ) (opened : τ) (key : Text) (controller : AdmissionController τ) :
    (∃ budget, controller.budget? key = some budget ∧ controller.openBudget limits opened key =
      (controller.update budget fun found => { found with references := found.references + 1 }, budget)) ∨
    (controller.budget? key = none ∧ controller.openBudget limits opened key =
      ({ controller.update controller.created fun _ =>
          { free := limits.principalConcurrencyLimit, lastUsed := opened, references := 1 } with
        principals := controller.principals.insert key controller.created
        created := controller.created + 1 }, controller.created)) := by
  unfold openBudget
  cases found : controller.budget? key with
  | some budget => exact .inl ⟨budget, rfl, rfl⟩
  | none => exact .inr ⟨rfl, rfl⟩

/-- `_release_principal_reference` under its lock. -/
@[simps!] def releaseReference (budget : Nat) (controller : AdmissionController τ) : AdmissionController τ :=
  controller.update budget fun found => { found with references := found.references - 1 }

variable [AddCommGroup τ] [LinearOrder τ]

/-- `_charge_rate` under the lock of the budget, and whether it returns. -/
def chargeRate (limits : Limits τ) (budget : Nat) (now : τ) (controller : AdmissionController τ) :
    AdmissionController τ × Bool :=
  let kept := expire (now - limits.principalRateWindowSeconds) (controller.budgets budget).arrivals
  if limits.principalRateLimit ≤ kept.length then
    ({ controller.update budget fun found => { found with arrivals := kept } with
      rateRejections := controller.rateRejections + 1 }, false)
  else
    (controller.update budget fun found => { found with arrivals := kept ++ [now], lastUsed := now }, true)

/-- One round of the loop of `_prune_principals` under both locks. -/
def pruneBudget (limits : Limits τ) (now : τ) (key : Text) (budget : Nat) (controller : AdmissionController τ) :
    AdmissionController τ :=
  let kept := expire (now - limits.principalRateWindowSeconds) (controller.budgets budget).arrivals
  let trimmed := controller.update budget fun found => { found with arrivals := kept }
  if (controller.budgets budget).references = 0 ∧ kept = [] ∧
      (controller.budgets budget).lastUsed ≤ now - limits.principalRateWindowSeconds then
    { trimmed with principals := controller.principals.erase key }
  else trimmed

/-- The loop of `_prune_principals`, which holds the lock of the principals. -/
def pruneEntries (limits : Limits τ) (now : τ) :
    List (Σ _ : Text, Nat) → AdmissionController τ → AdmissionController τ × Point τ
  | [], controller => ({ controller with principalsLocked := false }, .ended)
  | ⟨key, budget⟩ :: entries, controller =>
    if (controller.budgets budget).locked then (controller, .pruneEntry (⟨key, budget⟩ :: entries) now)
    else pruneEntries limits now entries (controller.pruneBudget limits now key budget)

/-- `_prune_principals` -/
def prunePrincipals (limits : Limits τ) (now : τ) (controller : AdmissionController τ) :
    AdmissionController τ × Point τ :=
  if controller.principals.entries = [] then (controller, .ended)
  else if controller.principalsLocked then (controller, .prune now)
  else pruneEntries limits now controller.principals.entries { controller with principalsLocked := true }

/-- The end of the `finally` block of `admit`. -/
def releaseGlobal (limits : Limits τ) (globalAcquired active : Bool) (pruned : τ)
    (controller : AdmissionController τ) : AdmissionController τ × Point τ :=
  let controller := if globalAcquired then
      { controller with
        active := if active then controller.active - 1 else controller.active
        admission := controller.admission + 1 }
    else controller
  controller.prunePrincipals limits pruned

/-- The `finally` block of `admit` when no budget was acquired. -/
def leaveUnacquired (limits : Limits τ) (pruned : τ) (controller : AdmissionController τ) :
    AdmissionController τ × Point τ :=
  releaseGlobal limits false false pruned { controller with queued := controller.queued - 1 }

/-- The `finally` block of `admit` with the budget acquired. -/
def leave (limits : Limits τ) (budget : Nat) (globalAcquired active : Bool) (released pruned : τ)
    (controller : AdmissionController τ) : AdmissionController τ × Point τ :=
  let controller := { controller.update budget fun found =>
      { found with free := found.free + 1, lastUsed := released } with
    queued := if active then controller.queued else controller.queued - 1 }
  if controller.principalsLocked then (controller, .releasing budget globalAcquired active)
  else releaseGlobal limits globalAcquired active pruned (controller.releaseReference budget)

/-- The handler of `admit` when the semaphore of the budget was not acquired. -/
def dropReference (limits : Limits τ) (budget : Nat) (pruned : τ) (controller : AdmissionController τ) :
    AdmissionController τ × Point τ :=
  if controller.principalsLocked then (controller, .dropping budget)
  else leaveUnacquired limits pruned (controller.releaseReference budget)

variable {limits : Limits τ} {controller : AdmissionController τ} {budget : Nat} {now released : τ}

/-- What `_charge_rate` can do. -/
theorem chargeRate_cases (limits : Limits τ) (budget : Nat) (now : τ) (controller : AdmissionController τ) :
    (limits.principalRateLimit ≤
        (expire (now - limits.principalRateWindowSeconds) (controller.budgets budget).arrivals).length ∧
      controller.chargeRate limits budget now =
        ({ controller.update budget fun found => { found with
            arrivals := expire (now - limits.principalRateWindowSeconds) (controller.budgets budget).arrivals } with
          rateRejections := controller.rateRejections + 1 }, false)) ∨
    ((expire (now - limits.principalRateWindowSeconds) (controller.budgets budget).arrivals).length <
        limits.principalRateLimit ∧
      controller.chargeRate limits budget now =
        (controller.update budget fun found => { found with
          arrivals := expire (now - limits.principalRateWindowSeconds) (controller.budgets budget).arrivals ++ [now]
          lastUsed := now }, true)) := by
  by_cases full : limits.principalRateLimit ≤
      (expire (now - limits.principalRateWindowSeconds) (controller.budgets budget).arrivals).length
  · exact .inl ⟨full, if_pos full⟩
  · exact .inr ⟨Nat.lt_of_not_le full, if_neg full⟩

/-- The controller that `leave` prunes. -/
@[simps!] def left (budget : Nat) (globalAcquired active : Bool) (released : τ) (controller : AdmissionController τ) :
    AdmissionController τ :=
  { controller.update budget fun found =>
      { found with free := found.free + 1, lastUsed := released, references := found.references - 1 } with
    queued := if active then controller.queued else controller.queued - 1
    active := if globalAcquired && active then controller.active - 1 else controller.active
    admission := if globalAcquired then controller.admission + 1 else controller.admission }

/-- The controller that `dropReference` prunes. -/
@[simps!] def dropped (budget : Nat) (controller : AdmissionController τ) : AdmissionController τ :=
  { controller.releaseReference budget with queued := controller.queued - 1 }

theorem leave_unlocked (unlocked : controller.principalsLocked = false) (globalAcquired active : Bool)
    (released pruned : τ) :
    controller.leave limits budget globalAcquired active released pruned =
      (controller.left budget globalAcquired active released).prunePrincipals limits pruned := by
  have once (other : Nat) (one two : PrincipalBudget τ) : (if other = budget then one else if other = budget then two
      else controller.budgets other) = if other = budget then one else controller.budgets other := by
    by_cases same : other = budget <;> simp [same]
  cases globalAcquired <;> cases active <;>
    simp [leave, left, releaseGlobal, releaseReference, update, unlocked, once]

theorem dropReference_unlocked (unlocked : controller.principalsLocked = false) (pruned : τ) :
    controller.dropReference limits budget pruned = (controller.dropped budget).prunePrincipals limits pruned := by
  simp only [dropReference, unlocked, Bool.false_eq_true, if_false]
  rfl

end AdmissionController

end HarnessProxy.Admission

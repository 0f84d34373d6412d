import HarnessProxy.Admission.Prune
import HarnessProxy.Admission.Turns

namespace HarnessProxy.Admission

open HarnessProxy.Data

/-! # What a turn can do

While no lock is held, a turn keeps the locks free and never ends at one: the
blocks under the lock of a budget never wait, and so neither does the loop that
prunes.  `Turning` names the five things that are left for a turn to do.
-/

namespace Point

variable {τ : Type*}

/-- Between the entry of `admit` and the admission. -/
@[simp] def queued : Point τ → Bool
  | lookup | principal .. | dropping .. | admission .. | charge .. => true
  | _ => false

@[simp] def inBody : Point τ → Bool
  | body _ => true
  | _ => false

@[simp] def inSlot : Point τ → Bool
  | slotBody => true
  | _ => false

/-- The call holds the budget or waits for it. -/
@[simp] def refersTo (budget : Nat) : Point τ → Bool
  | principal other _ | dropping other | admission other _ | charge other _ | body other | releasing other _ _ =>
    other = budget
  | _ => false

@[simp] def holdsBudget (budget : Nat) : Point τ → Bool
  | principal other granted => granted && other = budget
  | admission other _ | charge other _ | body other => other = budget
  | _ => false

/-- The call holds some budget. -/
def hasBudget : Point τ → Bool
  | principal _ granted => granted
  | admission .. | charge .. | body _ => true
  | _ => false

@[simp] def holdsAdmission : Point τ → Bool
  | admission _ granted => granted
  | charge .. | body _ => true
  | releasing _ globalAcquired _ => globalAcquired
  | _ => false

@[simp] def holdsSlot : Point τ → Bool
  | slot granted => granted
  | slotBody => true
  | _ => false

/-- The call waits for a lock. -/
@[simp] def awaitsLock : Point τ → Bool
  | lookup | dropping _ | charge .. | releasing .. | prune _ | pruneEntry .. => true
  | _ => false

/-- The call has not begun, or it has ended. -/
def outside : Point τ → Bool
  | idle | ended => true
  | _ => false

end Point

variable {τ : Type*} {limits : Limits τ} {controller after : AdmissionController τ} {point next : Point τ}

/-- What a turn gives to the controller it takes from the point, and back. -/
structure Exchanged (controller : AdmissionController τ) (point : Point τ) (after : AdmissionController τ)
    (next : Point τ) : Prop where
  queued : after.queued + (point.queued.toNat : Int) = controller.queued + next.queued.toNat
  active : after.active + (point.inBody.toNat : Int) = controller.active + next.inBody.toNat
  upstreamActive : after.upstreamActive + (point.inSlot.toNat : Int) = controller.upstreamActive + next.inSlot.toNat
  references : ∀ budget, (after.budgets budget).references + ((point.refersTo budget).toNat : Int) =
    (controller.budgets budget).references + (next.refersTo budget).toNat
  free : ∀ budget, (after.budgets budget).free + (next.holdsBudget budget).toNat =
    (controller.budgets budget).free + (point.holdsBudget budget).toNat
  admission : after.admission + next.holdsAdmission.toNat = controller.admission + point.holdsAdmission.toNat
  upstream : after.upstream + next.holdsSlot.toNat = controller.upstream + point.holdsSlot.toNat
  lock : after.principalsLocked = controller.principalsLocked
  budgetLocks : ∀ budget, (after.budgets budget).locked = (controller.budgets budget).locked

/-! ## What each turn exchanges -/

namespace Exchanging

variable (controller : AdmissionController τ) (budget : Nat)

theorem body (released : τ) :
    Exchanged controller (.body budget) (controller.left budget true true released) .ended := by
  constructor
  case references | free | budgetLocks =>
    intro other
    by_cases same : other = budget
    · simp [same]
    · simp [same, Ne.symm same]
  all_goals simp

theorem waiting (granted : Bool) (released : τ) (rejections : Nat) :
    Exchanged controller (.admission budget granted)
      (AdmissionController.left budget false false released { controller with
        admission := giveBack granted controller.admission, admissionRejections := rejections }) .ended := by
  constructor
  case references | free | budgetLocks =>
    intro other
    by_cases same : other = budget
    · simp [same]
    · simp [same, Ne.symm same]
  case admission => cases granted <;> simp [giveBack]
  all_goals simp

theorem dropped (granted : Bool) (rejections : Nat) :
    Exchanged controller (.principal budget granted)
      (AdmissionController.dropped budget
        { controller.update budget fun found => { found with free := giveBack granted found.free } with
          admissionRejections := rejections }) .ended := by
  constructor
  case references | free | budgetLocks =>
    intro other
    by_cases same : other = budget
    · cases granted <;> simp [same, giveBack]
    · simp [same, Ne.symm same]
  all_goals simp

theorem refused (kept : List τ) (released : τ) (rejections : Nat) :
    Exchanged controller (.admission budget true)
      (AdmissionController.left budget true false released
        { controller.update budget fun found => { found with arrivals := kept } with
          rateRejections := rejections }) .ended := by
  constructor
  case references | free | budgetLocks =>
    intro other
    by_cases same : other = budget
    · simp [same]
    · simp [same, Ne.symm same]
  all_goals simp

theorem charged (kept : List τ) (now : τ) :
    Exchanged controller (.admission budget true)
      { controller.update budget fun found => { found with arrivals := kept, lastUsed := now } with
        queued := controller.queued - 1
        active := controller.active + 1 } (.body budget) := by
  constructor
  case references | free | budgetLocks =>
    intro other
    by_cases same : other = budget <;> simp [same]
  all_goals simp

theorem granted (free : 0 < (controller.budgets budget).free) :
    Exchanged controller (.principal budget false)
      (controller.update budget fun found => { found with free := found.free - 1 }) (.principal budget true) := by
  constructor
  case references | budgetLocks =>
    intro other
    by_cases same : other = budget <;> simp [same]
  case free =>
    intro other
    by_cases same : other = budget
    · simp only [same, AdmissionController.update_budgets, if_true, Point.holdsBudget, decide_true, Bool.and_true,
        Bool.toNat_true, Bool.toNat_false]
      omega
    · simp [same, Ne.symm same]
  all_goals simp

/-- A call that opens a new budget. -/
theorem created {limit : Nat} (opened : τ) (unreferenced : (controller.budgets budget).references = 0)
    (free : (controller.budgets budget).free = limit) (unlocked : (controller.budgets budget).locked = false)
    (principals : AList fun _ : Text => Nat) (created : Nat) :
    Exchanged controller .idle
      { controller.update budget fun _ => { free := limit, lastUsed := opened, references := 1 } with
        principals, created, queued := controller.queued + 1 } (.principal budget false) := by
  constructor
  case references | free | budgetLocks =>
    intro other
    by_cases same : other = budget
    · simp [same, unreferenced, free, unlocked]
    · simp [same, Ne.symm same]
  all_goals simp

/-- A call that finds its budget. -/
theorem found :
    Exchanged controller .idle
      { controller.update budget fun found => { found with references := found.references + 1 } with
        queued := controller.queued + 1 } (.principal budget false) := by
  constructor
  case references | free | budgetLocks =>
    intro other
    by_cases same : other = budget
    · simp [same]
    · simp [same, Ne.symm same]
  all_goals simp

end Exchanging

/-- Everything but the counters, the permits and the references is kept. -/
structure Framed (controller after : AdmissionController τ) : Prop where
  created : after.created = controller.created
  principals : after.principals = controller.principals
  arrivals : ∀ budget, (after.budgets budget).arrivals = (controller.budgets budget).arrivals

theorem framed_update (controller : AdmissionController τ) (budget : Nat)
    {change : PrincipalBudget τ → PrincipalBudget τ} (keeps : ∀ found, (change found).arrivals = found.arrivals) :
    Framed controller (controller.update budget change) := by
  refine ⟨rfl, rfl, fun other => ?_⟩
  by_cases same : other = budget <;> simp [same, keeps]

/-- Only the arrivals of one budget change. -/
structure Charged (controller : AdmissionController τ) (budget : Nat) (arrivals : List τ)
    (after : AdmissionController τ) : Prop where
  created : after.created = controller.created
  principals : after.principals = controller.principals
  charged : (after.budgets budget).arrivals = arrivals
  others : ∀ other, other ≠ budget → (after.budgets other).arrivals = (controller.budgets other).arrivals

variable [AddCommGroup τ] [LinearOrder τ] {gate : Gate} {tick : Readings τ} {result : Turned τ} {wake : Wake}

/-- What one turn does to the controller. -/
inductive Turning (limits : Limits τ) (gate : Gate) (tick : Readings τ) (controller : AdmissionController τ)
    (point : Point τ) : Turned τ → Prop
  | stays {after : AdmissionController τ} {next : Point τ} (exchanged : Exchanged controller point after next)
      (framed : Framed controller after) (settled : next.awaitsLock = false)
      (refers : ∀ budget, next.refersTo budget = true → point.refersTo budget = true) :
      Turning limits gate tick controller point { controller := after, point := next }
  | ends {after later : AdmissionController τ} (exchanged : Exchanged controller point after .ended)
      (framed : Framed controller after)
      (prunes : after.prunePrincipals limits tick.pruned = (later, .ended)) :
      Turning limits gate tick controller point { controller := later, point := .ended }
  | opens {principal : Option Text} {later : AdmissionController τ} {budget : Nat} (idle : point = .idle)
      (isGate : gate = .admission principal)
      (found : AdmissionController.openBudget limits tick.opened (budgetKey limits principal)
        { controller with queued := controller.queued + 1 } = (later, budget)) :
      Turning limits gate tick controller point { controller := later, point := .principal budget false }
  | admits {budget : Nat} {after : AdmissionController τ} (waited : point = .admission budget true)
      (room : (expire (tick.charged - limits.principalRateWindowSeconds)
        (controller.budgets budget).arrivals).length < limits.principalRateLimit)
      (exchanged : Exchanged controller point after (.body budget))
      (charged : Charged controller budget (expire (tick.charged - limits.principalRateWindowSeconds)
        (controller.budgets budget).arrivals ++ [tick.charged]) after) :
      Turning limits gate tick controller point
        { controller := after, point := .body budget
          charge := some { principal := gate.principal, moment := tick.charged, admitted := true } }
  | refuses {budget : Nat} {after later : AdmissionController τ} (waited : point = .admission budget true)
      (full : limits.principalRateLimit ≤ (expire (tick.charged - limits.principalRateWindowSeconds)
        (controller.budgets budget).arrivals).length)
      (exchanged : Exchanged controller point after .ended)
      (charged : Charged controller budget (expire (tick.charged - limits.principalRateWindowSeconds)
        (controller.budgets budget).arrivals) after)
      (prunes : after.prunePrincipals limits tick.pruned = (later, .ended)) :
      Turning limits gate tick controller point
        { controller := later, point := .ended
          charge := some { principal := gate.principal, moment := tick.charged, admitted := false } }

omit [AddCommGroup τ] [LinearOrder τ] in
theorem Exchanged.unlocked (exchanged : Exchanged controller point after next) (unlocked : controller.Unlocked) :
    after.Unlocked :=
  ⟨exchanged.lock.trans unlocked.principals, fun budget =>
    (exchanged.budgetLocks budget).trans (unlocked.budgets budget)⟩

/-- A call that ends prunes without waiting. -/
theorem Exchanged.prunes (exchanged : Exchanged controller point after next) (unlocked : controller.Unlocked)
    (limits : Limits τ) (now : τ) : ∃ later, after.prunePrincipals limits now = (later, .ended) := by
  obtain ⟨later, prunes, _⟩ := prunePrincipals_pruned limits now (exchanged.unlocked unlocked)
  exact ⟨later, prunes⟩

section
variable (unlocked : controller.Unlocked)
include unlocked

theorem turning_begin (ran : turn limits gate .begin tick controller point = some result) :
    Turning limits gate tick controller point result := by
  cases point with
  | idle =>
      cases gate with
      | admission principal =>
          simp only [turn, AdmissionController.findPrincipal] at ran
          rw [if_neg (by simp [unlocked.principals]), Option.some.injEq] at ran
          subst ran
          exact .opens rfl rfl rfl
      | upstreamSlot =>
          simp only [turn, Option.some.injEq] at ran
          subst ran
          exact .stays (by constructor <;> simp) ⟨rfl, rfl, fun _ => rfl⟩ rfl nofun
  | _ => cases ran

omit unlocked in
/-- A semaphore sets a permit aside. -/
theorem turning_grant (ran : turn limits gate .grant tick controller point = some result) :
    Turning limits gate tick controller point result := by
  cases point with
  | principal budget granted =>
      cases granted with
      | true => cases ran
      | false =>
          by_cases free : 0 < (controller.budgets budget).free
          · simp only [turn, if_pos free, Option.some.injEq] at ran
            subst ran
            exact .stays (Exchanging.granted controller budget free) (framed_update controller budget fun _ => rfl)
              rfl fun _ => id
          · simp [turn, free] at ran
  | admission budget granted =>
      cases granted with
      | true => cases ran
      | false =>
          by_cases free : 0 < controller.admission
          · simp only [turn, if_pos free, Option.some.injEq] at ran
            subst ran
            refine .stays ?_ ⟨rfl, rfl, fun _ => rfl⟩ rfl fun _ => id
            constructor
            case admission => simp only [Point.holdsAdmission, Bool.toNat_true, Bool.toNat_false]; omega
            all_goals simp
          · simp [turn, free] at ran
  | slot granted =>
      cases granted with
      | true => cases ran
      | false =>
          by_cases free : 0 < controller.upstream
          · simp only [turn, if_pos free, Option.some.injEq] at ran
            subst ran
            refine .stays ?_ ⟨rfl, rfl, fun _ => rfl⟩ rfl nofun
            constructor
            case upstream => simp only [Point.holdsSlot, Bool.toNat_true, Bool.toNat_false]; omega
            all_goals simp
          · simp [turn, free] at ran
  | _ => cases ran

/-- A call that resumes goes on to the next semaphore, or to its body. -/
theorem turning_resume (settled : point.awaitsLock = false)
    (ran : turn limits gate .resume tick controller point = some result) :
    Turning limits gate tick controller point result := by
  cases point with
  | principal budget granted =>
      cases granted with
      | false => cases ran
      | true =>
          simp only [turn, Option.some.injEq] at ran
          subst ran
          exact .stays (by constructor <;> simp) ⟨rfl, rfl, fun _ => rfl⟩ rfl fun _ => id
  | admission budget granted =>
      cases granted with
      | false => cases ran
      | true =>
          simp only [turn, AdmissionController.charge, unlocked.budgets, Bool.false_eq_true, if_false,
            Option.some.injEq] at ran
          cases controller.chargeRate_cases limits budget tick.charged with
          | inl refused =>
              have exchanged := Exchanging.refused controller budget
                (expire (tick.charged - limits.principalRateWindowSeconds) (controller.budgets budget).arrivals)
                tick.released (controller.rateRejections + 1)
              obtain ⟨later, prunes⟩ := exchanged.prunes unlocked limits tick.pruned
              rw [refused.2] at ran
              simp only [Bool.false_eq_true, if_false] at ran
              rw [AdmissionController.leave_unlocked (by exact unlocked.principals), prunes] at ran
              subst ran
              refine .refuses rfl refused.1 exchanged ⟨rfl, rfl, ?_, fun other different => ?_⟩ prunes
              · simp
              · simp [different]
          | inr admitted =>
              rw [admitted.2] at ran
              subst ran
              refine .admits rfl admitted.1 (Exchanging.charged controller budget _ _)
                ⟨rfl, rfl, ?_, fun other different => ?_⟩
              · simp
              · simp [different]
  | slot granted =>
      cases granted with
      | false => cases ran
      | true =>
          simp only [turn, Option.some.injEq] at ran
          subst ran
          exact .stays (by constructor <;> simp) ⟨rfl, rfl, fun _ => rfl⟩ rfl nofun
  | lookup | dropping | charge | releasing | prune | pruneEntry => simp at settled
  | _ => cases ran

/-- A wait for a budget that fails. -/
theorem turning_drops {budget : Nat} {granted : Bool} (rejections : Nat) :
    Turning limits gate tick controller (.principal budget granted)
      (.uncharged (AdmissionController.dropReference limits budget tick.pruned
        { controller.update budget fun found => { found with free := giveBack granted found.free } with
          admissionRejections := rejections })) := by
  have exchanged := Exchanging.dropped controller budget granted rejections
  obtain ⟨later, prunes⟩ := exchanged.prunes unlocked limits tick.pruned
  rw [AdmissionController.dropReference_unlocked (by exact unlocked.principals), prunes]
  refine .ends exchanged ⟨rfl, rfl, fun other => ?_⟩ prunes
  by_cases same : other = budget <;> simp [same]

/-- A wait for the admission that fails. -/
theorem turning_overloads {budget : Nat} {granted : Bool} (rejections : Nat) :
    Turning limits gate tick controller (.admission budget granted)
      (.uncharged (AdmissionController.leave limits budget false false tick.released tick.pruned
        { controller with
          admission := giveBack granted controller.admission, admissionRejections := rejections })) := by
  have exchanged := Exchanging.waiting controller budget granted tick.released rejections
  obtain ⟨later, prunes⟩ := exchanged.prunes unlocked limits tick.pruned
  rw [AdmissionController.leave_unlocked (by exact unlocked.principals), prunes]
  refine .ends exchanged ⟨rfl, rfl, fun other => ?_⟩ prunes
  by_cases same : other = budget <;> simp [same]

/-- A body that ends. -/
theorem turning_leaves {budget : Nat} :
    Turning limits gate tick controller (.body budget)
      (.uncharged (controller.leave limits budget true true tick.released tick.pruned)) := by
  have exchanged := Exchanging.body controller budget tick.released
  obtain ⟨later, prunes⟩ := exchanged.prunes unlocked limits tick.pruned
  rw [AdmissionController.leave_unlocked unlocked.principals, prunes]
  refine .ends exchanged ⟨rfl, rfl, fun other => ?_⟩ prunes
  by_cases same : other = budget <;> simp [same]

omit unlocked in
/-- A wait for a slot that fails. -/
theorem turning_slot {granted : Bool} :
    Turning limits gate tick controller (.slot granted)
      { controller := { controller with upstream := giveBack granted controller.upstream }, point := .ended } := by
  refine .stays ?_ ⟨rfl, rfl, fun _ => rfl⟩ rfl nofun
  constructor
  case upstream => cases granted <;> simp [giveBack]
  all_goals simp

omit unlocked in
theorem turning_slotBody :
    Turning limits gate tick controller .slotBody
      { controller := { controller with
          upstreamActive := controller.upstreamActive - 1
          upstream := controller.upstream + 1 }
        point := .ended } :=
  .stays (by constructor <;> simp) ⟨rfl, rfl, fun _ => rfl⟩ rfl nofun

theorem turning_timeout (ran : turn limits gate .timeout tick controller point = some result) :
    Turning limits gate tick controller point result := by
  cases point with
  | principal budget granted => exact Option.some.inj ran ▸ turning_drops unlocked _
  | admission budget granted => exact Option.some.inj ran ▸ turning_overloads unlocked _
  | slot granted => exact Option.some.inj ran ▸ turning_slot
  | _ => cases ran

theorem turning_cancel (settled : point.awaitsLock = false)
    (ran : turn limits gate .cancel tick controller point = some result) :
    Turning limits gate tick controller point result := by
  cases point with
  | principal budget granted =>
      exact Option.some.inj ran ▸ turning_drops unlocked controller.admissionRejections
  | admission budget granted =>
      exact Option.some.inj ran ▸ turning_overloads unlocked controller.admissionRejections
  | body budget => exact Option.some.inj ran ▸ turning_leaves unlocked
  | slot granted => exact Option.some.inj ran ▸ turning_slot
  | slotBody => exact Option.some.inj ran ▸ turning_slotBody
  | lookup | dropping | charge | releasing | prune | pruneEntry => simp at settled
  | _ => cases ran

theorem turning_finish (ran : turn limits gate .finish tick controller point = some result) :
    Turning limits gate tick controller point result := by
  cases point with
  | body budget => exact Option.some.inj ran ▸ turning_leaves unlocked
  | slotBody => exact Option.some.inj ran ▸ turning_slotBody
  | _ => cases ran

/-- What a turn can do while no lock is held. -/
theorem turning (settled : point.awaitsLock = false)
    (ran : turn limits gate wake tick controller point = some result) :
    Turning limits gate tick controller point result := by
  cases wake with
  | begin => exact turning_begin unlocked ran
  | grant => exact turning_grant ran
  | resume => exact turning_resume unlocked settled ran
  | timeout => exact turning_timeout unlocked ran
  | cancel => exact turning_cancel unlocked settled ran
  | finish => exact turning_finish unlocked ran

end

end HarnessProxy.Admission

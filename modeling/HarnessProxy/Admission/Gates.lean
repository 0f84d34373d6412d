import HarnessProxy.Admission.Turning
import Mathlib.Algebra.Order.Ring.Rat

namespace HarnessProxy.Admission

open HarnessProxy.Data

/-! # The gates balance

Every counter and every permit of the controller is accounted for by the points
where the calls are.
-/

variable {τ ι : Type*} {limits : Limits τ} {controller after : AdmissionController τ} {point next : Point τ}

variable [Fintype ι] {calls : ι → Gate} {points : ι → Point τ}

/-- The invariant of all runs. -/
structure Balanced (limits : Limits τ) (calls : ι → Gate) (controller : AdmissionController τ)
    (points : ι → Point τ) : Prop where
  unlocked : controller.Unlocked
  settled : ∀ call, (points call).awaitsLock = false
  keyed : controller.Keyed
  entry : ∀ call budget, (points call).refersTo budget = true →
    controller.budget? (budgetKey limits (calls call).principal) = some budget
  queued : controller.queued = occupancy points Point.queued
  active : controller.active = occupancy points Point.inBody
  upstreamActive : controller.upstreamActive = occupancy points Point.inSlot
  references : ∀ budget, (controller.budgets budget).references = occupancy points (Point.refersTo budget)
  free : ∀ budget, (controller.budgets budget).free + occupancy points (Point.holdsBudget budget) =
    limits.principalConcurrencyLimit
  admission : controller.admission + occupancy points Point.holdsAdmission = limits.admissionLimit
  upstream : controller.upstream + occupancy points Point.holdsSlot = limits.concurrencyLimit

namespace Balanced

theorem start (limits : Limits τ) (calls : ι → Gate) (clock : τ) :
    Balanced limits calls (AdmissionController.start limits clock) fun _ => .idle := by
  have none (counts : Point τ → Bool) (idle : counts .idle = false) :
      occupancy (fun _ : ι => Point.idle) counts = 0 := occupancy_eq_zero.mpr fun _ => idle
  refine {
    unlocked := ⟨rfl, fun _ => rfl⟩
    settled := fun _ => rfl
    keyed := ⟨nofun, nofun⟩
    entry := nofun
    queued := by rw [none _ rfl]; rfl
    active := by rw [none _ rfl]; rfl
    upstreamActive := by rw [none _ rfl]; rfl
    references := fun budget => by rw [none _ rfl]; rfl
    free := fun budget => by rw [none _ rfl]; rfl
    admission := by rw [none _ rfl]; rfl
    upstream := by rw [none _ rfl]; rfl }

variable [DecidableEq ι]

/-- A call moves, and the controller follows. -/
theorem move (balanced : Balanced limits calls controller points) {call : ι}
    (exchanged : Exchanged controller (points call) after next) (settled : next.awaitsLock = false)
    (keyed : after.Keyed)
    (kept : ∀ key budget, controller.budget? key = some budget → after.budget? key = some budget)
    (entry : ∀ budget, next.refersTo budget = true →
      after.budget? (budgetKey limits (calls call).principal) = some budget) :
    Balanced limits calls after (Data.move points call next) where
  unlocked := exchanged.unlocked balanced.unlocked
  settled other := by
    by_cases same : other = call
    · rw [same, move_self, settled]
    · rw [move_ne same, balanced.settled]
  keyed := keyed
  entry other budget refers := by
    by_cases same : other = call
    · subst same
      rw [move_self] at refers
      exact entry budget refers
    · rw [move_ne same] at refers
      exact kept _ _ (balanced.entry other budget refers)
  queued := by
    have moved := occupancy_move points Point.queued call next
    have exchange := exchanged.queued
    have before := balanced.queued
    omega
  active := by
    have moved := occupancy_move points Point.inBody call next
    have exchange := exchanged.active
    have before := balanced.active
    omega
  upstreamActive := by
    have moved := occupancy_move points Point.inSlot call next
    have exchange := exchanged.upstreamActive
    have before := balanced.upstreamActive
    omega
  references budget := by
    have moved := occupancy_move points (Point.refersTo budget) call next
    have exchange := exchanged.references budget
    have before := balanced.references budget
    omega
  free budget := by
    have moved := occupancy_move points (Point.holdsBudget budget) call next
    have exchange := exchanged.free budget
    have before := balanced.free budget
    omega
  admission := by
    have moved := occupancy_move points Point.holdsAdmission call next
    have exchange := exchanged.admission
    have before := balanced.admission
    omega
  upstream := by
    have moved := occupancy_move points Point.holdsSlot call next
    have exchange := exchanged.upstream
    have before := balanced.upstream
    omega

/-- A call moves on with its budget. -/
theorem stay (balanced : Balanced limits calls controller points) {call : ι}
    (exchanged : Exchanged controller (points call) after next) (settled : next.awaitsLock = false)
    (created : after.created = controller.created) (principals : after.principals = controller.principals)
    (refers : ∀ budget, next.refersTo budget = true → (points call).refersTo budget = true) :
    Balanced limits calls after (Data.move points call next) := by
  have same (key : Text) : after.budget? key = controller.budget? key := by
    rw [AdmissionController.budget?, principals, AdmissionController.budget?]
  refine balanced.move exchanged settled ?_ (fun key budget found => (same key).trans found)
    (fun budget found => (same _).trans (balanced.entry call budget (refers budget found)))
  exact ⟨fun key budget found => created ▸ balanced.keyed.created key budget (same key ▸ found),
    fun key other budget one two => balanced.keyed.injective key other budget (same key ▸ one) (same other ▸ two)⟩

/-- A call of `admit` begins. -/
theorem opens (balanced : Balanced limits calls controller points) {call : ι} {principal : Option Text} {opened : τ}
    {budget : Nat} (idle : points call = .idle) (gate : calls call = .admission principal)
    (opens : AdmissionController.openBudget limits opened (budgetKey limits principal)
      { controller with queued := controller.queued + 1 } = (after, budget)) :
    Balanced limits calls after (Data.move points call (.principal budget false)) := by
  cases AdmissionController.openBudget_cases limits opened (budgetKey limits principal)
      { controller with queued := controller.queued + 1 } with
  | inl existing =>
      obtain ⟨known, found, shape⟩ := existing
      obtain ⟨rfl, rfl⟩ := Prod.mk.injEq .. ▸ shape.symm.trans opens
      have exchanged := Exchanging.found controller known
      rw [← idle] at exchanged
      refine balanced.move exchanged rfl ⟨balanced.keyed.created, balanced.keyed.injective⟩
        (fun key other isOther => isOther) fun other refers => ?_
      have same : known = other := of_decide_eq_true refers
      rw [gate, ← same]
      exact found
  | inr missing =>
      obtain ⟨absent, shape⟩ := missing
      obtain ⟨rfl, rfl⟩ := Prod.mk.injEq .. ▸ shape.symm.trans opens
      have absent : controller.budget? (budgetKey limits principal) = none := absent
      have unused (counts : Point τ → Bool)
          (implies : ∀ at_ : Point τ, counts at_ = true → at_.refersTo controller.created = true) :
          occupancy points counts = 0 := by
        refine occupancy_eq_zero.mpr fun other => ?_
        by_contra held
        have entry := balanced.entry other controller.created (implies _ (by simpa using held))
        exact Nat.lt_irrefl _ (balanced.keyed.created _ _ entry)
      have refers := unused (Point.refersTo controller.created) fun _ => id
      have holds := unused (Point.holdsBudget controller.created) fun at_ held => by
        cases at_ <;> simp_all
      have unreferenced := balanced.references controller.created
      have free := balanced.free controller.created
      rw [refers] at unreferenced
      rw [holds, Nat.add_zero] at free
      have exchanged := Exchanging.created controller _ opened unreferenced free (balanced.unlocked.budgets _)
        (controller.principals.insert (budgetKey limits principal) controller.created) (controller.created + 1)
      rw [← idle] at exchanged
      have kept (key : Text) (budget : Nat) (isBudget : controller.budget? key = some budget) :
          (controller.principals.insert (budgetKey limits principal) controller.created).lookup key = some budget := by
        have different : key ≠ budgetKey limits principal := by
          rintro rfl
          rw [absent] at isBudget
          cases isBudget
        rw [AList.lookup_insert_ne different]
        exact isBudget
      refine balanced.move exchanged rfl (balanced.keyed.insert rfl rfl) kept fun other refers => ?_
      have same : controller.created = other := of_decide_eq_true refers
      rw [gate, ← same]
      exact AList.lookup_insert _

variable [AddCommGroup τ] [LinearOrder τ]

omit [DecidableEq ι] in
/-- Pruning keeps the balance, since it removes no entry that is referenced. -/
theorem prune (balanced : Balanced limits calls controller points) (now : τ) :
    ∃ after, controller.prunePrincipals limits now = (after, .ended) ∧ Balanced limits calls after points := by
  obtain ⟨after, runs, unlocked, pruned⟩ := prunePrincipals_pruned limits now balanced.unlocked
  have frame := pruned.frame
  refine ⟨after, runs, {
    unlocked
    settled := balanced.settled
    keyed := pruned.keyed balanced.keyed
    entry := fun call budget refers => ?_
    queued := (congrArg AdmissionController.queued frame).trans balanced.queued
    active := (congrArg AdmissionController.active frame).trans balanced.active
    upstreamActive := (congrArg AdmissionController.upstreamActive frame).trans balanced.upstreamActive
    references := fun budget => by rw [pruned.budgets]; exact balanced.references budget
    free := fun budget => by rw [pruned.budgets]; exact balanced.free budget
    admission := by rw [congrArg AdmissionController.admission frame]; exact balanced.admission
    upstream := by rw [congrArg AdmissionController.upstream frame]; exact balanced.upstream }⟩
  refine pruned.keeps (balanced.entry call budget refers) ?_
  have referenced : 0 < occupancy points (Point.refersTo budget) := occupancy_pos refers
  have count := balanced.references budget
  omega

/-- One turn keeps the balance. -/
theorem turned (balanced : Balanced limits calls controller points) {call : ι} {wake : Wake} {tick : Readings τ}
    {result : Turned τ} (ran : turn limits (calls call) wake tick controller (points call) = some result) :
    Balanced limits calls result.controller (Data.move points call result.point) := by
  have finishes {after later : AdmissionController τ} (exchanged : Exchanged controller (points call) after .ended)
      (created : after.created = controller.created) (principals : after.principals = controller.principals)
      (prunes : after.prunePrincipals limits tick.pruned = (later, .ended)) :
      Balanced limits calls later (Data.move points call .ended) := by
    obtain ⟨pruned, runs, kept⟩ := (balanced.stay exchanged rfl created principals nofun).prune tick.pruned
    rw [prunes, Prod.mk.injEq] at runs
    exact runs.1 ▸ kept
  cases turning balanced.unlocked (balanced.settled call) ran with
  | stays exchanged framed settled refers =>
      exact balanced.stay exchanged settled framed.created framed.principals refers
  | ends exchanged framed prunes => exact finishes exchanged framed.created framed.principals prunes
  | opens idle isGate found => exact balanced.opens idle isGate found
  | admits waited room exchanged charged =>
      refine balanced.stay exchanged rfl charged.created charged.principals fun other refers => ?_
      rw [waited]
      exact refers
  | refuses waited full exchanged charged prunes =>
      exact finishes exchanged charged.created charged.principals prunes

end Balanced

variable [DecidableEq ι] [AddCommGroup τ] [LinearOrder τ]

theorem reachable_balanced {system : System ι τ} (reachable : System.Reachable limits calls system) :
    Balanced limits calls system.controller system.points := by
  induction reachable with
  | start clock => exact Balanced.start limits calls clock
  | step earlier call wake tick turned ih =>
      unfold System.step at turned
      split at turned
      · obtain ⟨result, ran, rfl⟩ := Option.map_eq_some_iff.mp turned
        exact ih.turned ran
      · cases turned

/-- The number of tasks that hold the budget of a principal. -/
def holders (limits : Limits τ) (calls : ι → Gate) (points : ι → Point τ) (key : Text) : Nat :=
  occupancy (fun call => (calls call, points call)) fun party =>
    budgetKey limits party.1.principal = key && party.2.hasBudget

omit [DecidableEq ι] [AddCommGroup τ] [LinearOrder τ] in
/-- The holders of a principal all hold the budget that its entry names. -/
theorem Balanced.holders_le (balanced : Balanced limits calls controller points) (key : Text) :
    holders limits calls points key ≤ limits.principalConcurrencyLimit := by
  have holds (at_ : Point τ) (has : at_.hasBudget = true) :
      ∃ budget, at_.holdsBudget budget = true ∧ at_.refersTo budget = true := by
    cases at_ <;> simp_all [Point.hasBudget]
  cases found : controller.budget? key with
  | none =>
      have none : holders limits calls points key = 0 := by
        refine occupancy_eq_zero.mpr fun call => ?_
        by_contra held
        simp only [Bool.not_eq_false, Bool.and_eq_true, decide_eq_true_eq] at held
        obtain ⟨budget, _, refers⟩ := holds _ held.2
        rw [← held.1, balanced.entry call budget refers] at found
        cases found
      rw [none]
      exact Nat.zero_le _
  | some budget =>
      have fewer : holders limits calls points key ≤ occupancy points (Point.holdsBudget budget) := by
        refine occupancy_mono fun call held => ?_
        simp only [Bool.and_eq_true, decide_eq_true_eq] at held
        obtain ⟨other, held', refers⟩ := holds _ held.2
        have entry := balanced.entry call other refers
        rw [held.1, found] at entry
        rw [Option.some.inj entry]
        exact held'
      have permits := balanced.free budget
      omega

/-- What the counters and the permits say about the tasks. -/
structure GatesAccounted (limits : Limits τ) (calls : ι → Gate) (controller : AdmissionController τ)
    (points : ι → Point τ) : Prop where
  active : controller.active = occupancy points Point.inBody
  active_le : occupancy points Point.inBody ≤ limits.admissionLimit
  holders_le : ∀ key, holders limits calls points key ≤ limits.principalConcurrencyLimit
  upstreamActive : controller.upstreamActive = occupancy points Point.inSlot
  upstreamActive_le : occupancy points Point.inSlot ≤ limits.concurrencyLimit
  queued : controller.queued = occupancy points Point.queued
  references : ∀ budget, (controller.budgets budget).references = occupancy points (Point.refersTo budget)
  drained : (∀ call, (points call).outside = true) →
    controller.active = 0 ∧ controller.queued = 0 ∧ controller.upstreamActive = 0 ∧
    controller.admission = limits.admissionLimit ∧ controller.upstream = limits.concurrencyLimit ∧
    ∀ budget, (controller.budgets budget).references = 0 ∧
      (controller.budgets budget).free = limits.principalConcurrencyLimit

omit [DecidableEq ι] [AddCommGroup τ] [LinearOrder τ] in
theorem Balanced.accounted (balanced : Balanced limits calls controller points) :
    GatesAccounted limits calls controller points where
  active := balanced.active
  active_le := by
    have fewer : occupancy points Point.inBody ≤ occupancy points Point.holdsAdmission :=
      occupancy_mono fun call inside => by cases at_ : points call <;> simp_all
    have permits := balanced.admission
    omega
  holders_le := balanced.holders_le
  upstreamActive := balanced.upstreamActive
  upstreamActive_le := by
    have fewer : occupancy points Point.inSlot ≤ occupancy points Point.holdsSlot :=
      occupancy_mono fun call inside => by cases at_ : points call <;> simp_all
    have permits := balanced.upstream
    omega
  queued := balanced.queued
  references := balanced.references
  drained outside := by
    have none (counts : Point τ → Bool) (free : ∀ at_ : Point τ, at_.outside = true → counts at_ = false) :
        occupancy points counts = 0 := occupancy_eq_zero.mpr fun call => free _ (outside call)
    have body := none Point.inBody fun at_ => by cases at_ <;> simp [Point.outside]
    have waiting := none Point.queued fun at_ => by cases at_ <;> simp [Point.outside]
    have slots := none Point.inSlot fun at_ => by cases at_ <;> simp [Point.outside]
    have admitted := none Point.holdsAdmission fun at_ => by cases at_ <;> simp [Point.outside]
    have sent := none Point.holdsSlot fun at_ => by cases at_ <;> simp [Point.outside]
    have active := balanced.active
    have queued := balanced.queued
    have upstreamActive := balanced.upstreamActive
    have admission := balanced.admission
    have upstream := balanced.upstream
    refine ⟨by omega, by omega, by omega, by omega, by omega, fun budget => ?_⟩
    have refers := none (Point.refersTo budget) fun at_ => by cases at_ <;> simp [Point.outside]
    have holds := none (Point.holdsBudget budget) fun at_ => by cases at_ <;> simp [Point.outside]
    have references := balanced.references budget
    have free := balanced.free budget
    exact ⟨by omega, by omega⟩

/-- The gates never leak and never over-admit: in every run, after every turn,
the counters are the numbers of the tasks at the points they stand for, no limit
is exceeded, and once all tasks have ended everything is given back. -/
theorem reachable_gates (limits : Limits τ) (calls : ι → Gate) (system : System ι τ)
    (reachable : System.Reachable limits calls system) :
    GatesAccounted limits calls system.controller system.points :=
  (reachable_balanced reachable).accounted

/-- Two principals wait for one admission. -/
def narrowLimits : Limits Rat where
  admissionLimit := 1
  principalConcurrencyLimit := 1
  principalRateLimit := 1
  principalRateWindowSeconds := 60
  concurrencyLimit := 1

def twoCalls : Bool → Gate
  | false => .admission (some "alice")
  | true => .admission (some "bob")

/-- Both calls begin, one is admitted and ends, and the other is cancelled while
it waits. -/
def drainedTurns : List (Bool × Wake) :=
  [(false, .begin), (true, .begin), (false, .grant), (false, .resume), (true, .grant), (true, .resume),
    (false, .grant), (false, .resume), (true, .cancel), (false, .finish)]

theorem reachable_gates_drained : ∃ system : System (Bool) Rat,
    (∀ call, (system.points call).outside = true) ∧
    GatesAccounted narrowLimits twoCalls system.controller system.points := by
  have ends : ((System.start narrowLimits 0).run narrowLimits twoCalls (drainedTurns.map fun entry =>
      (entry.1, entry.2, Readings.steady 0))).map (fun system : System (Bool) Rat =>
        decide (∀ call, (system.points call).outside = true)) = some true := by decide +kernel
  obtain ⟨system, ran, outside⟩ := Option.map_eq_some_iff.mp ends
  exact ⟨system, of_decide_eq_true outside,
    reachable_gates narrowLimits twoCalls system (System.run_reachable (.start 0) ran)⟩

end HarnessProxy.Admission

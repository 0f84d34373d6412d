import HarnessProxy.Admission.Controller

namespace HarnessProxy.Admission

open HarnessProxy.Data

/-! # Pruning

The loop over the principals trims arrivals and removes entries; it changes
nothing else, and removes no entry that is referenced or has arrivals left.
-/

variable {τ : Type*} {limits : Limits τ} {controller after later : AdmissionController τ}

namespace AdmissionController

/-- No lock is held. -/
structure Unlocked (controller : AdmissionController τ) : Prop where
  principals : controller.principalsLocked = false
  budgets : ∀ budget, (controller.budgets budget).locked = false

/-- No two keys share a budget. -/
structure Keyed (controller : AdmissionController τ) : Prop where
  created : ∀ key budget, controller.budget? key = some budget → budget < controller.created
  injective : ∀ key other budget, controller.budget? key = some budget → controller.budget? other = some budget →
    key = other

/-- A fresh budget under a new key. -/
theorem Keyed.insert (keyed : controller.Keyed) {key : Text}
    (principals : after.principals = controller.principals.insert key controller.created)
    (created : after.created = controller.created + 1) : after.Keyed := by
  have entry (other : Text) : after.budget? other =
      if other = key then some controller.created else controller.budget? other := by
    rw [budget?, principals]
    by_cases same : other = key
    · rw [if_pos same, same, AList.lookup_insert]
    · rw [if_neg same, AList.lookup_insert_ne same, budget?]
  refine ⟨fun other budget found => ?_, fun one two budget first second => ?_⟩
  · rw [entry] at found
    split at found
    · have same := Option.some.inj found
      omega
    · have below := keyed.created other budget found
      omega
  · rw [entry] at first second
    split at first <;> split at second
    · next isOne isTwo => exact isOne.trans isTwo.symm
    · have below := keyed.created two budget second
      have same := Option.some.inj first
      omega
    · have below := keyed.created one budget first
      have same := Option.some.inj second
      omega
    · exact keyed.injective one two budget first second

end AdmissionController

variable [LinearOrder τ]

/-- The queue is trimmed, or it was already. -/
def Trimmed (horizon : τ) (arrivals kept : List τ) : Prop := kept = arrivals ∨ kept = expire horizon arrivals

theorem Trimmed.trans {horizon : τ} {arrivals kept left : List τ} (first : Trimmed horizon arrivals kept)
    (second : Trimmed horizon kept left) : Trimmed horizon arrivals left := by
  cases first with
  | inl same => exact same ▸ second
  | inr trimmed =>
      right
      cases second with
      | inl same => rw [same, trimmed]
      | inr again => rw [again, trimmed, expire, expire, List.dropWhile_idempotent]

/-- What the loop of `_prune_principals` can do. -/
structure Pruned (horizon : τ) (controller after : AdmissionController τ) : Prop where
  frame : after = { controller with
    principals := after.principals, budgets := after.budgets, principalsLocked := after.principalsLocked }
  budgets : ∀ budget, after.budgets budget =
    { controller.budgets budget with arrivals := (after.budgets budget).arrivals }
  arrivals : ∀ budget, Trimmed horizon (controller.budgets budget).arrivals (after.budgets budget).arrivals
  removed : ∀ key, after.budget? key = controller.budget? key ∨ after.budget? key = none ∧
    ∃ budget, controller.budget? key = some budget ∧ (controller.budgets budget).references = 0 ∧
      (after.budgets budget).arrivals = []

namespace Pruned

variable {horizon : τ}

theorem refl (horizon : τ) (controller : AdmissionController τ) : Pruned horizon controller controller :=
  ⟨rfl, fun _ => rfl, fun _ => .inl rfl, fun _ => .inl rfl⟩

/-- The flag of the lock is not part of it. -/
theorem unlock (pruned : Pruned horizon controller after) (locked unlocked : Bool) :
    Pruned horizon { controller with principalsLocked := locked } { after with principalsLocked := unlocked } := by
  obtain ⟨frame, budgets, arrivals, removed⟩ := pruned
  exact ⟨by rw [frame], budgets, arrivals, removed⟩

theorem trans (first : Pruned horizon controller after) (second : Pruned horizon after later) :
    Pruned horizon controller later where
  frame := by
    have shape := second.frame
    rw [first.frame] at shape
    exact shape
  budgets budget := by
    have shape := second.budgets budget
    rw [first.budgets budget] at shape
    exact shape
  arrivals budget := (first.arrivals budget).trans (second.arrivals budget)
  removed key := by
    cases second.removed key with
    | inl same =>
        cases first.removed key with
        | inl before => exact .inl (same.trans before)
        | inr gone =>
            obtain ⟨absent, budget, found, unreferenced, idle⟩ := gone
            refine .inr ⟨same.trans absent, budget, found, unreferenced, ?_⟩
            cases second.arrivals budget with
            | inl kept => rw [kept, idle]
            | inr expired => rw [expired, idle]; rfl
    | inr gone =>
        obtain ⟨absent, budget, found, unreferenced, idle⟩ := gone
        rw [first.budgets budget] at unreferenced
        cases first.removed key with
        | inl before => exact .inr ⟨absent, budget, before ▸ found, unreferenced, idle⟩
        | inr earlier =>
            rw [earlier.1] at found
            cases found

theorem keyed (pruned : Pruned horizon controller after) (keyed : controller.Keyed) : after.Keyed := by
  have known (key : Text) (budget : Nat) (found : after.budget? key = some budget) :
      controller.budget? key = some budget := by
    cases pruned.removed key with
    | inl same => exact same ▸ found
    | inr gone =>
        rw [gone.1] at found
        cases found
  refine ⟨fun key budget found => ?_, fun key other budget one two =>
    keyed.injective key other budget (known _ _ one) (known _ _ two)⟩
  rw [congrArg AdmissionController.created pruned.frame]
  exact keyed.created key budget (known _ _ found)

/-- An entry that is referenced stays. -/
theorem keeps (pruned : Pruned horizon controller after) {key : Text} {budget : Nat}
    (found : controller.budget? key = some budget) (referenced : (controller.budgets budget).references ≠ 0) :
    after.budget? key = some budget := by
  cases pruned.removed key with
  | inl same => rw [same, found]
  | inr gone =>
      obtain ⟨_, other, isOther, unreferenced, _⟩ := gone
      cases Option.some.inj (found.symm.trans isOther)
      exact absurd unreferenced referenced

end Pruned

variable [AddCommGroup τ] {now : τ}

/-- One round removes at most the entry it was given. -/
theorem pruneBudget_pruned {key : Text} {budget : Nat}
    (entry : ∀ other, controller.budget? key = some other → other = budget) :
    Pruned (now - limits.principalRateWindowSeconds) controller (controller.pruneBudget limits now key budget) := by
  have trimmed (other : Nat) : Trimmed (now - limits.principalRateWindowSeconds) (controller.budgets other).arrivals
      ((controller.pruneBudget limits now key budget).budgets other).arrivals := by
    by_cases same : other = budget
    · right
      simp only [AdmissionController.pruneBudget]
      split <;> simp [same]
    · left
      simp only [AdmissionController.pruneBudget]
      split <;> simp [same]
  have others (other : Nat) : (controller.pruneBudget limits now key budget).budgets other =
      { controller.budgets other with
        arrivals := ((controller.pruneBudget limits now key budget).budgets other).arrivals } := by
    by_cases same : other = budget
    · simp only [AdmissionController.pruneBudget]
      split <;> simp [same]
    · simp only [AdmissionController.pruneBudget]
      split <;> simp [same]
  have frame : controller.pruneBudget limits now key budget = { controller with
      principals := (controller.pruneBudget limits now key budget).principals
      budgets := (controller.pruneBudget limits now key budget).budgets } := by
    simp only [AdmissionController.pruneBudget]
    split <;> rfl
  have locks : (controller.pruneBudget limits now key budget).principalsLocked = controller.principalsLocked := by
    rw [frame]
  refine ⟨by rw [locks]; exact frame, others, trimmed, fun other => ?_⟩
  by_cases removes : (controller.budgets budget).references = 0 ∧
      expire (now - limits.principalRateWindowSeconds) (controller.budgets budget).arrivals = [] ∧
      (controller.budgets budget).lastUsed ≤ now - limits.principalRateWindowSeconds
  · have shape : (controller.pruneBudget limits now key budget).principals = controller.principals.erase key := by
      simp only [AdmissionController.pruneBudget, if_pos removes]
    rw [AdmissionController.budget?, shape]
    by_cases same : other = key
    · subst same
      rw [AList.lookup_erase]
      cases found : controller.budget? other with
      | none => exact .inl rfl
      | some held =>
          cases entry held found
          refine .inr ⟨rfl, budget, rfl, removes.1, ?_⟩
          simp [AdmissionController.pruneBudget, removes]
    · rw [AList.lookup_erase_ne same]
      exact .inl rfl
  · have shape : (controller.pruneBudget limits now key budget).principals = controller.principals := by
      simp only [AdmissionController.pruneBudget, if_neg removes]
      rfl
    exact .inl (by rw [AdmissionController.budget?, shape, AdmissionController.budget?])

/-- The loop runs to its end while no budget is locked. -/
theorem pruneEntries_pruned (controller : AdmissionController τ) (limits : Limits τ) (now : τ)
    (entries : List (Σ _ : Text, Nat))
    (unlocked : ∀ budget, (controller.budgets budget).locked = false)
    (known : ∀ entry ∈ entries, ∀ other, controller.budget? entry.1 = some other → other = entry.2) :
    ∃ after, controller.pruneEntries limits now entries = (after, .ended) ∧ after.principalsLocked = false ∧
      Pruned (now - limits.principalRateWindowSeconds) controller after := by
  induction entries generalizing controller with
  | nil =>
      refine ⟨_, rfl, rfl, ?_⟩
      exact (Pruned.refl _ controller).unlock controller.principalsLocked false
  | cons entry entries ih =>
      have first : Pruned (now - limits.principalRateWindowSeconds) controller
          (controller.pruneBudget limits now entry.1 entry.2) :=
        pruneBudget_pruned (known entry (List.mem_cons_self ..))
      obtain ⟨after, runs, free, rest⟩ := ih (controller.pruneBudget limits now entry.1 entry.2)
        (fun budget => by rw [first.budgets]; exact unlocked budget)
        (fun later member other found => by
          cases first.removed later.1 with
          | inl same => exact known later (List.mem_cons_of_mem _ member) other (same ▸ found)
          | inr gone =>
              rw [gone.1] at found
              cases found)
      refine ⟨after, ?_, free, first.trans rest⟩
      rw [AdmissionController.pruneEntries, unlocked entry.2, if_neg Bool.false_ne_true, runs]

/-- `_prune_principals` never waits while no lock is held. -/
theorem prunePrincipals_pruned (limits : Limits τ) (now : τ) (unlocked : controller.Unlocked) :
    ∃ after, controller.prunePrincipals limits now = (after, .ended) ∧ after.Unlocked ∧
      Pruned (now - limits.principalRateWindowSeconds) controller after := by
  unfold AdmissionController.prunePrincipals
  by_cases empty : controller.principals.entries = []
  · exact ⟨controller, by rw [if_pos empty], unlocked, Pruned.refl _ _⟩
  · obtain ⟨after, runs, free, pruned⟩ := pruneEntries_pruned { controller with principalsLocked := true }
      limits now controller.principals.entries unlocked.budgets (fun entry member other found => by
        have here : controller.budget? entry.1 = some entry.2 := AList.mem_lookup_iff.mpr member
        exact Option.some.inj (found.symm.trans here))
    have unlockedPruned := pruned.unlock controller.principalsLocked after.principalsLocked
    refine ⟨after, by rw [if_neg empty, unlocked.principals, if_neg Bool.false_ne_true, runs], ⟨free, fun budget => ?_⟩,
      unlockedPruned⟩
    rw [pruned.budgets]
    exact unlocked.budgets budget

end HarnessProxy.Admission

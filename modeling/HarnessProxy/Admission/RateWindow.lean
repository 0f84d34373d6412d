import HarnessProxy.Admission.Gates

namespace HarnessProxy.Admission

open HarnessProxy.Data

/-! # The rate window

The arrivals of an entry stand for the whole history of its principal: an entry
that was pruned had nothing left that the window can reach, so a fresh one
begins where it ended.
-/

variable {τ ι : Type*}

/-- When calls that a budget was charged for were admitted. -/
def admissions (limits : Limits τ) (key : Text) (charges : List (Charge τ)) : List τ :=
  (charges.filter fun charge => charge.admitted && budgetKey limits charge.principal = key).map Charge.moment

/-- The arrivals under a key; a missing entry has none. -/
def AdmissionController.arrivalsOf (controller : AdmissionController τ) (key : Text) : List τ :=
  match controller.budget? key with
  | some budget => (controller.budgets budget).arrivals
  | none => []

variable {limits : Limits τ} {controller after later : AdmissionController τ} {point next : Point τ} {key : Text}

theorem admissions_append (limits : Limits τ) (key : Text) (charges : List (Charge τ)) (charge : Charge τ) :
    admissions limits key (charges ++ [charge]) = admissions limits key charges ++
      if charge.admitted && budgetKey limits charge.principal = key then [charge.moment] else [] := by
  rw [admissions, List.filter_append, List.map_append, admissions]
  congr 1
  cases counted : charge.admitted && decide (budgetKey limits charge.principal = key) <;>
    simp only [List.filter_cons, List.filter_nil, counted, Bool.false_eq_true, if_false, if_true, List.map_cons,
      List.map_nil]

namespace AdmissionController

theorem arrivalsOf_some {budget : Nat} (found : controller.budget? key = some budget) :
    controller.arrivalsOf key = (controller.budgets budget).arrivals := by
  rw [arrivalsOf, found]

theorem arrivalsOf_none (absent : controller.budget? key = none) : controller.arrivalsOf key = [] := by
  rw [arrivalsOf, absent]

theorem arrivalsOf_congr (entries : after.budget? key = controller.budget? key)
    (arrivals : ∀ budget, controller.budget? key = some budget →
      (after.budgets budget).arrivals = (controller.budgets budget).arrivals) :
    after.arrivalsOf key = controller.arrivalsOf key := by
  unfold arrivalsOf
  rw [entries]
  cases found : controller.budget? key with
  | none => rfl
  | some budget => exact arrivals budget found

end AdmissionController

theorem Framed.arrivalsOf (framed : Framed controller after) (key : Text) :
    after.arrivalsOf key = controller.arrivalsOf key :=
  AdmissionController.arrivalsOf_congr (by
    rw [AdmissionController.budget?, framed.principals, AdmissionController.budget?]) fun budget _ =>
      framed.arrivals budget

theorem Charged.own {budget : Nat} {arrivals : List τ} (charged : Charged controller budget arrivals after)
    (found : controller.budget? key = some budget) : after.arrivalsOf key = arrivals := by
  have entry : after.budget? key = some budget := by
    rw [AdmissionController.budget?, charged.principals]
    exact found
  rw [AdmissionController.arrivalsOf_some entry, charged.charged]

theorem Charged.other {budget : Nat} {arrivals : List τ} {own : Text}
    (charged : Charged controller budget arrivals after) (keyed : controller.Keyed)
    (found : controller.budget? own = some budget) (different : key ≠ own) :
    after.arrivalsOf key = controller.arrivalsOf key := by
  refine AdmissionController.arrivalsOf_congr (by
    rw [AdmissionController.budget?, charged.principals, AdmissionController.budget?]) fun other isOther => ?_
  refine charged.others other fun same => ?_
  subst same
  exact different (keyed.injective key own other isOther found)

/-- A fresh entry has no arrivals, and neither had the missing one. -/
theorem arrivalsOf_openBudget {opened : τ} {budget : Nat} (keyed : controller.Keyed) {queued : Int} {wanted : Text}
    (opens : AdmissionController.openBudget limits opened wanted { controller with queued } = (after, budget))
    (key : Text) : after.arrivalsOf key = controller.arrivalsOf key := by
  cases AdmissionController.openBudget_cases limits opened wanted { controller with queued } with
  | inl existing =>
      obtain ⟨known, _, shape⟩ := existing
      obtain ⟨rfl, rfl⟩ := Prod.mk.injEq .. ▸ shape.symm.trans opens
      refine AdmissionController.arrivalsOf_congr rfl fun other _ => ?_
      by_cases same : other = known <;> simp [same]
  | inr missing =>
      obtain ⟨absent, shape⟩ := missing
      obtain ⟨rfl, rfl⟩ := Prod.mk.injEq .. ▸ shape.symm.trans opens
      have absent : controller.budget? wanted = none := absent
      by_cases same : key = wanted
      · subst same
        rw [AdmissionController.arrivalsOf_none absent]
        have entry := AList.lookup_insert (b := controller.created) (a := key) controller.principals
        rw [AdmissionController.arrivalsOf_some (by exact entry)]
        simp
      · refine AdmissionController.arrivalsOf_congr (AList.lookup_insert_ne same) fun other found => ?_
        have different := (keyed.created key other found).ne
        simp [different]

variable [LinearOrder τ]

theorem Pruned.arrivalsOf {horizon : τ} (pruned : Pruned horizon controller after) (key : Text) :
    Trimmed horizon (controller.arrivalsOf key) (after.arrivalsOf key) := by
  cases pruned.removed key with
  | inl same =>
      cases found : controller.budget? key with
      | none =>
          rw [AdmissionController.arrivalsOf_none found, AdmissionController.arrivalsOf_none (same.trans found)]
          exact .inl rfl
      | some budget =>
          rw [AdmissionController.arrivalsOf_some found, AdmissionController.arrivalsOf_some (same.trans found)]
          exact pruned.arrivals budget
  | inr gone =>
      obtain ⟨absent, budget, found, _, idle⟩ := gone
      have trimmed := pruned.arrivals budget
      rw [idle] at trimmed
      rw [AdmissionController.arrivalsOf_some found, AdmissionController.arrivalsOf_none absent]
      exact trimmed

variable [AddCommGroup τ] [IsOrderedAddMonoid τ]

/-- Trimming at a later time keeps the history tracked. -/
theorem Trimmed.tracks {window clock now : τ} {history arrivals kept : List τ}
    (trimmed : Trimmed (now - window) arrivals kept) (tracks : Tracks window clock history arrivals)
    (monotone : clock ≤ now) : Tracks window now history kept := by
  cases trimmed with
  | inl same => exact same ▸ tracks.later monotone
  | inr expired => exact expired ▸ tracks.expire monotone

/-- What the charges so far say about each principal. -/
structure Windowed (limits : Limits τ) (controller : AdmissionController τ) (clock : τ) (charges : List (Charge τ)) :
    Prop where
  tracks : ∀ key, Tracks limits.principalRateWindowSeconds clock (admissions limits key charges)
    (controller.arrivalsOf key)
  bounded : ∀ key, Bounded limits.principalRateLimit limits.principalRateWindowSeconds (admissions limits key charges)
  refused : ∀ before charge, before ++ [charge] <+: charges → charge.admitted = false →
    limits.principalRateLimit ≤ within limits.principalRateWindowSeconds
      (charge.moment - limits.principalRateWindowSeconds)
      (admissions limits (budgetKey limits charge.principal) before)

namespace Windowed

variable {clock now : τ} {charges : List (Charge τ)}

omit [IsOrderedAddMonoid τ] in
theorem start (limits : Limits τ) (clock : τ) : Windowed limits (.start limits clock) clock [] where
  tracks key := Tracks.empty _ _
  bounded key older := Nat.zero_le _
  refused before charge first := by simp at first

/-- A turn that charges nothing. -/
theorem quiet (windowed : Windowed limits controller clock charges) (monotone : clock ≤ now)
    (trimmed : ∀ key, Trimmed (now - limits.principalRateWindowSeconds) (controller.arrivalsOf key)
      (after.arrivalsOf key)) : Windowed limits after now charges where
  tracks key := (trimmed key).tracks (windowed.tracks key) monotone
  bounded := windowed.bounded
  refused := windowed.refused

variable {principal : Option Text} {charged : τ}

/-- The queue of the principal that is charged is the window that ends now. -/
theorem within_eq (windowed : Windowed limits controller clock charges) (monotone : clock ≤ charged) (key : Text) :
    within limits.principalRateWindowSeconds (charged - limits.principalRateWindowSeconds)
        (admissions limits key charges) =
      (expire (charged - limits.principalRateWindowSeconds) (controller.arrivalsOf key)).length := by
  have tracks := (windowed.tracks key).expire monotone
  exact tracks.within_eq_length (expire_above (windowed.tracks key).kept_ordered)

/-- The charge is appended to a history that keeps its bound. -/
theorem admits (windowed : Windowed limits controller clock charges) (monotone : clock ≤ charged)
    (ordered : charged ≤ now)
    (room : (expire (charged - limits.principalRateWindowSeconds)
      (controller.arrivalsOf (budgetKey limits principal))).length < limits.principalRateLimit)
    (own : after.arrivalsOf (budgetKey limits principal) = expire (charged - limits.principalRateWindowSeconds)
      (controller.arrivalsOf (budgetKey limits principal)) ++ [charged])
    (others : ∀ key, key ≠ budgetKey limits principal → after.arrivalsOf key = controller.arrivalsOf key) :
    Windowed limits after now (charges ++ [{ principal, moment := charged, admitted := true }]) where
  tracks key := by
    rw [admissions_append]
    by_cases same : budgetKey limits principal = key
    · subst same
      rw [own]
      simpa using (((windowed.tracks _).expire monotone).append).later ordered
    · rw [others key (Ne.symm same)]
      simpa [same] using (windowed.tracks key).later (monotone.trans ordered)
  bounded key := by
    rw [admissions_append]
    by_cases same : budgetKey limits principal = key
    · subst same
      rw [← windowed.within_eq monotone] at room
      simpa using ((windowed.tracks _).later monotone).bounded_append (windowed.bounded _) room
    · simpa [same] using windowed.bounded key
  refused before charge first refuses := by
    cases List.prefix_concat_iff.mp first with
    | inl last =>
        have same := (List.append_inj' last rfl).2
        rw [List.singleton_inj.mp same] at refuses
        cases refuses
    | inr earlier => exact windowed.refused before charge earlier refuses

/-- The charge is refused since the window that ends with it is full. -/
theorem refuses (windowed : Windowed limits controller clock charges) (monotone : clock ≤ charged)
    (ordered : charged ≤ now)
    (full : limits.principalRateLimit ≤ (expire (charged - limits.principalRateWindowSeconds)
      (controller.arrivalsOf (budgetKey limits principal))).length)
    (own : Trimmed (now - limits.principalRateWindowSeconds) (expire (charged - limits.principalRateWindowSeconds)
      (controller.arrivalsOf (budgetKey limits principal))) (after.arrivalsOf (budgetKey limits principal)))
    (others : ∀ key, key ≠ budgetKey limits principal →
      Trimmed (now - limits.principalRateWindowSeconds) (controller.arrivalsOf key) (after.arrivalsOf key)) :
    Windowed limits after now (charges ++ [{ principal, moment := charged, admitted := false }]) where
  tracks key := by
    rw [admissions_append]
    by_cases same : key = budgetKey limits principal
    · subst same
      simpa using own.tracks ((windowed.tracks _).expire monotone) ordered
    · simpa using (others key same).tracks (windowed.tracks key) (monotone.trans ordered)
  bounded key := by
    rw [admissions_append]
    simpa using windowed.bounded key
  refused before charge first refuses := by
    cases List.prefix_concat_iff.mp first with
    | inl last =>
        obtain ⟨rfl, same⟩ := List.append_inj' last rfl
        rw [List.singleton_inj.mp same, windowed.within_eq monotone]
        exact full
    | inr earlier => exact windowed.refused before charge earlier refuses

variable [Fintype ι] {calls : ι → Gate} {points : ι → Point τ}

/-- One turn. -/
theorem turned (windowed : Windowed limits controller clock charges)
    (balanced : Balanced limits calls controller points) {call : ι} {wake : Wake} {tick : Readings τ}
    (monotone : clock ≤ tick.opened) {result : Turned τ}
    (ran : turn limits (calls call) wake tick controller (points call) = some result) :
    Windowed limits result.controller tick.pruned (charges ++ result.charge.toList) := by
  have charging := monotone.trans tick.opened_le
  have ordered := tick.charged_le.trans tick.released_le
  have pruned {after later : AdmissionController τ} {next : Point τ}
      (exchanged : Exchanged controller (points call) after next)
      (prunes : after.prunePrincipals limits tick.pruned = (later, .ended)) (key : Text) :
      Trimmed (tick.pruned - limits.principalRateWindowSeconds) (after.arrivalsOf key) (later.arrivalsOf key) := by
    obtain ⟨left, runs, _, pruned⟩ :=
      prunePrincipals_pruned limits tick.pruned (exchanged.unlocked balanced.unlocked)
    rw [prunes, Prod.mk.injEq] at runs
    rw [runs.1]
    exact pruned.arrivalsOf key
  have entry {budget : Nat} (waited : points call = .admission budget true) :
      controller.budget? (budgetKey limits (calls call).principal) = some budget :=
    balanced.entry call budget (by simp [waited])
  cases turning balanced.unlocked (balanced.settled call) ran with
  | stays exchanged framed =>
      rw [Option.toList_none, List.append_nil]
      exact windowed.quiet (charging.trans ordered) fun key => .inl (framed.arrivalsOf key)
  | ends exchanged framed prunes =>
      rw [Option.toList_none, List.append_nil]
      exact windowed.quiet (charging.trans ordered) fun key => framed.arrivalsOf key ▸ pruned exchanged prunes key
  | opens idle isGate found =>
      rw [Option.toList_none, List.append_nil]
      exact windowed.quiet (charging.trans ordered) fun key => .inl (arrivalsOf_openBudget balanced.keyed found key)
  | admits waited room exchanged charged =>
      have here := AdmissionController.arrivalsOf_some (entry waited)
      rw [← here] at room charged
      exact windowed.admits charging ordered room (charged.own (entry waited)) fun key different =>
        charged.other balanced.keyed (entry waited) different
  | refuses waited full exchanged charged prunes =>
      have here := AdmissionController.arrivalsOf_some (entry waited)
      rw [← here] at full charged
      refine windowed.refuses charging ordered full ?_ fun key different => ?_
      · rw [← charged.own (entry waited)]
        exact pruned exchanged prunes _
      · rw [← charged.other balanced.keyed (entry waited) different]
        exact pruned exchanged prunes key

end Windowed

variable [Fintype ι] [DecidableEq ι] {calls : ι → Gate}

theorem reachable_windowed {system : System ι τ} (reachable : System.Reachable limits calls system) :
    Windowed limits system.controller system.clock system.charges := by
  induction reachable with
  | start clock => exact Windowed.start limits clock
  | step earlier call wake tick turned ih =>
      unfold System.step at turned
      split at turned
      · next monotone =>
        obtain ⟨result, ran, rfl⟩ := Option.map_eq_some_iff.mp turned
        exact ih.turned (reachable_balanced earlier) monotone ran
      · cases turned

/-- The first call is admitted, and the second reaches the charge after it. -/
def chargedTurns : List (Bool × Wake × Nat) :=
  [(false, .begin, 0), (false, .grant, 1), (false, .resume, 1), (false, .grant, 2), (false, .resume, 2),
    (false, .finish, 3), (true, .begin, 4), (true, .grant, 4), (true, .resume, 4), (true, .grant, 5), (true, .resume, 5)]

def chargedRun (limits : Limits Rat) (calls : Bool → Gate) : Option (System (Bool) Rat) :=
  (System.start limits 0).run limits calls (chargedTurns.map fun entry =>
    (entry.1, entry.2.1, Readings.steady entry.2.2))

def aliceCalls : Bool → Gate := fun _ => .admission (some "alice")

def globalLimits : Limits Rat := { narrowLimits with principalBudgetMode := .global }

end HarnessProxy.Admission

import HarnessProxy.Timing.Request

namespace HarnessProxy.Timing

open HarnessProxy.Json

/-! # What the validators accept

Each validator is inverted once, so that the proofs about the ledgers never
follow its checks.
-/

@[simp] theorem require_eq_ok {condition : Bool} {result : Unit} :
    require condition = .ok result ↔ condition = true := by
  cases condition <;> simp [require, raiseIf]

/-- A check, and what follows it. -/
theorem check_bind_eq_ok {α : Type} {check : Check} {next : Unit → Except TimingError α} {result : α} :
    (check >>= next) = .ok result ↔ check = .ok () ∧ next () = .ok result := by
  rw [bind_eq_ok]
  exact ⟨fun ⟨_, passed, continued⟩ => ⟨passed, continued⟩, fun ⟨passed, continued⟩ => ⟨(), passed, continued⟩⟩

theorem isMember_eq_true {names : List Text} {value : Option Value} :
    isMember names value = .ok true ↔ ∃ text ∈ names, value = some (.str text) := by
  cases value with
  | none => simp [isMember, Value.memberOf]
  | some value => cases value <;> simp [isMember, Value.memberOf]

@[simp] theorem requireMember_eq_ok {names : List Text} {value : Option Value} {result : Unit} :
    requireMember names value = .ok result ↔ ∃ text ∈ names, value = some (.str text) := by
  rw [requireMember, bind_eq_ok, ← isMember_eq_true]
  exact ⟨fun ⟨found, member, required⟩ => require_eq_ok.mp required ▸ member,
    fun member => ⟨true, member, rfl⟩⟩

/-! ## Availabilities and durations -/

@[simp] theorem isAvailability_availability {source : Text} (known : source ∈ sourceNames) (state : Text) :
    isAvailability (some (availability state source)) state = .ok true := by
  simp [isAvailability, availability, field_row, hasKeys_row, isMember_eq_true, known]

theorem validateNullable_null {source : Text} (known : source ∈ sourceNames) :
    validateNullable (some .null) (some (unavailable source)) = .ok () := by
  simp [validateNullable, isNull, unavailable, bind_eq_ok, known]

theorem validateNullable_int {source : Text} (known : source ∈ sourceNames) (ns : Nat) :
    validateNullable (some (.int ns)) (some (measured source)) = .ok () := by
  simp [validateNullable, isNull, measured, isNonnegative, bind_eq_ok, known]

theorem validateNullable_traced (duration : Option Nat) :
    validateNullable (some (optionalNs duration)) (some (tracedAvailability duration)) = .ok () := by
  cases duration with
  | none => exact validateNullable_null (by decide)
  | some ns => exact validateNullable_int (by decide) ns

@[simp] theorem integer_int (ns : Nat) : integer (some (.int ns)) = ns := rfl

@[simp] theorem integer_null : integer (some .null) = 0 := rfl

@[simp] theorem integer_optionalNs (duration : Option Nat) :
    integer (some (optionalNs duration)) = duration.getD 0 := by
  cases duration <;> rfl

/-! ## Transports -/

/-- What `_validate_transport` accepts. -/
structure AcceptedTransport (transport : Object) : Prop where
  keys : hasKeys transport transportKeys = true
  total : isNonnegative (field transport .totalNs) = true
  durations : ∀ keys ∈ durationKeys, validateNullable (field transport keys.1) (field transport keys.2) = .ok ()
  partition : durationTotal transport = integer (field transport .totalNs)
  other : isNull (field transport .otherNs) = false
  measured : isAvailability (field transport .otherAvailability) "measured" = .ok true
  reuse : validateReuse transport = .ok ()

theorem validateTransport_eq_ok {transport : Object} :
    validateTransport (some (.obj transport)) = .ok () ↔ AcceptedTransport transport := by
  simp only [validateTransport, bind_eq_ok, require_eq_ok, raiseIf_eq_ok, forEach_eq_ok, Bool.and_eq_true,
    Bool.or_eq_false_iff, decide_eq_false_iff_not, not_not, Bool.not_eq_false', exists_const]
  constructor
  · rintro ⟨⟨keys, total⟩, durations, ⟨partition, other⟩, found, measured, holds, reuse⟩
    exact ⟨keys, total, durations, partition, other, holds ▸ measured, reuse⟩
  · rintro ⟨keys, total, durations, partition, other, measured, reuse⟩
    exact ⟨⟨keys, total⟩, durations, ⟨partition, other⟩, true, measured, rfl, reuse⟩

theorem validateTransport_inv {value : Option Value} (accepted : validateTransport value = .ok ()) :
    ∃ transport, value = some (.obj transport) ∧ AcceptedTransport transport := by
  unfold validateTransport at accepted
  split at accepted
  · next transport => exact ⟨transport, rfl, validateTransport_eq_ok.mp accepted⟩
  · cases accepted

theorem unavailableTransport_accepted (totalNs : Nat) : AcceptedTransport (unavailableTransport totalNs) where
  keys := hasKeys_row _ _
  total := by simp [unavailableTransport, field_row, transportKeys, isNonnegative]
  durations := by
    simp (disch := decide) [durationKeys, unavailableTransport, field_row, transportKeys, validateNullable_null,
      validateNullable_int]
  partition := by simp [durationTotal, durationKeys, unavailableTransport, field_row, transportKeys, integer]
  other := by simp [unavailableTransport, field_row, transportKeys, isNull]
  measured := isAvailability_availability (by decide) _
  reuse := by
    simp (disch := decide) [validateReuse, unavailableTransport, field_row, transportKeys, isNull, bind_eq_ok,
      unavailable]

@[simp] theorem unavailableTransport_total (totalNs : Nat) :
    integer (field (unavailableTransport totalNs) .totalNs) = totalNs := by
  simp [unavailableTransport, field_row, transportKeys]

namespace HttpxTraceDurations

variable (trace : HttpxTraceDurations) {totalNs : Nat}

theorem transport_accepted : AcceptedTransport (trace.transport totalNs) := by
  unfold transport
  split
  · exact unavailableTransport_accepted totalNs
  · next within =>
    exact {
      keys := hasKeys_row _ _
      total := by simp [field_row, transportKeys, isNonnegative]
      durations := by
        simp (disch := decide) [durationKeys, field_row, transportKeys, validateNullable_null,
          validateNullable_int, validateNullable_traced]
      partition := by
        simp only [known] at within
        simp [durationTotal, durationKeys, field_row, transportKeys, known]
        omega
      other := by simp [field_row, transportKeys, isNull]
      measured := by simp (disch := decide) [field_row, transportKeys, Timing.measured]
      reuse := by
        cases connected : trace.connect with
        | none =>
            simp (disch := decide) [validateReuse, field_row, transportKeys, isNull, bind_eq_ok, unavailable]
        | some ns =>
            simp (disch := decide) [validateReuse, field_row, transportKeys, isNull, bind_eq_ok, Timing.measured,
              optionalNs] }

theorem transport_total : integer (field (trace.transport totalNs) .totalNs) = totalNs := by
  unfold transport
  split <;> simp [field_row, transportKeys]

end HttpxTraceDurations

/-! ## Attempts -/

/-- What `_validate_attempt` accepts. -/
structure AcceptedAttempt (attempt : Object) : Prop where
  keys : hasKeys attempt attemptKeys = true
  phase : ∃ phase ∈ phaseNames, field attempt .phase = some (.str phase)
  status : ∃ status ∈ outcomeNames, field attempt .status = some (.str status)
  cacheLane : ∃ lane ∈ cacheLaneNames, field attempt .cacheLane = some (.str lane)
  cacheResult : ∃ result ∈ cacheResultNames, field attempt .cacheResult = some (.str result)
  numbers : (isPositive (field attempt .sequence) && isPositive (field attempt .requestSequence) &&
    isSha256 (field attempt .observerDigest) && isNonnegative (field attempt .wallNs) &&
    isNonnegative (field attempt .upstreamSlotWaitNs)) = true
  transport : ∃ transport, field attempt .transport = some (.obj transport) ∧ AcceptedTransport transport
  partition : integer (field attempt .wallNs) =
    integer (field attempt .upstreamSlotWaitNs) + transportTotal (field attempt .transport)
  diagnostics : ∀ keys ∈ nullableKeys, validateNullable (field attempt keys.1) (field attempt keys.2) = .ok ()

theorem validateAttempt_eq_ok {attempt : Object} :
    validateAttempt attempt = .ok () ↔ AcceptedAttempt attempt := by
  simp only [validateAttempt, check_bind_eq_ok, require_eq_ok, requireMember_eq_ok, raiseIf_eq_ok, forEach_eq_ok,
    decide_eq_false_iff_not, not_not]
  constructor
  · rintro ⟨keys, phase, status, cacheLane, cacheResult, numbers, validated, partition, diagnostics⟩
    exact ⟨keys, phase, status, cacheLane, cacheResult, numbers, validateTransport_inv validated, partition,
      diagnostics⟩
  · rintro ⟨keys, phase, status, cacheLane, cacheResult, numbers, ⟨transport, present, accepted⟩, partition,
      diagnostics⟩
    refine ⟨keys, phase, status, cacheLane, cacheResult, numbers, ?_, partition, diagnostics⟩
    rw [present]
    exact validateTransport_eq_ok.mpr accepted

/-- The attempts of a row, from one position on. -/
def AcceptedAttempts (requestSequence : Option Value) : Nat → List Value → Prop
  | _, [] => True
  | sequence, attempt :: rest =>
    (∃ fields, attempt = .obj fields ∧ field fields .sequence = some (.int sequence) ∧
      field fields .requestSequence = requestSequence ∧ AcceptedAttempt fields) ∧
    AcceptedAttempts requestSequence (sequence + 1) rest

theorem validateAttempts_eq_ok {requestSequence : Option Value} (attempts : List Value) (sequence : Nat) :
    validateAttempts requestSequence sequence attempts = .ok () ↔
      AcceptedAttempts requestSequence sequence attempts := by
  induction attempts generalizing sequence with
  | nil => simp [validateAttempts, AcceptedAttempts]
  | cons attempt rest ih =>
      rw [validateAttempts, check_bind_eq_ok, AcceptedAttempts, ih]
      refine and_congr_left fun _ => ?_
      cases attempt with
      | obj fields =>
          simp [validateAttemptAt, check_bind_eq_ok, validateAttempt_eq_ok, and_assoc]
      | null | bool _ | int _ | float _ | str _ | arr _ => simp [validateAttemptAt]

/-! ## Rows -/

/-- What `_validate_row` accepts. -/
structure AcceptedRow (row phases : Object) (attempts : List Value) : Prop where
  keys : hasKeys row requestKeys = true
  schema : field row .schemaVersion = some (.str "2.1")
  arm : ∃ arm ∈ armNames, field row .arm = some (.str arm)
  outcome : ∃ outcome ∈ outcomeNames, field row .outcome = some (.str outcome)
  interventionClass : ∃ name ∈ interventionNames, field row .interventionClass = some (.str name)
  cacheLane : ∃ lane ∈ cacheLaneNames, field row .cacheLane = some (.str lane)
  identity : (isBoolean (field row .localProjection) && isPositive (field row .sequence) &&
    isPositive (field row .pairOrdinal) && isSha256 (field row .requestAccountingRowSha256) &&
    isSha256 (field row .observerSliceSha256) && isSha256 (field row .downstreamRequestSha256)) = true
  numbers : (numberKeys.all fun key => isNonnegative (field row key)) = true
  phaseCounts : field row .phaseCounts = some (.obj phases)
  attemptList : field row .attempts = some (.arr attempts)
  phasesValid : (Core.sameKeys phases phaseNames && phases.all fun phase => isNonnegative (some phase.2)) = true
  accepted : AcceptedAttempts (field row .sequence) 1 attempts
  counted : countsPhases phases attempts = true
  partition : componentTotal row + attemptWall attempts = integer (field row .downstreamWallNs)
  avoided : validateNullable (field row .modelTimeAvoidedNs) (field row .modelTimeAvoidedAvailability) = .ok ()
  projection : validateProjection row phases attempts = .ok ()

theorem validateRow_eq_ok {row : Object} :
    validateRow row = .ok () ↔ ∃ phases attempts, AcceptedRow row phases attempts := by
  simp only [validateRow, check_bind_eq_ok, require_eq_ok, requireMember_eq_ok, decide_eq_true_eq]
  constructor
  · rintro ⟨keys, schema, arm, outcome, interventionClass, cacheLane, identity, numbers, rest⟩
    split at rest
    · next phases attempts phaseCounts present =>
      simp only [check_bind_eq_ok, require_eq_ok, raiseIf_eq_ok, decide_eq_false_iff_not, not_not,
        validateAttempts_eq_ok] at rest
      obtain ⟨phasesValid, accepted, counted, partition, avoided, projection⟩ := rest
      exact ⟨phases, attempts, keys, schema, arm, outcome, interventionClass, cacheLane, identity, numbers,
        phaseCounts, present, phasesValid, accepted, counted, partition, avoided, projection⟩
    · cases rest
  · rintro ⟨phases, attempts, keys, schema, arm, outcome, interventionClass, cacheLane, identity, numbers,
      phaseCounts, present, phasesValid, accepted, counted, partition, avoided, projection⟩
    refine ⟨keys, schema, arm, outcome, interventionClass, cacheLane, identity, numbers, ?_⟩
    rw [phaseCounts, present]
    simp only [check_bind_eq_ok, require_eq_ok, raiseIf_eq_ok, decide_eq_false_iff_not, not_not,
      validateAttempts_eq_ok]
    exact ⟨phasesValid, accepted, counted, partition, avoided, projection⟩

end HarnessProxy.Timing

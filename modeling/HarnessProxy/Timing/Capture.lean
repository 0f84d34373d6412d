import HarnessProxy.Timing.Lifecycle

namespace HarnessProxy.Timing

open HarnessProxy.Json

/-! # Captured rows are admissible

`capture` and `_validate_capture_row` state the partitions of a row
independently.  They agree on every lifecycle except for the outcome of a local
projection.
-/

/-! ## Attempts -/

/-- The values that stand beside a captured attempt. -/
theorem hasKeys_bindAttempt {attempt : Object} (exact : hasKeys attempt captureAttemptKeys = true)
    (requestSequence : Nat) (digest cacheLane cacheResult : Text) :
    hasKeys (bindAttempt attempt requestSequence digest cacheLane cacheResult) attemptKeys = true := by
  have bound := hasKeys_assign (hasKeys_assign (hasKeys_assign (hasKeys_assign exact .requestSequence
    (.int requestSequence)) .observerDigest (.str digest)) .cacheLane (.str cacheLane)) .cacheResult (.str cacheResult)
  exact (hasKeys_congr fun key => by cases key <;> decide).symm.trans bound

namespace CapturedAttempt

variable {attempt : CapturedAttempt}

/-- The transport of an attempt that has ended. -/
def frozenTransport (attempt : CapturedAttempt) : Object :=
  attempt.transport.getD (unavailableTransport (attempt.endedNs.getD 0 - attempt.startedNs))

theorem Frozen.finalize (frozen : attempt.Frozen) (now : Nat) :
    attempt.finalize now = .ok (attempt.captured attempt.frozenTransport) := by
  obtain ⟨endedNs, ended, ordered⟩ := frozen.ended
  have finished : attempt.finish attempt.status now = attempt := by simp [finish, ended]
  rw [CapturedAttempt.finalize, finished]
  cases present : attempt.transport with
  | some transport => simp [finalTransport, frozenTransport, present, bind, Except.bind, pure, Except.pure]
  | none => simp [finalTransport, frozenTransport, present, ended, elapsed, ordered, bind, Except.bind, pure, Except.pure]

theorem Frozen.transport_accepted (frozen : attempt.Frozen) : AcceptedTransport attempt.frozenTransport := by
  unfold frozenTransport
  cases present : attempt.transport with
  | some transport => exact frozen.transport transport present
  | none => exact unavailableTransport_accepted _

theorem wall_eq (attempt : CapturedAttempt) :
    attempt.wall = attempt.upstreamSlotWaitNs + integer (field attempt.frozenTransport .totalNs) := by
  unfold wall frozenTransport
  cases attempt.transport with
  | some transport => rfl
  | none => rw [Option.getD_none, unavailableTransport_total]

theorem captured_wall (attempt : CapturedAttempt) :
    integer (field (attempt.captured attempt.frozenTransport) .wallNs) = attempt.wall := by
  rw [wall_eq, captured, field_row]
  rfl

/-- What an attempt looks like in the row that is checked in place of a capture. -/
theorem placeholder_accepted (frozen : attempt.Frozen) (phase : attempt.phase ∈ phaseNames)
    (status : attempt.status ∈ outcomeNames) (positive : 0 < attempt.sequence) :
    AcceptedAttempt (bindAttempt (attempt.captured attempt.frozenTransport) 1 zeroDigest "cold" "unavailable") where
  keys := hasKeys_bindAttempt (hasKeys_row _ _) _ _ _ _
  phase := ⟨attempt.phase, phase, by
    simp [bindAttempt, field_assign, captured, field_row, captureAttemptKeys, attemptKeys]⟩
  status := ⟨attempt.status, status, by
    simp [bindAttempt, field_assign, captured, field_row, captureAttemptKeys, attemptKeys]⟩
  cacheLane := ⟨"cold", by decide, by simp [bindAttempt, field_assign]⟩
  cacheResult := ⟨"unavailable", by decide, by simp [bindAttempt, field_assign]⟩
  numbers := by
    have digest : isSha256 (some (.str zeroDigest)) = true := by decide
    simp [bindAttempt, field_assign, captured, field_row, captureAttemptKeys, attemptKeys, isPositive,
      isNonnegative, positive, digest]
    omega
  transport := ⟨attempt.frozenTransport, by
    simp [bindAttempt, field_assign, captured, field_row, captureAttemptKeys, attemptKeys],
    frozen.transport_accepted⟩
  partition := by
    simp [bindAttempt, field_assign, captured, field_row, captureAttemptKeys, attemptKeys, transportTotal, integer]
    omega
  diagnostics := by
    simp (disch := decide) [nullableKeys, bindAttempt, field_assign, captured, field_row, captureAttemptKeys,
      attemptKeys, validateNullable_null]

end CapturedAttempt

/-- The captured rows of attempts that have ended. -/
def capturedRows (attempts : List CapturedAttempt) : List Object :=
  attempts.map fun attempt => attempt.captured attempt.frozenTransport

theorem finalizeAttempts_frozen {attempts : List CapturedAttempt}
    (frozen : ∀ attempt ∈ attempts, attempt.Frozen) (now : Nat) :
    RequestTiming.finalizeAttempts now attempts = .ok (capturedRows attempts) := by
  induction attempts with
  | nil => rfl
  | cons attempt rest ih =>
      obtain ⟨first, others⟩ := List.forall_mem_cons.mp frozen
      simp [RequestTiming.finalizeAttempts, first.finalize, ih others, capturedRows, bind, Except.bind, pure,
        Except.pure]

theorem attemptWallOf_capturedRows (attempts : List CapturedAttempt) :
    RequestTiming.attemptWallOf (capturedRows attempts) = walls attempts := by
  simp [RequestTiming.attemptWallOf, capturedRows, walls, Function.comp_def, CapturedAttempt.captured_wall]

/-! ## Requests -/

/-- A request whose measures have all ended. -/
structure Settled (now : Nat) (timing : RequestTiming) : Prop where
  accounted : timing.startedNs + timing.spent ≤ now
  within : Within timing.attempts 0 timing.serviceWallNs
  tallied : Tallied timing
  consistent : Consistent timing

/-- The end of the response settles an idle request. -/
theorem Sound.settle {now : Nat} {timing : RequestTiming} {stage : Stage} (sound : Sound now timing stage)
    (idle : stage.Idle) : ∃ after, timing.finishResponseFinalize now = .ok after ∧ Settled now after ∧
      after.localProjection = timing.localProjection ∧ after.outcome = timing.outcome ∧
      after.correlationIdSha256 = timing.correlationIdSha256 := by
  have responding := sound.beginFinalize idle
  cases started : timing.responseFinalizeStartedNs with
  | none =>
      refine ⟨timing, by rw [RequestTiming.finishResponseFinalize, started], ⟨?_, ?_, sound.tallied,
        sound.consistent⟩, rfl, rfl, rfl⟩
      · exact sound.accounted.trans sound.reached
      · have allowed := responding.allowed
        rwa [RequestTiming.beginResponseFinalize, started] at allowed
  | some since =>
      have reached := responding.reached
      rw [RequestTiming.beginResponseFinalize, started] at reached responding
      simp only [Stage.horizon, started, Option.getD_some] at reached
      have finished : timing.finishResponseFinalize now = .ok { timing with
          responseFinalizeNs := timing.responseFinalizeNs + (now - since)
          responseFinalizeStartedNs := none } := by
        simp [RequestTiming.finishResponseFinalize, started, elapsed, reached, bind, Except.bind, pure, Except.pure]
      have settled := responding.finishFinalize finished
      exact ⟨_, finished, ⟨settled.accounted.trans settled.reached, settled.allowed, settled.tallied,
        settled.consistent⟩, rfl, rfl, rfl⟩

/-- The row of a settled request. -/
def settledRow (timing : RequestTiming) (now : Nat) : Object :=
  timing.captureRow (capturedRows timing.attempts) (now - timing.startedNs) timing.spent
    (timing.serviceWallNs - walls timing.attempts)

theorem Settled.capture_eq {now : Nat} {timing after : RequestTiming} (settled : Settled now after) {finished : Nat}
    (ends : (timing.classify .failed).finishResponseFinalize finished = .ok after) :
    timing.capture finished now = .ok (settledRow after now) := by
  have fits := settled.within.fits
  have accounted := settled.accounted
  rw [RequestTiming.spent] at accounted
  simp only [RequestTiming.capture, ends, finalizeAttempts_frozen settled.within.frozen, attemptWallOf_capturedRows,
    bind, Except.bind, raiseIf, pure, Except.pure, settledRow, RequestTiming.spent]
  rw [if_neg (by simp; omega)]
  dsimp only
  rw [if_neg (by simp; omega)]

/-- `row["sequence"] = sequence` -/
def numbered (capture : Object) (sequence : Nat) : Object :=
  capture.assign Key.sequence.name (.int sequence)

section
variable {now sequence : Nat} {timing : RequestTiming}

/-- The row that stands for a numbered capture in its validation. -/
def settledPlaceholder (timing : RequestTiming) (now sequence : Nat) : Object :=
  placeholderRow (numbered (settledRow timing now) sequence) ((capturedRows timing.attempts).map .obj)

theorem field_settledPlaceholder (timing : RequestTiming) (now sequence : Nat) (key : Key) :
    field (settledPlaceholder timing now sequence) key =
      if key ∈ requestKeys then some (match key with
        | .schemaVersion => .str "2.1"
        | .sequence | .pairOrdinal => .int 1
        | .arm => .str "proxy"
        | .requestAccountingRowSha256 | .observerSliceSha256 | .downstreamRequestSha256 => .str zeroDigest
        | .interventionClass => .str (if timing.localProjection then "projection" else "pass_through")
        | .outcome => .str (timing.outcome.getD .failed).name
        | .cacheLane => .str "cold"
        | .clientWallNs | .downstreamWallNs => .int (now - timing.startedNs : Nat)
        | .admissionWaitNs => .int timing.admissionWaitNs
        | .bodyReadNs => .int timing.bodyReadNs
        | .policyExclusiveNs => .int (timing.serviceWallNs - walls timing.attempts : Nat)
        | .responseFinalizeNs => .int timing.responseFinalizeNs
        | .otherMeasuredNs => .int (now - timing.startedNs - timing.spent : Nat)
        | .attempts => .arr (((capturedRows timing.attempts).map .obj).map placeholderAttempt)
        | .localProjection => .bool timing.localProjection
        | .avoidedImmediateUpstreamCalls => .int timing.avoidedImmediateUpstreamCalls
        | .correctionCount => .int timing.correctionCount
        | .blockedDuplicateCount => .int timing.blockedDuplicateCount
        | .blockedStallCount => .int timing.blockedStallCount
        | .retryAttemptCount => .int ((capturedRows timing.attempts).length - timing.phasesUsed)
        | .phaseCounts => .obj timing.phaseCountFields
        | .modelTimeAvoidedAvailability => unavailable "not_observable"
        | _ => .null) else none := by
  rw [settledPlaceholder, placeholderRow, field_row]
  by_cases member : key ∈ requestKeys
  · rw [if_pos member, if_pos member]
    cases key <;> first
      | exact absurd member (by decide)
      | simp [fieldValue, numbered, field_assign, settledRow, RequestTiming.captureRow, field_row, captureKeys,
          Value.truthy]
  · rw [if_neg member, if_neg member]

/-- The attempts of the placeholder, from one position on. -/
theorem placeholder_attempts {attempts : List CapturedAttempt} (frozen : ∀ attempt ∈ attempts, attempt.Frozen)
    (phases : ∀ attempt ∈ attempts, attempt.phase ∈ phaseNames)
    (statuses : ∀ attempt ∈ attempts, attempt.status ∈ outcomeNames) (start : Nat) (positive : 0 < start)
    (sequences : attempts.map CapturedAttempt.sequence = List.range' start attempts.length) :
    AcceptedAttempts (some (.int 1)) start (((capturedRows attempts).map .obj).map placeholderAttempt) := by
  induction attempts generalizing start with
  | nil => trivial
  | cons attempt rest ih =>
      obtain ⟨frozen, others⟩ := List.forall_mem_cons.mp frozen
      obtain ⟨phase, phases⟩ := List.forall_mem_cons.mp phases
      obtain ⟨status, statuses⟩ := List.forall_mem_cons.mp statuses
      simp only [List.map_cons, List.length_cons, List.range'_succ, List.cons.injEq] at sequences
      obtain ⟨same, sequences⟩ := sequences
      refine ⟨⟨_, rfl, ?_, ?_, ?_⟩, ih others phases statuses (start + 1) (by omega) sequences⟩
      · simp [Value.asObject?, bindAttempt, field_assign, CapturedAttempt.captured, field_row, captureAttemptKeys,
          attemptKeys, same]
      · simp [bindAttempt, field_assign]
      · exact attempt.placeholder_accepted frozen phase status (by omega)

theorem placeholder_walls (attempts : List CapturedAttempt) :
    attemptWall (((capturedRows attempts).map .obj).map placeholderAttempt) = walls attempts := by
  rw [← attemptWallOf_capturedRows]
  simp [attemptWall, RequestTiming.attemptWallOf, capturedRows, Function.comp_def, placeholderAttempt,
    Value.asObject?, bindAttempt, field_assign]

theorem placeholder_phases (attempts : List CapturedAttempt) (phase : Text) :
    phaseCount (((capturedRows attempts).map .obj).map placeholderAttempt) phase =
      attempts.countP (·.phase = phase) := by
  simp [phaseCount, capturedRows, List.countP_map, Function.comp_def, placeholderAttempt, Value.asObject?,
    bindAttempt, field_assign, CapturedAttempt.captured, field_row, captureAttemptKeys, attemptKeys]

theorem get?_phaseCountFields (timing : RequestTiming) {phase : Text} (known : phase ∈ phaseNames) :
    timing.phaseCountFields.get? phase = some (.int (timing.phaseCounts phase)) := by
  have found := get?_record Function.injective_id phaseNames
    (fun phase => .int (timing.phaseCounts phase)) phase
  rw [if_pos known] at found
  exact found

/-- Every phase that was used has an attempt of its own. -/
theorem Tallied.phasesUsed_le (tallied : Tallied timing) : timing.phasesUsed ≤ timing.attempts.length := by
  have distinct : (phaseNames.filter fun phase => 0 < timing.phaseCounts phase).Nodup :=
    List.Nodup.filter _ (by decide)
  have used : (phaseNames.filter fun phase => 0 < timing.phaseCounts phase) ⊆
      timing.attempts.map CapturedAttempt.phase := by
    intro phase member
    obtain ⟨known, positive⟩ := List.mem_filter.mp member
    rw [decide_eq_true_eq, tallied.counts phase known, List.countP_pos_iff] at positive
    obtain ⟨attempt, attempted, same⟩ := positive
    exact List.mem_map.mpr ⟨attempt, attempted, by simpa using same⟩
  have bounded := (distinct.subperm used).length_le
  rwa [List.length_map, ← List.countP_eq_length_filter] at bounded

theorem Settled.placeholder_accepted (settled : Settled now timing) :
    (∃ phases attempts, AcceptedRow (settledPlaceholder timing now sequence) phases attempts) ↔
      validateProjection (settledPlaceholder timing now sequence) timing.phaseCountFields
        (((capturedRows timing.attempts).map .obj).map placeholderAttempt) = .ok () := by
  have fields := field_settledPlaceholder timing now sequence
  constructor
  · rintro ⟨phases, attempts, accepted⟩
    have samePhases := accepted.phaseCounts
    have sameAttempts := accepted.attemptList
    rw [fields, if_pos (by decide)] at samePhases sameAttempts
    cases samePhases
    cases sameAttempts
    exact accepted.projection
  · intro projection
    have tallied := settled.tallied
    have fits := settled.within.fits
    have accounted := settled.accounted
    have used := tallied.phasesUsed_le
    have digest : isSha256 (some (.str zeroDigest)) = true := by decide
    rw [RequestTiming.spent] at accounted
    exact ⟨_, _, {
      keys := hasKeys_row _ _
      schema := by rw [fields]; rfl
      arm := ⟨"proxy", by decide, by rw [fields]; rfl⟩
      outcome := ⟨(timing.outcome.getD .failed).name, by
        cases timing.outcome.getD .failed <;> decide, by rw [fields]; rfl⟩
      interventionClass := ⟨if timing.localProjection then "projection" else "pass_through", by
        split <;> decide, by rw [fields]; rfl⟩
      cacheLane := ⟨"cold", by decide, by rw [fields]; rfl⟩
      identity := by simp [fields, requestKeys, isBoolean, isPositive, digest]
      numbers := by
        simp [numberKeys, fields, requestKeys, isNonnegative, capturedRows, used]
      phaseCounts := by rw [fields]; rfl
      attemptList := by rw [fields]; rfl
      phasesValid := by simp [RequestTiming.phaseCountFields, Core.sameKeys, phaseNames, Object.keys, isNonnegative]
      accepted := by
        rw [fields]
        exact placeholder_attempts settled.within.frozen tallied.phases tallied.statuses 1 (by decide)
          tallied.sequences
      counted := by
        refine List.all_eq_true.mpr fun phase known => ?_
        rw [placeholder_phases, get?_phaseCountFields timing known, tallied.counts phase known]
        simp
      partition := by
        simp only [componentTotal, componentKeys, placeholder_walls, fields]
        simp [requestKeys, RequestTiming.spent]
        omega
      avoided := by
        rw [fields, fields]
        exact validateNullable_null (by decide)
      projection := projection }⟩

/-- A projection must have succeeded; nothing else is asked of the outcome. -/
theorem Settled.projection_eq_ok (settled : Settled now timing) :
    validateProjection (settledPlaceholder timing now sequence) timing.phaseCountFields
        (((capturedRows timing.attempts).map .obj).map placeholderAttempt) = .ok () ↔
      (timing.localProjection = true → timing.outcome.getD .failed = .succeeded) := by
  have fields := field_settledPlaceholder timing now sequence
  have name : (timing.outcome.getD .failed).name = ("succeeded" : Text) ↔
      timing.outcome.getD .failed = .succeeded := by
    cases timing.outcome.getD .failed <;> decide
  unfold validateProjection
  cases projection : timing.localProjection with
  | false =>
      have avoided := settled.consistent.requested projection
      simp [fields, requestKeys, projection, avoided]
  | true =>
      obtain ⟨empty, corrections, duplicates, stalls, avoided⟩ := settled.consistent.projected projection
      have unused : ∀ phase ∈ phaseNames, timing.phaseCounts phase = 0 := fun phase known => by
        rw [settled.tallied.counts phase known, empty]
        rfl
      have phases : timing.phaseCountFields.all (fun phase => !phase.2.truthy) = true := by
        simp only [RequestTiming.phaseCountFields, List.all_map, List.all_eq_true, Function.comp_apply]
        intro phase known
        simp [unused phase known, Value.truthy]
      have retried : timing.phasesUsed = 0 := by
        have used := settled.tallied.phasesUsed_le
        rw [empty] at used
        simpa using used
      simp [fields, requestKeys, projection, check_bind_eq_ok, name, empty, capturedRows, phases, interventionKeys,
        corrections, duplicates, stalls, retried, avoided, isNull, integer]

theorem Settled.validate_eq_ok (settled : Settled now timing) (sequence : Nat) :
    validateCaptureRow (numbered (settledRow timing now) sequence) = .ok () ↔
      (timing.localProjection = true → timing.outcome.getD .failed = .succeeded) := by
  have keys : hasKeys (numbered (settledRow timing now) sequence) captureKeys = true :=
    (hasKeys_congr fun key => by cases key <;> decide).symm.trans
      (hasKeys_assign (hasKeys_row captureKeys _) .sequence (.int sequence))
  have captures : (((capturedRows timing.attempts).map Value.obj).all isCaptureAttempt) = true := by
    simp only [capturedRows, List.map_map, List.all_map, List.all_eq_true]
    intro attempt _
    change hasKeys (attempt.captured attempt.frozenTransport) captureAttemptKeys = true
    exact hasKeys_row _ _
  have attempts : field (numbered (settledRow timing now) sequence) .attempts =
      some (.arr ((capturedRows timing.attempts).map .obj)) := by
    rw [numbered, field_assign, settledRow, RequestTiming.captureRow, field_row]
    rfl
  have outcome : ∃ name ∈ outcomeNames,
      field (numbered (settledRow timing now) sequence) .outcome = some (.str name) := by
    refine ⟨(timing.outcome.getD .failed).name, by cases timing.outcome.getD .failed <;> decide, ?_⟩
    rw [numbered, field_assign, settledRow, RequestTiming.captureRow, field_row]
    rfl
  have header : (field (numbered (settledRow timing now) sequence) .schemaVersion = some (.str "2.1") &&
      field (numbered (settledRow timing now) sequence) .recordType = some (.str "qualification_timing_capture") &&
      isNonnegative (field (numbered (settledRow timing now) sequence) .sequence) &&
      isSha256 (field (numbered (settledRow timing now) sequence) .correlationIdSha256)) = true := by
    simp [numbered, field_assign, settledRow, RequestTiming.captureRow, field_row, captureKeys, isNonnegative,
      timing.correlationIdSha256.valid]
  simp only [validateCaptureRow, check_bind_eq_ok, require_eq_ok, requireMember_eq_ok]
  rw [attempts]
  simp only [check_bind_eq_ok, require_eq_ok]
  rw [← settled.projection_eq_ok, ← settled.placeholder_accepted, ← validateRow_eq_ok]
  constructor
  · rintro ⟨_, _, _, _, accepted⟩
    exact accepted
  · exact fun accepted => ⟨keys, header, outcome, captures, accepted⟩

end

theorem Settled.later {now later : Nat} {timing : RequestTiming} (settled : Settled now timing)
    (monotone : now ≤ later) : Settled later timing :=
  ⟨settled.accounted.trans monotone, settled.within, settled.tallied, settled.consistent⟩

/-- The capture of a request is computed, and the sink accepts its row. -/
def Admissible (timing : RequestTiming) (finished now sequence : Nat) : Prop :=
  ∃ capture, timing.capture finished now = .ok capture ∧ validateCaptureRow (numbered capture sequence) = .ok ()

/-- The request was answered from a receipt, and did not end well. -/
def UnsuccessfulProjection (timing : RequestTiming) : Prop :=
  timing.localProjection = true ∧ timing.outcome.getD .failed ≠ .succeeded

/-- Every request whose measures have ended can be captured, and its row is
admissible unless it projected and then failed. -/
theorem admissible_iff {digest : Digest} {ready finished now sequence : Nat} {timing : RequestTiming} {stage : Stage}
    (lifecycle : Lifecycle digest ready timing stage) (idle : stage.Idle) (ends : ready ≤ finished)
    (captured : finished ≤ now) :
    Admissible timing finished now sequence ↔ ¬ UnsuccessfulProjection timing := by
  have classified : Sound finished (timing.classify .failed) stage :=
    (Move.classify .failed).sound (lifecycle.sound.later ends)
  obtain ⟨after, closed, settled, projection, outcome, _⟩ := classified.settle idle
  have row := (settled.later captured).capture_eq closed
  have same : after.outcome.getD .failed = timing.outcome.getD .failed := by
    rw [outcome]
    cases given : timing.outcome <;> simp [RequestTiming.classify, classify, given]
  have projected : after.localProjection = timing.localProjection := projection
  rw [UnsuccessfulProjection, ← same, ← projected, not_and, not_not,
    ← (settled.later captured).validate_eq_ok sequence]
  constructor
  · rintro ⟨capture, computed, accepted⟩
    cases row.symm.trans computed
    exact accepted
  · exact fun accepted => ⟨_, row, accepted⟩

/-- A request that a receipt answered while it was served from 6 to 8. -/
def answered (outcome : Outcome) : RequestTiming where
  startedNs := 0
  admissionWaitNs := 1
  bodyReadNs := 2
  serviceWallNs := 2
  localProjection := true
  avoidedImmediateUpstreamCalls := 1
  correlationIdSha256 := ⟨zeroDigest, by decide⟩
  outcome := some outcome

theorem answered_lifecycle (outcome : Outcome) :
    Lifecycle ⟨zeroDigest, by decide⟩ 9 (answered outcome) .served :=
  .move (.move (.move (.move (.move (.move (.move (.move (.begin 0)
    (by decide : 0 ≤ 1) .enterAdmission) (by decide : 1 ≤ 2) .recordAdmission)
    (by decide : 2 ≤ 3) .beginBody) (by decide : 3 ≤ 5) .recordBody)
    (by decide : 5 ≤ 6) .beginService) (by decide : 6 ≤ 7) (.project rfl))
    (by decide : 7 ≤ 8) .endProjected) (by decide : 8 ≤ 9) (.classify outcome)

theorem admissible_iff_answered : Admissible (answered .succeeded) 9 10 1 :=
  (admissible_iff (answered_lifecycle .succeeded) .served (by decide) (by decide)).mpr fun failed =>
    failed.2 rfl

/-- The deadline passed after the projection: the row is computed and refused. -/
theorem answered_late_inadmissible :
    Lifecycle ⟨zeroDigest, by decide⟩ 9 (answered .deadline) .served ∧
      ¬ Admissible (answered .deadline) 9 10 1 := by
  refine ⟨answered_lifecycle .deadline, ?_⟩
  rintro ⟨capture, computed, accepted⟩
  have refused : ((answered .deadline).capture 9 10).bind
      (fun capture => validateCaptureRow (numbered capture 1)) = .error ledgerInvalid := by
    decide
  rw [computed] at refused
  cases accepted.symm.trans refused

end HarnessProxy.Timing

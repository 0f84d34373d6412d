import HarnessProxy.Timing.Accepted
import Mathlib.Data.List.ModifyLast

namespace HarnessProxy.Timing

open HarnessProxy.Json

/-! # The life of one request

The endpoint, the admission, the service and the transport share one
`RequestTiming`.  A request passes through the stages below, and each move reads
the monotonic clock at most once.  A stage that measures an interval carries the
reading at which the interval began.
-/

inductive Stage where
  | ingress
  | admitting (since : Nat)
  | admitted
  | reading (since : Nat)
  | read
  | serving (since : Nat)
  | projected (since : Nat)
  | waiting (since slotSince : Nat)
  | holding (since slotWaitNs : Nat)
  | attempting (since : Nat)
  | requesting (since requestSince : Nat) (trace : HttpxTraceDurations)
  | served
  | responding

/-- Stages of the endpoint in which no measure of an earlier part is running. -/
inductive Stage.Idle : Stage → Prop where
  | ingress : Idle .ingress
  | admitted : Idle .admitted
  | read : Idle .read
  | served : Idle .served
  | responding : Idle .responding

section
variable (now : Nat)

/-- One move of a request, at a reading of the clock. -/
inductive Move (timing : RequestTiming) : Stage → RequestTiming → Stage → Prop where
  /-- `admit`: the wait is recorded when it ends, however it ends. -/
  | enterAdmission : Move timing .ingress timing (.admitting now)
  | recordAdmission {since : Nat} :
      Move timing (.admitting since) (timing.recordAdmissionWait (now - since)) .admitted
  /-- `_timed_read_payload` -/
  | beginBody : Move timing .admitted timing (.reading now)
  | recordBody {since : Nat} : Move timing (.reading since) (timing.recordBodyRead (now - since)) .read
  /-- `_timed_complete` -/
  | beginService : Move timing .read timing (.serving now)
  | endService {since : Nat} : Move timing (.serving since) (timing.recordServiceWall (now - since)) .served
  | endProjected {since : Nat} : Move timing (.projected since) (timing.recordServiceWall (now - since)) .served
  /-- `_snapshot_timing` after a turn of the harness. -/
  | snapshot {since : Nat} (corrections blockedDuplicates blockedStalls : Nat) :
      Move timing (.serving since)
        (timing.recordInterventions corrections blockedDuplicates blockedStalls false 0) (.serving since)
  /-- `_snapshot_timing` of a projection, of a harness that has not intervened. -/
  | project {since : Nat} (unattempted : timing.attempts = []) :
      Move timing (.serving since) (timing.recordInterventions 0 0 0 true 1) (.projected since)
  /-- `upstream_slot` -/
  | requestSlot {since : Nat} : Move timing (.serving since) timing (.waiting since now)
  | refuseSlot {since slotSince : Nat} : Move timing (.waiting since slotSince) timing (.serving since)
  | obtainSlot {since slotSince : Nat} :
      Move timing (.waiting since slotSince) timing (.holding since (now - slotSince))
  /-- The slot of a probe, which is no attempt. -/
  | releaseSlot {since slotWaitNs : Nat} : Move timing (.holding since slotWaitNs) timing (.serving since)
  /-- `begin_upstream_attempt` and `end_upstream_attempt` -/
  | beginAttempt {since slotWaitNs : Nat} (phase : Option Text) :
      Move timing (.holding since slotWaitNs) (timing.beginAttempt phase slotWaitNs now) (.attempting since)
  | endAttempt {since : Nat} (status : Text) :
      Move timing (.attempting since) (timing.updateAttempt fun attempt => attempt.finish status now)
        (.serving since)
  /-- `_request` -/
  | beginRequest {since : Nat} : Move timing (.attempting since) timing (.requesting since now {})
  | trace {since requestSince : Nat} {trace : HttpxTraceDurations} (name : Text) :
      Move timing (.requesting since requestSince trace) timing
        (.requesting since requestSince (trace.callback name now))
  | setTransport {since requestSince : Nat} {trace : HttpxTraceDurations} :
      Move timing (.requesting since requestSince trace)
        (timing.updateAttempt fun attempt =>
          { attempt with transport := some (trace.transport (now - requestSince)) }) (.attempting since)
  /-- The response, or the error handler in its place. -/
  | beginFinalize {stage : Stage} (idle : stage.Idle) :
      Move timing stage (timing.beginResponseFinalize now) .responding
  | finishFinalize {after : RequestTiming} (finished : timing.finishResponseFinalize now = .ok after) :
      Move timing .responding after .responding
  /-- Outcomes are classified by several layers. -/
  | classify {stage : Stage} (outcome : Outcome) : Move timing stage (timing.classify outcome) stage

end

/-- The requests that the endpoint can have at a reading of the clock. -/
inductive Lifecycle (digest : Digest) : Nat → RequestTiming → Stage → Prop where
  | begin (now : Nat) : Lifecycle digest now { startedNs := now, correlationIdSha256 := digest } .ingress
  | move {before now : Nat} {timing after : RequestTiming} {stage next : Stage} :
      Lifecycle digest before timing stage → before ≤ now → Move now timing stage after next →
      Lifecycle digest now after next

/-! ## Attempts in time -/

namespace CapturedAttempt

/-- An attempt that has ended. -/
structure Frozen (attempt : CapturedAttempt) : Prop where
  ended : ∃ endedNs, attempt.endedNs = some endedNs ∧ attempt.startedNs ≤ endedNs
  transport : ∀ transport, attempt.transport = some transport → AcceptedTransport transport

/-- The wall of an attempt that has ended. -/
def wall (attempt : CapturedAttempt) : Nat :=
  attempt.upstreamSlotWaitNs + match attempt.transport with
    | some transport => integer (field transport .totalNs)
    | none => attempt.endedNs.getD 0 - attempt.startedNs

/-- An attempt that has begun and not ended. -/
structure Running (attempt : CapturedAttempt) (now : Nat) : Prop where
  unended : attempt.endedNs = none
  begun : attempt.startedNs ≤ now
  transport : ∀ transport, attempt.transport = some transport →
    AcceptedTransport transport ∧ attempt.startedNs + integer (field transport .totalNs) ≤ now

variable {attempt : CapturedAttempt} {now : Nat}

theorem Running.later {later : Nat} (running : attempt.Running now) (monotone : now ≤ later) :
    attempt.Running later where
  unended := running.unended
  begun := running.begun.trans monotone
  transport transport present :=
    ⟨(running.transport transport present).1, (running.transport transport present).2.trans monotone⟩

theorem Running.finish_eq (running : attempt.Running now) (status : Text) :
    attempt.finish status now =
      { attempt with
        endedNs := some now
        status := if outcomeNames.contains status then status else "failed" } := by
  rw [finish, running.unended]
  rfl

theorem Running.finish_frozen (running : attempt.Running now) (status : Text) :
    (attempt.finish status now).Frozen := by
  rw [running.finish_eq]
  exact ⟨⟨now, rfl, running.begun⟩, fun transport present => (running.transport transport present).1⟩

/-- The wall of an attempt fits between its slot wait and its end. -/
theorem Running.finish_wall (running : attempt.Running now) (status : Text) :
    attempt.startedNs + (attempt.finish status now).wall ≤ attempt.upstreamSlotWaitNs + now := by
  have begun := running.begun
  rw [running.finish_eq]
  cases present : attempt.transport with
  | none =>
      simp only [wall, Option.getD_some]
      omega
  | some transport =>
      have total := (running.transport transport present).2
      simp only [wall]
      omega

theorem Running.requested {requestSince : Nat} (running : attempt.Running requestSince)
    (monotone : requestSince ≤ now) (trace : HttpxTraceDurations) :
    Running { attempt with transport := some (trace.transport (now - requestSince)) } now where
  unended := running.unended
  begun := running.begun.trans monotone
  transport transport present := by
    cases present
    have begun := running.begun
    refine ⟨trace.transport_accepted, ?_⟩
    rw [trace.transport_total]
    dsimp only
    omega

end CapturedAttempt

/-- The time that attempts have taken. -/
def walls (attempts : List CapturedAttempt) : Nat := (attempts.map CapturedAttempt.wall).sum

@[simp] theorem walls_nil : walls [] = 0 := rfl

@[simp] theorem walls_concat (attempts : List CapturedAttempt) (attempt : CapturedAttempt) :
    walls (attempts ++ [attempt]) = walls attempts + attempt.wall := by
  simp [walls]

/-- Attempts that have ended, within a span of time. -/
structure Within (attempts : List CapturedAttempt) (since now : Nat) : Prop where
  frozen : ∀ attempt ∈ attempts, attempt.Frozen
  fits : since + walls attempts ≤ now

theorem Within.later {attempts : List CapturedAttempt} {since now later : Nat} (within : Within attempts since now)
    (monotone : now ≤ later) : Within attempts since later :=
  ⟨within.frozen, within.fits.trans monotone⟩

/-- The last attempt is running, and the ones before it have ended. -/
structure Underway (attempts : List CapturedAttempt) (since now : Nat) : Prop where
  split : ∃ earlier last, attempts = earlier ++ [last] ∧ last.Running now ∧
    Within earlier since (last.startedNs - last.upstreamSlotWaitNs) ∧ last.upstreamSlotWaitNs ≤ last.startedNs

namespace Underway

variable {attempts : List CapturedAttempt} {since now : Nat}

theorem later {later : Nat} (underway : Underway attempts since now) (monotone : now ≤ later) :
    Underway attempts since later := by
  obtain ⟨earlier, last, same, running, within, waited⟩ := underway.split
  exact ⟨earlier, last, same, running.later monotone, within, waited⟩

theorem finished (underway : Underway attempts since now) (status : Text) :
    Within (attempts.modifyLast fun attempt => attempt.finish status now) since now := by
  obtain ⟨earlier, last, rfl, running, within, waited⟩ := underway.split
  rw [List.modifyLast_concat]
  refine ⟨fun attempt member => ?_, ?_⟩
  · rcases List.mem_append.mp member with old | new
    · exact within.frozen attempt old
    · rw [List.mem_singleton.mp new]
      exact running.finish_frozen status
  · have fits := within.fits
    have wall := running.finish_wall status
    rw [walls_concat]
    omega

theorem requested {requestSince : Nat} (underway : Underway attempts since requestSince)
    (monotone : requestSince ≤ now) (trace : HttpxTraceDurations) :
    Underway (attempts.modifyLast fun attempt =>
      { attempt with transport := some (trace.transport (now - requestSince)) }) since now := by
  obtain ⟨earlier, last, rfl, running, within, waited⟩ := underway.split
  rw [List.modifyLast_concat]
  exact ⟨earlier, _, rfl, running.requested monotone trace, within, waited⟩

end Underway

theorem Within.begun {attempts : List CapturedAttempt} {since now slotWaitNs : Nat}
    (within : Within attempts (since + slotWaitNs) now) (sequence : Nat) (phase : Text) :
    Underway (attempts ++ [{ sequence, phase, upstreamSlotWaitNs := slotWaitNs, startedNs := now }]) since now := by
  have fits := within.fits
  refine ⟨attempts, _, rfl, ⟨rfl, le_rfl, fun _ present => by cases present⟩, ⟨within.frozen, ?_⟩, ?_⟩
  · dsimp only
    omega
  · dsimp only
    omega

/-! ## What every lifecycle keeps -/

/-- The time that a request has accounted for. -/
def RequestTiming.spent (timing : RequestTiming) : Nat :=
  timing.admissionWaitNs + timing.bodyReadNs + timing.serviceWallNs + timing.responseFinalizeNs

/-- The reading up to which the time of a request may be accounted for. -/
def Stage.horizon (timing : RequestTiming) (now : Nat) : Stage → Nat
  | .admitting since | .reading since | .serving since | .projected since | .waiting since _ | .holding since _
    | .attempting since | .requesting since _ _ => since
  | .responding => timing.responseFinalizeStartedNs.getD now
  | _ => now

/-- The attempts that a stage may have. -/
def Stage.Allows (timing : RequestTiming) (now : Nat) : Stage → Prop
  | .serving since | .projected since => Within timing.attempts since now
  | .waiting since slotSince => Within timing.attempts since slotSince ∧ slotSince ≤ now
  | .holding since slotWaitNs => Within timing.attempts (since + slotWaitNs) now
  | .attempting since => Underway timing.attempts since now
  | .requesting since requestSince _ => Underway timing.attempts since requestSince ∧ requestSince ≤ now
  | .served | .responding => Within timing.attempts 0 timing.serviceWallNs
  | _ => timing.attempts = []

/-- What a captured row says about the attempts beside their times. -/
structure Tallied (timing : RequestTiming) : Prop where
  sequences : timing.attempts.map CapturedAttempt.sequence = List.range' 1 timing.attempts.length
  phases : ∀ attempt ∈ timing.attempts, attempt.phase ∈ phaseNames
  statuses : ∀ attempt ∈ timing.attempts, attempt.status ∈ outcomeNames
  counts : ∀ phase ∈ phaseNames, timing.phaseCounts phase = timing.attempts.countP (·.phase = phase)

/-- What a snapshot says about the projection. -/
structure Consistent (timing : RequestTiming) : Prop where
  projected : timing.localProjection = true →
    timing.attempts = [] ∧ timing.correctionCount = 0 ∧ timing.blockedDuplicateCount = 0 ∧
      timing.blockedStallCount = 0 ∧ timing.avoidedImmediateUpstreamCalls = 1
  requested : timing.localProjection = false → timing.avoidedImmediateUpstreamCalls = 0

/-- Stages that a projected request may be in. -/
def Stage.Unattempted : Stage → Prop
  | .projected _ | .served | .responding => True
  | _ => False

structure Sound (now : Nat) (timing : RequestTiming) (stage : Stage) : Prop where
  accounted : timing.startedNs + timing.spent ≤ stage.horizon timing now
  reached : stage.horizon timing now ≤ now
  finalizing : timing.responseFinalizeStartedNs ≠ none → stage = .responding
  allowed : stage.Allows timing now
  tallied : Tallied timing
  consistent : Consistent timing
  unattempted : timing.localProjection = true → stage.Unattempted

namespace Tallied

variable {timing after : RequestTiming}

/-- A change that leaves the attempts alone. -/
theorem frame (tallied : Tallied timing) (attempts : after.attempts = timing.attempts)
    (counts : after.phaseCounts = timing.phaseCounts) : Tallied after where
  sequences := by rw [attempts]; exact tallied.sequences
  phases := by rw [attempts]; exact tallied.phases
  statuses := by rw [attempts]; exact tallied.statuses
  counts := by rw [attempts, counts]; exact tallied.counts

theorem normalizedPhase_mem (phase : Option Text) : RequestTiming.normalizedPhase phase ∈ phaseNames := by
  cases phase with
  | none => decide
  | some phase =>
      simp only [RequestTiming.normalizedPhase]
      split
      · next known => exact List.contains_iff_mem.mp known
      · decide

theorem beginAttempt (tallied : Tallied timing) (phase : Option Text) (slotWaitNs now : Nat) :
    Tallied (timing.beginAttempt phase slotWaitNs now) where
  sequences := by
    simp [RequestTiming.beginAttempt, tallied.sequences, List.range'_concat, Nat.add_comm]
  phases attempt member := by
    rcases List.mem_append.mp member with old | new
    · exact tallied.phases attempt old
    · rw [List.mem_singleton.mp new]
      exact normalizedPhase_mem phase
  statuses attempt member := by
    rcases List.mem_append.mp member with old | new
    · exact tallied.statuses attempt old
    · rw [List.mem_singleton.mp new]
      exact List.contains_iff_mem.mp rfl
  counts name member := by
    have counted := tallied.counts name member
    by_cases same : RequestTiming.normalizedPhase phase = name
    · simp [RequestTiming.beginAttempt, List.countP_append, same, counted]
    · have different : name ≠ RequestTiming.normalizedPhase phase := fun equal => same equal.symm
      simp [RequestTiming.beginAttempt, List.countP_append, same, different, counted]

/-- A change of the last attempt that keeps what is tallied. -/
theorem updateAttempt (tallied : Tallied timing) {earlier : List CapturedAttempt} {last : CapturedAttempt}
    (split : timing.attempts = earlier ++ [last]) {change : CapturedAttempt → CapturedAttempt}
    (sequence : (change last).sequence = last.sequence) (phase : (change last).phase = last.phase)
    (status : (change last).status ∈ outcomeNames) : Tallied (timing.updateAttempt change) := by
  have changed : (timing.updateAttempt change).attempts = earlier ++ [change last] := by
    rw [RequestTiming.updateAttempt, split, List.modifyLast_concat]
  obtain ⟨sequences, phases, statuses, counts⟩ := tallied
  rw [split] at sequences phases statuses counts
  constructor
  · simpa [changed, sequence] using sequences
  · rw [changed]
    simp only [List.mem_append, List.mem_singleton] at phases ⊢
    rintro attempt (old | rfl)
    · exact phases attempt (.inl old)
    · rw [phase]
      exact phases last (.inr rfl)
  · rw [changed]
    simp only [List.mem_append, List.mem_singleton] at statuses ⊢
    rintro attempt (old | rfl)
    · exact statuses attempt (.inl old)
    · exact status
  · intro name member
    have kept : (timing.updateAttempt change).phaseCounts = timing.phaseCounts := rfl
    rw [changed, kept, counts name member]
    simp [List.countP_append, List.countP_cons, phase]

end Tallied

theorem finish_status_mem (attempt : CapturedAttempt) (known : attempt.status ∈ outcomeNames) (status : Text)
    (now : Nat) : (attempt.finish status now).status ∈ outcomeNames := by
  unfold CapturedAttempt.finish
  split
  · dsimp only
    split
    · next found => exact List.contains_iff_mem.mp found
    · decide
  · exact known

theorem Consistent.unprojected {timing : RequestTiming} (projection : timing.localProjection = false)
    (avoided : timing.avoidedImmediateUpstreamCalls = 0) : Consistent timing where
  projected projected := by rw [projection] at projected; cases projected
  requested _ := avoided

namespace Sound

variable {now : Nat} {timing : RequestTiming} {stage : Stage}

theorem later {before : Nat} (sound : Sound before timing stage) (monotone : before ≤ now) :
    Sound now timing stage := by
  obtain ⟨accounted, reached, finalizing, allowed, tallied, consistent, unattempted⟩ := sound
  refine ⟨?_, ?_, finalizing, ?_, tallied, consistent, unattempted⟩
  · cases stage <;> first
      | exact accounted
      | exact accounted.trans monotone
      | cases started : timing.responseFinalizeStartedNs <;>
          simp only [Stage.horizon, started, Option.getD_none, Option.getD_some] at accounted ⊢ <;> omega
  · cases stage <;> first
      | exact reached.trans monotone
      | exact le_rfl
      | cases started : timing.responseFinalizeStartedNs <;>
          simp only [Stage.horizon, started, Option.getD_none, Option.getD_some] at reached ⊢ <;> omega
  · cases stage with
    | serving | projected | holding => exact allowed.later monotone
    | waiting => exact ⟨allowed.1, allowed.2.trans monotone⟩
    | attempting => exact allowed.later monotone
    | requesting => exact ⟨allowed.1, allowed.2.trans monotone⟩
    | ingress | admitting | admitted | reading | read | served | responding => exact allowed

/-- Where attempts may follow, nothing has been projected. -/
theorem unprojected (sound : Sound now timing stage) (attempting : ¬ stage.Unattempted) :
    timing.localProjection = false := by
  by_contra projected
  exact attempting (sound.unattempted (by simpa using projected))

/-- A move to another stage that records nothing. -/
theorem pass {next : Stage} (sound : Sound now timing stage) (accounted : timing.startedNs + timing.spent ≤
    next.horizon timing now) (reached : next.horizon timing now ≤ now) (early : stage ≠ .responding)
    (attempting : ¬ stage.Unattempted) (allowed : next.Allows timing now) : Sound now timing next where
  accounted := accounted
  reached := reached
  finalizing started := absurd (sound.finalizing started) early
  allowed := allowed
  tallied := sound.tallied
  consistent := sound.consistent
  unattempted projected := by
    rw [sound.unprojected attempting] at projected
    cases projected

theorem beginFinalize (sound : Sound now timing stage) (idle : stage.Idle) :
    Sound now (timing.beginResponseFinalize now) .responding := by
  unfold RequestTiming.beginResponseFinalize
  cases started : timing.responseFinalizeStartedNs with
  | some since =>
      have responding : stage = .responding := sound.finalizing (by simp [started])
      exact responding ▸ sound
  | none =>
      have accounted : timing.startedNs + timing.spent ≤ now := sound.accounted.trans sound.reached
      refine ⟨accounted, le_rfl, fun _ => rfl, ?_, sound.tallied.frame rfl rfl,
        ⟨sound.consistent.1, sound.consistent.2⟩, fun _ => trivial⟩
      have allowed := sound.allowed
      cases idle with
      | served | responding => exact allowed
      | ingress | admitted | read =>
          have unattempted : timing.attempts = [] := allowed
          refine ⟨?_, ?_⟩ <;> simp [unattempted]

theorem finishFinalize {after : RequestTiming} (sound : Sound now timing .responding)
    (finished : timing.finishResponseFinalize now = .ok after) : Sound now after .responding := by
  obtain ⟨accounted, reached, _, allowed, tallied, consistent, unattempted⟩ := sound
  unfold RequestTiming.finishResponseFinalize at finished
  cases started : timing.responseFinalizeStartedNs with
  | none =>
      simp only [started, Except.ok.injEq] at finished
      subst finished
      exact ⟨accounted, reached, fun _ => rfl, allowed, tallied, consistent, unattempted⟩
  | some since =>
      simp only [Stage.horizon, started, Option.getD_some] at accounted reached
      simp only [started, elapsed, if_pos reached, bind, Except.bind, pure, Except.pure, Except.ok.injEq] at finished
      subst finished
      refine ⟨?_, le_rfl, fun _ => rfl, allowed, tallied.frame rfl rfl, ⟨consistent.1, consistent.2⟩,
        fun _ => trivial⟩
      simp only [RequestTiming.spent, Stage.horizon, Option.getD_none] at accounted ⊢
      omega

end Sound

/-- Every move keeps the invariant. -/
theorem Move.sound {now : Nat} {timing after : RequestTiming} {stage next : Stage}
    (move : Move now timing stage after next) (sound : Sound now timing stage) : Sound now after next := by
  obtain ⟨accounted, reached, finalizing, allowed, tallied, consistent, unattempted⟩ := id sound
  cases move with
  | enterAdmission | beginBody =>
      exact sound.pass accounted le_rfl (by simp) (by simp [Stage.Unattempted]) allowed
  | beginService =>
      refine sound.pass accounted le_rfl (by simp) (by simp [Stage.Unattempted]) ⟨?_, ?_⟩ <;>
        simp [show timing.attempts = [] from allowed]
  | recordAdmission =>
      refine ⟨?_, le_rfl, fun started => ?_, allowed, tallied.frame rfl rfl, ⟨consistent.1, consistent.2⟩, ?_⟩
      · simp only [Stage.horizon, RequestTiming.spent, RequestTiming.recordAdmissionWait] at accounted reached ⊢
        omega
      · cases finalizing started
      · exact fun projected => (unattempted projected).elim
  | recordBody =>
      refine ⟨?_, le_rfl, fun started => ?_, allowed, tallied.frame rfl rfl, ⟨consistent.1, consistent.2⟩, ?_⟩
      · simp only [Stage.horizon, RequestTiming.spent, RequestTiming.recordBodyRead] at accounted reached ⊢
        omega
      · cases finalizing started
      · exact fun projected => (unattempted projected).elim
  | endService | endProjected =>
      refine ⟨?_, le_rfl, fun started => ?_, ⟨allowed.frozen, ?_⟩, tallied.frame rfl rfl,
        ⟨consistent.1, consistent.2⟩, fun _ => trivial⟩
      · simp only [Stage.horizon, RequestTiming.spent, RequestTiming.recordServiceWall] at accounted reached ⊢
        omega
      · cases finalizing started
      · have fits := allowed.fits
        simp only [RequestTiming.recordServiceWall]
        omega
  | snapshot =>
      exact ⟨accounted, reached, finalizing, allowed, tallied.frame rfl rfl, .unprojected rfl rfl,
        fun projected => by cases projected⟩
  | project empty =>
      exact ⟨accounted, reached, fun started => (by cases finalizing started), allowed, tallied.frame rfl rfl,
        ⟨fun _ => ⟨empty, rfl, rfl, rfl, rfl⟩, fun requested => by cases requested⟩, fun _ => trivial⟩
  | requestSlot =>
      exact sound.pass accounted reached (by simp) (by simp [Stage.Unattempted]) ⟨allowed, le_rfl⟩
  | refuseSlot =>
      exact sound.pass accounted reached (by simp) (by simp [Stage.Unattempted]) (allowed.1.later allowed.2)
  | obtainSlot =>
      refine sound.pass accounted reached (by simp) (by simp [Stage.Unattempted]) ⟨allowed.1.frozen, ?_⟩
      have fits := allowed.1.fits
      have reached := allowed.2
      omega
  | releaseSlot =>
      refine sound.pass accounted reached (by simp) (by simp [Stage.Unattempted]) ⟨allowed.frozen, ?_⟩
      have fits := allowed.fits
      omega
  | beginAttempt phase =>
      have projection := sound.unprojected (by simp [Stage.Unattempted])
      exact ⟨accounted, reached, fun started => (by cases finalizing started), allowed.begun _ _,
        tallied.beginAttempt phase _ now, .unprojected projection (consistent.requested projection),
        fun projected => (by cases projection.symm.trans projected)⟩
  | endAttempt status =>
      have projection := sound.unprojected (by simp [Stage.Unattempted])
      obtain ⟨earlier, last, split, running, _⟩ := allowed.split
      refine ⟨accounted, reached, fun started => (by cases finalizing started), allowed.finished status,
        tallied.updateAttempt split ?_ ?_ ?_, .unprojected projection (consistent.requested projection),
        fun projected => (by cases projection.symm.trans projected)⟩
      · rw [running.finish_eq]
      · rw [running.finish_eq]
      · exact finish_status_mem last (tallied.statuses last (by simp [split])) status now
  | beginRequest =>
      exact sound.pass accounted reached (by simp) (by simp [Stage.Unattempted]) ⟨allowed, le_rfl⟩
  | trace =>
      exact sound.pass accounted reached (by simp) (by simp [Stage.Unattempted]) allowed
  | setTransport =>
      have projection := sound.unprojected (by simp [Stage.Unattempted])
      obtain ⟨earlier, last, split, _⟩ := allowed.1.split
      exact ⟨accounted, reached, fun started => (by cases finalizing started), allowed.1.requested allowed.2 _,
        tallied.updateAttempt split rfl rfl (tallied.statuses last (by simp [split])),
        .unprojected projection (consistent.requested projection),
        fun projected => (by cases projection.symm.trans projected)⟩
  | beginFinalize idle => exact sound.beginFinalize idle
  | finishFinalize finished => exact sound.finishFinalize finished
  | classify outcome =>
      refine ⟨?_, ?_, finalizing, ?_, tallied.frame rfl rfl, ⟨consistent.1, consistent.2⟩, unattempted⟩ <;>
        cases stage <;> assumption

theorem Lifecycle.sound {digest : Digest} {now : Nat} {timing : RequestTiming} {stage : Stage}
    (lifecycle : Lifecycle digest now timing stage) : Sound now timing stage := by
  induction lifecycle with
  | begin now =>
      refine ⟨by simp [RequestTiming.spent, Stage.horizon], le_rfl, fun started => absurd rfl started, rfl, ?_,
        .unprojected rfl rfl, fun projected => by cases projected⟩
      exact ⟨rfl, fun _ member => (by cases member), fun _ member => (by cases member), fun _ _ => rfl⟩
  | move _ monotone move ih => exact move.sound (ih.later monotone)

end HarnessProxy.Timing

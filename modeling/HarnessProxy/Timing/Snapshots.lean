import HarnessProxy.Service.Budgets
import HarnessProxy.Timing.Capture

namespace HarnessProxy.Timing

open HarnessProxy.Json HarnessProxy.Core HarnessProxy.Service HarnessProxy.Transcript

/-! # The snapshots of the service are moves of a lifecycle

A task of the service that projects has sent nothing, and the harness that it
has rebuilt has not intervened.
-/

section
variable {py : Python}

/-- What the last snapshot of a task says about a projection. -/
def Recorded (finished : Finished) : Prop :=
  (finished.recorded.localProjection = false ∧ finished.recorded.avoidedImmediateUpstreamCalls = 0) ∨
    (finished.sent = [] ∧ finished.recorded = ⟨noInterventions, true, 1⟩)

variable (py) (settings : Settings) (awaited : Awaited)

theorem watchRebuilt_recorded {prepared : Prepared} {rebuilt : Reconstruction}
    (fresh : interventions rebuilt.harness = noInterventions) :
    Recorded (watchRebuilt py settings awaited prepared rebuilt) := by
  unfold watchRebuilt
  split
  · exact .inl ⟨rfl, rfl⟩
  · refine .inr ⟨rfl, ?_⟩
    simp [snapshotTiming, fresh]
  · have settled : Watched.Settled ⟨initialState prepared rebuilt, snapshotTiming rebuilt.harness⟩ := rfl
    exact .inl ((loopContext py settings prepared rebuilt).interruptedLoop_looped settled awaited.reply
      settings.maxUpstreamCalls 0).unprojected

/-- A task of the service that projected sent nothing and recorded no intervention. -/
theorem watch_recorded (options : Options) (payload : JsonObject) :
    Recorded (watch py settings awaited options payload) := by
  unfold watch
  split
  · exact .inl ⟨rfl, rfl⟩
  · split
    · unfold watchWithHarness
      split
      · exact .inl ⟨rfl, rfl⟩
      · next rebuilt ran => exact watchRebuilt_recorded py settings awaited (rebuild_interventions ran)
    · unfold watchWithoutHarness
      left
      dsimp only
      split <;> exact ⟨rfl, rfl⟩

/-- `record_interventions` with what a snapshot holds. -/
def RequestTiming.recordSnapshot (timing : RequestTiming) (snapshot : Snapshot) : RequestTiming :=
  timing.recordInterventions snapshot.counts.corrections snapshot.counts.blockedDuplicates
    snapshot.counts.blockedStalls snapshot.localProjection snapshot.avoidedImmediateUpstreamCalls

/-- The last snapshot of a task is one of the two moves that record one. -/
theorem watch_moves (options : Options) (payload : JsonObject) (timing : RequestTiming) (now since : Nat)
    (unattempted : (watch py settings awaited options payload).sent = [] → timing.attempts = []) :
    ∃ stage, Move now timing (.serving since)
      (timing.recordSnapshot (watch py settings awaited options payload).recorded) stage := by
  rcases watch_recorded py settings awaited options payload with ⟨projection, avoided⟩ | ⟨unsent, recorded⟩
  · refine ⟨.serving since, ?_⟩
    rw [RequestTiming.recordSnapshot, projection, avoided]
    exact .snapshot _ _ _
  · refine ⟨.projected since, ?_⟩
    rw [recorded]
    exact .project (unattempted unsent)

end

end HarnessProxy.Timing

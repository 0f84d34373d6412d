import HarnessProxy.Evidence.Reconciliation

namespace HarnessProxy.Evidence

/-! # The books balance

A request sequence cuts the observed attempts into consecutive pieces.  The
loops of the reconciliation accept exactly such a cut, and all totals follow
from it.
-/

/-- What a request says about the attempts that belong to it. -/
structure Counts (request : Request) (piece : List Observer) : Prop where
  attempts : request.attempts = piece.length
  successful : request.successful = piece.countP Observer.succeeded
  acquisition : request.acquisition = observed .acquisition piece
  finalization : request.finalization = observed .finalization piece
  retries : request.retries + distinctPhases piece = request.attempts

/-- The requests take the observers in order, from attempt `next` on. -/
inductive Cut : Nat → List Observer → List Request → Prop where
  | nil (next : Nat) : Cut next [] []
  | projection {next : Nat} {observers : List Observer} {request : Request} {rest : List Request} :
      request.localProjection = true → request.validProjection = true → Cut next observers rest →
      Cut next observers (request :: rest)
  | idle {next : Nat} {observers : List Observer} {request : Request} {rest : List Request} :
      request.localProjection = false → request.avoided = 0 → request.start = none → Counts request [] →
      Cut next observers rest → Cut next observers (request :: rest)
  | attempts {next : Nat} {piece observers : List Observer} {request : Request} {rest : List Request} :
      request.localProjection = false → request.avoided = 0 → piece ≠ [] → request.start = some next →
      request.stop = some (next + piece.length - 1) → Counts request piece →
      Cut (next + piece.length) observers rest → Cut next (piece ++ observers) (request :: rest)

/-! ## The loops accept a cut -/

theorem slice_of_drop {observers piece rest : List Observer} {next : Nat} (positive : 1 ≤ next)
    (dropped : observers.drop (next - 1) = piece ++ rest) (nonempty : piece ≠ []) :
    slice observers next (next + piece.length - 1) = piece ∧
      observers.drop (next + piece.length - 1) = rest := by
  have some := List.length_pos_iff.mpr nonempty
  have taken : next + piece.length - 1 - (next - 1) = piece.length := by omega
  have position : next + piece.length - 1 = next - 1 + piece.length := by omega
  constructor
  · rw [slice, dropped, taken, List.take_left]
  · rw [position, ← List.drop_drop, dropped, List.drop_left]

theorem drop_of_slice {observers : List Observer} {next stop : Nat} (ordered : next ≤ stop) (positive : 1 ≤ next)
    (length : (slice observers next stop).length = stop - next + 1) :
    observers.drop (next - 1) = slice observers next stop ++ observers.drop stop ∧ stop ≤ observers.length := by
  have position : next - 1 + (stop - (next - 1)) = stop := by omega
  constructor
  · rw [slice]
    conv_lhs => rw [← List.take_append_drop (stop - (next - 1)) (observers.drop (next - 1)), List.drop_drop, position]
  · rw [slice, List.length_take, List.length_drop] at length
    omega

theorem counts_nil_iff {request : Request} : Counts request [] ↔ request.attempts = 0 ∧ request.successful = 0 ∧
    request.acquisition = 0 ∧ request.finalization = 0 ∧ request.retries = 0 := by
  have none : distinctPhases [] = 0 := rfl
  constructor
  · intro counts
    have retries := counts.retries
    have attempts := counts.attempts
    rw [none] at retries
    exact ⟨attempts, counts.successful, counts.acquisition, counts.finalization, by simp at attempts; omega⟩
  · rintro ⟨attempts, successful, acquisition, finalization, retries⟩
    exact ⟨attempts, successful, acquisition, finalization, by rw [none, attempts, retries]⟩

theorem Request.validProjection_iff {request : Request} : request.validProjection = true ↔
    request.outcome = .succeeded ∧ request.start = none ∧ request.corrections = 0 ∧ request.blockedDuplicates = 0 ∧
      request.blockedStalls = 0 ∧ request.avoided = 1 ∧ Counts request [] := by
  have bounds := request.bounds
  simp only [validProjection, Bool.and_eq_true, decide_eq_true_eq, Option.isNone_iff_eq_none, counts_nil_iff]
  constructor
  · rintro ⟨⟨⟨⟨⟨⟨⟨⟨⟨⟨⟨outcome, start⟩, _⟩, attempts⟩, successful⟩, retries⟩, corrections⟩, duplicates⟩, stalls⟩,
      avoided⟩, acquisition⟩, finalization⟩
    exact ⟨outcome, start, corrections, duplicates, stalls, avoided, attempts, successful, acquisition, finalization,
      retries⟩
  · rintro ⟨outcome, start, corrections, duplicates, stalls, avoided, attempts, successful, acquisition, finalization,
      retries⟩
    have stop : request.stop = none := by
      rw [start] at bounds
      exact Option.isNone_iff_eq_none.mp (by simpa using bounds)
    exact ⟨⟨⟨⟨⟨⟨⟨⟨⟨⟨⟨outcome, start⟩, stop⟩, attempts⟩, successful⟩, retries⟩, corrections⟩, duplicates⟩, stalls⟩,
      avoided⟩, acquisition⟩, finalization⟩

theorem observed_total (piece : List Observer) :
    observed .acquisition piece + observed .finalization piece + observed .terminal piece = piece.length := by
  induction piece with
  | nil => rfl
  | cons observer rest ih =>
      cases phase : observer.phase <;> simp only [observed, List.countP_cons, phase, List.length_cons] at ih ⊢ <;>
        simp only [decide_true, decide_false, if_true, Bool.false_eq_true, if_false, reduceCtorEq] <;> omega

theorem distinctPhases_le (piece : List Observer) : distinctPhases piece ≤ piece.length := by
  have total := observed_total piece
  simp only [distinctPhases, phases, List.countP_cons, List.countP_nil, decide_eq_true_eq]
  split_ifs <;> omega

/-- The phase check of one request whose attempts are known. -/
theorem Request.phasesMatch_of_selected {request : Request} {observers piece : List Observer}
    (selected : request.selected observers = some piece) (attempts : request.attempts = piece.length) :
    request.phasesMatch observers = true ↔ request.acquisition = observed .acquisition piece ∧
      request.finalization = observed .finalization piece ∧
      request.retries + distinctPhases piece = request.attempts := by
  have fewer := distinctPhases_le piece
  simp only [phasesMatch, selected, Bool.and_eq_true, decide_eq_true_eq, and_assoc]
  refine and_congr_right fun _ => and_congr_right fun _ => ?_
  omega

theorem selected_idle {request : Request} (observers : List Observer)
    (idle : request.localProjection = true ∨ request.attempts = 0) : request.selected observers = some [] := if_pos idle

theorem selected_attempts {request : Request} (observers : List Observer) {start stop : Nat}
    (called : request.localProjection = false) (attempts : request.attempts ≠ 0) (first : request.start = some start)
    (last : request.stop = some stop) (positive : 0 < start) (ordered : start ≤ stop) :
    request.selected observers = some (slice observers start stop) := by
  have busy : ¬ (request.localProjection = true ∨ request.attempts = 0) := by simp [called, attempts]
  rw [Request.selected, if_neg busy, first, last]
  exact if_pos ⟨positive, ordered⟩

/-- The loops accept every cut. -/
theorem Cut.accepted {next : Nat} {remaining : List Observer} {requests : List Request}
    (cut : Cut next remaining requests) {observers : List Observer} (positive : 1 ≤ next)
    (bound : next ≤ observers.length + 1) (dropped : observers.drop (next - 1) = remaining) :
    partitionMatches observers next requests = true ∧ ∀ request ∈ requests, request.phasesMatch observers = true := by
  induction cut with
  | nil =>
      have length := congrArg List.length dropped
      rw [List.length_drop, List.length_nil] at length
      exact ⟨decide_eq_true (by omega), by simp⟩
  | projection projected valid _ ih =>
      obtain ⟨partition, phases⟩ := ih positive bound dropped
      obtain ⟨_, _, _, _, _, _, counts⟩ := Request.validProjection_iff.mp valid
      have matched := (Request.phasesMatch_of_selected (selected_idle observers (.inl projected)) counts.attempts).mpr
        ⟨counts.acquisition, counts.finalization, counts.retries⟩
      refine ⟨?_, List.forall_mem_cons.mpr ⟨matched, phases⟩⟩
      rw [partitionMatches, if_pos projected, valid, partition]
      rfl
  | idle called free unbound counts _ ih =>
      next request _ _ =>
      obtain ⟨partition, phases⟩ := ih positive bound dropped
      obtain ⟨attempts, successful, acquisition, finalization, _⟩ := counts_nil_iff.mp counts
      have matched := (Request.phasesMatch_of_selected (selected_idle observers (.inr attempts)) counts.attempts).mpr
        ⟨counts.acquisition, counts.finalization, counts.retries⟩
      have stop : request.stop = none := by
        have bounds := request.bounds
        rw [unbound] at bounds
        exact Option.isNone_iff_eq_none.mp (by simpa using bounds)
      refine ⟨?_, List.forall_mem_cons.mpr ⟨matched, phases⟩⟩
      simp [partitionMatches, called, free, attempts, unbound, stop, successful, acquisition, finalization, partition]
  | attempts called free nonempty first last counts _ ih =>
      next next piece _ request _ _ =>
      obtain ⟨selected, rest⟩ := slice_of_drop positive dropped nonempty
      have some := List.length_pos_iff.mpr nonempty
      have busy : request.attempts ≠ 0 := by
        rw [counts.attempts]
        omega
      have length := congrArg List.length dropped
      rw [List.length_drop, List.length_append] at length
      have position : next + piece.length - 1 + 1 = next + piece.length := by omega
      obtain ⟨partition, phases⟩ := ih (by omega) (by omega) rest
      have chosen := selected_attempts observers called busy first last positive (by omega)
      rw [selected] at chosen
      have matched := (Request.phasesMatch_of_selected chosen counts.attempts).mpr
        ⟨counts.acquisition, counts.finalization, counts.retries⟩
      refine ⟨?_, List.forall_mem_cons.mpr ⟨matched, phases⟩⟩
      rw [partitionMatches, if_neg (by simp [called]), if_neg (by simp [free]), if_neg busy, first, last]
      dsimp only
      rw [selected, position, partition, counts.attempts, counts.successful]
      simp only [decide_true, Bool.true_and, Bool.and_true, Bool.and_eq_true, decide_eq_true_eq]
      omega

/-- What the loops accept is a cut. -/
theorem Cut.of_accepted {observers : List Observer} {requests : List Request} {next : Nat} (positive : 1 ≤ next)
    (bound : next ≤ observers.length + 1) (partition : partitionMatches observers next requests = true)
    (phases : ∀ request ∈ requests, request.phasesMatch observers = true) :
    Cut next (observers.drop (next - 1)) requests := by
  induction requests generalizing next with
  | nil =>
      have last := of_decide_eq_true partition
      rw [last, Nat.add_sub_cancel, List.drop_length]
      exact .nil _
  | cons request rest ih =>
      obtain ⟨matched, others⟩ := List.forall_mem_cons.mp phases
      rw [partitionMatches] at partition
      split at partition
      · next projected =>
        obtain ⟨valid, partition⟩ := Bool.and_eq_true_iff.mp partition
        exact .projection projected valid (ih positive bound partition others)
      · next called =>
        rw [Bool.not_eq_true] at called
        split at partition
        · cases partition
        · next free =>
          rw [ne_eq, not_not] at free
          split at partition
          · next idle =>
            simp only [Bool.and_eq_true, decide_eq_true_eq, Option.isNone_iff_eq_none] at partition
            obtain ⟨⟨⟨⟨⟨unbound, _⟩, successful⟩, acquisition⟩, finalization⟩, partition⟩ := partition
            obtain ⟨_, _, retries⟩ := (Request.phasesMatch_of_selected (selected_idle observers (.inr idle)) idle).mp matched
            have unretried : request.retries = 0 := by omega
            exact .idle called free unbound
              (counts_nil_iff.mpr ⟨idle, successful, acquisition, finalization, unretried⟩)
              (ih positive bound partition others)
          · next busy =>
            split at partition
            · next start stop first last =>
              simp only [Bool.and_eq_true, decide_eq_true_eq] at partition
              obtain ⟨⟨⟨⟨⟨same, ordered⟩, length⟩, attempts⟩, successful⟩, partition⟩ := partition
              subst same
              obtain ⟨dropped, inside⟩ := drop_of_slice ordered positive length
              have chosen := selected_attempts observers called busy first last positive ordered
              obtain ⟨acquisition, finalization, retries⟩ := (Request.phasesMatch_of_selected chosen attempts).mp matched
              have nonempty : slice observers start stop ≠ [] := by
                intro empty
                rw [empty] at length
                simp at length
              have tail := ih (by omega) (by omega) partition others
              have position : stop + 1 = start + (slice observers start stop).length := by omega
              rw [Nat.add_sub_cancel, position] at tail
              have final : stop = start + (slice observers start stop).length - 1 := by omega
              rw [dropped]
              exact .attempts called free nonempty first (final ▸ last)
                ⟨attempts, successful, acquisition, finalization, retries⟩ tail
            · cases partition

/-! ## Totals of a cut -/

/-- The numbers of the attempts of a request. -/
def Request.interval (request : Request) : List Nat :=
  match request.start, request.stop with
  | some start, some stop => List.range' start (stop + 1 - start)
  | _, _ => []

theorem Cut.pieces {next : Nat} {observers : List Observer} {requests : List Request}
    (cut : Cut next observers requests) :
    ∃ pieces, List.Forall₂ Counts requests pieces ∧ pieces.flatten = observers := by
  induction cut with
  | nil => exact ⟨[], .nil, rfl⟩
  | projection _ valid _ ih =>
      obtain ⟨pieces, counted, rfl⟩ := ih
      obtain ⟨_, _, _, _, _, _, counts⟩ := Request.validProjection_iff.mp valid
      exact ⟨[] :: pieces, .cons counts counted, rfl⟩
  | idle _ _ _ counts _ ih =>
      obtain ⟨pieces, counted, rfl⟩ := ih
      exact ⟨[] :: pieces, .cons counts counted, rfl⟩
  | attempts _ _ _ _ _ counts _ ih =>
      obtain ⟨pieces, counted, rfl⟩ := ih
      exact ⟨_ :: pieces, .cons counts counted, rfl⟩

theorem Cut.intervals {next : Nat} {observers : List Observer} {requests : List Request}
    (cut : Cut next observers requests) :
    (requests.filter fun request => !request.localProjection).flatMap Request.interval =
      List.range' next observers.length := by
  induction cut with
  | nil => rfl
  | projection projected _ _ ih => rw [List.filter_cons_of_neg (by simp [projected]), ih]
  | idle called _ unbound _ _ ih =>
      rw [List.filter_cons_of_pos (by simp [called]), List.flatMap_cons, ih, Request.interval, unbound]
      rfl
  | @attempts next piece _ _ _ called _ nonempty first last _ _ ih =>
      have some := List.length_pos_iff.mpr nonempty
      have count : next + piece.length - 1 + 1 - next = piece.length := by omega
      rw [List.filter_cons_of_pos (by simp [called]), List.flatMap_cons, ih, Request.interval, first, last,
        List.length_append]
      dsimp only
      rw [count, List.range'_append_1]

theorem Cut.avoided {next : Nat} {observers : List Observer} {requests : List Request}
    (cut : Cut next observers requests) :
    total Request.avoided requests = requests.countP Request.localProjection := by
  induction cut with
  | nil => rfl
  | projection projected valid _ ih =>
      obtain ⟨_, _, _, _, _, avoided, _⟩ := Request.validProjection_iff.mp valid
      simp only [total, List.map_cons, List.sum_cons, List.countP_cons_of_pos projected, avoided] at ih ⊢
      omega
  | idle called free _ _ _ ih | attempts called free _ _ _ _ _ ih =>
      rw [List.countP_cons_of_neg (by simp [called])]
      simp only [total, List.map_cons, List.sum_cons, free, Nat.zero_add] at ih ⊢
      exact ih

theorem total_counts {requests : List Request} {pieces : List (List Observer)}
    (counted : List.Forall₂ Counts requests pieces) :
    total Request.attempts requests = pieces.flatten.length ∧
      total Request.successful requests = pieces.flatten.countP Observer.succeeded ∧
      total Request.acquisition requests = observed .acquisition pieces.flatten ∧
      total Request.finalization requests = observed .finalization pieces.flatten := by
  induction counted with
  | nil => exact ⟨rfl, rfl, rfl, rfl⟩
  | cons counts _ ih =>
      obtain ⟨attempts, successful, acquisition, finalization⟩ := ih
      simp only [total, observed, List.map_cons, List.sum_cons, List.flatten_cons, List.length_append,
        List.countP_append] at attempts successful acquisition finalization ⊢
      rw [attempts, successful, acquisition, finalization, counts.attempts, counts.successful, counts.acquisition,
        counts.finalization]
      exact ⟨rfl, rfl, rfl, rfl⟩

theorem sequencesMatch_iff {expected : Nat} {requests : List Request} :
    sequencesMatch expected requests = true ↔ requests.map Request.sequence = List.range' expected requests.length := by
  induction requests generalizing expected with
  | nil => simp [sequencesMatch]
  | cons request rest ih => simp [sequencesMatch, ih, List.range'_succ]

/-! ## The books balance -/

/-- Everything that a passed reconciliation stands for. -/
structure Balanced (input : Input) (deltas : MetricsSnapshot) : Prop where
  sequences : input.requests.map Request.sequence = List.range' 1 input.requests.length
  intervals : (input.requests.filter fun request => !request.localProjection).flatMap Request.interval =
    List.range' 1 input.observers.length
  pieces : ∃ pieces, List.Forall₂ Counts input.requests pieces ∧ pieces.flatten = input.observers
  attempts : total Request.attempts input.requests = input.observers.length
  upstream : deltas.upstreamCalls = input.observers.length
  successful : total Request.successful input.requests = input.observers.countP Observer.succeeded
  acquisition : (total Request.acquisition input.requests : Int) = deltas.phaseAcquisition
  finalization : (total Request.finalization input.requests : Int) = deltas.phaseFinalization
  avoided : total Request.avoided input.requests = input.requests.countP Request.localProjection
  projections : deltas.receiptProjections = input.requests.countP Request.localProjection

/-- Counters that are the sums over the requests. -/
structure SumsOf (requests : List Request) (deltas : MetricsSnapshot) : Prop where
  downstream : deltas.downstreamRequests = requests.length
  upstream : deltas.upstreamCalls = total Request.attempts requests
  acquisition : deltas.phaseAcquisition = total Request.acquisition requests
  finalization : deltas.phaseFinalization = total Request.finalization requests
  projections : deltas.receiptProjections = total Request.avoided requests
  avoided : deltas.localProjectionUpstreamCallsAvoided = total Request.avoided requests

theorem validObserver_record {record : ModelBoundaryRecord} {expected : Nat} {observer : Observer}
    (valid : validObserver record expected = .ok (some observer)) : observer.record = record := by
  unfold validObserver at valid
  split at valid
  · simp only [bind_eq_ok, pure, Except.pure, Except.ok.injEq] at valid
    obtain ⟨phase, _, valid⟩ := valid
    obtain ⟨_, _, rfl⟩ := Option.map_eq_some_iff.mp valid
    rfl
  · cases valid

theorem validObservers_records {records : List ModelBoundaryRecord} {expected : Nat} {observers : List Observer}
    (valid : validObservers expected records = .ok (some observers)) : observers.map Observer.record = records := by
  induction records generalizing expected observers with
  | nil =>
      cases valid
      rfl
  | cons record rest ih =>
      simp only [validObservers, bind_eq_ok] at valid
      obtain ⟨first, checked, valid⟩ := valid
      cases first with
      | none => cases valid
      | some observer =>
          simp only [bind_eq_ok, pure, Except.pure, Except.ok.injEq] at valid
          obtain ⟨others, tail, valid⟩ := valid
          obtain ⟨others, rfl, rfl⟩ := Option.map_eq_some_iff.mp valid
          rw [List.map_cons, validObserver_record checked, ih tail]

theorem readInput_eq_ok {observerRecords : List ModelBoundaryRecord} {requestRecords : List RequestAccountingRecord}
    {summary : ModelOperationSummary} {input : Input}
    (read : readInput observerRecords requestRecords summary = .ok (.ok input)) :
    input.observers.map Observer.record = observerRecords ∧
      requestRecords.mapM validRequestScalars = some input.requests := by
  unfold readInput at read
  split at read
  · simp only [bind_eq_ok] at read
    obtain ⟨observers, valid, read⟩ := read
    cases observers with
    | none => cases read
    | some observers =>
        cases requests : requestRecords.mapM validRequestScalars with
        | none =>
            rw [requests] at read
            cases read
        | some requests' =>
            rw [requests] at read
            cases read
            exact ⟨validObservers_records valid, rfl⟩
  · cases read

theorem balanced_of_checks {input : Input} {lane : CacheLane} {deltas : MetricsSnapshot}
    (passed : (checks lane deltas (derive input) input).all = true) : Balanced input deltas := by
  simp only [Checks.all, checks, derive, Bool.and_eq_true, decide_eq_true_eq, List.all_eq_true] at passed
  obtain ⟨⟨⟨⟨⟨⟨⟨⟨_, sequences⟩, partition⟩, ⟨phases, acquisition⟩, finalization⟩, _⟩, upstream⟩, _⟩, projections⟩, _⟩ :=
    passed.1
  have cut : Cut 1 input.observers input.requests := Cut.of_accepted (Nat.le_refl 1) (by omega) partition phases
  obtain ⟨pieces, counted, whole⟩ := cut.pieces
  obtain ⟨attempts, successful, acquisitions, finalizations⟩ := total_counts counted
  rw [whole] at attempts successful acquisitions finalizations
  exact {
    sequences := sequencesMatch_iff.mp sequences
    intervals := cut.intervals
    pieces := ⟨pieces, counted, whole⟩
    attempts := attempts
    upstream := of_decide_eq_true upstream
    successful := successful
    acquisition := by rw [acquisitions, of_decide_eq_true acquisition]
    finalization := by rw [finalizations, of_decide_eq_true finalization]
    avoided := cut.avoided
    projections := projections.1.trans (of_decide_eq_true projections.2) }

theorem checks_of_cut {input : Input} {deltas : MetricsSnapshot} (lane : CacheLane)
    (sequences : input.requests.map Request.sequence = List.range' 1 input.requests.length)
    (cut : Cut 1 input.observers input.requests) (sums : SumsOf input.requests deltas) :
    let checks := checks lane deltas (derive input) input
    checks.requestSequences = true ∧ checks.attemptPartition = true ∧ checks.phaseCounts = true ∧
      checks.downstream = true ∧ checks.upstream = true ∧ checks.projections = true := by
  obtain ⟨partition, phases⟩ := cut.accepted (Nat.le_refl 1) (by omega) rfl
  obtain ⟨pieces, counted, whole⟩ := cut.pieces
  obtain ⟨attempts, _, acquisitions, finalizations⟩ := total_counts counted
  rw [whole] at attempts acquisitions finalizations
  have projected := cut.avoided
  simp only [checks, derive, Bool.and_eq_true, decide_eq_true_eq, List.all_eq_true, sums.acquisition,
    sums.finalization, sums.downstream, sums.upstream, sums.projections, sums.avoided, attempts, acquisitions,
    finalizations, projected]
  exact ⟨sequencesMatch_iff.mpr sequences, partition, ⟨⟨phases, trivial⟩, trivial⟩, trivial, trivial, trivial, trivial⟩

/-- A reconciliation that passes has balanced books, and the records of a window
that was cut into requests pass. -/
theorem reconciliation_balances {observerRecords : List ModelBoundaryRecord}
    {requestRecords : List RequestAccountingRecord} {summary : ModelOperationSummary} {input : Input}
    (read : readInput observerRecords requestRecords summary = .ok (.ok input)) (lane : CacheLane)
    (deltas : MetricsSnapshot) :
    input.observers.map Observer.record = observerRecords ∧
      requestRecords.mapM validRequestScalars = some input.requests ∧
      ((checks lane deltas (derive input) input).all = true → Balanced input deltas) ∧
      (input.requests.map Request.sequence = List.range' 1 input.requests.length →
        Cut 1 input.observers input.requests → SumsOf input.requests deltas →
        let checks := checks lane deltas (derive input) input
        checks.requestSequences = true ∧ checks.attemptPartition = true ∧ checks.phaseCounts = true ∧
          checks.downstream = true ∧ checks.upstream = true ∧ checks.projections = true) :=
  ⟨(readInput_eq_ok read).1, (readInput_eq_ok read).2, balanced_of_checks, checks_of_cut lane⟩

/-! ## A window with a retry and a projection -/

def windowDigest : Text := List.replicate 64 (codePoint 'a')

def windowAttempt (sequence : Int) (status : Option Int) : ModelBoundaryRecord where
  sequence := sequence
  digest := windowDigest
  fields := [("compatibility", .obj [("phase", .str "acquisition")])]
  statusCode := status

def windowRequest (sequence : Int) (projection : Bool) (start stop : Json.Value) (attempts successful retries avoided : Int) :
    RequestAccountingRecord where
  sequence := .int sequence
  outcome := .str "succeeded"
  localProjection := .bool projection
  attemptSequenceStart := start
  attemptSequenceEnd := stop
  attemptCount := .int attempts
  successfulAttemptCount := .int successful
  phaseCounts := .obj [("acquisition", .int attempts), ("finalization", .int 0)]
  retryAttemptCount := .int retries
  blockedDuplicateCount := .int 0
  blockedStallCount := .int 0
  correctionCount := .int 0
  avoidedImmediateUpstreamCalls := .int avoided

def windowObservers : List ModelBoundaryRecord := [windowAttempt 1 (some 500), windowAttempt 2 (some 200)]

def windowRequests : List RequestAccountingRecord :=
  [windowRequest 1 false (.int 1) (.int 2) 2 1 1 0, windowRequest 2 true .null .null 0 0 0 1]

def windowDeltas : MetricsSnapshot where
  downstreamRequests := 2
  upstreamCalls := 2
  blockedDuplicates := 0
  blockedStalls := 0
  correctionTurns := 0
  receiptProjections := 1
  localProjectionUpstreamCallsAvoided := 1
  errors := 0
  deadlineExpiries := 0
  cancellations := 0
  phaseAcquisition := 2
  phaseFinalization := 0
  phaseSchemaRejections := 0
  admissionRejections := 0
  rateRejections := 0

theorem reconciliation_balances_window :
    ∃ input, readInput windowObservers windowRequests ⟨1, 0⟩ = .ok (.ok input) ∧ Balanced input windowDeltas := by
  have passes : (((readInput windowObservers windowRequests ⟨1, 0⟩).toOption.bind Except.toOption).map fun input =>
      (checks .cold windowDeltas (derive input) input).all) = some true := by decide
  cases read : readInput windowObservers windowRequests ⟨1, 0⟩ with
  | error error =>
      rw [read] at passes
      cases passes
  | ok result =>
      cases result with
      | error category =>
          rw [read] at passes
          cases passes
      | ok input =>
          rw [read] at passes
          have passed := Option.some.inj passes
          exact ⟨input, rfl, (reconciliation_balances read .cold windowDeltas).2.2.1 passed⟩

end HarnessProxy.Evidence

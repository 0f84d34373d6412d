import HarnessProxy.Data.Takings
import HarnessProxy.Evidence.ObserverLedger
import HarnessProxy.Evidence.RunExpansion
import Mathlib.Logic.Relation

namespace HarnessProxy.Evidence

open HarnessProxy.Json Data
open HarnessProxy.Timing (isSha256)

/-! # The cursor over the ledger of the observer

Every turn of the proxy takes its records off a ledger that the observer keeps
appending to.
-/

def ObservedRecord.fingerprint (record : ObservedRecord) : SafeFingerprint :=
  ⟨modelFacingObserved, record.digest, record.fields⟩

def benchmarkRevision : Text := "335e6694e4aec13e9370af8a993d8c8f14d7ffb5"

/-- `_model_boundary_context` -/
def modelBoundaryContext (py : Python) (scenarioOrder : List Text) : Except PyError Object := do
  return [
    ("benchmark_revision", .str benchmarkRevision),
    ("scenario_order", .obj [
      ("sha256", .str (← sha256Of py (.arr (scenarioOrder.map .str)))),
      ("count", .int scenarioOrder.length)])]

/-- `{**fields, **context}` -/
def unpack (fields context : Object) : Object :=
  context.foldl (fun merged field => Object.assign merged field.1 field.2) fields

def bindFingerprint (py : Python) (context : Object) (fingerprint : SafeFingerprint) : Except PyError SafeFingerprint := do
  return ⟨fingerprint.boundary, ← sha256Of py (.obj (unpack fingerprint.fields context)), unpack fingerprint.fields context⟩

/-- `bind_model_boundary_context` -/
def bindModelBoundaryContext (py : Python) (fingerprints : List SafeFingerprint) (scenarioOrder : List Text) :
    Except PyError (List SafeFingerprint) := do
  let context ← modelBoundaryContext py scenarioOrder
  fingerprints.mapM (bindFingerprint py context)

/-- `read_model_boundary_observer_records(path, allow_missing=True)`; a missing
file is `none`. -/
def readObserverLedger (py : Python) (floatEqual : Value → Value → Bool) : Option Bytes → Except BoundaryError (List ObservedRecord)
  | none => .ok []
  | some serialized => readModelBoundaryObserverRecords py floatEqual serialized

/-- `ModelBoundaryObserverCursor` -/
structure ObserverCursor where
  cursor : Nat := 0
  consumedSequences : Finset Int := ∅
  activeCorrelation : Option Text := none
  turns : List (List SafeFingerprint) := []
  recordTurns : List (List ObservedRecord) := []

namespace ObserverCursor

/-- `__post_init__` -/
def create (ledger : Option Bytes) : Except BoundaryError ObserverCursor := do
  raiseIf (ledger.any (· ≠ [])) (.preflight "proxy model-boundary observer ledger is not fresh")
  return {}

def correlationInvalid : BoundaryError := .preflight "proxy model-boundary observer correlation is invalid"

def isCorrelation (correlation : Text) : Bool := isSha256 (some (.str correlation))

section
variable (py : Python) (floatEqual : Value → Value → Bool) (scenarioOrder : List Text) (ledger : Option Bytes)

/-- `begin_turn` -/
def beginTurn (correlation : Option Text) (cursor : ObserverCursor) : Except BoundaryError ObserverCursor := do
  let observed ← readObserverLedger py floatEqual ledger
  match correlation with
  | some correlation =>
    raiseIf (!isCorrelation correlation || cursor.activeCorrelation.isSome) correlationInvalid
    return { cursor with activeCorrelation := some correlation }
  | none =>
    raiseIf (observed.length ≠ cursor.cursor) (.preflight "proxy model-boundary observer ledger has stale or missing records")
    return cursor

/-- `correlation_id_sha256 or self._active_correlation_id_sha256` -/
def expectedCorrelation (named active : Option Text) : Option Text :=
  match named with
  | some (c :: rest) => some (c :: rest)
  | _ => active

/-- The records of a turn. -/
def selected (expected : Option Text) (observed : List ObservedRecord) (cursor : ObserverCursor) : List ObservedRecord :=
  match expected with
  | none => observed.drop cursor.cursor
  | some correlation => observed.filter fun record =>
      record.sequence ∉ cursor.consumedSequences ∧ record.correlationIdSha256 = some correlation

/-- `consume_turn` before it binds the fingerprints. -/
def take (requireRecords : Bool) (correlation : Option Text) (cursor : ObserverCursor) :
    Except BoundaryError (List ObservedRecord × ObserverCursor) := do
  let observed ← readObserverLedger py floatEqual ledger
  raiseIf (observed.length < cursor.cursor) (.preflight "proxy model-boundary observer ledger was truncated")
  let expected := expectedCorrelation correlation cursor.activeCorrelation
  raiseIf (correlation.any fun correlation => !isCorrelation correlation) correlationInvalid
  let records := cursor.selected expected observed
  raiseIf (requireRecords && records.isEmpty) (.preflight "proxy model-boundary observer record count differed")
  return (records, { cursor with
    consumedSequences := cursor.consumedSequences ∪ (records.map (·.sequence)).toFinset
    cursor := if expected.isNone then observed.length else cursor.cursor
    activeCorrelation := none
    recordTurns := cursor.recordTurns ++ [records] })

/-- `consume_turn`.  The records stay taken if binding them raises. -/
def consumeTurn (requireRecords : Bool) (correlation : Option Text) (cursor : ObserverCursor) :
    Except BoundaryError (List SafeFingerprint) × ObserverCursor :=
  match cursor.take py floatEqual ledger requireRecords correlation with
  | .error error => (.error error, cursor)
  | .ok (records, after) =>
    match bindModelBoundaryContext py (records.map ObservedRecord.fingerprint) scenarioOrder with
    | .error error => (.error (.python error), after)
    | .ok bound => (.ok bound, { after with turns := after.turns ++ [bound] })

/-- `require_drained` -/
def requireDrained (cursor : ObserverCursor) : Except BoundaryError Unit := do
  let observed ← readObserverLedger py floatEqual ledger
  raiseIf (cursor.activeCorrelation.isSome || observed.any fun record => record.sequence ∉ cursor.consumedSequences)
    (.preflight "proxy model-boundary observer ledger has unconsumed records")

end

end ObserverCursor

/-! ## Runs -/

/-- A turn that took its records. -/
structure Turn where
  /-- The correlation that was active. -/
  begun : Option Text
  /-- The correlation given to `consume_turn`. -/
  named : Option Text
  records : List ObservedRecord
  result : Except BoundaryError (List SafeFingerprint)

def Turn.correlation (turn : Turn) : Option Text := ObserverCursor.expectedCorrelation turn.named turn.begun

/-- A cursor, its ledger and the turns so far.  `opened` says that a turn was begun
since the last one took its records. -/
structure Session where
  ledger : Option Bytes
  cursor : ObserverCursor
  opened : Bool
  turns : List Turn

section
variable (py : Python) (floatEqual : Value → Value → Bool) (scenarioOrder : List Text)

/-- The ledger grows at any time; a turn takes records only after it was begun.  An
operation that raises before it takes records changes nothing. -/
inductive Session.Step : Session → Session → Prop
  | grow {session : Session} {ledger : Option Bytes} {records new : List ObservedRecord} :
      readObserverLedger py floatEqual session.ledger = .ok records →
      readObserverLedger py floatEqual ledger = .ok (records ++ new) → Step session { session with ledger }
  | beginTurn {session : Session} {correlation : Option Text} {cursor : ObserverCursor} :
      session.cursor.beginTurn py floatEqual session.ledger correlation = .ok cursor →
      Step session { session with cursor, opened := true }
  | consumeTurn {session : Session} {requireRecords : Bool} {correlation : Option Text} {records : List ObservedRecord}
      {taken cursor : ObserverCursor} {result : Except BoundaryError (List SafeFingerprint)} :
      session.opened = true →
      session.cursor.take py floatEqual session.ledger requireRecords correlation = .ok (records, taken) →
      session.cursor.consumeTurn py floatEqual scenarioOrder session.ledger requireRecords correlation = (result, cursor) →
      Step session { session with
        cursor
        opened := false
        turns := session.turns ++ [⟨session.cursor.activeCorrelation, correlation, records, result⟩] }
  | refused {session : Session} {requireRecords : Bool} {correlation : Option Text} {error : BoundaryError} :
      session.opened = true →
      session.cursor.take py floatEqual session.ledger requireRecords correlation = .error error → Step session session

/-- A session that starts with a cursor on the ledger. -/
def Session.Reached (session : Session) : Prop :=
  ∃ ledger cursor, ObserverCursor.create ledger = .ok cursor ∧
    Relation.ReflTransGen (Step py floatEqual scenarioOrder) ⟨ledger, cursor, false, []⟩ session

end

section
variable {py : Python} {floatEqual : Value → Value → Bool} {scenarioOrder : List Text}

/-- The records of a ledger are numbered from one. -/
theorem readRowsFrom_sequences {sequence : Nat} {rows : List Value} {records : List ObservedRecord}
    (read : readRowsFrom py floatEqual sequence rows = .ok records) :
    records.map (·.sequence) = (List.range' sequence records.length).map Int.ofNat := by
  induction rows generalizing sequence records with
  | nil =>
      cases read
      rfl
  | cons row rest ih =>
      simp only [readRowsFrom, bind_eq_ok, pure, Except.pure, Except.ok.injEq] at read
      obtain ⟨record, one, others, remaining, rfl⟩ := read
      rw [List.map_cons, List.length_cons, List.range'_succ, List.map_cons, ih remaining]
      exact congrArg (· :: _) (readRow_checked one).numbered

theorem readObserverLedger_sequences {ledger : Option Bytes} {records : List ObservedRecord}
    (read : readObserverLedger py floatEqual ledger = .ok records) :
    records.map (·.sequence) = (List.range' 1 records.length).map Int.ofNat := by
  cases ledger with
  | none =>
      cases read
      rfl
  | some serialized =>
      rw [readObserverLedger, readModelBoundaryObserverRecords] at read
      split at read
      · cases read
      · exact readRowsFrom_sequences read

theorem readObserverLedger_checked {ledger : Option Bytes} {records : List ObservedRecord}
    (read : readObserverLedger py floatEqual ledger = .ok records) :
    ∀ record ∈ records, sha256Of py (.obj record.fields) = .ok record.digest := by
  cases ledger with
  | none =>
      cases read
      exact List.forall_mem_nil _
  | some serialized =>
      rw [readObserverLedger, readModelBoundaryObserverRecords] at read
      split at read
      · cases read
      · intro record member
        obtain ⟨number, checked⟩ := readRowsFrom_checked read record member
        exact checked.digested

theorem sequences_nodup {ledger : Option Bytes} {records : List ObservedRecord}
    (read : readObserverLedger py floatEqual ledger = .ok records) : (records.map (·.sequence)).Nodup := by
  rw [readObserverLedger_sequences read]
  exact (List.nodup_range' ..).map fun _ _ same => Int.ofNat.inj same

theorem sequence_bounds {ledger : Option Bytes} {records : List ObservedRecord} (count : Nat)
    (read : readObserverLedger py floatEqual ledger = .ok records) :
    ∀ record ∈ records.drop count, (count : Int) < record.sequence ∧ record.sequence ≤ records.length := by
  intro record member
  have listed : record.sequence ∈ (records.drop count).map (·.sequence) := List.mem_map_of_mem member
  rw [List.map_drop, readObserverLedger_sequences read, ← List.map_drop, List.drop_range'] at listed
  obtain ⟨number, inside, same⟩ := List.mem_map.mp listed
  obtain ⟨index, below, rfl⟩ := List.mem_range'.mp inside
  rw [← same]
  constructor <;> simp only [Int.ofNat_eq_natCast] <;> omega

/-! ## Binding -/

theorem mem_assign {fields : Object} {key : Text} {value : Value} {field : Text × Value}
    (member : field ∈ fields.assign key value) : field ∈ fields ∨ field = (key, value) := by
  induction fields with
  | nil => exact .inr (List.mem_singleton.mp member)
  | cons first rest ih =>
      obtain ⟨name, old⟩ := first
      rw [Object.assign] at member
      split at member
      · rcases List.mem_cons.mp member with same | inside
        · exact .inr same
        · exact .inl (.tail _ inside)
      · rcases List.mem_cons.mp member with same | inside
        · exact .inl (same ▸ .head _)
        · rcases ih inside with before | now
          · exact .inl (.tail _ before)
          · exact .inr now

theorem mem_unpack {fields context : Object} {field : Text × Value} (member : field ∈ unpack fields context) :
    field ∈ fields ∨ field ∈ context := by
  unfold unpack at member
  induction context generalizing fields with
  | nil => exact .inl member
  | cons first rest ih =>
      rcases ih member with before | after
      · rcases mem_assign before with kept | added
        · exact .inl kept
        · exact .inr (added ▸ .head _)
      · exact .inr (.tail _ after)

theorem encodable_unpack {fields context : Object} (left : Value.Encodable (.obj fields)) (right : Value.Encodable (.obj context)) :
    Value.Encodable (.obj (unpack fields context)) := by
  constructor
  · refine printableFields_iff.mpr fun field member => ?_
    rcases mem_unpack member with before | added
    · exact printableFields_iff.mp left.1 field before
    · exact printableFields_iff.mp right.1 field added
  · refine scalar_obj.mpr fun field member => ?_
    rcases mem_unpack member with before | added
    · exact scalar_obj.mp left.2 field before
    · exact scalar_obj.mp right.2 field added

/-- The scenario order can be hashed and counted. -/
def Bindable (py : Python) (scenarioOrder : List Text) : Prop :=
  (∃ digest, sha256Of py (.arr (scenarioOrder.map .str)) = .ok digest) ∧ scenarioOrder.length < 10 ^ maxStrDigits

theorem modelBoundaryContext_exists (hexDigests : HexDigests py) (bindable : Bindable py scenarioOrder) :
    ∃ context, modelBoundaryContext py scenarioOrder = .ok context ∧ Value.Encodable (.obj context) := by
  obtain ⟨⟨digest, digested⟩, counted⟩ := bindable
  have hex : isSha256 (some (.str digest)) = true := sha256Of_hex hexDigests digested
  refine ⟨_, by rw [modelBoundaryContext, digested]; rfl, ?_⟩
  have count : Value.Encodable (.int scenarioOrder.length) := ⟨printable_nat.mpr counted, fun _ found => found.elim⟩
  refine encodable_structural.fields ["benchmark_revision", "scenario_order"] rfl (by decide) ?_
  simp only [List.forall_mem_cons]
  refine ⟨encodable_structural.str _ (by decide), ?_, List.forall_mem_nil _⟩
  refine encodable_structural.fields ["sha256", "count"] rfl (by decide) ?_
  simp only [List.forall_mem_cons]
  exact ⟨structural_hash encodable_structural hex, count, List.forall_mem_nil _⟩

/-- The records of a ledger are bound, one by one. -/
theorem bind_exists (hexDigests : HexDigests py) (bindable : Bindable py scenarioOrder) {records : List ObservedRecord}
    (digested : ∀ record ∈ records, sha256Of py (.obj record.fields) = .ok record.digest) :
    ∃ bound, bindModelBoundaryContext py (records.map ObservedRecord.fingerprint) scenarioOrder = .ok bound ∧
      bound.length = records.length := by
  obtain ⟨context, computed, encodable⟩ := modelBoundaryContext_exists hexDigests bindable
  rw [bindModelBoundaryContext, computed]
  change ∃ bound, (records.map ObservedRecord.fingerprint).mapM (bindFingerprint py context) = .ok bound ∧ _
  induction records with
  | nil => exact ⟨[], rfl, rfl⟩
  | cons record rest ih =>
      obtain ⟨head, tail⟩ := List.forall_mem_cons.mp digested
      obtain ⟨bound, rests, counted⟩ := ih tail
      obtain ⟨printable, scalar, _⟩ := sha256Of_eq_ok.mp head
      obtain ⟨allPrintable, allScalar⟩ := encodable_unpack ⟨printable, scalar⟩ encodable
      have one : sha256Of py (.obj (unpack record.fields context)) = .ok _ := sha256Of_eq_ok.mpr ⟨allPrintable, allScalar, rfl⟩
      rw [List.map_cons, List.mapM_cons, rests, bindFingerprint]
      change ∃ all, (sha256Of py (.obj (unpack record.fields context)) >>= _) >>= _ = _ ∧ _
      rw [one]
      exact ⟨_, rfl, by rw [List.length_cons, List.length_cons, counted]⟩

/-! ## Attribution -/

theorem take_eq_ok {ledger : Option Bytes} {requireRecords : Bool} {correlation : Option Text} {cursor taken : ObserverCursor}
    {records : List ObservedRecord} (took : cursor.take py floatEqual ledger requireRecords correlation = .ok (records, taken)) :
    ∃ observed, readObserverLedger py floatEqual ledger = .ok observed ∧
      records = cursor.selected (ObserverCursor.expectedCorrelation correlation cursor.activeCorrelation) observed ∧
      taken.consumedSequences = cursor.consumedSequences ∪ (records.map (·.sequence)).toFinset := by
  simp only [ObserverCursor.take, bind_eq_ok, raiseIf_eq_ok, pure, Except.pure, Except.ok.injEq, Prod.mk.injEq] at took
  obtain ⟨observed, read, _, _, _, _, _, _, rfl, rfl⟩ := took
  exact ⟨observed, read, rfl, rfl⟩

theorem consumeTurn_eq {ledger : Option Bytes} {requireRecords : Bool} {correlation : Option Text} {cursor taken : ObserverCursor}
    {records : List ObservedRecord} (took : cursor.take py floatEqual ledger requireRecords correlation = .ok (records, taken)) :
    (cursor.consumeTurn py floatEqual scenarioOrder ledger requireRecords correlation).2.consumedSequences = taken.consumedSequences ∧
    ∀ bound, bindModelBoundaryContext py (records.map ObservedRecord.fingerprint) scenarioOrder = .ok bound →
      (cursor.consumeTurn py floatEqual scenarioOrder ledger requireRecords correlation).1 = .ok bound := by
  cases binds : bindModelBoundaryContext py (records.map ObservedRecord.fingerprint) scenarioOrder with
  | error error =>
      simp only [ObserverCursor.consumeTurn, took, binds]
      exact ⟨trivial, fun bound same => by cases same⟩
  | ok bound =>
      simp only [ObserverCursor.consumeTurn, took, binds]
      exact ⟨trivial, fun other same => congrArg Except.ok (Except.ok.inj same)⟩

theorem selected_sublist (cursor : ObserverCursor) (expected : Option Text) (observed : List ObservedRecord) :
    (cursor.selected expected observed).Sublist observed := by
  cases expected with
  | none => exact List.drop_sublist _ _
  | some correlation => exact List.filter_sublist

/-- What holds of a session in every run.  While a turn without a correlation is
open, no record behind the position of the cursor was taken. -/
structure Session.Sound (py : Python) (floatEqual : Value → Value → Bool) (scenarioOrder : List Text) (session : Session)
    (records : List ObservedRecord) : Prop where
  read : readObserverLedger py floatEqual session.ledger = .ok records
  takings : Takings (·.sequence) records (session.turns.map Turn.records) session.cursor.consumedSequences
  position : session.opened = true → session.cursor.activeCorrelation = none →
    ∀ sequence ∈ session.cursor.consumedSequences, sequence ≤ session.cursor.cursor
  correlated : ∀ turn ∈ session.turns, ∀ correlation, turn.correlation = some correlation →
    ∀ record ∈ turn.records, record.correlationIdSha256 = some correlation
  returned : HexDigests py → Bindable py scenarioOrder → ∀ turn ∈ session.turns,
    ∃ bound, turn.result = .ok bound ∧ bound.length = turn.records.length

theorem Session.Sound.consumed_le {session : Session} {records : List ObservedRecord}
    (sound : session.Sound py floatEqual scenarioOrder records) {sequence : Int}
    (consumed : sequence ∈ session.cursor.consumedSequences) : sequence ≤ records.length := by
  obtain ⟨record, taken, rfl⟩ := List.mem_map.mp ((sound.takings.consumed sequence).mp consumed)
  exact (sequence_bounds 0 sound.read record (sound.takings.listed record taken)).2

theorem Session.Sound.fresh {session : Session} {records : List ObservedRecord} (expected : Option Text)
    (sound : session.Sound py floatEqual scenarioOrder records)
    (position : expected = none → ∀ sequence ∈ session.cursor.consumedSequences, sequence ≤ session.cursor.cursor) :
    ∀ record ∈ session.cursor.selected expected records, record.sequence ∉ session.cursor.consumedSequences := by
  intro record member consumed
  cases expected with
  | none =>
      have beyond := (sequence_bounds session.cursor.cursor sound.read record member).1
      have before := position rfl _ consumed
      omega
  | some correlation =>
      have kept := (List.mem_filter.mp member).2
      simp only [decide_eq_true_eq] at kept
      exact kept.1 consumed

theorem Session.Sound.step {session after : Session} {records : List ObservedRecord}
    (sound : session.Sound py floatEqual scenarioOrder records) (step : Session.Step py floatEqual scenarioOrder session after) :
    ∃ records, after.Sound py floatEqual scenarioOrder records := by
  cases step with
  | grow read grown =>
      cases sound.read.symm.trans read
      exact ⟨_, grown, sound.takings.grow (sequences_nodup grown), sound.position, sound.correlated, sound.returned⟩
  | beginTurn began =>
      simp only [ObserverCursor.beginTurn, bind_eq_ok] at began
      obtain ⟨observed, read, began⟩ := began
      cases sound.read.symm.trans read
      refine ⟨records, ?_⟩
      split at began
      · simp only [bind_eq_ok, pure, Except.pure, Except.ok.injEq] at began
        obtain ⟨_, _, rfl⟩ := began
        exact ⟨sound.read, sound.takings, (fun _ absent => by cases absent), sound.correlated, sound.returned⟩
      · simp only [bind_eq_ok, raiseIf_eq_ok, decide_eq_false_iff_not, ne_eq, not_not, pure, Except.pure, Except.ok.injEq] at began
        obtain ⟨_, drained, rfl⟩ := began
        refine ⟨sound.read, sound.takings, fun _ _ sequence consumed => ?_, sound.correlated, sound.returned⟩
        have listed := sound.consumed_le consumed
        change sequence ≤ (session.cursor.cursor : Int)
        omega
  | @consumeTurn requireRecords correlation taken _ cursor result opened took consumed =>
      obtain ⟨observed, read, rfl, added⟩ := take_eq_ok took
      cases sound.read.symm.trans read
      obtain ⟨counted, bound⟩ := @consumeTurn_eq _ _ scenarioOrder _ _ _ _ _ _ took
      rw [consumed] at counted bound
      have position : ObserverCursor.expectedCorrelation correlation session.cursor.activeCorrelation = none →
          ∀ sequence ∈ session.cursor.consumedSequences, sequence ≤ session.cursor.cursor := by
        intro unexpected
        refine sound.position opened ?_
        unfold ObserverCursor.expectedCorrelation at unexpected
        split at unexpected
        · cases unexpected
        · exact unexpected
      have takings := sound.takings.take (selected_sublist session.cursor _ records) (sound.fresh _ position)
      refine ⟨records, sound.read, ?_, (fun closed => by cases closed), ?_, fun hexDigests bindable => ?_⟩
      · rw [List.map_append, counted, added]
        exact takings
      · refine List.forall_mem_append.mpr ⟨sound.correlated, ?_⟩
        simp only [List.forall_mem_singleton]
        intro expected same record member
        have named : ObserverCursor.expectedCorrelation correlation session.cursor.activeCorrelation = some expected := same
        rw [named] at member
        have kept := (List.mem_filter.mp member).2
        simp only [decide_eq_true_eq] at kept
        exact kept.2
      · refine List.forall_mem_append.mpr ⟨sound.returned hexDigests bindable, ?_⟩
        simp only [List.forall_mem_singleton]
        have digested := readObserverLedger_checked sound.read
        obtain ⟨fingerprints, binds, length⟩ := bind_exists hexDigests bindable fun record member =>
          digested record ((selected_sublist session.cursor _ records).mem member)
        exact ⟨fingerprints, bound fingerprints binds, length⟩
  | refused => exact ⟨records, sound⟩

theorem Session.Sound.start {ledger : Option Bytes} {cursor : ObserverCursor} (created : ObserverCursor.create ledger = .ok cursor) :
    Session.Sound py floatEqual scenarioOrder ⟨ledger, cursor, false, []⟩ [] := by
  simp only [ObserverCursor.create, bind_eq_ok, raiseIf_eq_ok, pure, Except.pure, Except.ok.injEq] at created
  obtain ⟨_, empty, rfl⟩ := created
  have read : readObserverLedger py floatEqual ledger = .ok [] := by
    cases ledger with
    | none => rfl
    | some serialized =>
        have blank : serialized = [] := by simpa using empty
        rw [blank]
        rfl
  exact ⟨read, .nil, (fun closed => by cases closed), List.forall_mem_nil _, fun _ _ => List.forall_mem_nil _⟩

theorem Session.Reached.sound {session : Session} (reached : session.Reached py floatEqual scenarioOrder) :
    ∃ records, session.Sound py floatEqual scenarioOrder records := by
  obtain ⟨ledger, cursor, created, steps⟩ := reached
  induction steps with
  | refl => exact ⟨[], .start created⟩
  | tail _ step ih =>
      obtain ⟨records, sound⟩ := ih
      exact sound.step step

end

/-- Every record belongs to one turn. -/
structure Session.Attributed (py : Python) (floatEqual : Value → Value → Bool) (scenarioOrder : List Text) (session : Session) :
    Prop where
  once : ((session.turns.flatMap Turn.records).map (·.sequence)).Nodup
  correlated : ∀ turn ∈ session.turns, ∀ correlation, turn.correlation = some correlation →
    ∀ record ∈ turn.records, record.correlationIdSha256 = some correlation
  drained : session.cursor.requireDrained py floatEqual session.ledger = .ok () →
    ∃ records, readObserverLedger py floatEqual session.ledger = .ok records ∧
      ∀ record ∈ records, ∃! index : Nat, ∃ turn, session.turns[index]? = some turn ∧ record ∈ turn.records
  returned : HexDigests py → Bindable py scenarioOrder → ∀ turn ∈ session.turns,
    ∃ bound, turn.result = .ok bound ∧ bound.length = turn.records.length

end HarnessProxy.Evidence

import HarnessProxy.Evidence.ObserverReader

namespace HarnessProxy.Evidence

open HarnessProxy.Json Data
open HarnessProxy.Timing (isSha256)

/-! # The ledger of the observer

Attempts are appended one after the other, and the whole ledger is read back.
-/

/-- An attempt as the observer sees it, with a request and a response that
`json.loads` returns. -/
structure Observation (py : Python) where
  payload : Object
  clean : payload.Clean py
  printable : (Value.obj payload).printable = true
  statusCode : Option Int
  statusValid : ∀ status ∈ statusCode, 100 ≤ status ∧ status ≤ 599
  response : Value
  responsePrintable : response.printable = true
  correlation : Option Text
  correlationValid : ∀ text ∈ correlation, isSha256 (some (.str text)) = true

namespace Observation

variable {py : Python}

def record (observation : Observation py) (sequence : Nat) : Except BoundaryError ObservedRecord :=
  modelBoundaryRecord py observation.payload sequence observation.statusCode observation.response observation.correlation

def append (observation : Observation py) (state : ObserverState) : Except BoundaryError ObserverState :=
  appendObservation py observation.payload observation.statusCode observation.response observation.correlation state

theorem record_eq_ok {observation : Observation py} {sequence : Nat} {record : ObservedRecord} :
    observation.record sequence = .ok record ↔ ∃ parts prompt digest cache,
      Parts.Computed py parts observation.payload prompt ∧
      sha256Of py (.obj (parts.fields observation.payload)) = .ok digest ∧
      cacheObservationFromResponse observation.response = .ok cache ∧
      record = ⟨⟨sequence, digest, parts.fields observation.payload, observation.statusCode⟩, cache, observation.correlation⟩ := by
  have correlated : (observation.correlation.any fun correlation => !isSha256 (some (.str correlation))) = false := by
    cases found : observation.correlation with
    | none => rfl
    | some correlation =>
        have valid := observation.correlationValid correlation found
        simpa using valid
  simp only [Observation.record, modelBoundaryRecord, bind_eq_ok, fingerprintFields_eq_ok, liftBoundary_eq_ok, correlated,
    raiseIf_eq_ok, pure, Except.pure, Except.ok.injEq]
  constructor
  · rintro ⟨_, ⟨parts, prompt, computed, rfl⟩, digest, digested, _, _, cache, observed, rfl⟩
    exact ⟨parts, prompt, digest, cache, computed, digested, observed, rfl⟩
  · rintro ⟨parts, prompt, digest, cache, computed, digested, observed, rfl⟩
    exact ⟨_, ⟨parts, prompt, computed, rfl⟩, digest, digested, (), trivial, cache, observed, rfl⟩

variable (hexDigests : HexDigests py)
include hexDigests

/-- An attempt is recorded unless its request is ambiguous or cannot be hashed, or
the source in its response cannot be looked up. -/
theorem record_exists (observation : Observation py) (sequence : Nat) :
    (∃ record, observation.record sequence = .ok record) ↔
      (¬ Ambiguous observation.payload ∧ Recordable observation.payload) ∧ sourceUnhashable observation.response = false := by
  rw [← fingerprint_exists hexDigests observation.clean observation.printable, ← cacheObservationFromResponse_exists]
  constructor
  · rintro ⟨record, recorded⟩
    obtain ⟨parts, prompt, digest, cache, computed, _, observed, _⟩ := record_eq_ok.mp recorded
    exact ⟨⟨_, fingerprintFields_eq_ok.mpr ⟨parts, prompt, computed, rfl⟩⟩, cache, observed⟩
  · rintro ⟨⟨fields, fingerprinted⟩, cache, observed⟩
    obtain ⟨_, recordable⟩ := (fingerprint_exists hexDigests observation.clean observation.printable).mp ⟨fields, fingerprinted⟩
    obtain ⟨parts, prompt, computed, rfl⟩ := fingerprintFields_eq_ok.mp fingerprinted
    have print (key : Text) := printable_item observation.printable key
    have kept : Kept Value.Encodable observation.payload parts :=
      computed.kept hexDigests observation.clean observation.printable (fun _ printed => printed.encodable)
        ⟨print _, recordable.temperature⟩ ⟨print _, recordable.topP⟩ ⟨print _, recordable.topK⟩ ⟨print _, recordable.budget⟩
    obtain ⟨fieldsPrintable, scalar⟩ := structural_fields encodable_structural kept (computed.hexadecimal hexDigests)
    exact ⟨_, record_eq_ok.mpr ⟨parts, prompt, _, cache, computed, sha256Of_eq_ok.mpr ⟨fieldsPrintable, scalar, rfl⟩,
      observed, rfl⟩⟩

end Observation

/-! ## Rows -/

theorem printable_small {i : Int} (small : i.natAbs < 10000000) : (Value.int i).printable = true :=
  decide_eq_true ((length_ofNat_le small).trans (by decide))

theorem printed_int {py : Python} {i : Int} (printable : (Value.int i).printable = true) : Printed py (.int i) :=
  ⟨trivial, printable, ascii_int i⟩

theorem keys_toDict (record : ObservedRecord) :
    Object.keys record.toDict = rowKeys record.correlationIdSha256.isSome := by
  obtain ⟨_, _, correlation⟩ := record
  cases correlation <;> rfl

theorem wellKeyed_rowKeys (correlated : Bool) : wellKeyed (rowKeys correlated) = true := by
  cases correlated <;> decide

/-- The response of a row. -/
def responseDict (record : ObservedRecord) : Object :=
  [("status_code", record.statusCode.elim .null .int), ("cache", record.cache.elim .null fun cache => .obj cache.toDict)]

section
variable {py : Python} (hexDigests : HexDigests py) {observation : Observation py} (sampled : Sampled observation.payload)
  {sequence : Nat} {record : ObservedRecord} (recorded : observation.record sequence = .ok record)
include hexDigests sampled recorded

omit hexDigests sampled in
theorem printed_response : Printed py (.obj (responseDict record)) := by
  obtain ⟨parts, prompt, digest, cache, _, _, observed, rfl⟩ := Observation.record_eq_ok.mp recorded
  have status : Printed py (observation.statusCode.elim .null .int) := by
    cases found : observation.statusCode with
    | none => exact printed_structural.null
    | some status =>
        have bounds := observation.statusValid status found
        exact printed_int (printable_small (by omega))
  have cached : Printed py (cache.elim .null fun cache => .obj cache.toDict) := by
    cases cache with
    | none => exact printed_structural.null
    | some cache => exact (observedCache observation.responsePrintable observed).1
  refine printed_structural.fields ["status_code", "cache"] rfl (by decide) ?_
  simp only [responseDict, List.forall_mem_cons]
  exact ⟨status, cached, List.forall_mem_nil _⟩

theorem printed_toDict (numbered : (Value.int sequence).printable = true) : Printed py (.obj record.toDict) := by
  have response := printed_response recorded
  obtain ⟨parts, prompt, digest, cache, computed, digested, observed, rfl⟩ := Observation.record_eq_ok.mp recorded
  have correlated : ∀ field ∈ (observation.correlation.elim [] fun correlation =>
      [("correlation_id_sha256", .str correlation)] : Object), Printed py field.2 := by
    cases found : observation.correlation with
    | none => exact List.forall_mem_nil _
    | some correlation =>
        have valid := observation.correlationValid correlation found
        exact List.forall_mem_singleton.mpr (structural_hash printed_structural valid)
  refine printed_structural.fields _ (keys_toDict _) (wellKeyed_rowKeys _) (List.forall_mem_append.mpr ⟨?_, correlated⟩)
  simp only [List.forall_mem_cons]
  exact ⟨printed_structural.str _ (by decide), printed_int numbered,
    structural_hash printed_structural (sha256Of_hex hexDigests digested),
    printed_fields hexDigests observation.clean observation.printable sampled computed, response, List.forall_mem_nil _⟩

variable {floatEqual : Value → Value → Bool} (floats : ∀ f, floatEqual (.float f) (.float f) = true)
include floats

/-- A row is read back with sorted fields. -/
theorem readRow_toDict (numbered : (Value.int sequence).printable = true) :
    readRow py floatEqual sequence (.obj (Object.canonical record.toDict)) =
      .ok ⟨⟨record.sequence, record.digest, Object.canonical record.fields, record.statusCode⟩, record.cache,
        record.correlationIdSha256⟩ := by
  have printed := printed_toDict hexDigests sampled recorded numbered
  have response := printed_response recorded
  obtain ⟨parts, prompt, digest, cache, computed, digested, observed, same⟩ := Observation.record_eq_ok.mp recorded
  have fields := printed_fields hexDigests observation.clean observation.printable sampled computed
  have safe := safe_fields floats hexDigests observation.clean observation.printable sampled computed
  have read (key : Text) := item_canonical printed.clean.1 key
  have readResponse (key : Text) := item_canonical response.clean.1 key
  have typeAt : item (Object.canonical record.toDict) "record_type" = .str "qualification_model_boundary" := read _
  have sequenceAt : item (Object.canonical record.toDict) "sequence" = .int sequence := by
    rw [same] at read ⊢
    exact read _
  have digestAt : item (Object.canonical record.toDict) "digest" = .str record.digest := read _
  have fieldsAt : item (Object.canonical record.toDict) "fields" = .obj (Object.canonical record.fields) := read _
  have responseAt : item (Object.canonical record.toDict) "response" = .obj (Object.canonical (responseDict record)) := read _
  have correlationAt : item (Object.canonical record.toDict) "correlation_id_sha256" =
      record.correlationIdSha256.elim .null .str := by
    refine (read _).trans ?_
    obtain ⟨_, _, correlation⟩ := record
    cases correlation <;> rfl
  have correlationKey : Object.has (Object.canonical record.toDict) "correlation_id_sha256" =
      record.correlationIdSha256.isSome := by
    rw [Object.has, Value.get?_canonical printed.clean.1, Option.isSome_map]
    obtain ⟨_, _, correlation⟩ := record
    cases correlation <;> rfl
  have statusAt : item (Object.canonical (responseDict record)) "status_code" =
      (record.statusCode.elim .null .int : Value).canonical := readResponse _
  have cacheAt : item (Object.canonical (responseDict record)) "cache" =
      (record.cache.elim .null fun cache => .obj cache.toDict : Value).canonical := readResponse _
  have status : safeStatusCode (record.statusCode.elim .null .int : Value).canonical = some record.statusCode := by
    rw [same]
    cases found : observation.statusCode with
    | none => rfl
    | some status => exact if_pos (observation.statusValid status found)
  have cached : cacheObservation (record.cache.elim .null fun cache => .obj cache.toDict : Value).canonical = .ok record.cache := by
    rw [same]
    cases cache with
    | none => rfl
    | some cache => exact cacheObservation_toDict (@observedCache py _ _ observation.responsePrintable observed).2
  have present : decide ((record.correlationIdSha256.elim .null .str : Value) ≠ .null) = record.correlationIdSha256.isSome := by
    cases record.correlationIdSha256 <;> rfl
  have keyed : Core.sameKeys (Object.canonical record.toDict) (rowKeys record.correlationIdSha256.isSome) = true := by
    rw [sameKeys_canonical]
    exact sameKeys_of_keys (keys_toDict record)
  have sequenced : (Value.int sequence).equal floatEqual (.int sequence) = true := Value.equal_refl floats trivial
  have fieldKeys : Core.sameKeys (Object.canonical record.fields) modelBoundaryFieldKeys = true := by
    rw [sameKeys_canonical, same]
    exact sameKeys_of_keys rfl
  have safeRead : safeModelBoundaryFields py floatEqual (Object.canonical record.fields) = .ok true := by
    rw [same]
    exact safe
  have digestRead : sha256Of py (.obj (Object.canonical record.fields)) = .ok record.digest := by
    rw [same]
    exact (sha256Of_same (Value.same_canonical _) fields.clean.valid fields.printable
      (Value.printable_canonical fields.printable)).trans digested
  have responseKeys : Core.sameKeys (Object.canonical (responseDict record)) ["status_code", "cache"] = true := by
    rw [sameKeys_canonical]
    exact sameKeys_of_keys rfl
  have correlated : (record.correlationIdSha256.isSome &&
      !isSha256 (some (record.correlationIdSha256.elim .null .str : Value))) = false := by
    rw [same]
    cases found : observation.correlation with
    | none => rfl
    | some correlation =>
        have valid := observation.correlationValid correlation found
        simpa using valid
  have cacheKept : (decide ((record.cache.elim .null fun cache => .obj cache.toDict : Value).canonical ≠ .null) &&
      record.cache.isNone) = false := by
    cases record.cache with
    | none => rfl
    | some cache => exact Bool.and_false _
  have sequenceKept : record.sequence = sequence := by rw [same]
  have correlationKept : (record.correlationIdSha256.elim .null .str : Value).asString? = record.correlationIdSha256 := by
    cases record.correlationIdSha256 <;> rfl
  simp only [readRow, correlationAt, correlationKey, present, keyed, typeAt, sequenceAt, sequenced, fieldsAt, fieldKeys,
    safeRead, digestAt, digestRead, responseAt, responseKeys, statusAt, status, correlated, cacheAt, cached, cacheKept,
    correlationKept, liftBoundary, raiseIf, bind, Except.bind]
  rw [sequenceKept]
  simp [pure, Except.pure]

end

/-! ## The whole ledger -/

section
variable {py : Python}

/-- The records of consecutive attempts. -/
def recordsFrom (py : Python) : Nat → List (Observation py) → Except BoundaryError (List ObservedRecord)
  | _, [] => .ok []
  | sequence, observation :: rest => do
    return (← observation.record sequence) :: (← recordsFrom py (sequence + 1) rest)

def appendAll (py : Python) : List (Observation py) → ObserverState → Except BoundaryError ObserverState
  | [], state => .ok state
  | observation :: rest, state => do appendAll py rest (← observation.append state)

/-- Two records are equal in Python, where the order of keys does not matter. -/
structure ObservedRecord.Equal (record other : ObservedRecord) : Prop where
  sequence : record.sequence = other.sequence
  digest : record.digest = other.digest
  fields : Same (.obj record.fields) (.obj other.fields)
  statusCode : record.statusCode = other.statusCode
  cache : record.cache = other.cache
  correlation : record.correlationIdSha256 = other.correlationIdSha256

/-- The observations are appended to a fresh ledger and read back as these
records, in order. -/
def ReadBack (floatEqual : Value → Value → Bool) (observations : List (Observation py)) (records : List ObservedRecord) : Prop :=
  ∃ state read, appendAll py observations .fresh = .ok state ∧
    readModelBoundaryObserverRecords py floatEqual state.ledger = .ok read ∧ List.Forall₂ ObservedRecord.Equal records read

/-- A printed object as a row. -/
def rowOf {fields : Object} (printed : Printed py (.obj fields)) : LedgerRow py :=
  (AsciiDocument.mk fields printed.clean printed.printable printed.ascii).row

theorem rowOf_unseparated {fields : Object} (printed : Printed py (.obj fields)) : (rowOf printed).Unseparated := by
  intro c separator found
  have ascii := printed.ascii c found
  rcases separator with same | same | same <;> omega

theorem loadUniqueText_row (row : LedgerRow py) : loadUniqueText py row.text = some (.obj row.canonical.fields) := by
  have readable := Value.Clean.readable row.canonical.clean row.canonical.printable
  have parsed := parseDocument_dumpsUnicode readable
  rw [← LedgerRow.text_eq] at parsed
  rw [loadUniqueText, parsed]
  exact (if_pos (uniqueTree_tree row.canonical.clean)).trans (congrArg some row.tree_value)

/-- The reader gets the rows of the file. -/
theorem read_payload (floatEqual : Value → Value → Bool) {rows : List (LedgerRow py)}
    (unseparated : ∀ row ∈ rows, row.Unseparated) :
    readModelBoundaryObserverRecords py floatEqual (payload rows) = readRowsFrom py floatEqual 1 (readBack rows) := by
  have loaded : (rows.map LedgerRow.text).mapM (loadUniqueText py) = some (readBack rows) := by
    rw [List.mapM_map]
    exact mapM_some fun row _ => loadUniqueText_row row
  rw [readModelBoundaryObserverRecords, payload, decodeStrict_flatMap false (ledgerText_scalar rows), Option.bind_some,
    splitLines_ledgerText unseparated, filter_texts, loaded]

theorem append_eq {observation : Observation py} {state : ObserverState} {record : ObservedRecord}
    (recorded : observation.record state.nextSequence = .ok record) (printed : Printed py (.obj record.toDict)) :
    observation.append state = .ok ⟨state.ledger ++ payload [rowOf printed], state.nextSequence + 1⟩ := by
  have encodable : Text.encodable ((rowOf printed).text ++ [lineFeed]) = true := by
    refine List.all_eq_true.mpr fun c member => ?_
    rw [(AsciiDocument.mk record.toDict printed.clean printed.printable printed.ascii).text_scalar c member]
    rfl
  have encoded : encode ((rowOf printed).text ++ [lineFeed]) = .ok (payload [rowOf printed]) := by
    rw [encode, if_pos encodable]
    exact congrArg Except.ok (congrArg (List.flatMap encodeChar) (List.append_nil _).symm)
  have dumped : dumpText true (.obj record.toDict) = .ok (rowOf printed).text := (rowOf printed).dumped
  unfold Observation.record at recorded
  simp only [Observation.append, appendObservation, recorded, dumped, encoded, liftBoundary, bind, Except.bind]
  rfl

theorem payload_cons (row : LedgerRow py) (rows : List (LedgerRow py)) : payload (row :: rows) = payload [row] ++ payload rows := by
  have text : ledgerText (row :: rows) = ledgerText [row] ++ ledgerText rows := by
    rw [ledgerText, ledgerText, List.map_cons, LineEnds.unlines_cons, List.map_singleton, LineEnds.unlines_cons,
      List.append_assoc]
    rfl
  rw [payload, text, List.flatMap_append]
  rfl

/-- A row is written only if the number of its record can be printed. -/
theorem append_numbered {observation : Observation py} {state after : ObserverState} (appended : observation.append state = .ok after) :
    state.nextSequence < 10 ^ maxStrDigits ∧ after.nextSequence = state.nextSequence + 1 := by
  simp only [Observation.append, appendObservation, bind_eq_ok, liftBoundary_eq_ok, pure, Except.pure, Except.ok.injEq] at appended
  obtain ⟨record, recorded, text, dumped, serialized, _, rfl⟩ := appended
  obtain ⟨parts, prompt, digest, cache, _, _, _, rfl⟩ := Observation.record_eq_ok.mp recorded
  refine ⟨?_, rfl⟩
  rw [← printable_nat]
  unfold dumpText at dumped
  split at dumped
  · rename_i printable
    exact printableFields_iff.mp printable ("sequence", .int state.nextSequence) (.tail _ (.head _))
  · cases dumped

theorem appendAll_numbered {observations : List (Observation py)} {state after : ObserverState}
    (appended : appendAll py observations state = .ok after) :
    observations = [] ∨ state.nextSequence + observations.length ≤ 10 ^ maxStrDigits := by
  induction observations generalizing state with
  | nil => exact .inl rfl
  | cons observation rest ih =>
      simp only [appendAll, bind_eq_ok] at appended
      obtain ⟨next, first, remaining⟩ := appended
      obtain ⟨numbered, counted⟩ := append_numbered first
      right
      rw [List.length_cons]
      rcases ih remaining with empty | bounded
      · rw [empty, List.length_nil]
        omega
      · omega

/-- A record as it is read back. -/
def ObservedRecord.sorted (record : ObservedRecord) : ObservedRecord :=
  ⟨⟨record.sequence, record.digest, Object.canonical record.fields, record.statusCode⟩, record.cache,
    record.correlationIdSha256⟩

theorem ObservedRecord.equal_sorted (record : ObservedRecord) : record.Equal record.sorted :=
  ⟨rfl, rfl, Value.same_canonical _, rfl, rfl, rfl⟩

variable (hexDigests : HexDigests py) {floatEqual : Value → Value → Bool}
  (floats : ∀ f, floatEqual (.float f) (.float f) = true)
include hexDigests floats

theorem appendAll_payload {observations : List (Observation py)} {records : List ObservedRecord} {sequence : Nat} {ledger : Bytes}
    (recorded : recordsFrom py sequence observations = .ok records) (sampled : ∀ observation ∈ observations, Sampled observation.payload)
    (numbered : sequence + observations.length ≤ 10 ^ maxStrDigits) : ∃ rows : List (LedgerRow py),
      appendAll py observations ⟨ledger, sequence⟩ = .ok ⟨ledger ++ payload rows, sequence + observations.length⟩ ∧
      (∀ row ∈ rows, row.Unseparated) ∧
      readRowsFrom py floatEqual sequence (readBack rows) = .ok (records.map ObservedRecord.sorted) := by
  induction observations generalizing records sequence ledger with
  | nil =>
      cases recorded
      have empty : payload ([] : List (LedgerRow py)) = [] := rfl
      refine ⟨[], ?_, List.forall_mem_nil _, rfl⟩
      rw [empty, List.append_nil]
      rfl
  | cons observation rest ih =>
      simp only [recordsFrom, bind_eq_ok, pure, Except.pure, Except.ok.injEq] at recorded
      obtain ⟨record, one, others, remaining, rfl⟩ := recorded
      obtain ⟨head, tail⟩ := List.forall_mem_cons.mp sampled
      rw [List.length_cons] at numbered
      have number : (Value.int sequence).printable = true := printable_nat.mpr (by omega)
      have printed := printed_toDict hexDigests head one number
      obtain ⟨rows, appended, unseparated, read⟩ := @ih _ _ (ledger ++ payload [rowOf printed]) remaining tail (by omega)
      refine ⟨rowOf printed :: rows, ?_, List.forall_mem_cons.mpr ⟨rowOf_unseparated printed, unseparated⟩, ?_⟩
      · have step := @append_eq _ _ ⟨ledger, sequence⟩ _ one printed
        have count : sequence + 1 + rest.length = sequence + (rest.length + 1) := by omega
        have bytes := payload_cons (rowOf printed) rows
        rw [appendAll, step]
        change appendAll py rest ⟨ledger ++ payload [rowOf printed], sequence + 1⟩ = _
        rw [bytes, ← List.append_assoc, List.length_cons, ← count]
        exact appended
      · have first := readRow_toDict hexDigests head one floats number
        rw [readBack, List.map_cons, readRowsFrom]
        change (readRow py floatEqual sequence (.obj (Object.canonical record.toDict)) >>= fun row =>
          readRowsFrom py floatEqual (sequence + 1) (readBack rows) >>= fun rows => pure (row :: rows)) = _
        rw [first, read]
        rfl

omit floats in
theorem fields_valid {observation : Observation py} {parts : Parts} {prompt : Value}
    (computed : Parts.Computed py parts observation.payload prompt) : (Value.obj (parts.fields observation.payload)).Valid := by
  have valid (key : Text) : (item observation.payload key).Valid := (clean_item observation.clean key).valid
  exact structural_fields valid_structural
    (computed.kept hexDigests observation.clean observation.printable (fun _ printed => printed.clean.valid)
      (valid "temperature") (valid "top_p") (valid "top_k") (valid "max_tokens")) (computed.hexadecimal hexDigests)

omit floats in
theorem sampled_of_equal {observations : List (Observation py)} {records read : List ObservedRecord} {sequence : Nat}
    (recorded : recordsFrom py sequence observations = .ok records) (equal : List.Forall₂ ObservedRecord.Equal records read)
    (safe : ∀ record ∈ read, safeModelBoundaryFields py floatEqual record.fields = .ok true) :
    ∀ observation ∈ observations, Sampled observation.payload := by
  induction observations generalizing sequence records read with
  | nil => exact List.forall_mem_nil _
  | cons observation rest ih =>
      simp only [recordsFrom, bind_eq_ok, pure, Except.pure, Except.ok.injEq] at recorded
      obtain ⟨record, one, others, remaining, rfl⟩ := recorded
      cases equal with
      | cons first equal =>
          obtain ⟨head, tail⟩ := List.forall_mem_cons.mp safe
          obtain ⟨parts, prompt, digest, cache, computed, _, _, rfl⟩ := Observation.record_eq_ok.mp one
          exact List.forall_mem_cons.mpr ⟨sampled_of_safe (fields_valid hexDigests computed) first.fields head,
            ih remaining equal tail⟩

/-- What was recorded is read back exactly if the copied values are numbers. -/
theorem readBack_iff {observations : List (Observation py)} {records : List ObservedRecord}
    (recorded : recordsFrom py 1 observations = .ok records) : ReadBack floatEqual observations records ↔
      (∀ observation ∈ observations, Sampled observation.payload) ∧ observations.length < 10 ^ maxStrDigits := by
  constructor
  · rintro ⟨state, read, appended, accepted, equal⟩
    constructor
    · unfold readModelBoundaryObserverRecords at accepted
      split at accepted
      · cases accepted
      · have safe : ∀ record ∈ read, safeModelBoundaryFields py floatEqual record.fields = .ok true := by
          intro record member
          obtain ⟨number, checked⟩ := readRowsFrom_checked accepted record member
          exact checked.safe
        exact sampled_of_equal hexDigests recorded equal safe
    · rcases appendAll_numbered appended with empty | bounded
      · rw [empty]
        exact Nat.pow_pos (by decide)
      · change 1 + _ ≤ _ at bounded
        omega
  · rintro ⟨sampled, few⟩
    obtain ⟨rows, appended, unseparated, read⟩ := @appendAll_payload _ hexDigests _ floats _ _ _ [] recorded sampled (by omega)
    refine ⟨_, _, appended, (read_payload floatEqual unseparated).trans read, ?_⟩
    exact List.forall₂_map_right_iff.mpr (List.forall₂_same.mpr fun record _ => record.equal_sorted)

end

/-- An attempt with a temperature. -/
def sampledAt (temperature : Value) (clean : temperature.Clean .reference) (printable : temperature.printable = true) :
    Observation .reference where
  payload := [("model", .str "m"), ("messages", .arr []), ("temperature", temperature)]
  clean := ⟨(by decide : (["model", "messages", "temperature"] : List Text).Nodup), trivial, trivial, clean, trivial⟩
  printable := printableFields_iff.mpr (by simp [printable, Value.printable, printableItems])
  statusCode := some 200
  statusValid := by simp
  response := .null
  responsePrintable := rfl
  correlation := none
  correlationValid := by simp

theorem sampledAt_recorded {temperature : Value} {clean : temperature.Clean .reference} {printable : temperature.printable = true}
    (scalar : temperature.Scalar) : ∃ record, (sampledAt temperature clean printable).record 1 = .ok record := by
  have empty : Value.Scalar .null := fun _ found => found.elim
  have model : (Value.str "m").Scalar := scalar_of_ascii (ascii_str.mpr (by decide))
  have noPolicy : PolicyScalar .null := fun _ _ => empty
  refine (Observation.record_exists hexDigests_reference _ 1).mpr ⟨⟨(fun both => by cases both.1), ?_⟩, rfl⟩
  exact ⟨rfl, empty, model, empty, noPolicy, empty, noPolicy, scalar, empty, empty, empty⟩

/-- A temperature that is a string. -/
def quotedTemperature : Observation .reference := sampledAt (.str "0.2") trivial rfl

end HarnessProxy.Evidence

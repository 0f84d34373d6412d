import HarnessProxy.Campaign.Disk

namespace HarnessProxy.Campaign

open HarnessProxy.Core HarnessProxy.Json HarnessProxy.Evidence Evidence.Model Data Data.Program

/-! # The chain of events on disk -/

/-- The instance that an event takes out of use. -/
def Event.counted (event : Event) : Option Text :=
  if event.failureCategory = some partialStage then none else event.modelRuntimeInstanceSha256

section
variable (sha256 : Bytes → Text)

def Event.headBytes (event : Event) : Bytes := lineBytes (headRecord event.sequence (sha256 event.bytes))

/-- What is loaded of these events. -/
def loadedChain (entries : List Event) : Chain :=
  ⟨entries.map fun event => (event.document.canonical, sha256 event.bytes), (entries.filterMap Event.counted).reverse⟩

end

section
variable (platform : ExportPlatform) (contract : Contract)

/-- An event that an advance records after these events. -/
def Origin (entries : List Event) (event : Event) : Prop :=
  ∃ serialized spec request, contract.manifest serialized ∧ loadCampaignSpec platform serialized = some spec ∧
    stageRequest spec (entries.length + 1) = some request ∧
    (event = partialEventRecord spec request (loadedChain platform.sha256 entries).previous ∨
      ∃ result, contract.result request result ∧ result.Fits request ∧
        eventRecord spec request result (loadedChain platform.sha256 entries).previous
          ((loadedChain platform.sha256 entries).predecessor spec request.stage) = .ok event)

/-- The events are numbered, each names the one before it, only the last one may
have failed, and no two are about the same model instance. -/
structure Chained (entries : List Event) : Prop where
  valid : ∀ event ∈ entries, event.Valid
  origin : ∀ (index : Nat) (event : Event), entries[index]? = some event → Origin platform contract (entries.take index) event
  numbers : ∀ (index : Nat) (event : Event), entries[index]? = some event → event.sequence = index + 1
  linked : Linked (fun event => platform.sha256 event.bytes) Event.previousEventSha256 none entries
  passed : ∀ event ∈ entries.dropLast, event.status = .passed
  instances : (entries.filterMap Event.modelRuntimeInstanceSha256).Nodup

/-- The files hold these events, perhaps one more that was cut off, and the heads
of all events but perhaps the last. -/
structure Recorded (disk : Disk) (entries : List Event) (torn : Option Bytes) (heads : List Bytes) : Prop where
  chained : Chained platform contract entries
  events : disk.events = numbered 1 (entries.map Event.bytes ++ torn.toList)
  unfinished : ∀ content ∈ torn, byte 0x0a ∉ content
  interrupted : torn.isSome = true → ∀ event ∈ entries, event.status = .passed
  headFiles : disk.heads = numbered 1 heads
  headed : ∀ (index : Nat) (content : Bytes), heads[index]? = some content →
    ∃ event : Event, entries[index]? = some event ∧ content <+: event.headBytes platform.sha256
  lagging : entries.length + torn.toList.length ≤ heads.length + 1
  short : entries.length + torn.toList.length ≤ 17
  increasing : disk.ran.Pairwise (· < ·)
  started : ∀ sequence ∈ disk.ran, 1 ≤ sequence ∧ sequence ≤ entries.length + 1
  stopped : ∀ last ∈ entries.getLast?, last.status ≠ .passed → ∀ sequence ∈ disk.ran, sequence ≤ entries.length

end

section
variable {platform : ExportPlatform} {contract : Contract} {sha256 : Bytes → Text} {disk : Disk} {entries : List Event}
  {torn : Option Bytes} {heads : List Bytes}

theorem Recorded.heads_length (recorded : Recorded platform contract disk entries torn heads) : heads.length ≤ entries.length := by
  by_contra longer
  have bound : entries.length < heads.length := not_le.mp longer
  obtain ⟨event, found, _⟩ := recorded.headed entries.length heads[entries.length] (List.getElem?_eq_getElem bound)
  rw [List.getElem?_eq_none le_rfl] at found
  cases found

theorem loadedChain_concat (event : Event) : loadedChain sha256 (entries ++ [event]) =
    ⟨(loadedChain sha256 entries).events ++ [(event.document.canonical, sha256 event.bytes)],
      event.counted.toList ++ (loadedChain sha256 entries).used⟩ := by
  have counted : [event].filterMap Event.counted = event.counted.toList := by
    cases found : event.counted with
    | none => simp [found]
    | some runtime => simp [found]
  have single : event.counted.toList.reverse = event.counted.toList := by cases event.counted <;> rfl
  rw [loadedChain, List.map_append, List.filterMap_append, List.reverse_append, counted, single]
  rfl

theorem useInstance_eq {event : Event} {used : List Text} (fresh : ∀ runtime ∈ event.counted, runtime ∉ used) :
    useInstance event.document.canonical used = .ok (event.counted.toList ++ used) := by
  obtain ⟨category, _, runtime, _⟩ := event.get?_optional
  have same : some (optionalText event.failureCategory) = some (.str partialStage) ↔
      event.failureCategory = some partialStage := by
    cases event.failureCategory <;> simp [optionalText]
  simp only [useInstance, category, same, runtime, Option.getD_some]
  unfold Event.counted at fresh ⊢
  split
  · rfl
  · next counts =>
      rw [if_neg counts] at fresh
      cases found : event.modelRuntimeInstanceSha256 with
      | none => rfl
      | some runtime => exact if_neg (fresh runtime (by rw [found]; rfl))

/-- An instance is fresh where the instances of all events differ. -/
theorem counted_fresh {event : Event} {todo : List Event}
    (distinct : ((entries ++ event :: todo).filterMap Event.modelRuntimeInstanceSha256).Nodup) :
    ∀ runtime ∈ event.counted, runtime ∉ (loadedChain sha256 entries).used := by
  intro runtime counts again
  have mine : event.modelRuntimeInstanceSha256 = some runtime := by
    unfold Event.counted at counts
    split at counts
    · cases counts
    · exact counts
  obtain ⟨other, member, theirs⟩ := List.mem_filterMap.mp (List.mem_reverse.mp again)
  have same : other.modelRuntimeInstanceSha256 = some runtime := by
    unfold Event.counted at theirs
    split at theirs
    · cases theirs
    · exact theirs
  rw [List.filterMap_append, List.nodup_append] at distinct
  exact distinct.2.2 runtime (List.mem_filterMap.mpr ⟨other, member, same⟩) runtime
    (List.mem_filterMap.mpr ⟨event, List.mem_cons_self, mine⟩) rfl

theorem loadedChain_getLast : (loadedChain sha256 entries).events.getLast? =
    entries.getLast?.map fun event => (event.document.canonical, sha256 event.bytes) :=
  List.getLast?_map

theorem loadedChain_previous : (loadedChain sha256 entries).previous = lastDigest (fun event => sha256 event.bytes) entries := by
  rw [Chain.previous, loadedChain_getLast, lastDigest, Option.map_map]
  rfl

end

/-! ## What may be done -/

section
variable (platform : ExportPlatform) (contract : Contract)

/-- All files are whole and all events passed. -/
structure Settled (disk : Disk) (entries : List Event) : Prop where
  recorded : ∃ heads, Recorded platform contract disk entries none heads ∧ heads.length = entries.length
  passed : ∀ event ∈ entries, event.status = .passed

/-- A stage is run when all stages before it passed and only for the first time;
the outcome is written when all stages passed. -/
def Allowed (disk : Disk) : Op → Prop
  | .run request => ∃ entries, Settled platform contract disk entries ∧ request.sequence = entries.length + 1 ∧ request.sequence ∉ disk.ran
  | .create .root _ _ => ∃ entries, Settled platform contract disk entries ∧ (entries.length = 13 ∨ entries.length = 17)
  | _ => True

def campaignDuty : Duty Op Disk where
  holds disk := ∃ entries torn heads, Recorded platform contract disk entries torn heads
  allows := Allowed platform contract

end

/-! ## Loading -/

section
variable {platform : ExportPlatform} {contract : Contract} {disk : Disk} {spec : Spec} {request : StageRequest}
  (holds : (campaignDuty platform contract).holds disk)
include holds

theorem inspectStage_keeps : Keeps (answers contract) (campaignDuty platform contract)
    (Returning fun inspection after => after = disk ∧ (inspection.state = .absent → request.sequence ∉ disk.ran) ∧
      ∀ result ∈ inspection.result, result.Identified ∧ contract.result request result) (inspectStage request) disk := by
  refine Keeps.ask holds trivial ?_
  rintro reply after ⟨rfl, contract⟩
  refine Keeps.ended holds ?_
  cases reply with
  | value inspection => exact ⟨rfl, contract inspection rfl⟩
  | other => trivial
  | raised => trivial

theorem validateStageResult_keeps (result : StageResult) : Keeps (answers contract) (campaignDuty platform contract)
    (Returning fun _ after => after = disk ∧ result.Fits request) (validateStageResult platform request result) disk := by
  refine Keeps.require holds (fun _ => trivial) fun fits => Keeps.ask holds trivial ?_
  rintro reply after rfl
  refine Keeps.orRaise holds (fun _ => trivial) fun serialized _ => ?_
  unfold require
  split
  · exact Keeps.pure holds ⟨rfl, fits⟩
  · exact Keeps.raise holds trivial

theorem expectedEvent_keeps (chain : Chain) (event : Object) : Keeps (answers contract) (campaignDuty platform contract)
    (Returning fun _ after => after = disk) (expectedEvent platform spec request chain event) disk := by
  unfold expectedEvent
  split
  · exact Keeps.pure holds rfl
  · refine Keeps.seq (inspectStage_keeps holds) (fun _ _ _ => trivial) ?_
    rintro inspection after _ ⟨rfl, _⟩
    refine Keeps.require holds (fun _ => trivial) fun _ => Keeps.orRaise holds (fun _ => trivial) fun result _ => ?_
    refine Keeps.seq (validateStageResult_keeps holds result) (fun _ _ _ => trivial) ?_
    rintro _ after _ ⟨rfl, _⟩
    refine Keeps.ended holds ?_
    cases eventRecord spec request result chain.previous (chain.predecessor spec request.stage) with
    | ok _ => exact rfl
    | error _ => trivial

/-- A file is created whole, or the run ends with a part of it. -/
theorem atomicWrite_keeps {folder : Folder} {name : Text} {document : Object}
    (allowed : Allowed platform contract disk (.create folder name (lineBytes document)))
    (kept : ∀ written, written <+: lineBytes document → ¬ disk.has folder name →
      (campaignDuty platform contract).holds (disk.add name written folder)) :
    Keeps (answers contract) (campaignDuty platform contract)
      (Returning fun content after => content = lineBytes document ∧ ¬ disk.has folder name ∧ after = disk.add name content folder)
      (atomicWriteNoClobber folder name document) disk := by
  refine Keeps.ask holds allowed ?_
  intro creation after answered
  cases creation with
  | written =>
      obtain ⟨absent, rfl⟩ := answered
      exact Keeps.ended (kept _ List.prefix_rfl absent) ⟨rfl, absent, rfl⟩
  | existed =>
      obtain ⟨_, rfl⟩ := answered
      exact Keeps.ended holds trivial
  | failed =>
      rcases answered with rfl | ⟨written, absent, cut, rfl⟩
      · exact Keeps.ended holds trivial
      · exact Keeps.ended (kept written cut absent) trivial

end

/-! ### The heads -/

section
variable {platform : ExportPlatform} {contract : Contract} {spec : Spec} {disk : Disk} {entries done todo : List Event} {event : Event}
  {torn : Option Bytes} {heads : List Bytes}

theorem Recorded.holds (recorded : Recorded platform contract disk entries torn heads) :
    (campaignDuty platform contract).holds disk := ⟨entries, torn, heads, recorded⟩

theorem Recorded.has_head (recorded : Recorded platform contract disk entries torn heads) {sequence : Nat} :
    disk.has .heads (fileName sequence) ↔ 1 ≤ sequence ∧ sequence ≤ heads.length := by
  change fileName sequence ∈ disk.heads.map Prod.fst ↔ _
  rw [recorded.headFiles, has_numbered, Nat.add_comm, Nat.lt_succ_iff]

/-- The head that was missing. -/
theorem Recorded.add_head (recorded : Recorded platform contract disk entries torn heads)
    (found : entries[heads.length]? = some event) {written : Bytes} (cut : written <+: event.headBytes platform.sha256) :
    Recorded platform contract (disk.add (fileName (heads.length + 1)) written .heads) entries torn (heads ++ [written]) where
  chained := recorded.chained
  events := recorded.events
  unfinished := recorded.unfinished
  interrupted := recorded.interrupted
  headFiles := by
    change disk.heads ++ _ = _
    rw [recorded.headFiles, numbered_append, Nat.add_comm]
    rfl
  headed index content at_ := by
    by_cases earlier : index < heads.length
    · rw [List.getElem?_append_left earlier] at at_
      exact recorded.headed index content at_
    · rw [List.getElem?_append_right (not_lt.mp earlier), List.getElem?_singleton] at at_
      split at at_
      · next same =>
          have index_ : index = heads.length := by omega
          cases at_
          exact ⟨event, index_ ▸ found, cut⟩
      · cases at_
  lagging := by
    have lagging := recorded.lagging
    rw [List.length_append]
    omega
  short := recorded.short
  increasing := recorded.increasing
  started := recorded.started
  stopped := recorded.stopped

theorem writeHead_keeps (recorded : Recorded platform contract disk entries torn heads)
    (found : entries[heads.length]? = some event) : Keeps (answers contract) (campaignDuty platform contract)
      (Returning fun _ after => ∃ content, Recorded platform contract after entries torn (heads ++ [content]))
      (atomicWriteNoClobber .heads (fileName (heads.length + 1)) (headRecord (heads.length + 1) (platform.sha256 event.bytes)))
      disk := by
  have bytes : lineBytes (headRecord (heads.length + 1) (platform.sha256 event.bytes)) = event.headBytes platform.sha256 := by
    rw [Event.headBytes, recorded.chained.numbers heads.length event found]
  refine Keeps.mono (atomicWrite_keeps recorded.holds trivial ?_) ?_
  · intro written cut _
    exact (recorded.add_head found (bytes ▸ cut)).holds
  · intro result after _ ended
    cases result with
    | error _ => trivial
    | ok content =>
        obtain ⟨rfl, _, rfl⟩ := ended
        exact ⟨_, recorded.add_head found (bytes ▸ List.prefix_rfl)⟩

/-- The head of the next event in the chain is there, or it is written. -/
theorem checkHead_keeps (recorded : Recorded platform contract disk (done ++ event :: todo) torn heads)
    (headed : done.length ≤ heads.length) (total : Nat) : Keeps (answers contract) (campaignDuty platform contract)
      (Returning fun _ after => ∃ heads, Recorded platform contract after (done ++ event :: todo) torn heads ∧
        done.length + 1 ≤ heads.length)
      (checkHead platform total (done.length + 1) (platform.sha256 event.bytes)) disk := by
  refine Keeps.ask recorded.holds trivial ?_
  rintro here after ⟨rfl, contract⟩
  cases here with
  | true =>
      have present := (recorded.has_head.mp (contract.mp rfl)).2
      refine Keeps.ask recorded.holds trivial ?_
      rintro reply after ⟨rfl, _⟩
      refine Keeps.orRaise recorded.holds (fun _ => trivial) fun headDocument _ => ?_
      unfold require
      split
      · exact Keeps.pure recorded.holds ⟨heads, recorded, present⟩
      · exact Keeps.raise recorded.holds trivial
  | false =>
      have absent : ¬ done.length + 1 ≤ heads.length := fun present =>
        Bool.false_ne_true (contract.mpr (recorded.has_head.mpr ⟨by omega, present⟩))
      have last : heads.length = done.length := by omega
      have found : (done ++ event :: todo)[heads.length]? = some event := by simp [last]
      refine Keeps.require recorded.holds (fun _ => trivial) fun _ => ?_
      have written := writeHead_keeps recorded found
      rw [last] at written
      refine Keeps.seq written (fun _ _ _ => trivial) ?_
      rintro _ after _ ⟨content, added⟩
      refine Keeps.pure added.holds ⟨_, added, ?_⟩
      rw [List.length_append, last]
      exact le_rfl

/-! ### The events -/

theorem Recorded.lookup_event (recorded : Recorded platform contract disk entries torn heads) (index : Nat) :
    (disk.files .events).lookup (fileName (index + 1)) = (entries.map Event.bytes ++ torn.toList)[index]? := by
  change disk.events.lookup _ = _
  rw [recorded.events, Nat.add_comm, lookup_numbered]

theorem readObject_line {fields : Object} (printed : Printed platform.py (.obj fields)) :
    readObject platform (lineBytes fields) = some fields.canonical := by
  rw [readObject, loadUnique_lineBytes platform.wide printed]
  rfl

theorem readObject_event (valid : event.Valid) : readObject platform event.bytes = some event.document.canonical :=
  readObject_line valid.printed

/-- The body of the loop: the next event of the chain is loaded. -/
theorem loadEvent_keeps (recorded : Recorded platform contract disk (done ++ event :: todo) torn heads)
    (headed : done.length ≤ heads.length) (total : Nat) : Keeps (answers contract) (campaignDuty platform contract)
      (Returning fun chain after => chain = loadedChain platform.sha256 (done ++ [event]) ∧
        ∃ heads, Recorded platform contract after (done ++ event :: todo) torn heads ∧ done.length + 1 ≤ heads.length)
      (loadEvent platform spec total (done.length + 1) (fileName (done.length + 1)) (loadedChain platform.sha256 done)) disk := by
  have valid : event.Valid := recorded.chained.valid event (by simp)
  refine Keeps.ask recorded.holds trivial ?_
  rintro reply after ⟨rfl, contract⟩
  refine Keeps.orRaise recorded.holds (fun _ => trivial) fun serialized read => ?_
  have bytes : serialized = event.bytes := by
    have looked := contract serialized read
    rw [recorded.lookup_event] at looked
    simpa using looked.symm
  refine Keeps.orRaise recorded.holds (fun _ => trivial) fun object parsed => ?_
  have canonical : object = event.document.canonical := by
    rw [bytes, readObject_event valid] at parsed
    exact (Option.some.inj parsed).symm
  refine Keeps.orRaise recorded.holds (fun _ => trivial) fun request _ => ?_
  refine Keeps.seq (expectedEvent_keeps recorded.holds _ _) (fun _ _ _ => trivial) ?_
  rintro expected after _ rfl
  refine Keeps.require recorded.holds (fun _ => trivial) fun _ => Keeps.require recorded.holds (fun _ => trivial) fun _ => ?_
  have checked := checkHead_keeps recorded headed total
  rw [← bytes] at checked
  refine Keeps.seq checked (fun _ _ _ => trivial) ?_
  rintro _ after _ ⟨heads, recorded, headed⟩
  refine Keeps.lift recorded.holds (fun _ _ => trivial) fun used counts => ?_
  rw [canonical, useInstance_eq (counted_fresh recorded.chained.instances)] at counts
  refine Keeps.pure recorded.holds ⟨?_, heads, recorded, headed⟩
  rw [loadedChain_concat, canonical, bytes, Except.ok.inj counts]

/-- An event that was cut off is not loaded. -/
theorem loadEvent_torn {content : Bytes} (recorded : Recorded platform contract disk entries (some content) heads)
    (total : Nat) (chain : Chain) : Keeps (answers contract) (campaignDuty platform contract) (Returning fun _ _ => False)
      (loadEvent platform spec total (entries.length + 1) (fileName (entries.length + 1)) chain) disk := by
  refine Keeps.ask recorded.holds trivial ?_
  rintro reply after ⟨rfl, contract⟩
  refine Keeps.orRaise recorded.holds (fun _ => trivial) fun serialized read => ?_
  have bytes : serialized = content := by
    have looked := contract serialized read
    rw [recorded.lookup_event] at looked
    simpa using looked.symm
  refine Keeps.orRaise recorded.holds (fun _ => trivial) fun object _ => Keeps.orRaise recorded.holds (fun _ => trivial) fun request _ => ?_
  refine Keeps.seq (expectedEvent_keeps recorded.holds _ _) (fun _ _ _ => trivial) ?_
  rintro expected after _ rfl
  refine Keeps.require recorded.holds (fun _ => trivial) fun _ => Keeps.require recorded.holds (fun _ => trivial) fun written => ?_
  exact absurd (mem_fileBytes written) (bytes ▸ recorded.unfinished content rfl)

/-- The loop, by induction on the events that are left. -/
theorem loadFrom_keeps (recorded : Recorded platform contract disk (done ++ todo) torn heads)
    (headed : done.length ≤ heads.length) (total : Nat) : Keeps (answers contract) (campaignDuty platform contract)
      (Returning fun chain after => torn = none ∧ chain = loadedChain platform.sha256 (done ++ todo) ∧
        ∃ heads, Recorded platform contract after (done ++ todo) none heads ∧ heads.length = (done ++ todo).length)
      (loadFrom platform spec total (done.length + 1)
        ((List.range' (done.length + 1) (todo.length + torn.toList.length)).map fileName) (loadedChain platform.sha256 done))
      disk := by
  induction todo generalizing done disk heads with
  | nil =>
      rw [List.append_nil] at recorded
      cases torn with
      | none =>
          have lengths := recorded.heads_length
          rw [List.append_nil]
          exact Keeps.pure recorded.holds ⟨rfl, rfl, heads, recorded, by omega⟩
      | some content =>
          refine Keeps.seq (loadEvent_torn recorded total _) (fun _ _ _ => trivial) ?_
          exact fun _ _ _ impossible => impossible.elim
  | cons event todo ih =>
      have names : (event :: todo).length + torn.toList.length = todo.length + torn.toList.length + 1 := by
        rw [List.length_cons]
        omega
      rw [names, List.range'_succ, List.map_cons, loadFrom]
      refine Keeps.seq (loadEvent_keeps recorded headed total) (fun _ _ _ => trivial) ?_
      rintro chain after _ ⟨rfl, heads, recorded, headed⟩
      have again : done ++ event :: todo = (done ++ [event]) ++ todo := by simp
      rw [again] at recorded ⊢
      have rest := ih recorded (by simpa using headed)
      have grown : (done ++ [event]).length = done.length + 1 := by simp
      rwa [grown] at rest

/-- `_load_events` loads what was recorded, or raises. -/
theorem loadEvents_keeps (recorded : Recorded platform contract disk entries torn heads) :
    Keeps (answers contract) (campaignDuty platform contract)
      (Returning fun chain after => chain = loadedChain platform.sha256 entries ∧
        ∃ heads, Recorded platform contract after entries none heads ∧ heads.length = entries.length)
      (loadEvents platform spec) disk := by
  refine Keeps.ask recorded.holds trivial ?_
  rintro reply after ⟨rfl, contract⟩
  refine Keeps.orRaise recorded.holds (fun _ => trivial) fun names listed => Keeps.ask recorded.holds trivial ?_
  rintro headReply after ⟨rfl, _⟩
  refine Keeps.orRaise recorded.holds (fun _ => trivial) fun headNames _ => Keeps.require recorded.holds (fun _ => trivial) fun _ => ?_
  have short := recorded.short
  have lengths : (entries.map Event.bytes ++ torn.toList).length = entries.length + torn.toList.length := by simp
  have same : names = (List.range' 1 (entries.length + torn.toList.length)).map fileName := by
    rw [contract names listed]
    change Text.sorted (after.events.map Prod.fst) = _
    rw [recorded.events, numbered_expectedNames, lengths, sorted_expectedNames short, expectedNames_eq]
  rw [same, List.length_map, List.length_range']
  have none : ([] : List Event) ++ entries = entries := rfl
  rw [← none] at recorded
  refine (loadFrom_keeps recorded (Nat.zero_le _) (entries.length + torn.toList.length)).mono fun result after _ ended => ?_
  cases result with
  | error _ => trivial
  | ok chain => exact ended.2

end

end HarnessProxy.Campaign

import HarnessProxy.Streaming.Delta

namespace HarnessProxy.Streaming

open HarnessProxy.Json HarnessProxy.Service

/-! # What a replay sends

The chunks of a replay are the frames of its events, and an event is read back
from its frame.
-/

/-- A choice that a replay accepts. -/
structure Choice where
  index : Int
  message : Object
  finishReason : Text

/-- The fields of a choice that a replay reads. -/
def choiceOf (value : Value) : Option Choice :=
  match value with
  | .obj fields => match Object.get? fields "message", Object.get? fields "index",
      nonemptyText? (Object.get? fields "finish_reason") with
    | some (.obj message), some (.int index), some finishReason => some { index, message, finishReason }
    | _, _, _ => none
  | _ => none

/-- `completion["choices"]` -/
def choicesOf (completion : Object) : List Value :=
  match completion.get? "choices" with
  | some (.arr choices) => choices
  | _ => []

/-! ## The bytes of a replay -/

/-- The event of a chunk. -/
def Framed (event : Object) (chunk : Bytes) : Prop := eventBytes event = .ok chunk

theorem appendEvents_framed {maxBytes : Option Nat} {events : List Object} {totalBytes : Nat} {chunks : List Bytes}
    (appended : appendEvents maxBytes totalBytes events = .ok chunks) : List.Forall₂ Framed events chunks := by
  induction events generalizing totalBytes chunks with
  | nil =>
      cases appended
      exact .nil
  | cons event rest ih =>
      simp only [appendEvents, appendEvent, bind_eq_ok, uncaught_eq_ok, pure, Except.pure, Except.ok.injEq] at appended
      obtain ⟨chunk, ⟨_, framed, _, _, rfl⟩, others, tail, rfl⟩ := appended
      exact .cons framed (ih tail)

/-- The events of a choice are those of its fields. -/
theorem choiceEvents_eq_ok {completion : Object} {value : Value} {events : List Object}
    (replayed : choiceEvents completion value = .ok events) :
    ∃ choice delta, choiceOf value = some choice ∧ messageDelta choice.message = .ok delta ∧
      events = [chunk completion choice.index delta .null,
        chunk completion choice.index [] (.str choice.finishReason)] := by
  unfold choiceEvents at replayed
  split at replayed
  · split at replayed
    · next message index finishReason present indexed finished =>
      simp only [bind_eq_ok, pure, Except.pure, Except.ok.injEq] at replayed
      obtain ⟨delta, replayed, rfl⟩ := replayed
      exact ⟨⟨index, message, finishReason⟩, delta, by simp [choiceOf, present, indexed, finished], replayed, rfl⟩
    · cases replayed
  · cases replayed

/-- The two events of every choice, in order. -/
inductive ReplayedChoices (completion : Object) : List Value → List Object → Prop where
  | nil : ReplayedChoices completion [] []
  | cons {value : Value} {choice : Choice} {delta : Object} {values : List Value} {events : List Object} :
      choiceOf value = some choice → messageDelta choice.message = .ok delta →
      ReplayedChoices completion values events →
      ReplayedChoices completion (value :: values) (chunk completion choice.index delta .null ::
        chunk completion choice.index [] (.str choice.finishReason) :: events)

theorem appendChoices_replayed {completion : Object} {maxBytes : Option Nat} {values : List Value}
    {totalBytes : Nat} {chunks : List Bytes}
    (appended : appendChoices completion maxBytes totalBytes values = .ok chunks) :
    ∃ events, ReplayedChoices completion values events ∧ List.Forall₂ Framed events chunks := by
  induction values generalizing totalBytes chunks with
  | nil =>
      cases appended
      exact ⟨[], .nil, .nil⟩
  | cons value rest ih =>
      simp only [appendChoices, bind_eq_ok, pure, Except.pure, Except.ok.injEq] at appended
      obtain ⟨events, replayed, first, framed, others, tail, rfl⟩ := appended
      obtain ⟨choice, delta, read, message, rfl⟩ := choiceEvents_eq_ok replayed
      obtain ⟨more, replayedRest, framedRest⟩ := ih tail
      exact ⟨_, .cons read message replayedRest, List.rel_append (appendEvents_framed framed) framedRest⟩

/-- What a replay that returns has sent. -/
theorem replayCompletion_eq_ok {completion : Object} {options : ReplayOptions} {maxBytes : Option Nat}
    {chunks : List Bytes} (returned : replayCompletion completion options maxBytes = .ok chunks) :
    ∃ events bodies, ReplayedChoices completion (choicesOf completion) events ∧
      List.Forall₂ Framed (events ++ usageEvents completion options) bodies ∧ chunks = bodies ++ [doneBytes] ∧
      choicesOf completion ≠ [] ∧
      (nonemptyText? (completion.get? "id")).isSome ∧ (nonemptyText? (completion.get? "model")).isSome ∧
      ∀ limit, maxBytes = some limit → chunks.flatten.length ≤ limit := by
  simp only [replayCompletion, bind_eq_ok, raiseIf_eq_ok] at returned
  obtain ⟨_, id, _, model, returned⟩ := returned
  split at returned
  · next choice rest present =>
    simp only [bind_eq_ok, raiseIf_eq_ok, pure, Except.pure, Except.ok.injEq] at returned
    obtain ⟨first, replayed, usage, sent, _, fits, rfl⟩ := returned
    obtain ⟨events, replayedChoices, framed⟩ := appendChoices_replayed replayed
    have same : choicesOf completion = choice :: rest := by rw [choicesOf, present]
    refine ⟨events, first ++ usage, same ▸ replayedChoices, List.rel_append framed (appendEvents_framed sent), rfl,
      by simp [same], by simpa using id, by simpa using model, ?_⟩
    rintro limit rfl
    have fits := of_decide_eq_false fits
    simp only [totalLength] at fits
    simp only [List.length_flatten, List.map_append, List.sum_append, List.map_cons, List.map_nil, List.sum_cons,
      List.sum_nil]
    omega
  · cases returned

/-! ## The fields of an event -/

theorem chunkBase_keys (completion : Object) :
    (chunkBase completion).keys.Sublist ["id", "object", "model", "created", "system_fingerprint", "service_tier",
      "x-shiftedx-projection-v1"] := by
  have copied : ∀ names : List Text, (Object.keys (names.filterMap fun key =>
      (completion.get? key).map fun value => (key, value))).Sublist names := by
    intro names
    induction names with
    | nil => exact .slnil
    | cons name rest ih =>
        cases found : completion.get? name with
        | none => simpa [found] using ih.cons name
        | some value => simpa [found] using ih.cons_cons name
  exact (((copied copiedKeys).cons_cons _).cons_cons _).cons_cons _

theorem chunkBase_get?_id (completion : Object) : (chunkBase completion).get? "id" = some (valueOf completion "id") :=
  rfl

theorem chunkBase_get?_model (completion : Object) :
    (chunkBase completion).get? "model" = some (valueOf completion "model") := rfl

theorem chunkBase_get?_usage (completion : Object) : (chunkBase completion).get? "usage" = none := by
  have absent : ("usage" : Text) ∉ (["id", "object", "model", "created", "system_fingerprint", "service_tier",
      "x-shiftedx-projection-v1"] : List Text) := by decide
  exact get?_eq_none_iff.mpr fun member => absent ((chunkBase_keys completion).subset member)

section
variable {py : Python} {completion : Object}

theorem valueOf_clean (clean : completion.Clean py) (key : Text) : (valueOf completion key).Clean py := by
  unfold valueOf
  cases found : completion.get? key with
  | none => trivial
  | some value => exact clean.get? found

theorem chunkBase_clean (clean : completion.Clean py) : (chunkBase completion).Clean py := by
  refine .mk ((by decide : List.Nodup _).sublist (chunkBase_keys completion)) ?_
  have copied : ∀ field ∈ copiedKeys.filterMap (fun key => (completion.get? key).map fun value => (key, value)),
      field.2.Clean py := by
    intro field member
    obtain ⟨key, _, found⟩ := List.mem_filterMap.mp member
    obtain ⟨value, present, rfl⟩ := Option.map_eq_some_iff.mp found
    exact clean.get? present
  have object : Value.Clean py (.str "chat.completion.chunk") := trivial
  exact List.forall_mem_cons.mpr ⟨valueOf_clean clean "id", List.forall_mem_cons.mpr ⟨object,
    List.forall_mem_cons.mpr ⟨valueOf_clean clean "model", copied⟩⟩⟩

theorem chunk_clean (clean : completion.Clean py) (index : Int) {delta : Object} (deltaClean : delta.Clean py)
    (reason : Value) (reasonClean : reason.Clean py) : (chunk completion index delta reason).Clean py := by
  have entry : Object.Clean py [("index", .int index), ("delta", .obj delta), ("finish_reason", reason)] := by
    have names : (["index", "delta", "finish_reason"] : List Text).Nodup := by decide
    refine .mk names ?_
    have position : Value.Clean py (.int index) := trivial
    exact List.forall_mem_cons.mpr ⟨position, List.forall_mem_cons.mpr ⟨deltaClean,
      List.forall_mem_singleton.mpr reasonClean⟩⟩
  exact (chunkBase_clean clean).assign "choices" (cleanItems_iff.mpr (List.forall_mem_singleton.mpr entry))

theorem usageEvents_clean (clean : completion.Clean py) (options : ReplayOptions) :
    ∀ event ∈ usageEvents completion options, Object.Clean py event := by
  unfold usageEvents
  split
  · next usage _ found =>
    have none : Value.Clean py (.arr []) := trivial
    exact List.forall_mem_singleton.mpr
      (((chunkBase_clean clean).assign "choices" none).assign "usage" (clean.get? found))
  · simp

theorem choiceOf_clean {value : Value} {choice : Choice} (read : choiceOf value = some choice)
    (clean : value.Clean py) : choice.message.Clean py := by
  unfold choiceOf at read
  split at read
  · split at read
    · next found _ _ =>
      cases read
      exact Object.Clean.get? clean found
    · cases read
  · cases read

theorem ReplayedChoices.clean (completionClean : completion.Clean py) {values : List Value} {events : List Object}
    (replayed : ReplayedChoices completion values events) (clean : ∀ value ∈ values, value.Clean py) :
    ∀ event ∈ events, event.Clean py := by
  induction replayed with
  | nil => simp
  | cons read computed _ ih =>
      obtain ⟨head, tail⟩ := List.forall_mem_cons.mp clean
      have deltaClean := messageDelta_clean (choiceOf_clean read head) computed
      have emptyClean : Object.Clean py [] := .mk .nil (by simp)
      exact List.forall_mem_cons.mpr ⟨chunk_clean completionClean _ deltaClean _ trivial,
        List.forall_mem_cons.mpr ⟨chunk_clean completionClean _ emptyClean _ trivial, ih tail⟩⟩

end

/-! ## The events in the bytes -/

def frameBytes (body : Text) : Bytes := (frame body).flatMap encodeChar

/-- A chunk is the frame of a text that is read as its event. -/
theorem Framed.body {py : Python} {event : Object} {chunk : Bytes} (framed : Framed event chunk)
    (clean : event.Clean py) :
    ∃ body, chunk = frameBytes body ∧ Uncontrolled body ∧ loads py body = .ok (.obj event) := by
  simp only [Framed, eventBytes, bind_eq_ok, dumpText] at framed
  obtain ⟨text, dumped, encoded⟩ := framed
  split at dumped
  · next printable =>
    cases dumped
    unfold encode at encoded
    split at encoded
    · cases encoded
      exact ⟨_, rfl, dumpsUnicode_uncontrolled _, loads_dumpsUnicode (clean.readable printable)⟩
    · cases encoded
  · cases dumped

theorem oneLine_of_uncontrolled {text : Text} (uncontrolled : Uncontrolled text) : OneLine text := by
  intro c member
  have bound := uncontrolled c member
  constructor
  · rintro rfl
    exact absurd bound (by decide)
  · rintro rfl
    exact absurd bound (by decide)

theorem frame_eq (body : Text) : frame body = (dataPrefix ++ body) ++ lineFeed :: [lineFeed] := rfl

theorem eventLines_frame {body : Text} (uncontrolled : Uncontrolled body) (rest : Text) :
    eventLines false [] (frame body ++ rest) = (dataPrefix ++ body) :: [] :: eventLines false [] rest := by
  have named : Uncontrolled dataPrefix := by decide
  have line : OneLine (dataPrefix ++ body) := oneLine_of_uncontrolled (named.append uncontrolled)
  rw [frame_eq, List.append_assoc, List.cons_append, List.cons_append, List.nil_append, eventLines_line line]
  rfl

theorem dispatch_frame (body : Text) (rest : List Text) :
    dispatch [] ((dataPrefix ++ body) :: [] :: rest) = body :: dispatch [] rest := by
  have field : eventField (dataPrefix ++ body) = (("data" : Text), body) := rfl
  have nonempty : dataPrefix ++ body = codePoint 'd' :: ("ata: " ++ body) := rfl
  have named : (eventField (dataPrefix ++ body)).1 = ("data" : Text) := by rw [field]
  have dispatched : dispatch [body] ([] :: rest) = body :: dispatch [] rest := by simp [dispatch, Text.join]
  rw [dispatch, if_pos named, field, List.nil_append, dispatched]
  rw [nonempty]
  exact List.cons_ne_nil _ _

theorem eventData_frames {bodies : List Text} (all : ∀ body ∈ bodies, Uncontrolled body) :
    eventData (bodies.map frameBytes).flatten = bodies := by
  have bytes : (bodies.map frameBytes).flatten = (bodies.flatMap frame).flatMap encodeChar := by
    induction bodies with
    | nil => rfl
    | cons body rest ih =>
        rw [List.map_cons, List.flatten_cons, ih (List.forall_mem_cons.mp all).2, List.flatMap_cons,
          List.flatMap_append]
        rfl
  have decoded : decode (bodies.map frameBytes).flatten = bodies.flatMap frame := by
    rw [bytes]
    exact decodeBytes_flatMap (Nat.le_refl _)
  rw [eventData, decoded]
  clear bytes decoded
  induction bodies with
  | nil => rfl
  | cons body rest ih =>
      obtain ⟨first, others⟩ := List.forall_mem_cons.mp all
      rw [List.flatMap_cons, eventLines_frame first, dispatch_frame, ih others]

theorem eventData_frame {body : Text} (uncontrolled : Uncontrolled body) : eventData (frameBytes body) = [body] := by
  have single := eventData_frames (List.forall_mem_singleton.mpr uncontrolled)
  simpa using single

/-- The chunks of clean events are the frames of texts that are read as them. -/
theorem framed_bodies {py : Python} {events : List Object} {chunks : List Bytes}
    (framed : List.Forall₂ Framed events chunks) (clean : ∀ event ∈ events, event.Clean py) :
    ∃ bodies, chunks = bodies.map frameBytes ∧ (∀ body ∈ bodies, Uncontrolled body) ∧
      List.Forall₂ (fun text event => loads py text = .ok (.obj event)) bodies events := by
  induction framed with
  | nil => exact ⟨[], rfl, by simp, .nil⟩
  | cons first _ ih =>
      obtain ⟨head, tail⟩ := List.forall_mem_cons.mp clean
      obtain ⟨body, rfl, uncontrolled, read⟩ := first.body head
      obtain ⟨bodies, rfl, others, reads⟩ := ih tail
      exact ⟨body :: bodies, rfl, List.forall_mem_cons.mpr ⟨uncontrolled, others⟩, .cons read reads⟩

end HarnessProxy.Streaming

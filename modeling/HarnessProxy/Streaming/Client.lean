import HarnessProxy.Json.RoundTrip
import HarnessProxy.Python.Bytes

namespace HarnessProxy.Streaming

open HarnessProxy.Json

/-! # A client of the stream

The parser of server-sent events and the accumulation of
`chat.completion.chunk` events, as the standards have them.  Nothing here is
code of the proxy.
-/

/-! ## Server-sent events -/

def lineFeed : CodePoint := chr 0x0a
def carriageReturn : CodePoint := chr 0x0d

/-- The lines that have ended; a line feed after a carriage return ends none. -/
def eventLines (afterCarriage : Bool) (current : Text) : Text → List Text
  | [] => []
  | c :: rest =>
    if c = lineFeed then
      if afterCarriage then eventLines false current rest else current :: eventLines false [] rest
    else if c = carriageReturn then current :: eventLines true [] rest
    else eventLines false (current ++ [c]) rest

/-- The name and the value of a field, without one space after the colon. -/
def eventField (line : Text) : Text × Text :=
  let value := (line.dropWhile (· ≠ codePoint ':')).tail
  (line.takeWhile (· ≠ codePoint ':'), if value.head? = some (codePoint ' ') then value.tail else value)

/-- The data of every event that an empty line has dispatched. -/
def dispatch (data : List Text) : List Text → List Text
  | [] => []
  | [] :: rest => if data = [] then dispatch [] rest else Text.join [lineFeed] data :: dispatch [] rest
  | line :: rest =>
    if (eventField line).1 = ("data" : Text) then dispatch (data ++ [(eventField line).2]) rest
    else dispatch data rest

def eventData (stream : Bytes) : List Text := dispatch [] (eventLines false [] (decode stream))

/-- The last event of every stream. -/
def done : Text := "[DONE]"

/-! ## Accumulation -/

mutual
/-- A value of a delta on top of the value that it continues. -/
def mergeValue (old : Value) : Value → Value
  | .str text => match old with
    | .str before => .str (before ++ text)
    | _ => .str text
  | .obj fields => match old with
    | .obj before => .obj (mergeFields before fields)
    | _ => .obj fields
  | value => value

def mergeFields (before : Object) : List (Text × Value) → Object
  | [] => before
  | (key, value) :: rest => mergeFields
      (before.assign key (match before.get? key with
        | some old => mergeValue old value
        | none => value)) rest
end

/-- Tool calls by their index, each with the fields that it has so far. -/
abbrev CallTable := List (Int × Object)

def CallTable.merge (index : Int) (delta : Object) : CallTable → CallTable
  | [] => [(index, delta)]
  | (other, call) :: rest =>
    if other = index then (other, mergeFields call delta) :: rest
    else (other, call) :: CallTable.merge index delta rest

def accumulateCalls (calls : CallTable) : List Value → Option CallTable
  | [] => some calls
  | .obj delta :: rest => match Object.get? delta "index" with
    | some (.int index) => accumulateCalls (calls.merge index delta) rest
    | _ => none
  | _ :: _ => none

/-- A choice while its events arrive. -/
structure ChoiceState where
  fields : Object := []
  calls : Option CallTable := none
  finishReason : Option Value := none

/-- The fields of one delta, in turn. -/
def ChoiceState.accumulate (choice : ChoiceState) : List (Text × Value) → Option ChoiceState
  | [] => some choice
  | (key, value) :: rest =>
    if key = ("tool_calls" : Text) then match value with
      | .arr deltas => match accumulateCalls (choice.calls.getD []) deltas with
        | some calls => ChoiceState.accumulate { choice with calls := some calls } rest
        | none => none
      | _ => none
    else ChoiceState.accumulate { choice with fields := mergeFields choice.fields [(key, value)] } rest

def ChoiceState.finish (choice : ChoiceState) (reason : Option Value) : ChoiceState :=
  match reason with
  | some .null | none => choice
  | some reason => { choice with finishReason := some reason }

/-- A field of the message that has been accumulated.  The index of a tool call
belongs to the stream and not to the call. -/
def ChoiceState.field (choice : ChoiceState) (key : Text) : Option Value :=
  if key = ("tool_calls" : Text) then
    choice.calls.map fun calls => .arr (calls.map fun call => .obj (Object.pop call.2 "index"))
  else choice.fields.get? key

/-- A completion while its events arrive. -/
structure CompletionState where
  id : Option Value := none
  model : Option Value := none
  choices : List (Int × ChoiceState) := []
  usage : Option Value := none

namespace CompletionState

def choice? (state : CompletionState) (index : Int) : Option ChoiceState := state.choices.lookup index

/-- Update the choice of an index, or add it at the end. -/
def updateChoice (index : Int) (next : ChoiceState) : List (Int × ChoiceState) → List (Int × ChoiceState)
  | [] => [(index, next)]
  | (other, choice) :: rest =>
    if other = index then (other, next) :: rest else (other, choice) :: updateChoice index next rest

/-- One entry of `choices` of an event. -/
def accumulateChoice (state : CompletionState) (entry : Value) : Option CompletionState :=
  match entry with
  | .obj fields => match Object.get? fields "index", Object.get? fields "delta" with
    | some (.int index), some (.obj delta) =>
      (((state.choice? index).getD {}).accumulate delta).map fun choice =>
        { state with choices := updateChoice index (choice.finish (Object.get? fields "finish_reason")) state.choices }
    | _, _ => none
  | _ => none

def accumulateChoices (state : CompletionState) : List Value → Option CompletionState
  | [] => some state
  | entry :: rest => (state.accumulateChoice entry).bind fun next => next.accumulateChoices rest

/-- One event. -/
def accumulate (state : CompletionState) (event : Object) : Option CompletionState :=
  match event.get? "choices" with
  | some (.arr entries) =>
    ({ state with
      id := state.id <|> event.get? "id"
      model := state.model <|> event.get? "model"
      usage := event.get? "usage" <|> state.usage } : CompletionState).accumulateChoices entries
  | _ => none

def accumulateAll (state : CompletionState) : List Object → Option CompletionState
  | [] => some state
  | event :: rest => (state.accumulate event).bind fun next => next.accumulateAll rest

end CompletionState

/-! ## Frames are events -/

/-- A text that is one line of an event. -/
def OneLine (text : Text) : Prop := ∀ c ∈ text, c ≠ lineFeed ∧ c ≠ carriageReturn

theorem eventLines_line {line : Text} (oneLine : OneLine line) (current rest : Text) :
    eventLines false current (line ++ lineFeed :: rest) = (current ++ line) :: eventLines false [] rest := by
  induction line generalizing current with
  | nil => simp [eventLines]
  | cons c others ih =>
      obtain ⟨notFeed, notReturn⟩ := oneLine c (by simp)
      rw [List.cons_append, eventLines, if_neg notFeed, if_neg notReturn,
        ih (fun d member => oneLine d (by simp [member])), List.append_assoc, List.singleton_append]

end HarnessProxy.Streaming

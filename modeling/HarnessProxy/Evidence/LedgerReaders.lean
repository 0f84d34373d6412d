import HarnessProxy.Evidence.ScoredLedger
import HarnessProxy.Python.Reference

namespace HarnessProxy.Evidence

open HarnessProxy.Json Data

/-! # The readers of the scored ledger

One writer and five readers agree on the rows of the file as long as no string
of a row holds a separator of `str.splitlines` that JSON leaves unescaped.
-/

section
variable {py : Python}

/-! ## Splitting the file again -/

/-- What a reader gets for the rows. -/
def readBack (rows : List (LedgerRow py)) : List Value := rows.map fun row => .obj row.canonical.fields

/-- The row as it stands in the file. -/
def LedgerRow.tree (row : LedgerRow py) : Json.Syntax := Value.tree (.obj row.canonical.fields)

theorem splitLines_ledgerText {rows : List (LedgerRow py)} (unseparated : ∀ row ∈ rows, row.Unseparated) :
    textEnds.splitLines (ledgerText rows) = rows.map LedgerRow.text := by
  refine LineEnds.splitLines_unlines fun line member => ?_
  obtain ⟨row, rowMember, rfl⟩ := List.mem_map.mp member
  exact row.solid_iff.mpr (unseparated row rowMember)

theorem loads_texts (rows : List (LedgerRow py)) :
    mapEach (loads py) (rows.map LedgerRow.text) = .ok (readBack rows) := by
  rw [mapEach_comp]
  exact mapEach_map fun row _ => row.loaded

theorem filter_texts (rows : List (LedgerRow py)) :
    (rows.map LedgerRow.text).filter (· ≠ []) = rows.map LedgerRow.text := by
  refine List.filter_eq_self.mpr fun line member => ?_
  obtain ⟨row, _, rfl⟩ := List.mem_map.mp member
  simpa using row.text_ne_nil

/-- The runner reads its rows back exactly when no string splits a line. -/
theorem readRows_iff (rows : List (LedgerRow py)) :
    readRows py (payload rows) = .ok (readBack rows) ↔ ∀ row ∈ rows, row.Unseparated := by
  rw [readRows_payload]
  constructor
  · intro read row member
    cases mapped : mapEach (loads py) ((textEnds.splitLines (ledgerText rows)).filter (· ≠ [])) with
    | error error =>
        rw [mapped] at read
        cases read
    | ok values =>
        rw [mapped] at read
        cases read
        have length := mapEach_length mapped
        have same : ((textEnds.splitLines (ledgerText rows)).filter (· ≠ [])).length =
            (rows.map LedgerRow.text).length := by
          rw [← length, readBack, List.length_map, List.length_map]
        have framed : ∀ line ∈ rows.map LedgerRow.text, LineEnds.Framed textEnds line := by
          intro line lineMember
          obtain ⟨other, _, rfl⟩ := List.mem_map.mp lineMember
          exact other.text_framed
        exact row.solid_iff.mp (LineEnds.solid_of_length framed same row.text (List.mem_map_of_mem member))
  · intro unseparated
    rw [splitLines_ledgerText unseparated, filter_texts, loads_texts]
    rfl

/-- The bytes of one line. -/
def LedgerRow.bytes (row : LedgerRow py) : Bytes := row.text.flatMap encodeChar

theorem payload_unlines (rows : List (LedgerRow py)) : payload rows = byteEnds.unlines (rows.map LedgerRow.bytes) := by
  induction rows with
  | nil => rfl
  | cons row rest ih =>
      rw [payload, ledgerText, List.map_cons, LineEnds.unlines_cons, List.flatMap_append, List.flatMap_cons,
        List.map_cons, LineEnds.unlines_cons, ← ih]
      rfl

theorem LedgerRow.bytes_solid (row : LedgerRow py) : ∀ b ∈ row.bytes, byteEnds.isEnd b = false := by
  intro b member
  obtain ⟨c, inside, encoded⟩ := List.mem_flatMap.mp member
  have printed := row.text_uncontrolled c inside
  cases ended : byteEnds.isEnd b with
  | false => rfl
  | true =>
      simp only [byteEnds, Bool.or_eq_true, decide_eq_true_eq] at ended
      rcases ended with rfl | rfl
      · have same := mem_encodeChar encoded (by decide)
        rw [← same] at printed
        exact absurd printed (by decide)
      · have same := mem_encodeChar encoded (by decide)
        rw [← same] at printed
        exact absurd printed (by decide)

/-- The readers of bytes always see one line for each row. -/
theorem splitLines_payload (rows : List (LedgerRow py)) :
    byteEnds.splitLines (payload rows) = rows.map LedgerRow.bytes := by
  rw [payload_unlines]
  refine LineEnds.splitLines_unlines fun line member => ?_
  obtain ⟨row, _, rfl⟩ := List.mem_map.mp member
  exact row.bytes_solid

/-! ## Rows read for the evidence -/

theorem uniqueTrees_eq (items : List Json.Syntax) : uniqueTrees items = items.all uniqueTree := by
  induction items with
  | nil => rfl
  | cons item rest ih => rw [uniqueTrees, ih, List.all_cons]

theorem uniqueMembers_eq (members : List (Text × Json.Syntax)) :
    uniqueMembers members = members.all fun member => uniqueTree member.2 := by
  induction members with
  | nil => rfl
  | cons member rest ih => rw [uniqueMembers, ih, List.all_cons]

/-- A clean value has a tree that repeats no key. -/
theorem uniqueTree_tree {value : Value} (clean : value.Clean py) : uniqueTree value.tree = true := by
  induction value using Value.induction with
  | null | bool | int | str => rfl
  | float f => cases f <;> rfl
  | arr items ih =>
      have all := cleanItems_iff.mp clean
      rw [Value.tree, uniqueTree, uniqueTrees_eq]
      induction items with
      | nil => rfl
      | cons item rest tail =>
          obtain ⟨head, others⟩ := List.forall_mem_cons.mp all
          rw [treeItems, List.all_cons, ih item List.mem_cons_self head,
            tail (fun other member => ih other (List.mem_cons_of_mem _ member)) clean.2 others]
          rfl
  | obj fields ih =>
      have all := cleanFields_iff.mp clean.2
      have keys : (treeFields fields).map Prod.fst = Object.keys fields := by
        rw [treeFields_eq, List.map_map]
        rfl
      rw [Value.tree, uniqueTree, uniqueMembers_eq, keys, decide_eq_true clean.1, Bool.true_and, treeFields_eq]
      refine List.all_eq_true.mpr fun member inside => ?_
      obtain ⟨field, fieldMember, rfl⟩ := List.mem_map.mp inside
      exact ih field fieldMember (all field fieldMember)

/-- Bytes without zeros that begin with a brace are UTF-8. -/
theorem detectEncoding_brace {bytes : Bytes} (nonzero : ∀ b ∈ bytes, b ≠ 0) :
    detectEncoding (0x7b :: bytes) = .utf8 := by
  have unmarked {first : UInt8} {mark : Bytes} (different : first ≠ 0x7b) :
      startsWith (first :: mark) (0x7b :: bytes) = false := by
    simp [startsWith, different.symm]
  have brace : ¬ ((0x7b : UInt8) = 0) := by decide
  simp only [detectEncoding, unmarked (by decide : (0x00 : UInt8) ≠ 0x7b), unmarked (by decide : (0xff : UInt8) ≠ 0x7b),
    unmarked (by decide : (0xfe : UInt8) ≠ 0x7b), unmarked (by decide : (0xef : UInt8) ≠ 0x7b), Bool.or_self,
    Bool.false_eq_true, if_false]
  match bytes, nonzero with
  | [], _ => rfl
  | [b], nonzero =>
      dsimp only
      rw [if_neg brace, if_neg (nonzero b List.mem_cons_self)]
  | [_, _], _ => rfl
  | b :: _ :: _ :: _, nonzero =>
      dsimp only
      rw [if_neg brace, if_neg (nonzero b List.mem_cons_self)]

namespace LedgerRow

variable (row : LedgerRow py)

theorem uniqueRow_text : uniqueRow row.text = some row.tree := by
  have parsed : parseDocument row.text = .ok row.tree := by
    rw [text_eq]
    exact parseDocument_dumpsUnicode (Value.Clean.readable row.canonical.clean row.canonical.printable)
  have unique := uniqueTree_tree row.canonical.clean
  rw [uniqueRow, parsed]
  exact if_pos unique

theorem bytes_brace : ∃ rest, row.bytes = 0x7b :: rest := ⟨_, rfl⟩

theorem bytes_ne_nil : row.bytes ≠ [] := by
  obtain ⟨rest, shape⟩ := row.bytes_brace
  rw [shape]
  exact List.cons_ne_nil _ _

theorem jsonText_bytes (wide : JsonEncoding → Bytes → Option Text) : jsonText wide row.bytes = some row.text := by
  have nonzero : ∀ b ∈ row.bytes, b ≠ 0 := by
    rintro b member rfl
    obtain ⟨c, inside, encoded⟩ := List.mem_flatMap.mp member
    have printed := row.text_uncontrolled c inside
    have same := mem_encodeChar encoded (by decide)
    rw [← same] at printed
    exact absurd printed (by decide)
  obtain ⟨rest, shape⟩ := row.bytes_brace
  have detected : detectEncoding row.bytes = .utf8 := by
    rw [shape] at nonzero ⊢
    exact detectEncoding_brace (List.forall_mem_cons.mp nonzero).2
  rw [jsonText, detected]
  exact decodeStrict_flatMap true row.text_scalar

theorem tree_value : row.tree.value py = .obj row.canonical.fields :=
  (Value.Clean.readable row.canonical.clean row.canonical.printable).tree_value

end LedgerRow

/-! ## What all readers have to agree on -/

theorem mapM_some {α β : Type} {function : α → Option β} {result : α → β} {items : List α}
    (each : ∀ item ∈ items, function item = some (result item)) : items.mapM function = some (items.map result) := by
  induction items with
  | nil => rfl
  | cons item rest ih =>
      obtain ⟨head, tail⟩ := List.forall_mem_cons.mp each
      rw [List.mapM_cons, head, ih tail]
      rfl

/-- Every reader sees the rows of the file, in order and unsplit. -/
structure Agrees (sha256 : Bytes → Text) (wide : JsonEncoding → Bytes → Option Text) (output : Bytes)
    (rows : List (LedgerRow py)) : Prop where
  read : readRows py output = .ok (readBack rows)
  split : ∃ trees, byteRows wide output = some trees ∧ textRows output = some trees ∧
    trees.map (Json.Syntax.value py) = readBack rows
  counted : outputLedgerEvidence sha256 wide output = .ok (sha256 output, rows.length)
  matched : rows ≠ [] → outcomeLedgerMatches output rows.length = true

variable {sha256 : Bytes → Text} {wide : JsonEncoding → Bytes → Option Text}

theorem byteRows_payload (rows : List (LedgerRow py)) :
    byteRows wide (payload rows) = some (rows.map LedgerRow.tree) := by
  have each : ∀ row ∈ rows, (if row.bytes = [] then none else (jsonText wide row.bytes).bind uniqueRow) =
      some row.tree := by
    intro row _
    rw [if_neg row.bytes_ne_nil, row.jsonText_bytes, Option.bind_some, row.uniqueRow_text]
  rw [byteRows, splitLines_payload, List.mapM_map]
  exact mapM_some each

theorem textRows_payload {rows : List (LedgerRow py)} (unseparated : ∀ row ∈ rows, row.Unseparated) :
    textRows (payload rows) = some (rows.map LedgerRow.tree) := by
  have each : ∀ row ∈ rows, (if row.text = [] then none else uniqueRow row.text) = some row.tree := by
    intro row _
    rw [if_neg row.text_ne_nil, row.uniqueRow_text]
  rw [textRows, payload, decodeStrict_flatMap false (ledgerText_scalar rows), Option.bind_some,
    splitLines_ledgerText unseparated, List.mapM_map]
  exact mapM_some each

theorem payload_last {rows : List (LedgerRow py)} (nonempty : rows ≠ []) :
    (payload rows).getLast? = some byteEnds.lineFeed := by
  rw [payload_unlines]
  exact byteEnds.getLast?_unlines fun empty => nonempty (List.map_eq_nil_iff.mp empty)

theorem agrees_iff (rows : List (LedgerRow py)) :
    Agrees sha256 wide (payload rows) rows ↔ ∀ row ∈ rows, row.Unseparated := by
  refine ⟨fun agrees => (readRows_iff rows).mp agrees.read, fun unseparated => ?_⟩
  have values : (rows.map LedgerRow.tree).map (Json.Syntax.value py) = readBack rows := by
    rw [List.map_map]
    exact List.map_congr_left fun row _ => row.tree_value
  refine ⟨(readRows_iff rows).mpr unseparated, ⟨_, byteRows_payload rows, textRows_payload unseparated, values⟩, ?_,
    fun nonempty => ?_⟩
  · have ended : ¬ (payload rows ≠ [] ∧ (payload rows).getLast? ≠ some byteEnds.lineFeed) := by
      rintro ⟨written, unended⟩
      exact unended (payload_last fun empty => written (by rw [empty]; rfl))
    rw [outputLedgerEvidence, if_neg ended, byteRows_payload]
    simp
  · have lines : ∀ line ∈ rows.map LedgerRow.bytes, line ≠ [] := by
      intro line member
      obtain ⟨row, _, rfl⟩ := List.mem_map.mp member
      exact row.bytes_ne_nil
    simp only [outcomeLedgerMatches, payload_last nonempty, splitLines_payload, List.length_map, Bool.and_eq_true,
      decide_eq_true_eq, List.all_eq_true]
    exact ⟨⟨trivial, trivial⟩, lines⟩

/-! ## Sequences of appends and annotations -/

/-- The row with the evidence of the client attached. -/
def LedgerRow.annotate (row fingerprints : LedgerRow py) : LedgerRow py where
  fields := (row.fields.assign "scored" (.bool true)).assign "contract_fingerprints" (.obj fingerprints.fields)
  clean :=
    have flag : Value.Clean py (.bool true) := trivial
    have flagged : Object.Clean py (row.fields.assign "scored" (.bool true)) := row.clean.assign "scored" flag
    flagged.assign "contract_fingerprints" fingerprints.clean
  printable := printable_assign (printable_assign row.printable "scored" rfl) "contract_fingerprints"
    fingerprints.printable
  scalar c found := by
    have keys : c ∉ ("scored" : Text) ++ ("contract_fingerprints" : Text) ∨ Text.isSurrogate c = false := by
      by_cases wide : Wide c
      · exact .inl (wide.not_mem (by decide))
      · exact .inr (isSurrogate_of_not_wide wide)
    rcases keys with other | scalar
    · rw [List.mem_append, not_or] at other
      rcases contains_assign found with flagged | key | added
      · rcases contains_assign flagged with inside | key | added
        · exact row.scalar c inside
        · exact absurd key other.1
        · cases added
      · exact absurd key other.2
      · exact fingerprints.scalar c added
    · exact scalar

/-- A change of the ledger. -/
inductive LedgerChange (py : Python) where
  | append (row : LedgerRow py)
  | annotate (fingerprints : LedgerRow py) (caseIds : List Text)

/-- What the change writes. -/
def LedgerChange.run (equal : Value → Value → Bool) (output : Option Bytes) :
    LedgerChange py → Except LedgerError Bytes
  | .append row => appendFailure py equal output row.fields
  | .annotate fingerprints caseIds => annotateScoredRows py output fingerprints.fields caseIds

/-- The file after a change; one that raises leaves the file alone. -/
def LedgerChange.after (equal : Value → Value → Bool) (output : Option Bytes) (change : LedgerChange py) :
    Option Bytes :=
  match change.run equal output with
  | .ok written => some written
  | .error _ => output

/-- The rows that the change is for. -/
def LedgerChange.rowsAfter (equal : Value → Value → Bool) (rows : List (LedgerRow py)) :
    LedgerChange py → List (LedgerRow py)
  | .append row => (rows.map LedgerRow.canonical).filter
      (fun item => !equal (caseId item.fields) (caseId row.fields)) ++ [row]
  | .annotate fingerprints caseIds =>
    -- a case id that is an array or an object cannot be looked up
    if ∀ row ∈ rows, ((caseId row.canonical.fields).memberOf caseIds).toBool = true then
      rows.map fun row =>
        if (caseId row.canonical.fields).memberOf caseIds = .ok true then row.canonical.annotate fingerprints
        else row.canonical
    else rows

/-- All readers agree after every change. -/
def AgreesThroughout (sha256 : Bytes → Text) (wide : JsonEncoding → Bytes → Option Text)
    (equal : Value → Value → Bool) (output : Option Bytes) (rows : List (LedgerRow py)) :
    List (LedgerChange py) → Prop
  | [] => ∃ bytes, output = some bytes ∧ Agrees sha256 wide bytes rows
  | change :: rest => (∃ bytes, output = some bytes ∧ Agrees sha256 wide bytes rows) ∧
      AgreesThroughout sha256 wide equal (change.after equal output) (change.rowsAfter equal rows) rest

/-- No row of the ledger ever holds a line separator. -/
def UnseparatedThroughout (equal : Value → Value → Bool) (rows : List (LedgerRow py)) :
    List (LedgerChange py) → Prop
  | [] => ∀ row ∈ rows, row.Unseparated
  | change :: rest => (∀ row ∈ rows, row.Unseparated) ∧
      UnseparatedThroughout equal (change.rowsAfter equal rows) rest

variable {equal : Value → Value → Bool}

theorem rows_read (rows : List (LedgerRow py)) :
    mapEach asRow (readBack rows) = .ok (rows.map fun row => row.canonical.fields) := by
  rw [readBack, mapEach_comp]
  exact mapEach_map fun _ _ => rfl

theorem after_append {rows : List (LedgerRow py)} (unseparated : ∀ row ∈ rows, row.Unseparated) (row : LedgerRow py) :
    (LedgerChange.append row).after equal (some (payload rows)) =
      some (payload ((LedgerChange.append row).rowsAfter equal rows)) := by
  have kept : (rows.map fun row => row.canonical.fields).filter
        (fun item => !equal (caseId item) (caseId row.fields)) ++ [row.fields] =
      ((LedgerChange.append row).rowsAfter equal rows).map LedgerRow.fields := by
    rw [LedgerChange.rowsAfter, List.map_append, List.filter_map, List.filter_map, List.map_map]
    rfl
  simp only [LedgerChange.after, LedgerChange.run, appendFailure, (readRows_iff rows).mpr unseparated, bind, Except.bind]
  rw [rows_read]
  dsimp only
  rw [kept, atomicReplaceJsonl_payload]
  rfl

theorem annotateRow_eq {fingerprints row : LedgerRow py} {caseIds : List Text}
    (hashable : ((caseId row.fields).memberOf caseIds).toBool = true) :
    annotateRow fingerprints.fields caseIds row.fields =
      .ok (if (caseId row.fields).memberOf caseIds = .ok true then row.annotate fingerprints else row).fields := by
  unfold annotateRow
  cases looked : (caseId row.fields).memberOf caseIds with
  | error error =>
      rw [looked] at hashable
      cases hashable
  | ok member => cases member <;> rfl

theorem after_annotate {rows : List (LedgerRow py)} (unseparated : ∀ row ∈ rows, row.Unseparated)
    (fingerprints : LedgerRow py) (caseIds : List Text) :
    (LedgerChange.annotate fingerprints caseIds).after equal (some (payload rows)) =
      some (payload ((LedgerChange.annotate fingerprints caseIds).rowsAfter equal rows)) := by
  simp only [LedgerChange.after, LedgerChange.run, annotateScoredRows, (readRows_iff rows).mpr unseparated, bind,
    Except.bind]
  rw [rows_read]
  dsimp only
  by_cases hashable : ∀ row ∈ rows, ((caseId row.canonical.fields).memberOf caseIds).toBool = true
  · have annotated : mapEach (annotateRow fingerprints.fields caseIds) (rows.map fun row => row.canonical.fields) =
        .ok (((LedgerChange.annotate fingerprints caseIds).rowsAfter equal rows).map LedgerRow.fields) := by
      rw [LedgerChange.rowsAfter, if_pos hashable, List.map_map, mapEach_comp]
      exact mapEach_map fun row member => annotateRow_eq (hashable row member)
    rw [annotated]
    dsimp only [liftError]
    rw [atomicReplaceJsonl_payload]
  · have unchanged : (LedgerChange.annotate fingerprints caseIds).rowsAfter equal rows = rows := if_neg hashable
    push Not at hashable
    obtain ⟨row, member, unhashable⟩ := hashable
    have raises : (annotateRow fingerprints.fields caseIds row.canonical.fields).toBool = false := by
      unfold annotateRow
      cases looked : (caseId row.canonical.fields).memberOf caseIds with
      | error error => rfl
      | ok found => exact absurd (by rw [looked]; rfl) unhashable
    obtain ⟨error, raised⟩ := mapEach_error (List.mem_map_of_mem (f := fun row => row.canonical.fields) member) raises
    rw [raised, unchanged]
    rfl

/-- A change of a file that can be read back is the change of its rows. -/
theorem LedgerChange.after_payload {rows : List (LedgerRow py)} (unseparated : ∀ row ∈ rows, row.Unseparated)
    (change : LedgerChange py) :
    change.after equal (some (payload rows)) = some (payload (change.rowsAfter equal rows)) := by
  cases change with
  | append row => exact after_append unseparated row
  | annotate fingerprints caseIds => exact after_annotate unseparated fingerprints caseIds

theorem agrees_payload_iff (rows : List (LedgerRow py)) :
    (∃ bytes, some (payload rows) = some bytes ∧ Agrees sha256 wide bytes rows) ↔ ∀ row ∈ rows, row.Unseparated := by
  rw [← @agrees_iff py sha256 wide]
  exact ⟨fun ⟨_, same, agrees⟩ => Option.some.inj same ▸ agrees, fun agrees => ⟨_, rfl, agrees⟩⟩

theorem agreesThroughout_iff (rows : List (LedgerRow py)) (changes : List (LedgerChange py)) :
    AgreesThroughout sha256 wide equal (some (payload rows)) rows changes ↔ UnseparatedThroughout equal rows changes := by
  induction changes generalizing rows with
  | nil => exact agrees_payload_iff rows
  | cons change rest ih =>
      rw [AgreesThroughout, UnseparatedThroughout, agrees_payload_iff]
      refine and_congr_right fun unseparated => ?_
      rw [change.after_payload unseparated, ih]

end

/-- A row with U+2028 in the text of the model. -/
def separatedRow : Object := [("case_id", .str "a"), ("response", .str ("left" ++ [chr 0x2028] ++ "right"))]

end HarnessProxy.Evidence

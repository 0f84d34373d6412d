import HarnessProxy.Json.Canonical
import HarnessProxy.Python.Files

namespace HarnessProxy.Evidence

open HarnessProxy.Json Data

/-! # The scored ledger

One JSON object on each line.  The runner rewrites the whole file for every
change; the supervisor and the campaign read it again.
-/

/-- Why a writer of the ledger gives up. -/
inductive LedgerError where
  | fileNotFound
  | unicodeDecodeError
  | attributeError
  | python (error : PyError)
deriving DecidableEq

def liftError {α : Type} : Except PyError α → Except LedgerError α
  | .ok value => .ok value
  | .error error => .error (.python error)

/-! ## The runner -/

/-- `_atomic_replace_jsonl`: the bytes that replace the file. -/
def atomicReplaceJsonl (rows : List Object) : Except PyError Bytes := do
  let texts ← mapEach (fun row => dumpText true (.obj row)) rows
  encode (textEnds.unlines texts)

/-- `[json.loads(line) for line in output.read_text(encoding="utf-8").splitlines() if line]` -/
def readRows (py : Python) (bytes : Bytes) : Except LedgerError (List Value) :=
  match decodeStrict false bytes with
  | none => .error .unicodeDecodeError
  | some text => liftError
      (mapEach (loads py) ((textEnds.splitLines (universalNewlines false text)).filter (· ≠ [])))

/-- `item.get`, which only an object has. -/
def asRow : Value → Except LedgerError Object
  | .obj fields => .ok fields
  | _ => .error .attributeError

def caseId (row : Object) : Value := (row.get? "case_id").getD .null

/-- `append_failure`; `equal` is Python's `==` on JSON values. -/
def appendFailure (py : Python) (equal : Value → Value → Bool) (output : Option Bytes) (row : Object) :
    Except LedgerError Bytes := do
  let values ← match output with
    | none => .ok []
    | some bytes => readRows py bytes
  let rows ← mapEach asRow values
  liftError (atomicReplaceJsonl (rows.filter (fun item => !equal (caseId item) (caseId row)) ++ [row]))

/-- One turn of the loop of `annotate_scored_rows`. -/
def annotateRow (fingerprints : Object) (caseIds : List Text) (row : Object) : Except PyError Object := do
  let member ← (caseId row).memberOf caseIds
  if member then return (row.assign "scored" (.bool true)).assign "contract_fingerprints" (.obj fingerprints)
  else return row

/-- `annotate_scored_rows` -/
def annotateScoredRows (py : Python) (output : Option Bytes) (fingerprints : Object) (caseIds : List Text) :
    Except LedgerError Bytes := do
  let values ← match output with
    | none => .error .fileNotFound
    | some bytes => readRows py bytes
  let rows ← mapEach asRow values
  let annotated ← liftError (mapEach (annotateRow fingerprints caseIds) rows)
  liftError (atomicReplaceJsonl annotated)

/-! ## The readers of the evidence -/

mutual
/-- No object of the text repeats a key, as `_unique_object` demands. -/
def uniqueTree : Json.Syntax → Bool
  | .arr items => uniqueTrees items
  | .obj members => decide (members.map Prod.fst).Nodup && uniqueMembers members
  | _ => true

def uniqueTrees : List Json.Syntax → Bool
  | [] => true
  | item :: rest => uniqueTree item && uniqueTrees rest

def uniqueMembers : List (Text × Json.Syntax) → Bool
  | [] => true
  | (_, tree) :: rest => uniqueTree tree && uniqueMembers rest
end

/-- A row as it stands in the text, before its numbers are converted. -/
def uniqueRow (text : Text) : Option Json.Syntax :=
  match parseDocument text with
  | .ok (.obj members) => if uniqueTree (.obj members) then some (.obj members) else none
  | _ => none

/-- The encodings that `json.loads` tells apart. -/
inductive JsonEncoding where
  | utf8
  | utf8Sig
  | utf16
  | utf16BE
  | utf16LE
  | utf32
  | utf32BE
  | utf32LE
deriving DecidableEq

def startsWith (mark bytes : Bytes) : Bool := bytes.take mark.length = mark

/-- `json.detect_encoding` -/
def detectEncoding (bytes : Bytes) : JsonEncoding :=
  if startsWith [0x00, 0x00, 0xfe, 0xff] bytes || startsWith [0xff, 0xfe, 0x00, 0x00] bytes then .utf32
  else if startsWith [0xfe, 0xff] bytes || startsWith [0xff, 0xfe] bytes then .utf16
  else if startsWith [0xef, 0xbb, 0xbf] bytes then .utf8Sig
  else match bytes with
    | a :: b :: c :: d :: _ =>
      if a = 0 then if b ≠ 0 then .utf16BE else .utf32BE
      else if b = 0 then if c ≠ 0 ∨ d ≠ 0 then .utf16LE else .utf32LE
      else .utf8
    | [a, b] => if a = 0 then .utf16BE else if b = 0 then .utf16LE else .utf8
    | _ => .utf8

/-- The text that `json.loads` reads from bytes.  The wide encodings are the
interpreter's. -/
def jsonText (wide : JsonEncoding → Bytes → Option Text) (bytes : Bytes) : Option Text :=
  match detectEncoding bytes with
  | .utf8 => decodeStrict true bytes
  | other => wide other bytes

/-- The loop of `_output_ledger_evidence` over the lines of the bytes. -/
def byteRows (wide : JsonEncoding → Bytes → Option Text) (serialized : Bytes) : Option (List Json.Syntax) :=
  (byteEnds.splitLines serialized).mapM fun line =>
    if line = [] then none else (jsonText wide line).bind uniqueRow

/-- `_output_ledger_evidence`: the digest and the number of rows. -/
def outputLedgerEvidence (sha256 : Bytes → Text) (wide : JsonEncoding → Bytes → Option Text) (serialized : Bytes) :
    Except Text (Text × Nat) :=
  if serialized ≠ [] ∧ serialized.getLast? ≠ some byteEnds.lineFeed then .error "runtime_output_ledger_invalid"
  else match byteRows wide serialized with
    | none => .error "runtime_output_ledger_invalid"
    | some rows => .ok (sha256 serialized, rows.length)

/-- What `load_runtime_outcome` asks of the bytes of the ledger. -/
def outcomeLedgerMatches (outputBytes : Bytes) (expectedRecordCount : Nat) : Bool :=
  outputBytes.getLast? = some byteEnds.lineFeed &&
    (byteEnds.splitLines outputBytes).length = expectedRecordCount &&
    (byteEnds.splitLines outputBytes).all (· ≠ [])

/-- The loop of `_policy_benefit_rows` and `_authenticated_rows` over the lines
of the decoded text. -/
def textRows (serialized : Bytes) : Option (List Json.Syntax) :=
  (decodeStrict false serialized).bind fun text =>
    (textEnds.splitLines text).mapM fun line => if line = [] then none else uniqueRow line

/-! ## Rows -/

/-- A row that can be written: a JSON object whose integers can be printed and
whose strings can be encoded. -/
structure LedgerRow (py : Python) where
  fields : Object
  clean : fields.Clean py
  printable : (Value.obj fields).printable = true
  scalar : ∀ c, (Value.obj fields).Contains c → Text.isSurrogate c = false

/-- `\x85`, `\u2028` and `\u2029` end a line for `str.splitlines` and are not
escaped by `json.dumps`. -/
def IsSeparator (c : CodePoint) : Prop := c.val = 0x85 ∨ c.val = 0x2028 ∨ c.val = 0x2029

instance : DecidablePred IsSeparator := fun _ => inferInstanceAs (Decidable (_ ∨ _))

section
variable {py : Python}

theorem isSurrogate_of_not_wide {c : CodePoint} (ascii : ¬ Wide c) : Text.isSurrogate c = false := by
  unfold Wide at ascii
  simp only [Text.isSurrogate, Bool.and_eq_false_iff, decide_eq_false_iff_not]
  omega

namespace LedgerRow

/-- The line of a row. -/
def text (row : LedgerRow py) : Text := dumpsUnicode true (.obj row.fields)

/-- The row as it is read back. -/
def canonical (row : LedgerRow py) : LedgerRow py where
  fields := row.fields.canonical
  clean := Value.Clean.canonical row.clean
  printable := Value.printable_canonical row.printable
  scalar _ found := row.scalar _ (Value.contains_canonical.mp found)

/-- No string of the row holds a line separator. -/
def Unseparated (row : LedgerRow py) : Prop := ∀ c, IsSeparator c → ¬ (Value.obj row.fields).Contains c

variable (row : LedgerRow py)

theorem dumped : dumpText true (.obj row.fields) = .ok row.text := if_pos row.printable

theorem loaded : loads py row.text = .ok (.obj row.canonical.fields) := loads_dumpsUnicode_sorted row.clean row.printable

theorem text_eq : row.text = dumpsUnicode false (.obj row.canonical.fields) := dumpsUnicode_canonical _

theorem mem_text {c : CodePoint} (wide : Wide c) : c ∈ row.text ↔ (Value.obj row.fields).Contains c := by
  have same : (Value.canonical (.obj row.fields)).Contains c ↔ (Value.obj row.fields).Contains c :=
    Value.contains_canonical
  rw [text_eq, mem_dumpsUnicode wide]
  exact same

theorem text_uncontrolled : Uncontrolled row.text := by
  rw [text_eq]
  exact dumpsUnicode_uncontrolled _

theorem text_scalar : ∀ c ∈ row.text, Text.isSurrogate c = false := by
  intro c member
  by_cases wide : Wide c
  · exact row.scalar c ((row.mem_text wide).mp member)
  · exact isSurrogate_of_not_wide wide

/-- The only line ends in the line of a row are separators in its strings. -/
theorem solid_iff : (∀ c ∈ row.text, textEnds.isEnd c = false) ↔ row.Unseparated := by
  constructor
  · intro solid c separator found
    have wide : Wide c := by
      unfold Wide
      rcases separator with same | same | same <;> omega
    have ended : textEnds.isEnd c = true := by
      rcases separator with same | same | same <;> simp [textEnds, same]
    rw [solid c ((row.mem_text wide).mpr found)] at ended
    cases ended
  · intro unseparated c member
    have printed := row.text_uncontrolled c member
    cases ended : textEnds.isEnd c with
    | false => rfl
    | true =>
        simp only [textEnds, Bool.or_eq_true, Bool.and_eq_true, decide_eq_true_eq] at ended
        have separator : IsSeparator c := by
          unfold IsSeparator
          omega
        have wide : Wide c := by
          unfold Wide
          rcases separator with same | same | same <;> omega
        exact absurd ((row.mem_text wide).mp member) (unseparated c separator)

theorem text_framed : LineEnds.Framed textEnds row.text where
  head := ⟨_, _, rfl, by decide⟩
  last := ⟨_, _, (List.cons_append ..).symm, by decide⟩

theorem text_ne_nil : row.text ≠ [] := List.cons_ne_nil _ _

end LedgerRow

/-! ## The file after a write -/

/-- The text of the file. -/
def ledgerText (rows : List (LedgerRow py)) : Text := textEnds.unlines (rows.map LedgerRow.text)

/-- The bytes of the file. -/
def payload (rows : List (LedgerRow py)) : Bytes := (ledgerText rows).flatMap encodeChar

theorem ledgerText_all {rows : List (LedgerRow py)} {p : CodePoint → Prop} (feed : p lineFeed)
    (each : ∀ row ∈ rows, ∀ c ∈ row.text, p c) : ∀ c ∈ ledgerText rows, p c := by
  intro c member
  obtain ⟨line, lineMember, member⟩ := List.mem_flatMap.mp member
  obtain ⟨row, rowMember, rfl⟩ := List.mem_map.mp lineMember
  rcases List.mem_append.mp member with inside | last
  · exact each row rowMember c inside
  · exact List.mem_singleton.mp last ▸ feed

theorem ledgerText_scalar (rows : List (LedgerRow py)) : ∀ c ∈ ledgerText rows, Text.isSurrogate c = false :=
  ledgerText_all (by decide) fun row _ => row.text_scalar

theorem atomicReplaceJsonl_payload (rows : List (LedgerRow py)) :
    atomicReplaceJsonl (rows.map LedgerRow.fields) = .ok (payload rows) := by
  have texts : mapEach (fun row => dumpText true (.obj row)) (rows.map LedgerRow.fields) =
      .ok (rows.map LedgerRow.text) := by
    rw [mapEach_comp]
    exact mapEach_map fun row _ => row.dumped
  have encodable : Text.encodable (ledgerText rows) = true := by
    refine List.all_eq_true.mpr fun c member => ?_
    rw [ledgerText_scalar rows c member]
    rfl
  rw [atomicReplaceJsonl, texts]
  exact if_pos encodable

/-- A reader in text mode sees the text that was written. -/
theorem ledgerText_newlines (rows : List (LedgerRow py)) :
    universalNewlines false (ledgerText rows) = ledgerText rows := by
  refine universalNewlines_id fun member => ?_
  refine ledgerText_all (p := fun c => c ≠ carriageReturn) (by decide) (fun row _ c inside => ?_) _ member rfl
  rintro rfl
  exact absurd (row.text_uncontrolled _ inside) (by decide)

theorem readRows_payload (rows : List (LedgerRow py)) : readRows py (payload rows) =
    liftError (mapEach (loads py) ((textEnds.splitLines (ledgerText rows)).filter (· ≠ []))) := by
  rw [readRows, payload, decodeStrict_flatMap false (ledgerText_scalar rows)]
  dsimp only
  rw [ledgerText_newlines]

end

end HarnessProxy.Evidence

import HarnessProxy.Evidence.LedgerReaders
import HarnessProxy.Json.Equal
import HarnessProxy.Json.Size

namespace HarnessProxy.Evidence

open HarnessProxy.Json Data

/-! # Documents in files of their own

A document is written as one line of ASCII text and read back with the checks
of `_unique_object`.
-/

/-- `json.dumps(document, sort_keys=True, separators=(",", ":")) + "\n"` -/
def fileText (document : Object) : Text := dumps true (.obj document) ++ [lineFeed]

/-- The bytes of a document in a file. -/
def fileBytes (document : Object) : Except PyError Bytes :=
  if (Value.obj document).printable then encode (fileText document) else .error digitLimitError

/-- `json.loads(text, object_pairs_hook=_unique_object)`; `none` stands for the
errors that every caller catches. -/
def loadUniqueText (py : Python) (text : Text) : Option Value :=
  match parseDocument text with
  | .ok tree => if uniqueTree tree then some (tree.value py) else none
  | .error _ => none

/-- `json.loads(serialized, object_pairs_hook=_unique_object)` -/
def loadUnique (py : Python) (wide : JsonEncoding → Bytes → Option Text) (serialized : Bytes) : Option Value :=
  (jsonText wide serialized).bind (loadUniqueText py)

/-- A document that is read back as it was written. -/
structure AsciiDocument (py : Python) where
  fields : Object
  clean : fields.Clean py
  printable : (Value.obj fields).printable = true
  ascii : (Value.obj fields).Ascii

namespace AsciiDocument

variable {py : Python} (document : AsciiDocument py)

/-- The document as a row of a ledger. -/
def row : LedgerRow py where
  fields := document.fields
  clean := document.clean
  printable := document.printable
  scalar c found := isSurrogate_of_not_wide (by have ascii := document.ascii c found; unfold Wide; omega)

def bytes : Bytes := (document.row.text ++ [lineFeed]).flatMap encodeChar

theorem fileText_eq : fileText document.fields = document.row.text ++ [lineFeed] := by
  rw [fileText, dumps_ascii true document.ascii]
  rfl

theorem text_scalar : ∀ c ∈ document.row.text ++ [lineFeed], Text.isSurrogate c = false := by
  intro c member
  rcases List.mem_append.mp member with inside | last
  · exact document.row.text_scalar c inside
  · rw [List.mem_singleton.mp last]
    decide

theorem fileBytes_eq : fileBytes document.fields = .ok document.bytes := by
  have encodable : Text.encodable (document.row.text ++ [lineFeed]) = true := by
    refine List.all_eq_true.mpr fun c member => ?_
    rw [document.text_scalar c member]
    rfl
  rw [fileBytes, if_pos document.printable, fileText_eq]
  exact if_pos encodable

theorem jsonText_bytes (wide : JsonEncoding → Bytes → Option Text) :
    jsonText wide document.bytes = some (document.row.text ++ [lineFeed]) := by
  have nonzero : ∀ b ∈ document.bytes, b ≠ 0 := by
    rintro b member rfl
    obtain ⟨c, inside, encoded⟩ := List.mem_flatMap.mp member
    have same := mem_encodeChar encoded (by decide)
    rcases List.mem_append.mp inside with printed | last
    · have large := document.row.text_uncontrolled c printed
      rw [← same] at large
      exact absurd large (by decide)
    · rw [List.mem_singleton.mp last] at same
      exact absurd same (by decide)
  have shape : ∃ rest, document.bytes = 0x7b :: rest := ⟨_, rfl⟩
  obtain ⟨rest, shape⟩ := shape
  have detected : detectEncoding document.bytes = .utf8 := by
    rw [shape] at nonzero ⊢
    exact detectEncoding_brace (List.forall_mem_cons.mp nonzero).2
  rw [jsonText, detected]
  exact decodeStrict_flatMap true document.text_scalar

theorem parseDocument_line : parseDocument (document.row.text ++ [lineFeed]) = .ok document.row.tree := by
  have readable := Value.Clean.readable document.row.canonical.clean document.row.canonical.printable
  have all := readableFields_iff.mp readable.2
  have parsed := parseValue_obj document.row.canonical.fields (fun field member => (all field member).reads)
    (parseFuel (document.row.text ++ [lineFeed])) [lineFeed] (by
      rw [← LedgerRow.text_eq, parseFuel, List.length_append]
      omega)
  rw [← LedgerRow.text_eq] at parsed
  have skipped : skipSpace (document.row.text ++ [lineFeed]) = document.row.text ++ [lineFeed] :=
    skipSpace_cons (by decide)
  rw [parseDocument, skipped, parsed]
  rfl

/-- What is written is read back, with the members in order. -/
theorem loadUnique_bytes (wide : JsonEncoding → Bytes → Option Text) :
    loadUnique py wide document.bytes = some (.obj document.fields.canonical) := by
  have unique := uniqueTree_tree document.row.canonical.clean
  rw [loadUnique, jsonText_bytes]
  change loadUniqueText py (document.row.text ++ [lineFeed]) = _
  rw [loadUniqueText, parseDocument_line]
  exact (if_pos unique).trans (congrArg some document.row.tree_value)

/-- The same without the end of the line. -/
theorem loadUnique_line (wide : JsonEncoding → Bytes → Option Text) :
    loadUnique py wide document.row.bytes = some (.obj document.fields.canonical) := by
  have readable := Value.Clean.readable document.row.canonical.clean document.row.canonical.printable
  have parsed := parseDocument_dumpsUnicode readable
  rw [← LedgerRow.text_eq] at parsed
  have unique := uniqueTree_tree document.row.canonical.clean
  rw [loadUnique, document.row.jsonText_bytes]
  change loadUniqueText py document.row.text = _
  rw [loadUniqueText, parsed]
  exact (if_pos unique).trans (congrArg some document.row.tree_value)

theorem text_ascii {c : CodePoint} (member : c ∈ document.row.text) : c.val < 0x80 := by
  by_contra large
  have wide : Wide c := not_lt.mp large
  rw [LedgerRow.text, dumpsUnicode_canonical, mem_dumpsUnicode wide, Value.contains_canonical] at member
  have ascii := document.ascii c member
  omega

theorem length_line : document.row.bytes.length = document.row.text.length := by
  have one : ∀ c ∈ document.row.text, (encodeChar c).length = 1 := by
    intro c member
    rw [encodeChar, if_pos (document.text_ascii member)]
    rfl
  rw [LedgerRow.bytes, List.length_flatMap, List.map_congr_left one, List.map_const', List.sum_replicate]
  exact Nat.mul_one _

theorem length_bytes : document.bytes.length = document.row.text.length + 1 := by
  rw [bytes, List.flatMap_append, List.length_append, ← document.length_line]
  rfl

/-- A bound on both. -/
theorem length_text_le : document.row.text.length ≤ (Value.obj document.fields).room :=
  length_dumpsUnicode_le true document.printable

end AsciiDocument

end HarnessProxy.Evidence

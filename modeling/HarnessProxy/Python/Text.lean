import Mathlib.Data.List.DropRight
import Mathlib.Data.List.Infix
import Mathlib.Data.List.Lex
import Mathlib.Data.List.Sort
import Mathlib.Data.Nat.Digits.Defs

namespace HarnessProxy

/-! # Python text

A Python `str` is a sequence of code points and may hold unpaired surrogates,
which a JSON escape can produce and UTF-8 cannot encode.  Text is therefore a
list of code points and not a Lean `String`; string literals of the source are
written as `String` literals and coerced.
-/

/-- One element of a Python `str`. -/
abbrev CodePoint := Fin 0x110000

abbrev Text := List CodePoint

def codePoint (character : Char) : CodePoint :=
  ⟨character.toNat, by
    have valid := character.valid
    change character.val.toNat < 1114112
    rcases valid with below | above <;> omega⟩

instance : Coe Char CodePoint := ⟨codePoint⟩

/-- `chr(value)` of a value in range. -/
def chr (value : Nat) : CodePoint := Fin.ofNat 0x110000 value

@[simp] theorem chr_val (value : Nat) : (chr value).val = value % 0x110000 := rfl

/-- The text that a string literal of the source denotes. -/
def Text.literal (source : String) : Text := source.toList.map codePoint

/-- A literal as the kernel should read it: its bytes are costly to decode. -/
theorem Text.literal_ofList (characters : List Char) :
    Text.literal (String.ofList characters) = characters.map codePoint := by
  rw [Text.literal, String.toList_ofList]

instance : Coe String Text := ⟨Text.literal⟩

/-- A list of literals as Lean coerces it. -/
theorem Text.coe_list (names : List String) :
    (do let name ← names; pure (Text.literal name) : List Text) = names.map Text.literal := by
  rw [List.bind_eq_flatMap, List.map_eq_flatMap]
  rfl

theorem codePoint_injective : Function.Injective codePoint := by
  intro first second same
  have values := congrArg Fin.val same
  exact Char.ext (UInt32.toNat_inj.mp values)

/-- Literals are compared as `String`s, which `simp` does at once. -/
theorem Text.literal_inj {first second : String} : Text.literal first = Text.literal second ↔ first = second :=
  ⟨fun same => String.toList_injective (List.map_injective_iff.mpr codePoint_injective same), congrArg Text.literal⟩

/-- A number for a text, which the kernel compares at once. -/
def Text.code (text : Text) : Nat := text.foldl (fun total c => (total * 31 + c.val) % 65521) 1

theorem Text.nodup_of_codes {texts : List Text} (distinct : (texts.map Text.code).Nodup) : texts.Nodup :=
  List.Nodup.of_map Text.code distinct

instance (name : Text) (names : List Text) : Decidable (name ∈ names) := inferInstance

instance (c : CodePoint) (text : Text) : Decidable (c ∈ text) := inferInstance

namespace Text

/-- `str.isspace` of one character: what `str.strip` removes and `\s` matches. -/
def isSpace (c : CodePoint) : Bool :=
  (0x9 ≤ c.val && c.val ≤ 0xd) || (0x1c ≤ c.val && c.val ≤ 0x20) || c.val = 0x85 ||
    c.val = 0xa0 || c.val = 0x1680 || (0x2000 ≤ c.val && c.val ≤ 0x200a) ||
    c.val = 0x2028 || c.val = 0x2029 || c.val = 0x202f || c.val = 0x205f || c.val = 0x3000

/-- `str.strip()`. -/
def strip (text : Text) : Text := (text.dropWhile isSpace).rdropWhile isSpace

def isBlank (text : Text) : Bool := strip text = []

def isSurrogate (c : CodePoint) : Bool := 0xd800 ≤ c.val && c.val ≤ 0xdfff

/-- `str.encode()` succeeds exactly on text without surrogates. -/
def encodable (text : Text) : Bool := text.all fun c => !isSurrogate c

/-- `str.lower()` on the letters that the source's lower-case words can meet.
Outside ASCII only the Kelvin sign lowers to an ASCII letter, so a comparison
of the result with an ASCII word is the comparison Python makes. -/
def lowerChar (c : CodePoint) : CodePoint :=
  if h : 0x41 ≤ c.val ∧ c.val ≤ 0x5a then ⟨c.val + 0x20, by omega⟩
  else if c.val = 0x212a then 'k'
  else c

def lower (text : Text) : Text := text.map lowerChar

/-- `re.IGNORECASE` between a lower-case ASCII letter of a pattern and a
character.  Three letters have further Unicode case variants. -/
def matchesLetter (letter c : CodePoint) : Bool :=
  lowerChar c = letter ||
    (letter = codePoint 'i' && (c.val = 0x130 || c.val = 0x131)) ||
    (letter = codePoint 's' && c.val = 0x17f)

/-- Match a literal word of a pattern at the start of a text, ignoring case,
and return what follows it. -/
def matchWord : Text → Text → Option Text
  | [], text => some text
  | _ :: _, [] => none
  | letter :: word, c :: text => if matchesLetter letter c then matchWord word text else none

/-- Remove an exact prefix. -/
def dropPrefix? : Text → Text → Option Text
  | [], text => some text
  | _ :: _, [] => none
  | expected :: wanted, c :: text => if c = expected then dropPrefix? wanted text else none

/-- Remove an exact suffix. -/
def dropSuffix? (wanted text : Text) : Option Text :=
  (dropPrefix? wanted.reverse text.reverse).map List.reverse

/-- `separator.join(parts)`. -/
def join (separator : Text) (parts : List Text) : Text := separator.intercalate parts

def digitChar (digit : Nat) : CodePoint := chr (0x30 + digit % 10)

/-- `str(n)` of a natural number. -/
def ofNat (n : Nat) : Text :=
  if n = 0 then [digitChar 0] else (Nat.digits 10 n).reverse.map digitChar

/-- `str(i)` of an integer. -/
def ofInt (i : Int) : Text := if i < 0 then (codePoint '-') :: ofNat i.natAbs else ofNat i.natAbs

/-- `sorted` on strings, by code point. -/
def sorted (words : List Text) : List Text := words.insertionSort (· ≤ ·)

/-! ## Stripping -/

/-- A text that begins and ends with a character other than whitespace. -/
structure Solid (text : Text) : Prop where
  head : ∃ c rest, text = c :: rest ∧ isSpace c = false
  last : ∃ init c, text = init ++ [c] ∧ isSpace c = false

theorem dropWhile_append_of_all {p : CodePoint → Bool} {before text : Text}
    (spaces : ∀ c ∈ before, p c = true) : (before ++ text).dropWhile p = text.dropWhile p := by
  induction before with
  | nil => rfl
  | cons c rest ih =>
      rw [List.cons_append, List.dropWhile_cons_of_pos (spaces c (by simp))]
      exact ih fun d member => spaces d (by simp [member])

theorem Solid.dropWhile_eq {core after : Text} (solid : Solid core) :
    (core ++ after).dropWhile isSpace = core ++ after := by
  obtain ⟨c, rest, rfl, notSpace⟩ := solid.head
  simp [notSpace]

theorem strip_of_frame {before core after : Text} (leading : ∀ c ∈ before, isSpace c = true)
    (trailing : ∀ c ∈ after, isSpace c = true) (solid : Solid core) :
    strip (before ++ core ++ after) = core := by
  have front : (before ++ core ++ after).dropWhile isSpace = core ++ after := by
    rw [List.append_assoc, dropWhile_append_of_all leading]
    exact solid.dropWhile_eq
  obtain ⟨init, c, shape, notSpace⟩ := solid.last
  rw [strip, front, List.rdropWhile, List.reverse_append,
    dropWhile_append_of_all fun d member => trailing d (List.mem_reverse.mp member), shape]
  simp [notSpace]

theorem strip_frame (text : Text) : ∃ before after, text = before ++ strip text ++ after ∧
    (∀ c ∈ before, isSpace c = true) ∧ ∀ c ∈ after, isSpace c = true := by
  refine ⟨text.takeWhile isSpace, (text.dropWhile isSpace).rtakeWhile isSpace, ?_, ?_, ?_⟩
  · rw [strip, List.append_assoc, List.rdropWhile_append_rtakeWhile, List.takeWhile_append_dropWhile]
  · exact fun c member => List.mem_takeWhile_imp member
  · exact fun c member => List.mem_rtakeWhile_imp member

theorem strip_cons {c : CodePoint} {rest : Text} (notSpace : isSpace c = false) :
    ∃ tail, strip (c :: rest) = c :: tail := by
  have front : (c :: rest).dropWhile isSpace = c :: rest := by simp [notSpace]
  obtain ⟨after, frame⟩ := List.rdropWhile_prefix isSpace (c :: rest)
  rw [strip, front]
  cases kept : List.rdropWhile isSpace (c :: rest) with
  | nil =>
      have space := List.rdropWhile_eq_nil_iff.mp kept c (by simp)
      rw [notSpace] at space
      cases space
  | cons d tail =>
      rw [kept] at frame
      exact ⟨tail, by rw [(List.cons.inj frame).1]⟩

theorem strip_solid {text : Text} (nonempty : strip text ≠ []) : Solid (strip text) := by
  constructor
  · obtain ⟨after, front⟩ := List.rdropWhile_prefix isSpace (text.dropWhile isSpace)
    cases shape : strip text with
    | nil => exact absurd shape nonempty
    | cons c rest =>
        refine ⟨c, rest, rfl, ?_⟩
        have dropped : text.dropWhile isSpace = c :: (rest ++ after) := by
          rw [← front]
          change strip text ++ after = _
          rw [shape, List.cons_append]
        have notSpace := List.dropWhile_get_zero_not isSpace text (by rw [dropped]; simp)
        simpa [dropped] using notSpace
  · have notSpace := List.rdropWhile_last_not isSpace (text.dropWhile isSpace) nonempty
    refine ⟨_, _, (List.dropLast_append_getLast nonempty).symm, ?_⟩
    exact Bool.eq_false_of_not_eq_true notSpace

theorem strip_strip (text : Text) : strip (strip text) = strip text := by
  by_cases empty : strip text = []
  · rw [empty]
    rfl
  · have stripped : strip ([] ++ strip text ++ []) = strip text :=
      strip_of_frame (by simp) (by simp) (strip_solid empty)
    simpa using stripped

end Text

end HarnessProxy

import HarnessProxy.Python.Text

namespace HarnessProxy

/-! # What the interpreter supplies

Unicode tables, binary floats and SHA-256 are used by the source and never
inspected by it.  They are fields of one structure that every definition takes
as a parameter, so each theorem holds for all of them.
-/

/-- The exceptions that built-in operations of the source can raise.  All but
`typeError` are subclasses of `ValueError`. -/
inductive PyError where
  | jsonDecodeError
  | unicodeEncodeError
  | valueError (message : Text)
  | typeError
deriving DecidableEq

/-- A computation that may raise has returned exactly when both halves have. -/
theorem bind_eq_ok {ε α β : Type} {first : Except ε α} {next : α → Except ε β} {b : β} :
    (first >>= next) = .ok b ↔ ∃ a, first = .ok a ∧ next a = .ok b := by
  cases first with
  | error e => simp [bind, Except.bind]
  | ok a => simp [bind, Except.bind]

/-- `if condition: raise error` -/
def raiseIf {ε : Type} (condition : Bool) (error : ε) : Except ε Unit :=
  if condition then .error error else .ok ()

@[simp] theorem raiseIf_eq_ok {ε : Type} {condition : Bool} {error : ε} {result : Unit} :
    raiseIf condition error = .ok result ↔ condition = false := by
  cases condition <;> simp [raiseIf]

/-- A computation that raises this error. -/
def failsWith {ε α : Type} [DecidableEq ε] (error : ε) : Except ε α → Bool
  | .error found => decide (found = error)
  | .ok _ => false

theorem failsWith_iff {ε α : Type} [DecidableEq ε] {error : ε} {outcome : Except ε α} :
    failsWith error outcome = true ↔ outcome = .error error := by
  cases outcome <;> simp [failsWith]

/-- `for item in items: action(item)` of an action that may raise. -/
def forEach {ε α : Type} (action : α → Except ε Unit) : List α → Except ε Unit
  | [] => .ok ()
  | item :: rest => do
    action item
    forEach action rest

@[simp] theorem forEach_eq_ok {ε α : Type} {action : α → Except ε Unit} {items : List α} {result : Unit} :
    forEach action items = .ok result ↔ ∀ item ∈ items, action item = .ok () := by
  induction items with
  | nil => simp [forEach]
  | cons item rest ih =>
      simp only [forEach, bind_eq_ok, ih, List.forall_mem_cons]
      exact ⟨fun ⟨_, first, others⟩ => ⟨first, others⟩, fun ⟨first, others⟩ => ⟨(), first, others⟩⟩

/-- `[function(item) for item in items]` of a function that may raise. -/
def mapEach {ε α β : Type} (function : α → Except ε β) : List α → Except ε (List β)
  | [] => .ok []
  | item :: rest => do
    let first ← function item
    let others ← mapEach function rest
    return first :: others

theorem mapEach_map {ε α β : Type} {function : α → Except ε β} {result : α → β} {items : List α}
    (each : ∀ item ∈ items, function item = .ok (result item)) :
    mapEach function items = .ok (items.map result) := by
  induction items with
  | nil => rfl
  | cons item rest ih =>
      obtain ⟨head, tail⟩ := List.forall_mem_cons.mp each
      rw [mapEach, head, ih tail]
      rfl

theorem mapEach_comp {ε α β γ : Type} (function : β → Except ε γ) (before : α → β) (items : List α) :
    mapEach function (items.map before) = mapEach (fun item => function (before item)) items := by
  induction items with
  | nil => rfl
  | cons item rest ih => rw [List.map_cons, mapEach, mapEach, ih]

theorem mapEach_length {ε α β : Type} {function : α → Except ε β} {items : List α} {results : List β}
    (mapped : mapEach function items = .ok results) : results.length = items.length := by
  induction items generalizing results with
  | nil =>
      cases mapped
      rfl
  | cons item rest ih =>
      simp only [mapEach, bind_eq_ok, pure, Except.pure, Except.ok.injEq] at mapped
      obtain ⟨first, _, others, tail, rfl⟩ := mapped
      simp [ih tail]

theorem mapEach_error {ε α β : Type} {function : α → Except ε β} {items : List α} {item : α} (member : item ∈ items)
    (raises : (function item).toBool = false) : ∃ error, mapEach function items = .error error := by
  induction items with
  | nil => cases member
  | cons first rest ih =>
      cases ran : function first with
      | error error => exact ⟨error, by rw [mapEach, ran]; rfl⟩
      | ok result =>
          rcases List.mem_cons.mp member with rfl | inside
          · rw [ran] at raises
            cases raises
          · obtain ⟨error, raised⟩ := ih inside
            exact ⟨error, by rw [mapEach, ran, raised]; rfl⟩

/-- `except ValueError`. -/
def PyError.isValueError : PyError → Bool
  | .typeError => false
  | _ => true

/-- The characters of `repr` of a finite float. -/
def isFloatChar (c : CodePoint) : Bool :=
  (0x30 ≤ c.val && c.val ≤ 0x39) || c = codePoint '.' || c = codePoint 'e' ||
    c = codePoint '+' || c = codePoint '-'

/-- The shortest `repr` of a finite binary float.  It always shows a point or an
exponent, which an integer never does. -/
structure FloatRepr where
  text : Text
  isRepr : text.all isFloatChar = true ∧
    (text.any fun c => c = codePoint '.' || c = codePoint 'e') = true
deriving DecidableEq

/-- A Python `float`.  Finite values are identified with their shortest `repr`. -/
inductive PyFloat where
  | finite (shortest : FloatRepr)
  | infinity
  | negInfinity
  | nan
deriving DecidableEq

/-- `value == 0` of a float; both signed zeros compare equal to it. -/
def PyFloat.isZero : PyFloat → Bool
  | .finite shortest => shortest.text = "0.0" || shortest.text = "-0.0"
  | _ => false

structure Python where
  /-- `str.isalnum` of one character. -/
  isAlnum : CodePoint → Bool
  /-- `unicodedata.decimal`: the value of a character that `\d` matches. -/
  decimal : CodePoint → Option (Fin 10)
  /-- `str.casefold` of one character. -/
  casefold : CodePoint → Text
  /-- `float(literal)` of a JSON number literal. -/
  float : Text → PyFloat
  /-- `hashlib.sha256(text.encode()).hexdigest()`. -/
  sha256 : Text → Text
  /-- `str(exception)` of an exception that the interpreter raises itself. -/
  describe : PyError → Text
  /-- `uuid.uuid4().hex` and `int(time.time())` of a locally built response. -/
  uuidHex : Text
  time : Int

/-- `int()` refuses a literal of more digits (`sys.int_info.default_max_str_digits`). -/
def maxStrDigits : Nat := 4300

def digitLimitError : PyError :=
  .valueError "Exceeds the limit (4300 digits) for integer string conversion"

namespace Python

variable (py : Python)

/-- A word character of a regular expression. -/
def isWord (c : CodePoint) : Bool := py.isAlnum c || c = codePoint '_'

/-- `\b` where a word character has just been matched. -/
def wordEnds : Text → Bool
  | [] => true
  | c :: _ => !py.isWord c

/-- `int(digits)` of a text that `\d+` matched. -/
def parseInt (digits : Text) : Except PyError Nat :=
  if digits.length > maxStrDigits then .error digitLimitError
  else .ok (digits.foldl (fun total c => 10 * total + ((py.decimal c).elim 0 Fin.val)) 0)

end Python

end HarnessProxy

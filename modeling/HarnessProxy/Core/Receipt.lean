import HarnessProxy.Json.Encode
import HarnessProxy.Json.Parse

namespace HarnessProxy.Core

open HarnessProxy.Json

/-! # Tool roles, signatures and receipts -/

/-- The values of an `x-shiftedx-role` annotation. -/
inductive ToolRole where
  | mutation
  | verification
  | investigation
  | other
deriving DecidableEq

/-- Three sets of tool names. -/
structure ToolRoles where
  mutation : List Text := ["apply_patch", "edit_file", "str_replace_editor", "write_file"]
  verification : List Text := ["run_tests", "run_checks", "verify", "check"]
  investigation : List Text := ["file_search", "read_file", "session_search", "read_logs"]

namespace ToolRoles

/-- No tool has two roles, as `_validate_distinct_roles` demands at startup. -/
structure Disjoint (roles : ToolRoles) : Prop where
  mutation_verification : ∀ name ∈ roles.mutation, name ∉ roles.verification
  mutation_investigation : ∀ name ∈ roles.mutation, name ∉ roles.investigation
  verification_investigation : ∀ name ∈ roles.verification, name ∉ roles.investigation

/-- The server role protecting `name`, when it has one. -/
def configuredRole (roles : ToolRoles) (name : Text) : Except PyError (Option ToolRole) :=
  let found := [(ToolRole.mutation, roles.mutation), (.verification, roles.verification),
    (.investigation, roles.investigation)].filter fun entry => entry.2.contains name
  if found.length > 1 then
    .error (.valueError "Configured tool roles must assign each tool name to only one role")
  else .ok (found.head?.map Prod.fst)

/-- Roles with one tool assigned exclusively to the annotated role. -/
def withAnnotation (roles : ToolRoles) (name : Text) (role : ToolRole) : ToolRoles :=
  let discard (names : List Text) := names.filter (· ≠ name)
  { mutation := if role = .mutation then name :: discard roles.mutation else discard roles.mutation
    verification :=
      if role = .verification then name :: discard roles.verification else discard roles.verification
    investigation :=
      if role = .investigation then name :: discard roles.investigation
      else discard roles.investigation }

theorem withAnnotation_disjoint {roles : ToolRoles} (disjoint : roles.Disjoint) (name : Text)
    (role : ToolRole) : ( roles.withAnnotation name role).Disjoint := by
  have apart {left right : List Text} (separate : ∀ other ∈ left, other ∉ right) :
      ∀ other ∈ left.filter (· ≠ name), other ∉ right.filter (· ≠ name) := by
    intro other member inRight
    exact separate other (List.mem_filter.mp member).1 (List.mem_filter.mp inRight).1
  have first := apart disjoint.mutation_verification
  have second := apart disjoint.mutation_investigation
  have third := apart disjoint.verification_investigation
  cases role <;> constructor <;> simp [ withAnnotation] at first second third ⊢ <;> grind

end ToolRoles

/-- `canonical_signature`: the name and twelve hexadecimal digits of a hash. -/
def signaturePreimage (name : Text) (arguments : Object) : Text :=
  name ++ codePoint '\x00' :: dumps true (.obj arguments)

def canonicalSignature (py : Python) (name : Text) (arguments : Object) : Except PyError Text :=
  if Text.encodable (signaturePreimage name arguments) then
    .ok (name ++ codePoint ':' :: (py.sha256 (signaturePreimage name arguments)).take 12)
  else .error .unicodeEncodeError

/-- Calls that are equal up to the order of keys have one signature. -/
theorem canonicalSignature_same (py : Python) (name : Text) {left right : Object}
    (valid : (Value.obj left).Valid) (same : Same (.obj left) (.obj right)) :
    canonicalSignature py name left = canonicalSignature py name right := by
  have encoded := (same.dumps_eq valid).1
  unfold canonicalSignature signaturePreimage
  rw [encoded]

/-! ## Classifying a result -/

inductive ReceiptStatus where
  | failure
  | success
deriving DecidableEq

def failureStatuses : List Text := ["error", "failed", "failure", "rejected", "not_found"]

/-- `str(value).strip().lower() in FAILURE_STATUSES`.  The text of a value other
than a string is never one of the five words. -/
def isFailureStatus : Value → Bool
  | .str text => failureStatuses.contains (Text.lower (Text.strip text))
  | _ => false

namespace FailurePattern

variable (py : Python)

/-- `^word\b` -/
def word (literal text : Text) : Bool :=
  match Text.matchWord literal text with
  | some rest => py.wordEnds rest
  | none => false

/-- `^error\s*:` -/
def errorColon (text : Text) : Bool :=
  match Text.matchWord "error" text with
  | some rest => (rest.dropWhile Text.isSpace).head? = some (codePoint ':')
  | none => false

def isDecimal (c : CodePoint) : Bool := (py.decimal c).isSome

/-- `\d+\s+failed\b` at the start of a text. -/
def failedCount (text : Text) : Bool :=
  let afterDigits := text.dropWhile (isDecimal py)
  let afterSpace := afterDigits.dropWhile Text.isSpace
  afterDigits.length < text.length && afterSpace.length < afterDigits.length &&
    word py "failed" afterSpace

/-- `\b\d+\s+failed\b` anywhere; `previous` tells whether a word character precedes. -/
def searchFailedCount (previous : Bool) : Text → Bool
  | [] => false
  | c :: rest =>
    (previous != py.isWord c && failedCount py (c :: rest)) || searchFailedCount (py.isWord c) rest

end FailurePattern

/-- `FAILURE_PATTERNS` -/
def matchesFailurePattern (py : Python) (text : Text) : Bool :=
  FailurePattern.word py "filenotfounderror" text || FailurePattern.word py "unknown tool" text ||
    FailurePattern.word py "patch rejected" text || FailurePattern.word py "patch does not" text ||
    FailurePattern.word py "dispatcher failure" text || FailurePattern.errorColon text ||
    FailurePattern.searchFailedCount py false text

/-- Classify a public tool result, prioritizing structured status and error
fields.  Only a decoding error is caught, so a too long integer raises. -/
def receiptStatus (py : Python) (result : Text) : Except PyError ReceiptStatus :=
  let text := Text.strip result
  let unstructured : ReceiptStatus := if matchesFailurePattern py text then .failure else .success
  match loads py text with
  | .error .jsonDecodeError => .ok unstructured
  | .error e => .error e
  | .ok (.obj value) =>
    if isFailureStatus ((Object.get? value "status").getD (.str "")) then .ok .failure
    -- the values of `(None, False, "", 0, [], {})` are the falsy ones
    else if ((Object.get? value "error").getD .null).truthy then .ok .failure
    else .ok .success
  | .ok _ => .ok unstructured

structure Receipt where
  receiptId : Nat
  tool : Text
  signature : Text
  status : ReceiptStatus
  epoch : Nat
deriving DecidableEq

end HarnessProxy.Core

import HarnessProxy.Data.Expansion
import HarnessProxy.Evidence.Fingerprint

namespace HarnessProxy.Evidence

open HarnessProxy.Json
open HarnessProxy.Data

/-! # Attempts of the proxy against those of the direct arm

The proxy may repeat an attempt; otherwise the two sequences have to agree.
-/

structure SafeFingerprint where
  boundary : Text
  digest : Text
  fields : Object

/-- `==` on fingerprints. -/
def SafeFingerprint.equal (floatEqual : Value → Value → Bool) (left right : SafeFingerprint) : Bool :=
  left.boundary = right.boundary && left.digest = right.digest && (Value.obj left.fields).equal floatEqual (.obj right.fields)

def modelFacingObserved : Text := "model_facing_observed"

/-- `_is_allowed_harness_system_delta_pair` -/
def isAllowedHarnessSystemDeltaPair (py : Python) (floatEqual : Value → Value → Bool) (left right : SafeFingerprint) :
    Except PyError Bool := do
  if left.boundary ≠ modelFacingObserved ∨ right.boundary ≠ modelFacingObserved then return false
  let proxyDelta ← expectedHarnessPolicyDelta py
  let leftDelta := item left.fields "declared_policy_deltas"
  let rightDelta := item right.fields "declared_policy_deltas"
  return leftDelta.equal floatEqual (.obj []) && rightDelta.equal floatEqual (.obj proxyDelta) ||
    leftDelta.equal floatEqual (.obj proxyDelta) && rightDelta.equal floatEqual (.obj [])

/-- The branches of the loop of `contract_mismatches`. -/
def isMismatch (floatEqual : Value → Value → Bool) (left right : SafeFingerprint) (allowed : Bool) (key : Text) : Bool :=
  let differs := !(item left.fields key).equal floatEqual (item right.fields key)
  if key = "declared_policy_deltas" then left.boundary = modelFacingObserved && differs && !allowed
  else if (key ∈ (["system_prompt_sha256", "cache_prefix"] : List Text)) && allowed then false
  else differs

/-- `contract_mismatches` -/
def contractMismatches (py : Python) (floatEqual : Value → Value → Bool) (left right : SafeFingerprint) :
    Except PyError (List Text) := do
  if left.boundary ≠ right.boundary then return ["boundary"]
  let allowed ← isAllowedHarnessSystemDeltaPair py floatEqual left right
  let keys := Text.sorted (List.dedup (left.fields.keys ++ right.fields.keys))
  return keys.filter (isMismatch floatEqual left right allowed)

def runExpansionDiffered : BoundaryError := .preflight "model-facing run expansion differed"

/-- `_assert_proxy_run_expansion`: the entries left of both arms, and the
repeats counted.  The inner loop stops where as many entries of the proxy remain
as of the direct arm. -/
def expandRuns (py : Python) (floatEqual : Value → Value → Bool) :
    List SafeFingerprint → List SafeFingerprint → Nat → Except BoundaryError Nat
  | [], [], extraCount => .ok extraCount
  | [], _ :: _, _ => .error runExpansionDiffered
  | _ :: _, [], _ => .error runExpansionDiffered
  | direct :: directs, matched :: proxies, extraCount => do
    let mismatch ← liftBoundary (contractMismatches py floatEqual direct matched)
    raiseIf (mismatch ≠ []) (.preflight ("model-facing contract mismatch: " ++ Text.join ", " mismatch))
    let repeats := repeatsOf (SafeFingerprint.equal floatEqual) matched directs.length proxies
    expandRuns py floatEqual directs (proxies.drop repeats) (extraCount + repeats)

def assertProxyRunExpansion (py : Python) (floatEqual : Value → Value → Bool) (direct proxy : List SafeFingerprint) :
    Except BoundaryError Nat :=
  expandRuns py floatEqual direct proxy 0

/-- No mismatch is found between the two. -/
def Fits (py : Python) (floatEqual : Value → Value → Bool) (direct proxy : SafeFingerprint) : Prop :=
  contractMismatches py floatEqual direct proxy = .ok []

section
variable {py : Python} {floatEqual : Value → Value → Bool}

theorem expandRuns_cons {direct matched : SafeFingerprint} {directs proxies : List SafeFingerprint} {extraCount total : Nat} :
    expandRuns py floatEqual (direct :: directs) (matched :: proxies) extraCount = .ok total ↔
      Fits py floatEqual direct matched ∧
        expandRuns py floatEqual directs
          (proxies.drop (repeatsOf (SafeFingerprint.equal floatEqual) matched directs.length proxies))
          (extraCount + repeatsOf (SafeFingerprint.equal floatEqual) matched directs.length proxies) = .ok total := by
  rw [expandRuns]
  simp only [bind_eq_ok, raiseIf_eq_ok, liftBoundary_eq_ok, decide_eq_false_iff_not, ne_eq, not_not]
  constructor
  · rintro ⟨mismatch, found, _, rfl, rest⟩
    exact ⟨found, rest⟩
  · rintro ⟨found, rest⟩
    exact ⟨[], found, (), rfl, rest⟩

theorem expandRuns_fits {direct matched : SafeFingerprint} {directs proxies : List SafeFingerprint} {extraCount : Nat}
    (fitting : Fits py floatEqual direct matched) :
    expandRuns py floatEqual (direct :: directs) (matched :: proxies) extraCount =
      expandRuns py floatEqual directs
        (proxies.drop (repeatsOf (SafeFingerprint.equal floatEqual) matched directs.length proxies))
        (extraCount + repeatsOf (SafeFingerprint.equal floatEqual) matched directs.length proxies) := by
  rw [expandRuns, fitting]
  rfl

theorem expandRuns_mismatch {direct matched : SafeFingerprint} {directs proxies : List SafeFingerprint} {extraCount : Nat}
    {label : Text} {labels : List Text} (found : contractMismatches py floatEqual direct matched = .ok (label :: labels)) :
    expandRuns py floatEqual (direct :: directs) (matched :: proxies) extraCount =
      .error (.preflight ("model-facing contract mismatch: " ++ Text.join ", " (label :: labels))) := by
  rw [expandRuns, found]
  rfl

theorem contractMismatches_undeclared {left right : SafeFingerprint} (leftObserved : left.boundary = modelFacingObserved)
    (rightObserved : right.boundary = modelFacingObserved) (leftDelta : item left.fields "declared_policy_deltas" = .obj [])
    (rightDelta : item right.fields "declared_policy_deltas" = .obj []) :
    contractMismatches py floatEqual left right = .ok ((Text.sorted (List.dedup (left.fields.keys ++ right.fields.keys))).filter
      (isMismatch floatEqual left right false)) := by
  obtain ⟨digest, computed⟩ := @expectedDelta_exists py
  have allowed : isAllowedHarnessSystemDeltaPair py floatEqual left right = .ok false := by
    rw [isAllowedHarnessSystemDeltaPair, leftObserved, rightObserved, if_neg (by simp), computed, leftDelta, rightDelta]
    rfl
  simp only [contractMismatches, leftObserved, rightObserved, allowed, ne_eq, not_true_eq_false, if_false, bind, Except.bind,
    pure, Except.pure]

/-- The assertion accepts when the sequence of the proxy without its first
surplus repeats fits the one of the direct arm. -/
theorem expandRuns_eq_ok {directs proxies : List SafeFingerprint} {extraCount total : Nat} :
    expandRuns py floatEqual directs proxies extraCount = .ok total ↔
      List.Forall₂ (Fits py floatEqual) directs
        (strike (SafeFingerprint.equal floatEqual) (proxies.length - directs.length) proxies) ∧
        total = extraCount + (proxies.length - directs.length) := by
  induction directs generalizing proxies extraCount with
  | nil =>
      cases proxies with
      | nil => simp [expandRuns, strike, eq_comm]
      | cons matched proxies => simp [expandRuns, strike]
  | cons direct directs ih =>
      cases proxies with
      | nil => simp [expandRuns, strike]
      | cons matched proxies =>
          have bounded := @repeatsOf_le _ (SafeFingerprint.equal floatEqual) matched directs.length proxies
          rw [expandRuns_cons, ih, List.length_cons, List.length_cons, Nat.add_sub_add_right, strike,
            strikeAfter_repeats, List.forall₂_cons, List.length_drop, Nat.sub_right_comm, and_assoc]
          refine and_congr_right fun _ => and_congr_right fun _ => ?_
          omega

end

/-- An observed attempt of an acquisition, as far as its tool choice tells it from others. -/
def acquisitionFingerprint (digest toolChoice : Text) : SafeFingerprint :=
  { boundary := modelFacingObserved, digest,
    fields := [("tool_choice_policy", .str toolChoice), ("token_budget", .int 512), ("cache_mode_policy", .null),
      ("compatibility", .obj (compatibility .acquisition)), ("declared_policy_deltas", .obj [])] }

section
variable (py : Python) (floatEqual : Value → Value → Bool)

end

end HarnessProxy.Evidence

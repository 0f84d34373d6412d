import Mathlib.Algebra.Order.Group.Defs
import Mathlib.Algebra.Order.Sub.Defs
import Mathlib.Data.List.Count
import Mathlib.Data.List.TakeWhile
import Mathlib.Order.Basic
import Mathlib.Tactic.Abel

namespace HarnessProxy.Data

/-! # Sliding windows

A queue that is trimmed from its old end stands for a longer history as long as
it drops nothing that a window can still reach.  `Tracks` is that relation; it
lets a queue be trimmed at any time, and even be thrown away once it is empty.
-/

variable {τ : Type*} [LinearOrder τ]

section Queue
variable {kept : List τ}

/-- The loop that trims the old end of a queue. -/
def expire (horizon : τ) (kept : List τ) : List τ := kept.dropWhile fun moment => moment ≤ horizon

theorem expire_splits (horizon : τ) (kept : List τ) :
    ∃ expired, kept = expired ++ expire horizon kept ∧ ∀ moment ∈ expired, moment ≤ horizon := by
  refine ⟨kept.takeWhile fun moment => moment ≤ horizon, (List.takeWhile_append_dropWhile ..).symm, ?_⟩
  intro moment member
  have expired := List.mem_takeWhile_imp member
  exact of_decide_eq_true expired

theorem expire_above (ordered : kept.Pairwise (· ≤ ·)) : ∀ moment ∈ expire horizon kept, horizon < moment := by
  induction kept with
  | nil => simp [expire]
  | cons first rest ih =>
      obtain ⟨before, tail⟩ := List.pairwise_cons.mp ordered
      by_cases old : first ≤ horizon
      · simpa [expire, List.dropWhile_cons, old] using ih tail
      · have above : horizon < first := lt_of_not_ge old
        intro moment member
        simp only [expire, List.dropWhile_cons, old, decide_false, Bool.false_eq_true, if_false,
          List.mem_cons] at member
        cases member with
        | inl same => exact same ▸ above
        | inr later => exact above.trans_le (before moment later)

end Queue

variable [AddCommGroup τ]

/-- How many moments of a history are in the window that begins after `older`. -/
def within (window older : τ) (history : List τ) : Nat :=
  history.countP fun moment => older < moment ∧ moment ≤ older + window

/-- Every window holds at most `limit` moments. -/
def Bounded (limit : Nat) (window : τ) (history : List τ) : Prop :=
  ∀ older, within window older history ≤ limit

/-- The queue holds the part of the history that a window can still reach. -/
structure Tracks (window clock : τ) (history kept : List τ) : Prop where
  ordered : history.Pairwise (· ≤ ·)
  past : ∀ moment ∈ history, moment ≤ clock
  dropped : ∃ dropped, history = dropped ++ kept ∧ ∀ moment ∈ dropped, moment ≤ clock - window

variable {window clock now older : τ} {history kept : List τ} {limit : Nat}

theorem within_le_length (window older : τ) (history : List τ) : within window older history ≤ history.length :=
  List.countP_le_length

theorem within_append (window older : τ) (history later : List τ) :
    within window older (history ++ later) = within window older history + within window older later := by
  simp only [within, List.countP_append]

/-- A window that begins after every moment is empty. -/
theorem within_old (old : ∀ moment ∈ history, moment ≤ older) : within window older history = 0 := by
  rw [within, List.countP_eq_zero]
  intro moment member inside
  have inside : older < moment ∧ moment ≤ older + window := of_decide_eq_true inside
  exact absurd (old moment member) (not_le_of_gt inside.1)

namespace Tracks

theorem empty (window clock : τ) : Tracks window clock [] [] :=
  ⟨List.Pairwise.nil, by simp, [], rfl, by simp⟩

theorem kept_ordered (tracks : Tracks window clock history kept) : kept.Pairwise (· ≤ ·) := by
  obtain ⟨dropped, split, _⟩ := tracks.dropped
  have ordered := tracks.ordered
  rw [split] at ordered
  exact (List.pairwise_append.mp ordered).2.1

/-- A moment is added at the end. -/
theorem append (tracks : Tracks window clock history kept) :
    Tracks window clock (history ++ [clock]) (kept ++ [clock]) where
  ordered := by
    refine List.pairwise_append.mpr ⟨tracks.ordered, List.pairwise_singleton _ _, fun moment member last same => ?_⟩
    rw [List.mem_singleton.mp same]
    exact tracks.past moment member
  past moment member := by
    cases List.mem_append.mp member with
    | inl first => exact tracks.past moment first
    | inr last => exact (List.mem_singleton.mp last).le
  dropped := by
    obtain ⟨dropped, split, old⟩ := tracks.dropped
    exact ⟨dropped, by rw [split, List.append_assoc], old⟩

/-- After trimming, the queue is what the window that ends now holds. -/
theorem within_eq_length (tracks : Tracks window clock history kept)
    (trimmed : ∀ moment ∈ kept, clock - window < moment) : within window (clock - window) history = kept.length := by
  obtain ⟨dropped, split, old⟩ := tracks.dropped
  have reached : within window (clock - window) kept = kept.length := by
    rw [within, List.countP_eq_length]
    intro moment member
    have past := tracks.past moment (by rw [split]; exact List.mem_append_right dropped member)
    exact decide_eq_true ⟨trimmed moment member, by rwa [sub_add_cancel]⟩
  rw [split, within_append, within_old old, reached, Nat.zero_add]

variable [IsOrderedAddMonoid τ]

theorem later (tracks : Tracks window clock history kept) (monotone : clock ≤ now) :
    Tracks window now history kept where
  ordered := tracks.ordered
  past moment member := (tracks.past moment member).trans monotone
  dropped := by
    obtain ⟨dropped, split, old⟩ := tracks.dropped
    exact ⟨dropped, split, fun moment member => (old moment member).trans (sub_le_sub_right monotone window)⟩

/-- The queue may be trimmed at any later time. -/
theorem expire (tracks : Tracks window clock history kept) (monotone : clock ≤ now) :
    Tracks window now history (expire (now - window) kept) where
  ordered := tracks.ordered
  past moment member := (tracks.past moment member).trans monotone
  dropped := by
    obtain ⟨dropped, split, old⟩ := (tracks.later monotone).dropped
    obtain ⟨expired, rest, gone⟩ := expire_splits (now - window) kept
    refine ⟨dropped ++ expired, by rw [List.append_assoc, ← rest, split], fun moment member => ?_⟩
    cases List.mem_append.mp member with
    | inl first => exact old moment first
    | inr second => exact gone moment second

/-- A moment that finds room in the window that ends with it finds room in
every window. -/
theorem bounded_append (tracks : Tracks window clock history kept) (bounded : Bounded limit window history)
    (room : within window (clock - window) history < limit) : Bounded limit window (history ++ [clock]) := by
  intro older
  rw [within_append]
  by_cases inside : older < clock ∧ clock ≤ older + window
  · -- The window ends after the new moment, so it holds no more than the window that ends with it.
    have fewer : within window older history ≤ within window (clock - window) history := by
      refine List.countP_mono_left fun moment member reached => ?_
      have reached : older < moment ∧ moment ≤ older + window := of_decide_eq_true reached
      have begins : clock - window ≤ older := sub_le_iff_le_add.mpr inside.2
      have past := tracks.past moment member
      exact decide_eq_true ⟨begins.trans_lt reached.1, by rwa [sub_add_cancel]⟩
    have one := within_le_length window older [clock]
    simp only [List.length_singleton] at one
    omega
  · have none : within window older [clock] = 0 := by
      rw [within, List.countP_eq_zero]
      intro moment member reached
      rw [List.mem_singleton.mp member] at reached
      exact inside (of_decide_eq_true reached)
    have earlier := bounded older
    omega

end Tracks

end HarnessProxy.Data

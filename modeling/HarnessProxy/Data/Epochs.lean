import Mathlib.Data.List.Nodup

namespace HarnessProxy.Data

/-! # Epochs of a log

Each entry of a log has a key, and some entries end the epoch that they are in.
`Separated` says that no key is used twice in one epoch without counting
epochs, which is what a reader of the log can check ahead.
-/

structure Entry (κ : Type*) where
  key : κ
  /-- The next entry is in a new epoch. -/
  advances : Bool

namespace Entry

variable {κ : Type*} {epoch : Nat} {key : κ} {first second log : List (Entry κ)}

/-- The epoch after a log that starts in `epoch`. -/
def epochAfter (epoch : Nat) (log : List (Entry κ)) : Nat := epoch + log.countP advances

/-- The epoch and the key of every entry. -/
def stamps : Nat → List (Entry κ) → List (Nat × κ)
  | _, [] => []
  | epoch, entry :: rest => (epoch, entry.key) :: stamps (epoch + entry.advances.toNat) rest

/-- The key is not used before the epoch ends. -/
def Unused (key : κ) : List (Entry κ) → Prop
  | [] => True
  | entry :: rest => entry.key ≠ key ∧ (entry.advances = false → Unused key rest)

/-- No key is used again before its epoch ends. -/
def Separated : List (Entry κ) → Prop
  | [] => True
  | entry :: rest => (entry.advances = false → Unused entry.key rest) ∧ Separated rest

instance decidableUnused [DecidableEq κ] (key : κ) : (log : List (Entry κ)) → Decidable (Unused key log)
  | [] => inferInstanceAs (Decidable True)
  | _ :: rest =>
    have := decidableUnused key rest
    inferInstanceAs (Decidable (_ ∧ (_ → _)))

instance decidableSeparated [DecidableEq κ] : (log : List (Entry κ)) → Decidable (Separated log)
  | [] => inferInstanceAs (Decidable True)
  | entry :: rest =>
    have := decidableUnused entry.key rest
    have := decidableSeparated rest
    inferInstanceAs (Decidable ((_ → _) ∧ _))

theorem epochAfter_cons (entry : Entry κ) :
    epochAfter epoch (entry :: log) = epochAfter (epoch + entry.advances.toNat) log := by
  cases advance : entry.advances <;> simp [epochAfter, advance]
  omega

theorem stamps_append :
    stamps epoch (first ++ second) = stamps epoch first ++ stamps (epochAfter epoch first) second := by
  induction first generalizing epoch with
  | nil => simp [stamps, epochAfter]
  | cons entry rest ih => simp [stamps, ih, epochAfter_cons]

/-- A stamp is not of an earlier epoch than the log starts in. -/
theorem le_of_mem_stamps {stamp : Nat × κ} (member : stamp ∈ stamps epoch log) : epoch ≤ stamp.1 := by
  induction log generalizing epoch with
  | nil => cases member
  | cons entry rest ih =>
      rcases List.mem_cons.mp member with rfl | member
      · exact Nat.le_refl _
      · exact Nat.le_trans (Nat.le_add_right ..) (ih member)

theorem le_epochAfter_of_mem_stamps {stamp : Nat × κ} (member : stamp ∈ stamps epoch log) :
    stamp.1 ≤ epochAfter epoch log := by
  induction log generalizing epoch with
  | nil => cases member
  | cons entry rest ih =>
      rcases List.mem_cons.mp member with rfl | member
      · exact Nat.le_add_right ..
      · rw [epochAfter_cons]
        exact ih member

theorem key_of_mem_stamps {stamp : Nat × κ} (member : stamp ∈ stamps epoch log) :
    ∃ entry ∈ log, entry.key = stamp.2 := by
  induction log generalizing epoch with
  | nil => cases member
  | cons entry rest ih =>
      rcases List.mem_cons.mp member with rfl | member
      · exact ⟨entry, by simp, rfl⟩
      · obtain ⟨other, found, same⟩ := ih member
        exact ⟨other, by simp [found], same⟩

theorem unused_iff : Unused key log ↔ (epoch, key) ∉ stamps epoch log := by
  induction log generalizing epoch with
  | nil => simp [Unused, stamps]
  | cons entry rest ih =>
      simp only [Unused, stamps, List.mem_cons, Prod.mk.injEq, true_and, not_or]
      refine and_congr ⟨Ne.symm, Ne.symm⟩ ?_
      cases advance : entry.advances with
      | false => simpa using ih
      | true =>
          have later : (epoch, key) ∉ stamps (epoch + 1) rest := fun member =>
            absurd (le_of_mem_stamps member) (Nat.not_succ_le_self epoch)
          simpa using later

/-- A log is separated exactly when no stamp occurs twice. -/
theorem nodup_stamps_iff : (stamps epoch log).Nodup ↔ Separated log := by
  induction log generalizing epoch with
  | nil => simp [stamps, Separated]
  | cons entry rest ih =>
      simp only [stamps, List.nodup_cons, ih, Separated]
      refine and_congr_left fun _ => ?_
      cases advance : entry.advances with
      | false => simpa using unused_iff.symm
      | true =>
          have later : (epoch, entry.key) ∉ stamps (epoch + 1) rest := fun member =>
            absurd (le_of_mem_stamps member) (Nat.not_succ_le_self epoch)
          simpa using later

/-- Appending to a separated log, when no key of its last epoch is used in what
is appended. -/
theorem nodup_stamps_append (nodup : (stamps epoch first).Nodup)
    (fresh : ∀ stamp ∈ stamps epoch first, stamp.1 = epochAfter epoch first →
      ∀ entry ∈ second, entry.key ≠ stamp.2) :
    (stamps epoch (first ++ second)).Nodup ↔ Separated second := by
  have apart : ∀ left ∈ stamps epoch first, ∀ right ∈ stamps (epochAfter epoch first) second,
      left ≠ right := by
    rintro stamp before _ after rfl
    have current := Nat.le_antisymm (le_epochAfter_of_mem_stamps before) (le_of_mem_stamps after)
    obtain ⟨entry, member, same⟩ := key_of_mem_stamps after
    exact fresh stamp before current entry member same
  rw [stamps_append, List.nodup_append, ← @nodup_stamps_iff _ (epochAfter epoch first) second]
  exact ⟨fun both => both.2.1, fun separated => ⟨nodup, separated, apart⟩⟩

end Entry

end HarnessProxy.Data

import HarnessProxy.Campaign.Advance
import HarnessProxy.Data.Linked

namespace HarnessProxy.Campaign

open HarnessProxy.Core HarnessProxy.Json HarnessProxy.Evidence Evidence.Model Data Data.Program

/-! # What survives an advance

The files of a campaign and the stages that were run.  Files are created and
never changed; a creation that fails, or that is cut off, may leave the first
part of what was to be written.
-/

structure Disk where
  events : List (Text × Bytes)
  heads : List (Text × Bytes)
  root : List (Text × Bytes)
  /-- The sequence numbers of the stages that were run. -/
  ran : List Nat

namespace Disk

variable (disk : Disk)

def fresh : Disk := ⟨[], [], [], []⟩

def files : Folder → List (Text × Bytes)
  | .events => disk.events
  | .heads => disk.heads
  | .root => disk.root

def add (name : Text) (content : Bytes) : Folder → Disk
  | .events => { disk with events := disk.events ++ [(name, content)] }
  | .heads => { disk with heads := disk.heads ++ [(name, content)] }
  | .root => { disk with root := disk.root ++ [(name, content)] }

def has (folder : Folder) (name : Text) : Prop := name ∈ (disk.files folder).map Prod.fst

end Disk

/-- The adapter's identities are digests, see `_attestation_model_identity`. -/
def StageResult.Identified (result : StageResult) : Prop := result.modelIdentitySha256.all isHash = true

/-- How a creation can end. -/
def Creates (disk : Disk) (folder : Folder) (name : Text) (content : Bytes) : Creation → Disk → Prop
  | .written, after => ¬ disk.has folder name ∧ after = disk.add name content folder
  | .existed, after => disk.has folder name ∧ after = disk
  | .failed, after => after = disk ∨ ∃ written, ¬ disk.has folder name ∧ written <+: content ∧ after = disk.add name written folder

/-- Which manifests are read, and which results the runner may report of a stage. -/
structure Contract where
  manifest : Bytes → Prop
  result : StageRequest → StageResult → Prop

/-- Nothing is agreed. -/
def Contract.none : Contract := ⟨fun _ => True, fun _ _ => True⟩

/-- What the surroundings may reply: anything that their contracts allow.  A stage
that was run is never inspected as absent. -/
def answers (contract : Contract) : Surroundings Op Op.Reply Disk
  | disk, .manifest, reply, after => after = disk ∧ ∀ serialized ∈ reply, contract.manifest serialized
  | disk, .names folder, reply, after =>
    after = disk ∧ ∀ names ∈ reply, names = Text.sorted ((disk.files folder).map Prod.fst)
  | disk, .read folder name, reply, after => after = disk ∧ ∀ content ∈ reply, (disk.files folder).lookup name = some content
  | disk, .present folder name, reply, after => after = disk ∧ (reply = true ↔ disk.has folder name)
  | disk, .create folder name content, reply, after => Creates disk folder name content reply after
  | disk, .inspect request, reply, after => after = disk ∧ ∀ inspection, reply = .value inspection →
    (inspection.state = .absent → request.sequence ∉ disk.ran) ∧
      ∀ result ∈ inspection.result, result.Identified ∧ contract.result request result
  | disk, .run request, reply, after => after = { disk with ran := disk.ran ++ [request.sequence] } ∧
    ∀ result, reply = .value result → result.Identified ∧ contract.result request result
  | disk, _, _, after => after = disk

/-! ## Numbered files -/

theorem fileName_injective {first second : Nat} (same : fileName first = fileName second) : first = second := by
  have padded := List.append_cancel_right same
  rw [← digitsValue_padded 4 first, padded, digitsValue_padded]

def numbered : Nat → List Bytes → List (Text × Bytes)
  | _, [] => []
  | first, content :: rest => (fileName first, content) :: numbered (first + 1) rest

theorem numbered_cons (first : Nat) (content : Bytes) (rest : List Bytes) :
    numbered first (content :: rest) = (fileName first, content) :: numbered (first + 1) rest := rfl

theorem numbered_append (first : Nat) (contents more : List Bytes) :
    numbered first (contents ++ more) = numbered first contents ++ numbered (first + contents.length) more := by
  induction contents generalizing first with
  | nil => rfl
  | cons content rest ih =>
      rw [List.cons_append, numbered_cons, numbered_cons, ih, List.length_cons, List.cons_append, Nat.add_right_comm, Nat.add_assoc]

theorem numbered_get (first : Nat) (contents : List Bytes) (index : Nat) :
    (numbered first contents)[index]? = contents[index]?.map fun content => (fileName (first + index), content) := by
  induction contents generalizing first index with
  | nil => rfl
  | cons content rest ih =>
      cases index with
      | zero => rfl
      | succ index => rw [numbered_cons, List.getElem?_cons_succ, List.getElem?_cons_succ, ih, Nat.add_right_comm, Nat.add_assoc]

theorem numbered_contents (first : Nat) (contents : List Bytes) : (numbered first contents).map Prod.snd = contents := by
  induction contents generalizing first with
  | nil => rfl
  | cons content rest ih => rw [numbered_cons, List.map_cons, ih]

theorem numbered_length (first : Nat) (contents : List Bytes) : (numbered first contents).length = contents.length := by
  rw [← List.length_map Prod.snd, numbered_contents]

theorem numbered_names (first : Nat) (contents : List Bytes) :
    (numbered first contents).map Prod.fst = (List.range' first contents.length).map fileName := by
  induction contents generalizing first with
  | nil => rfl
  | cons content rest ih => rw [numbered_cons, List.map_cons, ih, List.length_cons, List.range'_succ, List.map_cons]

theorem lookup_numbered (first : Nat) (contents : List Bytes) (index : Nat) :
    (numbered first contents).lookup (fileName (first + index)) = contents[index]? := by
  induction contents generalizing first index with
  | nil => rfl
  | cons content rest ih =>
      cases index with
      | zero => simp [numbered_cons]
      | succ index =>
          have other : (fileName (first + (index + 1)) == fileName first) = false := by
            refine beq_eq_false_iff_ne.mpr fun same => ?_
            have numbers := fileName_injective same
            omega
          rw [numbered_cons, List.lookup_cons, other]
          change (numbered (first + 1) rest).lookup _ = rest[index]?
          rw [← ih (first + 1) index]
          congr 2
          omega

theorem expectedNames_eq (count : Nat) : expectedNames count = (List.range' 1 count).map fileName := by
  rw [expectedNames, List.range'_eq_map_range, List.map_map]
  exact List.map_congr_left fun index _ => congrArg fileName (Nat.add_comm _ _)

theorem numbered_expectedNames (contents : List Bytes) : (numbered 1 contents).map Prod.fst = expectedNames contents.length := by
  rw [numbered_names, expectedNames_eq]

/-- Up to the length of a campaign the names are in order. -/
theorem sorted_expectedNames {count : Nat} (short : count ≤ 17) : Text.sorted (expectedNames count) = expectedNames count := by
  have all : (expectedNames 17).Pairwise (· ≤ ·) := by decide
  have sublist : (expectedNames count).Sublist (expectedNames 17) :=
    (List.range_sublist.mpr short).map _
  exact List.Pairwise.insertionSort_eq (all.sublist sublist)

theorem has_numbered {first : Nat} {contents : List Bytes} {sequence : Nat} :
    fileName sequence ∈ (numbered first contents).map Prod.fst ↔ first ≤ sequence ∧ sequence < first + contents.length := by
  rw [numbered_names, List.mem_map]
  constructor
  · rintro ⟨other, member, same⟩
    rw [← fileName_injective same]
    exact List.mem_range'_1.mp member
  · exact fun within => ⟨sequence, List.mem_range'_1.mpr within, rfl⟩

end HarnessProxy.Campaign

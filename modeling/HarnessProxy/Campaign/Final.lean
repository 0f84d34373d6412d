import HarnessProxy.Campaign.Runs

namespace HarnessProxy.Campaign

open HarnessProxy.Core HarnessProxy.Json HarnessProxy.Evidence Evidence.Model Data Data.Program

/-! # Campaigns that stopped

Files are only added, and a stage is run only after all stages before it passed.
So an event that did not pass, or that was cut off, is the last one.
-/

/-- An event file that is whole and tells that its stage passed. -/
def ShowsPass (platform : ExportPlatform) (content : Bytes) : Prop :=
  byte 0x0a ∈ content ∧ ∃ event, readObject platform content = some event ∧ event.get? "status" = some (.str "passed")

section
variable {platform : ExportPlatform} {contract : Contract} {disk after : Disk} {entries : List Event} {torn : Option Bytes}
  {heads : List Bytes} {file : Text × Bytes}

/-! ## What a call changes -/

theorem Creates.eq_add {folder : Folder} {name : Text} {content : Bytes} {creation : Creation}
    (creates : Creates disk folder name content creation after) :
    after = disk ∨ ∃ written, after = disk.add name written folder := by
  cases creation with
  | written => exact .inr ⟨content, creates.2⟩
  | existed => exact .inl creates.2
  | failed =>
      rcases creates with same | ⟨written, _, _, added⟩
      · exact .inl same
      · exact .inr ⟨written, added⟩

theorem answers_cases {op : Op} {reply : op.Reply} (answered : answers contract disk op reply after) :
    after = disk ∨ (∃ request, op = .run request ∧ after = { disk with ran := disk.ran ++ [request.sequence] }) ∨
      ∃ folder name content written, op = .create folder name content ∧ after = disk.add name written folder := by
  cases op with
  | run request => exact .inr (.inl ⟨request, rfl, answered.1⟩)
  | create folder name content =>
      rcases Creates.eq_add answered with same | ⟨written, added⟩
      · exact .inl same
      · exact .inr (.inr ⟨folder, name, content, written, rfl, added⟩)
  | manifest | names | read | present | inspect => exact .inl answered.1
  | privateDir | lock | subdirectory | outcome | probe | policyBenefitGate | evaluate => exact .inl answered

theorem answers_events {op : Op} {reply : op.Reply} (answered : answers contract disk op reply after) :
    disk.events <+: after.events := by
  rcases answers_cases answered with rfl | ⟨_, _, rfl⟩ | ⟨folder, name, _, written, _, rfl⟩
  · exact List.prefix_rfl
  · exact List.prefix_rfl
  · cases folder with
    | events => exact List.prefix_append _ _
    | heads => exact List.prefix_rfl
    | root => exact List.prefix_rfl

theorem reaches_events {program rest : Task CampaignAdvance}
    (reached : Reaches (answers contract) (program, disk) (rest, after)) : disk.events <+: after.events := by
  refine Reaches.keeps (fun state => disk.events <+: state.events) reached List.prefix_rfl ?_
  exact fun _ _ _ _ _ _ kept answered => kept.trans (answers_events answered)

theorem session_events {program : Task CampaignAdvance} (session : Session (answers contract) program disk after) :
    disk.events <+: after.events := by
  induction session with
  | start => exact List.prefix_rfl
  | run _ reached ih => exact ih.trans (reaches_events reached)

/-! ## Files of events that passed -/

theorem showsPass_event_iff {event : Event} (valid : event.Valid) : ShowsPass platform event.bytes ↔ event.status = .passed := by
  constructor
  · rintro ⟨_, object, read, status⟩
    rw [readObject_event valid, Option.some.injEq] at read
    rw [← read, event.get?_status] at status
    exact StageStatus.name_eq (Value.str.inj (Option.some.inj status))
  · intro passed
    refine ⟨mem_lineBytes event.document, _, readObject_event valid, ?_⟩
    rw [event.get?_status, passed]
    rfl

theorem Settled.showsPass (settled : Settled platform contract disk entries) (member : file ∈ disk.events) :
    ShowsPass platform file.2 := by
  obtain ⟨heads, recorded, _⟩ := settled.recorded
  have listed : file.2 ∈ disk.events.map Prod.snd := List.mem_map_of_mem member
  rw [recorded.events, numbered_contents, Option.toList_none, List.append_nil] at listed
  obtain ⟨event, inside, bytes⟩ := List.mem_map.mp listed
  exact bytes ▸ (showsPass_event_iff (recorded.chained.valid event inside)).mpr (settled.passed event inside)

theorem Recorded.showsPass (recorded : Recorded platform contract disk entries torn heads) {index : Nat}
    (found : disk.events[index]? = some file) (before : index + 1 < disk.events.length) : ShowsPass platform file.2 := by
  have length : disk.events.length = entries.length + torn.toList.length := by
    rw [recorded.events, numbered_length, List.length_append, List.length_map]
  have single : torn.toList.length ≤ 1 := by cases torn <;> simp
  have inside : index < entries.length := by omega
  have event : entries[index]? = some entries[index] := List.getElem?_eq_getElem inside
  rw [recorded.events, numbered_get, List.getElem?_append_left (by rwa [List.length_map]), List.getElem?_map, event] at found
  cases found
  exact (showsPass_event_iff (recorded.chained.valid _ (List.mem_of_getElem? event))).mpr (recorded.passed_at event before)

/-! ## Nothing follows -/

/-- A run that finds a file that shows no pass runs no stage and writes no outcome. -/
theorem reaches_stopped (digests : Hexadecimal platform) (holds : (campaignDuty platform contract).holds disk)
    (member : file ∈ disk.events) (stopped : ¬ ShowsPass platform file.2) {rest : Task CampaignAdvance}
    (reached : Reaches (answers contract) (advanceQualificationCampaign platform, disk) (rest, after)) :
    after.root = disk.root ∧ after.ran = disk.ran := by
  refine Reaches.keeps (fun state => state.root = disk.root ∧ state.ran = disk.ran) reached ⟨rfl, rfl⟩ ?_
  intro op next reply middle last earlier kept answered
  have unsettled (entries : List Event) : ¬ Settled platform contract middle entries :=
    fun settled => stopped (settled.showsPass ((reaches_events earlier).subset member))
  have allowed := ((advance_keeps digests holds).reaches earlier).2.1
  rcases answers_cases answered with rfl | ⟨request, rfl, rfl⟩ | ⟨folder, name, content, written, rfl, rfl⟩
  · exact kept
  · obtain ⟨entries, settled, _⟩ := allowed
    exact absurd settled (unsettled entries)
  · cases folder with
    | events => exact kept
    | heads => exact kept
    | root =>
        obtain ⟨entries, settled, _⟩ := allowed
        exact absurd settled (unsettled entries)

variable {later : Disk}

theorem session_stopped (digests : Hexadecimal platform)
    (session : Session (answers contract) (advanceQualificationCampaign platform) Disk.fresh disk)
    (member : file ∈ disk.events) (stopped : ¬ ShowsPass platform file.2)
    (onwards : Session (answers contract) (advanceQualificationCampaign platform) disk later) :
    later.root = disk.root ∧ later.ran = disk.ran := by
  induction onwards with
  | start => exact ⟨rfl, rfl⟩
  | run earlier reached ih =>
      obtain ⟨root, ran⟩ := ih
      obtain ⟨entries, torn, heads, recorded⟩ := recorded_of_session digests (session.trans earlier)
      have same := reaches_stopped digests recorded.holds ((session_events earlier).subset member) stopped reached
      exact ⟨same.1.trans root, same.2.trans ran⟩

theorem events_stopped (digests : Hexadecimal platform)
    (session : Session (answers contract) (advanceQualificationCampaign platform) Disk.fresh disk)
    (member : file ∈ disk.events) (stopped : ¬ ShowsPass platform file.2)
    (onwards : Session (answers contract) (advanceQualificationCampaign platform) disk later) :
    later.events = disk.events := by
  obtain ⟨entries, torn, heads, recorded⟩ := recorded_of_session digests (session.trans onwards)
  have grown := session_events onwards
  obtain ⟨index, found⟩ := List.mem_iff_getElem?.mp member
  have inside : index < disk.events.length := (List.getElem?_eq_some_iff.mp found).1
  have kept : later.events[index]? = some file := by
    obtain ⟨more, grows⟩ := grown
    rw [← grows, List.getElem?_append_left inside, found]
  have last : ¬ index + 1 < later.events.length := fun before => stopped (recorded.showsPass kept before)
  exact (grown.eq_of_length_le (by omega)).symm

end

theorem reads_manifest {platform : ExportPlatform} {contract : Contract} {serialized : Bytes} {spec : Spec}
    (agreed : contract.manifest serialized) (loaded : loadCampaignSpec platform serialized = some spec) (disk : Disk) :
    ∃ rest, Reaches (answers contract) (advanceQualificationCampaign platform, disk) (rest, disk) := by
  apply Exists.intro
  refine Reaches.ask true rfl (Reaches.require rfl ?_)
  exact Reaches.ask (some serialized) (answers_manifest agreed) (Reaches.orRaise loaded .refl)

end HarnessProxy.Campaign

import HostChannel.Proofs.Aims
import HostChannel.Proofs.Job.Building
import HostChannel.Proofs.Relocation

/-!
# What a job is converted to

A job is converted to one range for each of its pushbuffers and one patch for each of their
relocations. The numbers in them count from the start of allocations and are words, where those of
pushbuffers count from the start of windows and are longer; a job that is converted has ranges and
patches that say the same as its pushbuffers and relocations do.
-/

namespace HostChannel

/-- The range has the words of the pushbuffer. -/
structure CommandRange.Spans (range : CommandRange) (pushbuffer : PushBuffer) : Prop where
  /-- It is in the pushbuffer's allocation. -/
  handle : range.handle = pushbuffer.buffer.handle
  /-- It starts with the first word. -/
  offset : range.offset.toNat = pushbuffer.origin
  /-- It has as many words as were pushed. -/
  words : range.words.toNat = pushbuffer.length

/-- The patch replaces a word of the pushbuffer by an address in an allocation of the ledger, or
just behind it. -/
structure Patch.Aims (ledger : List Allocation) (pushbuffer : PushBuffer) (patch : Patch) :
    Prop where
  /-- It is in the pushbuffer's allocation. -/
  source : patch.source = pushbuffer.buffer.handle
  /-- It is one of the words pushed. -/
  word : ∃ place < pushbuffer.length, patch.sourceOffset.toNat = pushbuffer.origin + 4 * place
  /-- The address is in an allocation of the ledger, or just behind it. -/
  target : ∃ allocation ∈ ledger, patch.target = allocation.handle ∧
    patch.targetOffset.toNat ≤ allocation.size.toNat

namespace PushBuffer

/-- The range of a sound pushbuffer has its words. -/
theorem spans_of_commandRange? {pushbuffer : PushBuffer} (sound : pushbuffer.Sound)
    {range : CommandRange} (made : pushbuffer.commandRange? = .ok range) :
    range.Spans pushbuffer := by
  obtain ⟨offset, start, rest⟩ := Action.checks_eq_ok_iff.mp made
  obtain ⟨words, length, last⟩ := Action.checks_eq_ok_iff.mp rest
  obtain rfl := Except.ok.inj last
  have room := sound.room
  have inside := sound.inside
  have fits := pushbuffer.buffer.size.toNat_lt
  refine ⟨rfl, ?_, ?_⟩
  · rw [toWord?_eq_ok start]
    exact sound.toNat_fromOrigin (Nat.zero_le _) rfl
  · rw [toWord?_eq_ok length, UInt64.toNat_ofNat']
    omega

/-- A patch aims where the relocation that asks for it does. -/
theorem aims_of_patch? {pushbuffer : PushBuffer} (sound : pushbuffer.Sound)
    {ledger : List Allocation} {relocation : Relocation} (aims : relocation.Aims ledger pushbuffer)
    {patch : Patch} (made : pushbuffer.patch? relocation = .ok patch) :
    patch.Aims ledger pushbuffer := by
  obtain ⟨source, sourceOffset, target, targetOffset, -⟩ := patch?_eq_ok made
  obtain ⟨⟨place, inside, located⟩, aimed⟩ := aims
  refine ⟨source, ⟨place, inside, ?_⟩, ?_⟩
  · rw [sourceOffset]
    exact sound.toNat_fromOrigin (Nat.le_trans (Nat.le_of_lt inside) sound.inside) located
  · rwa [target, targetOffset]

/-- The words of a sound pushbuffer end within its allocation. -/
theorem Sound.words_le {pushbuffer : PushBuffer} (sound : pushbuffer.Sound) :
    pushbuffer.origin + 4 * pushbuffer.length ≤ pushbuffer.buffer.allocation.size.toNat := by
  have room := sound.room
  have inside := sound.inside
  have window : pushbuffer.buffer.offset.toNat + pushbuffer.buffer.size.toNat ≤ _ := sound.window
  rw [origin]
  omega

/-- A position that is no word is too large. -/
theorem toWord?_eq_error {value : UInt64} {cause : Error} (failed : toWord? value = .error cause) :
    cause = .offsetOverflow := by
  simp only [toWord?] at failed
  split at failed
  · contradiction
  · exact (Except.error.inj failed).symm

/-- A pushbuffer has no range if a number in it is too large. -/
theorem commandRange?_eq_error {pushbuffer : PushBuffer} {cause : Error}
    (failed : pushbuffer.commandRange? = .error cause) : cause = .offsetOverflow := by
  rcases Action.checks_eq_error_iff.mp failed with start | ⟨_, -, rest⟩
  · exact toWord?_eq_error start
  · rcases Action.checks_eq_error_iff.mp rest with length | ⟨_, -, last⟩
    · exact toWord?_eq_error length
    · contradiction

/-- Nor is there a patch for a relocation if a number in it is too large. -/
theorem patch?_eq_error {pushbuffer : PushBuffer} {relocation : Relocation} {cause : Error}
    (failed : pushbuffer.patch? relocation = .error cause) : cause = .offsetOverflow := by
  rcases Action.checks_eq_error_iff.mp failed with source | ⟨_, -, rest⟩
  · exact toWord?_eq_error source
  · rcases Action.checks_eq_error_iff.mp rest with target | ⟨_, -, last⟩
    · exact toWord?_eq_error target
    · contradiction

end PushBuffer

namespace Job

/-- A job may not be submitted if it has no pushbuffers yet, or was submitted already. -/
theorem checkSubmittable_eq_error {job : Job} {cause : Error}
    (failed : job.checkSubmittable = .error cause) :
    cause = .emptyJob ∨ ∃ state, cause = .invalidState state "Building" := by
  rw [checkSubmittable] at failed
  split at failed
  · exact .inl (Except.error.inj failed).symm
  · contradiction
  · exact .inr ⟨_, (Except.error.inj failed).symm⟩

/-- A job cannot be converted if it has no pushbuffers, if a number in it is too large, or if two of
its relocations are of one word. -/
theorem toSubmission_eq_error {job : Job} {channel : ChannelId} {cause : Error}
    (failed : job.toSubmission channel = .error cause) :
    cause = .emptyJob ∨ cause = .offsetOverflow ∨
      ∃ source offset, cause = .overlappingRelocation source offset := by
  rw [toSubmission] at failed
  split at failed
  · exact .inl (Except.error.inj failed).symm
  · rcases Action.checks_eq_error_iff.mp failed with unspanned | ⟨ranges, -, rest⟩
    · obtain ⟨pushbuffer, -, large⟩ := Action.mapM_eq_error unspanned
      exact .inr (.inl (PushBuffer.commandRange?_eq_error large))
    · rcases Action.checks_eq_error_iff.mp rest with unpatched | ⟨_, -, last⟩
      · obtain ⟨patches, ⟨pushbuffer, relocation⟩, -, step⟩ := Action.foldlM_eq_error unpatched
        rcases Action.checks_eq_error_iff.mp step with large | ⟨patch, -, taken⟩
        · exact .inr (.inl (PushBuffer.patch?_eq_error large))
        · rw [addPatch] at taken
          split at taken
          · exact .inr (.inr ⟨_, _, (Except.error.inj taken).symm⟩)
          · contradiction
      · contradiction

variable {job : Job} (sound : ∀ pushbuffer ∈ job.pushbuffers, pushbuffer.Sound)

include sound

/-- There is one range for each pushbuffer, with its words. -/
theorem ranges_span {ranges : List CommandRange}
    (made : job.pushbuffers.mapM PushBuffer.commandRange? = .ok ranges) :
    job.pushbuffers.length = ranges.length ∧
      ∀ pushbuffer range, (pushbuffer, range) ∈ job.pushbuffers.zip ranges →
        range.Spans pushbuffer := by
  obtain ⟨length, each⟩ := List.forall₂_iff_zip.mp (Action.mapM_eq_ok_iff.mp made)
  exact ⟨length, fun pushbuffer range member =>
    PushBuffer.spans_of_commandRange? (sound pushbuffer (List.of_mem_zip member).1) (each member)⟩

/-- Each patch is that of a relocation of one of the pushbuffers. -/
theorem patches_aim {ledger : List Allocation} (aim : AllAim ledger job.pushbuffers)
    {patches : List Patch} (made : job.patches? = .ok patches) {patch : Patch}
    (member : patch ∈ patches) :
    ∃ pushbuffer ∈ job.pushbuffers, ∃ relocation ∈ pushbuffer.relocations,
      pushbuffer.patch? relocation = .ok patch ∧ patch.Aims ledger pushbuffer := by
  obtain ⟨-, origins, -, -⟩ := foldlM_patches made List.Pairwise.nil
  obtain ⟨⟨pushbuffer, relocation⟩, listed, given⟩ :=
    (origins patch member).resolve_left List.not_mem_nil
  obtain ⟨inJob, recorded⟩ := mem_relocations.mp listed
  exact ⟨pushbuffer, inJob, relocation, recorded, given,
    PushBuffer.aims_of_patch? (sound pushbuffer inJob) (aim pushbuffer inJob relocation recorded)
      given⟩

end Job

end HostChannel

import HostChannel.Proofs.Job.Course
import HostChannel.Proofs.Relocation
import HostChannel.Session.Run

/-!
# Where the relocations of a job are

A pushbuffer is opened at a multiple of a word's length from the start of its window, and pushes
whole words, so its relocations are at such multiples too. A job that is converted has no two
patches at the same position. Where the windows of its pushbuffers start at the same distance from
a word of their allocation, this means that no two patches share a byte; where they do not, the
second word may start in the middle of the first.
-/

namespace HostChannel

namespace PushBuffer

/-- All relocations are at multiples of a word's length from the start of the window. -/
structure Aligned (pushbuffer : PushBuffer) : Prop where
  /-- So is the first word. -/
  start : pushbuffer.start % wordBytes = 0
  /-- Each relocation is. -/
  relocations : ∀ relocation ∈ pushbuffer.relocations, relocation.sourceOffset % wordBytes = 0

/-- A pushbuffer that has just been opened is aligned. -/
theorem aligned_of_ofMapping? {buffer : Buffer} {mapping : Option Mapping} {offset : UInt64}
    {opened : PushBuffer} (made : ofMapping? buffer mapping offset = .ok opened) :
    opened.Aligned := by
  obtain ⟨_, -, aligned, -, rfl⟩ := ofMapping?_eq_ok made
  exact ⟨aligned, fun _ none => absurd none List.not_mem_nil⟩

/-- The next word of an aligned pushbuffer is as many words from the start. -/
theorem Aligned.position {pushbuffer : PushBuffer} (aligned : pushbuffer.Aligned) :
    pushbuffer.position % wordBytes = 0 := by
  have start := congrArg UInt64.toNat aligned.start
  apply UInt64.toNat.inj
  simp only [PushBuffer.position, wordBytes, UInt64.toNat_mod, UInt64.toNat_add, UInt64.toNat_mul,
    UInt64.reduceToNat] at start ⊢
  omega

/-- A pushbuffer stays aligned when it is written to. -/
theorem Aligned.grown {before after : PushBuffer} (aligned : before.Aligned)
    (grown : before.Grown after) : after.Aligned := by
  obtain ⟨count, relocations, rfl, places⟩ := grown
  refine ⟨aligned.start, fun relocation member => ?_⟩
  rcases List.mem_append.mp member with earlier | new
  · exact aligned.relocations relocation earlier
  · rw [places relocation new]
    exact aligned.position

/-- The patch of a relocation is as far from a word of the allocation as the window. -/
theorem Aligned.patch {pushbuffer : PushBuffer} (aligned : pushbuffer.Aligned)
    {relocation : Relocation} (listed : relocation ∈ pushbuffer.relocations) {patch : Patch}
    (made : pushbuffer.patch? relocation = .ok patch) :
    patch.source = pushbuffer.buffer.handle ∧
      patch.sourceOffset.toNat % 4 = pushbuffer.buffer.offset.toNat % 4 := by
  obtain ⟨source, place, -⟩ := patch?_eq_ok made
  have multiple := congrArg UInt64.toNat (aligned.relocations relocation listed)
  refine ⟨source, ?_⟩
  simp only [wordBytes, UInt64.toNat_mod, UInt64.toNat_add, UInt64.reduceToNat] at multiple place
  omega

end PushBuffer

namespace Job

variable {σ : Type}

/-- Whatever a call does, the pushbuffers of a job stay aligned. -/
theorem Advance.aligned {before after : Job × Attestation} (advance : Advance before after)
    (aligned : ∀ pushbuffer ∈ before.1.pushbuffers, pushbuffer.Aligned) :
    ∀ pushbuffer ∈ after.1.pushbuffers, pushbuffer.Aligned := by
  cases advance with
  | stay => exact aligned
  | append building made =>
    intro pushbuffer member
    rcases List.mem_append.mp member with earlier | new
    · exact aligned pushbuffer earlier
    · exact List.mem_singleton.mp new ▸ PushBuffer.aligned_of_ofMapping? made
  | write building found written =>
    intro pushbuffer member
    rcases List.mem_or_eq_of_mem_set member with earlier | rfl
    · exact aligned pushbuffer earlier
    · exact (aligned _ (List.mem_of_getElem? found)).grown written
  | submit value submittable converted => exact aligned
  | flush given =>
    obtain ⟨-, ⟨-, rfl⟩ | rfl⟩ := flushed_eq_ok given
    · exact aligned
    · exact aligned
  | @wait job accepted fence outcome allowed =>
    obtain ⟨-, same⟩ | ⟨-, same | same⟩ := job.waited_cases outcome
    all_goals exact same.symm ▸ aligned

/-- Along a path of advances, the pushbuffers of a job stay aligned. -/
theorem aligned_of_path {before after : Job × Attestation}
    (path : Relation.ReflTransGen Advance before after)
    (aligned : ∀ pushbuffer ∈ before.1.pushbuffers, pushbuffer.Aligned) :
    ∀ pushbuffer ∈ after.1.pushbuffers, pushbuffer.Aligned := by
  induction path with
  | refl => exact aligned
  | tail _ advance held => exact advance.aligned held

/-- The windows of pushbuffers on one allocation start at the same distance from a word of it. -/
def WindowsCongruent (job : Job) : Prop :=
  ∀ first ∈ job.pushbuffers, ∀ second ∈ job.pushbuffers,
    first.buffer.handle = second.buffer.handle →
      first.buffer.offset % PushBuffer.wordBytes = second.buffer.offset % PushBuffer.wordBytes

/-- However a job was built, its patches are at different positions once it is converted, and
share no byte if its windows are congruent. -/
theorem converted_patches_apart [Device σ] (syncpoint increments : Word) (host : Host σ)
    (steps : List (JobStep σ)) {channel : ChannelId} {submission : Submission}
    (converted : (course syncpoint increments host steps).1.toSubmission channel = .ok submission) :
    (submission.patches.Pairwise fun first second => ¬ first.SamePlace second) ∧
      ((course syncpoint increments host steps).1.WindowsCongruent →
        submission.patches.Pairwise Patch.Apart) := by
  have aligned := aligned_of_path (JobStep.run_path steps (begun syncpoint increments host))
    fun _ none => absurd none List.not_mem_nil
  change ∀ pushbuffer ∈ (course syncpoint increments host steps).1.pushbuffers, _ at aligned
  generalize (course syncpoint increments host steps).1 = job at converted aligned
  obtain ⟨distinct, origins, -, -⟩ :=
    foldlM_patches (toSubmission_eq_ok converted).2.2 List.Pairwise.nil
  refine ⟨distinct, fun congruent => ?_⟩
  refine distinct.imp_of_mem fun {first second} inFirst inSecond different same => ?_
  have place : ∀ patch ∈ submission.patches, ∃ pushbuffer ∈ job.pushbuffers,
      patch.source = pushbuffer.buffer.handle ∧
        patch.sourceOffset.toNat % 4 = pushbuffer.buffer.offset.toNat % 4 := by
    intro patch member
    obtain ⟨entry, listed, made⟩ := (origins patch member).resolve_left List.not_mem_nil
    obtain ⟨inJob, recorded⟩ := mem_relocations.mp listed
    exact ⟨entry.1, inJob, (aligned entry.1 inJob).patch recorded made⟩
  obtain ⟨one, inOne, sourceOne, distanceOne⟩ := place first inFirst
  obtain ⟨other, inOther, sourceOther, distanceOther⟩ := place second inSecond
  have windows := congrArg UInt64.toNat
    (congruent one inOne other inOther (sourceOne.symm.trans (same.trans sourceOther)))
  have apart : first.sourceOffset.toNat ≠ second.sourceOffset.toNat :=
    fun equal => different ⟨same, UInt32.toNat.inj equal⟩
  simp only [PushBuffer.wordBytes, UInt64.toNat_mod, UInt64.reduceToNat] at windows
  omega

/-- A buffer of 64 bytes on the simulated device, which the processor can reach. -/
def mappedHost : Host (Instrumented Simulator) :=
  ((Session.initial .standard).run
    [.buffer (.allocate "buffer" 64 ⟨0⟩ false), .buffer (.map none "buffer")]).host

/-- A window of it that starts in the middle of a word. -/
def middle (offset : UInt64) : Buffer :=
  ⟨⟨0, 1, 64, ⟨0⟩⟩, offset, 32, .window⟩

/-- The patches of two such windows that start equally far from a word share no byte. -/
theorem congruent_windows_apart :
    ∃ submission, (course 0 1 mappedHost [.append (middle 2) 0, .append (middle 6) 0,
        .write 0 (.relocate (middle 2) 0 0), .write 1 (.relocate (middle 2) 8 4)]).1.toSubmission 0 =
          .ok submission ∧ submission.patches.Pairwise Patch.Apart := by
  have congruent : (course 0 1 mappedHost [.append (middle 2) 0, .append (middle 6) 0,
      .write 0 (.relocate (middle 2) 0 0),
      .write 1 (.relocate (middle 2) 8 4)]).1.WindowsCongruent := by
    unfold WindowsCongruent
    decide +kernel
  exact ⟨⟨0, 0, 1, [⟨1, 2, 1⟩, ⟨1, 6, 1⟩], [⟨1, 2, 1, 2, 0⟩, ⟨1, 6, 1, 10, 4⟩]⟩, rfl,
    (converted_patches_apart 0 1 mappedHost _ rfl).2 congruent⟩

end Job

namespace Session

/-- Two relocations of a job, one in a buffer and one in a window in the middle of its first
word. -/
def straddlingOperations : List Operation :=
  [.buffer (.allocate "buffer" 64 ⟨0⟩ false),
    .buffer (.map none "buffer"),
    .buffer (.window "window" "buffer" 2 32),
    .job (.newJob "job" 0 1),
    .job (.append "job" "buffer" 0),
    .pushbuffer (.relocate (.inJob "job" 0) "buffer" 0 0),
    .job (.append "job" "window" 0),
    .pushbuffer (.relocate (.inJob "job" 1) "buffer" 0 0)]

/-- The job is converted, although the second of its patches starts in the middle of the first. -/
theorem straddling_patches_accepted :
    ∃ submission, (perform (.job (.toSubmission "job" 0))
        ((initial .standard).run straddlingOperations)).1 = .ok (.submission submission) ∧
      ¬ submission.patches.Pairwise Patch.Apart := by
  refine ⟨⟨0, 0, 1, [⟨1, 0, 1⟩, ⟨1, 2, 1⟩], [⟨1, 0, 1, 0, 0⟩, ⟨1, 2, 1, 0, 0⟩]⟩, rfl, ?_⟩
  unfold Patch.Apart
  decide

end Session

end HostChannel

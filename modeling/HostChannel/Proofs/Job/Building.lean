import HostChannel.Job
import HostChannel.Proofs.PushBuffer

/-!
# Building a job

What a call that builds a job can do to it, on any device. Appending is refused and does
nothing, or puts a pushbuffer that has just been opened at the end and makes the job one more
holder of its allocation. Pushing makes a pushbuffer longer and may record relocations, each at
the place of the word pushed (`PushBuffer.Grown`).
-/

namespace HostChannel

namespace PushBuffer

variable {σ : Type}

/-- Opening a pushbuffer is refused and does nothing, or retains the allocation. -/
theorem openAt_cases (buffer : Buffer) (offset : UInt64) (host : Host σ) :
    (∃ cause, openAt buffer offset host = (.error (.refused cause), host)) ∨
      ∃ opened, ofMapping? buffer (buffer.mapping? host) offset = .ok opened ∧
        openAt buffer offset host = (.ok opened, host.retain buffer.allocation) := by
  cases made : ofMapping? buffer (buffer.mapping? host) offset with
  | error cause =>
    refine .inl ⟨cause, ?_⟩
    simp only [openAt, Action.bind_apply, Action.read_apply, made]
    rfl
  | ok opened =>
    refine .inr ⟨opened, rfl, ?_⟩
    simp only [openAt, Action.bind_apply, Action.read_apply, made, Action.check_ok,
      Action.update_apply, Action.pure_apply]

/-- On a mapped buffer a pushbuffer is opened at the start of each word and at the end, with room for
the words behind. -/
theorem openAt_eq_ok_iff {host after : Host σ} {buffer : Buffer} {region : Region}
    (mapped : host.region? buffer.allocation = some region) {offset : UInt64}
    {opened : PushBuffer} :
    openAt buffer offset host = (.ok opened, after) ↔
      (offset.toNat % 4 = 0 ∧ offset.toNat ≤ buffer.size.toNat) ∧
        opened = ⟨buffer, buffer.mappingOf region, offset, 0,
          (buffer.size.toNat - offset.toNat) / 4, []⟩ ∧
        after = host.retain buffer.allocation := by
  have aligned : offset % wordBytes = 0 ↔ offset.toNat % 4 = 0 := by
    rw [← UInt64.toNat_inj, UInt64.toNat_mod]
    rfl
  have mapping : buffer.mapping? host = some (buffer.mappingOf region) := by
    rw [Buffer.mapping?, mapped, Option.map_some]
  have room (within : offset ≤ buffer.size) :
      ((buffer.size - offset) / wordBytes).toNat =
        (buffer.size.toNat - offset.toNat) / 4 := by
    rw [UInt64.toNat_div, UInt64.toNat_sub_of_le _ _ within]
    rfl
  constructor
  · intro made
    rcases openAt_cases buffer offset host with ⟨cause, refused⟩ | ⟨found, opens, run⟩
    · rw [refused] at made
      simp at made
    · obtain ⟨same, rfl⟩ := Prod.mk.inj (made.symm.trans run)
      obtain rfl := Except.ok.inj same
      rw [mapping] at opens
      obtain ⟨view, shared, whole, within, rfl⟩ := ofMapping?_eq_ok opens
      obtain rfl := Option.some.inj shared
      rw [room within]
      exact ⟨⟨aligned.mp whole, UInt64.le_iff_toNat_le.mp within⟩, rfl, rfl⟩
  · rintro ⟨⟨whole, within⟩, rfl, rfl⟩
    have fits : offset ≤ buffer.size := UInt64.le_iff_toNat_le.mpr within
    have opens : ofMapping? buffer (some (buffer.mappingOf region)) offset =
        .ok ⟨buffer, buffer.mappingOf region, offset, 0,
          ((buffer.size - offset) / wordBytes).toNat, []⟩ := by
      simp only [ofMapping?]
      rw [if_neg (not_not.mpr (aligned.mpr whole)), if_neg (UInt64.not_lt.mpr fits)]
    simp only [openAt, Action.bind_apply, Action.read_apply, mapping, opens,
      Action.check_ok, Action.update_apply, Action.pure_apply, room fits]

/-- The second pushbuffer is the first after a push: it is longer, and the relocations recorded
are at the place of the word pushed. -/
def Grown (before after : PushBuffer) : Prop :=
  ∃ count relocations,
    after = { before with
      length := before.length + count
      relocations := before.relocations ++ relocations } ∧
      ∀ relocation ∈ relocations, relocation.sourceOffset = before.position

/-- A pushbuffer that grows stays on its buffer. -/
theorem Grown.buffer_eq {before after : PushBuffer} (grown : before.Grown after) :
    after.buffer = before.buffer := by
  obtain ⟨_, _, rfl, -⟩ := grown
  rfl

/-- Pushing words records no relocation. -/
theorem grown_of_pushWords [Device σ] {before after : PushBuffer} {words : List Word}
    {device last : σ} (pushed : before.pushWords words device = (.ok after, last)) :
    before.Grown after := by
  obtain ⟨_, _, -, rest⟩ := Action.bind_eq_ok_iff.mp pushed
  obtain ⟨_, _, -, made⟩ := Action.bind_eq_ok_iff.mp rest
  obtain ⟨rfl, -⟩ := Action.pure_eq_ok_iff.mp made
  exact ⟨words.length, [], by rw [List.append_nil], fun _ none => absurd none List.not_mem_nil⟩

/-- Relocating records one, at the place of the placeholder. -/
theorem grown_of_relocate [Device σ] {before after : PushBuffer} {target : Buffer}
    {offset : UInt64} {shift : Word} {device last : σ}
    (pushed : before.relocate target offset shift device = (.ok after, last)) :
    before.Grown after := by
  obtain ⟨_, _, -, first⟩ := Action.bind_eq_ok_iff.mp pushed
  obtain ⟨_, _, -, second⟩ := Action.bind_eq_ok_iff.mp first
  obtain ⟨grown, _, written, made⟩ := Action.bind_eq_ok_iff.mp second
  obtain ⟨rfl, -⟩ := Action.pure_eq_ok_iff.mp made
  obtain ⟨count, relocations, rfl, places⟩ := grown_of_pushWords written
  refine ⟨count, relocations ++ [⟨before.position, target.handle, target.offset + offset, shift⟩],
    by rw [← List.append_assoc], fun relocation member => ?_⟩
  rcases List.mem_append.mp member with earlier | new
  · exact places relocation earlier
  · rw [List.mem_singleton.mp new]

/-- An address that is pushed is not past the end of its target. -/
theorem offset_le_of_relocate [Device σ] {before after : PushBuffer} {target : Buffer}
    {offset : UInt64} {shift : Word} {device last : σ}
    (pushed : before.relocate target offset shift device = (.ok after, last)) :
    offset ≤ target.size := by
  obtain ⟨_, _, -, first⟩ := Action.bind_eq_ok_iff.mp pushed
  obtain ⟨_, _, checked, -⟩ := Action.bind_eq_ok_iff.mp first
  have passed := (Action.check_eq_ok_iff.mp checked).1
  rw [checkTarget] at passed
  split at passed
  · contradiction
  · rename_i within
    exact UInt64.not_lt.mp within

end PushBuffer

namespace Job

variable {σ : Type}

/-- Appending to a job is refused and does nothing, or opens a pushbuffer at its end. -/
theorem append_cases (job : Job) (buffer : Buffer) (offset : UInt64) (host : Host σ) :
    (∃ cause, job.append buffer offset host = (.error (.refused cause), host)) ∨
      ∃ opened, job.checkBuilding = .ok () ∧
        PushBuffer.ofMapping? buffer (buffer.mapping? host) offset = .ok opened ∧
        job.append buffer offset host =
          (.ok { job with pushbuffers := job.pushbuffers ++ [opened], state := .building },
            host.retain buffer.allocation) := by
  cases building : job.checkBuilding with
  | error cause =>
    refine .inl ⟨cause, ?_⟩
    rw [append, building]
    rfl
  | ok _ =>
    rcases PushBuffer.openAt_cases buffer offset host with
      ⟨cause, refused⟩ | ⟨opened, made, accepted⟩
    · refine .inl ⟨cause, ?_⟩
      simp only [append, Action.bind_apply, building, Action.check_ok, refused]
    · refine .inr ⟨opened, rfl, made, ?_⟩
      simp only [append, Action.bind_apply, building, Action.check_ok, accepted, Action.pure_apply]

/-- A pushbuffer of a job may be changed exactly when the job is being built and has it. -/
theorem pushbuffer?_eq_ok_iff {job : Job} {index : Nat} {pushbuffer : PushBuffer} :
    job.pushbuffer? index = .ok pushbuffer ↔
      job.checkBuilding = .ok () ∧ job.pushbuffers[index]? = some pushbuffer := by
  rw [pushbuffer?, Action.checks_eq_ok_iff]
  constructor
  · rintro ⟨⟨⟩, building, made⟩
    refine ⟨building, ?_⟩
    split at made
    · rename_i found
      obtain rfl := Except.ok.inj made
      exact found
    · contradiction
  · rintro ⟨building, found⟩
    refine ⟨(), building, ?_⟩
    rw [found]
    rfl

/-- What a device is given is made of the ranges and the patches of the job. -/
theorem parts_of_toSubmission {job : Job} {channel : ChannelId} {submission : Submission}
    (made : job.toSubmission channel = .ok submission) :
    ∃ ranges patches, job.pushbuffers.mapM PushBuffer.commandRange? = .ok ranges ∧
      job.patches? = .ok patches ∧
      submission = ⟨channel, job.syncpoint, job.increments, ranges, patches⟩ := by
  rw [toSubmission] at made
  split at made
  · contradiction
  · obtain ⟨ranges, spanned, rest⟩ := Action.checks_eq_ok_iff.mp made
    obtain ⟨patches, given, last⟩ := Action.checks_eq_ok_iff.mp rest
    exact ⟨ranges, patches, spanned, given, (Except.ok.inj last).symm⟩

/-- It has the syncpoint, the increments and the patches of the job. -/
theorem toSubmission_eq_ok {job : Job} {channel : ChannelId} {submission : Submission}
    (made : job.toSubmission channel = .ok submission) :
    submission.syncpoint = job.syncpoint ∧ submission.increments = job.increments ∧
      job.patches? = .ok submission.patches := by
  obtain ⟨_, _, -, given, rfl⟩ := parts_of_toSubmission made
  exact ⟨rfl, rfl, given⟩

end Job

end HostChannel

import HostChannel.Proofs.Job.Course

/-!
# Room in the pushbuffers of a job

A pushbuffer has room for the words up to the end of its window and takes no more of them. This
holds of every pushbuffer of a job, whatever is done with the job and whatever the device answers,
so making the words of a job visible never reaches past a window.
-/

namespace HostChannel

namespace PushBuffer

/-- All words that a pushbuffer may hold are in its window, and it holds no more. -/
structure Roomy (pushbuffer : PushBuffer) : Prop where
  /-- There is room for all words. -/
  room : pushbuffer.start.toNat + 4 * pushbuffer.capacity ≤ pushbuffer.buffer.size.toNat
  /-- No more words are pushed than there is room for. -/
  inside : pushbuffer.length ≤ pushbuffer.capacity

/-- A pushbuffer that has just been opened has room up to the end of its window. -/
theorem roomy_ofMapping? {buffer : Buffer} {mapping : Option Mapping} {offset : UInt64}
    {opened : PushBuffer} (made : ofMapping? buffer mapping offset = .ok opened) :
    opened.Roomy := by
  obtain ⟨_, -, -, fits, rfl⟩ := ofMapping?_eq_ok made
  exact ⟨room_of_le fits, Nat.zero_le _⟩

variable {σ : Type} [Device σ] {before after : PushBuffer} {device last : σ}

/-- Words are pushed only where there is room for them. -/
theorem Roomy.pushWords (roomy : before.Roomy) {words : List Word}
    (pushed : before.pushWords words device = (.ok after, last)) : after.Roomy := by
  obtain ⟨_, _, checked, rest⟩ := Action.bind_eq_ok_iff.mp pushed
  obtain ⟨_, _, -, made⟩ := Action.bind_eq_ok_iff.mp rest
  obtain ⟨rfl, -⟩ := Action.pure_eq_ok_iff.mp made
  have passed := (Action.check_eq_ok_iff.mp checked).1
  rw [checkRoom, remaining] at passed
  split at passed
  · contradiction
  · have inside := roomy.inside
    exact ⟨roomy.room, show before.length + words.length ≤ before.capacity by omega⟩

/-- So are placeholders. -/
theorem Roomy.relocate (roomy : before.Roomy) {target : Buffer} {offset : UInt64} {shift : Word}
    (pushed : before.relocate target offset shift device = (.ok after, last)) : after.Roomy := by
  obtain ⟨_, _, -, first⟩ := Action.bind_eq_ok_iff.mp pushed
  obtain ⟨_, _, -, second⟩ := Action.bind_eq_ok_iff.mp first
  obtain ⟨grown, _, written, made⟩ := Action.bind_eq_ok_iff.mp second
  obtain ⟨rfl, -⟩ := Action.pure_eq_ok_iff.mp made
  have pushedOne := roomy.pushWords written
  exact ⟨pushedOne.room, pushedOne.inside⟩

/-- However a pushbuffer is written to, it holds no more than it has room for. -/
theorem Roomy.perform (roomy : before.Roomy) {change : PushBufferWrite}
    (made : change.perform before device = (.ok after, last)) : after.Roomy := by
  cases change with
  | push word => exact roomy.pushWords made
  | pushSingle number => exact roomy.pushWords made
  | pushWords words => exact roomy.pushWords made
  | relocate target offset shift => exact roomy.relocate made

/-- The bytes of the words pushed are in the window. -/
theorem Roomy.checkRange_written {pushbuffer : PushBuffer} (roomy : pushbuffer.Roomy) :
    checkRange pushbuffer.start (UInt64.ofNat pushbuffer.length * wordBytes)
      pushbuffer.buffer.size = .ok () := by
  have room := roomy.room
  have inside := roomy.inside
  have fits := pushbuffer.buffer.size.toNat_lt
  have written : (UInt64.ofNat pushbuffer.length * wordBytes).toNat = 4 * pushbuffer.length := by
    simp only [wordBytes, UInt64.toNat_mul, UInt64.toNat_ofNat', UInt64.reduceToNat]
    omega
  rw [checkRange_eq_ok_iff, written]
  omega

end PushBuffer

/-- All pushbuffers of the job are roomy. -/
def Job.Roomy (job : Job) : Prop :=
  ∀ pushbuffer ∈ job.pushbuffers, pushbuffer.Roomy

/-- At every point of its course the pushbuffers of a job are roomy. -/
theorem Job.course_roomy {σ : Type} [Device σ] (syncpoint increments : Word) (host : Host σ)
    (steps : List (JobStep σ)) : (course syncpoint increments host steps).1.Roomy :=
  course_keeps syncpoint increments host fun _ _ =>
    ⟨fun _ _ _ _ _ opening => PushBuffer.roomy_ofMapping? opening,
      fun _ _ _ _ _ _ _ roomy pushed => roomy.perform pushed⟩

end HostChannel

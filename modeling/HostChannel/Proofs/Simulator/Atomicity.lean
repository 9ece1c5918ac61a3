import HostChannel.Proofs.Exchange
import HostChannel.Proofs.Simulator.Acceptance
import HostChannel.Proofs.Simulator.Pool
import HostChannel.Proofs.Simulator.Requests

/-!
# What a refused call leaves of the simulated device

The simulated device looks before it changes anything: each call first finds what it needs, which
keeps the state, and nothing that it does afterwards is refused. So a call that is refused leaves
the whole device as it was (`Action.Atomic`). A submission has most to look for; once its check is
passed, the patches, the reservation and the execution that follow all succeed.
-/

namespace HostChannel

namespace Action

variable {σ α β : Type}

/-- An action that is refused leaves the state as it was. -/
def Atomic (action : Action σ α) : Prop :=
  ∀ state cause after, action state = (.error (.refused cause), after) → after = state

namespace Atomic

/-- What keeps the state in any case is atomic. -/
theorem of_moves {action : Action σ α} (kept : Moves (· = ·) action) : Atomic action := by
  intro state cause after refused
  have stayed := kept state
  rw [refused] at stayed
  exact stayed.symm

/-- A pure action is not refused. -/
theorem pure (value : α) : Atomic (pure value : Action σ α) :=
  fun _ _ _ refused => by simp at refused

/-- An update, and saying something after it, is not refused. -/
theorem update (change : σ → σ) (value : β) :
    Atomic (Action.update change >>= fun _ => Pure.pure value) :=
  fun _ _ _ refused => by simp [update_bind] at refused

/-- What looks first, and is atomic in what it does then, is atomic. -/
theorem bind {first : Action σ α} {second : α → Action σ β} (looks : Moves (· = ·) first)
    (rest : ∀ value, Atomic (second value)) : Atomic (first >>= second) := by
  intro state cause after refused
  have stayed := looks state
  rcases bind_eq_error_iff.mp refused with start | ⟨value, between, given, later⟩
  · rw [start] at stayed
    exact stayed.symm
  · rw [given] at stayed
    obtain rfl : state = between := stayed
    exact rest value state cause after later

end Atomic

end Action

namespace Simulator

open HostChannel.Action (Atomic Moves)

/-- Allocating is refused before a handle or an address is taken. -/
theorem allocate_atomic (size : UInt64) : Atomic (allocate size) := by
  intro simulator cause after refused
  simp only [allocate] at refused
  split at refused
  · exact (Prod.mk.inj refused).2.symm
  · split at refused
    · simp at refused
    · split at refused <;> simp at refused

/-- Opening a channel is refused before a syncpoint is taken. -/
theorem openChannel_atomic (engineClass : Word) : Atomic (openChannel engineClass) := by
  intro simulator cause after refused
  rcases openChannel_cases engineClass simulator with
    ⟨-, _, made⟩ | ⟨-, -, made⟩ | ⟨-, -, made⟩
  · exact (Prod.mk.inj (refused.symm.trans made)).2
  · simp [made] at refused
  · simp [made] at refused

/-- Closing one is refused only where there is nothing to close. -/
theorem closeChannel_atomic (name : ChannelId) : Atomic (closeChannel name) := by
  intro simulator cause after refused
  rcases closeChannel_cases name simulator with ⟨-, made⟩ | ⟨_, -, made⟩
  · exact (Prod.mk.inj (refused.symm.trans made)).2
  · simp [made] at refused

/-- Releasing a buffer finds it first. -/
theorem release_atomic (handle : Handle) : Atomic (release handle) :=
  Atomic.bind (findBuffer_moves handle) fun _ => Atomic.update _ ()

/-- A submission that passes its check is accepted. -/
theorem submit_of_validate {submission : Submission} {simulator after : Simulator}
    (passed : validate submission simulator = (.ok (), after)) :
    ∃ fence, (submit submission simulator).1 = .ok fence := by
  obtain ⟨syncpoint, -, accepted⟩ := submit_of_accepts (validate_eq_ok_iff.mp passed).1
  exact ⟨_, congrArg Prod.fst accepted⟩

/-- A submission is refused exactly as its check is. -/
theorem submit_eq_error_iff {submission : Submission} {simulator after : Simulator}
    {failure : Failure} :
    submit submission simulator = (.error failure, after) ↔
      validate submission simulator = (.error failure, after) := by
  constructor
  · intro refused
    cases checked : validate submission simulator with
    | mk outcome between =>
      cases outcome with
      | ok value =>
        obtain ⟨fence, accepted⟩ := submit_of_validate checked
        simp [refused] at accepted
      | error other =>
        rw [submit, Action.bind_apply_of_error checked] at refused
        obtain ⟨same, rfl⟩ := Prod.mk.inj refused
        obtain rfl := Except.error.inj same
        rfl
  · intro refused
    rw [submit, Action.bind_apply_of_error refused]

/-- So a submission that is refused has patched and reserved nothing. -/
theorem submit_atomic (submission : Submission) : Atomic (submit submission) := by
  intro simulator cause after refused
  exact Atomic.of_moves (validate_moves submission) simulator cause after
    (submit_eq_error_iff.mp refused)

/-- Incrementing a syncpoint finds it first. -/
theorem incrementSyncpoint_atomic (index : Word) (times : Nat) :
    Atomic (incrementSyncpoint index times) :=
  Atomic.bind (findSyncpoint_moves index) fun _ => Atomic.update _ _

/-- Every call of the device is atomic. -/
theorem make_atomic (call : Call) : Atomic (call.make : Action Simulator call.Answer) := by
  cases call with
  | allocate size flags => exact allocate_atomic size
  | release handle => exact release_atomic handle
  | map handle => exact Atomic.bind (findBuffer_moves handle) fun _ => Atomic.pure _
  | flush handle offset length =>
    exact Atomic.bind (findRange_moves handle offset length) fun _ => Atomic.update _ ()
  | invalidate handle offset length =>
    exact Atomic.bind (findRange_moves handle offset length) fun _ => Atomic.update _ ()
  | openChannel engineClass => exact openChannel_atomic engineClass
  | closeChannel channel => exact closeChannel_atomic channel
  | submit submission => exact submit_atomic submission
  | flushSubmissions channel => exact Atomic.pure ()
  | readSyncpoint index => exact Atomic.of_moves (readSyncpoint_moves index)
  | waitSyncpoint index threshold timeout =>
    exact Atomic.of_moves (waitSyncpoint_moves index threshold timeout)

/-- Whatever state the device is in, a call that is refused, also one to increment a syncpoint,
leaves all of it as it was; and a submission is refused exactly as its check is, for the same cause,
so that nothing fails any more once the check is passed. -/
theorem refused_calls_change_nothing (simulator : Simulator) :
    (∀ (call : Call) cause after,
        call.make simulator = (.error (.refused cause), after) → after = simulator) ∧
      (∀ index times cause after,
        incrementSyncpoint index times simulator = (.error (.refused cause), after) →
          after = simulator) ∧
      (∀ submission failure after,
        submit submission simulator = (.error failure, after) ↔
          validate submission simulator = (.error failure, after)) ∧
      ∀ submission after, validate submission simulator = (.ok (), after) →
        ∃ fence, (submit submission simulator).1 = .ok fence :=
  ⟨fun call => make_atomic call simulator,
    fun index times => incrementSyncpoint_atomic index times simulator,
    fun _ _ _ => submit_eq_error_iff, fun _ _ => submit_of_validate⟩

/-- A channel and a buffer on a device. -/
def prepared : Simulator :=
  (initial ⟨.immediate, 1, 1⟩).after [.call (.openChannel 1), .call (.allocate 64 ⟨0⟩)]

/-- A submission of two patches, the second of which replaces a word at a position. -/
def patching (position : Word) : Submission :=
  ⟨0, 0, 1, [⟨1, 0, 2⟩], [⟨1, 0, 1, 8, 0⟩, ⟨1, position, 1, 8, 0⟩]⟩

/-- The first patch of a submission is not applied if the second is past the end of its buffer, and
both are if it is not. -/
theorem late_patch_changes_nothing :
    ((submit (patching 64) prepared).1 = .error (.refused (.rangeOutOfBounds 64 4 64)) ∧
        (submit (patching 64) prepared).2 = prepared) ∧
      (incrementSyncpoint 1 1 prepared).2 = prepared ∧
      ∃ fence, (submit (patching 60) prepared).1 = .ok fence := by
  have refused : (submit (patching 64) prepared).1 =
      .error (.refused (.rangeOutOfBounds 64 4 64)) := rfl
  have missing : (incrementSyncpoint 1 1 prepared).1 = .error (.refused (.noSyncpoint 1)) := rfl
  have passed : (validate (patching 60) prepared).1 = .ok () := rfl
  obtain ⟨calls, increments, -, accepted⟩ := refused_calls_change_nothing prepared
  exact ⟨⟨refused, calls (.submit (patching 64)) _ _ (Prod.ext refused rfl)⟩,
    increments 1 1 _ _ (Prod.ext missing rfl),
    accepted (patching 60) (validate (patching 60) prepared).2 (Prod.ext passed rfl)⟩

end Simulator

end HostChannel

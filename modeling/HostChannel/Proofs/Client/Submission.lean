import HostChannel.Client
import HostChannel.Proofs.Action

/-!
# Submitting a job

A submission that succeeds has passed every check on the way: the job was being built, its
words were made visible, the device accepted what the job was converted to, and the job holds
the fence that the device answered. `submit_eq_ok_iff` takes it apart.
-/

namespace HostChannel.Client

variable {σ : Type}

/-- An action on the device leaves the job beside it alone. -/
theorem onDevice_apply {α : Type} (action : Action σ α) (job : Job) (device : σ) :
    onDevice action (job, device) = ((action device).1, (job, (action device).2)) := rfl

/-- An action on the device ends beside a job as it does by itself. -/
theorem onDevice_eq_iff {α : Type} {action : Action σ α} {job : Job} {device : σ}
    {outcome : Except Failure α} {after : Job × σ} :
    onDevice action (job, device) = (outcome, after) ↔
      ∃ between, action device = (outcome, between) ∧ after = (job, between) := by
  rw [onDevice_apply]
  constructor
  · intro run
    obtain ⟨answered, rfl⟩ := Prod.mk.inj run
    exact ⟨(action device).2, Prod.ext answered rfl, rfl⟩
  · rintro ⟨between, run, rfl⟩
    rw [run]

/-- Actions on the device one after the other are one action on the device. -/
theorem forM_onDevice {α : Type} (action : α → Action σ Unit) (elements : List α) :
    (elements.forM fun element => onDevice (action element)) = onDevice (elements.forM action) := by
  funext state
  obtain ⟨job, device⟩ := state
  induction elements generalizing device with
  | nil => rfl
  | cons head rest ih =>
    change (onDevice (action head) >>= fun _ => rest.forM fun element => onDevice (action element))
      (job, device) = onDevice (action head >>= fun _ => rest.forM action) (job, device)
    rw [Action.bind_apply, onDevice_apply, onDevice_apply, Action.bind_apply]
    cases made : action head device with
    | mk outcome between =>
      cases outcome with
      | error failure => rfl
      | ok value => exact ih between

/-- Submitting succeeds exactly when the job is being built, its words can be made visible, it
can be converted, and the device accepts what it is given. -/
theorem submit_eq_ok_iff [Device σ] {client : Client} {job : Job} {device : σ}
    {after : Job × σ} :
    client.submit (job, device) = (.ok (), after) ↔
      job.checkSubmittable = .ok () ∧
        ∃ between submission value final,
          job.pushbuffers.forM PushBuffer.flushWritten device = (.ok (), between) ∧
            job.toSubmission client.channel.id = .ok submission ∧
            Device.submit submission between = (.ok value, final) ∧
            after = (job.submitted ⟨submission.syncpoint, value⟩, final) := by
  simp only [submit, Action.bind_eq_ok_iff, Action.read_apply, Prod.mk.injEq, Except.ok.injEq]
  constructor
  · rintro ⟨_, _, ⟨rfl, rfl⟩, ⟨⟩, between, first, ⟨⟩, visible, second, submission, _, third, value,
      final, fourth, last⟩
    obtain ⟨submittable, rfl⟩ := Action.check_eq_ok_iff.mp first
    rw [forM_onDevice, onDevice_eq_iff] at second
    obtain ⟨written, flushed, rfl⟩ := second
    obtain ⟨converted, rfl⟩ := Action.check_eq_ok_iff.mp third
    obtain ⟨device, accepted, rfl⟩ := onDevice_eq_iff.mp fourth
    exact ⟨submittable, written, submission, value, device, flushed, converted, accepted,
      (Prod.mk.inj last).2.symm⟩
  · rintro ⟨submittable, between, submission, value, final, flushed, converted, accepted, rfl⟩
    refine ⟨job, (job, device), ⟨rfl, rfl⟩, (), (job, device),
      Action.check_eq_ok_iff.mpr ⟨submittable, rfl⟩, (), (job, between), ?_, submission,
      (job, between), Action.check_eq_ok_iff.mpr ⟨converted, rfl⟩, value, (job, final),
      onDevice_eq_iff.mpr ⟨final, accepted, rfl⟩, rfl⟩
    rw [forM_onDevice]
    exact onDevice_eq_iff.mpr ⟨between, flushed, rfl⟩

/-- Submitting fails where one of its steps does: the job may not be submitted, its words cannot be
made visible, it cannot be converted, or the device refuses what it is given. -/
theorem submit_eq_error [Device σ] {client : Client} {job : Job} {device : σ} {after : Job × σ}
    {failure : Failure} (failed : client.submit (job, device) = (.error failure, after)) :
    (∃ cause, job.checkSubmittable = .error cause ∧ failure = .refused cause) ∨
      (∃ between, job.pushbuffers.forM PushBuffer.flushWritten device =
        (.error failure, between)) ∨
      (∃ cause, job.toSubmission client.channel.id = .error cause ∧ failure = .refused cause) ∨
      ∃ between submission last,
        job.pushbuffers.forM PushBuffer.flushWritten device = (.ok (), between) ∧
          job.toSubmission client.channel.id = .ok submission ∧
          Device.submit submission between = (.error failure, last) := by
  rw [submit, Action.read_bind] at failed
  rcases Action.bind_eq_error_iff.mp failed with unbuilt | ⟨_, first, passed, rest⟩
  · obtain ⟨cause, refused, same, -⟩ := Action.check_eq_error_iff.mp unbuilt
    exact .inl ⟨cause, refused, same⟩
  obtain ⟨-, rfl⟩ := Action.check_eq_ok_iff.mp passed
  rw [forM_onDevice] at rest
  rcases Action.bind_eq_error_iff.mp rest with hidden | ⟨_, second, visible, more⟩
  · obtain ⟨between, flushed, -⟩ := onDevice_eq_iff.mp hidden
    exact .inr (.inl ⟨between, flushed⟩)
  obtain ⟨between, flushed, rfl⟩ := onDevice_eq_iff.mp visible
  rcases Action.bind_eq_error_iff.mp more with unconverted | ⟨submission, third, given, last⟩
  · obtain ⟨cause, refused, same, -⟩ := Action.check_eq_error_iff.mp unconverted
    exact .inr (.inr (.inl ⟨cause, refused, same⟩))
  obtain ⟨converted, rfl⟩ := Action.check_eq_ok_iff.mp given
  rcases Action.bind_eq_error_iff.mp last with refused | ⟨value, fourth, -, kept⟩
  · obtain ⟨ended, answer, -⟩ := onDevice_eq_iff.mp refused
    exact .inr (.inr (.inr ⟨between, submission, ended, flushed, converted, answer⟩))
  · simp [setJob] at kept

/-- Making the words of pushbuffers visible goes where making ranges visible goes. -/
theorem flushWritten_moves [Device σ] {relation : σ → σ → Prop} [IsPreorder σ relation]
    (flushes : ∀ handle offset length,
      Action.Moves relation (Device.flush handle offset length : Action σ Unit))
    (pushbuffers : List PushBuffer) :
    Action.Moves relation
      (pushbuffers.forM (PushBuffer.flushWritten : PushBuffer → Action σ Unit)) :=
  Action.Moves.forM (fun _ => Action.Moves.bind (Action.Moves.check _) fun _ => flushes _ _ _) _

end HostChannel.Client

import HostChannel.Proofs.Job.Attested
import HostChannel.Proofs.Job.Building
import Mathlib.Logic.Relation

/-!
# How a job advances

Whatever a call through a job does, it does one of six things to the job and to the list of
submissions that the device has accepted: nothing, a pushbuffer is opened at the end, one is
written to, an accepted submission is noted and its fence stored, the job is flushed, or a wait
is recorded (`Job.Advance`). Everything else about the life of jobs follows from these.
-/

namespace HostChannel

open HostChannel.Action (Moves)

/-- One step on the way of a job. -/
inductive JobState.Edge : JobState → JobState → Prop
  /-- The first pushbuffer is opened. -/
  | build : Edge .created .building
  /-- A device accepts the job. -/
  | submit : Edge .building .submitted
  /-- The job is flushed. -/
  | flush : Edge .submitted .flushed
  /-- A wait ends in time. -/
  | complete : Edge .flushed .complete
  /-- A wait runs out of time. -/
  | timeOut : Edge .flushed .timedOut
  /-- A repeated wait ends in time. -/
  | completeLate : Edge .timedOut .complete
  /-- A repeated wait runs out of time as well. -/
  | timeOutAgain : Edge .timedOut .timedOut

namespace Job

variable {σ : Type}

/-- What a call may do to a job and to the submissions that were accepted. -/
inductive Advance : Job × Attestation → Job × Attestation → Prop
  /-- Nothing happens. -/
  | stay (state : Job × Attestation) : Advance state state
  /-- A pushbuffer is opened at the end of a job that is being built. -/
  | append {job : Job} {accepted : Attestation} {buffer : Buffer} {mapping : Option Mapping}
      {offset : UInt64} {opened : PushBuffer} (building : job.checkBuilding = .ok ())
      (made : PushBuffer.ofMapping? buffer mapping offset = .ok opened) :
      Advance (job, accepted)
        ({ job with pushbuffers := job.pushbuffers ++ [opened], state := .building }, accepted)
  /-- A pushbuffer of a job that is being built is written to. -/
  | write {job : Job} {accepted : Attestation} {index : Nat} {pushbuffer grown : PushBuffer}
      (building : job.checkBuilding = .ok ()) (found : job.pushbuffers[index]? = some pushbuffer)
      (written : pushbuffer.Grown grown) : Advance (job, accepted) (job.replace index grown, accepted)
  /-- The device accepts the job, and the job stores the fence. -/
  | submit {job : Job} {accepted : Attestation} {channel : ChannelId} {submission : Submission}
      (value : Word) (submittable : job.checkSubmittable = .ok ())
      (converted : job.toSubmission channel = .ok submission) :
      Advance (job, accepted)
        (job.submitted ⟨submission.syncpoint, value⟩, accepted ++ [(submission, value)])
  /-- The job is flushed. -/
  | flush {job flushed : Job} {accepted : Attestation} {fence : Fence}
      (given : job.flushed = .ok (fence, flushed)) : Advance (job, accepted) (flushed, accepted)
  /-- A wait for the job ends. -/
  | wait {job : Job} {accepted : Attestation} {fence : Fence} (outcome : WaitOutcome)
      (waitable : job.waitableFence = .ok fence) :
      Advance (job, accepted) (job.waited outcome, accepted)

/-- A job beside a device, and what the device has accepted. -/
def attested (state : Job × Attested σ) : Job × Attestation :=
  (state.1, state.2.accepted)

/-- An action that adds nothing to what was accepted leaves the job beside the device alone. -/
theorem attested_onDevice {α : Type} {action : Action (Attested σ) α}
    (same : Moves Attested.Same action) {state between : Job × Attested σ}
    {answer : Except Failure α} (made : Client.onDevice action state = (answer, between)) :
    attested between = attested state := by
  have stayed := same state.2
  obtain ⟨-, rfl⟩ := Prod.mk.inj made
  exact Prod.ext rfl stayed.symm

end Job

namespace Client

open Job

variable {σ : Type} [Device σ]

/-- What is left behind advances the job. -/
def Advances (before after : Job × Attested σ) : Prop :=
  Advance (attested before) (attested after)

omit [Device σ] in
/-- What leaves the job and what was accepted alone advances nothing. -/
theorem Advances.of_same {before after : Job × Attested σ}
    (same : attested after = attested before) : Advances before after :=
  (congrArg (Advance (attested before)) same).mpr (.stay _)

/-- Submitting a job has the device accept it and stores the fence, or does nothing. -/
theorem submit_advances (client : Client) :
    Moves Advances (client.submit : Action (Job × Attested σ) Unit) := by
  rintro ⟨job, device⟩
  rw [submit, Action.read_bind, forM_onDevice]
  refine Action.check_leaves (Advances (job, device)) (.of_same rfl) fun _ submittable => ?_
  refine Action.bind_leaves (Advances (job, device))
    (fun _ _ failed => .of_same (attested_onDevice (Attested.flushWritten_same _) failed))
    fun _ second visible => ?_
  have same := attested_onDevice (Attested.flushWritten_same _) visible
  refine Action.check_leaves (Advances (job, device)) (.of_same same) fun submission converted => ?_
  obtain ⟨between, -, rfl⟩ := onDevice_eq_iff.mp visible
  have before : between.accepted = device.accepted := congrArg Prod.snd same
  refine Action.bind_leaves (Advances (job, device)) (fun failure last failed => ?_)
    fun value last accepted => ?_
  · obtain ⟨after, run, rfl⟩ := onDevice_eq_iff.mp failed
    exact .of_same (Prod.ext rfl ((Attested.submit_eq_error run).symm.trans before))
  · obtain ⟨after, run, rfl⟩ := onDevice_eq_iff.mp accepted
    have noted := Attested.submit_eq_ok run
    rw [before] at noted
    change Advance (job, device.accepted) (job.submitted _, after.accepted)
    rw [noted]
    exact .submit value submittable converted

/-- Flushing a job flushes it, whether the device starts on it or not, or does nothing. -/
theorem flush_advances (client : Client) :
    Moves Advances (client.flush : Action (Job × Attested σ) Fence) := by
  rintro ⟨job, device⟩
  rw [flush, Action.read_bind]
  refine Action.check_leaves (Advances (job, device)) (.of_same rfl)
    fun ⟨fence, changed⟩ flushed => ?_
  have started : ∀ {outcome : Except Failure Unit} {after : Job × Attested σ},
      onDevice (Device.flushSubmissions client.channel.id) (changed, device) = (outcome, after) →
        Advances (job, device) after := by
    intro outcome after run
    have same := attested_onDevice (Attested.passOn_same _) run
    rw [Advances, same]
    exact .flush flushed
  simp only [setJob, Action.update_bind]
  exact Action.bind_leaves (Advances (job, device)) (fun _ _ failed => started failed)
    fun _ _ run => started run

/-- Waiting for a job records how the wait ends, or does nothing. -/
theorem waitJob_advances (timeout : Timeout) :
    Moves Advances (waitJob timeout : Action (Job × Attested σ) WaitOutcome) := by
  rintro ⟨job, device⟩
  rw [waitJob, Action.read_bind]
  refine Action.check_leaves (Advances (job, device)) (.of_same rfl) fun fence waitable => ?_
  refine Action.bind_leaves (Advances (job, device))
    (fun _ _ failed => .of_same (attested_onDevice (Attested.passOn_same _) failed))
    fun outcome last ended => ?_
  have same := attested_onDevice (Attested.passOn_same _) ended
  change Advance (job, device.accepted) (job.waited outcome, last.2.accepted)
  rw [show last.2.accepted = device.accepted from congrArg Prod.snd same]
  exact .wait outcome waitable

end Client

end HostChannel

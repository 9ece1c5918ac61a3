import HostChannel.Proofs.Client.Submission
import HostChannel.Proofs.Host
import HostChannel.Proofs.Job.Standing
import HostChannel.Proofs.Simulator.Atomicity

/-!
# What only a submission that succeeds changes

A client changes the memory of a job, and whether a device has accepted the job, in one way only: by
a submission that succeeds. A submission that fails, a flush and a wait leave the job its
pushbuffers, leave it accepted or not as it was, and at most count on the simulated device
(`Client.Stays`). So finishing a job does nothing more than that, unless it has submitted the job.
-/

namespace HostChannel

open HostChannel.Action (Moves)

namespace Job

open JobState (sealed)

/-- The second job has the pushbuffers of the first, and a device has accepted both or neither. -/
structure Keeps (first second : Job) : Prop where
  /-- The pushbuffers are the same. -/
  pushbuffers : second.pushbuffers = first.pushbuffers
  /-- A device has accepted both or neither. -/
  accepted : second.state ∈ sealed ↔ first.state ∈ sealed

instance : IsPreorder Job Keeps where
  refl _ := ⟨rfl, Iff.rfl⟩
  trans _ _ _ earlier later :=
    ⟨later.pushbuffers.trans earlier.pushbuffers, later.accepted.trans earlier.accepted⟩

/-- An accepted job is kept in every state past the acceptance. -/
theorem keeps_moved {job : Job} (before : job.state ∈ sealed) {state : JobState}
    (after : state ∈ sealed) : job.Keeps { job with state } :=
  ⟨rfl, iff_of_true after before⟩

/-- Flushing a job keeps it. -/
theorem keeps_flushed {job changed : Job} {fence : Fence}
    (given : job.flushed = .ok (fence, changed)) : job.Keeps changed := by
  obtain ⟨-, ⟨state, rfl⟩ | rfl⟩ := flushed_eq_ok given
  · exact keeps_moved (by simp [state, sealed]) (by simp [sealed])
  · exact refl_of Keeps _

/-- So does a wait. -/
theorem keeps_waited {job : Job} {fence : Fence} (given : job.waitableFence = .ok fence)
    (outcome : WaitOutcome) : job.Keeps (job.waited outcome) := by
  have early := sealed_of_waitable (waitableFence_eq_ok given)
  obtain ⟨-, same⟩ | ⟨-, same | same⟩ := job.waited_cases outcome
  · exact same.symm ▸ refl_of Keeps job
  · exact same.symm ▸ keeps_moved early (by simp [sealed])
  · exact same.symm ▸ keeps_moved early (by simp [sealed])

end Job

namespace Client

/-- The job is kept, and the simulated device has counted at most. -/
structure Stays (first second : Job × Instrumented Simulator) : Prop where
  /-- The job is kept. -/
  job : first.1.Keeps second.1
  /-- The simulated device has counted at most. -/
  device : first.2.inner.OnlyCounted second.2.inner

instance : IsPreorder (Job × Instrumented Simulator) Stays where
  refl state := ⟨refl_of Job.Keeps state.1, refl_of Simulator.OnlyCounted state.2.inner⟩
  trans _ _ _ earlier later :=
    ⟨trans_of Job.Keeps earlier.job later.job,
      trans_of Simulator.OnlyCounted earlier.device later.device⟩

/-- An action that counts on the simulated device at most does so beside a job. -/
theorem onDevice_stays {α : Type} {action : Action (Instrumented Simulator) α}
    (goes : Moves (Action.Along Instrumented.inner Simulator.OnlyCounted) action) :
    Moves Stays (onDevice action) :=
  fun state => ⟨refl_of Job.Keeps state.1, goes state.2⟩

/-- A call that leaves the simulated device as it is counts there at most. -/
theorem observe_onlyCounted {α : Type} (call : Call) {action : Action Simulator α}
    (kept : Moves (· = ·) action) :
    Moves (Action.Along Instrumented.inner Simulator.OnlyCounted)
      (Instrumented.observe call (Instrumented.passOn action)) := by
  refine Instrumented.observe_moves call (Instrumented.passOn_moves fun simulator => ?_)
  rw [← kept simulator]
  exact refl_of Simulator.OnlyCounted simulator

/-- Flushing a job stays with it. -/
theorem flush_stays (client : Client) :
    Moves Stays (client.flush : Action (Job × Instrumented Simulator) Fence) := by
  rintro ⟨job, device⟩
  rw [flush, Action.read_bind]
  refine Action.check_leaves (Stays (job, device)) (refl_of Stays _) fun taken given => ?_
  obtain ⟨fence, changed⟩ := taken
  have started : Moves Stays (onDevice (Device.flushSubmissions client.channel.id)) :=
    onDevice_stays (observe_onlyCounted _ fun _ => rfl)
  have kept : Stays (job, device) (changed, device) :=
    ⟨Job.keeps_flushed given, refl_of Simulator.OnlyCounted device.inner⟩
  simp only [setJob, Action.update_bind]
  exact trans_of Stays kept (Moves.bind started (fun _ => Moves.pure fence) (changed, device))

/-- So does waiting for it. -/
theorem waitJob_stays (timeout : Timeout) :
    Moves Stays (waitJob timeout : Action (Job × Instrumented Simulator) WaitOutcome) := by
  rintro ⟨job, device⟩
  rw [waitJob, Action.read_bind]
  refine Action.check_leaves (Stays (job, device)) (refl_of Stays _) fun fence given => ?_
  have waits : Moves (Action.Along Instrumented.inner Simulator.OnlyCounted)
      (wait fence timeout : Action (Instrumented Simulator) WaitOutcome) :=
    observe_onlyCounted _ (Simulator.waitSyncpoint_moves _ _ _)
  refine Action.bind_leaves (Stays (job, device)) (fun _ _ failed => ?_) fun outcome _ ended => ?_
  · obtain ⟨between, run, rfl⟩ := onDevice_eq_iff.mp failed
    have counted := waits device
    rw [run] at counted
    exact ⟨refl_of Job.Keeps job, counted⟩
  · obtain ⟨between, run, rfl⟩ := onDevice_eq_iff.mp ended
    have counted := waits device
    rw [run] at counted
    exact ⟨Job.keeps_waited given outcome, counted⟩

/-- Making the words of a job visible counts at most. -/
theorem flushWritten_stays (pushbuffers : List PushBuffer) :
    Moves Stays (onDevice (pushbuffers.forM
      (PushBuffer.flushWritten : PushBuffer → Action (Instrumented Simulator) Unit))) :=
  onDevice_stays (flushWritten_moves Instrumented.flush_onlyCounted pushbuffers)

/-- A submission that the device refuses leaves the simulated device as it was. -/
theorem inner_of_refused {submission : Submission} {device after : Instrumented Simulator}
    {failure : Failure} (refused : Device.submit submission device = (.error failure, after)) :
    after.inner = device.inner := by
  change Instrumented.observe (.submit submission) (Instrumented.passOn (Simulator.submit submission))
    device = _ at refused
  simp only [Instrumented.observe] at refused
  split at refused
  · obtain ⟨-, rfl⟩ := Prod.mk.inj refused
    rfl
  · obtain ⟨outcome, rfl⟩ := Prod.mk.inj refused
    have rejected : Simulator.submit submission device.inner =
        (.error failure, (Simulator.submit submission device.inner).2) := Prod.ext outcome rfl
    have stayed := Simulator.validate_moves submission device.inner
    rw [Simulator.submit_eq_error_iff.mp rejected] at stayed
    exact stayed.symm

/-- A submission that fails stays with the job. -/
theorem stays_of_submit_eq_error {client : Client} {state after : Job × Instrumented Simulator}
    {failure : Failure} (failed : client.submit state = (.error failure, after)) :
    Stays state after := by
  rw [submit, Action.read_bind] at failed
  rcases Action.bind_eq_error_iff.mp failed with unbuilt | ⟨_, _, passed, rest⟩
  · obtain ⟨-, -, -, rfl⟩ := Action.check_eq_error_iff.mp unbuilt
    exact refl_of Stays state
  obtain ⟨-, rfl⟩ := Action.check_eq_ok_iff.mp passed
  rw [forM_onDevice] at rest
  have visible := flushWritten_stays state.1.pushbuffers state
  rcases Action.bind_eq_error_iff.mp rest with hidden | ⟨_, second, made, more⟩
  · rwa [hidden] at visible
  rw [made] at visible
  rcases Action.bind_eq_error_iff.mp more with unconverted | ⟨submission, _, given, last⟩
  · obtain ⟨-, -, -, rfl⟩ := Action.check_eq_error_iff.mp unconverted
    exact visible
  obtain ⟨-, rfl⟩ := Action.check_eq_ok_iff.mp given
  rcases Action.bind_eq_error_iff.mp last with refused | ⟨_, _, -, kept⟩
  · obtain ⟨ended, answer, rfl⟩ := onDevice_eq_iff.mp refused
    have counted : second.2.inner.OnlyCounted ended.inner := by
      rw [inner_of_refused answer]
      exact refl_of Simulator.OnlyCounted second.2.inner
    have unchanged : Stays second (second.1, ended) := ⟨refl_of Job.Keeps second.1, counted⟩
    exact trans_of Stays visible unchanged
  · simp [setJob] at kept

/-- What comes of an action stays with what was there, or with what a submission has made of it. -/
def Submits (client : Client) (before after : Job × Instrumented Simulator) : Prop :=
  Stays before after ∨ ∃ between, client.submit before = (.ok (), between) ∧ Stays between after

/-- Submitting a job submits it, or stays with it. -/
theorem submit_submits (client : Client) : Moves client.Submits client.submit := by
  intro state
  cases made : client.submit state with
  | mk outcome after =>
    cases outcome with
    | error failure => exact .inl (stays_of_submit_eq_error made)
    | ok value => exact .inr ⟨after, made, refl_of Stays after⟩

/-- Finishing it does no more to it. -/
theorem finish_submits (client : Client) : Moves client.Submits client.finish := by
  intro state
  have rest : Moves Stays (do
      let _ ← client.flush
      waitJob client.defaultTimeout : Action (Job × Instrumented Simulator) WaitOutcome) :=
    Moves.bind (flush_stays client) fun _ => waitJob_stays _
  rw [finish]
  refine Action.bind_leaves (client.Submits state) (fun _ _ failed => ?_) fun _ between made => ?_
  · exact .inl (stays_of_submit_eq_error failed)
  · exact .inr ⟨between, made, rest between⟩

/-- It leaves the job its pushbuffers. -/
theorem Submits.pushbuffers {client : Client} {before after : Job × Instrumented Simulator}
    (submits : client.Submits before after) : after.1.pushbuffers = before.1.pushbuffers := by
  rcases submits with stays | ⟨between, submitted, stays⟩
  · exact stays.job.pushbuffers
  · obtain ⟨-, _, _, _, _, -, -, -, rfl⟩ := submit_eq_ok_iff.mp submitted
    exact stays.job.pushbuffers

end Client

end HostChannel

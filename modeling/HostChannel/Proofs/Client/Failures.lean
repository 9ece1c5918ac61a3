import HostChannel.Proofs.Job.Course
import HostChannel.Session.Run

/-!
# What a failed flush or wait leaves of a job

Flushing a job and waiting for it are each a check of the job, a call of the device and a change of
the job. A wait makes the change last, so a wait that fails leaves the job as it was. A flush makes
it before the call: a device that does not let the channel start leaves a submitted job flushed,
with a fence to show and to wait for (`Client.stuck_job_waitable`). Only the first flush of a job
does this; the job of any other flush that fails is as it was.
-/

namespace HostChannel

/-- Flushing a submitted job that has stored a fence takes it on. -/
theorem Job.flushed_of_submitted {job : Job} {fence : Fence} (submitted : job.state = .submitted)
    (stored : job.accepted = some fence) :
    job.flushed = .ok (fence, { job with state := .flushed }) := by
  rw [flushed, submitted, stored]

variable {σ τ : Type}

namespace Client

variable [Device σ]

/-- A wait that fails leaves the job as it was. -/
theorem waitJob_eq_error {timeout : Timeout} {job : Job} {device : σ} {failure : Failure}
    {left : Job × σ} (failed : waitJob timeout (job, device) = (.error failure, left)) :
    left.1 = job := by
  rw [waitJob, Action.read_bind] at failed
  rcases Action.bind_eq_error_iff.mp failed with refused | ⟨fence, _, given, rest⟩
  · obtain ⟨_, -, -, rfl⟩ := Action.check_eq_error_iff.mp refused
    rfl
  obtain ⟨-, rfl⟩ := Action.check_eq_ok_iff.mp given
  rcases Action.bind_eq_error_iff.mp rest with unanswered | ⟨outcome, between, -, last⟩
  · obtain ⟨_, -, rfl⟩ := onDevice_eq_iff.mp unanswered
    rfl
  · simp [setJob, Action.update_bind] at last

/-- A flush that fails has refused the job, which is left as it was, or the device did not let the
channel start, and the job is flushed all the same. -/
theorem flush_eq_error {client : Client} {job : Job} {device : σ} {failure : Failure}
    {left : Job × σ} (failed : client.flush (job, device) = (.error failure, left)) :
    (∃ cause, job.flushed = .error cause ∧ left = (job, device)) ∨
      ∃ fence flushed, job.flushed = .ok (fence, flushed) ∧ left.1 = flushed ∧
        Device.flushSubmissions client.channel.id device = (.error failure, left.2) := by
  rw [flush, Action.read_bind] at failed
  rcases Action.bind_eq_error_iff.mp failed with refused | ⟨⟨fence, flushed⟩, _, given, rest⟩
  · obtain ⟨cause, unfit, -, rfl⟩ := Action.check_eq_error_iff.mp refused
    exact .inl ⟨cause, unfit, rfl⟩
  obtain ⟨fit, rfl⟩ := Action.check_eq_ok_iff.mp given
  change (onDevice (Device.flushSubmissions client.channel.id) >>= fun _ => pure fence)
    (flushed, device) = _ at rest
  rcases Action.bind_eq_error_iff.mp rest with stuck | ⟨_, _, -, last⟩
  · obtain ⟨inner, answered, rfl⟩ := onDevice_eq_iff.mp stuck
    exact .inr ⟨fence, flushed, fit, rfl, answered⟩
  · simp at last

/-- Whatever was done with a job before, on whatever device, and whatever the device answers now: a
wait that fails leaves the job as it was, and so does a flush that fails, unless it is the first
flush of the submitted job and the device did not let the channel start. Then the job is flushed,
and shows the fence that it stored. -/
theorem failed_calls_keep_job [Device τ] (syncpoint increments : Word) (host : Host τ)
    (steps : List (JobStep τ)) (client : Client) (timeout : Timeout) (device : σ)
    (failure : Failure) (left : Job × σ) :
    (waitJob timeout ((Job.course syncpoint increments host steps).1, device) =
        (.error failure, left) → left.1 = (Job.course syncpoint increments host steps).1) ∧
      (client.flush ((Job.course syncpoint increments host steps).1, device) =
          (.error failure, left) →
        left.1.accepted = (Job.course syncpoint increments host steps).1.accepted ∧
          ((Job.course syncpoint increments host steps).1.state ≠ .submitted →
            left.1 = (Job.course syncpoint increments host steps).1) ∧
          ((Job.course syncpoint increments host steps).1.state = .submitted →
            Device.flushSubmissions client.channel.id device = (.error failure, left.2) ∧
              left.1.state = .flushed ∧
              ∃ fence, left.1.accepted = some fence ∧ left.1.fence? = some fence)) := by
  have standing := (Job.standing_of_path
    (JobStep.run_path steps (Job.begun syncpoint increments host))
    (Job.standing_create syncpoint increments)).1
  change Job.Standing (Job.course syncpoint increments host steps).1 _ at standing
  generalize (Job.course syncpoint increments host steps).1 = job at standing
  refine ⟨waitJob_eq_error, fun failed => ?_⟩
  -- A submitted job has stored its fence, so its flush is not refused, and takes it on.
  have taken : job.state = .submitted → ∃ fence, job.accepted = some fence ∧
      job.flushed = .ok (fence, { job with state := .flushed }) := by
    intro submitted
    obtain ⟨fence, stored⟩ := Option.isSome_iff_exists.mp
      (standing.sealed.mpr (by simp [submitted, JobState.sealed]))
    exact ⟨fence, stored, Job.flushed_of_submitted submitted stored⟩
  rcases flush_eq_error failed with ⟨cause, refused, rfl⟩ | ⟨fence, flushed, given, same, stuck⟩
  · refine ⟨rfl, fun _ => rfl, fun submitted => ?_⟩
    obtain ⟨fence, -, allowed⟩ := taken submitted
    rw [allowed] at refused
    contradiction
  · rw [same]
    obtain ⟨-, ⟨submitted, rfl⟩ | rfl⟩ := Job.flushed_eq_ok given
    · obtain ⟨stored, kept, -⟩ := taken submitted
      exact ⟨rfl, fun other => absurd submitted other, fun _ => ⟨stuck, rfl, stored, kept, kept⟩⟩
    · refine ⟨rfl, fun _ => rfl, fun submitted => ?_⟩
      obtain ⟨stored, -, allowed⟩ := taken submitted
      rw [allowed] at given
      have unmoved := congrArg Job.state (Prod.mk.inj (Except.ok.inj given)).2
      rw [submitted] at unmoved
      contradiction

/-- A host with a queue, a channel of a client, and a buffer that the processor can reach. -/
def queueHost : Host (Instrumented Simulator) :=
  ((Session.initial ⟨.automatic, .standard, ⟨.deferred, 1, 1⟩⟩).run
    [.job (.openClient "client" 81), .buffer (.allocate "buffer" 64 ⟨0⟩ false),
      .buffer (.map none "buffer")]).host

/-- The client of the channel. -/
def queueClient : Client :=
  ⟨⟨0, 81, [0]⟩, .standard⟩

/-- Puts one word into the buffer and submits it. -/
def queueing : List (JobStep (Instrumented Simulator)) :=
  [.append ⟨⟨0, 1, 64, ⟨0⟩⟩, 0, 64, .owner⟩ 0, .write 0 (.push 0), .submit queueClient]

/-- The device then, which once does not let a channel start and once does not wait. -/
def stuckDevice (steps : List (JobStep (Instrumented Simulator))) : Instrumented Simulator :=
  ((Job.course 0 1 queueHost steps).2.device.inner.arm .flushSubmissions ⟨1, 5, "stuck"⟩).arm
    .waitSyncpoint ⟨1, 6, "lost"⟩

/-- A job that was flushed before is left as it was, by a wait as by a flush that fails. -/
theorem flushed_job_kept :
    let steps := queueing ++ [.flush queueClient]
    let state := ((Job.course 0 1 queueHost steps).1, stuckDevice steps)
    ((waitJob .zero state).1 = .error (.refused (.device "wait_syncpoint" 6 "lost")) ∧
        (waitJob .zero state).2.1 = state.1) ∧
      (queueClient.flush state).1 = .error (.refused (.device "flush_submissions" 5 "stuck")) ∧
        (queueClient.flush state).2.1 = state.1 := by
  intro steps state
  have lost : (waitJob .zero state).1 =
      .error (.refused (.device "wait_syncpoint" 6 "lost")) := rfl
  have stuck : (queueClient.flush state).1 =
      .error (.refused (.device "flush_submissions" 5 "stuck")) := rfl
  have flushed : (Job.course 0 1 queueHost steps).1.state ≠ .submitted := by decide +kernel
  have kept := failed_calls_keep_job 0 1 queueHost steps queueClient .zero (stuckDevice steps)
  exact ⟨⟨lost, (kept _ _).1 (Prod.ext lost rfl)⟩,
    stuck, ((kept _ _).2 (Prod.ext stuck rfl)).2.1 flushed⟩

/-- The first flush of a submitted job fails, and the job may be waited for all the same. -/
theorem stuck_job_waitable :
    let state := ((Job.course 0 1 queueHost queueing).1, stuckDevice queueing)
    (queueClient.flush state).1 = .error (.refused (.device "flush_submissions" 5 "stuck")) ∧
      state.1.state = .submitted ∧ (queueClient.flush state).2.1.state = .flushed ∧
      state.1.fence? = none ∧ (queueClient.flush state).2.1.fence? = some ⟨0, 1⟩ ∧
      state.1.waitableFence = .error (.invalidState .submitted "Flushed") ∧
      (queueClient.flush state).2.1.waitableFence = .ok ⟨0, 1⟩ :=
  ⟨rfl, rfl, rfl, rfl, rfl, rfl, rfl⟩

end Client

end HostChannel

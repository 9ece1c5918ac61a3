import HostChannel.Proofs.Client.Submission
import HostChannel.Proofs.Syncpoint.Level

/-!
# Jobs on a device that executes at once

A job that such a device accepts is done when the submission returns. Its fence is the number
that the counter had before and the declared increments; the counter ends there or past it, by
as much as streams make more increments than declared, and has reached the fence as long as
that is less than half the range.
-/

namespace HostChannel

namespace Simulator

/-- A level syncpoint has reached its fence when at least the declared increments have been
made, and less than half the range beyond. -/
theorem reached_advance_reserve {syncpoint : Syncpoint} (level : syncpoint.Level)
    {increments : Word} {count : Nat} (enough : increments.toNat ≤ count)
    (near : count < increments.toNat + Word.half) :
    reached ((syncpoint.reserve increments).advance count).value
      (syncpoint.reserve increments).reserved = true := by
  have same : syncpoint.value = syncpoint.reserved := level
  have half : Word.half = 0x80000000 := rfl
  have fits := increments.toNat_lt
  have start := syncpoint.reserved.toNat_lt
  rw [Syncpoint.advance_reserve level enough, same]
  simp only [reached, Syncpoint.reserve, UInt32.toNat_sub, UInt32.toNat_add, UInt32.toNat_ofNat',
    decide_eq_true_eq, half] at near ⊢
  omega

/-- Waiting for a reached fence completes at once, whatever the timeout. -/
theorem wait_reached {simulator : Simulator} {fence : Fence} {syncpoint : Syncpoint}
    (found : simulator.syncpoints[fence.syncpoint.toNat]? = some syncpoint)
    (reached : reached syncpoint.value fence.value = true) (timeout : Timeout) :
    Client.wait fence timeout simulator = (.ok .completed, simulator) := by
  change waitSyncpoint fence.syncpoint fence.value timeout simulator = _
  simp only [waitSyncpoint, findSyncpoint, found, Action.bind_apply, reached, if_true,
    Action.pure_apply]

end Simulator

namespace Client

/-- A submitted job can be flushed; the simulated device has nothing to do for it. -/
theorem flush_submitted (client : Client) (job : Job) (fence : Fence) (device : Simulator) :
    client.flush (job.submitted fence, device) =
      (.ok fence, ({ job.submitted fence with state := .flushed }, device)) := rfl

/-- A flushed job is complete when the wait for its fence is. -/
theorem waitJob_flushed {job : Job} {fence : Fence} {device : Simulator} {timeout : Timeout}
    (completed : wait fence timeout device = (.ok .completed, device)) :
    waitJob timeout ({ job.submitted fence with state := .flushed }, device) =
      (.ok .completed,
        (({ job.submitted fence with state := .flushed } : Job).waited .completed, device)) := by
  have waitable : ({ job.submitted fence with state := .flushed } : Job).waitableFence =
      .ok fence := rfl
  simp only [waitJob, Action.bind_apply, Action.read_apply, waitable, Action.check_ok,
    onDevice_apply, completed, setJob, Action.update_apply, Action.pure_apply]

/-- On a device that executes at once, wherever requests have taken it, an accepted job leaves
every syncpoint level, can be flushed, and has its fence reached: every wait for it completes,
whatever its timeout. -/
theorem accepted_job_completes {settings : SimulatorSettings}
    (immediate : settings.completion = .immediate) {device : Simulator}
    (brought : (Simulator.initial settings).Reaches device) (client : Client) (job : Job)
    {submitted : Job} {after : Simulator}
    (accepted : client.submit (job, device) = (.ok (), (submitted, after)))
    (near : ∀ submission, job.toSubmission client.channel.id = .ok submission →
      (after.performed submission).count submission.syncpoint <
        submission.increments.toNat + Word.half) :
    (∀ (index : Word) syncpoint, after.syncpoints[index.toNat]? = some syncpoint →
        syncpoint.value = syncpoint.reserved) ∧
      ∃ fence flushed, client.flush (submitted, after) = (.ok fence, (flushed, after)) ∧
        (∃ syncpoint, after.syncpoints[fence.syncpoint.toNat]? = some syncpoint ∧
          reached syncpoint.value fence.value = true) ∧
        ∀ timeout, wait fence timeout after = (.ok .completed, after) ∧
          waitJob timeout (flushed, after) =
            (.ok .completed, (flushed.waited .completed, after)) := by
  obtain ⟨submittable, between, submission, value, final, visible, converted, run, done⟩ :=
    submit_eq_ok_iff.mp accepted
  obtain ⟨rfl, rfl⟩ := Prod.mk.inj done
  have counted : device.OnlyCounted between := by
    have moved := flushWritten_moves Simulator.flush_onlyCounted job.pushbuffers device
    rwa [visible] at moved
  have level : between.Level := by
    rw [counted]
    exact (brought.level immediate).sameWork ⟨rfl, rfl, rfl⟩
  obtain ⟨accepts, ⟨syncpoint, found, rfl⟩, rfl⟩ := Simulator.submit_eq_ok_iff.mp run
  have executed : (between.taken submission).dispatch submission =
      (between.taken submission).execute submission := by
    rw [Simulator.dispatch, Simulator.settings_taken, level.immediate]
  rw [executed] at near ⊢
  have start := level.syncpoints _ _ found
  have made := Simulator.count_incrementsMade_self (between.taken submission) submission
  have few := near submission converted
  rw [Simulator.performed_congr (Simulator.buffers_execute _ _) (Simulator.size_execute _ _)] at few
  have held := Simulator.getElem?_executed between submission submission.syncpoint
  rw [found, Option.map_some, if_pos rfl] at held
  have half : 0 < Word.half := by decide
  have enough : submission.increments.toNat ≤
      ((between.taken submission).incrementsMade submission).count submission.syncpoint := by omega
  have close : ((between.taken submission).incrementsMade submission).count submission.syncpoint <
      submission.increments.toNat + Word.half := by omega
  have reaches := Simulator.reached_advance_reserve start enough close
  have levelled := level.executed submission
  generalize (between.taken submission).execute submission = device at held levelled ⊢
  refine ⟨levelled.syncpoints, _, _, flush_submitted client job _ device, ⟨_, held, reaches⟩,
    fun timeout => ?_⟩
  have waited := @Simulator.wait_reached device ⟨submission.syncpoint, _⟩ _ held reaches timeout
  exact ⟨waited, waitJob_flushed waited⟩

/-- A channel with one syncpoint, and a buffer that holds a word which increments another. -/
def overdeclaredRequests : List Request :=
  [.call (.openChannel 1), .call (.allocate 64 ⟨0⟩), .write (.buffer 1) 0 (Word.bytes 0x40000001)]

/-- A job of that word, which declares more increments than half the range. -/
def overdeclaredJob : Job :=
  { syncpoint := 0
    increments := 0xc0000000
    pushbuffers :=
      [⟨⟨⟨0, 1, 64, ⟨0⟩⟩, 0, 64, .owner⟩, ⟨⟨.buffer 1, 64⟩, 0, 64⟩, 0, 1, 16, []⟩]
    state := .building
    accepted := none }

/-- The job that declares too many increments completes. -/
theorem overdeclared_job_completes :
    ∃ submitted after, (⟨⟨0, 1, [0]⟩, .infinite⟩ : Client).submit (overdeclaredJob,
        (Simulator.initial ⟨.immediate, 2, 1⟩).after overdeclaredRequests) =
          (.ok (), (submitted, after)) ∧
      (∀ (index : Word) syncpoint, after.syncpoints[index.toNat]? = some syncpoint →
        syncpoint.value = syncpoint.reserved) ∧
      ∃ fence flushed, (⟨⟨0, 1, [0]⟩, .infinite⟩ : Client).flush (submitted, after) =
          (.ok fence, (flushed, after)) ∧
        (∃ syncpoint, after.syncpoints[fence.syncpoint.toNat]? = some syncpoint ∧
          reached syncpoint.value fence.value = true) ∧
        ∀ timeout, wait fence timeout after = (.ok .completed, after) ∧
          waitJob timeout (flushed, after) =
            (.ok .completed, (flushed.waited .completed, after)) := by
  have accepted : ((⟨⟨0, 1, [0]⟩, .infinite⟩ : Client).submit (overdeclaredJob,
      (Simulator.initial ⟨.immediate, 2, 1⟩).after overdeclaredRequests)).1.isOk = true := by
    decide +kernel
  have performed : ((⟨⟨0, 1, [0]⟩, .infinite⟩ : Client).submit (overdeclaredJob,
      (Simulator.initial ⟨.immediate, 2, 1⟩).after overdeclaredRequests)).2.2.performed
        ⟨0, 0, 0xc0000000, [⟨1, 0, 1⟩], []⟩ = [1] := by decide +kernel
  have converted : overdeclaredJob.toSubmission 0 =
      .ok ⟨0, 0, 0xc0000000, [⟨1, 0, 1⟩], []⟩ := rfl
  generalize made : (⟨⟨0, 1, [0]⟩, .infinite⟩ : Client).submit (overdeclaredJob,
    (Simulator.initial ⟨.immediate, 2, 1⟩).after overdeclaredRequests) = run at accepted performed
  obtain ⟨outcome, submitted, after⟩ := run
  cases outcome with
  | error failure => exact absurd accepted Bool.false_ne_true
  | ok value =>
    refine ⟨submitted, after, rfl, ?_⟩
    apply accepted_job_completes rfl ⟨overdeclaredRequests, rfl⟩ _ overdeclaredJob made
    intro submission same
    obtain rfl := Except.ok.inj (converted.symm.trans same)
    rw [performed]
    decide

end Client

end HostChannel

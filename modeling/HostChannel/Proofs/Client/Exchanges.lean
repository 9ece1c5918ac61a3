import HostChannel.Proofs.Exchange
import HostChannel.Proofs.Job.Room

/-!
# What submitting a job asks of a device

A client that submits a job asks the device to make the words of its pushbuffers visible, one
pushbuffer after the other, and then to accept what the job is converted to. It stops at the first
thing that goes wrong and leaves the job as it was, so that the job can still be changed and
submitted again. The exchanges with the device, what the client gives and what becomes of the job
are said together, one way of ending after the other (`Client.Submitting`).
-/

namespace HostChannel

open HostChannel.Action (Mirrors)

variable {σ τ : Type}

/-- The exchange in which the words of a pushbuffer are made visible, or are not. -/
def PushBuffer.flushing (pushbuffer : PushBuffer) (outcome : Except Failure Unit) : Exchange :=
  ⟨.flush pushbuffer.buffer.handle (pushbuffer.buffer.offset + pushbuffer.start)
    (UInt64.ofNat (4 * pushbuffer.length)), outcome⟩

namespace Client

/-- The exchanges in which the words of pushbuffers are made visible, one after the other. -/
def flushes (pushbuffers : List PushBuffer) : List Exchange :=
  pushbuffers.map fun pushbuffer => pushbuffer.flushing (.ok ())

/-- How submitting a job through a client ends: the exchanges with the device, what the client
gives, and the job that is left. -/
inductive Submitting (client : Client) (job : Job) :
    List Exchange → Except Failure Unit → Job → Prop
  /-- The job is not being built, and the device is not asked anything. -/
  | unbuilt {cause : Error} (state : job.state ≠ .building)
      (refused : job.checkSubmittable = .error cause) :
      Submitting client job [] (.error (.refused cause)) job
  /-- The words of a pushbuffer are not made visible, after those of the pushbuffers before it. -/
  | unflushed {earlier later : List PushBuffer} {pushbuffer : PushBuffer} {failure : Failure}
      (state : job.state = .building) (place : job.pushbuffers = earlier ++ pushbuffer :: later) :
      Submitting client job (flushes earlier ++ [pushbuffer.flushing (.error failure)])
        (.error failure) job
  /-- All words are made visible, and the job is not converted. -/
  | unconverted {cause : Error} (state : job.state = .building)
      (refused : job.toSubmission client.channel.id = .error cause) :
      Submitting client job (flushes job.pushbuffers) (.error (.refused cause)) job
  /-- The device does not accept what the job is converted to. -/
  | declined {submission : Submission} {failure : Failure} (state : job.state = .building)
      (converted : job.toSubmission client.channel.id = .ok submission) :
      Submitting client job (flushes job.pushbuffers ++ [⟨.submit submission, .error failure⟩])
        (.error failure) job
  /-- The device accepts it, and the job has the fence that the device answered. -/
  | accepted {submission : Submission} {value : Word} (state : job.state = .building)
      (converted : job.toSubmission client.channel.id = .ok submission) :
      Submitting client job (flushes job.pushbuffers ++ [⟨.submit submission, .ok value⟩])
        (.ok ()) { job with state := .submitted, accepted := some ⟨job.syncpoint, value⟩ }

/-- A job beside the device within. -/
def unlogged (state : Job × Logged σ) : Job × σ :=
  (state.1, state.2.inner)

/-- What an action does to the device within, it does beside a job as well. -/
theorem onDevice_mirrors {α : Type} {action : Action (Logged σ) α} {image : Action σ α}
    (same : Mirrors Logged.inner action image) :
    Mirrors unlogged (onDevice action) (onDevice image) := by
  intro state
  have seen := same state.2
  simp only [onDevice, unlogged, Action.within_apply, seen]

variable [Device σ]

/-- Submitting a job ends on a device that logs its exchanges as on the device within. -/
theorem submit_mirrors (client : Client) :
    Mirrors (unlogged : Job × Logged σ → Job × σ) client.submit client.submit := by
  have flushed : ∀ pushbuffer : PushBuffer,
      Mirrors (Logged.inner : Logged σ → σ) pushbuffer.flushWritten pushbuffer.flushWritten :=
    fun _ => Mirrors.bind (Mirrors.check _) fun _ _ => rfl
  refine Mirrors.bind (Mirrors.read Prod.fst) fun job => ?_
  refine Mirrors.bind (Mirrors.check _) fun _ => ?_
  refine Mirrors.bind (Mirrors.forM (fun pushbuffer => onDevice_mirrors (flushed pushbuffer)) _)
    fun _ => ?_
  refine Mirrors.bind (Mirrors.check _) fun submission => ?_
  exact Mirrors.bind (onDevice_mirrors fun _ => rfl) fun _ => Mirrors.update fun _ => rfl

/-- The words of a roomy pushbuffer are made visible by one exchange. -/
theorem flushWritten_apply {pushbuffer : PushBuffer} (roomy : pushbuffer.Roomy)
    (device : Logged σ) :
    ∃ outcome inner, pushbuffer.flushWritten device =
      (outcome, ⟨inner, device.exchanges ++ [pushbuffer.flushing outcome]⟩) := by
  have length : UInt64.ofNat pushbuffer.length * PushBuffer.wordBytes =
      UInt64.ofNat (4 * pushbuffer.length) := by
    rw [Nat.mul_comm, UInt64.ofNat_mul]
    rfl
  rw [PushBuffer.flushWritten, Buffer.flush, roomy.checkRange_written, length]
  exact ⟨_, _, rfl⟩

/-- Those of several are made visible one after the other, up to the first that are not. -/
theorem forM_flushWritten_cases {pushbuffers : List PushBuffer}
    (roomy : ∀ pushbuffer ∈ pushbuffers, pushbuffer.Roomy) (device : Logged σ) :
    (∃ inner, pushbuffers.forM PushBuffer.flushWritten device =
      (.ok (), ⟨inner, device.exchanges ++ flushes pushbuffers⟩)) ∨
      ∃ earlier pushbuffer later failure inner,
        pushbuffers = earlier ++ pushbuffer :: later ∧
          pushbuffers.forM PushBuffer.flushWritten device =
            (.error failure, ⟨inner, device.exchanges ++
              (flushes earlier ++ [pushbuffer.flushing (.error failure)])⟩) := by
  induction pushbuffers generalizing device with
  | nil => exact .inl ⟨device.inner, by rw [flushes, List.map_nil, List.append_nil]; rfl⟩
  | cons head rest ih =>
    obtain ⟨first, others⟩ := List.forall_mem_cons.mp roomy
    obtain ⟨outcome, between, made⟩ := flushWritten_apply first device
    change (∃ inner,
        (head.flushWritten >>= fun _ => rest.forM PushBuffer.flushWritten) device = _) ∨
      ∃ earlier pushbuffer later failure inner, _ ∧
        (head.flushWritten >>= fun _ => rest.forM PushBuffer.flushWritten) device = _
    cases outcome with
    | error failure =>
      rw [Action.bind_apply_of_error made]
      exact .inr ⟨[], head, rest, failure, between, rfl, rfl⟩
    | ok value =>
      rw [Action.bind_apply_of_ok made]
      rcases ih others ⟨between, device.exchanges ++ [head.flushing (.ok ())]⟩ with
        ⟨inner, run⟩ | ⟨earlier, pushbuffer, later, failure, inner, place, run⟩
      · exact .inl ⟨inner, by rw [run, List.append_assoc]; rfl⟩
      · exact .inr ⟨head :: earlier, pushbuffer, later, failure, inner,
          congrArg (head :: ·) place, by rw [run, List.append_assoc]; rfl⟩

/-- Submitting a job with roomy pushbuffers ends in one of the ways there are. -/
theorem submit_submitting {job : Job} (roomy : job.Roomy) (client : Client) (device : Logged σ) :
    ∃ exchanges outcome left inner,
      client.submit (job, device) = (outcome, left, ⟨inner, device.exchanges ++ exchanges⟩) ∧
        Submitting client job exchanges outcome left := by
  rw [submit, Action.read_bind, forM_onDevice]
  cases checked : job.checkSubmittable with
  | error cause =>
    have state : job.state ≠ .building := fun building => by
      simp [Job.checkSubmittable, building] at checked
    exact ⟨[], _, job, device.inner, by rw [List.append_nil]; rfl, .unbuilt state checked⟩
  | ok value =>
    have state := Job.checkSubmittable_eq_ok_iff.mp checked
    rw [Action.bind_apply_of_ok (Action.check_ok value (job, device))]
    rcases forM_flushWritten_cases roomy device with
      ⟨written, run⟩ | ⟨earlier, pushbuffer, later, failure, inner, place, run⟩
    · rw [Action.bind_apply_of_ok (onDevice_eq_iff.mpr ⟨_, run, rfl⟩)]
      cases converted : job.toSubmission client.channel.id with
      | error cause =>
        exact ⟨flushes job.pushbuffers, _, job, written, rfl, .unconverted state converted⟩
      | ok submission =>
        have syncpoint := (Job.toSubmission_eq_ok converted).1
        rw [Action.bind_apply_of_ok (Action.check_ok submission _)]
        cases answered : Device.submit submission written with
        | mk outcome inner =>
          have noted : Device.submit submission
              (⟨written, device.exchanges ++ flushes job.pushbuffers⟩ : Logged σ) =
                (outcome, ⟨inner, device.exchanges ++
                  (flushes job.pushbuffers ++ [⟨.submit submission, outcome⟩])⟩) := by
            rw [← List.append_assoc]
            change Logged.ask (.submit submission) _ = _
            simp only [Logged.ask, Call.make, answered]
          cases outcome with
          | error failure =>
            rw [Action.bind_apply_of_error (onDevice_eq_iff.mpr ⟨_, noted, rfl⟩)]
            exact ⟨_, _, job, inner, rfl, .declined state converted⟩
          | ok value =>
            rw [Action.bind_apply_of_ok (onDevice_eq_iff.mpr ⟨_, noted, rfl⟩), syncpoint]
            exact ⟨_, _, _, inner, rfl, .accepted state converted⟩
    · rw [Action.bind_apply_of_error (onDevice_eq_iff.mpr ⟨_, run, rfl⟩)]
      exact ⟨_, _, job, inner, rfl, .unflushed state place⟩

/-- Whatever was done with a job before, submitting it through any client ends in one of the ways
there are, whatever the device answers to each call. -/
theorem submission_ordered_and_atomic [Device τ] (syncpoint increments : Word) (host : Host τ)
    (steps : List (JobStep τ)) (client : Client) (device : σ) (earlier : List Exchange) :
    ∃ exchanges outcome left inner,
      client.submit ((Job.course syncpoint increments host steps).1,
          (⟨device, earlier⟩ : Logged σ)) = (outcome, left, ⟨inner, earlier ++ exchanges⟩) ∧
        client.submit ((Job.course syncpoint increments host steps).1, device) =
          (outcome, left, inner) ∧
        Submitting client (Job.course syncpoint increments host steps).1 exchanges outcome
          left := by
  obtain ⟨exchanges, outcome, left, inner, run, ended⟩ :=
    submit_submitting (Job.course_roomy syncpoint increments host steps) client
      (⟨device, earlier⟩ : Logged σ)
  have seen := submit_mirrors client
    ((Job.course syncpoint increments host steps).1, (⟨device, earlier⟩ : Logged σ))
  rw [run] at seen
  exact ⟨exchanges, outcome, left, inner, run, seen, ended⟩

end Client

end HostChannel

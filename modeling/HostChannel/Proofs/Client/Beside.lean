import HostChannel.Proofs.Device

/-!
# What a client leaves of a job

A client changes how far a job has come and which fence it has. The pushbuffers of the job stay
as they are, and the device keeps what its methods keep, whether the client succeeds or not.
-/

namespace HostChannel

open HostChannel.Action (Moves Preserves Upholds)

namespace Client

/-- A client makes jobs on a syncpoint. -/
theorem createJob_eq_ok {client : Client} {increments : Word} {job : Job}
    (made : client.createJob increments = .ok job) :
    ∃ syncpoint, job = Job.create syncpoint increments := by
  obtain ⟨syncpoint, _, created⟩ := Action.checks_eq_ok_iff.mp made
  exact ⟨syncpoint, (Except.ok.inj created).symm⟩

/-- They have no pushbuffers. -/
theorem pushbuffers_createJob {client : Client} {increments : Word} {job : Job}
    (made : client.createJob increments = .ok job) : job.pushbuffers = [] := by
  obtain ⟨syncpoint, rfl⟩ := createJob_eq_ok made
  rfl

variable {σ : Type}

/-- The job has the pushbuffers, and an invariant of the device holds. -/
def Beside (pushbuffers : List PushBuffer) (invariant : σ → Prop) (state : Job × σ) : Prop :=
  state.1.pushbuffers = pushbuffers ∧ invariant state.2

variable {pushbuffers : List PushBuffer} {invariant : σ → Prop}

/-- What keeps the invariant of the device leaves the job beside it alone. -/
theorem onDevice_upholds {α : Type} {action : Action σ α}
    (goes : Moves (Preserves invariant) action) :
    Upholds (Beside pushbuffers invariant) (onDevice action) fun _ => True :=
  (Upholds.of_moves goes).within (fun _ beside => beside.2) fun _ _ beside holds =>
    ⟨beside.1, holds⟩

/-- The job may be changed in all but its pushbuffers. -/
theorem setJob_upholds {job : Job} (same : job.pushbuffers = pushbuffers) :
    Upholds (Beside pushbuffers invariant) (setJob job) fun _ => True :=
  Upholds.update fun _ beside => ⟨same, beside.2⟩

/-- The job that is read has the pushbuffers. -/
theorem readJob_upholds :
    Upholds (Beside pushbuffers invariant) (Action.read Prod.fst) fun job =>
      job.pushbuffers = pushbuffers :=
  Upholds.read fun _ beside => beside.1

variable [Device σ] (moves : Device.QuietBy (Preserves invariant))

include moves

/-- Submitting changes no pushbuffer of the job. -/
theorem submit_upholds (client : Client) :
    Upholds (Beside pushbuffers invariant) client.submit fun _ => True := by
  refine Upholds.bind readJob_upholds fun job same => ?_
  refine Upholds.bind (Upholds.check_any _) fun _ _ => ?_
  refine Upholds.bind (Upholds.forM fun _ _ => onDevice_upholds (moves.bufferFlush _ _ _)) ?_
  refine fun _ _ => Upholds.bind (Upholds.check_any _) fun submission _ => ?_
  exact Upholds.bind (onDevice_upholds (moves.submit submission)) fun _ _ => setJob_upholds same

omit [Device σ] moves in
/-- Flushing changes no pushbuffer of a job. -/
theorem flushed_pushbuffers {job flushed : Job} {fence : Fence}
    (given : job.flushed = .ok (fence, flushed)) : flushed.pushbuffers = job.pushbuffers := by
  simp only [Job.flushed] at given
  split at given
  all_goals first
    | contradiction
    | (obtain ⟨rfl, rfl⟩ := Prod.mk.inj (Except.ok.inj given); rfl)

omit [Device σ] moves in
/-- Nor does a wait. -/
theorem waited_pushbuffers (job : Job) (outcome : WaitOutcome) :
    (job.waited outcome).pushbuffers = job.pushbuffers := by
  simp only [Job.waited]
  split <;> rfl

/-- Letting the device start on the job changes no pushbuffer of it. -/
theorem flush_upholds (client : Client) :
    Upholds (Beside pushbuffers invariant) client.flush fun _ => True := by
  refine Upholds.bind readJob_upholds fun job same => ?_
  have checked : Upholds (Beside pushbuffers invariant) (Action.check job.flushed) fun given =>
      given.2.pushbuffers = pushbuffers :=
    Upholds.check fun _ given => (flushed_pushbuffers given).trans same
  refine Upholds.bind checked fun given kept => ?_
  refine Upholds.bind (setJob_upholds kept) fun _ _ => ?_
  exact Upholds.bind (onDevice_upholds (moves.flushSubmissions _)) fun _ _ => Upholds.pure trivial

/-- Waiting for the job changes no pushbuffer of it. -/
theorem waitJob_upholds (timeout : Timeout) :
    Upholds (Beside pushbuffers invariant) (waitJob timeout) fun _ => True := by
  refine Upholds.bind readJob_upholds fun job same => ?_
  refine Upholds.bind (Upholds.check_any _) fun fence _ => ?_
  refine Upholds.bind (onDevice_upholds (moves.waitSyncpoint _ _ _)) fun outcome _ => ?_
  exact Upholds.bind (setJob_upholds ((waited_pushbuffers job outcome).trans same)) fun _ _ =>
    Upholds.pure trivial

/-- Nor does all of it in one. -/
theorem finish_upholds (client : Client) :
    Upholds (Beside pushbuffers invariant) client.finish fun _ => True :=
  Upholds.bind (submit_upholds moves client) fun _ _ =>
    Upholds.bind (flush_upholds moves client) fun _ _ => waitJob_upholds moves _

end Client

end HostChannel

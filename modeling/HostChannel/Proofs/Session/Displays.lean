import HostChannel.Proofs.Session.Relocation
import HostChannel.Proofs.Session.SameJob
import HostChannel.Proofs.Shown
import HostChannel.Proofs.Simulator.Bounds

/-!
# What memory shows of a job along a session

Wherever a session has come, memory shows what was pushed to a job as the job's state says, if the
words of the job were written by nobody else (`Displays`). Building the job adds to what is shown,
a submission that succeeds takes it from placeholders to addresses, and everything else leaves it.
-/

namespace HostChannel

open HostChannel.Action (Moves)
open JobState (sealed)

/-- What was pushed to a job is shown after a submission as it was before, or as it is from the
acceptance on. -/
theorem Client.Submits.allShow {client : Client} {job : Job} {device : Instrumented Simulator}
    {after : Job × Instrumented Simulator} (submits : client.Submits (job, device) after)
    (sound : ∀ pushbuffer ∈ job.pushbuffers, pushbuffer.Sound)
    (apart : job.pushbuffers.Pairwise PushBuffer.Apart) (addressed : device.inner.Addressed)
    (extents : ∀ handle extent, device.inner.extent? handle = some extent →
      after.2.inner.extent? handle = some extent) {transcript : List (List Entry)}
    (shows : AllShow job.state device.inner job.pushbuffers transcript) :
    AllShow after.1.state after.2.inner job.pushbuffers transcript := by
  rcases submits with stays | ⟨between, submitted, stays⟩
  · refine shows.kept stays.job.accepted extents fun pushbuffer _ => ?_
    rw [stays.device]
    rfl
  · obtain ⟨submittable, _, submission, value, final, -, -, -, made⟩ :=
      submit_eq_ok_iff.mp submitted
    have early : job.state ∉ sealed := by
      simp [Job.checkSubmittable_eq_ok_iff.mp submittable, sealed]
    have past : after.1.state ∈ sealed := by
      refine stays.job.accepted.mpr ?_
      rw [made]
      simp [Job.submitted, sealed]
    have holds := (allShow_iff_of_early early).mp shows
    obtain ⟨counted, patches, counts, converted, accepted, -, contents⟩ :=
      submitted_patches submitted
    -- Making the words visible has only counted, so the patches find all as it was.
    obtain ⟨statistics, rfl⟩ : ∃ statistics, counted = { device.inner with statistics } :=
      ⟨_, counts⟩
    have still : AllTranscribe { device.inner with statistics } job.pushbuffers transcript :=
      holds.kept fun _ _ => rfl
    have resolving := Job.resolving_patches sound still apart converted
    refine resolving.allShow accepted addressed still apart (fun handle => ?_) extents past
    rw [← contents, stays.device]
    rfl

namespace Session

variable {name : String}

/-- Memory shows what was pushed to the job of a name, if there is one and its pushbuffers are
apart. -/
def Displays (name : String) (session : Session) (transcript : List (List Entry)) : Prop :=
  ∀ job, session.jobs[name]? = some job → job.pushbuffers.Pairwise PushBuffer.Apart →
    AllShow job.state session.simulator job.pushbuffers transcript

/-- The operation submits the job of a name, or pushes to it, or leaves the words that were pushed
to it. -/
def Unwritten (name : String) (session : Session) (operation : Operation) : Prop :=
  operation.submits? = some name ∨ Undisturbed name session operation

instance (name : String) (session : Session) (operation : Operation) :
    Decidable (Unwritten name session operation) :=
  inferInstanceAs (Decidable (_ ∨ _))

/-- So does every operation of a run. -/
def UnwrittenBy (name : String) (session : Session) : List Operation → Prop
  | [] => True
  | operation :: rest =>
    Unwritten name session operation ∧ UnwrittenBy name (perform operation session).2 rest

instance decidableUnwrittenBy (name : String) (session : Session) :
    (operations : List Operation) → Decidable (UnwrittenBy name session operations)
  | [] => inferInstanceAs (Decidable True)
  | operation :: rest =>
    have := decidableUnwrittenBy name (perform operation session).2 rest
    inferInstanceAs (Decidable (_ ∧ _))

/-- As long as nobody has accepted the job, memory shows what it transcribes. -/
theorem displays_iff_of_early {session : Session} (early : Early name session)
    {entries : List (List Entry)} :
    Displays name session entries ↔ Holds name session entries :=
  ⟨fun displays job found apart =>
      (allShow_iff_of_early (early job found)).mp (displays job found apart),
    fun holds job found apart =>
      (allShow_iff_of_early (early job found)).mpr (holds job found apart)⟩

/-- Nothing has changed, or the job of a name and the device, and these no more than by a
submission. -/
def SubmitsJob (name : String) (before after : Session) : Prop :=
  after = before ∨
    ∃ (client : Client) (job : Job) (changed : Job × Instrumented Simulator),
      before.jobs[name]? = some job ∧ client.Submits (job, before.device) changed ∧
        after = { before with
          host := { before.host with device := changed.2 }
          jobs := before.jobs.insert name changed.1 }

/-- What a client does to a job that it only submits. -/
theorem findClient_submitsJob {α : Type} (client : String)
    {action : Client → Action (Job × Instrumented Simulator) α} (view : α → Answer)
    (goes : ∀ user : Client, Moves user.Submits (action user)) :
    Moves (SubmitsJob name) (do
      let user ← findClient client
      let value ← onJob name (action user)
      pure (view value)) := by
  intro session
  cases foundClient : session.clients[client]? with
  | none =>
    have absent : findClient client session = (.error .absent, session) := find_of_none foundClient
    rw [Action.bind_apply_of_error absent]
    exact .inl rfl
  | some user =>
    have start : findClient client session = (.ok user, session) := find_of_some foundClient
    rw [Action.bind_apply_of_ok start, Action.bind_pure_leaves]
    cases found : session.jobs[name]? with
    | none =>
      rw [onJob_absent found]
      exact .inl rfl
    | some job =>
      rw [onJob_apply found]
      exact .inr ⟨user, job, _, found, goes user (job, session.device), rfl⟩

/-- An operation that submits a job does no more. -/
theorem perform_submitsJob {operation : Operation} (submits : operation.submits? = some name) :
    Moves (SubmitsJob name) (perform operation) := by
  unfold Operation.submits? at submits
  split at submits
  all_goals first
    | contradiction
    | obtain rfl := Option.some.inj submits
  · exact findClient_submitsJob _ (fun _ => .nothing) Client.submit_submits
  · exact findClient_submitsJob _ .outcome Client.finish_submits

variable {ledger : List Allocation} {kept : String → List PushBuffer → Prop}

/-- What is shown of a job is shown after every operation, with what the operation has written. -/
theorem displays_perform {operation : Operation} {session : Session}
    (booked : session.Booked ledger kept)
    (present : ∀ allocation ∈ ledger, allocation.handle ∈ session.simulator.buffers)
    (solid : session.simulator.Solid) (addressed : session.simulator.Addressed)
    {entries : List (List Entry)} (displays : Displays name session entries)
    (unwritten : Unwritten name session operation) :
    Displays name (perform operation session).2 (transcribe name operation session entries) := by
  have extents : ∀ handle extent, session.simulator.extent? handle = some extent →
      (perform operation session).2.simulator.extent? handle = some extent :=
    fun _ _ => solid.extent?_of_reaches (reaches_perform operation session)
  -- What builds the job is refused or finds it early, so what was shown then is what was written.
  by_cases builds : operation.builds? = some name
  · rcases grows_perform booked present entries builds with
      ⟨failure, refused⟩ | ⟨answer, after, run, early, grown⟩
    · rw [transcribe_of_error refused, refused]
      exact displays
    · rw [transcribe_of_ok builds run, run]
      exact (displays_iff_of_early early).mpr
        (grown fun before => (displays_iff_of_early before).mp displays)
  rw [transcribe_of_other builds]
  by_cases submits : operation.submits? = some name
  · rcases perform_submitsJob submits session with
      same | ⟨client, held, after, found, submitted, made⟩
    · rw [same]
      exact displays
    · rw [made] at extents ⊢
      intro job foundJob apart
      rw [Std.ExtTreeMap.getElem?_insert_self] at foundJob
      obtain rfl := Option.some.inj foundJob
      have same := submitted.pushbuffers
      rw [same] at apart ⊢
      exact submitted.allShow (booked.sound found) apart addressed extents
        (displays held found apart)
  · have left := (unwritten.resolve_left submits).resolve_left builds
    intro job found apart
    obtain ⟨before, held, keeps⟩ := perform_sameJob builds submits session job found
    rw [keeps.pushbuffers] at apart ⊢
    exact (displays before held apart).kept keeps.accepted extents (left before held)

/-- Memory shows what was pushed to a job after every run in which nobody else wrote its words. -/
theorem displays_run {operations : List Operation}
    (plain : ∀ operation ∈ operations, operation.plain = true) {settings : SimulatorSettings}
    {session : Session} (reached : (Simulator.initial settings).Reaches session.simulator)
    (grounded : session.Grounded) {before : List (List Entry)}
    (displays : Displays name session before)
    (unwritten : UnwrittenBy name session operations) :
    Displays name (session.run operations) (transcript name session operations before) := by
  induction operations generalizing session before with
  | nil => exact displays
  | cons operation rest ih =>
    obtain ⟨first, others⟩ := List.forall_mem_cons.mp plain
    obtain ⟨now, later⟩ := unwritten
    have further := trans_of Simulator.Reaches reached (reaches_perform operation session)
    obtain ⟨ledger, booked, handed⟩ := grounded
    exact ih others further (grounded_perform first ⟨ledger, booked, handed⟩)
      (displays_perform booked (fun allocation member => (handed allocation member).mem)
        reached.solid.1 reached.addressed displays now) later

end Session

end HostChannel

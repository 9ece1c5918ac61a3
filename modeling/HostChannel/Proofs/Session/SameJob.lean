import HostChannel.Proofs.Client.Stays
import HostChannel.Proofs.Session.Books

/-!
# What leaves a job its words and its standing

A job is changed by the operations that build it and by those that submit it. Every other operation
of a session leaves the job of a name as it is, flushes it or waits for it, or frees the name
(`SameJob`): a job that is there afterwards was there before, with the same pushbuffers, and
accepted by a device or not as it was.
-/

namespace HostChannel

open HostChannel.Action (Moves)

/-- The job that an operation submits. -/
def Operation.submits? : Operation → Option String
  | .job (.submit _ name) => some name
  | .job (.finish _ name) => some name
  | _ => none

namespace Session

variable {name : String}

/-- A job that has the name in the second session is kept from the first. -/
def SameJob (name : String) (first second : Session) : Prop :=
  ∀ job, second.jobs[name]? = some job →
    ∃ before, first.jobs[name]? = some before ∧ before.Keeps job

instance : IsPreorder Session (SameJob name) where
  refl _ job found := ⟨job, found, refl_of Job.Keeps job⟩
  trans _ _ _ earlier later := by
    intro job found
    obtain ⟨between, held, kept⟩ := later job found
    obtain ⟨before, first, start⟩ := earlier between held
    exact ⟨before, first, trans_of Job.Keeps start kept⟩

/-- Where the jobs are the same, so is the job of a name. -/
theorem sameJob_of_jobs_eq {first second : Session} (same : second.jobs = first.jobs) :
    SameJob name first second := by
  intro job found
  exact ⟨job, same ▸ found, refl_of Job.Keeps job⟩

/-- An action on the host leaves the jobs alone. -/
theorem onHost_sameJob {α : Type} (action : Action (Host (Instrumented Simulator)) α) :
    Moves (SameJob name) (onHost action) :=
  fun _ => sameJob_of_jobs_eq rfl

/-- So does naming something else. -/
theorem rename_sameJob {change : Session → Session}
    (same : ∀ session, (change session).jobs = session.jobs) :
    Moves (SameJob name) (Action.update change) :=
  Moves.update fun session => sameJob_of_jobs_eq (same session)

/-- Giving up what had a name before leaves the jobs alone if giving an object up does. -/
theorem giveUp_sameJob {α : Type} {release : α → Action Session Unit}
    (goes : ∀ object, Moves (SameJob name) (release object)) (before : Option α) :
    Moves (SameJob name) (giveUp release before) := by
  cases before with
  | none => exact Moves.pure ()
  | some object => exact goes object

/-- Putting a job in the place of that of another name leaves the job. -/
theorem changeJob_sameJob {other : String} (different : other ≠ name) (changed : Job) :
    Moves (SameJob name) (changeJob other changed) := by
  refine Moves.update fun session job found => ⟨job, ?_, refl_of Job.Keeps job⟩
  exact (Slots.of_getElem?_insert found).resolve_left fun both => different both.1.symm

/-- Naming a job leaves that of another name. -/
theorem keepJob_sameJob {other : String} (different : other ≠ name) (named : Job) :
    Moves (SameJob name) (keepJob other named) :=
  Moves.bind (Moves.read _) fun _ => Moves.bind (changeJob_sameJob different named) fun _ =>
    giveUp_sameJob (fun _ => onHost_sameJob _) _

/-- Freeing the name of a job leaves the job of the name, or none. -/
theorem eraseJob_sameJob (other : String) :
    Moves (SameJob name)
      (Action.update fun session : Session => { session with jobs := session.jobs.erase other }) :=
  Moves.update fun _ job found =>
    ⟨job, (Slots.of_getElem?_erase found).2, refl_of Job.Keeps job⟩

/-- An action on a job that is there changes the job and the device. -/
theorem onJob_apply {α : Type} {other : String} {job : Job} {session : Session}
    (found : session.jobs[other]? = some job)
    (action : Action (Job × Instrumented Simulator) α) :
    onJob other action session = ((action (job, session.device)).1, { session with
      host := { session.host with device := (action (job, session.device)).2.2 }
      jobs := session.jobs.insert other (action (job, session.device)).2.1 }) :=
  Action.bind_apply_of_ok (find_of_some found) _

/-- One on a job that is not there changes nothing. -/
theorem onJob_absent {α : Type} {other : String} {session : Session}
    (absent : session.jobs[other]? = none) (action : Action (Job × Instrumented Simulator) α) :
    onJob other action session = (.error .absent, session) :=
  Action.bind_apply_of_error (find_of_none absent) _

/-- An action on a job beside the device leaves the job of the name, if it is that of another, or if
the action keeps it. -/
theorem onJob_sameJob {α : Type} {other : String}
    {action : Action (Job × Instrumented Simulator) α}
    (kept : other = name → Moves (Action.Along Prod.fst Job.Keeps) action) :
    Moves (SameJob name) (onJob other action) := by
  intro session
  cases found : session.jobs[other]? with
  | none =>
    rw [onJob_absent found]
    exact refl_of (SameJob name) session
  | some held =>
    rw [onJob_apply found]
    intro job foundJob
    rcases Slots.of_getElem?_insert foundJob with ⟨rfl, rfl⟩ | before
    · exact ⟨held, found, kept rfl (held, session.host.device)⟩
    · exact ⟨job, before, refl_of Job.Keeps job⟩

/-- Changing a pushbuffer leaves the job, if it is that of another one. -/
theorem changePushBuffer_sameJob {place : PushBufferPlace}
    (elsewhere : ∀ job index, place = .inJob job index → job ≠ name)
    (change : PushBuffer → Action (Instrumented Simulator) PushBuffer) :
    Moves (SameJob name) (changePushBuffer place change) := by
  cases place with
  | named other =>
    exact Moves.bind (find_moves _ _) fun _ => Moves.bind (onHost_sameJob _) fun _ =>
      Moves.bind (rename_sameJob fun _ => rfl) fun _ => Moves.pure _
  | inJob other index =>
    exact Moves.bind (find_moves _ _) fun _ => Moves.bind (Moves.check _) fun _ =>
      Moves.bind (onHost_sameJob _) fun _ =>
        Moves.bind (changeJob_sameJob (elsewhere other index rfl) _) fun _ => Moves.pure _

/-- Asking for a pushbuffer to change it puts it back as it is. -/
theorem select_sameJob (place : PushBufferPlace) :
    Moves (SameJob name) (changePushBuffer place pure) := by
  cases place with
  | named other => exact changePushBuffer_sameJob (by simp) pure
  | inJob other index =>
    intro session
    cases found : session.jobs[other]? with
    | none =>
      have absent : changePushBuffer (.inJob other index) pure session = (.error .absent, session) :=
        Action.bind_apply_of_error (find_of_none found) _
      rw [absent]
      exact refl_of (SameJob name) session
    | some job =>
      have first := find_of_some found
      cases given : job.pushbuffer? index with
      | error cause =>
        have refused : changePushBuffer (.inJob other index) pure session =
            (.error (.refused cause), session) := by
          refine (Action.bind_apply_of_ok first _).trans ?_
          rw [given]
          rfl
        rw [refused]
        exact refl_of (SameJob name) session
      | ok pushbuffer =>
        have second : Action.check (job.pushbuffer? index) session = (.ok pushbuffer, session) := by
          rw [given, Action.check_ok]
        have back : job.replace index pushbuffer = job := by
          obtain ⟨inside, rfl⟩ :=
            List.getElem?_eq_some_iff.mp (Job.pushbuffer?_eq_ok_iff.mp given).2
          rw [Job.replace, List.set_getElem_self]
        have run : changePushBuffer (.inJob other index) pure session =
            (.ok (.cursor pushbuffer), { session with
              jobs := session.jobs.insert other (job.replace index pushbuffer) }) :=
          (Action.bind_apply_of_ok first _).trans (Action.bind_apply_of_ok second _)
        rw [run, back]
        exact sameJob_of_jobs_eq (Slots.insert_self found)

/-- Operations on buffers leave the jobs alone. -/
theorem bufferOperation_sameJob {operation : BufferOperation}
    (loud : (Operation.buffer operation).quiet = false) :
    Moves (SameJob name) (bufferOperation operation) := by
  have keeps : ∀ other buffer, Moves (SameJob name) (keepBuffer other buffer) := fun _ _ =>
    Moves.bind (Moves.read _) fun _ => Moves.bind (rename_sameJob fun _ => rfl) fun _ =>
      giveUp_sameJob (fun _ => onHost_sameJob _) _
  cases operation with
  | allocate other size flags pretending =>
    have allocates : Moves (SameJob name) (allocateBuffer size flags pretending) :=
      fun _ => sameJob_of_jobs_eq rfl
    exact Moves.bind allocates fun _ => Moves.bind (Moves.read _) fun _ =>
      Moves.bind (keeps _ _) fun _ => Moves.pure _
  | window other buffer offset length =>
    exact Moves.bind (find_moves _ _) fun _ => Moves.bind (onHost_sameJob _) fun _ =>
      Moves.bind (Moves.read _) fun _ => Moves.bind (keeps _ _) fun _ => Moves.pure _
  | release buffer =>
    exact Moves.bind (find_moves _ _) fun _ => Moves.bind (rename_sameJob fun _ => rfl) fun _ =>
      Moves.bind (onHost_sameJob _) fun _ => Moves.pure _
  | map other buffer =>
    refine Moves.bind (find_moves _ _) fun _ => Moves.bind (onHost_sameJob _) fun _ =>
      Moves.bind ?_ fun _ => Moves.pure _
    cases other with
    | none => exact Moves.pure ()
    | some other => exact rename_sameJob fun _ => rfl
  | describe | sharesAllocation | flush | invalidate | mapping => simp [Operation.quiet] at loud

/-- Operations on pushbuffers that add nothing to the job leave it. -/
theorem pushBufferOperation_sameJob {operation : PushBufferOperation}
    (loud : (Operation.pushbuffer operation).quiet = false)
    (other : (Operation.pushbuffer operation).builds? ≠ some name) :
    Moves (SameJob name) (pushBufferOperation operation) := by
  cases operation with
  | openAt own buffer offset =>
    exact Moves.bind (find_moves _ _) fun _ => Moves.bind (onHost_sameJob _) fun _ =>
      Moves.bind (Moves.read _) fun _ =>
        Moves.bind (Moves.bind (Moves.read _) fun _ => Moves.bind (rename_sameJob fun _ => rfl)
          fun _ => giveUp_sameJob (fun _ => onHost_sameJob _) _) fun _ => Moves.pure _
  | release own =>
    exact Moves.bind (find_moves _ _) fun _ => Moves.bind (rename_sameJob fun _ => rfl) fun _ =>
      Moves.bind (onHost_sameJob _) fun _ => Moves.pure _
  | push place word =>
    exact changePushBuffer_sameJob (fun job index here same => other (by rw [here, same]; rfl)) _
  | pushSingle place number =>
    exact changePushBuffer_sameJob (fun job index here same => other (by rw [here, same]; rfl)) _
  | pushWords place words =>
    exact changePushBuffer_sameJob (fun job index here same => other (by rw [here, same]; rfl)) _
  | relocate place target offset shift =>
    refine Moves.bind ?_ fun _ => Moves.bind (find_moves _ _) fun _ =>
      changePushBuffer_sameJob (fun job index here same => other (by rw [here, same]; rfl)) _
    cases place with
    | named own => exact Moves.bind (find_moves _ _) fun _ => Moves.pure _
    | inJob job index => exact Moves.bind (find_moves _ _) fun _ => Moves.pure _
  | select place => exact select_sameJob place
  | describe | words => simp [Operation.quiet] at loud

/-- Operations on jobs that neither build nor submit the job leave it. -/
theorem jobOperation_sameJob {operation : JobOperation}
    (loud : (Operation.job operation).quiet = false)
    (other : (Operation.job operation).builds? ≠ some name)
    (unsubmitted : (Operation.job operation).submits? ≠ some name) :
    Moves (SameJob name) (jobOperation operation) := by
  cases operation with
  | createJob made client increments =>
    exact Moves.bind (find_moves _ _) fun _ => Moves.bind (Moves.check _) fun _ =>
      Moves.bind (keepJob_sameJob (fun same => other (congrArg some same)) _) fun _ =>
        Moves.pure _
  | newJob made syncpoint increments =>
    exact Moves.bind (keepJob_sameJob (fun same => other (congrArg some same)) _) fun _ =>
      Moves.pure _
  | append grown buffer offset =>
    refine Moves.bind (find_moves _ _) fun _ => Moves.bind (find_moves _ _) fun _ =>
      Moves.bind (onHost_sameJob _) fun appended =>
        Moves.bind (changeJob_sameJob (fun same => other (congrArg some same)) _) fun _ => ?_
    cases appended.pushbuffers.getLast? with
    | none => exact Moves.pure _
    | some pushbuffer => exact Moves.read _
  | release freed =>
    exact Moves.bind (find_moves _ _) fun _ => Moves.bind (eraseJob_sameJob freed) fun _ =>
      Moves.bind (onHost_sameJob _) fun _ => Moves.pure _
  | submit client job =>
    exact Moves.bind (find_moves _ _) fun _ =>
      Moves.bind (onJob_sameJob fun same => absurd (congrArg some same) unsubmitted) fun _ =>
        Moves.pure _
  | flush client job =>
    exact Moves.bind (find_moves _ _) fun client =>
      Moves.bind (onJob_sameJob fun _ state => (client.flush_stays state).job) fun _ =>
        Moves.pure _
  | waitJob client job timeout =>
    exact Moves.bind (find_moves _ _) fun _ =>
      Moves.bind (onJob_sameJob fun _ state => (Client.waitJob_stays timeout state).job) fun _ =>
        Moves.pure _
  | finish client job =>
    exact Moves.bind (find_moves _ _) fun _ =>
      Moves.bind (onJob_sameJob fun same => absurd (congrArg some same) unsubmitted) fun _ =>
        Moves.pure _
  | openClient | clientSyncpoint | releaseClient | describe | toSubmission | list =>
    simp [Operation.quiet] at loud

/-- An operation that neither builds nor submits the job of a name leaves it, or frees the name. -/
theorem perform_sameJob {operation : Operation} (other : operation.builds? ≠ some name)
    (unsubmitted : operation.submits? ≠ some name) :
    Moves (SameJob name) (perform operation) := by
  by_cases quiet : operation.quiet = true
  · have moves := (Instrumented.movesBy_plain (σ := Simulator)).toQuietBy
    exact fun session => sameJob_of_jobs_eq (perform_sameHolders moves quiet session).jobs
  · have loud : operation.quiet = false := Bool.eq_false_iff.mpr quiet
    cases operation with
    | buffer operation => exact bufferOperation_sameJob loud
    | mapping operation => simp [Operation.quiet] at loud
    | pushbuffer operation => exact pushBufferOperation_sameJob loud other
    | job operation => exact jobOperation_sameJob loud other unsubmitted
    | wait operation => simp [Operation.quiet] at loud
    | simulator operation => exact onHost_sameJob _
    | instrument operation =>
      cases operation with
      | arm method fault => exact Moves.bind (onHost_sameJob _) fun _ => Moves.pure _
      | shorten bytes => exact Moves.bind (onHost_sameJob _) fun _ => Moves.pure _

end Session

end HostChannel

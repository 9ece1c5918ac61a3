import HostChannel.Proofs.Apart
import HostChannel.Proofs.Job.Building
import HostChannel.Proofs.Job.Standing
import HostChannel.Proofs.Session.Books

/-!
# Transcripts along a session

The transcript of a job has an entry for everything that was pushed to each of its pushbuffers,
by operations that succeeded. What builds a job is refused and does nothing, or makes the job grow
by what was written (`Grows`). As long as the words of the job are written by nobody else, and its
pushbuffers are apart, they hold what the transcript says, wherever a session has come.
-/

namespace HostChannel.Session

open HostChannel.Action (Moves Upholds)

/-- What the transcript of a job becomes with an operation that has succeeded. -/
def written (session : Session) (operation : Operation) (transcript : List (List Entry)) :
    List (List Entry) :=
  match operation with
  | .job (.append ..) => transcript ++ [[]]
  | .pushbuffer (.push (.inJob _ index) word) => transcript.modify index (· ++ [.word word])
  | .pushbuffer (.pushSingle (.inJob _ index) number) =>
    transcript.modify index (· ++ [.word number.bits])
  | .pushbuffer (.pushWords (.inJob _ index) words) =>
    transcript.modify index (· ++ words.map .word)
  | .pushbuffer (.relocate (.inJob _ index) target offset shift) =>
    match session.buffers[target]? with
    | some target => transcript.modify index (· ++ [.address target offset shift])
    | none => transcript
  | _ => []

/-- What the transcript of the job of a name becomes with an operation. -/
def transcribe (name : String) (operation : Operation) (session : Session)
    (transcript : List (List Entry)) : List (List Entry) :=
  if operation.builds? = some name ∧ (perform operation session).1.isOk then
    session.written operation transcript
  else transcript

/-- What it becomes with a run. -/
def transcript (name : String) (session : Session) (operations : List Operation)
    (before : List (List Entry)) : List (List Entry) :=
  match operations with
  | [] => before
  | operation :: rest =>
    transcript name (perform operation session).2 rest (transcribe name operation session before)

/-- The operation pushes to the job of a name, or leaves the words that were pushed to it. -/
def Undisturbed (name : String) (session : Session) (operation : Operation) : Prop :=
  operation.builds? = some name ∨
    ∀ job ∈ session.jobs[name]?, ∀ pushbuffer ∈ job.pushbuffers,
      ((perform operation session).2.simulator.contents pushbuffer.buffer.handle).readWords
          pushbuffer.origin pushbuffer.length =
        (session.simulator.contents pushbuffer.buffer.handle).readWords pushbuffer.origin
          pushbuffer.length

instance (name : String) (session : Session) (operation : Operation) :
    Decidable (Undisturbed name session operation) :=
  inferInstanceAs (Decidable (_ ∨ _))

/-- So does every operation of a run. -/
def UndisturbedBy (name : String) (session : Session) : List Operation → Prop
  | [] => True
  | operation :: rest =>
    Undisturbed name session operation ∧ UndisturbedBy name (perform operation session).2 rest

instance decidableUndisturbedBy (name : String) (session : Session) :
    (operations : List Operation) → Decidable (UndisturbedBy name session operations)
  | [] => inferInstanceAs (Decidable True)
  | operation :: rest =>
    have := decidableUndisturbedBy name (perform operation session).2 rest
    inferInstanceAs (Decidable (_ ∧ _))

/-- The job of a name, if there is one and its pushbuffers are apart, holds its transcript. -/
def Holds (name : String) (session : Session) (transcript : List (List Entry)) : Prop :=
  ∀ job, session.jobs[name]? = some job → job.pushbuffers.Pairwise PushBuffer.Apart →
    AllTranscribe session.simulator job.pushbuffers transcript

variable {ledger : List Allocation} {kept : String → List PushBuffer → Prop} {name : String}

/-- A job without pushbuffers holds an empty transcript. -/
theorem holds_insert_empty (session : Session) (host : Host (Instrumented Simulator)) {job : Job}
    (empty : job.pushbuffers = []) :
    Holds name { session with host, jobs := session.jobs.insert name job } [] := by
  intro other found apart
  rw [Std.ExtTreeMap.getElem?_insert_self] at found
  obtain rfl := Option.some.inj found
  rw [empty]
  exact ⟨rfl, fun index pushbuffer entries found => absurd found (by simp)⟩

/-- Giving holders up succeeds. -/
theorem letGo_eq_ok (allocation : Allocation) (host : Host (Instrumented Simulator)) :
    ∃ after, Host.letGo allocation host = (.ok (), after) := by
  rw [Host.letGo]
  split
  · exact ⟨_, rfl⟩
  · exact ⟨_, rfl⟩

/-- So does giving a job up. -/
theorem release_eq_ok (pushbuffers : List PushBuffer) (host : Host (Instrumented Simulator)) :
    ∃ after, pushbuffers.forM PushBuffer.release host = (.ok (), after) := by
  induction pushbuffers generalizing host with
  | nil => exact ⟨host, rfl⟩
  | cons pushbuffer rest ih =>
    obtain ⟨between, first⟩ := letGo_eq_ok pushbuffer.buffer.allocation host
    obtain ⟨after, others⟩ := ih between
    exact ⟨after, (Action.bind_apply_of_ok first _).trans others⟩

/-- Naming a job succeeds, and the name is the job's from then on. -/
theorem keepJob_eq_ok (name : String) (job : Job) (session : Session) :
    ∃ host, keepJob name job session =
      (.ok (), { session with host, jobs := session.jobs.insert name job }) := by
  cases before : session.jobs[name]? with
  | none =>
    refine ⟨session.host, ?_⟩
    simp only [keepJob, Action.bind_apply, Action.read_apply, Action.update_apply, before]
    rfl
  | some other =>
    obtain ⟨after, released⟩ := release_eq_ok other.pushbuffers session.host
    refine ⟨after, ?_⟩
    simp only [keepJob, Action.bind_apply, Action.read_apply, Action.update_apply, before]
    change onHost other.release _ = _
    exact onHost_run released

/-- Nobody has accepted the job of the name yet, if there is one. -/
def Early (name : String) (session : Session) : Prop :=
  ∀ job, session.jobs[name]? = some job → job.state ∉ JobState.sealed

/-- An operation that builds the job of a name is refused and does nothing; or it succeeds, the job
is early then, and it holds what was written if it held its transcript for as long as it was early
before. -/
def Grows (name : String) (operation : Operation) (session : Session)
    (entries : List (List Entry)) : Prop :=
  (∃ failure, perform operation session = (.error failure, session)) ∨
    ∃ answer after, perform operation session = (.ok answer, after) ∧ Early name after ∧
      ((Early name session → Holds name session entries) →
        Holds name after (session.written operation entries))

/-- A job is early when it is named in a state before the acceptance. -/
theorem early_insert (session : Session) (host : Host (Instrumented Simulator)) {job : Job}
    (state : job.state ∉ JobState.sealed) :
    Early name { session with host, jobs := session.jobs.insert name job } := by
  intro other found
  rw [Std.ExtTreeMap.getElem?_insert_self] at found
  exact Option.some.inj found ▸ state

/-- So a job was early that may still be built. -/
theorem early_of_building {session : Session} {job : Job} (found : session.jobs[name]? = some job)
    (building : job.checkBuilding = .ok ()) : Early name session := by
  intro other same
  obtain rfl := Option.some.inj (found.symm.trans same)
  exact Job.not_sealed_of_building building

/-- A job that was just made is early, and holds an empty transcript. -/
theorem grows_of_made {operation : Operation} {session : Session} {entries : List (List Entry)}
    {host : Host (Instrumented Simulator)} {answer : Answer} (syncpoint increments : Word)
    (run : perform operation session = (.ok answer,
      { session with host, jobs := session.jobs.insert name (Job.create syncpoint increments) }))
    (written : session.written operation entries = []) : Grows name operation session entries := by
  have fresh : (Job.create syncpoint increments).state ∉ JobState.sealed := by
    simp [Job.create, JobState.sealed]
  refine .inr ⟨answer, _, run, early_insert session host fresh, fun _ => ?_⟩
  rw [written]
  exact holds_insert_empty session host rfl

/-- A client makes a job. -/
theorem grows_createJob (session : Session) (entries : List (List Entry)) (client : String)
    (increments : Word) : Grows name (.job (.createJob name client increments)) session entries := by
  cases found : session.clients[client]? with
  | none => exact .inl ⟨_, Action.bind_apply_of_error (find_of_none found) _⟩
  | some object =>
    have start := find_of_some found
    cases made : object.createJob increments with
    | error cause =>
      refine .inl ⟨.refused cause, (Action.bind_apply_of_ok start _).trans ?_⟩
      rw [made]
      rfl
    | ok job =>
      obtain ⟨syncpoint, rfl⟩ := Client.createJob_eq_ok made
      obtain ⟨host, named⟩ := keepJob_eq_ok name (Job.create syncpoint increments) session
      have run : perform (.job (.createJob name client increments)) session =
          (.ok (.created (Job.create syncpoint increments)), { session with
            host
            jobs := session.jobs.insert name (Job.create syncpoint increments) }) := by
        refine (Action.bind_apply_of_ok start _).trans ?_
        rw [made]
        exact (Action.bind_apply_of_ok (Action.check_ok _ session) _).trans
          (Action.bind_apply_of_ok named _)
      exact grows_of_made syncpoint increments run rfl

/-- A job is made without a client. -/
theorem grows_newJob (session : Session) (entries : List (List Entry))
    (syncpoint increments : Word) :
    Grows name (.job (.newJob name syncpoint increments)) session entries := by
  obtain ⟨host, named⟩ := keepJob_eq_ok name (Job.create syncpoint increments) session
  have run : perform (.job (.newJob name syncpoint increments)) session =
      (.ok .nothing, { session with
        host
        jobs := session.jobs.insert name (Job.create syncpoint increments) }) :=
    Action.bind_apply_of_ok named _
  exact grows_of_made syncpoint increments run rfl

/-- Appending a pushbuffer to a job is refused and does nothing, or opens an empty one at its
end. -/
theorem append_cases (job : Job) (buffer : Buffer) (offset : UInt64)
    (host : Host (Instrumented Simulator)) :
    (∃ failure, job.append buffer offset host = (.error failure, host)) ∨
      ∃ opened after, job.checkBuilding = .ok () ∧
        job.append buffer offset host =
          (.ok { job with pushbuffers := job.pushbuffers ++ [opened], state := .building }, after) ∧
        opened.length = 0 ∧ opened.relocations = [] ∧ after.device = host.device := by
  rcases Job.append_cases job buffer offset host with
    ⟨cause, refused⟩ | ⟨opened, building, made, accepted⟩
  · exact .inl ⟨.refused cause, refused⟩
  · have empty := PushBuffer.ofMapping?_empty made
    exact .inr ⟨opened, host.retain buffer.allocation, building, accepted, empty.1, empty.2, rfl⟩

/-- A pushbuffer that is opened at the end of the job holds nothing. -/
theorem grows_append (session : Session) (entries : List (List Entry)) (buffer : String)
    (offset : UInt64) : Grows name (.job (.append name buffer offset)) session entries := by
  cases foundJob : session.jobs[name]? with
  | none => exact .inl ⟨_, Action.bind_apply_of_error (find_of_none foundJob) _⟩
  | some job =>
    have first := find_of_some foundJob
    cases foundBuffer : session.buffers[buffer]? with
    | none =>
      exact .inl ⟨_, (Action.bind_apply_of_ok first _).trans
        (Action.bind_apply_of_error (find_of_none foundBuffer) _)⟩
    | some object =>
      have second := find_of_some foundBuffer
      rcases append_cases job object offset session.host with
        ⟨failure, refused⟩ | ⟨opened, after, building, accepted, length, relocations, same⟩
      · have third : onHost (job.append object offset) session = (.error failure, session) :=
          onHost_run refused
        exact .inl ⟨failure, (Action.bind_apply_of_ok first _).trans
          ((Action.bind_apply_of_ok second _).trans (Action.bind_apply_of_error third _))⟩
      · have third : onHost (job.append object offset) session =
            (.ok { job with pushbuffers := job.pushbuffers ++ [opened], state := .building },
              { session with host := after }) := onHost_run accepted
        have last : (job.pushbuffers ++ [opened]).getLast? = some opened :=
          List.getLast?_concat
        have run : perform (.job (.append name buffer offset)) session =
            (.ok (.pushbuffer (opened.buffer.summary after) opened), { session with
              host := after
              jobs := session.jobs.insert name
                { job with pushbuffers := job.pushbuffers ++ [opened], state := .building } }) := by
          refine (Action.bind_apply_of_ok first _).trans ((Action.bind_apply_of_ok second _).trans
            ((Action.bind_apply_of_ok third _).trans
              ((Action.bind_apply_of_ok (Action.update_apply _ _) _).trans ?_)))
          simp only [last]
          rfl
        refine .inr ⟨_, _, run, early_insert session after (by simp [JobState.sealed]), ?_⟩
        intro early other found apart
        rw [Std.ExtTreeMap.getElem?_insert_self] at found
        obtain rfl := Option.some.inj found
        have held := early (early_of_building foundJob building)
        have before := held job foundJob (List.pairwise_append.mp apart).1
        have grown := before.appended length relocations
        have still : after.device.inner = session.simulator := congrArg Instrumented.inner same
        rw [← still] at grown
        exact grown

/-- Pushing to a pushbuffer of the job is refused and does nothing, or it adds what is pushed to
the transcript. -/
theorem pushes_cases {session : Session} (booked : session.Booked ledger kept)
    (present : ∀ allocation ∈ ledger, allocation.handle ∈ session.simulator.buffers)
    (entries : List (List Entry)) (index : Nat)
    {change : PushBuffer → Action (Instrumented Simulator) PushBuffer} {more : List Entry}
    (pushes : PushBuffer.Pushes change more) :
    (∃ failure, changePushBuffer (.inJob name index) change session = (.error failure, session)) ∨
      ∃ answer after, changePushBuffer (.inJob name index) change session = (.ok answer, after) ∧
        Early name after ∧
        ((Early name session → Holds name session entries) →
          Holds name after (entries.modify index (· ++ more))) := by
  cases foundJob : session.jobs[name]? with
  | none => exact .inl ⟨_, Action.bind_apply_of_error (find_of_none foundJob) _⟩
  | some job =>
    have first := find_of_some foundJob
    cases given : job.pushbuffer? index with
    | error cause =>
      refine .inl ⟨.refused cause, (Action.bind_apply_of_ok first _).trans ?_⟩
      rw [given]
      rfl
    | ok pushbuffer =>
      obtain ⟨building, found⟩ := Job.pushbuffer?_eq_ok_iff.mp given
      have known := (booked.jobs name job foundJob).1 pushbuffer (List.mem_of_getElem? found)
      have second : Action.check (job.pushbuffer? index) session = (.ok pushbuffer, session) := by
        rw [given, Action.check_ok]
      have listed := present _ (List.mem_of_getElem? known.1.listed)
      rcases pushes pushbuffer known.2 session.host.device with
        ⟨failure, refused⟩ | ⟨_, sound, accepted⟩
      · have third : onDevice (change pushbuffer) session = (.error failure, session) :=
          onDevice_run refused
        exact .inl ⟨failure, (Action.bind_apply_of_ok first _).trans
          ((Action.bind_apply_of_ok second _).trans (Action.bind_apply_of_error third _))⟩
      · have third : onDevice (change pushbuffer) session =
            (.ok (pushbuffer.pushed more), { session with host := { session.host with
              device := session.host.device.writeBuffer pushbuffer.buffer.handle
                (pushbuffer.origin + 4 * pushbuffer.length) (PushBuffer.bytesWritten more) } }) :=
          onDevice_run accepted
        refine .inr ⟨_, _, (Action.bind_apply_of_ok first _).trans
          ((Action.bind_apply_of_ok second _).trans ((Action.bind_apply_of_ok third _).trans
            (Action.bind_apply_of_ok (Action.update_apply _ _) _))),
          early_insert session _ (Job.not_sealed_of_building building), ?_⟩
        intro early other foundOther apart
        rw [Std.ExtTreeMap.getElem?_insert_self] at foundOther
        obtain rfl := Option.some.inj foundOther
        have held := early (early_of_building foundJob building)
        have before := held job foundJob (PushBuffer.pairwise_of_set_pushed found apart)
        exact before.pushed found listed sound apart

/-- What is pushed to a pushbuffer of the job is added to its transcript. -/
theorem grows_of_pushes {session : Session} (booked : session.Booked ledger kept)
    (present : ∀ allocation ∈ ledger, allocation.handle ∈ session.simulator.buffers)
    (entries : List (List Entry)) {operation : Operation} {index : Nat}
    {change : PushBuffer → Action (Instrumented Simulator) PushBuffer} {more : List Entry}
    (pushes : PushBuffer.Pushes change more)
    (same : perform operation session = changePushBuffer (.inJob name index) change session)
    (written : session.written operation entries = entries.modify index (· ++ more)) :
    Grows name operation session entries := by
  rw [Grows, same, written]
  exact pushes_cases booked present entries index pushes

/-- So is an address. -/
theorem grows_relocate {session : Session} (booked : session.Booked ledger kept)
    (present : ∀ allocation ∈ ledger, allocation.handle ∈ session.simulator.buffers)
    (entries : List (List Entry)) (index : Nat) (target : String) (offset : UInt64)
    (shift : Word) :
    Grows name (.pushbuffer (.relocate (.inJob name index) target offset shift)) session
      entries := by
  cases foundJob : session.jobs[name]? with
  | none =>
    have absent : checkPlace (.inJob name index) session = (.error .absent, session) :=
      Action.bind_apply_of_error (find_of_none foundJob) _
    exact .inl ⟨_, Action.bind_apply_of_error absent _⟩
  | some job =>
    have first : checkPlace (.inJob name index) session = (.ok (), session) :=
      Action.bind_apply_of_ok (find_of_some foundJob) _
    cases foundTarget : session.buffers[target]? with
    | none =>
      exact .inl ⟨_, (Action.bind_apply_of_ok first _).trans
        (Action.bind_apply_of_error (find_of_none foundTarget) _)⟩
    | some object =>
      have known := booked.buffers target object foundTarget
      refine grows_of_pushes booked present entries
        (PushBuffer.pushes_address known.inside offset shift)
        ((Action.bind_apply_of_ok first _).trans
          (Action.bind_apply_of_ok (find_of_some foundTarget) _)) ?_
      simp only [written, foundTarget]

/-- Whatever builds the job of a name is refused, or makes it grow by what was written. -/
theorem grows_perform {operation : Operation} {session : Session}
    (booked : session.Booked ledger kept)
    (present : ∀ allocation ∈ ledger, allocation.handle ∈ session.simulator.buffers)
    (entries : List (List Entry)) (builds : operation.builds? = some name) :
    Grows name operation session entries := by
  unfold Operation.builds? at builds
  split at builds
  all_goals first
    | contradiction
    | obtain rfl := Option.some.inj builds
  · exact grows_createJob session entries _ _
  · exact grows_newJob session entries _ _
  · exact grows_append session entries _ _
  · exact grows_of_pushes booked present entries (PushBuffer.pushes_words [_]) rfl rfl
  · exact grows_of_pushes booked present entries (PushBuffer.pushes_words [_]) rfl rfl
  · exact grows_of_pushes booked present entries (PushBuffer.pushes_words _) rfl rfl
  · exact grows_relocate booked present entries _ _ _ _

/-- An operation that is refused adds nothing to a transcript. -/
theorem transcribe_of_error {operation : Operation} {session after : Session} {failure : Failure}
    (failed : perform operation session = (.error failure, after)) (entries : List (List Entry)) :
    transcribe name operation session entries = entries := by
  rw [transcribe, failed]
  exact if_neg fun both => Bool.false_ne_true both.2

/-- One that builds the job and succeeds adds what it writes. -/
theorem transcribe_of_ok {operation : Operation} (builds : operation.builds? = some name)
    {session after : Session} {answer : Answer}
    (run : perform operation session = (.ok answer, after)) (entries : List (List Entry)) :
    transcribe name operation session entries = session.written operation entries := by
  rw [transcribe, run]
  exact if_pos ⟨builds, rfl⟩

/-- One that does not build the job adds nothing. -/
theorem transcribe_of_other {operation : Operation} (other : operation.builds? ≠ some name)
    (session : Session) (entries : List (List Entry)) :
    transcribe name operation session entries = entries :=
  if_neg fun both => other both.1

/-- Words of the job that are left by an operation that does not build it are still held. -/
theorem holds_other {operation : Operation} (plain : operation.plain = true) {session : Session}
    (booked : session.Booked ledger kept) {entries : List (List Entry)}
    (holds : Holds name session entries) (other : operation.builds? ≠ some name)
    (undisturbed : Undisturbed name session operation) :
    Holds name (perform operation session).2 entries := by
  have left := undisturbed.resolve_left other
  -- The name belongs to no job but the one that had it before.
  have start : session.Booked ledger fun another pushbuffers => another = name →
      ∃ job, session.jobs[name]? = some job ∧ job.pushbuffers = pushbuffers :=
    ⟨booked.host, booked.buffers, fun another job found => ⟨(booked.jobs another job found).1,
      fun same => ⟨job, same ▸ found, rfl⟩⟩⟩
  have free : ∀ another, operation.builds? = some another →
      Builds ledger fun pushbuffers => another = name →
        ∃ job, session.jobs[name]? = some job ∧ job.pushbuffers = pushbuffers :=
    fun another builds => Builds.of_forall fun _ same => absurd (same ▸ builds) other
  obtain ⟨more, after, -⟩ := perform_booked plain free start
  intro job found apart
  obtain ⟨before, held, same⟩ := (after.jobs name job found).2 rfl
  rw [← same] at apart ⊢
  exact (holds before held apart).kept (left before held)

/-- With each plain operation the job goes on to hold its transcript. -/
theorem holds_perform {operation : Operation} (plain : operation.plain = true) {session : Session}
    (booked : session.Booked ledger kept)
    (present : ∀ allocation ∈ ledger, allocation.handle ∈ session.simulator.buffers)
    {entries : List (List Entry)} (holds : Holds name session entries)
    (undisturbed : Undisturbed name session operation) :
    Holds name (perform operation session).2 (transcribe name operation session entries) := by
  by_cases builds : operation.builds? = some name
  · rcases grows_perform booked present entries builds with
      ⟨failure, refused⟩ | ⟨answer, after, run, -, grown⟩
    · rw [transcribe_of_error refused, refused]
      exact holds
    · rw [transcribe_of_ok builds run, run]
      exact grown fun _ => holds
  · rw [transcribe_of_other builds]
    exact holds_other plain booked holds builds undisturbed

/-- With each plain operation of a run the job goes on to hold its transcript. -/
theorem holds_run {operations : List Operation}
    (plain : ∀ operation ∈ operations, operation.plain = true) {session : Session}
    (grounded : session.Grounded) {before : List (List Entry)} (holds : Holds name session before)
    (undisturbed : UndisturbedBy name session operations) :
    Holds name (session.run operations) (transcript name session operations before) := by
  induction operations generalizing session before with
  | nil => exact holds
  | cons operation rest ih =>
    obtain ⟨first, others⟩ := List.forall_mem_cons.mp plain
    obtain ⟨now, later⟩ := undisturbed
    obtain ⟨ledger, booked, handed⟩ := grounded
    exact ih others (grounded_perform first ⟨ledger, booked, handed⟩)
      (holds_perform first booked (fun allocation member => (handed allocation member).mem) holds
        now) later

/-- A session on a fresh device has no job. -/
theorem holds_initial (configuration : Configuration) (name : String) :
    Holds name (initial configuration) [] := by
  intro job found
  simp [initial] at found

end HostChannel.Session

import HostChannel.Proofs.Client.Submission
import HostChannel.Proofs.Job.Building
import HostChannel.Proofs.Relocation
import HostChannel.Proofs.Session.Transcripts

/-!
# Relocation from end to end

However a session has come to build a job, a submission of the job that succeeds leaves in its
pushbuffers the words that were pushed to them, in order, with each address put in where it was
asked for, and leaves every other byte of every allocation as it was.
-/

namespace HostChannel

open HostChannel.Action (Moves)

/-- A job that a client has submitted has the pushbuffers that it had, and patches that the
device accepted; and they are all that was done to memory. -/
theorem Client.submitted_patches {client : Client} {job : Job} {device : Instrumented Simulator}
    {after : Job × Instrumented Simulator}
    (submitted : client.submit (job, device) = (.ok (), after)) :
    ∃ between patches, device.inner.OnlyCounted between ∧ job.patches? = .ok patches ∧
      (∀ patch ∈ patches, between.Holds patch.source patch.sourceOffset.toNat 4 ∧
        between.Holds patch.target patch.targetOffset.toNat 0) ∧
      after.1.pushbuffers = job.pushbuffers ∧
      ∀ handle, after.2.inner.contents handle =
        (patches.foldl Simulator.patched between).contents handle := by
  obtain ⟨-, between, submission, value, final, visible, converted, run, rfl⟩ :=
    submit_eq_ok_iff.mp submitted
  have counts := flushWritten_moves Instrumented.flush_onlyCounted job.pushbuffers device
  rw [visible] at counts
  obtain ⟨accepts, -, last⟩ := Simulator.submit_eq_ok_iff.mp (Instrumented.observe_eq_ok run)
  refine ⟨between.inner, submission.patches, counts, (Job.toSubmission_eq_ok converted).2.2,
    accepts.patches, rfl, fun handle => ?_⟩
  rw [last, Simulator.contents_submitted]

namespace Session

/-- A submission that succeeds is that of the named client and job. -/
theorem submit_eq_ok {client name : String} {session after : Session} {answer : Answer}
    (submitted : perform (.job (.submit client name)) session = (.ok answer, after)) :
    ∃ (user : Client) (job changed : Job) (device : Instrumented Simulator),
      session.jobs[name]? = some job ∧
        user.submit (job, session.host.device) = (.ok (), (changed, device)) ∧
        after = { session with
          host := { session.host with device }
          jobs := session.jobs.insert name changed } := by
  obtain ⟨user, first, foundUser, rest⟩ := Action.bind_eq_ok_iff.mp submitted
  obtain ⟨-, rfl⟩ := find_eq_ok_iff.mp foundUser
  obtain ⟨_, second, made, last⟩ := Action.bind_eq_ok_iff.mp rest
  obtain ⟨job, third, foundJob, worked⟩ := Action.bind_eq_ok_iff.mp made
  obtain ⟨found, rfl⟩ := find_eq_ok_iff.mp foundJob
  obtain ⟨outcome, rfl⟩ := Prod.mk.inj worked
  obtain ⟨-, rfl⟩ := Action.pure_eq_ok_iff.mp last
  exact ⟨user, job, _, _, found, Prod.ext outcome rfl, rfl⟩

/-- Reading a pushbuffer of a job gives its words in memory. -/
theorem words_perform {name : String} {session : Session} {job : Job}
    (found : session.jobs[name]? = some job) {index : Nat} {pushbuffer : PushBuffer}
    (listed : job.pushbuffers[index]? = some pushbuffer) (sound : pushbuffer.Sound) :
    perform (.pushbuffer (.words (.inJob name index))) session =
      (.ok (.words ((session.simulator.contents pushbuffer.buffer.handle).readWords
        pushbuffer.origin pushbuffer.length)), session) := by
  have seen : seePushBuffer (.inJob name index) session = (.ok (some pushbuffer), session) := by
    refine (Action.bind_apply_of_ok (find_of_some found) _).trans ?_
    rw [listed]
    rfl
  have read : onDevice pushbuffer.words session =
      (.ok ((session.simulator.contents pushbuffer.buffer.handle).readWords pushbuffer.origin
        pushbuffer.length), session) :=
    onDevice_run (PushBuffer.words_apply sound session.device)
  exact (Action.bind_apply_of_ok seen _).trans (Action.bind_apply_of_ok read _)

/-- A job that was built by any run in which nobody else wrote its words, on pushbuffers that are
apart, has when its submission succeeds the words that were pushed, in order, with the address for
each entry that asks for one; and every other byte of every buffer is as before. -/
theorem submitted_job_relocated (configuration : Configuration) {operations : List Operation}
    (plain : ∀ operation ∈ operations, operation.plain = true) {client name : String}
    (undisturbed : UndisturbedBy name (initial configuration) operations) {job : Job}
    (found : ((initial configuration).run operations).jobs[name]? = some job)
    (apart : job.pushbuffers.Pairwise PushBuffer.Apart)
    (shifts : ∀ entries ∈ transcript name (initial configuration) operations [],
      ∀ entry ∈ entries, entry.Shifts)
    {answer : Answer} {after : Session}
    (submitted : perform (.job (.submit client name)) ((initial configuration).run operations) =
      (.ok answer, after)) :
    job.pushbuffers.length = (transcript name (initial configuration) operations []).length ∧
      (∀ (index : Nat) (entries : List Entry),
        (transcript name (initial configuration) operations [])[index]? = some entries →
          ∃ words, perform (.pushbuffer (.words (.inJob name index))) after =
              (.ok (.words words), after) ∧
            words.map some =
              entries.map (Entry.resolved ((initial configuration).run operations).simulator)) ∧
      ∀ (handle : Handle) (position : Nat),
        ¬ Relocated job.pushbuffers (transcript name (initial configuration) operations []) handle
            position →
          (after.simulator.contents handle).byte position =
            (((initial configuration).run operations).simulator.contents handle).byte position := by
  have reached := reaches_run operations (initial configuration)
  have addressed := Simulator.Reaches.addressed reached
  have holds := holds_run plain (grounded_initial configuration)
    (holds_initial configuration name) undisturbed job found apart
  obtain ⟨ledger, booked, -⟩ := grounded_run plain (grounded_initial configuration)
  generalize transcript name (initial configuration) operations [] = written at holds shifts ⊢
  generalize (initial configuration).run operations = session at *
  obtain ⟨user, held, changed, device, foundHeld, run, rfl⟩ := submit_eq_ok submitted
  obtain rfl := Option.some.inj (found.symm.trans foundHeld)
  have sound : ∀ pushbuffer ∈ job.pushbuffers, pushbuffer.Sound :=
    fun pushbuffer member => ((booked.jobs name job found).1 pushbuffer member).2
  obtain ⟨between, patches, counted, made, accepted, same, contents⟩ :=
    Client.submitted_patches run
  -- Making the words visible has only counted, so all is as it was in the session.
  obtain ⟨statistics, rfl⟩ : ∃ statistics,
      between = { session.simulator with statistics } := ⟨_, counted⟩
  have still : AllTranscribe { session.simulator with statistics } job.pushbuffers written :=
    holds.kept fun _ _ => rfl
  have resolving := Job.resolving_patches sound still apart made
  refine ⟨holds.length, fun index entries listed => ?_, fun handle position outside => ?_⟩
  · obtain ⟨pushbuffer, placed⟩ : ∃ pushbuffer, job.pushbuffers[index]? = some pushbuffer := by
      have inside := (List.getElem?_eq_some_iff.mp listed).1
      rw [← holds.length] at inside
      exact ⟨_, List.getElem?_eq_getElem inside⟩
    have small := shifts entries (List.mem_of_getElem? listed)
    have resolved := resolving.words_resolved accepted addressed still apart placed listed small
    rw [← contents] at resolved
    have named : (session.jobs.insert name changed)[name]? = some changed :=
      Std.ExtTreeMap.getElem?_insert_self
    refine ⟨_, words_perform named (same ▸ placed) (sound _ (List.mem_of_getElem? placed)), ?_⟩
    exact resolved
  · have kept := resolving.byte_kept accepted outside
    rw [← contents] at kept
    exact kept

/-- A job on a window of a window and on the buffer itself, with addresses in windows of windows. -/
def nestedOperations : List Operation :=
  [.job (.openClient "client" 0x51),
    .buffer (.allocate "commands" 4096 ⟨0⟩ false),
    .buffer (.allocate "surface" 4096 ⟨0⟩ false),
    .buffer (.map none "commands"),
    .buffer (.window "page" "commands" 0x100 0x200),
    .buffer (.window "line" "page" 0x40 0x40),
    .buffer (.window "half" "surface" 0x800 0x800),
    .buffer (.window "tile" "half" 0x100 0x200),
    .job (.createJob "job" "client" 1),
    .job (.append "job" "line" 8),
    .job (.append "job" "commands" 0),
    .pushbuffer (.push (.inJob "job" 0) 7),
    .pushbuffer (.relocate (.inJob "job" 0) "tile" 0x10 8),
    .pushbuffer (.relocate (.inJob "job" 1) "line" 0 0),
    .pushbuffer (.pushWords (.inJob "job" 0) [1, 2])]

/-- Both pushbuffers of the job have their addresses when it has been submitted, and the buffer
that they point into is as before. -/
theorem nested_windows_relocated :
    ∃ after, perform (.job (.submit "client" "job"))
        ((initial .standard).run nestedOperations) = (.ok .nothing, after) ∧
      perform (.pushbuffer (.words (.inJob "job" 0))) after =
        (.ok (.words [7, 0x400019, 1, 2]), after) ∧
      perform (.pushbuffer (.words (.inJob "job" 1))) after =
        (.ok (.words [0x40000140]), after) ∧
      ∀ position, (after.simulator.contents 2).byte position =
        (((initial .standard).run nestedOperations).simulator.contents 2).byte position := by
  have undisturbed : UndisturbedBy "job" (initial .standard) nestedOperations := by decide +kernel
  have there : (((initial .standard).run nestedOperations).jobs["job"]?).isSome = true := by
    decide +kernel
  have apart : ∀ job ∈ ((initial .standard).run nestedOperations).jobs["job"]?,
      job.pushbuffers.Pairwise PushBuffer.Apart ∧
        ∀ pushbuffer ∈ job.pushbuffers, pushbuffer.buffer.handle ≠ 2 := by decide +kernel
  have shifts : ∀ entries ∈ transcript "job" (initial .standard) nestedOperations [],
      ∀ entry ∈ entries, entry.Shifts := by decide +kernel
  have accepted : (perform (.job (.submit "client" "job"))
      ((initial .standard).run nestedOperations)).1.toOption = some .nothing := by decide +kernel
  have resolved : (transcript "job" (initial .standard) nestedOperations []).map
      (List.map (Entry.resolved ((initial .standard).run nestedOperations).simulator)) =
        [[7, 0x400019, 1, 2], [0x40000140]].map (List.map some) := by decide +kernel
  obtain ⟨job, found⟩ := Option.isSome_iff_exists.mp there
  generalize made : perform (.job (.submit "client" "job"))
    ((initial .standard).run nestedOperations) = ended at accepted
  obtain ⟨outcome, after⟩ := ended
  cases outcome with
  | error failure => simp [Except.toOption] at accepted
  | ok answer =>
    obtain rfl := Option.some.inj accepted
    obtain ⟨-, words, bytes⟩ := submitted_job_relocated .standard (by decide) undisturbed found
      (apart job found).1 shifts made
    have reads : ∀ (index : Nat) (expected : List Word),
        ([[7, 0x400019, 1, 2], [0x40000140]] : List (List Word))[index]? = some expected →
          perform (.pushbuffer (.words (.inJob "job" index))) after =
            (.ok (.words expected), after) := by
      intro index expected listed
      have placed := congrArg (fun all => all[index]?) resolved
      simp only [List.getElem?_map, listed, Option.map_some] at placed
      obtain ⟨entries, written, same⟩ := Option.map_eq_some_iff.mp placed
      obtain ⟨read, run, equal⟩ := words index entries written
      have exact : read = expected :=
        (List.map_inj_right fun _ _ => Option.some.inj).mp (equal.trans same)
      rw [run, exact]
    refine ⟨after, rfl, reads 0 _ rfl, reads 1 _ rfl, fun position => bytes 2 position ?_⟩
    rintro ⟨pushbuffer, place, target, offset, shift, ⟨index, entries, placed, -⟩, same, -⟩
    exact (apart job found).2 pushbuffer (List.mem_of_getElem? placed) same

end Session

end HostChannel

import HostChannel.Proofs.Client.Submission
import HostChannel.Proofs.Job.Conversion
import HostChannel.Proofs.Session.Books
import HostChannel.Proofs.Session.Clients
import HostChannel.Proofs.Session.Holders
import HostChannel.Proofs.Simulator.Refusal

/-!
# Submissions of a session

Whatever a session has done, what one of its jobs is converted to keeps within the buffers of the
simulated device and names an open channel (`Simulator.Fits`): windows were checked against
allocations, pushbuffers against windows, words against pushbuffers and positions against targets,
and buffers and channels live as long as the pushbuffers and clients that are on them. So when a
client submits the job, the device has nothing against it but a syncpoint that is not there or a
target that was released (`submissions_fit`).
-/

namespace HostChannel

open HostChannel.Action (Leads Moves Preserves)

/-- The operation leaves the instrumented device alone, and neither releases a buffer nor closes a
channel of the simulated device past the host and the clients. -/
def Operation.regular : Operation → Bool
  | .buffer (.allocate _ _ _ pretending) => !pretending
  | .simulator (.release _) => false
  | .simulator (.closeChannel _) => false
  | .instrument _ => false
  | _ => true

namespace Operation

variable {operation : Operation} (regular : operation.regular = true)

include regular

/-- A regular operation lets no buffer seem other than it is. -/
theorem plain_of_regular : operation.plain = true := by
  unfold plain
  split
  · exact regular
  · simp [Operation.regular] at regular
  · rfl

/-- It releases no buffer past the host. -/
theorem keepsBuffers_of_regular : operation.keepsBuffers = true := by
  unfold keepsBuffers
  split
  · simp [Operation.regular] at regular
  · simp [Operation.regular] at regular
  · rfl

/-- It closes no channel past the clients. -/
theorem keepsChannels_of_regular : operation.keepsChannels = true := by
  unfold keepsChannels
  split
  · simp [Operation.regular] at regular
  · rfl

end Operation

/-- What the job is converted to keeps within the buffers and names an open channel. -/
structure Simulator.Fits (simulator : Simulator) (job : Job) (submission : Submission) : Prop where
  /-- The syncpoint is the job's. -/
  syncpoint : submission.syncpoint = job.syncpoint
  /-- The channel is open. -/
  channel : simulator.channels.contains submission.channel = true
  /-- There is one range for each pushbuffer. -/
  length : job.pushbuffers.length = submission.ranges.length
  /-- The range of a pushbuffer lies in the live buffer that the pushbuffer is on. -/
  ranges : ∀ pushbuffer range, (pushbuffer, range) ∈ job.pushbuffers.zip submission.ranges →
    range.handle = pushbuffer.buffer.handle ∧
      simulator.Holds range.handle range.offset.toNat (range.words.toNat * 4)
  /-- A patch replaces a whole word in the range of the pushbuffer that has recorded it. -/
  patches : ∀ patch ∈ submission.patches, ∃ pushbuffer range,
    (pushbuffer, range) ∈ job.pushbuffers.zip submission.ranges ∧
      (∃ relocation ∈ pushbuffer.relocations, pushbuffer.patch? relocation = .ok patch) ∧
      patch.source = range.handle ∧
      ∃ place < range.words.toNat, patch.sourceOffset.toNat = range.offset.toNat + 4 * place
  /-- Its target is not past the end of a buffer that is live or was released. -/
  targets : ∀ patch ∈ submission.patches, ∃ buffer,
    simulator.buffers[patch.target]? = some buffer ∧
      patch.targetOffset.toNat ≤ buffer.size.toNat

/-- What fits suits the device. -/
theorem Simulator.Fits.suits {simulator : Simulator} {job : Job} {submission : Submission}
    (fits : simulator.Fits job submission) : simulator.Suits submission := by
  have ranges : ∀ range ∈ submission.ranges,
      simulator.Holds range.handle range.offset.toNat (range.words.toNat * 4) := by
    intro range member
    rw [← List.map_snd_zip (Nat.le_of_eq fits.length.symm)] at member
    obtain ⟨⟨pushbuffer, _⟩, beside, rfl⟩ := List.mem_map.mp member
    exact (fits.ranges pushbuffer _ beside).2
  refine ⟨fits.channel, ranges, fun patch asked => ?_, fits.targets⟩
  obtain ⟨pushbuffer, range, beside, -, same, place, inside, located⟩ := fits.patches patch asked
  obtain ⟨buffer, lives, within⟩ := (fits.ranges pushbuffer range beside).2
  exact ⟨buffer, same ▸ lives, by omega⟩

namespace PushBuffer

/-- The device is plain and reliable, and has only counted since it was the origin. -/
structure Counting (origin : Simulator) (device : Instrumented Simulator) : Prop where
  /-- It shows buffers as they are. -/
  plain : device.Plain
  /-- No call is to fail. -/
  reliable : device.Reliable
  /-- It has only counted. -/
  counted : origin.OnlyCounted device.inner

/-- Making the words of a pushbuffer visible succeeds if its buffer is live. -/
theorem flushWritten_succeeds {pushbuffer : PushBuffer} (sound : pushbuffer.Sound)
    {device : Instrumented Simulator} (plain : device.Plain) (reliable : device.Reliable)
    (holds : device.inner.Holds pushbuffer.buffer.handle pushbuffer.origin
      (4 * pushbuffer.length)) :
    (pushbuffer.flushWritten device).1 = .ok () := by
  have room := sound.room
  have inside := sound.inside
  have passed : checkRange pushbuffer.start (UInt64.ofNat pushbuffer.length * wordBytes)
      pushbuffer.buffer.size = .ok () := by
    rw [checkRange_eq_ok_iff, sound.toNat_written]
    omega
  have found : Simulator.findRange pushbuffer.buffer.handle
      (pushbuffer.buffer.offset + pushbuffer.start)
      (UInt64.ofNat pushbuffer.length * wordBytes) device.inner = (.ok (), device.inner) := by
    rw [Simulator.findRange_eq_ok_iff, sound.toNat_written,
      sound.toNat_fromOrigin (Nat.zero_le _) rfl]
    exact holds
  have recorded : (device.record (.flush pushbuffer.buffer.handle
      (pushbuffer.buffer.offset + pushbuffer.start)
      (UInt64.ofNat pushbuffer.length * wordBytes))).Plain :=
    ⟨plain.honest, plain.pretended, plain.whole⟩
  rw [flushWritten, Buffer.flush, passed, Action.bind_apply_of_ok (Action.check_ok () device)]
  change (Instrumented.observe _ (Instrumented.unlessPretended _ _) device).1 = _
  rw [Instrumented.observe_of_reliable reliable, Instrumented.unlessPretended_of_plain recorded]
  change (Simulator.flush _ _ _ device.inner).1 = _
  rw [Simulator.flush, Action.bind_apply_of_ok found]
  rfl

/-- And it only counts. -/
theorem flushWritten_leads {pushbuffer : PushBuffer} (sound : pushbuffer.Sound) {origin : Simulator}
    (holds : origin.Holds pushbuffer.buffer.handle pushbuffer.origin (4 * pushbuffer.length)) :
    Leads (Counting origin) (pushbuffer.flushWritten : Action (Instrumented Simulator) Unit)
      (fun _ => Counting origin) fun _ => False := by
  refine Leads.of_ok fun device counting => ?_
  have still := counting.counted.holds_iff.mpr holds
  have run := flushWritten_succeeds sound counting.plain counting.reliable still
  refine ⟨(), _, Prod.ext run rfl, ?_, ?_, ?_⟩
  · exact Instrumented.movesBy_plain.bufferFlush _ _ _ device counting.plain
  · exact Instrumented.movesBy_reliable.bufferFlush _ _ _ device counting.reliable
  · have counts : Moves (Action.Along Instrumented.inner Simulator.OnlyCounted)
        (pushbuffer.flushWritten : Action (Instrumented Simulator) Unit) :=
      Moves.bind (Moves.check _) fun _ => Instrumented.flush_onlyCounted _ _ _
    exact trans_of Simulator.OnlyCounted counting.counted (counts device)

namespace Counting

variable {origin : Simulator} {device after : Instrumented Simulator} {submission : Submission}

/-- A device that has only counted submits as the origin would, as far as acceptance goes: what
suits the origin is accepted when its syncpoint is there and its targets are live. -/
theorem accepts_iff (counting : Counting origin device) (suits : origin.Suits submission) :
    (∃ value after, Device.submit submission device = (.ok value, after)) ↔
      submission.syncpoint.toNat < origin.syncpoints.size ∧
        ∀ patch ∈ submission.patches, (origin.live? patch.target).isSome = true := by
  rw [← counting.counted.accepts_iff suits]
  constructor
  · rintro ⟨value, after, run⟩
    exact (Simulator.submit_eq_ok_iff.mp (Instrumented.observe_eq_ok run)).1
  · intro accepts
    obtain ⟨syncpoint, -, run⟩ := Simulator.submit_of_accepts accepts
    refine ⟨(syncpoint.reserve submission.increments).reserved, _, Prod.ext ?_ rfl⟩
    change (Instrumented.observe _ _ device).1 = _
    rw [Instrumented.observe_of_reliable counting.reliable]
    change (Simulator.submit submission device.inner).1 = _
    rw [run]

/-- It refuses for the reasons that the origin has. -/
theorem refusal (counting : Counting origin device) (suits : origin.Suits submission)
    {failure : Failure} (failed : Device.submit submission device = (.error failure, after)) :
    Refusal origin submission failure := by
  change Instrumented.observe _ _ device = _ at failed
  rw [Instrumented.observe_of_reliable counting.reliable] at failed
  obtain ⟨refused, -⟩ := Prod.mk.inj failed
  have inner : Simulator.submit submission device.inner =
      (.error failure, (Simulator.submit submission device.inner).2) := Prod.ext refused rfl
  exact counting.counted.refusal ((counting.counted.suits suits).submit_eq_error inner)

end Counting

end PushBuffer

/-- Why a job that fits the device is not submitted for the client. -/
inductive Client.Refused (client : Client) (job : Job) (simulator : Simulator) :
    Failure → Prop where
  /-- The job is not being built. -/
  | notBuilding {cause : Error} (failed : job.checkSubmittable = .error cause) :
    Refused client job simulator (.refused cause)
  /-- The job cannot be converted. -/
  | notConverted {cause : Error} (failed : job.toSubmission client.channel.id = .error cause) :
    Refused client job simulator (.refused cause)
  /-- The device has something against what the job is converted to. -/
  | byDevice {failure : Failure} {submission : Submission}
    (converted : job.toSubmission client.channel.id = .ok submission)
    (refusal : Refusal simulator submission failure) :
    Refused client job simulator failure

namespace Client.Refused

variable {client : Client} {job : Job} {simulator : Simulator} {failure : Failure}
  (refused : client.Refused job simulator failure)

include refused

/-- The cause is about the job as a whole, two of its relocations, the syncpoint or a target. -/
theorem cause : ∃ cause, failure = .refused cause ∧
    (cause = .emptyJob ∨ (∃ state expected, cause = .invalidState state expected) ∨
      cause = .offsetOverflow ∨ (∃ source offset, cause = .overlappingRelocation source offset) ∨
      (∃ index, cause = .noSyncpoint index) ∨ ∃ target, cause = .unknownHandle target) := by
  cases refused with
  | notBuilding failed =>
    rcases Job.checkSubmittable_eq_error failed with rfl | ⟨_, rfl⟩ <;> simp
  | notConverted failed =>
    rcases Job.toSubmission_eq_error failed with rfl | rfl | ⟨_, _, rfl⟩ <;> simp
  | byDevice _ refusal => cases refusal <;> simp

/-- No range is found to be out of bounds. -/
theorem inBounds (offset length size : UInt64) :
    failure ≠ .refused (.rangeOutOfBounds offset length size) := by
  obtain ⟨cause, rfl, named⟩ := refused.cause
  rintro ⟨⟩
  simp at named

/-- No channel is found not to be open. -/
theorem isOpen (operation : String) (channel : ChannelId) :
    failure ≠ .refused (Simulator.notOpen operation channel) := by
  obtain ⟨cause, rfl, named⟩ := refused.cause
  rintro ⟨⟩
  simp [Simulator.notOpen] at named

end Client.Refused

namespace Session

/-- Regular operations keep the device reliable. -/
theorem reliable_perform {operation : Operation} (regular : operation.regular = true)
    {session : Session} (reliable : session.device.Reliable) :
    (perform operation session).2.device.Reliable := by
  refine perform_movesBy Instrumented.movesBy_reliable operation ?_ ?_ ?_ session reliable
  · intro name size flags pretending _ session
    have allocated := Instrumented.movesBy_reliable.bufferAllocate size flags
      { session.host with device := { session.host.device with pretending } }
    exact ⟨allocated, rfl⟩
  · exact fun inner _ _ reliable => reliable
  · rintro inner rfl
    simp [Operation.regular] at regular

/-- What holds of a session whose operations have been regular. -/
structure InOrder (settings : SimulatorSettings) (session : Session) : Prop where
  /-- The simulated device has only been asked for something. -/
  reached : (Simulator.initial settings).Reaches session.simulator
  /-- What jobs are built of is within allocations that were handed out. -/
  grounded : session.Grounded
  /-- The allocations that are referred to are live. -/
  balanced : ∃ strangers, session.Balanced strangers
  /-- The clients have open channels. -/
  served : session.Served
  /-- No call of the device is to fail. -/
  reliable : session.device.Reliable

/-- A session on a fresh device is in order. -/
theorem inOrder_initial (configuration : Configuration) :
    (initial configuration).InOrder configuration.simulator where
  reached := refl_of Simulator.Reaches _
  grounded := grounded_initial configuration
  balanced := ⟨[], balanced_initial configuration⟩
  served := served_initial configuration
  reliable := rfl

/-- A regular operation leaves a session in order. -/
theorem InOrder.perform {settings : SimulatorSettings} {session : Session}
    (inOrder : session.InOrder settings) {operation : Operation}
    (regular : operation.regular = true) :
    (perform operation session).2.InOrder settings where
  reached := trans_of Simulator.Reaches inOrder.reached (reaches_perform operation session)
  grounded := grounded_perform (Operation.plain_of_regular regular) inOrder.grounded
  balanced := by
    obtain ⟨_, balanced⟩ := inOrder.balanced
    exact perform_balanced_beside (Operation.keepsBuffers_of_regular regular) balanced
  served := served_perform (Operation.keepsChannels_of_regular regular) inOrder.served
    inOrder.reached
  reliable := reliable_perform regular inOrder.reliable

/-- So does a run of them. -/
theorem InOrder.run {settings : SimulatorSettings} {session : Session}
    (inOrder : session.InOrder settings) {operations : List Operation}
    (regular : ∀ operation ∈ operations, operation.regular = true) :
    (session.run operations).InOrder settings :=
  run_keeps (fun _ _ regular inOrder => inOrder.perform regular) regular inOrder

namespace InOrder

variable {settings : SimulatorSettings} {session : Session} (inOrder : session.InOrder settings)
  {name : String} {job : Job} (found : session.jobs[name]? = some job)

include inOrder found

/-- A pushbuffer of a job is sound, and its words are in a live buffer. -/
theorem words {pushbuffer : PushBuffer} (member : pushbuffer ∈ job.pushbuffers) :
    pushbuffer.Sound ∧ session.simulator.Holds pushbuffer.buffer.handle pushbuffer.origin
      (4 * pushbuffer.length) := by
  obtain ⟨ledger, booked, handed⟩ := inOrder.grounded
  obtain ⟨strangers, balanced⟩ := inOrder.balanced
  obtain ⟨known, sound⟩ := (booked.jobs name job found).1 pushbuffer member
  obtain ⟨buffer, lives⟩ := Option.isSome_iff_exists.mp
    (balanced.isSome_live? (mem_references_of_job found member))
  have sized := (handed _ (List.mem_of_getElem? known.listed)).size_of_live lives
  exact ⟨sound, buffer, lives, sized ▸ sound.words_le⟩

/-- What a job is converted to for a client fits the device. -/
theorem fits {user : String} {client : Client} (isOpen : session.clients[user]? = some client)
    {submission : Submission} (converted : job.toSubmission client.channel.id = .ok submission) :
    session.simulator.Fits job submission := by
  obtain ⟨ledger, booked, handed⟩ := inOrder.grounded
  have aim := (booked.jobs name job found).2
  have sound : ∀ pushbuffer ∈ job.pushbuffers, pushbuffer.Sound :=
    fun pushbuffer member => (inOrder.words found member).1
  obtain ⟨ranges, patches, spanned, given, rfl⟩ := Job.parts_of_toSubmission converted
  obtain ⟨length, spans⟩ := Job.ranges_span sound spanned
  refine ⟨rfl, ?_, length, fun pushbuffer range beside => ?_, fun patch asked => ?_,
    fun patch asked => ?_⟩
  · exact Std.ExtTreeMap.contains_iff_mem.mpr (inOrder.served.opened user client isOpen)
  · have spanning := spans pushbuffer range beside
    have held := (inOrder.words found (List.of_mem_zip beside).1).2
    rw [← spanning.handle, ← spanning.offset, ← spanning.words, Nat.mul_comm] at held
    exact ⟨spanning.handle, held⟩
  · obtain ⟨pushbuffer, member, relocation, recorded, made, aims⟩ :=
      Job.patches_aim sound aim given asked
    rw [← List.map_fst_zip (Nat.le_of_eq length)] at member
    obtain ⟨⟨_, range⟩, beside, rfl⟩ := List.mem_map.mp member
    have spanning := spans _ range beside
    refine ⟨_, range, beside, ⟨relocation, recorded, made⟩, ?_, ?_⟩
    · rw [aims.source, spanning.handle]
    · rw [spanning.words, spanning.offset]
      exact aims.word
  · obtain ⟨pushbuffer, _, _, _, _, aims⟩ := Job.patches_aim sound aim given asked
    obtain ⟨allocation, listed, same, within⟩ := aims.target
    obtain ⟨buffer, there, sized⟩ := Option.map_eq_some_iff.mp (handed allocation listed).sized
    exact ⟨buffer, same ▸ there, sized ▸ within⟩

/-- The words of a job are made visible, which only counts. -/
theorem flushes :
    ∃ between, job.pushbuffers.forM PushBuffer.flushWritten session.device = (.ok (), between) ∧
      PushBuffer.Counting session.simulator between := by
  obtain ⟨_, booked, _⟩ := inOrder.grounded
  have start : PushBuffer.Counting session.simulator session.device :=
    ⟨booked.host.plain, inOrder.reliable, refl_of Simulator.OnlyCounted _⟩
  have leads : Leads (PushBuffer.Counting session.simulator)
      (job.pushbuffers.forM PushBuffer.flushWritten)
      (fun _ => PushBuffer.Counting session.simulator) fun _ => False :=
    Leads.forM fun pushbuffer member =>
      have ⟨sound, holds⟩ := inOrder.words found member
      PushBuffer.flushWritten_leads sound holds
  obtain ⟨_, between, run, counting⟩ := leads.succeeds start
  exact ⟨between, run, counting⟩

end InOrder

/-- What the job is converted to for the client fits the simulated device, which has nothing against
it but a syncpoint that is not there or a target that was released. -/
structure Admits (session : Session) (client : Client) (job : Job) : Prop where
  /-- What the job is converted to fits. -/
  fits : ∀ submission, job.toSubmission client.channel.id = .ok submission →
    session.simulator.Fits job submission
  /-- Submitting succeeds if the job is being built and can be converted, its syncpoint is there and
  its targets are live. -/
  accepted : (∃ after, client.submit (job, session.device) = (.ok (), after)) ↔
    job.checkSubmittable = .ok () ∧ ∃ submission,
      job.toSubmission client.channel.id = .ok submission ∧
        job.syncpoint.toNat < session.simulator.syncpoints.size ∧
        ∀ patch ∈ submission.patches, (session.simulator.live? patch.target).isSome = true
  /-- It fails for nothing else. -/
  refused : ∀ failure after, client.submit (job, session.device) = (.error failure, after) →
    client.Refused job session.simulator failure
  /-- No range is found to be out of bounds. -/
  inBounds : ∀ failure after, client.submit (job, session.device) = (.error failure, after) →
    ∀ offset length size, failure ≠ .refused (.rangeOutOfBounds offset length size)
  /-- No channel is found not to be open. -/
  isOpen : ∀ failure after, client.submit (job, session.device) = (.error failure, after) →
    ∀ operation channel, failure ≠ .refused (Simulator.notOpen operation channel)

/-- A run of regular operations leaves every client and every job such that the simulated device has
nothing against a submission but a syncpoint that is not there or a target that was released. -/
theorem submissions_fit (configuration : Configuration) {operations : List Operation}
    (regular : ∀ operation ∈ operations, operation.regular = true) {name user : String} {job : Job}
    {client : Client}
    (found : ((initial configuration).run operations).jobs[name]? = some job)
    (isOpen : ((initial configuration).run operations).clients[user]? = some client) :
    ((initial configuration).run operations).Admits client job := by
  have inOrder := (inOrder_initial configuration).run regular
  generalize (initial configuration).run operations = session at *
  obtain ⟨flushed, visible, counting⟩ := inOrder.flushes found
  have fits : ∀ submission, job.toSubmission client.channel.id = .ok submission →
      session.simulator.Fits job submission :=
    fun submission converted => inOrder.fits found isOpen converted
  have refused : ∀ failure after, client.submit (job, session.device) = (.error failure, after) →
      client.Refused job session.simulator failure := by
    intro failure after failed
    rcases Client.submit_eq_error failed with ⟨cause, unbuilt, rfl⟩ | ⟨between, hidden⟩ |
      ⟨cause, unconverted, rfl⟩ | ⟨between, submission, last, again, converted, answer⟩
    · exact .notBuilding unbuilt
    · simp [visible] at hidden
    · exact .notConverted unconverted
    · obtain rfl := (Prod.mk.inj (visible.symm.trans again)).2
      exact .byDevice converted (counting.refusal (fits submission converted).suits answer)
  refine ⟨fits, ?_, refused,
    fun failure after failed => (refused failure after failed).inBounds,
    fun failure after failed => (refused failure after failed).isOpen⟩
  constructor
  · rintro ⟨after, submitted⟩
    obtain ⟨submittable, between, submission, value, final, again, converted, answer, -⟩ :=
      Client.submit_eq_ok_iff.mp submitted
    obtain rfl := (Prod.mk.inj (visible.symm.trans again)).2
    have suits := (fits submission converted).suits
    obtain ⟨index, live⟩ := (counting.accepts_iff suits).mp ⟨value, final, answer⟩
    rw [(fits submission converted).syncpoint] at index
    exact ⟨submittable, submission, converted, index, live⟩
  · rintro ⟨submittable, submission, converted, index, live⟩
    have suits := (fits submission converted).suits
    rw [← (fits submission converted).syncpoint] at index
    obtain ⟨value, final, answer⟩ := (counting.accepts_iff suits).mpr ⟨index, live⟩
    exact ⟨_, Client.submit_eq_ok_iff.mpr ⟨submittable, flushed, submission, value, final, visible,
      converted, answer, rfl⟩⟩

/-- A job on a window that is larger than its parent, with the address of an empty window at the end
of a buffer that is released before the job is submitted. -/
def releasedOperations : List Operation :=
  [.job (.openClient "client" 0x51),
    .buffer (.allocate "commands" 4098 ⟨0⟩ false),
    .buffer (.allocate "surface" 4096 ⟨0⟩ false),
    .buffer (.map none "commands"),
    .buffer (.window "page" "commands" 0x100 0x40),
    .buffer (.window "wide" "page" 0x20 0x200),
    .buffer (.window "end" "surface" 4096 0),
    .job (.createJob "job" "client" 1),
    .job (.append "job" "wide" 8),
    .pushbuffer (.push (.inJob "job" 0) 7),
    .pushbuffer (.relocate (.inJob "job" 0) "end" 0 0),
    .buffer (.release "surface"),
    .buffer (.release "end")]

/-- Nothing but its released target is held against the job. -/
theorem released_target_refused :
    ∃ job client, ((initial .standard).run releasedOperations).jobs["job"]? = some job ∧
      ((initial .standard).run releasedOperations).clients["client"]? = some client ∧
      ((initial .standard).run releasedOperations).Admits client job ∧
      ∃ after, client.submit (job, ((initial .standard).run releasedOperations).device) =
        (.error (.refused (.unknownHandle 2)), after) := by
  have there : (((initial .standard).run releasedOperations).jobs["job"]?).isSome = true := by
    decide +kernel
  have opened :
      (((initial .standard).run releasedOperations).clients["client"]?).isSome = true := by
    decide +kernel
  have outcome : ∀ job ∈ ((initial .standard).run releasedOperations).jobs["job"]?,
      ∀ client ∈ ((initial .standard).run releasedOperations).clients["client"]?,
        (client.submit (job, ((initial .standard).run releasedOperations).device)).1 =
          .error (.refused (.unknownHandle 2)) := by decide +kernel
  obtain ⟨job, found⟩ := Option.isSome_iff_exists.mp there
  obtain ⟨client, isOpen⟩ := Option.isSome_iff_exists.mp opened
  exact ⟨job, client, found, isOpen, submissions_fit .standard (by decide) found isOpen, _,
    Prod.ext (outcome job found client isOpen) rfl⟩

end Session

end HostChannel

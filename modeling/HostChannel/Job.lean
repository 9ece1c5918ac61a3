import HostChannel.Fence
import HostChannel.PushBuffer

/-!
# Jobs

A job is a list of pushbuffers whose words are executed together, and a number of
increments that they make on a syncpoint. It may be changed until a device has accepted
it; from then on it has a fence, which can be seen once the job has been flushed.
-/

namespace HostChannel

/-- Work under construction or under way. -/
structure Job where
  /-- The syncpoint that its increments are counted on. -/
  syncpoint : Word
  /-- Number of increments that it declares. -/
  increments : Word
  /-- Its words, in order of execution. -/
  pushbuffers : List PushBuffer
  /-- How far it has come. -/
  state : JobState
  /-- The value of the syncpoint that says it is done, once a device has accepted it. -/
  accepted : Option Fence
  deriving DecidableEq, Repr

namespace Job

variable {σ : Type}

/-- A job without pushbuffers. -/
def create (syncpoint increments : Word) : Job :=
  ⟨syncpoint, increments, [], .created, none⟩

/-- The fence, once it may be waited for. -/
def fence? (job : Job) : Option Fence :=
  match job.state with
  | .flushed => job.accepted
  | .complete => job.accepted
  | .timedOut => job.accepted
  | _ => none

/-- Number of relocations in all pushbuffers. -/
def relocationCount (job : Job) : Nat :=
  job.pushbuffers.foldr (fun pushbuffer count => pushbuffer.relocations.length + count) 0

/-- Checks that the job may be changed. -/
def checkBuilding (job : Job) : Except Error Unit :=
  match job.state with
  | .created => .ok ()
  | .building => .ok ()
  | state => .error (.invalidState state "Created or Building")

/-- Opens a pushbuffer at the end of the job. -/
def append (job : Job) (buffer : Buffer) (offset : UInt64) : Action (Host σ) Job := do
  Action.check job.checkBuilding
  let pushbuffer ← PushBuffer.openAt buffer offset
  pure { job with pushbuffers := job.pushbuffers ++ [pushbuffer], state := .building }

/-- The pushbuffer at an index, to be changed. -/
def pushbuffer? (job : Job) (index : Nat) : Except Error PushBuffer := do
  job.checkBuilding
  match job.pushbuffers[index]? with
  | some pushbuffer => pure pushbuffer
  | none => throw (.noPushBuffer index)

/-- The job with the pushbuffer at an index replaced. -/
def replace (job : Job) (index : Nat) (pushbuffer : PushBuffer) : Job :=
  { job with pushbuffers := job.pushbuffers.set index pushbuffer }

/-- Adds a patch to those before it, of which none may replace the same word. -/
def addPatch (patches : List Patch) (patch : Patch) : Except Error (List Patch) :=
  if patches.any fun earlier =>
      earlier.source == patch.source && earlier.sourceOffset == patch.sourceOffset then
    .error (.overlappingRelocation patch.source patch.sourceOffset.toUInt64)
  else .ok (patches ++ [patch])

/-- The relocations of all pushbuffers, in order, each with its pushbuffer. -/
def relocations (job : Job) : List (PushBuffer × Relocation) :=
  job.pushbuffers.flatMap fun pushbuffer =>
    pushbuffer.relocations.map fun relocation => (pushbuffer, relocation)

/-- The patches of all relocations, in order. -/
def patches? (job : Job) : Except Error (List Patch) :=
  job.relocations.foldlM (fun patches (pushbuffer, relocation) => do
    let patch ← pushbuffer.patch? relocation
    addPatch patches patch) []

/-- What a device is given to execute the job on a channel. -/
def toSubmission (job : Job) (channel : ChannelId) : Except Error Submission := do
  if job.pushbuffers.isEmpty then throw .emptyJob
  let ranges ← job.pushbuffers.mapM PushBuffer.commandRange?
  let patches ← job.patches?
  pure ⟨channel, job.syncpoint, job.increments, ranges, patches⟩

/-- Checks that the job may be submitted. -/
def checkSubmittable (job : Job) : Except Error Unit :=
  match job.state with
  | .created => .error .emptyJob
  | .building => .ok ()
  | state => .error (.invalidState state "Building")

/-- The job after a device has accepted it. -/
def submitted (job : Job) (fence : Fence) : Job :=
  { job with accepted := some fence, state := .submitted }

/-- The fence of a submitted job, and the job after it was flushed. A job that was flushed
before stays as it is. -/
def flushed (job : Job) : Except Error (Fence × Job) :=
  match job.state, job.accepted with
  | .submitted, some fence => .ok (fence, { job with state := .flushed })
  | .flushed, some fence => .ok (fence, job)
  | .complete, some fence => .ok (fence, job)
  | .timedOut, some fence => .ok (fence, job)
  | state, _ => .error (.invalidState state "Submitted")

/-- The fence of a job that may be waited for. -/
def waitableFence (job : Job) : Except Error Fence :=
  match job.state, job.accepted with
  | .flushed, some fence => .ok fence
  | .complete, some fence => .ok fence
  | .timedOut, some fence => .ok fence
  | state, _ => .error (.invalidState state "Flushed")

/-- The job after a wait; a complete job stays complete. -/
def waited (job : Job) (outcome : WaitOutcome) : Job :=
  match job.state, outcome with
  | .complete, _ => job
  | _, .completed => { job with state := .complete }
  | _, .timedOut => { job with state := .timedOut }

/-- Gives the job up, and with it its pushbuffers, in order. -/
def release [Device σ] (job : Job) : Action (Host σ) Unit :=
  job.pushbuffers.forM PushBuffer.release

end Job

end HostChannel

import HostChannel.JobListing
import HostChannel.Session.Answer

/-!
# Operations on clients, jobs and waits

Jobs are submitted, flushed and waited for through clients, on the instrumented device. A
wait may also be left to a thread of its own, which waits on the simulated device and is
joined later.
-/

namespace HostChannel

/-- An operation on clients and jobs. -/
inductive JobOperation where
  /-- Opens a channel. -/
  | openClient (name : String) (engineClass : Word)
  /-- The first syncpoint of a client. -/
  | clientSyncpoint (client : String)
  /-- Gives a client up. -/
  | releaseClient (client : String)
  /-- Makes a job on the first syncpoint of a client. -/
  | createJob (name client : String) (increments : Word)
  /-- Makes a job on any syncpoint. -/
  | newJob (name : String) (syncpoint increments : Word)
  /-- Opens a pushbuffer at the end of a job. -/
  | append (job buffer : String) (offset : UInt64)
  /-- Describes a job. -/
  | describe (job : String)
  /-- What a device would be given. -/
  | toSubmission (job : String) (channel : ChannelId)
  /-- The listing of a job. -/
  | list (job : String)
  /-- Gives a job up. -/
  | release (job : String)
  /-- Submits a job. -/
  | submit (client job : String)
  /-- Lets the device start on a job. -/
  | flush (client job : String)
  /-- Waits for a job. -/
  | waitJob (client job : String) (timeout : Timeout)
  /-- Submits a job, flushes it and waits for it. -/
  | finish (client job : String)
  deriving DecidableEq, Repr

/-- An operation on syncpoints. -/
inductive WaitOperation where
  /-- The counter of a syncpoint. -/
  | value (syncpoint : Word)
  /-- Waits for a fence. -/
  | wait (fence : Fence) (timeout : Timeout)
  /-- Waits for a fence through a client. -/
  | clientWait (client : String) (fence : Fence) (timeout : Timeout)
  /-- Starts a thread that waits for a fence. -/
  | spawn (name : String) (fence : Fence) (timeout : Timeout)
  /-- The outcome of a thread's wait. -/
  | join (waiter : String)
  deriving DecidableEq, Repr

namespace Session

/-- Makes an operation on clients and jobs. -/
def jobOperation : JobOperation → Action Session Answer
  | .openClient name engineClass => do
    let client ← onHost (Client.connect engineClass)
    keepClient name client
    pure (.channel client.channel)
  | .clientSyncpoint client => do
    let client ← findClient client
    let syncpoint ← Action.check client.syncpoint
    pure (.number syncpoint.toNat)
  | .releaseClient name => do
    let client ← findClient name
    Action.update fun session => { session with clients := session.clients.erase name }
    releaseClient client
    pure .nothing
  | .createJob name client increments => do
    let client ← findClient client
    let job ← Action.check (client.createJob increments)
    keepJob name job
    pure (.created job)
  | .newJob name syncpoint increments => do
    keepJob name (Job.create syncpoint increments)
    pure .nothing
  | .append name buffer offset => do
    let job ← findJob name
    let buffer ← findBuffer buffer
    let appended ← onHost (job.append buffer offset)
    changeJob name appended
    match appended.pushbuffers.getLast? with
    | some pushbuffer => describePushBuffer pushbuffer
    | none => pure .nothing
  | .describe job => do
    let job ← findJob job
    pure (.job job)
  | .toSubmission job channel => do
    let job ← findJob job
    let submission ← Action.check (job.toSubmission channel)
    pure (.submission submission)
  | .list job => do
    let job ← findJob job
    let text ← onDevice job.listing
    pure (.text text)
  | .release name => do
    let job ← findJob name
    Action.update fun session => { session with jobs := session.jobs.erase name }
    releaseJob job
    pure .nothing
  | .submit client job => do
    let client ← findClient client
    onJob job client.submit
    pure .nothing
  | .flush client job => do
    let client ← findClient client
    let fence ← onJob job client.flush
    pure (.fence fence)
  | .waitJob client job timeout => do
    let _ ← findClient client
    let outcome ← onJob job (Client.waitJob timeout)
    pure (.outcome outcome)
  | .finish client job => do
    let client ← findClient client
    let outcome ← onJob job client.finish
    pure (.outcome outcome)

/-- A thread that has come to wait, and has taken its turns. -/
def spawned (syncpoints : Array Syncpoint) (wait : Wait) : Thread :=
  (Thread.waiting wait .arriving).settle syncpoints .start

/-- What a joined thread has come to: a thread without an answer sleeps for ever. -/
def concluded : Option (Except Error WaitOutcome) → Except Failure WaitOutcome
  | some (.ok outcome) => .ok outcome
  | some (.error cause) => .error (.refused cause)
  | none => .error .blocked

/-- The answer of a thread when it is joined: it is woken once more, and its time is over
if it sleeps again. -/
def joined (syncpoints : Array Syncpoint) (thread : Thread) : Except Failure WaitOutcome :=
  let woken := thread.wake.settle syncpoints .start
  concluded (woken.settle syncpoints (Clock.start.advance thread.patience)).answer?

/-- Makes an operation on syncpoints. -/
def waitOperation : WaitOperation → Action Session Answer
  | .value syncpoint => do
    let value ← onDevice (Device.readSyncpoint syncpoint)
    pure (.number value.toNat)
  | .wait fence timeout => do
    let outcome ← onDevice (Client.wait fence timeout)
    pure (.outcome outcome)
  | .clientWait client fence timeout => do
    let _ ← findClient client
    let outcome ← onDevice (Client.wait fence timeout)
    pure (.outcome outcome)
  | .spawn name fence timeout => do
    Action.update fun session =>
      let waiter := spawned session.simulator.syncpoints ⟨fence.syncpoint, fence.value, timeout⟩
      { session with waiters := session.waiters.insert name waiter }
    pure .nothing
  | .join name => do
    let waiter ← findWaiter name
    Action.update fun session => { session with waiters := session.waiters.erase name }
    match joined (← Action.read fun session => session.simulator.syncpoints) waiter with
    | .ok outcome => pure (.outcome outcome)
    | .error failure => Action.fail failure

end Session

end HostChannel

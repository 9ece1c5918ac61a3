import HostChannel.Simulator.Buffers
import HostChannel.Simulator.Channels
import HostChannel.Stream.RegisterWrite

/-!
# Execution on the simulated device

A submission is checked as a whole before anything is changed. Then its patches are
applied, its increments are reserved, and it is executed at once or put at the end of the
queue. Executing it decodes each range that is still live on its own, makes the increments
that its register writes ask for, and tops the submission's own syncpoint up to the number
of increments declared.
-/

namespace HostChannel.Simulator

/-- Checks that a range of a submission lies in a live buffer. -/
def checkCommandRange (range : CommandRange) : Action Simulator Unit :=
  findRange range.handle range.offset.toUInt64 (range.words.toUInt64 * 4)

/-- Checks that a patch replaces a word of a live buffer by an address in a live buffer. -/
def checkPatch (patch : Patch) : Action Simulator Unit := do
  findRange patch.source patch.sourceOffset.toUInt64 4
  findRange patch.target patch.targetOffset.toUInt64 0

/-- Checks that a channel is open. -/
def checkChannel (channel : ChannelId) : Action Simulator Unit := fun simulator =>
  if simulator.channels.contains channel then (.ok (), simulator)
  else (.error (.refused (notOpen "submit" channel)), simulator)

/-- Checks that there is a syncpoint of an index. -/
def checkSyncpoint (index : Word) : Action Simulator Unit := fun simulator =>
  if index.toNat < simulator.syncpoints.size then (.ok (), simulator)
  else (.error (.refused (.noSyncpoint index)), simulator)

/-- Checks a whole submission. -/
def validate (submission : Submission) : Action Simulator Unit := do
  checkSyncpoint submission.syncpoint
  checkChannel submission.channel
  submission.ranges.forM checkCommandRange
  submission.patches.forM checkPatch

/-- The word that a patch writes: the low bits of the shifted address. -/
def patchedWord (address : UInt64) (patch : Patch) : Word :=
  ((address + patch.targetOffset.toUInt64) >>> patch.shift.toUInt64).toUInt32

/-- Replaces the word of a patch. -/
def applyPatch (patch : Patch) : Action Simulator Unit := do
  let _ ← findBuffer patch.source
  let target ← findBuffer patch.target
  Action.update fun simulator =>
    simulator.writeBuffer patch.source patch.sourceOffset.toNat
      (Word.bytes (patchedWord target.address patch))

/-- The simulated device with a syncpoint changed. -/
def changeSyncpoint (simulator : Simulator) (index : Word) (change : Syncpoint → Syncpoint) :
    Simulator :=
  { simulator with syncpoints := simulator.syncpoints.modify index.toNat change }

/-- Finds a syncpoint. -/
def findSyncpoint (index : Word) : Action Simulator Syncpoint := fun simulator =>
  match simulator.syncpoints[index.toNat]? with
  | some syncpoint => (.ok syncpoint, simulator)
  | none => (.error (.refused (.noSyncpoint index)), simulator)

/-- Reserves increments on a syncpoint; gives the value it will have reached. -/
def reserve (index increments : Word) : Action Simulator Word := do
  let syncpoint ← findSyncpoint index
  Action.update fun simulator =>
    simulator.changeSyncpoint index fun syncpoint => syncpoint.reserve increments
  pure (syncpoint.reserve increments).reserved

/-- The syncpoint that an item of a decoded stream increments. -/
def incremented? (item : DecodedItem) : Option Word :=
  match item with
  | .ok write =>
    if write.register = SyncpointIncrement.register then
      some (SyncpointIncrement.decode write.value).syncpoint
    else none
  | .error _ => none

/-- The syncpoints that a stream increments, in order. -/
def increments (words : List Word) : List Word :=
  (registerWrites words).filterMap incremented?

/-- The words of a range; none if its buffer is no longer live. -/
def rangeWords (simulator : Simulator) (range : CommandRange) : List Word :=
  match simulator.live? range.handle with
  | some buffer => buffer.memory.readWords range.offset.toNat range.words.toNat
  | none => []

/-- The syncpoints that the streams of a submission increment, in order; what names no syncpoint
increments none. -/
def performed (simulator : Simulator) (submission : Submission) : List Word :=
  (submission.ranges.flatMap fun range => increments (simulator.rangeWords range)).filter
    fun index => index.toNat < simulator.syncpoints.size

/-- Number of increments that a submission declares beyond those that its streams make on
its own syncpoint. -/
def missing (submission : Submission) (performed : List Word) : Nat :=
  submission.increments.toNat - performed.count submission.syncpoint

/-- Executes a submission. -/
def execute (simulator : Simulator) (submission : Submission) : Simulator :=
  let performed := simulator.performed submission
  let missing := missing submission performed
  let incremented := performed.foldl
    (fun simulator index => simulator.changeSyncpoint index Syncpoint.increment) simulator
  let toppedUp := incremented.changeSyncpoint submission.syncpoint fun syncpoint =>
    syncpoint.advance missing
  toppedUp.count fun statistics =>
    { statistics with
      executed := statistics.executed + 1
      toppedUp := statistics.toppedUp + missing }

/-- Executes an accepted submission or puts it at the end of the queue. -/
def dispatch (simulator : Simulator) (submission : Submission) : Simulator :=
  match simulator.settings.completion with
  | .immediate => simulator.execute submission
  | .deferred => { simulator with pending := simulator.pending ++ [submission] }

/-- Accepts a submission; gives the value that its syncpoint reaches when it is done. -/
def submit (submission : Submission) : Action Simulator Word := do
  validate submission
  submission.patches.forM applyPatch
  let fence ← reserve submission.syncpoint submission.increments
  Action.update fun simulator =>
    simulator.count fun statistics =>
      { statistics with
        submissions := statistics.submissions + 1
        relocations := statistics.relocations + submission.patches.length }
  Action.update fun simulator => simulator.dispatch submission
  pure fence

/-- The device when a number of the pending submissions have been executed, in order. All of them
leave the queue before the first is executed. -/
def midway (simulator : Simulator) (count : Nat) : Simulator :=
  (simulator.pending.take count).foldl execute { simulator with pending := [] }

/-- Executes all that is pending; gives the number of submissions. -/
def runPending : Action Simulator Nat := fun simulator =>
  (.ok simulator.pending.length, simulator.midway simulator.pending.length)

/-- The counter of a syncpoint. -/
def readSyncpoint (index : Word) : Action Simulator Word := do
  let syncpoint ← findSyncpoint index
  pure syncpoint.value

/-- The value that accepted work will bring a syncpoint to. -/
def readReserved (index : Word) : Action Simulator Word := do
  let syncpoint ← findSyncpoint index
  pure syncpoint.reserved

/-- Makes a number of increments of a syncpoint; gives the counter after them. -/
def incrementSyncpoint (index : Word) (times : Nat) : Action Simulator Word := do
  let syncpoint ← findSyncpoint index
  Action.update fun simulator =>
    simulator.changeSyncpoint index fun syncpoint => syncpoint.advance times
  pure (syncpoint.advance times).value

/-- Waits for a syncpoint with nothing else going on: the wait ends at once if the
threshold is reached, and by running out of time if it has a deadline. -/
def waitSyncpoint (index threshold : Word) (timeout : Timeout) : Action Simulator WaitOutcome := do
  let syncpoint ← findSyncpoint index
  if reached syncpoint.value threshold then pure .completed
  else if (timeout.deadline? .zero).isSome then pure .timedOut
  else Action.fail .blocked

instance : Device Simulator where
  name := "dummy"
  allocate size _ := allocate size
  release := release
  map := map
  flush := flush
  invalidate := invalidate
  openChannel := openChannel
  closeChannel := closeChannel
  submit := submit
  flushSubmissions _ := pure ()
  readSyncpoint := readSyncpoint
  waitSyncpoint := waitSyncpoint
  readRegion := readRegion
  writeRegion := writeRegion

end HostChannel.Simulator

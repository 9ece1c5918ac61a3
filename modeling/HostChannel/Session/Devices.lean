import HostChannel.Session.Answer

/-!
# Operations on the devices

Operations that reach the simulated device directly, which the instrumented device neither
records nor fails, and operations on the instrumented device itself.
-/

namespace HostChannel

/-- An operation on the simulated device. -/
inductive SimulatorOperation where
  /-- Executes all that is pending. -/
  | runPending
  /-- Number of submissions that are pending. -/
  | pending
  /-- Number of live buffers. -/
  | live
  /-- The address of a live buffer. -/
  | address (handle : Handle)
  /-- Increments a syncpoint a number of times. -/
  | increment (syncpoint : Word) (times : Nat)
  /-- The value that accepted work will bring a syncpoint to. -/
  | reserved (syncpoint : Word)
  /-- What the simulated device has done so far. -/
  | statistics
  /-- Allocates a buffer. -/
  | allocate (size : UInt64) (flags : BufferFlags)
  /-- Releases a buffer. -/
  | release (handle : Handle)
  /-- Reads the memory of a live buffer. -/
  | read (handle : Handle) (offset length : Nat)
  /-- Writes words to the memory of a live buffer. -/
  | write (handle : Handle) (offset : Nat) (words : List Word)
  /-- Makes the processor's writes visible to the device. -/
  | flush (handle : Handle) (offset length : UInt64)
  /-- Makes the device's writes visible to the processor. -/
  | invalidate (handle : Handle) (offset length : UInt64)
  /-- Opens a channel. -/
  | openChannel (engineClass : Word)
  /-- Closes a channel. -/
  | closeChannel (channel : ChannelId)
  /-- Submits work. -/
  | submit (submission : Submission)
  /-- Lets a channel start. -/
  | flushSubmissions (channel : ChannelId)
  deriving DecidableEq, Repr

/-- An operation on the instrumented device. -/
inductive InstrumentOperation where
  /-- Puts a failure of a method in store. -/
  | arm (method : Method) (fault : Fault)
  /-- Lets the next mapping be some bytes short. -/
  | shorten (bytes : Nat)
  deriving DecidableEq, Repr

namespace Simulator

/-- Makes an operation on the simulated device. -/
def operation : SimulatorOperation → Action Simulator Answer
  | .runPending => do
    let count ← runPending
    pure (.number count)
  | .pending => Action.read fun simulator => .number simulator.pending.length
  | .live => Action.read fun simulator => .number simulator.liveCount
  | .address handle => Action.read fun simulator =>
    match simulator.address? handle with
    | some address => .number address.toNat
    | none => .nothing
  | .increment syncpoint times => do
    let value ← incrementSyncpoint syncpoint times
    pure (.number value.toNat)
  | .reserved syncpoint => do
    let value ← readReserved syncpoint
    pure (.number value.toNat)
  | .statistics => Action.read fun simulator => .statistics simulator.statistics
  | .allocate size flags => do
    let handle ← Device.allocate size flags
    pure (.number handle.toNat)
  | .release handle => do
    release handle
    pure .nothing
  | .read handle offset length => do
    let region ← map handle
    let data ← Action.read (readRegion region.id offset length)
    pure (.memory data region.size)
  | .write handle offset words => do
    let region ← map handle
    Action.update (writeRegion region.id offset (words.flatMap Word.bytes))
    pure .nothing
  | .flush handle offset length => do
    flush handle offset length
    pure .nothing
  | .invalidate handle offset length => do
    invalidate handle offset length
    pure .nothing
  | .openChannel engineClass => do
    let channel ← openChannel engineClass
    pure (.channel channel)
  | .closeChannel channel => do
    closeChannel channel
    pure .nothing
  | .submit submission => do
    let value ← submit submission
    pure (.number value.toNat)
  | .flushSubmissions channel => do
    Device.flushSubmissions channel
    pure .nothing

end Simulator

namespace Session

/-- Makes an operation on the instrumented device. -/
def instrumentOperation : InstrumentOperation → Action Session Answer
  | .arm method fault => do
    onDevice (Action.update fun device => device.arm method fault)
    pure .nothing
  | .shorten bytes => do
    onDevice (Action.update fun device => { device with shortage := some bytes })
    pure .nothing

end Session

end HostChannel

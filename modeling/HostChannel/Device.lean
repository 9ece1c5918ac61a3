import HostChannel.Action
import HostChannel.Fence
import HostChannel.Timeout

/-!
# Devices

What the library asks of a device: buffers that the processor can reach, channels that
execute submissions, and syncpoints to wait for. The state type stands for the device, and
its operations are actions on it; nothing is assumed of what they answer.
-/

namespace HostChannel

/-- Tells the pieces of memory apart that the processor can reach. -/
inductive RegionId where
  /-- The memory of a buffer. -/
  | buffer (handle : Handle)
  /-- A piece of memory of its own. -/
  | standalone (serial : Nat)
  deriving DecidableEq, Repr

/-- A piece of memory that the processor can reach. -/
structure Region where
  /-- Which piece it is. -/
  id : RegionId
  /-- Number of bytes. -/
  size : Nat
  deriving DecidableEq, Repr

/-- The operations of a device whose state is of type `σ`. -/
class Device (σ : Type) where
  /-- The name of the backend. -/
  name : String
  /-- Allocates a buffer. -/
  allocate : UInt64 → BufferFlags → Action σ Handle
  /-- Releases a buffer. -/
  release : Handle → Action σ Unit
  /-- Makes a buffer reachable for the processor. -/
  map : Handle → Action σ Region
  /-- Makes the processor's writes to a range visible to the device. -/
  flush : Handle → UInt64 → UInt64 → Action σ Unit
  /-- Makes the device's writes to a range visible to the processor. -/
  invalidate : Handle → UInt64 → UInt64 → Action σ Unit
  /-- Opens a channel to the engine of a class. -/
  openChannel : Word → Action σ Channel
  /-- Closes a channel. -/
  closeChannel : ChannelId → Action σ Unit
  /-- Accepts work; gives the value that its syncpoint reaches when it is done. -/
  submit : Submission → Action σ Word
  /-- Lets a channel start on what it accepted. -/
  flushSubmissions : ChannelId → Action σ Unit
  /-- The counter of a syncpoint. -/
  readSyncpoint : Word → Action σ Word
  /-- Waits until the counter of a syncpoint reaches a threshold. -/
  waitSyncpoint : Word → Word → Timeout → Action σ WaitOutcome
  /-- The bytes of a range of a region. -/
  readRegion : RegionId → Nat → Nat → σ → List UInt8
  /-- The device after bytes were written to a region from a position on. -/
  writeRegion : RegionId → Nat → List UInt8 → σ → σ

end HostChannel

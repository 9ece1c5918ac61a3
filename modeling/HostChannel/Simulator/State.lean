import HostChannel.Configuration
import HostChannel.Memory
import HostChannel.Submission
import HostChannel.Syncpoint

/-!
# The simulated device

A device made of memory only. It hands out buffers with addresses of their own, channels
with syncpoints, and executes command streams by counting the increments that they make.
A released buffer keeps its memory, which a mapping may still reach, but is no longer
live: nothing else of the device knows it. Handles are never handed out twice.
-/

namespace HostChannel

/-- A buffer that the simulated device has handed out. -/
structure SimulatedBuffer where
  /-- The address at which engines see it. -/
  address : UInt64
  /-- Number of bytes asked for. -/
  size : UInt64
  /-- Its contents. -/
  memory : Memory
  /-- It has not been released. -/
  live : Bool

/-- What the simulated device has done so far. -/
structure Statistics where
  /-- Buffers handed out. -/
  allocations : Nat := 0
  /-- Buffers released. -/
  releases : Nat := 0
  /-- Ranges made visible to the device. -/
  flushes : Nat := 0
  /-- Ranges made visible to the processor. -/
  invalidates : Nat := 0
  /-- Submissions accepted. -/
  submissions : Nat := 0
  /-- Submissions executed. -/
  executed : Nat := 0
  /-- Words replaced by addresses. -/
  relocations : Nat := 0
  /-- Increments made because a stream made fewer than its submission declared. -/
  toppedUp : Nat := 0
  deriving DecidableEq, Repr

/-- The state of the simulated device. -/
structure Simulator where
  /-- How it behaves. -/
  settings : SimulatorSettings
  /-- The handle of the next buffer. -/
  nextHandle : Handle
  /-- The address of the next buffer. -/
  nextAddress : UInt64
  /-- The buffers handed out so far. -/
  buffers : Std.ExtTreeMap Handle SimulatedBuffer
  /-- The name of the next channel. -/
  nextChannel : ChannelId
  /-- The first syncpoint that has never belonged to a channel. -/
  nextSyncpoint : Nat
  /-- The syncpoints that closed channels have given back, in ascending order. -/
  returned : List Word
  /-- The open channels. -/
  channels : Std.ExtTreeMap ChannelId Channel
  /-- The submissions accepted and not executed, in order. -/
  pending : List Submission
  /-- The syncpoints. -/
  syncpoints : Array Syncpoint
  /-- What has been done so far. -/
  statistics : Statistics

namespace Simulator

/-- The address of the first buffer. -/
def baseAddress : UInt64 := 0x40000000
/-- Every address is a multiple of this. -/
def alignment : Nat := 0x1000
/-- The last handle, behind which there is none to go on with. -/
def lastHandle : Handle := 0xffffffff
/-- The last name of a channel, behind which there is none to go on with. -/
def lastChannel : ChannelId := 0xffffffffffffffff
/-- The code of a failure for want of resources. -/
def outOfSpaceCode : Int := 28
/-- The code of a failure for an argument that names nothing. -/
def invalidCode : Int := 22

/-- A simulated device on which nothing has happened. -/
def initial (settings : SimulatorSettings) : Simulator where
  settings := settings
  nextHandle := 1
  nextAddress := baseAddress
  buffers := ∅
  nextChannel := 0
  nextSyncpoint := 0
  returned := []
  channels := ∅
  pending := []
  syncpoints := Array.replicate settings.syncpoints.toNat .initial
  statistics := {}

/-- The buffer of a handle, if it is live. -/
def live? (simulator : Simulator) (handle : Handle) : Option SimulatedBuffer :=
  simulator.buffers[handle]?.filter SimulatedBuffer.live

/-- Number of live buffers. -/
def liveCount (simulator : Simulator) : Nat :=
  simulator.buffers.toList.countP fun entry => entry.2.live

/-- The address of a live buffer. -/
def address? (simulator : Simulator) (handle : Handle) : Option UInt64 :=
  (simulator.live? handle).map SimulatedBuffer.address

/-- The simulated device with a buffer changed. -/
def changeBuffer (simulator : Simulator) (handle : Handle)
    (change : SimulatedBuffer → SimulatedBuffer) : Simulator :=
  { simulator with buffers := simulator.buffers.modify handle change }

/-- The simulated device with bytes written to a buffer. -/
def writeBuffer (simulator : Simulator) (handle : Handle) (position : Nat) (data : List UInt8) :
    Simulator :=
  simulator.changeBuffer handle fun buffer =>
    { buffer with memory := buffer.memory.write position data }

/-- The simulated device with its statistics changed. -/
def count (simulator : Simulator) (change : Statistics → Statistics) : Simulator :=
  { simulator with statistics := change simulator.statistics }

end Simulator

end HostChannel

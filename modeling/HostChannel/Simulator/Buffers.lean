import HostChannel.Device
import HostChannel.Simulator.State

/-!
# Buffers of the simulated device

Buffers get increasing handles and increasing addresses, each at the start of a block of
its own. Allocation is refused when no address is left, and given up when no handle is. A
buffer that is longer than memory can be is given up after its handle and its addresses have
been taken.
-/

namespace HostChannel.Simulator

/-- The first address behind a buffer of a size, rounded up; none if it is past the last. -/
def addressBehind? (address size : UInt64) : Option UInt64 :=
  let span := (size.toNat + (alignment - 1)) / alignment * alignment
  if address.toNat + span < UInt64.size then some (UInt64.ofNat (address.toNat + span)) else none

/-- Allocates a buffer of zeros. -/
def allocate (size : UInt64) : Action Simulator Handle := fun simulator =>
  match addressBehind? simulator.nextAddress size with
  | none =>
    (.error (.refused (.allocationFailed size "dummy address space exhausted")), simulator)
  | some nextAddress =>
    let taken := { simulator with nextHandle := simulator.nextHandle + 1, nextAddress }
    if simulator.nextHandle = lastHandle then (.error .aborted, simulator)
    else if maxMemory < size.toNat then (.error .aborted, taken)
    else
      let buffer : SimulatedBuffer := ⟨simulator.nextAddress, size, .zeroed size.toNat, true⟩
      let recorded := { taken with buffers := taken.buffers.insert simulator.nextHandle buffer }
      (.ok simulator.nextHandle,
        recorded.count fun statistics =>
          { statistics with allocations := statistics.allocations + 1 })

/-- Finds a live buffer. -/
def findBuffer (handle : Handle) : Action Simulator SimulatedBuffer := fun simulator =>
  match simulator.live? handle with
  | some buffer => (.ok buffer, simulator)
  | none => (.error (.refused (.unknownHandle handle)), simulator)

/-- Releases a live buffer. -/
def release (handle : Handle) : Action Simulator Unit := do
  let _ ← findBuffer handle
  Action.update fun simulator =>
    (simulator.changeBuffer handle fun buffer => { buffer with live := false }).count
      fun statistics => { statistics with releases := statistics.releases + 1 }

/-- The memory of a live buffer, reachable for the processor. -/
def map (handle : Handle) : Action Simulator Region := do
  let buffer ← findBuffer handle
  pure ⟨.buffer handle, buffer.memory.size⟩

/-- Finds a range of a live buffer. -/
def findRange (handle : Handle) (offset length : UInt64) : Action Simulator Unit := do
  let buffer ← findBuffer handle
  Action.check (checkRange offset length buffer.size)

/-- Makes a range of a live buffer visible to the device. -/
def flush (handle : Handle) (offset length : UInt64) : Action Simulator Unit := do
  findRange handle offset length
  Action.update fun simulator =>
    simulator.count fun statistics => { statistics with flushes := statistics.flushes + 1 }

/-- Makes a range of a live buffer visible to the processor. -/
def invalidate (handle : Handle) (offset length : UInt64) : Action Simulator Unit := do
  findRange handle offset length
  Action.update fun simulator =>
    simulator.count fun statistics => { statistics with invalidates := statistics.invalidates + 1 }

/-- The bytes of a range of a region, live or not; bytes of no region are zero. -/
def readRegion (region : RegionId) (position length : Nat) (simulator : Simulator) : List UInt8 :=
  match region with
  | .buffer handle =>
    ((simulator.buffers[handle]?.map SimulatedBuffer.memory).getD (.zeroed 0)).read position length
  | .standalone _ => (Memory.zeroed 0).read position length

/-- The simulated device after bytes were written to a region. -/
def writeRegion (region : RegionId) (position : Nat) (data : List UInt8) (simulator : Simulator) :
    Simulator :=
  match region with
  | .buffer handle => simulator.writeBuffer handle position data
  | .standalone _ => simulator

end HostChannel.Simulator

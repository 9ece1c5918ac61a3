import HostChannel.Host
import HostChannel.Mapping

/-!
# Buffers

A buffer is a window on an allocation. The owner's window is the whole allocation; more
windows can be put on it through any of its buffers, and may reach past the window they
are made from, but not past the allocation.
-/

namespace HostChannel

/-- How a buffer came about. -/
inductive BufferKind where
  /-- It was allocated. -/
  | owner
  /-- It is a window made from another buffer. -/
  | window
  deriving DecidableEq, Repr

/-- A window on an allocation. -/
structure Buffer where
  /-- The allocation. -/
  allocation : Allocation
  /-- Where the window starts in the allocation. -/
  offset : UInt64
  /-- Number of bytes of the window. -/
  size : UInt64
  /-- How the buffer came about. -/
  kind : BufferKind
  deriving DecidableEq, Repr

namespace Buffer

variable {σ : Type}

/-- The name of the allocation on the device. -/
def handle (buffer : Buffer) : Handle :=
  buffer.allocation.handle

/-- Two buffers are windows on one allocation. -/
def sharesAllocation (first second : Buffer) : Bool :=
  first.allocation.serial == second.allocation.serial

/-- Allocates a buffer on the device. -/
def allocate [Device σ] (size : UInt64) (flags : BufferFlags) : Action (Host σ) Buffer := do
  if size = 0 then Action.refuse .zeroSize
  else
    let handle ← Host.onDevice (Device.allocate size flags)
    fun host =>
      let (allocation, after) := host.addAllocation handle size flags
      (.ok ⟨allocation, 0, size, .owner⟩, after)

/-- The window of a length at a distance from the start of a buffer. -/
def window? (buffer : Buffer) (offset length : UInt64) : Except Error Buffer := do
  let start ← checkedAdd buffer.offset offset
  let stop ← checkedAdd start length
  if buffer.allocation.size < stop then
    .error (.windowOutOfBounds offset length (buffer.allocation.size - buffer.offset))
  else .ok ⟨buffer.allocation, start, length, .window⟩

/-- Makes a window, which is one more holder of the allocation. -/
def window (buffer : Buffer) (offset length : UInt64) : Action (Host σ) Buffer := do
  let made ← Action.check (buffer.window? offset length)
  Action.update fun host => host.retain buffer.allocation
  pure made

/-- The buffer's window on a view of its allocation. -/
def mappingOf (buffer : Buffer) (region : Region) : Mapping :=
  ⟨region, buffer.offset, buffer.size⟩

/-- The processor's view of the buffer, if its allocation has one. -/
def mapping? (buffer : Buffer) (host : Host σ) : Option Mapping :=
  (host.region? buffer.allocation).map buffer.mappingOf

/-- A view that is shorter than the allocation is no use. -/
def shortRegion (allocation : Allocation) (region : Region) : Error :=
  .device "map" 0
    ("mapping of " ++ Error.handleText allocation.handle ++ " is " ++ toString region.size ++
      " bytes, expected " ++ toString allocation.size.toNat)

/-- The processor's view of the buffer; the allocation's view is made if there is none. -/
def map [Device σ] (buffer : Buffer) : Action (Host σ) Mapping := do
  match ← Action.read (mapping? buffer) with
  | some mapping => pure mapping
  | none =>
    let region ← Host.onDevice (Device.map buffer.handle)
    if region.size < buffer.allocation.size.toNat then
      Action.refuse (shortRegion buffer.allocation region)
    else
      Action.update fun host => host.keepRegion buffer.allocation region
      pure (buffer.mappingOf region)

/-- Makes the processor's writes to a range visible to the device. -/
def flush [Device σ] (buffer : Buffer) (offset length : UInt64) : Action σ Unit := do
  Action.check (checkRange offset length buffer.size)
  Device.flush buffer.handle (buffer.offset + offset) length

/-- Makes the device's writes to a range visible to the processor. -/
def invalidate [Device σ] (buffer : Buffer) (offset length : UInt64) : Action σ Unit := do
  Action.check (checkRange offset length buffer.size)
  Device.invalidate buffer.handle (buffer.offset + offset) length

/-- Gives the buffer up; it is then no longer a holder of its allocation. -/
def release [Device σ] (buffer : Buffer) : Action (Host σ) Unit :=
  Host.letGo buffer.allocation

end Buffer

end HostChannel

import HostChannel.Device
import HostChannel.Memory

/-!
# Instrumented devices

A device around another device. It records every call before anything else happens, can be
told to fail the next calls of a method without passing them on, can pretend that the
buffer it allocates is of any size, with memory of its own to show for it, and can answer
a mapping with too short a piece of memory.
-/

namespace HostChannel

/-- A method of a device. -/
inductive Method where
  | allocate
  | release
  | map
  | flush
  | invalidate
  | openChannel
  | closeChannel
  | submit
  | flushSubmissions
  | readSyncpoint
  | waitSyncpoint
  deriving DecidableEq, Repr

namespace Method

/-- Every method. -/
def all : List Method :=
  [allocate, release, map, flush, invalidate, openChannel, closeChannel, submit,
    flushSubmissions, readSyncpoint, waitSyncpoint]

/-- The name of a method, as failures show it. -/
def name : Method → String
  | allocate => "alloc"
  | release => "free"
  | map => "map"
  | flush => "flush"
  | invalidate => "invalidate"
  | openChannel => "open_channel"
  | closeChannel => "close_channel"
  | submit => "submit"
  | flushSubmissions => "flush_submissions"
  | readSyncpoint => "read_syncpoint"
  | waitSyncpoint => "wait_syncpoint"

/-- The method of a name. -/
def ofName? (name : String) : Option Method :=
  all.find? fun method => method.name == name

end Method

/-- A call of a method with what it was called with. -/
inductive Call where
  | allocate (size : UInt64) (flags : BufferFlags)
  | release (handle : Handle)
  | map (handle : Handle)
  | flush (handle : Handle) (offset length : UInt64)
  | invalidate (handle : Handle) (offset length : UInt64)
  | openChannel (engineClass : Word)
  | closeChannel (channel : ChannelId)
  | submit (submission : Submission)
  | flushSubmissions (channel : ChannelId)
  | readSyncpoint (syncpoint : Word)
  | waitSyncpoint (syncpoint threshold : Word) (timeout : Timeout)
  deriving DecidableEq, Repr

/-- The method that is called. -/
def Call.method : Call → Method
  | allocate .. => .allocate
  | release .. => .release
  | map .. => .map
  | flush .. => .flush
  | invalidate .. => .invalidate
  | openChannel .. => .openChannel
  | closeChannel .. => .closeChannel
  | submit .. => .submit
  | flushSubmissions .. => .flushSubmissions
  | readSyncpoint .. => .readSyncpoint
  | waitSyncpoint .. => .waitSyncpoint

/-- A failure that the next calls of a method have. -/
structure Fault where
  /-- How many calls still fail. -/
  times : Nat
  /-- The code that they fail with. -/
  code : Int
  /-- The message that they fail with. -/
  message : String
  deriving DecidableEq, Repr

/-- A device around another device. -/
structure Instrumented (σ : Type) where
  /-- The device that calls are passed on to. -/
  inner : σ
  /-- The calls so far, in order. -/
  calls : Array Call
  /-- The failures in store, at most one for each method. -/
  faults : List (Method × Fault)
  /-- The next allocation only pretends to have its size. -/
  pretending : Bool
  /-- The memory that buffers of a pretended size show. -/
  pretended : Std.ExtTreeMap Handle Region
  /-- How many bytes the next mapping is short of, if it is. -/
  shortage : Option Nat
  /-- Number of pieces of memory made here. -/
  nextSerial : Nat
  /-- The pieces of memory made here. -/
  memories : Std.ExtTreeMap Nat Memory

namespace Instrumented

variable {σ α : Type}

/-- A device with nothing recorded and nothing in store. -/
def ofDevice (inner : σ) : Instrumented σ where
  inner := inner
  calls := #[]
  faults := []
  pretending := false
  pretended := ∅
  shortage := none
  nextSerial := 0
  memories := ∅

/-- Number of bytes that a buffer of a pretended size really has. -/
def pretendedBytes : UInt64 := 16

/-- An action on the device that calls are passed on to. -/
def passOn (action : Action σ α) : Action (Instrumented σ) α :=
  action.within inner fun device inner => { device with inner }

/-- The device with a call recorded. -/
def record (device : Instrumented σ) (call : Call) : Instrumented σ :=
  { device with calls := device.calls.push call }

/-- The failure in store for a method, if a call of it still fails. -/
def fault? (device : Instrumented σ) (method : Method) : Option Fault :=
  (device.faults.lookup method).filter fun fault => 0 < fault.times

/-- The device with a failure in store for a method, instead of any before. -/
def arm (device : Instrumented σ) (method : Method) (fault : Fault) : Instrumented σ :=
  { device with faults := (method, fault) :: device.faults.filter fun entry => entry.1 ≠ method }

/-- Records a call, and fails it or makes an action of it. -/
def observe (call : Call) (action : Action (Instrumented σ) α) : Action (Instrumented σ) α :=
  fun device =>
    let recorded := device.record call
    match recorded.fault? call.method with
    | some fault =>
      (.error (.refused (.device call.method.name fault.code fault.message)),
        recorded.arm call.method { fault with times := fault.times - 1 })
    | none => action recorded

/-- A new piece of memory of zeros. -/
def addMemory (device : Instrumented σ) (size : Nat) : Region × Instrumented σ :=
  (⟨.standalone device.nextSerial, size⟩,
    { device with
      nextSerial := device.nextSerial + 1
      memories := device.memories.insert device.nextSerial (.zeroed size) })

/-- Allocates a small buffer and pretends that it has a size. -/
def pretend [Device σ] (size : UInt64) (flags : BufferFlags) : Action (Instrumented σ) Handle := do
  let handle ← passOn (Device.allocate pretendedBytes flags)
  Action.update fun device =>
    let (region, after) := device.addMemory size.toNat
    { after with pretended := after.pretended.insert handle region }
  pure handle

/-- Allocates a buffer, or pretends to. -/
def allocateOrPretend [Device σ] (size : UInt64) (flags : BufferFlags) :
    Action (Instrumented σ) Handle := do
  if ← Action.read pretending then pretend size flags
  else passOn (Device.allocate size flags)

/-- Maps a buffer, to a piece of memory that is too short if one is in store. -/
def mapOrShorten [Device σ] (handle : Handle) : Action (Instrumented σ) Region := do
  match ← Action.read shortage with
  | some bytes =>
    Action.update fun device => { device with shortage := none }
    let region ← passOn (Device.map handle)
    fun device =>
      let (made, after) := device.addMemory (region.size - bytes)
      (.ok made, after)
  | none =>
    match ← Action.read fun device => device.pretended[handle]? with
    | some region => pure region
    | none => passOn (Device.map handle)

/-- Passes an access to a range on, unless the buffer's size is pretended. -/
def unlessPretended (handle : Handle) (action : Action σ Unit) : Action (Instrumented σ) Unit := do
  if ← Action.read fun device => device.pretended.contains handle then pure ()
  else passOn action

instance [Device σ] : Device (Instrumented σ) where
  name := Device.name σ
  allocate size flags := observe (.allocate size flags) (allocateOrPretend size flags)
  release handle := observe (.release handle) (passOn (Device.release handle))
  map handle := observe (.map handle) (mapOrShorten handle)
  flush handle offset length :=
    observe (.flush handle offset length)
      (unlessPretended handle (Device.flush handle offset length))
  invalidate handle offset length :=
    observe (.invalidate handle offset length)
      (unlessPretended handle (Device.invalidate handle offset length))
  openChannel engineClass :=
    observe (.openChannel engineClass) (passOn (Device.openChannel engineClass))
  closeChannel channel := observe (.closeChannel channel) (passOn (Device.closeChannel channel))
  submit submission := observe (.submit submission) (passOn (Device.submit submission))
  flushSubmissions channel :=
    observe (.flushSubmissions channel) (passOn (Device.flushSubmissions channel))
  readSyncpoint syncpoint :=
    observe (.readSyncpoint syncpoint) (passOn (Device.readSyncpoint syncpoint))
  waitSyncpoint syncpoint threshold timeout :=
    observe (.waitSyncpoint syncpoint threshold timeout)
      (passOn (Device.waitSyncpoint syncpoint threshold timeout))
  readRegion region position length device :=
    match region with
    | .standalone serial =>
      (device.memories[serial]?.getD (.zeroed 0)).read position length
    | .buffer _ => Device.readRegion region position length device.inner
  writeRegion region position data device :=
    match region with
    | .standalone serial =>
      { device with
        memories := device.memories.modify serial fun memory => memory.write position data }
    | .buffer _ => { device with inner := Device.writeRegion region position data device.inner }

end Instrumented

end HostChannel

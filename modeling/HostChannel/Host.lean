import HostChannel.Configuration
import HostChannel.Device
import Std.Data.ExtTreeMap

/-!
# The host

The host is an opened device with the configuration that it was opened under. Allocations
of the device are shared: every buffer and every pushbuffer is a holder of its allocation,
and when the last holder is gone the allocation is released on the device. The processor's
view of an allocation is shared in the same way, and made once.
-/

namespace HostChannel

/-- An allocation of a device; what does not change as long as it lives. -/
structure Allocation where
  /-- Tells allocations apart, also those that the device gave the same handle. -/
  serial : Nat
  /-- Its name on the device. -/
  handle : Handle
  /-- Number of bytes. -/
  size : UInt64
  /-- The properties that were asked for. -/
  flags : BufferFlags
  deriving DecidableEq, Repr

/-- What the holders of an allocation share. -/
structure Sharing where
  /-- Number of holders. -/
  holders : Nat
  /-- The processor's view, once it has been made. -/
  region : Option Region
  deriving DecidableEq, Repr

/-- An opened device, with the allocations that are held on it. -/
structure Host (σ : Type) where
  /-- The configuration that it was opened under. -/
  configuration : Configuration
  /-- The device. -/
  device : σ
  /-- The serial number of the next allocation. -/
  nextSerial : Nat
  /-- The allocations that have holders, by serial number. -/
  sharings : Std.ExtTreeMap Nat Sharing

namespace Host

variable {σ α : Type}

/-- A host on which nothing has happened. -/
def ofDevice (configuration : Configuration) (device : σ) : Host σ :=
  ⟨configuration, device, 0, ∅⟩

/-- An action on the device of the host. -/
def onDevice (action : Action σ α) : Action (Host σ) α :=
  action.within Host.device fun host device => { host with device }

/-- Number of holders of an allocation. -/
def holders (host : Host σ) (allocation : Allocation) : Nat :=
  (host.sharings[allocation.serial]?.map Sharing.holders).getD 0

/-- The processor's view of an allocation, if it has been made. -/
def region? (host : Host σ) (allocation : Allocation) : Option Region :=
  host.sharings[allocation.serial]?.bind Sharing.region

/-- The host with a new allocation that has one holder. -/
def addAllocation (host : Host σ) (handle : Handle) (size : UInt64) (flags : BufferFlags) :
    Allocation × Host σ :=
  (⟨host.nextSerial, handle, size, flags⟩,
    { host with
      nextSerial := host.nextSerial + 1
      sharings := host.sharings.insert host.nextSerial ⟨1, none⟩ })

/-- The host with one more holder of an allocation. -/
def retain (host : Host σ) (allocation : Allocation) : Host σ :=
  { host with
    sharings := host.sharings.modify allocation.serial fun sharing =>
      { sharing with holders := sharing.holders + 1 } }

/-- The host with the processor's view of an allocation kept. -/
def keepRegion (host : Host σ) (allocation : Allocation) (region : Region) : Host σ :=
  { host with
    sharings := host.sharings.modify allocation.serial fun sharing =>
      { sharing with region := some region } }

/-- Takes one holder of an allocation away. With the last holder the allocation is released
on the device; what the device answers to that does not matter. -/
def letGo [Device σ] (allocation : Allocation) : Action (Host σ) Unit := fun host =>
  if host.holders allocation ≤ 1 then
    onDevice (Action.regardless (Device.release allocation.handle))
      { host with sharings := host.sharings.erase allocation.serial }
  else
    (.ok (),
      { host with
        sharings := host.sharings.modify allocation.serial fun sharing =>
          { sharing with holders := sharing.holders - 1 } })

end Host

end HostChannel

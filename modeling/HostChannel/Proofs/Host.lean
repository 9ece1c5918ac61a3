import HostChannel.Proofs.Device
import HostChannel.Proofs.PushBuffer
import HostChannel.Proofs.Simulator.Retention

/-!
# The books of a host

Allocations are told apart by their serial number, and buffers that share an allocation agree on
its handle. A ledger of the allocations made so far says so: the allocation of every buffer
stands in it at its serial number, and the view that a host keeps for a serial number is the
memory of the allocation there. The ledger itself only grows, and only with an allocation; all
else upholds what it says.
-/

namespace HostChannel

open HostChannel.Action (Moves Preserves Upholds)

/-- The instrumented device shows buffers as the simulated device has them. -/
structure Instrumented.Plain {σ : Type} (device : Instrumented σ) : Prop where
  /-- The next allocation has its size. -/
  honest : device.pretending = false
  /-- No buffer has a pretended size. -/
  pretended : device.pretended = ∅
  /-- The next mapping is as long as it should be. -/
  whole : device.shortage = none

namespace Instrumented

/-- What is passed on leaves the device around as it is. -/
theorem passOn_plain {σ α : Type} (action : Action σ α) :
    Moves (Preserves Plain) (passOn action) :=
  fun _ plain => ⟨plain.honest, plain.pretended, plain.whole⟩

/-- A recorded call leaves a plain device plain if the call does. -/
theorem observe_plain {σ α : Type} (call : Call) {action : Action (Instrumented σ) α}
    (goes : Moves (Preserves Plain) action) : Moves (Preserves Plain) (observe call action) := by
  intro device plain
  simp only [observe]
  split
  · exact ⟨plain.honest, plain.pretended, plain.whole⟩
  · exact goes (device.record call) ⟨plain.honest, plain.pretended, plain.whole⟩

/-- Recording calls and passing them on keeps a plain device plain, whatever they do. -/
theorem surrounds_plain {σ : Type} :
    Surrounds (Preserves (Plain : Instrumented σ → Prop)) fun _ _ => True where
  passOn _ := passOn_plain _
  observe call _ _ := observe_plain call
  unshorten _ plain := ⟨plain.honest, plain.pretended, rfl⟩
  keep _ _ _ plain := ⟨plain.honest, plain.pretended, plain.whole⟩

variable {σ : Type} [Device σ]

/-- A plain device maps a buffer by passing the call on. -/
theorem mapOrShorten_of_plain {device : Instrumented σ} (plain : device.Plain) (handle : Handle) :
    mapOrShorten handle device = passOn (Device.map handle) device := by
  simp only [mapOrShorten, Action.bind_apply, Action.read_apply, plain.whole, plain.pretended,
    Std.ExtTreeMap.getElem?_empty]

/-- A plain device passes an access to a buffer on. -/
theorem unlessPretended_of_plain {σ : Type} {device : Instrumented σ} (plain : device.Plain)
    (handle : Handle) (action : Action σ Unit) :
    unlessPretended handle action device = passOn action device := by
  simp only [unlessPretended, Action.bind_apply, Action.read_apply, plain.pretended,
    Std.ExtTreeMap.contains_empty, Bool.false_eq_true, if_false]

/-- A plain device allocates a buffer by passing the call on. -/
theorem allocateOrPretend_of_plain {device : Instrumented σ} (plain : device.Plain)
    (size : UInt64) (flags : BufferFlags) :
    allocateOrPretend size flags device = passOn (Device.allocate size flags) device := by
  simp only [allocateOrPretend, Action.bind_apply, Action.read_apply, plain.honest,
    Bool.false_eq_true, if_false]

/-- No method makes a plain device pretend anything. -/
theorem movesBy_plain : Device.MovesBy (Preserves (Plain : Instrumented σ → Prop)) where
  toQuietBy := surrounds_plain.quietBy Device.QuietBy.everywhere
  allocate size flags := by
    refine observe_plain _ fun device plain => ?_
    rw [allocateOrPretend_of_plain plain]
    exact passOn_plain _ device plain
  release handle := observe_plain _ (passOn_plain _)

/-- Making words visible to the simulated device only counts on it. -/
theorem flush_onlyCounted (handle : Handle) (offset length : UInt64) :
    Moves (Action.Along inner Simulator.OnlyCounted)
      (Device.flush handle offset length : Action (Instrumented Simulator) Unit) :=
  observe_moves _ (unlessPretended_moves handle
    (passOn_moves (Simulator.flush_onlyCounted handle offset length)))

/-- A plain device maps a buffer of the simulated device to the buffer's own memory. -/
theorem map_region {device after : Instrumented Simulator} (plain : device.Plain) {handle : Handle}
    {region : Region} (mapped : Device.map handle device = (.ok region, after)) :
    region.id = .buffer handle := by
  change observe (.map handle) (mapOrShorten handle) device = _ at mapped
  simp only [observe] at mapped
  split at mapped
  · simp at mapped
  · have recorded : (device.record (.map handle)).Plain :=
      ⟨plain.honest, plain.pretended, plain.whole⟩
    rw [mapOrShorten_of_plain recorded] at mapped
    have inner : (Simulator.map handle device.inner).1 = .ok region :=
      congrArg Prod.fst mapped
    rw [Simulator.map, Action.bind_apply] at inner
    split at inner
    · exact (congrArg Region.id (Except.ok.inj inner)).symm
    · contradiction

/-- A plain device hands out buffers of the simulated device, with the size asked for. -/
theorem allocate_handedOut {device after : Instrumented Simulator}
    (plain : device.Plain) {size : UInt64} {flags : BufferFlags} {handle : Handle}
    (made : Device.allocate size flags device = (.ok handle, after)) :
    after.inner.HandedOut handle size := by
  change observe (.allocate size flags) (allocateOrPretend size flags) device = _ at made
  simp only [observe] at made
  split at made
  · simp at made
  · have recorded : (device.record (.allocate size flags)).Plain :=
      ⟨plain.honest, plain.pretended, plain.whole⟩
    rw [allocateOrPretend_of_plain recorded] at made
    obtain ⟨outcome, rfl⟩ := Prod.mk.inj made
    exact Simulator.allocate_handedOut (Prod.ext outcome rfl)

end Instrumented

/-- The buffer is a window on an allocation of the ledger. -/
structure Buffer.Known (ledger : List Allocation) (buffer : Buffer) : Prop where
  /-- The allocation is in the ledger. -/
  listed : ledger[buffer.allocation.serial]? = some buffer.allocation
  /-- The window ends within it. -/
  inside : buffer.Inside

/-- Every pushbuffer of a list is sound and on an allocation of the ledger. -/
def AllKnown (ledger : List Allocation) (pushbuffers : List PushBuffer) : Prop :=
  ∀ pushbuffer ∈ pushbuffers, pushbuffer.buffer.Known ledger ∧ pushbuffer.Sound

/-- A window on a known allocation is known. -/
theorem Buffer.Known.window? {ledger : List Allocation} {buffer made : Buffer}
    (known : buffer.Known ledger) {offset length : UInt64}
    (given : buffer.window? offset length = .ok made) : made.Known ledger :=
  ⟨allocation_of_window? given ▸ known.listed, inside_of_window? given⟩

/-- What is known stays known when the ledger grows. -/
theorem Buffer.Known.grown {ledger : List Allocation} {buffer : Buffer}
    (known : buffer.Known ledger) (more : List Allocation) : buffer.Known (ledger ++ more) := by
  obtain ⟨inside, _⟩ := List.getElem?_eq_some_iff.mp known.listed
  refine ⟨?_, known.inside⟩
  rw [List.getElem?_append_left inside]
  exact known.listed

/-- The mapping is a window on the memory of an allocation of the ledger. -/
def Mapping.Known (ledger : List Allocation) (mapping : Mapping) : Prop :=
  ∃ allocation ∈ ledger, mapping.region.id = .buffer allocation.handle ∧
    mapping.base.toNat + mapping.length.toNat ≤ allocation.size.toNat

/-- The window of a known buffer on the memory of its allocation is such a mapping. -/
theorem Buffer.Known.mappingOf {ledger : List Allocation} {buffer : Buffer}
    (known : buffer.Known ledger) {region : Region} (shared : region.id = .buffer buffer.handle) :
    (buffer.mappingOf region).Known ledger :=
  ⟨buffer.allocation, List.mem_of_getElem? known.listed, shared, known.inside⟩

/-- A mapping that is known stays known when the ledger grows. -/
theorem Mapping.Known.grown {ledger : List Allocation} {mapping : Mapping}
    (known : mapping.Known ledger) (more : List Allocation) : mapping.Known (ledger ++ more) := by
  obtain ⟨allocation, listed, rest⟩ := known
  exact ⟨allocation, List.mem_append_left more listed, rest⟩

/-- So do pushbuffers. -/
theorem AllKnown.grown {ledger : List Allocation} {pushbuffers : List PushBuffer}
    (known : AllKnown ledger pushbuffers) (more : List Allocation) :
    AllKnown (ledger ++ more) pushbuffers :=
  fun pushbuffer member => ⟨(known pushbuffer member).1.grown more, (known pushbuffer member).2⟩

namespace Host

/-- The books of a host agree with the ledger. -/
structure Booked (ledger : List Allocation) (host : Host (Instrumented Simulator)) : Prop where
  /-- The next allocation stands behind all others. -/
  serials : host.nextSerial = ledger.length
  /-- A view that is kept is the memory of the allocation. -/
  regions : ∀ (serial : Nat) (sharing : Sharing) (region : Region),
    host.sharings[serial]? = some sharing → sharing.region = some region →
      ∃ allocation, ledger[serial]? = some allocation ∧ region.id = .buffer allocation.handle
  /-- The device is plain. -/
  plain : host.device.Plain

variable {ledger : List Allocation}

/-- A change of the holders of an allocation is no concern of the ledger. -/
theorem Booked.modify {host : Host (Instrumented Simulator)} (booked : host.Booked ledger)
    (serial : Nat) {change : Sharing → Sharing}
    (same : ∀ sharing, (change sharing).region = sharing.region) :
    ({ host with sharings := host.sharings.modify serial change }).Booked ledger := by
  refine ⟨booked.serials, fun other sharing region found shared => ?_, booked.plain⟩
  rw [Std.ExtTreeMap.getElem?_modify] at found
  split at found
  · rename_i equal
    obtain ⟨before, held, rfl⟩ := Option.map_eq_some_iff.mp found
    rw [same] at shared
    rw [← Std.LawfulEqCmp.eq_of_compare equal]
    exact booked.regions serial before region held shared
  · exact booked.regions other sharing region found shared

/-- What keeps the device plain is no concern of the ledger. -/
theorem onDevice_upholds {α : Type} {action : Action (Instrumented Simulator) α}
    (goes : Moves (Preserves Instrumented.Plain) action) :
    Upholds (Booked ledger) (onDevice action) fun _ => True :=
  fun host booked =>
    ⟨⟨booked.serials, booked.regions, goes host.device booked.plain⟩, fun _ _ => trivial⟩

/-- One more holder is no concern of the ledger. -/
theorem retain_upholds (allocation : Allocation) :
    Upholds (Booked ledger) (Action.update fun host => host.retain allocation) fun _ => True :=
  Upholds.update fun _ booked => booked.modify allocation.serial fun _ => rfl

/-- Nor is one less. -/
theorem letGo_upholds (allocation : Allocation) :
    Upholds (Booked ledger) (letGo allocation) fun _ => True := by
  intro host booked
  rw [letGo]
  split
  · refine onDevice_upholds (Moves.regardless
      (Instrumented.movesBy_plain.release allocation.handle)) _ ?_
    refine ⟨booked.serials, fun other sharing region found shared => ?_, booked.plain⟩
    rw [Std.ExtTreeMap.getElem?_erase] at found
    split at found
    · contradiction
    · exact booked.regions other sharing region found shared
  · exact ⟨booked.modify allocation.serial fun _ => rfl, fun _ _ => trivial⟩

/-- A window of a known buffer is known. -/
theorem window_upholds {buffer : Buffer} (known : buffer.Known ledger) (offset length : UInt64) :
    Upholds (Booked ledger) (buffer.window offset length) fun made => made.Known ledger :=
  Upholds.bind (Upholds.check fun _ given => known.window? given) fun _ held =>
    Upholds.bind (retain_upholds buffer.allocation) fun _ _ => Upholds.pure held

/-- The device shows the memory of the buffer that is mapped. -/
theorem mapped_upholds (handle : Handle) :
    Upholds (Booked ledger) (onDevice (Device.map handle)) fun region =>
      region.id = .buffer handle := by
  intro host booked
  refine ⟨(onDevice_upholds (Instrumented.movesBy_plain.map handle) host booked).1, ?_⟩
  intro region given
  cases made : Device.map handle host.device with
  | mk outcome after =>
    have same : outcome = .ok region := by
      rw [← given, onDevice_run made]
    exact Instrumented.map_region booked.plain (same ▸ made)

/-- The view of a known buffer's allocation may be kept. -/
theorem keepRegion_upholds {buffer : Buffer} (known : buffer.Known ledger) {region : Region}
    (shared : region.id = .buffer buffer.handle) :
    Upholds (Booked ledger) (Action.update fun host => host.keepRegion buffer.allocation region)
      fun _ => True := by
  refine Upholds.update fun host booked => ⟨booked.serials, ?_, booked.plain⟩
  intro serial sharing kept found holds
  rw [keepRegion, Std.ExtTreeMap.getElem?_modify] at found
  split at found
  · rename_i equal
    obtain ⟨before, held, rfl⟩ := Option.map_eq_some_iff.mp found
    obtain rfl := Option.some.inj holds
    rw [← Std.LawfulEqCmp.eq_of_compare equal]
    exact ⟨buffer.allocation, known.listed, shared⟩
  · exact booked.regions serial sharing kept found holds

/-- The mapping of a known buffer is its window on the memory of its allocation. -/
theorem Booked.mapping? {host : Host (Instrumented Simulator)} (booked : host.Booked ledger)
    {buffer : Buffer} (known : buffer.Known ledger) {mapping : Mapping}
    (found : buffer.mapping? host = some mapping) :
    ∃ region, region.id = .buffer buffer.handle ∧ mapping = buffer.mappingOf region := by
  obtain ⟨region, kept, rfl⟩ := Option.map_eq_some_iff.mp found
  obtain ⟨sharing, held, shared⟩ := Option.bind_eq_some_iff.mp kept
  obtain ⟨allocation, listed, same⟩ := booked.regions _ sharing region held shared
  obtain rfl := Option.some.inj (known.listed.symm.trans listed)
  exact ⟨region, same, rfl⟩

/-- So the mapping is known. -/
theorem Booked.known_of_mapping? {host : Host (Instrumented Simulator)}
    (booked : host.Booked ledger) {buffer : Buffer} (known : buffer.Known ledger)
    {mapping : Mapping} (found : buffer.mapping? host = some mapping) : mapping.Known ledger := by
  obtain ⟨region, shared, rfl⟩ := booked.mapping? known found
  exact known.mappingOf shared

/-- Mapping a known buffer is in accord with the ledger, and gives a known mapping. -/
theorem map_upholds {buffer : Buffer} (known : buffer.Known ledger) :
    Upholds (Booked ledger) buffer.map fun mapping => mapping.Known ledger := by
  have mapped : Upholds (Booked ledger) (Action.read buffer.mapping?) fun found =>
      ∀ mapping, found = some mapping → mapping.Known ledger :=
    Upholds.read fun host booked mapping found => booked.known_of_mapping? known found
  refine Upholds.bind mapped fun found held => ?_
  cases found with
  | some mapping => exact Upholds.pure (held mapping rfl)
  | none =>
    refine Upholds.bind (mapped_upholds buffer.handle) fun region shared => ?_
    split
    · exact Upholds.fail _
    · exact Upholds.bind (keepRegion_upholds known shared) fun _ _ =>
        Upholds.pure (known.mappingOf shared)

/-- A pushbuffer that is opened on a known buffer is sound, and empty. -/
theorem openAt_upholds {buffer : Buffer} (known : buffer.Known ledger) (offset : UInt64) :
    Upholds (Booked ledger) (PushBuffer.openAt buffer offset) fun opened =>
      (opened.buffer.Known ledger ∧ opened.Sound) ∧ opened.length = 0 ∧
        opened.relocations = [] := by
  have mapped : Upholds (Booked ledger) (Action.read buffer.mapping?) fun found =>
      ∀ mapping, found = some mapping →
        ∃ region, region.id = .buffer buffer.handle ∧ mapping = buffer.mappingOf region :=
    Upholds.read fun host booked mapping found => booked.mapping? known found
  refine Upholds.bind mapped fun found windows => ?_
  have checked : Upholds (Booked ledger)
      (Action.check (PushBuffer.ofMapping? buffer found offset)) fun opened =>
        (opened.buffer.Known ledger ∧ opened.Sound) ∧ opened.length = 0 ∧
          opened.relocations = [] := by
    refine Upholds.check fun opened made => ⟨?_, PushBuffer.ofMapping?_empty made⟩
    cases found with
    | none => simp [PushBuffer.ofMapping?] at made
    | some mapping =>
      obtain ⟨region, shared, rfl⟩ := windows mapping rfl
      obtain ⟨sound, same⟩ := PushBuffer.sound_ofMapping? known.inside shared made
      exact ⟨same ▸ known, sound⟩
  exact Upholds.bind checked fun opened held =>
    Upholds.bind (retain_upholds buffer.allocation) fun _ _ => Upholds.pure held

/-- So is one that is opened at the end of a job. -/
theorem append_upholds {job : Job} (allKnown : AllKnown ledger job.pushbuffers) {buffer : Buffer}
    (known : buffer.Known ledger) (offset : UInt64) :
    Upholds (Booked ledger) (job.append buffer offset) fun appended =>
      AllKnown ledger appended.pushbuffers ∧
        ∃ opened, appended.pushbuffers = job.pushbuffers ++ [opened] ∧ opened.length = 0 ∧
          opened.relocations = [] := by
  refine Upholds.bind (Upholds.check_any _) fun _ _ =>
    Upholds.bind (openAt_upholds known offset) fun opened held =>
      Upholds.pure ⟨?_, opened, rfl, held.2⟩
  intro pushbuffer member
  rcases List.mem_append.mp member with earlier | last
  · exact allKnown pushbuffer earlier
  · rw [List.mem_singleton.mp last]
    exact held.1

/-- Giving up a job is giving up holders. -/
theorem jobRelease_upholds (job : Job) :
    Upholds (Booked ledger) job.release fun _ => True :=
  Upholds.forM fun pushbuffer _ => letGo_upholds pushbuffer.buffer.allocation

/-- A host on whose device only something happened that keeps it plain. -/
theorem Booked.withDevice {host : Host (Instrumented Simulator)} (booked : host.Booked ledger)
    {device : Instrumented Simulator} (plain : device.Plain) :
    ({ host with device }).Booked ledger :=
  ⟨booked.serials, booked.regions, plain⟩

/-- A new allocation comes at the end of the ledger. -/
theorem Booked.addAllocation {host : Host (Instrumented Simulator)} (booked : host.Booked ledger)
    (handle : Handle) (size : UInt64) (flags : BufferFlags) :
    (host.addAllocation handle size flags).2.Booked
        (ledger ++ [(host.addAllocation handle size flags).1]) ∧
      Buffer.Known (ledger ++ [(host.addAllocation handle size flags).1])
        ⟨(host.addAllocation handle size flags).1, 0, size, .owner⟩ := by
  refine ⟨⟨?_, ?_, booked.plain⟩, ?_, ?_⟩
  · rw [List.length_append, List.length_singleton, ← booked.serials]
    rfl
  · intro serial sharing region found shared
    simp only [Host.addAllocation, Std.ExtTreeMap.getElem?_insert] at found
    split at found
    · obtain rfl := Option.some.inj found
      simp at shared
    · obtain ⟨allocation, listed, same⟩ := booked.regions serial sharing region found shared
      obtain ⟨inside, _⟩ := List.getElem?_eq_some_iff.mp listed
      refine ⟨allocation, ?_, same⟩
      rw [List.getElem?_append_left inside]
      exact listed
  · simp only [Host.addAllocation, booked.serials, List.getElem?_concat_length]
  · simp only [Buffer.Inside, Host.addAllocation, UInt64.toNat_zero, Nat.zero_add, Nat.le_refl]

/-- What is allocated on a host comes from its device. -/
theorem allocate_apply {σ : Type} [Device σ] {size : UInt64} (positive : size ≠ 0)
    (flags : BufferFlags) (host : Host σ) :
    Buffer.allocate size flags host =
      match Device.allocate size flags host.device with
      | (.ok handle, device) =>
        (.ok ⟨(({ host with device }).addAllocation handle size flags).1, 0, size, .owner⟩,
          (({ host with device }).addAllocation handle size flags).2)
      | (.error failure, device) => (.error failure, { host with device }) := by
  rw [Buffer.allocate, if_neg positive]
  cases made : Device.allocate size flags host.device with
  | mk outcome device =>
    have run : onDevice (Device.allocate size flags) host = (outcome, { host with device }) :=
      onDevice_run made
    cases outcome with
    | ok handle => exact Action.bind_apply_of_ok run _
    | error failure => exact Action.bind_apply_of_error run _

/-- Allocating adds to the ledger at most, and what is added is handed out. -/
theorem allocate_booked {host : Host (Instrumented Simulator)} (booked : host.Booked ledger)
    (size : UInt64) (flags : BufferFlags) :
    ∃ more, (Buffer.allocate size flags host).2.Booked (ledger ++ more) ∧
      (∀ allocation ∈ more, (Buffer.allocate size flags host).2.device.inner.HandedOut
        allocation.handle allocation.size) ∧
      ∀ buffer, (Buffer.allocate size flags host).1 = .ok buffer →
        buffer.Known (ledger ++ more) := by
  by_cases zero : size = 0
  · rw [Buffer.allocate, if_pos zero]
    refine ⟨[], by rwa [List.append_nil], by simp, fun buffer given => ?_⟩
    simp [Action.refuse] at given
  · have kept := Instrumented.movesBy_plain.allocate size flags host.device booked.plain
    rw [allocate_apply zero]
    cases made : Device.allocate size flags host.device with
    | mk outcome device =>
      rw [made] at kept
      cases outcome with
      | error failure =>
        refine ⟨[], ?_, by simp, fun buffer given => absurd given (by simp)⟩
        rw [List.append_nil]
        exact booked.withDevice kept
      | ok handle =>
        obtain ⟨grown, known⟩ := (booked.withDevice kept).addAllocation handle size flags
        refine ⟨_, grown, ?_, fun buffer given => ?_⟩
        · intro allocation member
          rw [List.mem_singleton.mp member]
          exact Instrumented.allocate_handedOut booked.plain made
        · rw [← Except.ok.inj given]
          exact known

end Host

end HostChannel

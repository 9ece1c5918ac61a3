import HostChannel.Proofs.Session.Stock
import HostChannel.Proofs.Simulator.Bounds

/-!
# Bounds along a session

Positions are counted from the start of a window, of an allocation, and of the memory that the
processor and the device reach, and are added up without looking for a carry. Whatever a session has
done, its windows are within their allocations and its pushbuffers within their windows, so none of
these sums wraps around, no difference falls below zero, and every access that passes its check is
within memory, also where the buffer was released in between (`run_in_range`).
-/

namespace HostChannel

/-- What is reckoned with a buffer is exact, for every range and position that passes its check. -/
structure Buffer.InRange (buffer : Buffer) : Prop where
  /-- The window ends within the allocation. -/
  window : buffer.offset.toNat + buffer.size.toNat ≤ buffer.allocation.size.toNat
  /-- The allocation reaches from the start of the window on as far as is said. -/
  left : buffer.offset.toNat + (buffer.allocation.size - buffer.offset).toNat =
    buffer.allocation.size.toNat
  /-- A range of the window is one of the allocation. -/
  range : ∀ offset length, checkRange offset length buffer.size = .ok () →
    (buffer.offset + offset).toNat = buffer.offset.toNat + offset.toNat ∧
      buffer.offset.toNat + offset.toNat + length.toNat ≤ buffer.allocation.size.toNat
  /-- A position to take the address of is one in the allocation, or just behind it. -/
  target : ∀ offset, PushBuffer.checkTarget buffer offset = .ok () →
    (buffer.offset + offset).toNat = buffer.offset.toNat + offset.toNat ∧
      buffer.offset.toNat + offset.toNat ≤ buffer.allocation.size.toNat

/-- What is reckoned with a pushbuffer is exact. -/
structure PushBuffer.InRange (pushbuffer : PushBuffer) : Prop where
  /-- No more words are pushed than there is room for. -/
  inside : pushbuffer.length ≤ pushbuffer.capacity
  /-- The room is in the window. -/
  room : pushbuffer.start.toNat + 4 * pushbuffer.capacity ≤ pushbuffer.buffer.size.toNat
  /-- There is room for the words that are said to be left. -/
  remaining : pushbuffer.length + pushbuffer.remaining = pushbuffer.capacity
  /-- The next word goes behind those pushed. -/
  position : pushbuffer.position.toNat = pushbuffer.start.toNat + 4 * pushbuffer.length
  /-- The words pushed take four bytes each. -/
  written : (UInt64.ofNat pushbuffer.length * wordBytes).toNat = 4 * pushbuffer.length
  /-- The first word is where a device is told that it is. -/
  command : (pushbuffer.buffer.offset + pushbuffer.start).toNat =
    pushbuffer.buffer.offset.toNat + pushbuffer.start.toNat
  /-- So is every word that is to be replaced. -/
  patch : ∀ relocation ∈ pushbuffer.relocations,
    (pushbuffer.buffer.offset + relocation.sourceOffset).toNat =
      pushbuffer.buffer.offset.toNat + relocation.sourceOffset.toNat

/-- The mapping is on memory of the device, and ranges that pass its check are in that memory, at
the position that is reckoned. -/
def Mapping.InRange (simulator : Simulator) (mapping : Mapping) : Prop :=
  ∃ handle, mapping.region.id = .buffer handle ∧ ∀ offset length,
    checkRange offset length mapping.length = .ok () →
      (mapping.base + offset).toNat = mapping.base.toNat + offset.toNat ∧
        mapping.base.toNat + offset.toNat + length.toNat ≤ (simulator.contents handle).size

/-- A window within its allocation is in range. -/
theorem Buffer.Inside.inRange {buffer : Buffer} (window : buffer.Inside) : buffer.InRange := by
  have ends : buffer.offset.toNat + buffer.size.toNat ≤ buffer.allocation.size.toNat := window
  refine ⟨ends, ?_, fun offset length passed => ?_, fun offset passed => ?_⟩
  · have start : buffer.offset ≤ buffer.allocation.size := UInt64.le_iff_toNat_le.mpr (by omega)
    rw [UInt64.toNat_sub_of_le _ _ start]
    omega
  · rw [checkRange_eq_ok_iff] at passed
    exact ⟨window.toNat_add (by omega), by omega⟩
  · have within : offset.toNat ≤ buffer.size.toNat := by
      rw [PushBuffer.checkTarget] at passed
      split at passed
      · contradiction
      · rename_i before
        exact UInt64.le_iff_toNat_le.mp (UInt64.not_lt.mp before)
    exact ⟨window.toNat_add within, by omega⟩

/-- A known pushbuffer is in range. -/
theorem PushBuffer.Known.inRange {ledger : List Allocation} {pushbuffer : PushBuffer}
    (known : pushbuffer.Known ledger) : pushbuffer.InRange := by
  have sound := known.sound
  have inside := sound.inside
  have room := sound.room
  refine ⟨inside, room, Nat.add_sub_of_le inside, sound.toNat_position, sound.toNat_written,
    sound.window.toNat_add (by omega), fun relocation recorded => ?_⟩
  obtain ⟨place, before, located⟩ := (known.aims relocation recorded).word
  exact sound.window.toNat_add (by omega)

/-- A buffer that was handed out has memory of its size, live or not. -/
theorem Simulator.Solid.size_contents {simulator : Simulator} (solid : simulator.Solid)
    {handle : Handle} {size : UInt64} (handed : simulator.HandedOut handle size) :
    (simulator.contents handle).size = size.toNat := by
  obtain ⟨buffer, found, rfl⟩ := Option.map_eq_some_iff.mp handed.sized
  rw [contents, found]
  exact solid.sized handle buffer found

/-- A known mapping is in range where all allocations of the ledger were handed out. -/
theorem Mapping.Known.inRange {ledger : List Allocation} {mapping : Mapping}
    (known : mapping.Known ledger) {simulator : Simulator} (solid : simulator.Solid)
    (handed : ∀ allocation ∈ ledger, simulator.HandedOut allocation.handle allocation.size) :
    mapping.InRange simulator := by
  obtain ⟨allocation, listed, shared, ends⟩ := known
  refine ⟨allocation.handle, shared, fun offset length passed => ?_⟩
  have fits := allocation.size.toNat_lt
  rw [checkRange_eq_ok_iff] at passed
  rw [solid.size_contents (handed allocation listed), UInt64.toNat_add]
  omega

namespace Session

/-- The pushbuffer has a name in the session, or is one of a job of the session. -/
def HasPushBuffer (session : Session) (pushbuffer : PushBuffer) : Prop :=
  (∃ name : String, session.pushbuffers[name]? = some pushbuffer) ∨
    ∃ (name : String) (job : Job), session.jobs[name]? = some job ∧ pushbuffer ∈ job.pushbuffers

/-- The buffer has a name in the session, or a pushbuffer of the session is on it. -/
def HasBuffer (session : Session) (buffer : Buffer) : Prop :=
  (∃ name : String, session.buffers[name]? = some buffer) ∨
    ∃ pushbuffer, session.HasPushBuffer pushbuffer ∧ pushbuffer.buffer = buffer

/-- The mapping has a name in the session, or a pushbuffer of the session writes through it. -/
def HasMapping (session : Session) (mapping : Mapping) : Prop :=
  (∃ name : String, session.mappings[name]? = some mapping) ∨
    ∃ pushbuffer, session.HasPushBuffer pushbuffer ∧ pushbuffer.mapping = mapping

variable {ledger : List Allocation} {session : Session}

/-- All pushbuffers of a session are known. -/
theorem Stocked.known_pushbuffer (stocked : session.Stocked ledger) {pushbuffer : PushBuffer}
    (has : session.HasPushBuffer pushbuffer) : pushbuffer.Known ledger := by
  rcases has with ⟨name, found⟩ | ⟨name, job, found, member⟩
  · exact stocked.pushbuffers name pushbuffer found
  · obtain ⟨allKnown, aim⟩ := stocked.books.jobs name job found
    exact ⟨(allKnown pushbuffer member).1, (allKnown pushbuffer member).2, aim pushbuffer member⟩

/-- So are all buffers. -/
theorem Stocked.known_buffer (stocked : session.Stocked ledger) {buffer : Buffer}
    (has : session.HasBuffer buffer) : buffer.Known ledger := by
  rcases has with ⟨name, found⟩ | ⟨pushbuffer, has, rfl⟩
  · exact stocked.books.buffers name buffer found
  · exact (stocked.known_pushbuffer has).buffer

/-- So are all mappings. -/
theorem Stocked.known_mapping (stocked : session.Stocked ledger) {mapping : Mapping}
    (has : session.HasMapping mapping) : mapping.Known ledger := by
  rcases has with ⟨name, found⟩ | ⟨pushbuffer, has, rfl⟩
  · exact stocked.mappings name mapping found
  · have known := stocked.known_pushbuffer has
    refine ⟨_, List.mem_of_getElem? known.buffer.listed, known.sound.region, ?_⟩
    rw [known.sound.base, known.sound.size]
    exact known.buffer.inside

/-- Whatever a session on a fresh device has done, all that is reckoned with its buffers and
pushbuffers is exact; and wherever requests take the device from there, also when they release the
buffers, accesses through its mappings are within memory, and so is what the device patches and
executes. -/
theorem run_in_range (configuration : Configuration) {operations : List Operation}
    (plain : ∀ operation ∈ operations, operation.plain = true) :
    (∀ buffer, ((initial configuration).run operations).HasBuffer buffer → buffer.InRange) ∧
      (∀ pushbuffer, ((initial configuration).run operations).HasPushBuffer pushbuffer →
        pushbuffer.InRange) ∧
      ∀ later, ((initial configuration).run operations).simulator.Reaches later →
        (∀ mapping, ((initial configuration).run operations).HasMapping mapping →
          mapping.InRange later) ∧ later.InRange := by
  obtain ⟨ledger, stocked, handed⟩ := supplied_run configuration plain
  refine ⟨fun buffer has => (stocked.known_buffer has).inside.inRange,
    fun pushbuffer has => (stocked.known_pushbuffer has).inRange, fun later further => ?_⟩
  have reached : (Simulator.initial configuration.simulator).Reaches later :=
    trans_of Simulator.Reaches (reaches_run operations (initial configuration)) further
  -- What was handed out once keeps its size, so mappings may outlive their buffers.
  have still : ∀ allocation ∈ ledger, later.HandedOut allocation.handle allocation.size :=
    fun allocation listed => further.handedOut (handed allocation listed)
  exact ⟨fun mapping has => (stocked.known_mapping has).inRange reached.solid.1 still,
    reached.inRange⟩

/-- A deferred submission of a window of a window, whose buffer is given up while it is pending and
a mapping of it is left, beside a pushbuffer that belongs to no job. -/
def orphaning : List Operation :=
  [.job (.openClient "client" 0x51),
    .buffer (.allocate "commands" 4096 ⟨0⟩ false),
    .buffer (.map (some "view") "commands"),
    .buffer (.window "page" "commands" 0x100 0x200),
    .buffer (.window "line" "page" 0x1c0 0x100),
    .job (.createJob "job" "client" 1),
    .job (.append "job" "line" 8),
    .pushbuffer (.relocate (.inJob "job" 0) "line" 0x100 8),
    .job (.submit "client" "job"),
    .job (.release "job"),
    .buffer (.release "line"),
    .buffer (.release "page"),
    .buffer (.release "commands"),
    .buffer (.allocate "surface" 4096 ⟨0⟩ false),
    .buffer (.map none "surface"),
    .buffer (.window "tile" "surface" 0x800 0x20),
    .pushbuffer (.openAt "list" "tile" 16),
    .pushbuffer (.relocate (.named "list") "tile" 0x20 0)]

/-- The session after that. -/
def orphaned : Session :=
  (initial ⟨.automatic, .standard, ⟨.deferred, 1, 1⟩⟩).run orphaning

/-- The submission is pending without a buffer, and all that there is of the session is in range. -/
theorem orphans_in_range :
    orphaned.simulator.pending.length = 1 ∧ orphaned.simulator.liveCount = 1 ∧
      (∃ pushbuffer, orphaned.pushbuffers["list"]? = some pushbuffer ∧ pushbuffer.InRange ∧
        pushbuffer.buffer.InRange) ∧
      (∃ mapping, orphaned.mappings["view"]? = some mapping ∧
        mapping.InRange orphaned.simulator) ∧
      orphaned.simulator.InRange := by
  have plain : ∀ operation ∈ orphaning, operation.plain = true := by decide
  obtain ⟨buffers, pushbuffers, later⟩ :=
    run_in_range ⟨.automatic, .standard, ⟨.deferred, 1, 1⟩⟩ plain
  obtain ⟨mappings, device⟩ := later orphaned.simulator (refl_of Simulator.Reaches _)
  have listed : (orphaned.pushbuffers["list"]?).isSome = true := by decide +kernel
  have viewed : (orphaned.mappings["view"]?).isSome = true := by decide +kernel
  obtain ⟨pushbuffer, list⟩ := Option.isSome_iff_exists.mp listed
  obtain ⟨mapping, view⟩ := Option.isSome_iff_exists.mp viewed
  have has : orphaned.HasPushBuffer pushbuffer := .inl ⟨"list", list⟩
  exact ⟨by decide +kernel, by decide +kernel,
    ⟨pushbuffer, list, pushbuffers pushbuffer has, buffers _ (.inr ⟨pushbuffer, has, rfl⟩)⟩,
    ⟨mapping, view, mappings mapping (.inl ⟨"view", view⟩)⟩, device⟩

end Session

end HostChannel

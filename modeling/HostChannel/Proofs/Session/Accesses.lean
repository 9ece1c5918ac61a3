import HostChannel.Proofs.Memory
import HostChannel.Proofs.Session.Bounds
import HostChannel.Proofs.Session.SameViews

/-!
# Accesses through views

What becomes of a session when bytes or words are read or written through a mapping, and when a view
of a buffer is asked for. Reads and writes are told by the range that they are about: in the mapping
they reach the memory of its allocation at the place that is reckoned, and past its end they are
refused and nothing is different. A view is asked of the device where none is kept, and given unless
a failure is in store.
-/

namespace HostChannel

open HostChannel.Action (Moves)

/-- Bytes to write through a mapping. -/
structure MappingWrite where
  /-- The name of the mapping. -/
  mapping : String
  /-- Where in the mapping. -/
  offset : UInt64
  /-- The bytes. -/
  data : List UInt8

/-- A range to read through a mapping. -/
structure MappingRead where
  /-- The name of the mapping. -/
  mapping : String
  /-- Where in the mapping. -/
  offset : UInt64
  /-- Number of bytes. -/
  length : Nat
  /-- What is answered when these bytes are read. -/
  answer : List UInt8 → Answer

namespace MappingOperation

/-- What an operation writes, if it is a write. -/
def write? : MappingOperation → Option MappingWrite
  | .writeBytes mapping offset data => some ⟨mapping, offset, data⟩
  | .writeWord mapping offset word => some ⟨mapping, offset, Word.bytes word⟩
  | .writeWords mapping offset words => some ⟨mapping, offset, words.flatMap Word.bytes⟩
  | _ => none

/-- What an operation reads, if it is a read. -/
def read? : MappingOperation → Option MappingRead
  | .readBytes mapping offset count => some ⟨mapping, offset, count.toNat, .bytes⟩
  | .readWord mapping offset =>
    some ⟨mapping, offset, 4, fun bytes => .number ((Word.listOfBytes bytes).headD 0).toNat⟩
  | .readWords mapping offset count =>
    some ⟨mapping, offset, 4 * count, fun bytes => .words (Word.listOfBytes bytes)⟩
  | _ => none

/-- The bytes that the operation writes can be counted in 64 bits. -/
def sized (operation : MappingOperation) : Bool :=
  operation.write?.all fun write => write.data.length < UInt64.size

end MappingOperation

/-- The operation works on buffers of the device as it is and on mappings, or puts a failure of a
method other than releasing in store. -/
def Operation.ofViews : Operation → Bool
  | .buffer (.allocate _ _ _ pretending) => !pretending
  | .buffer _ => true
  | .mapping operation => operation.sized
  | .instrument (.arm method _) => method ≠ .release
  | _ => false

/-- It lets no buffer seem other than it is. -/
theorem Operation.plain_of_ofViews {operation : Operation} (views : operation.ofViews = true) :
    operation.plain = true := by
  unfold plain
  split
  · exact views
  · contradiction
  · rfl

/-- It releases no buffer past the host. -/
theorem Operation.orderly_of_ofViews {operation : Operation} (views : operation.ofViews = true) :
    operation.orderly = true := by
  unfold orderly
  split
  · contradiction
  · contradiction
  · simp [ofViews] at views
  · rfl

namespace Session

/-- The session with the simulated device in another state. -/
def withSimulator (session : Session) (simulator : Simulator) : Session :=
  { session with
    host := { session.host with device := { session.host.device with inner := simulator } } }

/-- What is made of the answer of an action on the device may as well be made behind it. -/
theorem onDevice_bind_pure {α β : Type} (action : Action (Instrumented Simulator) α)
    (view : α → β) :
    onDevice (action >>= fun value => pure (view value)) =
      onDevice action >>= fun value => pure (view value) := by
  funext session
  simp only [onDevice, onHost, Host.onDevice, Action.within_apply, Action.bind_apply]
  cases action session.host.device with
  | mk outcome after => cases outcome <;> rfl

end Session

/-- The bytes of a range of an allocation are replaced, and no others. -/
structure Simulator.Rewrites (first second : Simulator) (handle : Handle) (start : Nat)
    (data : List UInt8) : Prop where
  /-- The bytes of the range are those written. -/
  inside : ∀ index (within : index < data.length),
    (second.contents handle).byte (start + index) = data[index]
  /-- The allocation has no other byte changed. -/
  outside : ∀ position, position < start ∨ start + data.length ≤ position →
    (second.contents handle).byte position = (first.contents handle).byte position
  /-- Other allocations hold what they held. -/
  others : ∀ other, other ≠ handle → second.contents other = first.contents other
  /-- No buffer is made, released or moved. -/
  tenure : first.SameTenure second

/-- A write to a buffer that is there replaces the bytes of its range. -/
theorem Simulator.rewrites_writeBuffer {simulator : Simulator} {handle : Handle}
    (present : handle ∈ simulator.buffers) (start : Nat) (data : List UInt8) :
    simulator.Rewrites (simulator.writeBuffer handle start data) handle start data := by
  refine ⟨fun index within => ?_, fun position away => ?_, fun other different => ?_,
    writeBuffer_sameTenure simulator handle start data⟩
  · rw [contents_writeBuffer _ _ _ _ _ present, if_pos rfl, Memory.byte_write,
      if_pos (Nat.le_add_right _ _), Nat.add_sub_cancel_left, List.getD_eq_getElem?_getD,
      List.getElem?_eq_getElem within, Option.getD_some]
  · rw [contents_writeBuffer _ _ _ _ _ present, if_pos rfl, Memory.byte_write_of_outside away]
  · rw [contents_writeBuffer _ _ _ _ _ present, if_neg different]

/-- A plain device gives a live buffer's own memory for a view, unless a failure is in store. Either
way the call is recorded, and nothing is different inside. -/
theorem Instrumented.map_apply {device : Instrumented Simulator} (plain : device.Plain)
    {handle : Handle} {buffer : SimulatedBuffer}
    (lives : device.inner.live? handle = some buffer) :
    (device.fault? .map = none ∧ Device.map handle device =
        (.ok ⟨.buffer handle, buffer.memory.size⟩, device.record (.map handle))) ∨
      ∃ failure faults, device.fault? .map ≠ none ∧ Device.map handle device =
        (.error failure, { device.record (.map handle) with faults }) := by
  have recorded : (device.record (.map handle)).Plain :=
    ⟨plain.honest, plain.pretended, plain.whole⟩
  change (_ ∧ observe (.map handle) (mapOrShorten handle) device = _) ∨
    ∃ failure faults, _ ∧ observe (.map handle) (mapOrShorten handle) device = _
  have same : (device.record (.map handle)).fault? (Call.map handle).method =
      device.fault? .map := rfl
  simp only [observe, same]
  cases device.fault? .map with
  | some fault => exact .inr ⟨_, _, Option.some_ne_none _, rfl⟩
  | none =>
    refine .inl ⟨rfl, ?_⟩
    have found : Simulator.findBuffer handle device.inner = (.ok buffer, device.inner) := by
      rw [Simulator.findBuffer, lives]
    have run : (Device.map handle : Action Simulator Region) (device.record (.map handle)).inner =
        (.ok ⟨.buffer handle, buffer.memory.size⟩, device.inner) :=
      Action.bind_apply_of_ok found _
    rw [mapOrShorten_of_plain recorded]
    exact Action.within_run run

namespace MappingOperation

/-- A write finds its mapping and writes its bytes. -/
theorem eq_of_write? {operation : MappingOperation} {write : MappingWrite}
    (writes : operation.write? = some write) :
    Session.mappingOperation operation = (do
      let mapping ← Session.findMapping write.mapping
      Session.onDevice (mapping.writeBytes write.offset write.data)
      pure .nothing) := by
  cases operation with
  | writeBytes | writeWord | writeWords =>
    obtain rfl := Option.some.inj writes
    rfl
  | sharesMemory | readBytes | readWord | readWords | release => contradiction

/-- A read finds its mapping, gets memory and answers the bytes of its range. -/
theorem eq_of_read? {operation : MappingOperation} {read : MappingRead}
    (reads : operation.read? = some read) :
    Session.mappingOperation operation = (do
      let mapping ← Session.findMapping read.mapping
      let data ← Session.onDevice do
        Action.makeRoom read.length
        mapping.readBytes read.offset (UInt64.ofNat read.length)
      pure (read.answer data)) := by
  cases operation with
  | readBytes mapping offset count =>
    obtain rfl := Option.some.inj reads
    rw [UInt64.ofNat_toNat]
    rfl
  | readWord mapping offset =>
    obtain rfl := Option.some.inj reads
    have small : (4 : Nat) ≤ maxMemory := by decide
    simp only [Session.mappingOperation, Mapping.readWord, Mapping.fetchWords,
      Action.makeRoom_of_le small, Session.onDevice_bind_pure, bind_assoc, pure_bind]
  | readWords mapping offset count =>
    obtain rfl := Option.some.inj reads
    have fetched : ∀ mapping : Mapping,
        (mapping.readWords offset count : Action (Instrumented Simulator) (List Word)) =
          (do
            Action.makeRoom (4 * count)
            mapping.readBytes offset (UInt64.ofNat (4 * count))) >>=
              fun bytes => pure (Word.listOfBytes bytes) :=
      fun _ => (bind_assoc _ _ _).symm
    simp only [Session.mappingOperation, fetched, Session.onDevice_bind_pure]
    simp only [bind_assoc, pure_bind]
  | sharesMemory | writeBytes | writeWord | writeWords | release => contradiction

end MappingOperation

namespace Session

/-- What writes nothing through a mapping changes no view. -/
theorem mappingOperation_sameViews {operation : MappingOperation}
    (reads : operation.write? = none) : Moves SameViews (mappingOperation operation) := by
  have readBytes : ∀ (mapping : Mapping) (offset count : UInt64),
      Moves Instrumented.SameMemory
        (mapping.readBytes offset count : Action (Instrumented Simulator) (List UInt8)) :=
    fun _ _ _ => Moves.bind (Moves.check _) fun _ => Moves.read _
  have fetchWords : ∀ (mapping : Mapping) (offset : UInt64) (count : Nat),
      Moves Instrumented.SameMemory
        (mapping.fetchWords offset count : Action (Instrumented Simulator) (List Word)) :=
    fun mapping _ _ => Moves.bind (readBytes mapping _ _) fun _ => Moves.pure _
  cases operation with
  | writeBytes | writeWord | writeWords => contradiction
  | sharesMemory first second =>
    exact Moves.bind (find_moves _ _) fun _ => Moves.bind (find_moves _ _) fun _ => Moves.pure _
  | readBytes mapping offset count =>
    exact Moves.bind (find_moves _ _) fun mapping =>
      Moves.bind (onDevice_sameViews (Moves.bind (Moves.makeRoom _) fun _ =>
        readBytes mapping _ _)) fun _ => Moves.pure _
  | readWord mapping offset =>
    exact Moves.bind (find_moves _ _) fun mapping => Moves.bind (onDevice_sameViews (Moves.bind
      (fetchWords mapping _ _) fun _ => Moves.pure _)) fun _ => Moves.pure _
  | readWords mapping offset count =>
    exact Moves.bind (find_moves _ _) fun mapping =>
      Moves.bind (onDevice_sameViews (Moves.bind (Moves.makeRoom _) fun _ =>
        fetchWords mapping _ _)) fun _ => Moves.pure _
  | release mapping =>
    exact Moves.bind (find_moves _ _) fun _ => Moves.bind (Moves.update fun session =>
      ⟨refl_of Host.SameViews session.host, (refl_of SameViews session).buffers⟩)
        fun _ => Moves.pure _

/-- The device of the session is one that a new device has become, and the books, the stock and the
holders of the session agree with it. -/
structure WellKept (session : Session) : Prop where
  /-- Books and stock agree with a ledger. -/
  supplied : session.Supplied
  /-- The holders are the references. -/
  balanced : session.Balanced []
  /-- Requests have taken the device where it is. -/
  reached : ∃ settings, (Simulator.initial settings).Reaches session.simulator

/-- A new session is well kept. -/
theorem wellKept_initial (configuration : Configuration) : (initial configuration).WellKept :=
  ⟨supplied_initial configuration, balanced_initial configuration, configuration.simulator,
    refl_of Simulator.Reaches _⟩

namespace WellKept

variable {session : Session} (kept : session.WellKept)

include kept

/-- Operations on views keep it so. -/
theorem perform {operation : Operation} (views : operation.ofViews = true) :
    (Session.perform operation session).2.WellKept := by
  obtain ⟨settings, reached⟩ := kept.reached
  exact ⟨kept.supplied.perform (Operation.plain_of_ofViews views),
    (perform_balanced (Operation.orderly_of_ofViews views) session kept.balanced).1, settings,
    trans_of Simulator.Reaches reached (reaches_perform operation session)⟩

/-- The device shows buffers as they are. -/
theorem plain : session.device.Plain := by
  obtain ⟨ledger, stocked, -⟩ := kept.supplied
  exact stocked.books.host.plain

/-- The allocation of a named buffer has its holders and view kept. -/
theorem exists_sharing {name : String} {buffer : Buffer}
    (found : session.buffers[name]? = some buffer) :
    ∃ sharing, session.host.sharings[buffer.allocation.serial]? = some sharing := by
  refine Option.isSome_iff_exists.mp (Std.ExtTreeMap.mem_iff_isSome_getElem?.mp ?_)
  exact (kept.balanced.mem_sharings _).mpr
    (Multiset.mem_map_of_mem _ (mem_references_of_buffer found))

/-- What holders and views are kept of was allocated before. -/
theorem serial_lt {serial : Nat} {sharing : Sharing}
    (found : session.host.sharings[serial]? = some sharing) : serial < session.host.nextSerial := by
  have present := Std.ExtTreeMap.mem_iff_isSome_getElem?.mpr
    (Option.isSome_iff_exists.mpr ⟨sharing, found⟩)
  obtain ⟨allocation, referred, rfl⟩ :=
    Multiset.mem_map.mp ((kept.balanced.mem_sharings serial).mp present)
  exact kept.balanced.fresh allocation referred

/-- Named buffers of one handle are on one allocation. -/
theorem allocation_eq {first second : String} {one two : Buffer}
    (found : session.buffers[first]? = some one) (other : session.buffers[second]? = some two)
    (same : one.handle = two.handle) : one.allocation = two.allocation :=
  kept.balanced.handles _ (mem_references_of_buffer found) _ (mem_references_of_buffer other) same

/-- A named buffer is live, and has memory of the size of its allocation. -/
theorem live {name : String} {buffer : Buffer} (found : session.buffers[name]? = some buffer) :
    ∃ simulated, session.device.inner.live? buffer.handle = some simulated ∧
      simulated.memory.size = buffer.allocation.size.toNat := by
  obtain ⟨ledger, stocked, handed⟩ := kept.supplied
  obtain ⟨settings, reached⟩ := kept.reached
  have listed := List.mem_of_getElem? (stocked.books.buffers name buffer found).listed
  obtain ⟨simulated, lives⟩ := Option.isSome_iff_exists.mp
    (kept.balanced.isSome_live? (mem_references_of_buffer found))
  refine ⟨simulated, lives, ?_⟩
  rw [reached.solid.1.sized_of_live lives, (handed _ listed).size_of_live lives]

/-- Named buffers share an allocation exactly if they have one handle. -/
theorem sharesAllocation_iff {first second : String} {one two : Buffer}
    (found : session.buffers[first]? = some one) (other : session.buffers[second]? = some two) :
    one.sharesAllocation two = true ↔ one.handle = two.handle := by
  rw [Buffer.sharesAllocation, beq_iff_eq]
  constructor
  · intro same
    exact congrArg Allocation.handle (kept.balanced.serials _ (mem_references_of_buffer found) _
      (mem_references_of_buffer other) same)
  · intro same
    rw [kept.allocation_eq found other same]

/-- The mapping of a named buffer is its window on the memory of its allocation. -/
theorem mapping_eq {name : String} {buffer : Buffer}
    (found : session.buffers[name]? = some buffer) {mapping : Mapping}
    (mapped : buffer.mapping? session.host = some mapping) :
    ∃ region, region.id = .buffer buffer.handle ∧ mapping = buffer.mappingOf region := by
  obtain ⟨ledger, stocked, -⟩ := kept.supplied
  exact stocked.books.host.mapping? (stocked.books.buffers name buffer found) mapped

/-- A named mapping is a window on the memory of a buffer of the device, and positions in it do not
wrap around. -/
theorem named_mapping {name : String} {mapping : Mapping}
    (found : session.mappings[name]? = some mapping) :
    ∃ handle, mapping.region.id = .buffer handle ∧ handle ∈ session.simulator.buffers ∧
      ∀ (offset : UInt64) (length : Nat), offset.toNat + length ≤ mapping.length.toNat →
        (mapping.base + offset).toNat = mapping.base.toNat + offset.toNat := by
  obtain ⟨ledger, stocked, handed⟩ := kept.supplied
  obtain ⟨allocation, listed, shared, ends⟩ := stocked.mappings name mapping found
  refine ⟨allocation.handle, shared, (handed allocation listed).mem, fun offset length inside => ?_⟩
  have fits := allocation.size.toNat_lt
  rw [UInt64.toNat_add]
  omega

/-- What becomes of asking for a view of a named buffer: the view that is kept is given, or the
device is asked. It gives one, which is kept then, or has a failure in store. -/
theorem map_cases {name : String} {buffer : Buffer}
    (found : session.buffers[name]? = some buffer) :
    (∃ region, region.id = .buffer buffer.handle ∧
        session.host.region? buffer.allocation = some region ∧
        buffer.map session.host = (.ok (buffer.mappingOf region), session.host)) ∨
      session.host.region? buffer.allocation = none ∧
        ((∃ region, region.id = .buffer buffer.handle ∧
            buffer.map session.host = (.ok (buffer.mappingOf region),
              { session.host with
                device := session.device.record (.map buffer.handle) }.keepRegion
                  buffer.allocation region)) ∨
          ∃ failure faults, session.device.fault? .map ≠ none ∧
            buffer.map session.host = (.error failure,
              { session.host with
                device := { session.device.record (.map buffer.handle) with faults } })) := by
  cases viewed : session.host.region? buffer.allocation with
  | some region =>
    have mapped : buffer.mapping? session.host = some (buffer.mappingOf region) := by
      rw [Buffer.mapping?, viewed, Option.map_some]
    obtain ⟨_, shared, same⟩ := kept.mapping_eq found mapped
    refine .inl ⟨region, (congrArg (fun mapping => mapping.region.id) same).trans shared, rfl, ?_⟩
    rw [Buffer.map, Action.read_bind, mapped]
    rfl
  | none =>
    have unmapped : buffer.mapping? session.host = none := by
      rw [Buffer.mapping?, viewed, Option.map_none]
    obtain ⟨simulated, lives, size⟩ := kept.live found
    refine .inr ⟨rfl, ?_⟩
    rw [Buffer.map, Action.read_bind, unmapped]
    rcases Instrumented.map_apply kept.plain lives with
      ⟨-, asked⟩ | ⟨failure, faults, stored, asked⟩
    · have run : Host.onDevice (Device.map buffer.handle) session.host =
          (.ok ⟨.buffer buffer.handle, simulated.memory.size⟩,
            { session.host with device := session.device.record (.map buffer.handle) }) :=
        Host.onDevice_run asked
      refine .inl ⟨⟨.buffer buffer.handle, simulated.memory.size⟩, rfl, ?_⟩
      simp only [Action.bind_apply_of_ok run, size, Nat.lt_irrefl, if_false]
      rfl
    · have run : Host.onDevice (Device.map buffer.handle) session.host = (.error failure,
          { session.host with
            device := { session.device.record (.map buffer.handle) with faults } }) :=
        Host.onDevice_run asked
      exact .inr ⟨failure, faults, stored, Action.bind_apply_of_error run _⟩

end WellKept

/-- Asking for a view does on the host what it does there, and may name the mapping. -/
theorem perform_map {session : Session} {name : String} {buffer : Buffer}
    (found : session.buffers[name]? = some buffer) {outcome : Except Failure Mapping}
    {host : Host (Instrumented Simulator)} (run : buffer.map session.host = (outcome, host))
    (given : Option String) :
    ∃ mappings, perform (.buffer (.map given name)) session =
      (outcome.map Answer.mapping, { session with host, mappings }) := by
  have made : onHost buffer.map session = (outcome, { session with host }) := onHost_run run
  rw [perform, bufferOperation, findBuffer, Action.bind_apply_of_ok (find_of_some found)]
  cases outcome with
  | error failure => exact ⟨session.mappings, Action.bind_apply_of_error made _⟩
  | ok mapping =>
    rw [Action.bind_apply_of_ok made]
    cases given with
    | none => exact ⟨session.mappings, rfl⟩
    | some name => exact ⟨session.mappings.insert name mapping, rfl⟩

section Accesses

variable {session : Session} {operation : MappingOperation} {mapping : Mapping} {handle : Handle}

/-- A read is given up if no memory can hold what it asks for. Otherwise it is answered with the
bytes of its range, or refused. -/
theorem read_run {read : MappingRead} (reads : operation.read? = some read)
    (found : session.mappings[read.mapping]? = some mapping)
    (shared : mapping.region.id = .buffer handle) :
    if maxMemory < read.length then perform (.mapping operation) session = (.error .aborted, session)
    else if read.offset.toNat + read.length ≤ mapping.length.toNat then
      perform (.mapping operation) session =
        (.ok (read.answer ((session.simulator.contents handle).read
          (mapping.base + read.offset).toNat read.length)), session)
    else ∃ cause, perform (.mapping operation) session = (.error (.refused cause), session) := by
  rw [perform, operation.eq_of_read? reads, findMapping,
    Action.bind_apply_of_ok (find_of_some found)]
  split
  · rename_i overlong
    have run : (do
        Action.makeRoom read.length
        mapping.readBytes read.offset (UInt64.ofNat read.length)) session.device =
          (.error .aborted, session.device) :=
      Action.bind_apply_of_error (Action.makeRoom_of_lt overlong session.device) _
    exact Action.bind_apply_of_error (onDevice_run run) _
  rename_i short
  have room := Nat.not_lt.mp short
  have count : (UInt64.ofNat read.length).toNat = read.length := by
    have bound : maxMemory < UInt64.size := by decide
    exact UInt64.toNat_ofNat_of_lt' (Nat.lt_of_le_of_lt room bound)
  simp only [Action.makeRoom_of_le room, pure_bind]
  split
  · rename_i inside
    have run : mapping.readBytes read.offset (UInt64.ofNat read.length) session.device =
        (.ok ((session.simulator.contents handle).read (mapping.base + read.offset).toNat
          read.length), session.device) := by
      rw [Mapping.readBytes_of_inside (by rwa [count]), count, shared]
      rfl
    rw [Action.bind_apply_of_ok (onDevice_run run)]
    rfl
  · rename_i outside
    rw [← count] at outside
    obtain ⟨cause, run⟩ := Mapping.readBytes_of_outside outside session.device
    exact ⟨cause, Action.bind_apply_of_error (onDevice_run run) _⟩

/-- A write replaces the bytes of its range, or is refused. -/
theorem write_run {write : MappingWrite} (views : (Operation.mapping operation).ofViews = true)
    (writes : operation.write? = some write)
    (found : session.mappings[write.mapping]? = some mapping)
    (shared : mapping.region.id = .buffer handle) :
    if write.offset.toNat + write.data.length ≤ mapping.length.toNat then
      perform (.mapping operation) session =
        (.ok .nothing, session.withSimulator (session.simulator.writeBuffer handle
          (mapping.base + write.offset).toNat write.data))
    else ∃ cause, perform (.mapping operation) session = (.error (.refused cause), session) := by
  have count : (UInt64.ofNat write.data.length).toNat = write.data.length := by
    have sized : operation.sized = true := views
    rw [MappingOperation.sized, writes, Option.all_some, decide_eq_true_iff] at sized
    exact UInt64.toNat_ofNat_of_lt' sized
  rw [perform, operation.eq_of_write? writes, findMapping,
    Action.bind_apply_of_ok (find_of_some found)]
  split
  · rename_i inside
    have run : mapping.writeBytes write.offset write.data session.device =
        (.ok (), { session.device with
          inner := session.simulator.writeBuffer handle (mapping.base + write.offset).toNat
            write.data }) := by
      rw [Mapping.writeBytes_of_inside (by rwa [count]), shared]
      rfl
    rw [Action.bind_apply_of_ok (onDevice_run run)]
    rfl
  · rename_i outside
    rw [← count] at outside
    obtain ⟨cause, run⟩ := Mapping.writeBytes_of_outside outside session.device
    exact ⟨cause, Action.bind_apply_of_error (onDevice_run run) _⟩

end Accesses

end Session

end HostChannel

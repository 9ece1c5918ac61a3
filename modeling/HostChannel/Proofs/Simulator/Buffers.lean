import HostChannel.Simulator.Buffers

/-!
# Laws of the buffers of the simulated device

What a change of one buffer does to each of them. Writing to a buffer changes the bytes
written and nothing else: which buffers are live, where they are and how long they are stays
as it is.
-/

namespace HostChannel.Simulator

/-- Changing a buffer changes the buffer of that handle only. -/
theorem buffers_changeBuffer (simulator : Simulator) (handle other : Handle)
    (change : SimulatedBuffer → SimulatedBuffer) :
    (simulator.changeBuffer handle change).buffers[other]? =
      simulator.buffers[other]?.map fun buffer =>
        if other = handle then change buffer else buffer := by
  simp only [changeBuffer, Std.ExtTreeMap.getElem?_modify, Std.LawfulEqCmp.compare_eq_iff_eq]
  by_cases same : handle = other
  · simp [same]
  · simp [same, Ne.symm same]

/-- The contents of a buffer, live or not; those of no buffer are empty. -/
def contents (simulator : Simulator) (handle : Handle) : Memory :=
  (simulator.buffers[handle]?.map SimulatedBuffer.memory).getD (.zeroed 0)

/-- Writing to a buffer writes to the contents of that handle only, if there is such a buffer. -/
theorem contents_writeBuffer (simulator : Simulator) (handle other : Handle) (position : Nat)
    (data : List UInt8) (present : handle ∈ simulator.buffers) :
    (simulator.writeBuffer handle position data).contents other =
      if other = handle then (simulator.contents other).write position data
      else simulator.contents other := by
  obtain ⟨buffer, found⟩ := Option.isSome_iff_exists.mp
    (Std.ExtTreeMap.mem_iff_isSome_getElem?.mp present)
  simp only [contents, writeBuffer, buffers_changeBuffer]
  by_cases same : other = handle
  · subst same
    simp [found]
  · simp [same]

/-- Writing to a buffer leaves the live buffers as they are, but for their contents. -/
theorem live?_writeBuffer (simulator : Simulator) (handle other : Handle) (position : Nat)
    (data : List UInt8) :
    (simulator.writeBuffer handle position data).live? other =
      (simulator.live? other).map fun buffer =>
        if other = handle then { buffer with memory := buffer.memory.write position data }
        else buffer := by
  simp only [live?, writeBuffer, buffers_changeBuffer]
  cases simulator.buffers[other]? with
  | none => rfl
  | some buffer =>
    by_cases same : other = handle
    · by_cases lives : buffer.live <;> simp [same, lives, Option.filter]
    · by_cases lives : buffer.live <;> simp [same, lives, Option.filter]

/-- Writing to a buffer moves no buffer. -/
@[simp] theorem address?_writeBuffer (simulator : Simulator) (handle other : Handle)
    (position : Nat) (data : List UInt8) :
    (simulator.writeBuffer handle position data).address? other = simulator.address? other := by
  simp only [address?, live?_writeBuffer]
  cases simulator.live? other with
  | none => rfl
  | some buffer => by_cases same : other = handle <;> simp [same]

/-- Writing to a buffer neither makes nor loses one. -/
@[simp] theorem mem_buffers_writeBuffer (simulator : Simulator) (handle other : Handle)
    (position : Nat) (data : List UInt8) :
    other ∈ (simulator.writeBuffer handle position data).buffers ↔ other ∈ simulator.buffers :=
  Std.ExtTreeMap.mem_modify

/-- The simulated device with a new buffer of zeros, and addresses taken up to the next buffer's. -/
def withBuffer (simulator : Simulator) (size nextAddress : UInt64) : Simulator :=
  { simulator with
    nextHandle := simulator.nextHandle + 1
    nextAddress
    buffers := simulator.buffers.insert simulator.nextHandle
      ⟨simulator.nextAddress, size, .zeroed size.toNat, true⟩
    statistics := { simulator.statistics with allocations := simulator.statistics.allocations + 1 } }

/-- Bytes of the address space that a buffer of a size takes up: its size, rounded up. -/
def span (size : UInt64) : Nat :=
  (size.toNat + (alignment - 1)) / alignment * alignment

/-- Rounding up takes nothing away. -/
theorem size_le_span (size : UInt64) : size.toNat ≤ span size := by
  simp only [span, alignment]
  omega

/-- Buffers take up whole blocks. -/
theorem span_mod_alignment (size : UInt64) : span size % alignment = 0 :=
  Nat.mul_mod_left _ _

/-- There are addresses left for a buffer of a size. -/
def HasRoom (simulator : Simulator) (size : UInt64) : Prop :=
  simulator.nextAddress.toNat + span size < UInt64.size

instance (simulator : Simulator) (size : UInt64) : Decidable (simulator.HasRoom size) :=
  inferInstanceAs (Decidable (simulator.nextAddress.toNat + span size < UInt64.size))

/-- The address behind the next buffer, if that is of a size. -/
def addressAfter (simulator : Simulator) (size : UInt64) : UInt64 :=
  UInt64.ofNat (simulator.nextAddress.toNat + span size)

/-- Where there is room, it is the next address and what the buffer takes up. -/
theorem toNat_addressAfter {simulator : Simulator} {size : UInt64}
    (room : simulator.HasRoom size) :
    (simulator.addressAfter size).toNat = simulator.nextAddress.toNat + span size := by
  rw [addressAfter, UInt64.toNat_ofNat']
  exact Nat.mod_eq_of_lt room

/-- An address behind a buffer is found exactly where there is room. -/
theorem addressBehind?_eq (simulator : Simulator) (size : UInt64) :
    addressBehind? simulator.nextAddress size =
      if simulator.HasRoom size then some (simulator.addressAfter size) else none :=
  rfl

/-- Where there is no room, an allocation is refused and changes nothing. -/
theorem allocate_of_full {simulator : Simulator} {size : UInt64}
    (full : ¬ simulator.HasRoom size) :
    allocate size simulator =
      (.error (.refused (.allocationFailed size "dummy address space exhausted")), simulator) := by
  simp only [allocate, addressBehind?_eq, if_neg full]

/-- At the last handle an allocation is given up and changes nothing. -/
theorem allocate_of_lastHandle {simulator : Simulator} {size : UInt64}
    (room : simulator.HasRoom size) (last : simulator.nextHandle = lastHandle) :
    allocate size simulator = (.error .aborted, simulator) := by
  simp only [allocate, addressBehind?_eq, if_pos room, if_pos last]

/-- The simulated device with the next handle used up, and the addresses of a buffer of a size. -/
def skipped (simulator : Simulator) (size : UInt64) : Simulator :=
  { simulator with
    nextHandle := simulator.nextHandle + 1
    nextAddress := simulator.addressAfter size }

/-- A buffer that is too long for memory is given up after its handle and its addresses are used
up. -/
theorem allocate_of_overlong {simulator : Simulator} {size : UInt64}
    (room : simulator.HasRoom size) (more : simulator.nextHandle ≠ lastHandle)
    (overlong : maxMemory < size.toNat) :
    allocate size simulator = (.error .aborted, simulator.skipped size) := by
  simp only [allocate, addressBehind?_eq, if_pos room, if_neg more, if_pos overlong, skipped]

/-- Any other gets the next handle. -/
theorem allocate_of_room {simulator : Simulator} {size : UInt64}
    (room : simulator.HasRoom size) (more : simulator.nextHandle ≠ lastHandle)
    (short : size.toNat ≤ maxMemory) :
    allocate size simulator =
      (.ok simulator.nextHandle, simulator.withBuffer size (simulator.addressAfter size)) := by
  simp only [allocate, addressBehind?_eq, if_pos room, if_neg more, if_neg (Nat.not_lt.mpr short)]
  rfl

/-- Before the last handle there is another one. -/
theorem toNat_nextHandle_succ {simulator : Simulator} (more : simulator.nextHandle ≠ lastHandle) :
    (simulator.nextHandle + 1).toNat = simulator.nextHandle.toNat + 1 := by
  have bound := simulator.nextHandle.toNat_lt
  have different : simulator.nextHandle.toNat ≠ 0xffffffff :=
    fun same => more (UInt32.toNat.inj same)
  rw [UInt32.toNat_add, UInt32.toNat_one]
  omega

/-- An allocation that fails takes at most a handle and addresses; one that succeeds gives the next
handle to a new buffer, and there is a handle after it. -/
theorem allocate_cases (size : UInt64) (simulator : Simulator) :
    (∃ failure nextHandle nextAddress, simulator.nextHandle ≤ nextHandle ∧
        allocate size simulator =
          (.error failure, { simulator with nextHandle, nextAddress })) ∨
      ∃ nextAddress, addressBehind? simulator.nextAddress size = some nextAddress ∧
        simulator.nextHandle < simulator.nextHandle + 1 ∧
        allocate size simulator =
          (.ok simulator.nextHandle, simulator.withBuffer size nextAddress) := by
  by_cases room : simulator.HasRoom size
  · by_cases last : simulator.nextHandle = lastHandle
    · exact .inl ⟨_, _, _, UInt32.le_refl _, allocate_of_lastHandle room last⟩
    · have more : simulator.nextHandle < simulator.nextHandle + 1 := by
        rw [UInt32.lt_iff_toNat_lt, toNat_nextHandle_succ last]
        exact Nat.lt_succ_self _
      by_cases short : size.toNat ≤ maxMemory
      · refine .inr ⟨_, ?_, more, allocate_of_room room last short⟩
        rw [addressBehind?_eq, if_pos room]
      · have overlong := Nat.lt_of_not_le short
        exact .inl ⟨_, _, _, UInt32.le_of_lt more, allocate_of_overlong room last overlong⟩
  · exact .inl ⟨_, _, _, UInt32.le_refl _, allocate_of_full room⟩

/-- The next buffer is live from then on, and the others are as they were. -/
theorem live?_withBuffer (simulator : Simulator) (size nextAddress : UInt64) (other : Handle) :
    (simulator.withBuffer size nextAddress).live? other =
      if other = simulator.nextHandle then
        some ⟨simulator.nextAddress, size, .zeroed size.toNat, true⟩
      else simulator.live? other := by
  simp only [live?, withBuffer, Std.ExtTreeMap.getElem?_insert, Std.LawfulEqCmp.compare_eq_iff_eq]
  by_cases same : other = simulator.nextHandle
  · simp [same, Option.filter]
  · simp [same, Ne.symm same]

/-- The simulated device with a buffer that is no longer live. -/
def withoutBuffer (simulator : Simulator) (handle : Handle) : Simulator :=
  (simulator.changeBuffer handle fun buffer => { buffer with live := false }).count
    fun statistics => { statistics with releases := statistics.releases + 1 }

/-- A live buffer is released, and nothing else happens. -/
theorem release_of_live {simulator : Simulator} {handle : Handle}
    (lives : (simulator.live? handle).isSome = true) :
    release handle simulator = (.ok (), simulator.withoutBuffer handle) := by
  obtain ⟨buffer, found⟩ := Option.isSome_iff_exists.mp lives
  have run : findBuffer handle simulator = (.ok buffer, simulator) := by
    simp only [findBuffer, found]
  exact Action.bind_apply_of_ok run _

/-- A handle without a live buffer is unknown. -/
theorem findBuffer_of_gone {simulator : Simulator} {handle : Handle}
    (gone : simulator.live? handle = none) :
    findBuffer handle simulator = (.error (.refused (.unknownHandle handle)), simulator) := by
  rw [findBuffer, gone]

/-- A buffer that is not live is not released again. -/
theorem release_of_gone {simulator : Simulator} {handle : Handle}
    (gone : simulator.live? handle = none) :
    release handle simulator = (.error (.refused (.unknownHandle handle)), simulator) :=
  Action.bind_apply_of_error (findBuffer_of_gone gone) _

/-- The released buffer is live no more, and the others are as they were. -/
theorem live?_withoutBuffer (simulator : Simulator) (handle other : Handle) :
    (simulator.withoutBuffer handle).live? other =
      if other = handle then none else simulator.live? other := by
  simp only [live?, withoutBuffer, count, buffers_changeBuffer]
  cases simulator.buffers[other]? with
  | none => simp
  | some buffer => by_cases same : other = handle <;> simp [same, Option.filter]

end HostChannel.Simulator

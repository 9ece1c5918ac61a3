import HostChannel.Proofs.Memory
import HostChannel.Proofs.Simulator.Acceptance
import HostChannel.Proofs.Simulator.Retention

/-!
# What patches do to memory

A patch changes the four bytes of its word and no other byte. So after all patches of a
submission, a byte that none of them touches is as before, and, where no two patches touch the
same byte, the word of each is the one that it writes. That word is the address asked for,
counted without wrapping around.
-/

namespace HostChannel

/-- The byte is one of those that the patch replaces. -/
def Patch.Touches (patch : Patch) (handle : Handle) (position : Nat) : Prop :=
  patch.source = handle ∧ patch.sourceOffset.toNat ≤ position ∧
    position < patch.sourceOffset.toNat + 4

/-- No byte is replaced by both patches. -/
def Patch.Apart (first second : Patch) : Prop :=
  first.source = second.source →
    first.sourceOffset.toNat + 4 ≤ second.sourceOffset.toNat ∨
      second.sourceOffset.toNat + 4 ≤ first.sourceOffset.toNat

instance : DecidableRel Patch.Apart := fun first second =>
  inferInstanceAs (Decidable (first.source = second.source →
    first.sourceOffset.toNat + 4 ≤ second.sourceOffset.toNat ∨
      second.sourceOffset.toNat + 4 ≤ first.sourceOffset.toNat))

namespace Simulator

/-- A patch that the device accepts is on a buffer that it has. -/
theorem Holds.present {simulator : Simulator} {handle : Handle} {offset length : Nat}
    (holds : simulator.Holds handle offset length) : handle ∈ simulator.buffers := by
  obtain ⟨buffer, live, -⟩ := holds
  obtain ⟨found, -⟩ := Option.filter_eq_some_iff.mp live
  exact Std.ExtTreeMap.mem_iff_isSome_getElem?.mpr (found ▸ rfl)

/-- A byte that a patch does not touch is as before. -/
theorem byte_patched {simulator : Simulator} {patch : Patch}
    (present : patch.source ∈ simulator.buffers) {handle : Handle} {position : Nat}
    (away : ¬ patch.Touches handle position) :
    ((simulator.patched patch).contents handle).byte position =
      (simulator.contents handle).byte position := by
  rw [patched, contents_writeBuffer _ _ _ _ _ present]
  by_cases same : handle = patch.source
  · rw [if_pos same]
    apply Memory.byte_write_of_outside
    rw [Word.length_bytes]
    rcases Nat.lt_or_ge position patch.sourceOffset.toNat with before | behind
    · exact .inl before
    · rcases Nat.lt_or_ge position (patch.sourceOffset.toNat + 4) with inside | past
      · exact absurd ⟨same.symm, behind, inside⟩ away
      · exact .inr past
  · rw [if_neg same]

/-- A byte that none of the patches touches is as before. -/
theorem byte_foldl_patched {patches : List Patch} {simulator : Simulator}
    (present : ∀ patch ∈ patches, patch.source ∈ simulator.buffers) {handle : Handle}
    {position : Nat} (away : ∀ patch ∈ patches, ¬ patch.Touches handle position) :
    ((patches.foldl patched simulator).contents handle).byte position =
      (simulator.contents handle).byte position := by
  induction patches generalizing simulator with
  | nil => rfl
  | cons patch rest ih =>
    obtain ⟨here, others⟩ := List.forall_mem_cons.mp present
    obtain ⟨first, later⟩ := List.forall_mem_cons.mp away
    have still : ∀ other ∈ rest, other.source ∈ (simulator.patched patch).buffers :=
      fun other member => (mem_buffers_writeBuffer _ _ _ _ _).mpr (others other member)
    rw [List.foldl_cons, ih still later, byte_patched here first]

/-- A word of which none of the patches touches a byte is as before. -/
theorem word_foldl_patched_of_away {patches : List Patch} {simulator : Simulator}
    (present : ∀ patch ∈ patches, patch.source ∈ simulator.buffers) {handle : Handle}
    {position : Nat} (away : ∀ patch ∈ patches, patch.source = handle →
      patch.sourceOffset.toNat + 4 ≤ position ∨ position + 4 ≤ patch.sourceOffset.toNat) :
    ((patches.foldl patched simulator).contents handle).word position =
      (simulator.contents handle).word position := by
  apply Memory.word_congr
  intro offset small
  apply byte_foldl_patched present
  rintro patch member ⟨same, behind, before⟩
  have ranges := away patch member same
  omega

/-- The word of a patch, where no other patch touches it. -/
theorem word_foldl_patched {patches : List Patch} {simulator : Simulator}
    (present : ∀ patch ∈ patches, patch.source ∈ simulator.buffers)
    (apart : patches.Pairwise Patch.Apart) {patch : Patch} (member : patch ∈ patches) :
    ((patches.foldl patched simulator).contents patch.source).word patch.sourceOffset.toNat =
      patchedWord ((simulator.address? patch.target).getD 0) patch := by
  induction patches generalizing simulator with
  | nil => exact absurd member List.not_mem_nil
  | cons head rest ih =>
    obtain ⟨here, others⟩ := List.forall_mem_cons.mp present
    obtain ⟨first, later⟩ := List.pairwise_cons.mp apart
    have still : ∀ other ∈ rest, other.source ∈ (simulator.patched head).buffers :=
      fun other listed => (mem_buffers_writeBuffer _ _ _ _ _).mpr (others other listed)
    rw [List.foldl_cons]
    rcases List.mem_cons.mp member with rfl | behind
    · have kept := @word_foldl_patched_of_away rest (simulator.patched patch) still patch.source
        patch.sourceOffset.toNat fun other listed same => (first other listed same.symm).symm
      rw [kept, patched, contents_writeBuffer _ _ _ _ _ here, if_pos rfl, Memory.word_write_bytes]
    · have held := ih still later behind
      rwa [patched, address?_writeBuffer] at held

/-- The word of a patch is the address asked for, shifted: nothing wraps around on a device whose
buffers end before the last address, and a shift counts modulo the number of bits of an address. -/
theorem patchedWord_eq_mod {simulator : Simulator} (addressed : simulator.Addressed) {patch : Patch}
    (holds : simulator.Holds patch.target patch.targetOffset.toNat 0) :
    ∃ address, simulator.address? patch.target = some address ∧
      patchedWord address patch =
        UInt32.ofNat ((address.toNat + patch.targetOffset.toNat) >>> (patch.shift.toNat % 64)) := by
  obtain ⟨buffer, live, inside⟩ := holds
  have found : simulator.buffers[patch.target]? = some buffer := by
    obtain ⟨found, -⟩ := Option.filter_eq_some_iff.mp live
    exact found
  have fits := addressed patch.target buffer found
  refine ⟨buffer.address, by rw [address?, live, Option.map_some], ?_⟩
  apply UInt32.toNat.inj
  have wide : (buffer.address + patch.targetOffset.toUInt64).toNat =
      buffer.address.toNat + patch.targetOffset.toNat := by
    rw [UInt64.toNat_add, UInt32.toNat_toUInt64]
    simp only [UInt64.size] at fits
    omega
  rw [patchedWord, UInt64.toNat_toUInt32, UInt64.toNat_shiftRight, wide, UInt32.toNat_toUInt64,
    UInt32.toNat_ofNat']

/-- A shift by less than that number of bits is the shift that was asked for. -/
theorem patchedWord_eq {simulator : Simulator} (addressed : simulator.Addressed) {patch : Patch}
    (holds : simulator.Holds patch.target patch.targetOffset.toNat 0)
    (shifts : patch.shift.toNat < 64) :
    ∃ address, simulator.address? patch.target = some address ∧
      patchedWord address patch =
        UInt32.ofNat ((address.toNat + patch.targetOffset.toNat) >>> patch.shift.toNat) := by
  have made := patchedWord_eq_mod addressed holds
  rwa [Nat.mod_eq_of_lt shifts] at made

/-- What a submission that is accepted leaves in memory is what its patches make of it. -/
theorem contents_submitted (simulator : Simulator) (submission : Submission)
    (handle : Handle) :
    ((simulator.taken submission).dispatch submission).contents handle =
      (submission.patches.foldl patched simulator).contents handle := by
  have same : ((simulator.taken submission).dispatch submission).buffers =
      (submission.patches.foldl patched simulator).buffers := by
    rw [dispatch]
    split
    · rw [buffers_execute]
      rfl
    · rfl
  rw [contents, contents, same]

end Simulator

end HostChannel

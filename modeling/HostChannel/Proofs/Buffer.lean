import HostChannel.Buffer
import HostChannel.Proofs.Action

/-!
# Laws of windows and mappings

A window is made exactly if it ends within the allocation, whatever buffer it is put on, and then
positions in it are positions in the allocation that do not wrap around. A mapping is read and
written exactly in its range; what is out of range is refused and nothing is different.
-/

namespace HostChannel

namespace Buffer

variable {σ : Type} {buffer made : Buffer} {offset length : UInt64}

/-- The window ends within its allocation. -/
def Inside (buffer : Buffer) : Prop :=
  buffer.offset.toNat + buffer.size.toNat ≤ buffer.allocation.size.toNat

instance (buffer : Buffer) : Decidable buffer.Inside :=
  inferInstanceAs (Decidable (_ ≤ _))

/-- A position in a window is one in the allocation. -/
theorem Inside.toNat_add (window : buffer.Inside) (within : offset.toNat ≤ buffer.size.toNat) :
    (buffer.offset + offset).toNat = buffer.offset.toNat + offset.toNat := by
  have ends : buffer.offset.toNat + buffer.size.toNat ≤ _ := window
  have fits := buffer.allocation.size.toNat_lt
  rw [UInt64.toNat_add]
  omega

/-- What becomes of a window is told by where it would end, in one sum that does not wrap around. -/
theorem window?_eq_sum (buffer : Buffer) (offset length : UInt64) :
    buffer.window? offset length =
      if UInt64.size ≤ buffer.offset.toNat + offset.toNat + length.toNat then
        .error .offsetOverflow
      else if buffer.allocation.size.toNat <
          buffer.offset.toNat + offset.toNat + length.toNat then
        .error (.windowOutOfBounds offset length (buffer.allocation.size - buffer.offset))
      else .ok ⟨buffer.allocation, buffer.offset + offset, length, .window⟩ := by
  rcases Nat.lt_or_ge (buffer.offset.toNat + offset.toNat) UInt64.size with near | far
  · have start : (buffer.offset + offset).toNat = buffer.offset.toNat + offset.toNat :=
      (UInt64.toNat_add _ _).trans (Nat.mod_eq_of_lt near)
    have first : buffer.window? offset length = (do
        let stop ← checkedAdd (buffer.offset + offset) length
        if buffer.allocation.size < stop then
          .error (.windowOutOfBounds offset length (buffer.allocation.size - buffer.offset))
        else .ok ⟨buffer.allocation, buffer.offset + offset, length, .window⟩) := by
      rw [window?, checkedAdd_of_lt near]
      rfl
    rw [first, ← start]
    rcases Nat.lt_or_ge ((buffer.offset + offset).toNat + length.toNat) UInt64.size with
      within | past
    · have stop : (buffer.offset + offset + length).toNat =
          (buffer.offset + offset).toNat + length.toNat :=
        (UInt64.toNat_add _ _).trans (Nat.mod_eq_of_lt within)
      rw [checkedAdd_of_lt within, if_neg (Nat.not_le.mpr within), ← stop]
      rfl
    · rw [checkedAdd_of_le past, if_pos past]
      rfl
  · have past : UInt64.size ≤ buffer.offset.toNat + offset.toNat + length.toNat :=
      Nat.le_add_right_of_le far
    rw [window?, checkedAdd_of_le far, if_pos past]
    rfl

/-- A window is made exactly if it ends within the allocation, wherever the buffer itself ends. -/
theorem window?_eq_ok_iff :
    buffer.window? offset length = .ok made ↔
      buffer.offset.toNat + offset.toNat + length.toNat ≤ buffer.allocation.size.toNat ∧
        made = ⟨buffer.allocation, buffer.offset + offset, length, .window⟩ := by
  have fits := buffer.allocation.size.toNat_lt
  simp only [window?_eq_sum, UInt64.size]
  split
  · simp only [reduceCtorEq, false_iff]
    omega
  · split
    · simp only [reduceCtorEq, false_iff]
      omega
    · rename_i inside
      simp only [Except.ok.injEq, Nat.not_lt.mp inside, true_and]
      exact eq_comm

/-- A window on a buffer is within the allocation. -/
theorem inside_of_window? (given : buffer.window? offset length = .ok made) : made.Inside := by
  obtain ⟨inside, rfl⟩ := window?_eq_ok_iff.mp given
  have fits := buffer.allocation.size.toNat_lt
  simp only [Inside, UInt64.toNat_add]
  omega

/-- It is on the allocation of the buffer. -/
theorem allocation_of_window? (given : buffer.window? offset length = .ok made) :
    made.allocation = buffer.allocation := by
  obtain ⟨-, rfl⟩ := window?_eq_ok_iff.mp given
  rfl

/-- It starts as far behind the buffer as it says. -/
theorem toNat_offset_of_window? (given : buffer.window? offset length = .ok made) :
    made.offset.toNat = buffer.offset.toNat + offset.toNat := by
  obtain ⟨inside, rfl⟩ := window?_eq_ok_iff.mp given
  have fits := buffer.allocation.size.toNat_lt
  simp only [UInt64.toNat_add]
  omega

/-- Making a window adds a holder to the allocation, refusing it does nothing. -/
theorem window_apply (buffer : Buffer) (offset length : UInt64) (host : Host σ) :
    buffer.window offset length host =
      match buffer.window? offset length with
      | .ok made => (.ok made, host.retain buffer.allocation)
      | .error cause => (.error (.refused cause), host) := by
  rw [window, Action.bind_apply]
  cases buffer.window? offset length <;> rfl

/-- A window is made if it can be, and the host has then one more holder. -/
theorem window_eq_ok_iff {host after : Host σ} :
    buffer.window offset length host = (.ok made, after) ↔
      buffer.window? offset length = .ok made ∧ host.retain buffer.allocation = after := by
  rw [window_apply]
  cases buffer.window? offset length <;> simp

end Buffer

/-- A range that is not within the size is refused. -/
theorem checkRange_of_outside {offset length size : UInt64}
    (outside : ¬offset.toNat + length.toNat ≤ size.toNat) :
    ∃ cause, checkRange offset length size = .error cause := by
  cases checked : checkRange offset length size with
  | error cause => exact ⟨cause, rfl⟩
  | ok value => exact absurd ((checkRange_eq_ok_iff offset length size).mp checked) outside

namespace Mapping

variable {σ : Type} [Device σ] {mapping : Mapping} {offset count : UInt64} {data : List UInt8}

/-- A range of a mapping is read from the region, at the place where the mapping has it. -/
theorem readBytes_of_inside (inside : offset.toNat + count.toNat ≤ mapping.length.toNat)
    (device : σ) :
    mapping.readBytes offset count device =
      (.ok (Device.readRegion mapping.region.id (mapping.base + offset).toNat count.toNat device),
        device) := by
  rw [readBytes, (checkRange_eq_ok_iff _ _ _).mpr inside]
  rfl

/-- No range that reaches past the mapping is read. -/
theorem readBytes_of_outside (outside : ¬offset.toNat + count.toNat ≤ mapping.length.toNat)
    (device : σ) :
    ∃ cause, mapping.readBytes offset count device = (.error (.refused cause), device) := by
  obtain ⟨cause, refused⟩ := checkRange_of_outside outside
  exact ⟨cause, by rw [readBytes, refused]; rfl⟩

/-- Bytes are written to the region, at the place where the mapping has them. -/
theorem writeBytes_of_inside
    (inside : offset.toNat + (UInt64.ofNat data.length).toNat ≤ mapping.length.toNat)
    (device : σ) :
    mapping.writeBytes offset data device =
      (.ok (), Device.writeRegion mapping.region.id (mapping.base + offset).toNat data device) := by
  rw [writeBytes, (checkRange_eq_ok_iff _ _ _).mpr inside]
  rfl

/-- None are written past the mapping. -/
theorem writeBytes_of_outside
    (outside : ¬offset.toNat + (UInt64.ofNat data.length).toNat ≤ mapping.length.toNat)
    (device : σ) :
    ∃ cause, mapping.writeBytes offset data device = (.error (.refused cause), device) := by
  obtain ⟨cause, refused⟩ := checkRange_of_outside outside
  exact ⟨cause, by rw [writeBytes, refused]; rfl⟩

end Mapping

end HostChannel

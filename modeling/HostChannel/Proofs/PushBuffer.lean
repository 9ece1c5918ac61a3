import HostChannel.Instrumented
import HostChannel.Proofs.Buffer
import HostChannel.Proofs.Memory
import HostChannel.Proofs.Simulator.Buffers
import HostChannel.PushBuffer
import HostChannel.Simulator.Execution

/-!
# Pushbuffers in memory

Where the words of a pushbuffer are is said in three ways: from the start of its window, from
the start of its allocation, and through a mapping. For a fitted pushbuffer they agree and none
of them wraps around, so that pushing words writes them to the region of the mapping right behind
those pushed before, and reading the pushbuffer reads them there. For a sound one the region is
the allocation's memory on the simulated device.
-/

namespace HostChannel

/-- The instrumented device with bytes written to a buffer of the simulated one. -/
def Instrumented.writeBuffer (device : Instrumented Simulator) (handle : Handle) (position : Nat)
    (data : List UInt8) : Instrumented Simulator :=
  { device with inner := device.inner.writeBuffer handle position data }

namespace PushBuffer

/-- A pushbuffer with a window in its allocation, a mapping of that window, and room in the window
for all that it may hold. -/
structure Fitted (pushbuffer : PushBuffer) : Prop where
  /-- The window ends within the allocation. -/
  window : pushbuffer.buffer.Inside
  /-- The mapping starts where the window does. -/
  base : pushbuffer.mapping.base = pushbuffer.buffer.offset
  /-- The mapping is as long as the window. -/
  size : pushbuffer.mapping.length = pushbuffer.buffer.size
  /-- There is room for all words. -/
  room : pushbuffer.start.toNat + 4 * pushbuffer.capacity ≤ pushbuffer.buffer.size.toNat
  /-- No more words are pushed than there is room for. -/
  inside : pushbuffer.length ≤ pushbuffer.capacity

/-- A fitted pushbuffer with a mapping on the memory of its allocation. -/
structure Sound (pushbuffer : PushBuffer) : Prop extends Fitted pushbuffer where
  /-- The mapping is on the memory of the allocation. -/
  region : pushbuffer.mapping.region.id = .buffer pushbuffer.buffer.handle

/-- Where the first word is, in bytes from the start of the allocation. -/
def origin (pushbuffer : PushBuffer) : Nat :=
  pushbuffer.buffer.offset.toNat + pushbuffer.start.toNat

/-- A pushbuffer is opened at the start of a word of a mapped buffer, with room up to the end. -/
theorem ofMapping?_eq_ok {buffer : Buffer} {mapping : Option Mapping} {offset : UInt64}
    {opened : PushBuffer} (made : ofMapping? buffer mapping offset = .ok opened) :
    ∃ view, mapping = some view ∧ offset % wordBytes = 0 ∧ offset ≤ buffer.size ∧
      opened = ⟨buffer, view, offset, 0, ((buffer.size - offset) / wordBytes).toNat, []⟩ := by
  cases mapping with
  | none => contradiction
  | some view =>
    simp only [ofMapping?] at made
    split at made
    · contradiction
    · rename_i aligned
      split at made
      · contradiction
      · rename_i fits
        exact ⟨view, rfl, Decidable.not_not.mp aligned, UInt64.not_lt.mp fits,
          (Except.ok.inj made).symm⟩

/-- Nothing was pushed to a pushbuffer that has just been opened. -/
theorem ofMapping?_empty {buffer : Buffer} {mapping : Option Mapping} {offset : UInt64}
    {opened : PushBuffer} (made : ofMapping? buffer mapping offset = .ok opened) :
    opened.length = 0 ∧ opened.relocations = [] := by
  obtain ⟨_, -, -, -, rfl⟩ := ofMapping?_eq_ok made
  exact ⟨rfl, rfl⟩

/-- The words that there is room for behind a position in a window end within the window. -/
theorem room_of_le {offset size : UInt64} (fits : offset ≤ size) :
    offset.toNat + 4 * ((size - offset) / wordBytes).toNat ≤ size.toNat := by
  have start : offset.toNat ≤ size.toNat := UInt64.le_iff_toNat_le.mp fits
  have left : (size - offset).toNat = size.toNat - offset.toNat :=
    UInt64.toNat_sub_of_le _ _ fits
  simp only [UInt64.toNat_div, left, wordBytes, UInt64.reduceToNat]
  omega

/-- A pushbuffer that is opened on a window of an allocation is fitted. -/
theorem fitted_ofMapping? {buffer : Buffer} (window : buffer.Inside) {region : Region}
    {offset : UInt64} {opened : PushBuffer}
    (made : ofMapping? buffer (some (buffer.mappingOf region)) offset = .ok opened) :
    opened.Fitted ∧ opened.buffer = buffer ∧ opened.mapping = buffer.mappingOf region := by
  obtain ⟨_, same, -, fits, rfl⟩ := ofMapping?_eq_ok made
  obtain rfl := Option.some.inj same
  exact ⟨⟨window, rfl, rfl, room_of_le fits, Nat.zero_le _⟩, rfl, rfl⟩

/-- With the memory of the allocation for its mapping it is sound. -/
theorem sound_ofMapping? {buffer : Buffer} (window : buffer.Inside) {region : Region}
    (shared : region.id = .buffer buffer.handle) {offset : UInt64} {opened : PushBuffer}
    (made : ofMapping? buffer (some (buffer.mappingOf region)) offset = .ok opened) :
    opened.Sound ∧ opened.buffer = buffer := by
  obtain ⟨fitted, buffer, mapping⟩ := fitted_ofMapping? window made
  refine ⟨⟨fitted, ?_⟩, buffer⟩
  rw [buffer, mapping]
  exact shared

/-- The place of a word, and that of the next one, does not wrap around. -/
theorem Fitted.toNat_place {pushbuffer : PushBuffer} (fitted : pushbuffer.Fitted) {place : Nat}
    (within : place ≤ pushbuffer.capacity) :
    (pushbuffer.start + UInt64.ofNat place * wordBytes).toNat =
      pushbuffer.start.toNat + 4 * place := by
  have room := fitted.room
  have fits := pushbuffer.buffer.size.toNat_lt
  simp only [wordBytes, UInt64.toNat_add, UInt64.toNat_mul, UInt64.toNat_ofNat',
    UInt64.reduceToNat]
  omega

/-- Nor does it when it is counted from the start of the allocation. -/
theorem Fitted.toNat_fromOrigin {pushbuffer : PushBuffer} (fitted : pushbuffer.Fitted) {place : Nat}
    (within : place ≤ pushbuffer.capacity) {distance : UInt64}
    (located : distance.toNat = pushbuffer.start.toNat + 4 * place) :
    (pushbuffer.buffer.offset + distance).toNat = pushbuffer.origin + 4 * place := by
  have room := fitted.room
  have window : pushbuffer.buffer.offset.toNat + pushbuffer.buffer.size.toNat ≤ _ := fitted.window
  have fits := pushbuffer.buffer.allocation.size.toNat_lt
  rw [UInt64.toNat_add, located, origin]
  omega

/-- So it is with the place of the next word to push. -/
theorem Fitted.toNat_position {pushbuffer : PushBuffer} (fitted : pushbuffer.Fitted) :
    pushbuffer.position.toNat = pushbuffer.start.toNat + 4 * pushbuffer.length :=
  fitted.toNat_place fitted.inside

/-- The words that were pushed take four bytes each. -/
theorem Fitted.toNat_written {pushbuffer : PushBuffer} (fitted : pushbuffer.Fitted) :
    (UInt64.ofNat pushbuffer.length * wordBytes).toNat = 4 * pushbuffer.length := by
  have room := fitted.room
  have inside := fitted.inside
  have fits := pushbuffer.buffer.size.toNat_lt
  simp only [wordBytes, UInt64.toNat_mul, UInt64.toNat_ofNat', UInt64.reduceToNat]
  omega

/-- Reading a pushbuffer reads the words pushed from the region of its mapping. -/
theorem Fitted.words_run {σ : Type} [Device σ] {pushbuffer : PushBuffer}
    (fitted : pushbuffer.Fitted) (device : σ) :
    pushbuffer.words device =
      (.ok (Word.listOfBytes (Device.readRegion pushbuffer.mapping.region.id pushbuffer.origin
        (4 * pushbuffer.length) device)), device) := by
  have room := fitted.room
  have inside := fitted.inside
  have window : pushbuffer.buffer.offset.toNat + pushbuffer.buffer.size.toNat ≤ _ := fitted.window
  have fits := pushbuffer.buffer.allocation.size.toNat_lt
  have count : (UInt64.ofNat (4 * pushbuffer.length)).toNat = 4 * pushbuffer.length := by
    rw [UInt64.toNat_ofNat']
    omega
  have passed : pushbuffer.start.toNat + (UInt64.ofNat (4 * pushbuffer.length)).toNat ≤
      pushbuffer.mapping.length.toNat := by
    rw [count, fitted.size]
    omega
  have place : (pushbuffer.mapping.base + pushbuffer.start).toNat = pushbuffer.origin := by
    rw [fitted.base, UInt64.toNat_add, origin]
    omega
  rw [words, Mapping.fetchWords, Action.bind_apply_of_ok (Mapping.readBytes_of_inside passed device),
    place, count]
  rfl

/-- Pushing words writes them to the region of the mapping behind those pushed before, if there is
room for all of them, and does nothing else. -/
theorem Fitted.pushWords_run {σ : Type} [Device σ] {pushbuffer : PushBuffer}
    (fitted : pushbuffer.Fitted) (words : List Word) (device : σ) :
    pushbuffer.pushWords words device =
      if pushbuffer.length + words.length ≤ pushbuffer.capacity then
        (.ok { pushbuffer with length := pushbuffer.length + words.length },
          Device.writeRegion pushbuffer.mapping.region.id
            (pushbuffer.origin + 4 * pushbuffer.length) (words.flatMap Word.bytes) device)
      else (.error (.refused (.pushBufferOverflow pushbuffer.capacity)), device) := by
  have inside := fitted.inside
  split
  · rename_i enough
    have room := fitted.room
    have position := fitted.toNat_position
    have window : pushbuffer.buffer.offset.toNat + pushbuffer.buffer.size.toNat ≤ _ := fitted.window
    have fits := pushbuffer.buffer.allocation.size.toNat_lt
    have checked : pushbuffer.checkRoom words.length = .ok () := by
      rw [checkRoom, remaining, if_neg (by omega)]
    have count : (UInt64.ofNat (words.flatMap Word.bytes).length).toNat = 4 * words.length := by
      rw [Memory.length_flatMap_bytes, UInt64.toNat_ofNat']
      omega
    have passed : pushbuffer.position.toNat +
        (UInt64.ofNat (words.flatMap Word.bytes).length).toNat ≤
          pushbuffer.mapping.length.toNat := by
      rw [count, fitted.size, position]
      omega
    have place : (pushbuffer.mapping.base + pushbuffer.position).toNat =
        pushbuffer.origin + 4 * pushbuffer.length := by
      rw [fitted.base, UInt64.toNat_add, position, origin]
      omega
    have run := Mapping.writeBytes_of_inside passed device
    rw [place] at run
    rw [pushWords, checked, Action.bind_apply_of_ok (Action.check_ok () device), Mapping.writeWords,
      Action.bind_apply_of_ok run]
    rfl
  · rename_i short
    have refused : pushbuffer.checkRoom words.length =
        .error (.pushBufferOverflow pushbuffer.capacity) := by
      rw [checkRoom, remaining, if_pos (by omega)]
    simp only [pushWords, Action.bind_apply, refused]
    rfl

/-- A sound pushbuffer is read from the memory of the allocation. -/
theorem words_apply {pushbuffer : PushBuffer} (sound : pushbuffer.Sound)
    (device : Instrumented Simulator) :
    pushbuffer.words device =
      (.ok ((device.inner.contents pushbuffer.buffer.handle).readWords pushbuffer.origin
        pushbuffer.length), device) := by
  rw [sound.words_run, sound.region, ← Memory.listOfBytes_read]
  rfl

/-- What is pushed to it is written to the memory of the allocation. -/
theorem pushWords_apply {pushbuffer : PushBuffer} (sound : pushbuffer.Sound) (words : List Word)
    (device : Instrumented Simulator) :
    pushbuffer.pushWords words device =
      if pushbuffer.length + words.length ≤ pushbuffer.capacity then
        (.ok { pushbuffer with length := pushbuffer.length + words.length },
          device.writeBuffer pushbuffer.buffer.handle
            (pushbuffer.origin + 4 * pushbuffer.length) (words.flatMap Word.bytes))
      else (.error (.refused (.pushBufferOverflow pushbuffer.capacity)), device) := by
  rw [sound.pushWords_run, sound.region]
  rfl

end PushBuffer

end HostChannel

import HostChannel.Proofs.PushBuffer

/-!
# Transcripts of pushbuffers

What was pushed is a list of entries: words, and addresses to be put in when the job is
submitted. A pushbuffer transcribes such a list when it has as many words, the memory holds
each word and a placeholder for each address, and the relocations ask for the addresses at
their places. Each way of pushing extends what is transcribed by its entries, or does nothing.
-/

namespace HostChannel

/-- Something pushed. -/
inductive Entry where
  /-- A word. -/
  | word (word : Word)
  /-- The address of a position in a buffer, shifted to the right. -/
  | address (target : Buffer) (offset : UInt64) (shift : Word)
  deriving DecidableEq, Repr

namespace Entry

/-- The word in memory until the job is submitted. -/
def written : Entry → Word
  | .word value => value
  | .address .. => PushBuffer.placeholder

/-- The word in memory from then on, if the target of an address has one. -/
def resolved (simulator : Simulator) : Entry → Option Word
  | .word value => some value
  | .address target offset shift =>
    (simulator.address? target.handle).map fun address =>
      UInt32.ofNat ((address.toNat + target.offset.toNat + offset.toNat) >>> shift.toNat)

/-- A position in the target's allocation can be said. -/
def Sound : Entry → Prop
  | .word _ => True
  | .address target offset _ => target.offset.toNat + offset.toNat < UInt64.size

/-- An address is shifted by less than its number of bits. -/
def Shifts : Entry → Prop
  | .word _ => True
  | .address _ _ shift => shift.toNat < 64

instance (entry : Entry) : Decidable entry.Shifts :=
  match entry with
  | .word _ => inferInstanceAs (Decidable True)
  | .address _ _ shift => inferInstanceAs (Decidable (shift.toNat < 64))

end Entry

/-- The relocations of entries that are pushed from an index on. -/
def recorded (start : UInt64) (index : Nat) : List Entry → List Relocation
  | [] => []
  | .word _ :: rest => recorded start (index + 1) rest
  | .address target offset shift :: rest =>
    ⟨start + UInt64.ofNat index * PushBuffer.wordBytes, target.handle, target.offset + offset,
      shift⟩ :: recorded start (index + 1) rest

/-- Entries that are pushed in two parts. -/
theorem recorded_append (start : UInt64) (index : Nat) (first second : List Entry) :
    recorded start index (first ++ second) =
      recorded start index first ++ recorded start (index + first.length) second := by
  induction first generalizing index with
  | nil => rfl
  | cons entry rest ih =>
    have further : index + (rest.length + 1) = index + 1 + rest.length := by omega
    cases entry <;> simp only [List.cons_append, recorded, ih, List.length_cons, further]

/-- Words ask for no relocation. -/
theorem recorded_words (start : UInt64) (index : Nat) (words : List Word) :
    recorded start index (words.map .word) = [] := by
  induction words generalizing index with
  | nil => rfl
  | cons word rest ih => exact ih (index + 1)

/-- A relocation is recorded for the address at an index. -/
theorem mem_recorded {start : UInt64} {index : Nat} {entries : List Entry}
    {relocation : Relocation} :
    relocation ∈ recorded start index entries ↔
      ∃ place target offset shift, entries[place]? = some (.address target offset shift) ∧
        relocation = ⟨start + UInt64.ofNat (index + place) * PushBuffer.wordBytes, target.handle,
          target.offset + offset, shift⟩ := by
  induction entries generalizing index with
  | nil => simp [recorded]
  | cons entry rest ih =>
    cases entry with
    | word word =>
      rw [recorded, ih]
      constructor
      · rintro ⟨place, target, offset, shift, found, rfl⟩
        refine ⟨place + 1, target, offset, shift, found, ?_⟩
        rw [Nat.add_assoc, Nat.add_comm 1 place]
      · rintro ⟨place, target, offset, shift, found, rfl⟩
        cases place with
        | zero => simp at found
        | succ place =>
          refine ⟨place, target, offset, shift, found, ?_⟩
          rw [Nat.add_assoc, Nat.add_comm 1 place]
    | address target offset shift =>
      rw [recorded, List.mem_cons, ih]
      constructor
      · rintro (rfl | ⟨place, target, offset, shift, found, rfl⟩)
        · exact ⟨0, target, offset, shift, rfl, rfl⟩
        · refine ⟨place + 1, target, offset, shift, found, ?_⟩
          rw [Nat.add_assoc, Nat.add_comm 1 place]
      · rintro ⟨place, other, distance, amount, found, rfl⟩
        cases place with
        | zero =>
          rw [List.getElem?_cons_zero, Option.some.injEq, Entry.address.injEq] at found
          obtain ⟨rfl, rfl, rfl⟩ := found
          exact .inl rfl
        | succ place =>
          refine .inr ⟨place, other, distance, amount, found, ?_⟩
          rw [Nat.add_assoc, Nat.add_comm 1 place]

namespace PushBuffer

/-- The pushbuffer after entries were pushed. -/
def pushed (pushbuffer : PushBuffer) (entries : List Entry) : PushBuffer :=
  { pushbuffer with
    length := pushbuffer.length + entries.length
    relocations := pushbuffer.relocations ++ recorded pushbuffer.start pushbuffer.length entries }

/-- The bytes of entries, as they stand in memory until the job is submitted. -/
def bytesWritten (entries : List Entry) : List UInt8 :=
  (entries.map Entry.written).flatMap Word.bytes

/-- Words that are pushed only make the pushbuffer longer. -/
theorem pushed_words (pushbuffer : PushBuffer) (words : List Word) :
    pushbuffer.pushed (words.map .word) =
      { pushbuffer with length := pushbuffer.length + words.length } := by
  rw [pushed, recorded_words, List.append_nil, List.length_map]

/-- They are written as they are. -/
theorem bytesWritten_words (words : List Word) :
    bytesWritten (words.map .word) = words.flatMap Word.bytes := by
  have same : words.map (Entry.written ∘ Entry.word) = words := List.map_id words
  rw [bytesWritten, List.map_map, same]

/-- The pushbuffer holds the entries. -/
structure Transcribes (simulator : Simulator) (pushbuffer : PushBuffer) (entries : List Entry) :
    Prop where
  /-- There are as many words as entries. -/
  length : pushbuffer.length = entries.length
  /-- The words are those of the entries. -/
  words : (simulator.contents pushbuffer.buffer.handle).readWords pushbuffer.origin
    pushbuffer.length = entries.map Entry.written
  /-- The relocations are those of the entries. -/
  relocations : pushbuffer.relocations = recorded pushbuffer.start 0 entries
  /-- The entries are sound. -/
  sound : ∀ entry ∈ entries, entry.Sound

/-- A way of pushing entries: they are written and recorded if there is room, and otherwise
nothing happens. -/
def Pushes (change : PushBuffer → Action (Instrumented Simulator) PushBuffer)
    (entries : List Entry) : Prop :=
  ∀ (pushbuffer : PushBuffer), pushbuffer.Sound → ∀ device,
    (∃ failure, change pushbuffer device = (.error failure, device)) ∨
      pushbuffer.length + entries.length ≤ pushbuffer.capacity ∧
        (∀ entry ∈ entries, entry.Sound) ∧
        change pushbuffer device = (.ok (pushbuffer.pushed entries),
          device.writeBuffer pushbuffer.buffer.handle (pushbuffer.origin + 4 * pushbuffer.length)
            (bytesWritten entries))

/-- Pushing words pushes each of them. -/
theorem pushes_words (words : List Word) :
    Pushes (fun pushbuffer => pushbuffer.pushWords words) (words.map .word) := by
  intro pushbuffer sound device
  have made := pushWords_apply sound words device
  rw [← pushed_words, ← bytesWritten_words] at made
  split at made
  · rename_i enough
    exact .inr ⟨by rwa [List.length_map], by simp [Entry.Sound], made⟩
  · exact .inl ⟨_, made⟩

/-- Relocating pushes an address behind what was pushed before, if there is room for it and the
target has the position; otherwise nothing happens. -/
theorem Fitted.relocate_run {σ : Type} [Device σ] {pushbuffer : PushBuffer}
    (fitted : pushbuffer.Fitted) (target : Buffer) (offset : UInt64) (shift : Word) (device : σ) :
    (pushbuffer.length + 1 ≤ pushbuffer.capacity ∧ offset ≤ target.size) ∧
        pushbuffer.relocate target offset shift device =
          (.ok (pushbuffer.pushed [.address target offset shift]),
            Device.writeRegion pushbuffer.mapping.region.id
              (pushbuffer.origin + 4 * pushbuffer.length)
              (bytesWritten [.address target offset shift]) device) ∨
      ¬ (pushbuffer.length + 1 ≤ pushbuffer.capacity ∧ offset ≤ target.size) ∧
        ∃ failure, pushbuffer.relocate target offset shift device = (.error failure, device) := by
  have made := fitted.pushWords_run [placeholder] device
  by_cases enough : pushbuffer.length + 1 ≤ pushbuffer.capacity
  · have room : pushbuffer.checkRoom 1 = .ok () := by
      rw [checkRoom, remaining, if_neg (by omega)]
    rw [List.length_singleton, if_pos enough] at made
    by_cases past : target.size < offset
    · refine .inr ⟨fun fits => UInt64.not_le.mpr past fits.2, ?_⟩
      simp only [relocate, Action.bind_apply, room, Action.check_ok, checkTarget, past, if_true]
      exact ⟨_, rfl⟩
    · refine .inl ⟨⟨enough, UInt64.not_lt.mp past⟩, ?_⟩
      simp only [relocate, Action.bind_apply, room, Action.check_ok, checkTarget, past, if_false,
        push, made, Action.pure_apply]
      rfl
  · have inside := fitted.inside
    have short : pushbuffer.checkRoom 1 = .error (.pushBufferOverflow pushbuffer.capacity) := by
      rw [checkRoom, remaining, if_pos (by omega)]
    refine .inr ⟨fun fits => enough fits.1, ?_⟩
    simp only [relocate, Action.bind_apply, short]
    exact ⟨_, rfl⟩

/-- A position that a target has can be said from the start of its allocation. -/
theorem sound_address {target : Buffer} (window : target.Inside) {offset : UInt64}
    (within : offset ≤ target.size) (shift : Word) : (Entry.address target offset shift).Sound := by
  have reaches : target.offset.toNat + target.size.toNat ≤ _ := window
  have fits := target.allocation.size.toNat_lt
  have inside := UInt64.le_iff_toNat_le.mp within
  simp only [Entry.Sound, UInt64.size]
  omega

/-- Relocating pushes an address, if the target has the position. -/
theorem pushes_address {target : Buffer} (window : target.Inside) (offset : UInt64)
    (shift : Word) :
    Pushes (fun pushbuffer => pushbuffer.relocate target offset shift)
      [.address target offset shift] := by
  intro pushbuffer sound device
  rcases sound.relocate_run target offset shift device with ⟨⟨enough, within⟩, run⟩ | ⟨-, refused⟩
  · refine .inr ⟨enough, ?_, ?_⟩
    · rw [List.forall_mem_singleton]
      exact sound_address window within shift
    · refine run.trans ?_
      rw [sound.region]
      rfl
  · exact .inl refused

/-- A pushbuffer stays sound as long as there is room. -/
theorem Sound.pushed {pushbuffer : PushBuffer} (sound : pushbuffer.Sound) {entries : List Entry}
    (enough : pushbuffer.length + entries.length ≤ pushbuffer.capacity) :
    (pushbuffer.pushed entries).Sound :=
  { sound with inside := enough }

/-- A pushbuffer that is changed by pushing is the one with the entries pushed, and sound. -/
theorem Pushes.changed {change : PushBuffer → Action (Instrumented Simulator) PushBuffer}
    {entries : List Entry} (pushes : Pushes change entries) {pushbuffer changed : PushBuffer}
    (sound : pushbuffer.Sound) {device after : Instrumented Simulator}
    (made : change pushbuffer device = (.ok changed, after)) :
    changed = pushbuffer.pushed entries ∧ changed.Sound := by
  rcases pushes pushbuffer sound device with ⟨failure, refused⟩ | ⟨enough, -, run⟩
  · rw [made] at refused
    simp at refused
  · obtain ⟨same, -⟩ := Prod.mk.inj (made.symm.trans run)
    obtain rfl := Except.ok.inj same
    exact ⟨rfl, sound.pushed enough⟩

/-- A pushbuffer to which nothing was pushed transcribes nothing. -/
theorem transcribes_nil (simulator : Simulator) {pushbuffer : PushBuffer}
    (length : pushbuffer.length = 0) (relocations : pushbuffer.relocations = []) :
    pushbuffer.Transcribes simulator [] := by
  refine ⟨length, ?_, relocations, fun entry none => absurd none List.not_mem_nil⟩
  rw [length]
  rfl

/-- A pushbuffer whose words stay as they are transcribes what it did. -/
theorem Transcribes.kept {first second : Simulator} {pushbuffer : PushBuffer}
    {entries : List Entry} (transcribes : pushbuffer.Transcribes first entries)
    (same : (second.contents pushbuffer.buffer.handle).readWords pushbuffer.origin
        pushbuffer.length =
      (first.contents pushbuffer.buffer.handle).readWords pushbuffer.origin pushbuffer.length) :
    pushbuffer.Transcribes second entries :=
  { transcribes with words := same.trans transcribes.words }

/-- Entries that are pushed are transcribed behind those before. -/
theorem Transcribes.pushed {simulator : Simulator} {pushbuffer : PushBuffer}
    {entries more : List Entry} (transcribes : pushbuffer.Transcribes simulator entries)
    (present : pushbuffer.buffer.handle ∈ simulator.buffers)
    (sound : ∀ entry ∈ more, entry.Sound) :
    (pushbuffer.pushed more).Transcribes
      (simulator.writeBuffer pushbuffer.buffer.handle
        (pushbuffer.origin + 4 * pushbuffer.length) (bytesWritten more))
      (entries ++ more) := by
  have length := transcribes.length
  have count : (more.map Entry.written).length = more.length := List.length_map _
  refine ⟨?_, ?_, ?_, ?_⟩
  · rw [PushBuffer.pushed, List.length_append, length]
  · have contents := simulator.contents_writeBuffer pushbuffer.buffer.handle
      pushbuffer.buffer.handle (pushbuffer.origin + 4 * pushbuffer.length) (bytesWritten more)
      present
    rw [if_pos rfl] at contents
    change (Simulator.contents _ pushbuffer.buffer.handle).readWords pushbuffer.origin
      (pushbuffer.length + more.length) = _
    rw [contents, bytesWritten, ← count, Memory.readWords_write_behind, transcribes.words,
      List.map_append]
  · rw [PushBuffer.pushed, transcribes.relocations, recorded_append, Nat.zero_add, length]
  · intro entry accepted
    rcases List.mem_append.mp accepted with earlier | later
    · exact transcribes.sound entry earlier
    · exact sound entry later

end PushBuffer

end HostChannel

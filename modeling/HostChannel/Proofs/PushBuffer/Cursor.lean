import HostChannel.Proofs.Job.Building
import HostChannel.Proofs.Simulator.Acceptance
import HostChannel.Proofs.Transcript

/-!
# Pushbuffers as cursors

A pushbuffer on a mapped view is a cursor over the words of its window. Whatever is pushed to it,
and whatever happens to the device in between, as long as nobody else writes the words pushed, it
reads as the words of the calls that succeeded, one behind the other, and its relocations are those
of the addresses among them. A call fails exactly when its words do not fit or its target does not
have the position, and then nothing is different; one that succeeds changes the bytes of its words
and no others (`pushbuffer_moves_as_cursor`).

What is asked of the device is that the memory it shares with the processor is memory
(`SharedMemory`); the simulated device has such memory, and so has an instrumented device around
one that has.
-/

namespace HostChannel

/-- Memory that a device shares with the processor. Accesses that stay within a region read and
write its contents, and writing changes nothing else. -/
structure SharedMemory (σ : Type) [Device σ] where
  /-- The device has memory for the region. -/
  Has : Region → σ → Prop
  /-- What the memory holds. -/
  contents : RegionId → σ → Memory
  /-- What is read is what is there. -/
  read : ∀ {region : Region} {device : σ} {position length : Nat}, Has region device →
    position + length ≤ region.size →
      Device.readRegion region.id position length device =
        (contents region.id device).read position length
  /-- What is written is there, and all else is as before. -/
  write : ∀ {region : Region} {device : σ} {position : Nat} {data : List UInt8},
    Has region device → position + data.length ≤ region.size → ∀ other,
      contents other (Device.writeRegion region.id position data device) =
        if other = region.id then (contents other device).write position data
        else contents other device
  /-- Writing leaves the memory there is. -/
  stays : ∀ {region other : Region} {device : σ} {position : Nat} {data : List UInt8},
    Has region device → Has other device →
      Has other (Device.writeRegion region.id position data device)

/-- The memory of the buffers of the simulated device, released or not. -/
def Simulator.sharedMemory : SharedMemory Simulator where
  Has region simulator := ∃ handle, region.id = .buffer handle ∧ handle ∈ simulator.buffers
  contents
    | .buffer handle, simulator => simulator.contents handle
    | .standalone _, _ => .zeroed 0
  read := by
    rintro ⟨_, _⟩ simulator position length ⟨handle, rfl, -⟩ -
    rfl
  write := by
    rintro ⟨_, _⟩ simulator position data ⟨handle, rfl, present⟩ - other
    cases other with
    | standalone serial => rfl
    | buffer name =>
      simp only [RegionId.buffer.injEq]
      exact simulator.contents_writeBuffer handle name position data present
  stays := by
    rintro ⟨_, _⟩ other simulator position data ⟨handle, rfl, -⟩ ⟨name, same, present⟩
    exact ⟨name, same, (simulator.mem_buffers_writeBuffer handle name position data).mpr present⟩

/-- The memory of a device and the pieces of memory that an instrumented device around it has made
itself. -/
def Instrumented.sharedMemory {σ : Type} [Device σ] (inner : SharedMemory σ) :
    SharedMemory (Instrumented σ) where
  Has region device :=
    match region.id with
    | .buffer _ => inner.Has region device.inner
    | .standalone serial => serial ∈ device.memories
  contents
    | .buffer handle, device => inner.contents (.buffer handle) device.inner
    | .standalone serial, device => device.memories[serial]?.getD (.zeroed 0)
  read := by
    rintro ⟨id, size⟩ device position length has within
    cases id with
    | buffer handle =>
      have held : inner.Has ⟨.buffer handle, size⟩ device.inner := has
      exact inner.read held within
    | standalone serial => rfl
  write := by
    rintro ⟨id, size⟩ device position data has within other
    cases id with
    | buffer handle =>
      have held : inner.Has ⟨.buffer handle, size⟩ device.inner := has
      cases other with
      | buffer name => exact inner.write held within (.buffer name)
      | standalone number => rfl
    | standalone serial =>
      cases other with
      | buffer name => rfl
      | standalone number =>
        obtain ⟨memory, found⟩ :=
          Option.isSome_iff_exists.mp (Std.ExtTreeMap.mem_iff_isSome_getElem?.mp has)
        change (device.memories.modify serial fun memory =>
          memory.write position data)[number]?.getD (.zeroed 0) = _
        simp only [Std.ExtTreeMap.getElem?_modify, Std.LawfulEqCmp.compare_eq_iff_eq,
          RegionId.standalone.injEq]
        by_cases same : number = serial
        · subst same
          simp only [if_true, found, Option.map_some, Option.getD_some]
        · simp only [if_neg same, if_neg (Ne.symm same)]
  stays := by
    rintro ⟨id, size⟩ ⟨other, length⟩ device position data has there
    cases id with
    | buffer handle =>
      have held : inner.Has ⟨.buffer handle, size⟩ device.inner := has
      cases other with
      | buffer name => exact inner.stays held there
      | standalone number => exact there
    | standalone serial =>
      cases other with
      | buffer name => exact there
      | standalone number => exact Std.ExtTreeMap.mem_modify.mpr there

/-- A way of pushing to a pushbuffer. -/
inductive Push where
  /-- A word is pushed. -/
  | word (word : Word)
  /-- The bits of a number are. -/
  | single (number : Single)
  /-- Words are pushed, all or none. -/
  | words (words : List Word)
  /-- The address of a position in a buffer is, to be put in later. -/
  | address (target : Buffer) (offset : UInt64) (shift : Word)
  deriving DecidableEq, Repr

namespace Push

/-- Makes the call. -/
def make {σ : Type} [Device σ] (push : Push) (pushbuffer : PushBuffer) : Action σ PushBuffer :=
  match push with
  | .word value => pushbuffer.push value
  | .single number => pushbuffer.pushSingle number
  | .words values => pushbuffer.pushWords values
  | .address target offset shift => pushbuffer.relocate target offset shift

/-- What is pushed if the call succeeds. -/
def entries : Push → List Entry
  | .word value => [.word value]
  | .single number => [.word number.bits]
  | .words values => values.map .word
  | .address target offset shift => [.address target offset shift]

/-- The target of an address ends within its allocation. -/
def Inside : Push → Prop
  | .address target _ _ => target.Inside
  | _ => True

/-- The target of an address has the position. -/
def Reaches : Push → Prop
  | .address target offset _ => offset.toNat ≤ target.size.toNat
  | _ => True

/-- There is room for what is pushed, and the target of an address has the position. -/
def Fits (push : Push) (pushbuffer : PushBuffer) : Prop :=
  pushbuffer.length + push.entries.length ≤ pushbuffer.capacity ∧ push.Reaches

/-- What is pushed can be said from the start of allocations. -/
theorem sound_entries {push : Push} (inside : push.Inside) (reaches : push.Reaches) :
    ∀ entry ∈ push.entries, entry.Sound := by
  cases push with
  | address target offset shift =>
    rw [entries, List.forall_mem_singleton]
    exact PushBuffer.sound_address inside (UInt64.le_iff_toNat_le.mpr reaches) shift
  | _ => simp [entries, Entry.Sound]

/-- The call writes its entries behind those pushed before and records them, if it fits; it fails
and does nothing, if not. -/
def Runs {σ : Type} [Device σ] (push : Push) (pushbuffer : PushBuffer) (device : σ) : Prop :=
  push.Fits pushbuffer ∧
      push.make pushbuffer device =
        (.ok (pushbuffer.pushed push.entries),
          Device.writeRegion pushbuffer.mapping.region.id
            (pushbuffer.origin + 4 * pushbuffer.length) (PushBuffer.bytesWritten push.entries)
            device) ∨
    ¬ push.Fits pushbuffer ∧ ∃ failure, push.make pushbuffer device = (.error failure, device)

section Runs

variable {σ : Type} [Device σ] {pushbuffer : PushBuffer}

/-- Pushing words does. -/
theorem runs_words (fitted : pushbuffer.Fitted) (values : List Word) (device : σ) :
    (Push.words values).Runs pushbuffer device := by
  have made := fitted.pushWords_run values device
  rw [← PushBuffer.pushed_words, ← PushBuffer.bytesWritten_words] at made
  simp only [Runs, Fits, Reaches, entries, make, List.length_map, and_true]
  split at made
  · rename_i enough
    exact .inl ⟨enough, made⟩
  · rename_i short
    exact .inr ⟨short, _, made⟩

/-- Every call does. -/
theorem runs (fitted : pushbuffer.Fitted) (push : Push) (device : σ) :
    push.Runs pushbuffer device := by
  cases push with
  | word value => exact runs_words fitted [value] device
  | single number => exact runs_words fitted [number.bits] device
  | words values => exact runs_words fitted values device
  | address target offset shift =>
    have run := fitted.relocate_run target offset shift device
    rwa [UInt64.le_iff_toNat_le] at run

end Runs

end Push

/-- Entries that are pushed in two parts are pushed as in one. -/
theorem PushBuffer.pushed_pushed (pushbuffer : PushBuffer) (first second : List Entry) :
    (pushbuffer.pushed first).pushed second = pushbuffer.pushed (first ++ second) := by
  simp only [pushed, recorded_append, List.length_append, List.append_assoc, Nat.add_assoc]

/-- The numbers of a relocation, in bytes. -/
def Relocation.numbers (relocation : Relocation) : Nat × Handle × Nat × Word :=
  (relocation.sourceOffset.toNat, relocation.target, relocation.targetOffset.toNat,
    relocation.shift)

/-- The numbers of the relocation that an entry asks for where it stands. -/
def Entry.numbers? (position : Nat) : Entry → Option (Nat × Handle × Nat × Word)
  | .word _ => none
  | .address target offset shift =>
    some (position, target.handle, target.offset.toNat + offset.toNat, shift)

/-- What is recorded of sound entries, in numbers: nothing wraps around. -/
theorem numbers_recorded {start : UInt64} {index : Nat} {entries : List Entry}
    (sound : ∀ entry ∈ entries, entry.Sound)
    (fits : start.toNat + 4 * (index + entries.length) < UInt64.size) :
    (recorded start index entries).map Relocation.numbers =
      (entries.zipIdx index).filterMap fun (entry, place) =>
        entry.numbers? (start.toNat + 4 * place) := by
  induction entries generalizing index with
  | nil => rfl
  | cons entry rest ih =>
    obtain ⟨here, later⟩ := List.forall_mem_cons.mp sound
    have further : start.toNat + 4 * (index + 1 + rest.length) < UInt64.size := by
      rw [List.length_cons] at fits
      omega
    rw [List.zipIdx_cons, List.filterMap_cons]
    cases entry with
    | word value => exact ih later further
    | address target offset shift =>
      have reach : target.offset.toNat + offset.toNat < UInt64.size := here
      have source : (start + UInt64.ofNat index * PushBuffer.wordBytes).toNat =
          start.toNat + 4 * index := by
        simp only [PushBuffer.wordBytes, UInt64.toNat_add, UInt64.toNat_mul, UInt64.toNat_ofNat',
          UInt64.reduceToNat, UInt64.size] at fits ⊢
        omega
      have aim : (target.offset + offset).toNat = target.offset.toNat + offset.toNat := by
        rw [UInt64.toNat_add]
        exact Nat.mod_eq_of_lt reach
      rw [recorded, List.map_cons, ih later further]
      simp only [Relocation.numbers, source, aim, Entry.numbers?]

namespace SharedMemory

variable {σ : Type} [Device σ]

/-- A buffer that the processor can reach: a window within its allocation, the whole of which has
memory that it shares with the device. -/
structure View (memory : SharedMemory σ) (host : Host σ) (buffer : Buffer) : Prop where
  /-- The window ends within the allocation. -/
  window : buffer.Inside
  /-- The allocation was mapped. -/
  mapped : ∃ region, host.region? buffer.allocation = some region ∧
    memory.Has region host.device ∧ buffer.allocation.size.toNat ≤ region.size

/-- A fitted pushbuffer whose allocation has memory. -/
structure Placed (memory : SharedMemory σ) (pushbuffer : PushBuffer) (device : σ) : Prop where
  /-- It is fitted. -/
  fitted : pushbuffer.Fitted
  /-- The device has the memory. -/
  has : memory.Has pushbuffer.mapping.region device
  /-- There is memory for all of the allocation. -/
  whole : pushbuffer.buffer.allocation.size.toNat ≤ pushbuffer.mapping.region.size

/-- What can become of a pushbuffer and a device, with the entries of the calls that succeed: calls
are made, and between them the device may change in any way that leaves the words pushed. -/
inductive Course (memory : SharedMemory σ) (start : PushBuffer × σ) :
    List Entry → PushBuffer → σ → Prop where
  /-- Nothing has happened. -/
  | none : Course memory start [] start.1 start.2
  /-- A call succeeds. -/
  | made {entries : List Entry} {pushbuffer changed : PushBuffer} {device after : σ} (push : Push) :
    Course memory start entries pushbuffer device → push.Inside →
      push.make pushbuffer device = (.ok changed, after) →
        Course memory start (entries ++ push.entries) changed after
  /-- A call fails. -/
  | failed {entries : List Entry} {pushbuffer : PushBuffer} {device after : σ} {failure : Failure}
    (push : Push) :
    Course memory start entries pushbuffer device → push.Inside →
      push.make pushbuffer device = (.error failure, after) →
        Course memory start entries pushbuffer after
  /-- Something else happens to the device. -/
  | beside {entries : List Entry} {pushbuffer : PushBuffer} {device after : σ} :
    Course memory start entries pushbuffer device →
      memory.Has pushbuffer.mapping.region after →
        (∀ position, pushbuffer.origin ≤ position →
          position < pushbuffer.origin + 4 * pushbuffer.length →
            (memory.contents pushbuffer.mapping.region.id after).byte position =
              (memory.contents pushbuffer.mapping.region.id device).byte position) →
          Course memory start entries pushbuffer after

/-- The pushbuffer holds the entries that were pushed since it was opened. -/
structure Transcribes (memory : SharedMemory σ) (opened : PushBuffer) (entries : List Entry)
    (pushbuffer : PushBuffer) (device : σ) : Prop where
  /-- It is placed. -/
  placed : memory.Placed pushbuffer device
  /-- The entries were pushed. -/
  pushed : pushbuffer = opened.pushed entries
  /-- Their words are in memory. -/
  words : (memory.contents pushbuffer.mapping.region.id device).readWords pushbuffer.origin
    pushbuffer.length = entries.map Entry.written
  /-- They are sound. -/
  sound : ∀ entry ∈ entries, entry.Sound

section Laws

variable {memory : SharedMemory σ} {pushbuffer : PushBuffer} {device : σ}

/-- The words that there is room for lie in the region. -/
theorem Placed.origin_le (placed : memory.Placed pushbuffer device) :
    pushbuffer.origin + 4 * pushbuffer.capacity ≤ pushbuffer.mapping.region.size := by
  have window : pushbuffer.buffer.offset.toNat + pushbuffer.buffer.size.toNat ≤ _ :=
    placed.fitted.window
  have room := placed.fitted.room
  have whole := placed.whole
  rw [PushBuffer.origin]
  omega

/-- The bytes of words that fit behind those pushed lie in the region. -/
theorem Placed.room_of_le (placed : memory.Placed pushbuffer device) {words : List Word}
    (enough : pushbuffer.length + words.length ≤ pushbuffer.capacity) :
    pushbuffer.origin + 4 * pushbuffer.length + (words.flatMap Word.bytes).length ≤
      pushbuffer.mapping.region.size := by
  have within := placed.origin_le
  rw [Memory.length_flatMap_bytes]
  omega

/-- A placed pushbuffer reads as the words in its region. -/
theorem Placed.words_apply (placed : memory.Placed pushbuffer device) :
    pushbuffer.words device =
      (.ok ((memory.contents pushbuffer.mapping.region.id device).readWords pushbuffer.origin
        pushbuffer.length), device) := by
  have within := placed.origin_le
  have inside := placed.fitted.inside
  rw [placed.fitted.words_run, memory.read placed.has (by omega), Memory.listOfBytes_read]

/-- A pushbuffer stays placed when words are pushed that fit. -/
theorem Placed.pushed (placed : memory.Placed pushbuffer device) {entries : List Entry}
    (enough : pushbuffer.length + entries.length ≤ pushbuffer.capacity) :
    memory.Placed (pushbuffer.pushed entries)
      (Device.writeRegion pushbuffer.mapping.region.id
        (pushbuffer.origin + 4 * pushbuffer.length) (PushBuffer.bytesWritten entries) device) :=
  ⟨{ placed.fitted with inside := enough }, memory.stays placed.has placed.has, placed.whole⟩

/-- What a successful call leaves of memory: its words are written, and nothing else is. -/
theorem Placed.contents_pushed (placed : memory.Placed pushbuffer device) {entries : List Entry}
    (enough : pushbuffer.length + entries.length ≤ pushbuffer.capacity) (id : RegionId) :
    memory.contents id (Device.writeRegion pushbuffer.mapping.region.id
        (pushbuffer.origin + 4 * pushbuffer.length) (PushBuffer.bytesWritten entries) device) =
      if id = pushbuffer.mapping.region.id then
        (memory.contents id device).write (pushbuffer.origin + 4 * pushbuffer.length)
          (PushBuffer.bytesWritten entries)
      else memory.contents id device :=
  memory.write placed.has (placed.room_of_le (by rwa [List.length_map])) id

variable {opened : PushBuffer} {entries : List Entry}

/-- A pushbuffer that was just opened holds nothing. -/
theorem transcribes_opened (placed : memory.Placed opened device) (empty : opened.length = 0) :
    memory.Transcribes opened [] opened device := by
  refine ⟨placed, ?_, ?_, fun entry none => absurd none List.not_mem_nil⟩
  · rw [PushBuffer.pushed, recorded, List.append_nil]
    rfl
  · rw [empty]
    rfl

/-- A call that fits adds its entries. -/
theorem Transcribes.made (transcribes : memory.Transcribes opened entries pushbuffer device)
    {push : Push} (inside : push.Inside) (fits : push.Fits pushbuffer) :
    memory.Transcribes opened (entries ++ push.entries) (pushbuffer.pushed push.entries)
      (Device.writeRegion pushbuffer.mapping.region.id
        (pushbuffer.origin + 4 * pushbuffer.length) (PushBuffer.bytesWritten push.entries)
        device) := by
  obtain ⟨placed, pushed, words, sound⟩ := transcribes
  obtain ⟨enough, reaches⟩ := fits
  have count : (push.entries.map Entry.written).length = push.entries.length := List.length_map _
  have contents := placed.contents_pushed enough pushbuffer.mapping.region.id
  rw [if_pos rfl] at contents
  refine ⟨placed.pushed enough, ?_, ?_, ?_⟩
  · rw [pushed, PushBuffer.pushed_pushed]
  · change (memory.contents pushbuffer.mapping.region.id _).readWords pushbuffer.origin
      (pushbuffer.length + push.entries.length) = _
    rw [contents, PushBuffer.bytesWritten, ← count, Memory.readWords_write_behind, words,
      List.map_append]
  · intro entry member
    rcases List.mem_append.mp member with earlier | later
    · exact sound entry earlier
    · exact Push.sound_entries inside reaches entry later

/-- Wherever its course takes it, a pushbuffer holds the entries of the calls that succeeded. -/
theorem Course.transcribes {device after : σ} {changed : PushBuffer}
    (start : memory.Transcribes opened [] opened device)
    (course : memory.Course (opened, device) entries changed after) :
    memory.Transcribes opened entries changed after := by
  induction course with
  | none => exact start
  | @made entries pushbuffer changed device after push _ inside run ih =>
    rcases push.runs ih.placed.fitted device with ⟨fits, success⟩ | ⟨-, failure, refused⟩
    · obtain ⟨same, rfl⟩ := Prod.mk.inj (run.symm.trans success)
      obtain rfl := Except.ok.inj same
      exact ih.made inside fits
    · rw [refused] at run
      simp at run
  | @failed entries pushbuffer device after failure push _ inside run ih =>
    rcases push.runs ih.placed.fitted device with ⟨fits, success⟩ | ⟨-, failure, refused⟩
    · rw [success] at run
      simp at run
    · obtain ⟨-, rfl⟩ := Prod.mk.inj (run.symm.trans refused)
      exact ih
  | @beside entries pushbuffer device after _ has same ih =>
    obtain ⟨placed, pushed, words, sound⟩ := ih
    refine ⟨⟨placed.fitted, has, placed.whole⟩, pushed, ?_, sound⟩
    rw [Memory.readWords_congr same, words]

/-- What is written away from the words pushed happens beside, also in the same buffer. -/
theorem Course.written {start : PushBuffer × σ}
    (course : memory.Course start entries pushbuffer device)
    (there : memory.Has pushbuffer.mapping.region device) (region : Region) (position : Nat)
    (data : List UInt8) (has : memory.Has region device)
    (within : position + data.length ≤ region.size)
    (away : pushbuffer.mapping.region.id = region.id → position + data.length ≤ pushbuffer.origin ∨
      pushbuffer.origin + 4 * pushbuffer.length ≤ position) :
    memory.Course start entries pushbuffer
      (Device.writeRegion region.id position data device) := by
  refine course.beside (memory.stays has there) fun place behind before => ?_
  rw [memory.write has within]
  split
  · rename_i same
    apply Memory.byte_write_of_outside
    have apart := away same
    omega
  · rfl

end Laws

/-- What a pushbuffer shows of the entries pushed since it was opened. -/
structure Shows (opened : PushBuffer) (entries : List Entry) (pushbuffer : PushBuffer)
    (device : σ) : Prop where
  /-- It has as many words as there are entries, in the place where it was opened. -/
  frame : pushbuffer =
    { opened with length := entries.length, relocations := pushbuffer.relocations }
  /-- It reads as their words, with placeholders for addresses. -/
  words : pushbuffer.words device = (.ok (entries.map Entry.written), device)
  /-- Its relocations are those of the addresses, each counted from where its word stands. -/
  relocations : pushbuffer.relocations.map Relocation.numbers =
    entries.zipIdx.filterMap fun (entry, place) =>
      entry.numbers? (opened.start.toNat + 4 * place)

/-- What a call does to a pushbuffer. -/
structure Answers (memory : SharedMemory σ) (push : Push) (pushbuffer : PushBuffer)
    (device : σ) : Prop where
  /-- It fails exactly when it does not fit. -/
  fails : (∃ failure after, push.make pushbuffer device = (.error failure, after)) ↔
    ¬ push.Fits pushbuffer
  /-- If it fails, nothing is different. -/
  kept : ∀ failure after, push.make pushbuffer device = (.error failure, after) → after = device
  /-- If it succeeds, the bytes of its words may be, and no others. -/
  bytes : ∀ changed after, push.make pushbuffer device = (.ok changed, after) →
    ∀ id position,
      (id = pushbuffer.mapping.region.id → position < pushbuffer.origin + 4 * pushbuffer.length ∨
        pushbuffer.origin + 4 * (pushbuffer.length + push.entries.length) ≤ position) →
        (memory.contents id after).byte position = (memory.contents id device).byte position

end SharedMemory

/-- Pushes words one by one. -/
def PushBuffer.pushEach {σ : Type} [Device σ] (pushbuffer : PushBuffer) (words : List Word) :
    Action σ PushBuffer :=
  words.foldlM (fun pushbuffer word => pushbuffer.push word) pushbuffer

namespace SharedMemory

variable {σ : Type} [Device σ] {memory : SharedMemory σ} {pushbuffer opened : PushBuffer}
  {device : σ} {entries : List Entry}

/-- A pushbuffer shows the entries that it holds. -/
theorem Transcribes.shows (transcribes : memory.Transcribes opened entries pushbuffer device)
    (empty : opened.length = 0) (unasked : opened.relocations = []) :
    Shows opened entries pushbuffer device := by
  obtain ⟨placed, rfl, words, sound⟩ := transcribes
  have length : (opened.pushed entries).length = entries.length := by
    rw [PushBuffer.pushed, empty, Nat.zero_add]
  refine ⟨?_, ?_, ?_⟩
  · rw [← length]
    rfl
  · rw [placed.words_apply, words]
  · have room : opened.start.toNat + 4 * opened.capacity ≤ opened.buffer.size.toNat :=
      placed.fitted.room
    have inside : opened.length + entries.length ≤ opened.capacity := placed.fitted.inside
    have fits := opened.buffer.size.toNat_lt
    rw [PushBuffer.pushed, unasked, List.nil_append, empty]
    apply numbers_recorded sound
    simp only [UInt64.size]
    omega

/-- Every call answers as it should. -/
theorem Placed.answers (placed : memory.Placed pushbuffer device) (push : Push) :
    memory.Answers push pushbuffer device := by
  rcases push.runs placed.fitted device with ⟨fits, run⟩ | ⟨unfit, failure, run⟩
  · refine ⟨⟨?_, fun unfit => absurd fits unfit⟩, ?_, ?_⟩
    · rintro ⟨failure, after, refused⟩
      rw [run] at refused
      simp at refused
    · intro failure after refused
      rw [run] at refused
      simp at refused
    · intro changed after made id position away
      obtain ⟨-, rfl⟩ := Prod.mk.inj (made.symm.trans run)
      rw [placed.contents_pushed fits.1]
      split
      · rename_i same
        apply Memory.byte_write_of_outside
        have beside := away same
        rw [PushBuffer.bytesWritten, Memory.length_flatMap_bytes, List.length_map]
        omega
      · rfl
  · refine ⟨⟨fun _ => unfit, fun _ => ⟨failure, device, run⟩⟩, ?_, ?_⟩
    · intro other after refused
      exact (Prod.mk.inj (refused.symm.trans run)).2
    · intro changed after made
      rw [run] at made
      simp at made

/-- Entries that are written in two parts leave the memory that they leave in one. -/
theorem Placed.contents_append (placed : memory.Placed pushbuffer device)
    {first second : List Entry}
    (enough : pushbuffer.length + first.length + second.length ≤ pushbuffer.capacity)
    (id : RegionId) :
    memory.contents id (Device.writeRegion pushbuffer.mapping.region.id
        (pushbuffer.origin + 4 * (pushbuffer.length + first.length))
        (PushBuffer.bytesWritten second)
        (Device.writeRegion pushbuffer.mapping.region.id
          (pushbuffer.origin + 4 * pushbuffer.length) (PushBuffer.bytesWritten first) device)) =
      memory.contents id (Device.writeRegion pushbuffer.mapping.region.id
        (pushbuffer.origin + 4 * pushbuffer.length)
        (PushBuffer.bytesWritten (first ++ second)) device) := by
  have room : pushbuffer.length + first.length ≤ pushbuffer.capacity := by omega
  have bytes : PushBuffer.bytesWritten (first ++ second) =
      PushBuffer.bytesWritten first ++ PushBuffer.bytesWritten second := by
    simp only [PushBuffer.bytesWritten, List.map_append, List.flatMap_append]
  have place : pushbuffer.origin + 4 * (pushbuffer.length + first.length) =
      pushbuffer.origin + 4 * pushbuffer.length + (PushBuffer.bytesWritten first).length := by
    rw [PushBuffer.bytesWritten, Memory.length_flatMap_bytes, List.length_map]
    omega
  refine ((placed.pushed room).contents_pushed enough id).trans ?_
  rw [placed.contents_pushed room,
    placed.contents_pushed (by rw [List.length_append]; omega), bytes, Memory.write_append, ← place]
  by_cases same : id = pushbuffer.mapping.region.id
  · rw [if_pos same, if_pos same]
    exact if_pos same
  · rw [if_neg same, if_neg same]
    exact if_neg same

/-- Words that fit are pushed one by one, and leave the memory that they leave at once. -/
theorem Placed.pushEach_run {words : List Word} (placed : memory.Placed pushbuffer device)
    (enough : pushbuffer.length + (words.map Entry.word).length ≤ pushbuffer.capacity) :
    ∃ after, pushbuffer.pushEach words device =
        (.ok (pushbuffer.pushed (words.map .word)), after) ∧
      ∀ id, memory.contents id after =
        memory.contents id (Device.writeRegion pushbuffer.mapping.region.id
          (pushbuffer.origin + 4 * pushbuffer.length)
          (PushBuffer.bytesWritten (words.map .word)) device) := by
  induction words generalizing pushbuffer device with
  | nil =>
    refine ⟨device, ?_, fun id => ?_⟩
    · rw [PushBuffer.pushed_words]
      rfl
    · rw [placed.contents_pushed enough]
      split <;> rfl
  | cons word rest ih =>
    rw [List.map_cons, List.length_cons] at enough
    have room : pushbuffer.length + [Entry.word word].length ≤ pushbuffer.capacity := by
      rw [List.length_singleton]
      omega
    have later : pushbuffer.length + [Entry.word word].length + (rest.map Entry.word).length ≤
        pushbuffer.capacity := by
      rw [List.length_singleton]
      omega
    obtain ⟨after, run, contents⟩ := ih (placed.pushed room) later
    refine ⟨after, ?_, fun id => (contents id).trans (placed.contents_append later id)⟩
    rcases (Push.word word).runs placed.fitted device with ⟨-, first⟩ | ⟨unfit, -⟩
    · rw [PushBuffer.pushEach, List.foldlM_cons]
      refine (Action.bind_apply_of_ok first _).trans (run.trans ?_)
      rw [PushBuffer.pushed_pushed]
      rfl
    · exact absurd ⟨room, trivial⟩ unfit

/-- Words that are pushed at once leave the pushbuffer and the memory that they leave one by one. -/
theorem Placed.pushEach_alike (placed : memory.Placed pushbuffer device) {words : List Word}
    {changed : PushBuffer} {after : σ}
    (made : pushbuffer.pushWords words device = (.ok changed, after)) :
    ∃ left, pushbuffer.pushEach words device = (.ok changed, left) ∧
      ∀ id, memory.contents id left = memory.contents id after := by
  rcases Push.runs_words placed.fitted words device with ⟨⟨enough, -⟩, run⟩ | ⟨-, failure, run⟩
  · obtain ⟨same, rfl⟩ := Prod.mk.inj (made.symm.trans run)
    obtain rfl := Except.ok.inj same
    exact placed.pushEach_run enough
  · simp [made, Push.make] at run

/-- A pushbuffer that is opened on a view is placed. -/
theorem View.placed {host after : Host σ} {buffer : Buffer} (view : memory.View host buffer)
    {offset : UInt64} (made : PushBuffer.openAt buffer offset host = (.ok opened, after)) :
    memory.Placed opened host.device := by
  obtain ⟨region, mapped, has, whole⟩ := view.mapped
  obtain ⟨⟨-, within⟩, rfl, -⟩ := (PushBuffer.openAt_eq_ok_iff mapped).mp made
  exact ⟨⟨view.window, rfl, rfl, by simp only; omega, Nat.zero_le _⟩, has, whole⟩

end SharedMemory

/-- A pushbuffer is a cursor. On a view that the processor can reach it is opened exactly at the
start of a word and at the end. Whatever is then pushed, with whatever success, and whatever happens
to the device in between, as long as nobody else changes the words pushed: it reads as the words of
the calls that succeeded, with placeholders for addresses; its relocations are those of the
addresses, each where its word stands; a call fails exactly when its words do not fit or the target
of its address ends before the position, and changes the bytes of its words at most, or nothing if
it fails; and pushing words at once leaves what pushing them one by one leaves. -/
theorem pushbuffer_moves_as_cursor {σ : Type} [Device σ] (memory : SharedMemory σ) {host : Host σ}
    {buffer : Buffer} (view : memory.View host buffer) (offset : UInt64) :
    ((∃ opened after, PushBuffer.openAt buffer offset host = (.ok opened, after)) ↔
        offset.toNat % 4 = 0 ∧ offset.toNat ≤ buffer.size.toNat) ∧
      ∀ opened after, PushBuffer.openAt buffer offset host = (.ok opened, after) →
        opened.buffer = buffer ∧ opened.start = offset ∧
          opened.capacity = (buffer.size.toNat - offset.toNat) / 4 ∧
          after.device = host.device ∧
          ∀ entries pushbuffer device,
            memory.Course (opened, after.device) entries pushbuffer device →
              SharedMemory.Shows opened entries pushbuffer device ∧
                (∀ push, memory.Answers push pushbuffer device) ∧
                ∀ words changed left,
                  pushbuffer.pushWords words device = (.ok changed, left) →
                    ∃ last, pushbuffer.pushEach words device = (.ok changed, last) ∧
                      ∀ id, memory.contents id last = memory.contents id left := by
  obtain ⟨region, mapped, -⟩ := view.mapped
  refine ⟨⟨?_, fun fits => ⟨_, _, (PushBuffer.openAt_eq_ok_iff mapped).mpr ⟨fits, rfl, rfl⟩⟩⟩, ?_⟩
  · rintro ⟨opened, after, made⟩
    exact ((PushBuffer.openAt_eq_ok_iff mapped).mp made).1
  · intro opened after made
    have placed := view.placed made
    obtain ⟨-, rfl, rfl⟩ := (PushBuffer.openAt_eq_ok_iff mapped).mp made
    refine ⟨rfl, rfl, rfl, rfl, fun entries pushbuffer device course => ?_⟩
    have transcribes := course.transcribes (SharedMemory.transcribes_opened placed rfl)
    exact ⟨transcribes.shows rfl rfl, transcribes.placed.answers,
      fun words changed left run => transcribes.placed.pushEach_alike run⟩

/-- A buffer of the simulated device, mapped, and a window on a window on it. -/
def unaligned : Action (Host Simulator) Buffer := do
  let owner ← Buffer.allocate 0x102 ⟨0⟩
  let _ ← owner.map
  let outer ← owner.window 1 0x40
  outer.window 2 29

/-- The device with the window, which starts and ends between words. -/
def unalignedHost : Host Simulator :=
  (unaligned (Host.ofDevice .standard (Simulator.initial .standard))).2

/-- The window. -/
def unalignedView : Buffer :=
  ⟨⟨0, 1, 0x102, ⟨0⟩⟩, 3, 29, .window⟩

/-- The pushbuffer that is opened in the window. -/
def unalignedOpened : PushBuffer :=
  ⟨unalignedView, unalignedView.mappingOf ⟨.buffer 1, 0x102⟩, 4, 0, 6, []⟩

/-- A pushbuffer on the window takes words and an address in the window itself, while words that do
not fit are refused and another part of the buffer is written. -/
theorem unaligned_cursor_moves :
    (unaligned (Host.ofDevice .standard (Simulator.initial .standard))).1 = .ok unalignedView ∧
      Simulator.sharedMemory.View unalignedHost unalignedView ∧
      ∃ opened after pushbuffer device,
        PushBuffer.openAt unalignedView 4 unalignedHost = (.ok opened, after) ∧
          opened.capacity = 6 ∧
          Simulator.sharedMemory.Course (opened, after.device)
            [.word 1, .word 2, .address unalignedView 5 2, .word 3] pushbuffer device ∧
          pushbuffer.words device = (.ok [1, 2, 0xdeadbeef, 3], device) ∧
          pushbuffer.relocations.map Relocation.numbers = [(12, 1, 8, 2)] ∧
          ∃ failure left, pushbuffer.pushWords [4, 5, 6] device = (.error failure, left) := by
  have view : Simulator.sharedMemory.View unalignedHost unalignedView :=
    ⟨by decide, ⟨.buffer 1, 0x102⟩, by decide +kernel, ⟨1, rfl, by decide +kernel⟩, by decide⟩
  have made : PushBuffer.openAt unalignedView 4 unalignedHost =
      (.ok unalignedOpened, unalignedHost.retain unalignedView.allocation) :=
    (PushBuffer.openAt_eq_ok_iff rfl).mpr ⟨by decide, rfl, rfl⟩
  have start : Simulator.sharedMemory.Course (unalignedOpened, unalignedHost.device) []
      unalignedOpened unalignedHost.device := .none
  have words := start.made (.words [1, 2]) trivial rfl
  have address := words.made (.address unalignedView 5 2) (by decide : unalignedView.Inside) rfl
  have refused := address.failed (.words [4, 5, 6, 7]) trivial rfl
  have elsewhere := refused.written ⟨1, rfl, by decide +kernel⟩ ⟨.buffer 1, 0x102⟩ 0x40 [0xff]
    ⟨1, rfl, by decide +kernel⟩ (by decide) fun _ => .inr (by decide)
  have last := elsewhere.made (.word 3) trivial rfl
  obtain ⟨-, cursor⟩ := pushbuffer_moves_as_cursor Simulator.sharedMemory view 4
  obtain ⟨-, -, capacity, -, course⟩ := cursor _ _ made
  obtain ⟨shows, answers, -⟩ := course _ _ _ last
  exact ⟨rfl, view, _, _, _, _, made, capacity, last, shows.words, shows.relocations,
    (answers (.words [4, 5, 6])).fails.mpr fun fits => absurd fits.1 (by decide)⟩

end HostChannel

import HostChannel.Buffer
import HostChannel.Single

/-!
# Pushbuffers

A pushbuffer writes command words one behind the other into a buffer that the processor
can reach. Where a word is to be the address of another buffer, it writes a placeholder
and records a relocation; a device replaces the placeholder when the words are submitted.
A push that does not fit writes nothing.
-/

namespace HostChannel

/-- A word that is to be replaced by an address. -/
structure Relocation where
  /-- Position of the word in the pushbuffer's buffer, in bytes. -/
  sourceOffset : UInt64
  /-- The allocation whose address is taken. -/
  target : Handle
  /-- Distance from the allocation's start, in bytes. -/
  targetOffset : UInt64
  /-- How far the address is shifted right. -/
  shift : Word
  deriving DecidableEq, Repr

/-- A place in a buffer to push words to. -/
structure PushBuffer where
  /-- The buffer. -/
  buffer : Buffer
  /-- The processor's view of the buffer. -/
  mapping : Mapping
  /-- Where the first word goes, in bytes from the buffer's start. -/
  start : UInt64
  /-- Number of words pushed. -/
  length : Nat
  /-- Number of words that there is room for. -/
  capacity : Nat
  /-- The relocations recorded, in order. -/
  relocations : List Relocation
  deriving DecidableEq, Repr

namespace PushBuffer

variable {σ : Type}

/-- The word that stands for an address until it is known. -/
def placeholder : Word := 0xdeadbeef
/-- Number of bytes of a word. -/
def wordBytes : UInt64 := 4

/-- A pushbuffer on a buffer that has a mapping, from a position on. -/
def ofMapping? (buffer : Buffer) (mapping : Option Mapping) (offset : UInt64) :
    Except Error PushBuffer :=
  match mapping with
  | none => .error (.notMapped buffer.handle)
  | some mapping =>
    if offset % wordBytes ≠ 0 then .error (.misalignedOffset offset wordBytes)
    else if buffer.size < offset then .error (.rangeOutOfBounds offset 0 buffer.size)
    else .ok ⟨buffer, mapping, offset, 0, ((buffer.size - offset) / wordBytes).toNat, []⟩

/-- Opens a pushbuffer, which is one more holder of the buffer's allocation. -/
def openAt (buffer : Buffer) (offset : UInt64) : Action (Host σ) PushBuffer := do
  let mapping ← Action.read buffer.mapping?
  let opened ← Action.check (ofMapping? buffer mapping offset)
  Action.update fun host => host.retain buffer.allocation
  pure opened

/-- Number of words that there is still room for. -/
def remaining (pushbuffer : PushBuffer) : Nat :=
  pushbuffer.capacity - pushbuffer.length

/-- Where the next word goes, in bytes from the buffer's start. -/
def position (pushbuffer : PushBuffer) : UInt64 :=
  pushbuffer.start + UInt64.ofNat pushbuffer.length * wordBytes

/-- Checks that there is room for a number of words. -/
def checkRoom (pushbuffer : PushBuffer) (count : Nat) : Except Error Unit :=
  if pushbuffer.remaining < count then .error (.pushBufferOverflow pushbuffer.capacity) else .ok ()

/-- Pushes words, all or none. -/
def pushWords [Device σ] (pushbuffer : PushBuffer) (words : List Word) : Action σ PushBuffer := do
  Action.check (pushbuffer.checkRoom words.length)
  pushbuffer.mapping.writeWords pushbuffer.position words
  pure { pushbuffer with length := pushbuffer.length + words.length }

/-- Pushes a word. -/
def push [Device σ] (pushbuffer : PushBuffer) (word : Word) : Action σ PushBuffer :=
  pushbuffer.pushWords [word]

/-- Pushes the bits of a number. -/
def pushSingle [Device σ] (pushbuffer : PushBuffer) (number : Single) : Action σ PushBuffer :=
  pushbuffer.push number.bits

/-- Checks that a position is not past the end of a target. -/
def checkTarget (target : Buffer) (offset : UInt64) : Except Error Unit :=
  if target.size < offset then .error (.rangeOutOfBounds offset 0 target.size) else .ok ()

/-- Pushes a placeholder for the address of a position in a target. -/
def relocate [Device σ] (pushbuffer : PushBuffer) (target : Buffer) (offset : UInt64)
    (shift : Word) : Action σ PushBuffer := do
  Action.check (pushbuffer.checkRoom 1)
  Action.check (checkTarget target offset)
  let pushed ← pushbuffer.push placeholder
  pure { pushed with
    relocations := pushed.relocations ++
      [⟨pushbuffer.position, target.handle, target.offset + offset, shift⟩] }

/-- The words pushed, as they stand in memory; there is memory for as many again. -/
def words [Device σ] (pushbuffer : PushBuffer) : Action σ (List Word) :=
  pushbuffer.mapping.fetchWords pushbuffer.start pushbuffer.length

/-- Makes the words pushed visible to the device. -/
def flushWritten [Device σ] (pushbuffer : PushBuffer) : Action σ Unit :=
  pushbuffer.buffer.flush pushbuffer.start (UInt64.ofNat pushbuffer.length * wordBytes)

/-- A position as the word that a record has room for. -/
def toWord? (value : UInt64) : Except Error Word :=
  if value.toNat < UInt32.size then .ok value.toUInt32 else .error .offsetOverflow

/-- The range of the allocation that holds the words pushed. -/
def commandRange? (pushbuffer : PushBuffer) : Except Error CommandRange := do
  let offset ← toWord? (pushbuffer.buffer.offset + pushbuffer.start)
  let words ← toWord? (UInt64.ofNat pushbuffer.length)
  pure ⟨pushbuffer.buffer.handle, offset, words⟩

/-- The patch of the allocation that a relocation asks for. -/
def patch? (pushbuffer : PushBuffer) (relocation : Relocation) : Except Error Patch := do
  let sourceOffset ← toWord? (pushbuffer.buffer.offset + relocation.sourceOffset)
  let targetOffset ← toWord? relocation.targetOffset
  pure ⟨pushbuffer.buffer.handle, sourceOffset, relocation.target, targetOffset, relocation.shift⟩

/-- Gives the pushbuffer up; it is then no longer a holder of its buffer's allocation. -/
def release [Device σ] (pushbuffer : PushBuffer) : Action (Host σ) Unit :=
  pushbuffer.buffer.release

end PushBuffer

end HostChannel

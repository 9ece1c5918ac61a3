import HostChannel.Word
import Std.Data.ExtTreeMap

/-!
# Memory

A memory is a number of bytes that are zero until they are written. Only written bytes are
held, so a memory of any size costs no more than what was written to it. Two memories are
equal when they have the same size and hold the same bytes.
-/

namespace HostChannel

/-- Bytes that are zero until they are written. -/
structure Memory where
  /-- Number of bytes. -/
  size : Nat
  /-- The bytes that were written. -/
  written : Std.ExtTreeMap Nat UInt8

namespace Memory

/-- A memory to which nothing was written. -/
def zeroed (size : Nat) : Memory :=
  ⟨size, ∅⟩

/-- The byte at a position. -/
def byte (memory : Memory) (position : Nat) : UInt8 :=
  memory.written.getD position 0

/-- Writes bytes from a position on. -/
def write (memory : Memory) (position : Nat) (data : List UInt8) : Memory :=
  match data with
  | [] => memory
  | byte :: rest =>
    write { memory with written := memory.written.insert position byte } (position + 1) rest

/-- The bytes of a range. -/
def read (memory : Memory) (position length : Nat) : List UInt8 :=
  (List.range' position length).map memory.byte

/-- The word at a position, least significant byte first. -/
def word (memory : Memory) (position : Nat) : Word :=
  Word.ofBytes (memory.byte position) (memory.byte (position + 1)) (memory.byte (position + 2))
    (memory.byte (position + 3))

/-- The words of a range. -/
def readWords (memory : Memory) (position count : Nat) : List Word :=
  (List.range' position count 4).map memory.word

/-- Writes words from a position on. -/
def writeWords (memory : Memory) (position : Nat) (words : List Word) : Memory :=
  memory.write position (words.flatMap Word.bytes)

/-- A new memory holds zeros. -/
@[simp] theorem byte_zeroed (size position : Nat) : (zeroed size).byte position = 0 := by
  simp [zeroed, byte]

/-- Writing keeps the size. -/
@[simp] theorem size_write (memory : Memory) (position : Nat) (data : List UInt8) :
    (memory.write position data).size = memory.size := by
  induction data generalizing memory position with
  | nil => rfl
  | cons byte rest ih => simp [write, ih]

/-- Reading a range gives as many bytes as it has. -/
@[simp] theorem length_read (memory : Memory) (position length : Nat) :
    (memory.read position length).length = length := by
  simp [read]

/-- A byte in the range written is the byte written there, any other byte is kept. -/
theorem byte_write (memory : Memory) (start : Nat) (data : List UInt8) (position : Nat) :
    (memory.write start data).byte position =
      if start ≤ position then data.getD (position - start) (memory.byte position)
      else memory.byte position := by
  induction data generalizing memory start with
  | nil => simp [write]
  | cons head rest ih =>
    rw [write, ih]
    by_cases same : position = start
    · subst same
      rw [if_neg (by omega), if_pos (Nat.le_refl _), Nat.sub_self]
      simp [byte]
    · have kept : byte { memory with written := memory.written.insert start head } position =
          memory.byte position := by
        simp [byte, Std.ExtTreeMap.getD_insert, Ne.symm same]
      rw [kept]
      by_cases before : start ≤ position
      · have further : position - start = position - (start + 1) + 1 := by omega
        rw [if_pos before, if_pos (by omega), further, List.getD_cons_succ]
      · rw [if_neg before, if_neg (by omega)]

end Memory

end HostChannel

import HostChannel.Device

/-!
# Mappings

A mapping is a window through which the processor reads and writes memory that it shares
with a device. Positions are counted from the start of the window, and an access that
reaches past its end is refused and changes nothing. A mapping may outlive the buffer it
was made from.
-/

namespace HostChannel

/-- A window on memory that the processor can reach. -/
structure Mapping where
  /-- The memory. -/
  region : Region
  /-- Where the window starts in the memory. -/
  base : UInt64
  /-- Number of bytes of the window. -/
  length : UInt64
  deriving DecidableEq, Repr

namespace Mapping

variable {σ : Type}

/-- Two mappings are windows on the same memory. -/
def sharesMemory (first second : Mapping) : Bool :=
  first.region.id == second.region.id

/-- The bytes of a range. -/
def readBytes [Device σ] (mapping : Mapping) (offset count : UInt64) : Action σ (List UInt8) := do
  Action.check (checkRange offset count mapping.length)
  Action.read (Device.readRegion mapping.region.id (mapping.base + offset).toNat count.toNat)

/-- Writes bytes from a position on. -/
def writeBytes [Device σ] (mapping : Mapping) (offset : UInt64) (data : List UInt8) :
    Action σ Unit := do
  Action.check (checkRange offset (UInt64.ofNat data.length) mapping.length)
  Action.update (Device.writeRegion mapping.region.id (mapping.base + offset).toNat data)

/-- The words of a range that there is memory for. -/
def fetchWords [Device σ] (mapping : Mapping) (offset : UInt64) (count : Nat) :
    Action σ (List Word) := do
  let bytes ← mapping.readBytes offset (UInt64.ofNat (4 * count))
  pure (Word.listOfBytes bytes)

/-- The words of a range. Memory for them is got before the range is checked. -/
def readWords [Device σ] (mapping : Mapping) (offset : UInt64) (count : Nat) :
    Action σ (List Word) := do
  Action.makeRoom (4 * count)
  mapping.fetchWords offset count

/-- Writes words from a position on. -/
def writeWords [Device σ] (mapping : Mapping) (offset : UInt64) (words : List Word) :
    Action σ Unit :=
  mapping.writeBytes offset (words.flatMap Word.bytes)

/-- The word at a position. -/
def readWord [Device σ] (mapping : Mapping) (offset : UInt64) : Action σ Word := do
  let words ← mapping.fetchWords offset 1
  pure (words.headD 0)

/-- Writes the word at a position. -/
def writeWord [Device σ] (mapping : Mapping) (offset : UInt64) (word : Word) : Action σ Unit :=
  mapping.writeWords offset [word]

end Mapping

end HostChannel

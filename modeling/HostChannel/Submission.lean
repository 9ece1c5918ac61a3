import HostChannel.Word

/-!
# Submissions

What a device is given to execute: ranges of buffers that hold command words, and words in
them that are to be replaced by the address of another buffer. Each has a record of fixed
size, laid out with the least significant byte first and a reserved word at the end.
-/

namespace HostChannel

/-- Names a buffer of a device. -/
abbrev Handle := UInt32

/-- Names an open channel of a device. -/
abbrev ChannelId := UInt64

/-- Properties of a buffer, as a set of bits. -/
structure BufferFlags where
  /-- One bit for each property that holds. -/
  bits : Word
  deriving DecidableEq, Repr

namespace BufferFlags

/-- The contents are tiled. -/
def tiled : BufferFlags := ⟨1⟩
/-- The bottom row comes first. -/
def bottomUp : BufferFlags := ⟨2⟩
/-- The processor's view is cached. -/
def cached : BufferFlags := ⟨4⟩
/-- Every property. -/
def all : BufferFlags := ⟨7⟩
/-- No property. -/
def none : BufferFlags := ⟨0⟩

/-- The properties with their names, in the order of their bits. -/
def named : List (String × BufferFlags) :=
  [("TILED", tiled), ("BOTTOM_UP", bottomUp), ("CACHED", cached)]

/-- The known properties among some bits. -/
def truncate (bits : Word) : BufferFlags :=
  ⟨bits &&& all.bits⟩

/-- The set of the bits, if all of them are known. -/
def ofBits? (bits : Word) : Option BufferFlags :=
  if bits &&& all.bits = bits then some ⟨bits⟩ else Option.none

/-- Every property of the second set is in the first. -/
def includes (flags others : BufferFlags) : Bool :=
  flags.bits &&& others.bits == others.bits

/-- The known properties that are not in the set. -/
def complement (flags : BufferFlags) : BufferFlags :=
  truncate (~~~flags.bits)

/-- The names of the properties in the set. -/
def names (flags : BufferFlags) : List String :=
  (named.filter fun entry => flags.includes entry.2).map Prod.fst

end BufferFlags

/-- An open channel. -/
structure Channel where
  /-- Its name on the device. -/
  id : ChannelId
  /-- The class of the engine behind it. -/
  engineClass : Word
  /-- The syncpoints that belong to it. -/
  syncpoints : List Word
  deriving DecidableEq, Repr

/-- A range of a buffer that holds command words. -/
structure CommandRange where
  /-- The buffer. -/
  handle : Handle
  /-- Position of the first word, in bytes. -/
  offset : Word
  /-- Number of words. -/
  words : Word
  deriving DecidableEq, Repr

/-- A word to be replaced by an address. -/
structure Patch where
  /-- The buffer that holds the word. -/
  source : Handle
  /-- Position of the word, in bytes. -/
  sourceOffset : Word
  /-- The buffer whose address is taken. -/
  target : Handle
  /-- Distance from the buffer's start, in bytes. -/
  targetOffset : Word
  /-- How far the address is shifted right. -/
  shift : Word
  deriving DecidableEq, Repr

/-- Work for a device. -/
structure Submission where
  /-- The channel that executes it. -/
  channel : ChannelId
  /-- The syncpoint that its increments are counted on. -/
  syncpoint : Word
  /-- Number of increments that it declares. -/
  increments : Word
  /-- Its command words, in order of execution. -/
  ranges : List CommandRange
  /-- The words to be replaced before it is executed, in order. -/
  patches : List Patch
  deriving DecidableEq, Repr

/-- The record of a range. -/
def CommandRange.bytes (range : CommandRange) : List UInt8 :=
  [range.handle, range.offset, range.words, 0].flatMap Word.bytes

/-- The record of a patch. -/
def Patch.bytes (patch : Patch) : List UInt8 :=
  [patch.source, patch.sourceOffset, patch.target, patch.targetOffset, patch.shift, 0].flatMap
    Word.bytes

namespace Submission

/-- Number of command words. -/
def totalWords (submission : Submission) : Nat :=
  submission.ranges.foldr (fun range count => range.words.toNat + count) 0

/-- The records of the ranges. -/
def rangeBytes (submission : Submission) : List UInt8 :=
  submission.ranges.flatMap CommandRange.bytes

/-- The records of the patches. -/
def patchBytes (submission : Submission) : List UInt8 :=
  submission.patches.flatMap Patch.bytes

/-- A range's record takes sixteen bytes. -/
theorem length_rangeBytes (submission : Submission) :
    submission.rangeBytes.length = 16 * submission.ranges.length := by
  simp only [rangeBytes]
  induction submission.ranges with
  | nil => rfl
  | cons range rest ih =>
    have record : range.bytes.length = 16 := rfl
    simp only [List.flatMap_cons, List.length_append, List.length_cons, ih, record]
    omega

/-- A patch's record takes twenty-four bytes. -/
theorem length_patchBytes (submission : Submission) :
    submission.patchBytes.length = 24 * submission.patches.length := by
  simp only [patchBytes]
  induction submission.patches with
  | nil => rfl
  | cons patch rest ih =>
    have record : patch.bytes.length = 24 := rfl
    simp only [List.flatMap_cons, List.length_append, List.length_cons, ih, record]
    omega

end Submission

end HostChannel

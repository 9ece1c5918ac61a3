import HostChannel.Word

/-!
# Engine classes

A class number selects the engine whose registers a stream writes. Every class has the
register at offset zero that increments a syncpoint; its value names the condition and
the syncpoint, in eight bits each.
-/

namespace HostChannel.EngineClass

/-- The class of the host engine itself. -/
def host : Word := 0x01
/-- The two-dimensional engine. -/
def twoDimensional : Word := 0x51
/-- The second context of the two-dimensional engine. -/
def twoDimensionalContext : Word := 0x52
/-- The three-dimensional engine. -/
def threeDimensional : Word := 0x60

/-- The name of a known class. -/
def name? (engineClass : Word) : Option String :=
  if engineClass = host then some "host1x"
  else if engineClass = twoDimensional then some "gr2d"
  else if engineClass = twoDimensionalContext then some "gr2d_sb"
  else if engineClass = threeDimensional then some "gr3d"
  else none

end HostChannel.EngineClass

namespace HostChannel

/-- The value written to the register that increments a syncpoint. -/
structure SyncpointIncrement where
  /-- What the engine waits for before it increments. -/
  condition : Word
  /-- Index of the syncpoint. -/
  syncpoint : Word
  deriving DecidableEq, Repr

namespace SyncpointIncrement

/-- The register, present in every class, that increments a syncpoint. -/
def register : Word := 0
/-- Bits of the condition. -/
def conditionField : BitField := ⟨8, 8⟩
/-- Bits of the syncpoint's index. -/
def syncpointField : BitField := ⟨0, 8⟩

/-- The register value; each part keeps its low eight bits. -/
def encode (increment : SyncpointIncrement) : Word :=
  conditionField.place increment.condition ||| syncpointField.place increment.syncpoint

/-- The parts of a register value. -/
def decode (value : Word) : SyncpointIncrement where
  condition := conditionField.extract value
  syncpoint := syncpointField.extract value

end SyncpointIncrement

end HostChannel

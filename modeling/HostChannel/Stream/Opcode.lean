import HostChannel.Word

/-!
# Operation codes

The top four bits of a header word say which operation it is. Nine of the sixteen
numbers are assigned.
-/

namespace HostChannel

/-- The operation of a command header. -/
inductive Opcode where
  /-- Selects an engine class and writes the registers of a mask. -/
  | setClass
  /-- Writes consecutive registers. -/
  | incrementing
  /-- Writes one register repeatedly. -/
  | nonIncrementing
  /-- Writes the registers of a mask. -/
  | masked
  /-- Writes one register with data from the header. -/
  | immediate
  /-- Starts the stream again. -/
  | restart
  /-- Fetches words from elsewhere. -/
  | gather
  /-- An operation of the host engine. -/
  | extend
  /-- Ends the channel's work. -/
  | channelDone
  deriving DecidableEq, Repr

namespace Opcode

/-- Bits of the operation number in a header word. -/
def field : BitField := ⟨28, 4⟩

/-- The number of an operation. -/
def number : Opcode → Word
  | setClass => 0
  | incrementing => 1
  | nonIncrementing => 2
  | masked => 3
  | immediate => 4
  | restart => 5
  | gather => 6
  | extend => 14
  | channelDone => 15

/-- The operation that a number stands for. -/
def ofNumber? (number : Word) : Option Opcode :=
  match number.toNat with
  | 0 => some setClass
  | 1 => some incrementing
  | 2 => some nonIncrementing
  | 3 => some masked
  | 4 => some immediate
  | 5 => some restart
  | 6 => some gather
  | 14 => some extend
  | 15 => some channelDone
  | _ => none

/-- The operation number of a header word, assigned or not. -/
def numberOf (word : Word) : Word :=
  field.extract word

/-- The mnemonic that listings and tables use. -/
def mnemonic : Opcode → String
  | setClass => "SETCL"
  | incrementing => "INCR"
  | nonIncrementing => "NONINCR"
  | masked => "MASK"
  | immediate => "IMM"
  | restart => "RESTART"
  | gather => "GATHER"
  | extend => "EXTEND"
  | channelDone => "CHDONE"

/-- The label that messages use. -/
def label : Opcode → String
  | setClass => "SetClass"
  | incrementing => "Incr"
  | nonIncrementing => "NonIncr"
  | masked => "Mask"
  | immediate => "Imm"
  | restart => "Restart"
  | gather => "Gather"
  | extend => "Extend"
  | channelDone => "Chdone"

/-- An operation is read back from its number. -/
theorem ofNumber?_number (opcode : Opcode) : ofNumber? opcode.number = some opcode := by
  cases opcode <;> rfl

end Opcode

end HostChannel

import HostChannel.Stream.Opcode

/-!
# Command headers

A header is one word: four bits of operation number, and fields that depend on the
operation. `encode` keeps the low bits of every field, so a header whose fields are too
wide is written as the header of its truncated fields; `decode?` refuses the words whose
operation number is not assigned.
-/

namespace HostChannel

/-- A command header with its fields. -/
inductive Header where
  /-- Selects a class and writes one payload word to each register of the mask. -/
  | setClass (offset engineClass mask : Word)
  /-- Writes payload words to consecutive registers. -/
  | incrementing (offset count : Word)
  /-- Writes payload words to one register. -/
  | nonIncrementing (offset count : Word)
  /-- Writes one payload word to each register of the mask. -/
  | masked (offset mask : Word)
  /-- Writes the data to a register. -/
  | immediate (offset data : Word)
  /-- Starts the stream again. -/
  | restart
  /-- Fetches words from the address in the payload word. -/
  | gather (offset : Word) (insert sequential : Bool) (count : Word)
  /-- An operation of the host engine. -/
  | extend (operation value : Word)
  /-- Ends the channel's work. -/
  | channelDone
  deriving DecidableEq, Repr

namespace Header

/-- Bits of a register offset. -/
def offsetField : BitField := ⟨16, 12⟩
/-- Bits of a class number. -/
def classField : BitField := ⟨6, 10⟩
/-- Bits of the mask beside a class number. -/
def classMaskField : BitField := ⟨0, 6⟩
/-- Bits of a count of payload words. -/
def countField : BitField := ⟨0, 16⟩
/-- Bits of a register mask. -/
def maskField : BitField := ⟨0, 16⟩
/-- Bits of immediate data. -/
def dataField : BitField := ⟨0, 16⟩
/-- Bits of the number of words to gather. -/
def gatherCountField : BitField := ⟨0, 14⟩
/-- Position of the flag that gathered words follow a header of their own. -/
def gatherInsertField : BitField := ⟨15, 1⟩
/-- Position of the flag that gathered words go to consecutive registers. -/
def gatherSequentialField : BitField := ⟨14, 1⟩
/-- Bits of a host operation. -/
def operationField : BitField := ⟨24, 4⟩
/-- Bits of a host operation's value. -/
def valueField : BitField := ⟨0, 24⟩

/-- The operation of a header. -/
def opcode : Header → Opcode
  | setClass .. => .setClass
  | incrementing .. => .incrementing
  | nonIncrementing .. => .nonIncrementing
  | masked .. => .masked
  | immediate .. => .immediate
  | restart => .restart
  | gather .. => .gather
  | extend .. => .extend
  | channelDone => .channelDone

/-- The fields of a header, each placed in its bits. -/
def fieldBits : Header → Word
  | setClass offset engineClass mask =>
    offsetField.place offset ||| classField.place engineClass ||| classMaskField.place mask
  | incrementing offset count => offsetField.place offset ||| countField.place count
  | nonIncrementing offset count => offsetField.place offset ||| countField.place count
  | masked offset mask => offsetField.place offset ||| maskField.place mask
  | immediate offset data => offsetField.place offset ||| dataField.place data
  | restart => 0
  | gather offset insert sequential count =>
    offsetField.place offset ||| gatherInsertField.place insert.toUInt32 |||
      gatherSequentialField.place sequential.toUInt32 ||| gatherCountField.place count
  | extend operation value => operationField.place operation ||| valueField.place value
  | channelDone => 0

/-- The word of a header; each field keeps its low bits. -/
def encode (header : Header) : Word :=
  Opcode.field.place header.opcode.number ||| header.fieldBits

/-- The header that a word is, given its operation. -/
def ofWord (opcode : Opcode) (word : Word) : Header :=
  let offset := offsetField.extract word
  match opcode with
  | .setClass => setClass offset (classField.extract word) (classMaskField.extract word)
  | .incrementing => incrementing offset (countField.extract word)
  | .nonIncrementing => nonIncrementing offset (countField.extract word)
  | .masked => masked offset (maskField.extract word)
  | .immediate => immediate offset (dataField.extract word)
  | .restart => restart
  | .gather =>
    gather offset (gatherInsertField.extract word != 0)
      (gatherSequentialField.extract word != 0) (gatherCountField.extract word)
  | .extend => extend (operationField.extract word) (valueField.extract word)
  | .channelDone => channelDone

/-- The header that a word is, if its operation number is assigned. -/
def decode? (word : Word) : Option Header :=
  (Opcode.ofNumber? (Opcode.numberOf word)).map fun opcode => ofWord opcode word

/-- The header whose fields keep only the bits that a word has room for. -/
def truncate : Header → Header
  | setClass offset engineClass mask =>
    setClass (offsetField.truncate offset) (classField.truncate engineClass)
      (classMaskField.truncate mask)
  | incrementing offset count =>
    incrementing (offsetField.truncate offset) (countField.truncate count)
  | nonIncrementing offset count =>
    nonIncrementing (offsetField.truncate offset) (countField.truncate count)
  | masked offset mask => masked (offsetField.truncate offset) (maskField.truncate mask)
  | immediate offset data => immediate (offsetField.truncate offset) (dataField.truncate data)
  | restart => restart
  | gather offset insert sequential count =>
    gather (offsetField.truncate offset) insert sequential (gatherCountField.truncate count)
  | extend operation value =>
    extend (operationField.truncate operation) (valueField.truncate value)
  | channelDone => channelDone

/-- Number of payload words that follow the header. -/
def payloadWords : Header → Nat
  | setClass _ _ mask => Word.bitCount mask
  | masked _ mask => Word.bitCount mask
  | incrementing _ count => count.toNat
  | nonIncrementing _ count => count.toNat
  | gather .. => 1
  | immediate .. => 0
  | restart => 0
  | extend .. => 0
  | channelDone => 0

/-- The class that holds after the header, given the class before it. -/
def classAfter (header : Header) (active : Word) : Word :=
  match header with
  | setClass _ engineClass _ => engineClass
  | _ => active

/-- A decoded header has the operation that its word names. -/
theorem opcode_ofWord (opcode : Opcode) (word : Word) : (ofWord opcode word).opcode = opcode := by
  cases opcode <;> rfl

/-- A word is refused exactly when its operation number is not assigned. -/
theorem decode?_eq_none_iff (word : Word) :
    decode? word = none ↔ Opcode.ofNumber? (Opcode.numberOf word) = none := by
  simp [decode?]

end Header

end HostChannel

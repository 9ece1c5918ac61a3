import HostChannel.EngineClass
import HostChannel.Single
import HostChannel.Stream.Header
import HostChannel.Text.Hexadecimal

/-!
# Building a stream

A builder holds the words of a stream under construction. A command is added with the
values that its header asks for; a step whose values would not fit the header is refused
and leaves the words as they are, so that a built stream can always be cut into commands.
-/

namespace HostChannel

/-- The words of a stream under construction. -/
structure Builder where
  /-- The words so far. -/
  words : Array Word
  deriving DecidableEq, Repr

namespace Builder

/-- Why a step is refused. -/
inductive Refusal where
  /-- The class mask does not have one set bit for each value. -/
  | classMask (mask : Word)
  /-- The register mask does not have one set bit for each value. -/
  | registerMask (mask : Word)
  /-- There are more values for consecutive registers than the count can say. -/
  | incrementingCount
  /-- There are more values for one register than the count can say. -/
  | nonIncrementingCount
  deriving DecidableEq, Repr

/-- The message of a refusal; a mask is shown as it was given. -/
def Refusal.message : Refusal → String
  | .classMask mask =>
    "SETCL mask " ++ Text.Hexadecimal.prefixed 1 mask.toNat ++ " needs one value per set bit"
  | .registerMask mask =>
    "MASK " ++ Text.Hexadecimal.prefixed 1 mask.toNat ++ " needs one value per set bit"
  | .incrementingCount => "INCR payload too large for count field"
  | .nonIncrementingCount => "NONINCR payload too large for count field"

/-- The greatest number of values that a count can say. -/
def maxCount : Nat := 0xffff

/-- A builder without words. -/
def empty : Builder :=
  ⟨#[]⟩

/-- One step of building. -/
inductive Step where
  /-- Adds a word as it is. -/
  | push (word : Word)
  /-- Adds the bits of a number. -/
  | pushSingle (number : Single)
  /-- Selects a class and writes values to the registers of the mask. -/
  | setClass (offset engineClass mask : Word) (values : List Word)
  /-- Writes values to consecutive registers. -/
  | incrementing (offset : Word) (values : List Word)
  /-- Writes values to one register. -/
  | nonIncrementing (offset : Word) (values : List Word)
  /-- Writes values to the registers of the mask. -/
  | masked (offset mask : Word) (values : List Word)
  /-- Writes data from the header to a register. -/
  | immediate (offset data : Word)
  /-- An operation of the host engine. -/
  | extend (operation value : Word)
  /-- Starts the stream again. -/
  | restart
  /-- Ends the channel's work. -/
  | channelDone
  /-- Increments a syncpoint when the condition holds. -/
  | incrementSyncpoint (increment : SyncpointIncrement)
  deriving DecidableEq, Repr

/-- The words that a step adds, or why it is refused. -/
def Step.words : Step → Except Refusal (List Word)
  | push word => .ok [word]
  | pushSingle number => .ok [number.bits]
  | setClass offset engineClass mask values =>
    if values.length = Word.bitCount (Header.classMaskField.truncate mask) then
      .ok ((Header.setClass offset engineClass mask).encode :: values)
    else .error (.classMask mask)
  | incrementing offset values =>
    if values.length ≤ maxCount then
      .ok ((Header.incrementing offset (UInt32.ofNat values.length)).encode :: values)
    else .error .incrementingCount
  | nonIncrementing offset values =>
    if values.length ≤ maxCount then
      .ok ((Header.nonIncrementing offset (UInt32.ofNat values.length)).encode :: values)
    else .error .nonIncrementingCount
  | masked offset mask values =>
    if values.length = Word.bitCount (Header.maskField.truncate mask) then
      .ok ((Header.masked offset mask).encode :: values)
    else .error (.registerMask mask)
  | immediate offset data => .ok [(Header.immediate offset data).encode]
  | extend operation value => .ok [(Header.extend operation value).encode]
  | restart => .ok [Header.restart.encode]
  | channelDone => .ok [Header.channelDone.encode]
  | incrementSyncpoint increment =>
    .ok [(Header.nonIncrementing SyncpointIncrement.register 1).encode, increment.encode]

/-- The builder after a step; a refused step leaves it as it is. -/
def perform (builder : Builder) (step : Step) : Builder × Option Refusal :=
  match step.words with
  | .ok words => (⟨builder.words.appendList words⟩, none)
  | .error refusal => (builder, some refusal)

/-- The builder after a list of steps. -/
def performAll (builder : Builder) (steps : List Step) : Builder :=
  steps.foldl (fun builder step => (builder.perform step).1) builder

/-- The words as bytes, least significant byte first. -/
def bytes (builder : Builder) : List UInt8 :=
  builder.words.toList.flatMap Word.bytes

/-- A refused step adds nothing. -/
theorem perform_of_error (builder : Builder) {step : Step} {refusal : Refusal}
    (refused : step.words = .error refusal) : builder.perform step = (builder, some refusal) := by
  simp [perform, refused]

/-- An accepted step adds its words at the end. -/
theorem toList_perform_of_ok (builder : Builder) {step : Step} {words : List Word}
    (accepted : step.words = .ok words) :
    (builder.perform step).1.words.toList = builder.words.toList ++ words := by
  simp [perform, accepted]

end Builder

end HostChannel

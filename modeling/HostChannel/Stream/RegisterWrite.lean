import HostChannel.Stream.Command
import HostChannel.EngineClass

/-!
# Register writes of a stream

A command writes registers of the active class. `Command.writes` lists the writes of one
command, `WriteCursor.next` produces them one at a time, `Decoder.next` runs through the
writes and anomalies of a whole stream, and `registerWrites` lists those.
-/

namespace HostChannel

namespace Word

/-- Position of the lowest set bit of a word. -/
def lowestBit? (word : Word) : Option Nat :=
  (List.range 32).find? word.toNat.testBit

/-- The word without its lowest set bit. -/
def clearLowest (word : Word) : Word :=
  word &&& (word - 1)

end Word

/-- A value written to a register of a class. -/
structure RegisterWrite where
  /-- The class whose register is written. -/
  engineClass : Word
  /-- Offset of the register. -/
  register : Word
  /-- The value written. -/
  value : Word
  deriving DecidableEq, Repr

/-- How a command chooses the registers that it writes. -/
inductive WritePattern where
  /-- Each payload word goes to the register behind the one before. -/
  | ascending (register : Word)
  /-- Each payload word goes to the same register. -/
  | fixed (register : Word)
  /-- Each payload word goes to the register of the next set bit of the mask. -/
  | selected (offset mask : Word)
  /-- One value from the header goes to a register. -/
  | single (register value : Word)
  /-- Nothing is written. -/
  | nothing
  deriving DecidableEq, Repr

/-- The writes of a command that are still to be made. -/
structure WriteCursor where
  /-- The class whose registers are written. -/
  engineClass : Word
  /-- How registers are chosen from here on. -/
  pattern : WritePattern
  /-- The payload words that are still to be written. -/
  payload : List Word
  deriving DecidableEq, Repr

namespace WriteCursor

/-- No writes at all. -/
def finished : WriteCursor :=
  ⟨0, .nothing, []⟩

/-- The next payload word goes to a register. -/
def writePayload (cursor : WriteCursor) (register : Word) (pattern : WritePattern) :
    Option RegisterWrite × WriteCursor :=
  match cursor.payload with
  | [] => (none, { cursor with pattern })
  | value :: payload => (some ⟨cursor.engineClass, register, value⟩, { cursor with pattern, payload })

/-- The next write, and the writes behind it. -/
def next (cursor : WriteCursor) : Option RegisterWrite × WriteCursor :=
  match cursor.pattern with
  | .nothing => (none, cursor)
  | .single register value =>
    (some ⟨cursor.engineClass, register, value⟩, { cursor with pattern := .nothing })
  | .ascending register => cursor.writePayload register (.ascending (register + 1))
  | .fixed register => cursor.writePayload register (.fixed register)
  | .selected offset mask =>
    match Word.lowestBit? mask with
    | none => (none, cursor)
    | some bit =>
      cursor.writePayload (offset + UInt32.ofNat bit) (.selected offset (Word.clearLowest mask))

/-- A bound on the number of writes that are still to be made. -/
def size (cursor : WriteCursor) : Nat :=
  match cursor.pattern with
  | .single _ _ => cursor.payload.length + 1
  | _ => cursor.payload.length

/-- Each write uses up some of the bound. -/
theorem size_next {cursor behind : WriteCursor} {write : RegisterWrite}
    (taken : cursor.next = (some write, behind)) : behind.size < cursor.size := by
  obtain ⟨engineClass, pattern, payload⟩ := cursor
  cases pattern with
  | nothing => simp [next] at taken
  | single register value =>
    simp only [next, Prod.mk.injEq] at taken
    simp [← taken.2, size]
  | ascending register =>
    cases payload with
    | nil => simp [next, writePayload] at taken
    | cons head tail =>
      simp only [next, writePayload, Prod.mk.injEq] at taken
      simp [← taken.2, size]
  | fixed register =>
    cases payload with
    | nil => simp [next, writePayload] at taken
    | cons head tail =>
      simp only [next, writePayload, Prod.mk.injEq] at taken
      simp [← taken.2, size]
  | selected offset mask =>
    simp only [next] at taken
    split at taken
    · simp at taken
    · cases payload with
      | nil => simp [writePayload] at taken
      | cons head tail =>
        simp only [writePayload, Prod.mk.injEq] at taken
        simp [← taken.2, size]

/-- Appends the writes from the cursor on to those found before it, and returns the
cursor behind the last. -/
def collect (cursor : WriteCursor) (found : Array RegisterWrite) :
    Array RegisterWrite × WriteCursor :=
  match _taken : cursor.next with
  | (none, behind) => (found, behind)
  | (some write, behind) => behind.collect (found.push write)
termination_by cursor.size
decreasing_by exact size_next _taken

/-- All writes from the cursor on. -/
def items (cursor : WriteCursor) : List RegisterWrite :=
  (cursor.collect #[]).1.toList

/-- The cursor behind the last write. -/
def last (cursor : WriteCursor) : WriteCursor :=
  (cursor.collect #[]).2

end WriteCursor

namespace Command

/-- The writes of a command, none made yet, with the given class active. -/
def writeCursor (command : Command) (active : Word) : WriteCursor :=
  match command.header with
  | .setClass offset engineClass mask => ⟨engineClass, .selected offset mask, command.payload⟩
  | .incrementing offset _ => ⟨active, .ascending offset, command.payload⟩
  | .nonIncrementing offset _ => ⟨active, .fixed offset, command.payload⟩
  | .masked offset mask => ⟨active, .selected offset mask, command.payload⟩
  | .immediate offset data => ⟨active, .single offset data, command.payload⟩
  | .restart => ⟨active, .nothing, command.payload⟩
  | .gather .. => ⟨active, .nothing, command.payload⟩
  | .extend .. => ⟨active, .nothing, command.payload⟩
  | .channelDone => ⟨active, .nothing, command.payload⟩

/-- Payload words paired with the registers of the set bits of a mask, in ascending
order, up to the end of the shorter of the two. -/
def selectedWrites (engineClass offset mask : Word) (payload : List Word) : List RegisterWrite :=
  List.zipWith (fun bit value => ⟨engineClass, offset + UInt32.ofNat bit, value⟩)
    (Word.setBits mask) payload

/-- The writes of a command with the given class active. -/
def writes (command : Command) (active : Word) : List RegisterWrite :=
  match command.header with
  | .setClass offset engineClass mask => selectedWrites engineClass offset mask command.payload
  | .incrementing offset _ =>
    command.payload.mapIdx fun index value => ⟨active, offset + UInt32.ofNat index, value⟩
  | .nonIncrementing offset _ => command.payload.map fun value => ⟨active, offset, value⟩
  | .masked offset mask => selectedWrites active offset mask command.payload
  | .immediate offset data => [⟨active, offset, data⟩]
  | .restart => []
  | .gather .. => []
  | .extend .. => []
  | .channelDone => []

end Command

/-- An item of a decoded stream: a register write, or the anomaly in its place. -/
abbrev DecodedItem := Except Anomaly RegisterWrite

/-- A position among the register writes of a stream. -/
structure Decoder where
  /-- The commands that are still to be entered. -/
  commands : CommandCursor
  /-- The class of the last class selection that was entered. -/
  engineClass : Word
  /-- The writes of the command that was entered last. -/
  current : WriteCursor
  deriving DecidableEq, Repr

namespace Decoder

/-- The start of a stream; class zero is active. -/
def ofWords (words : List Word) : Decoder :=
  ⟨.ofWords words, 0, .finished⟩

/-- The next item, and the position behind it. Commands that write nothing are passed
over. -/
def next (decoder : Decoder) : Option DecodedItem × Decoder :=
  match decoder.current.next with
  | (some write, current) => (some (.ok write), { decoder with current })
  | (none, _) =>
    match _taken : decoder.commands.next with
    | (none, commands) => (none, { decoder with commands, current := .finished })
    | (some (.error anomaly), commands) =>
      (some (.error anomaly), { decoder with commands, current := .finished })
    | (some (.ok command), commands) =>
      let active := command.header.classAfter decoder.engineClass
      next ⟨commands, active, command.writeCursor active⟩
termination_by decoder.commands.rest.length
decreasing_by exact CommandCursor.length_rest_next _taken

/-- Asks for the next item a number of times, and lists what came with the class that
was active right after it. -/
def take (count : Nat) (decoder : Decoder) (found : Array (DecodedItem × Word)) :
    Array (DecodedItem × Word) × Decoder :=
  match count with
  | 0 => (found, decoder)
  | count + 1 =>
    match decoder.next with
    | (none, behind) => (found, behind)
    | (some item, behind) => take count behind (found.push (item, behind.engineClass))

/-- A bound on the number of items that are still to come. -/
def size (decoder : Decoder) : Nat :=
  decoder.current.size + 2 * decoder.commands.rest.length

/-- Takes items until none is left. -/
def takeAll (decoder : Decoder) : Array (DecodedItem × Word) × Decoder :=
  decoder.take (decoder.size + 1) #[]

end Decoder

/-- Runs through a list carrying a state, and lists what each element gives. -/
def threaded {σ α β : Type} (step : σ → α → σ × List β) (state : σ) (elements : List α) : List β :=
  (elements.foldl (fun (state, found) element =>
    let (after, given) := step state element
    (after, found.appendList given)) (state, #[])).2.toList

/-- What one item of a stream gives with the given class active, and the class after. -/
def StreamItem.decoded (active : Word) (item : StreamItem) : Word × List DecodedItem :=
  match item with
  | .error anomaly => (active, [.error anomaly])
  | .ok command =>
    let after := command.header.classAfter active
    (after, (command.writes after).map .ok)

/-- The register writes and anomalies of a stream, in order, from class zero on. -/
def registerWrites (words : List Word) : List DecodedItem :=
  threaded StreamItem.decoded 0 (commands words)

end HostChannel

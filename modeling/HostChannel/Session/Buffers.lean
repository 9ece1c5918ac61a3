import HostChannel.Session.Answer

/-!
# Operations on buffers and mappings

Each operation names the buffers and mappings that it works on. A new object is described
as it is when it has just been made, before it takes its name over from another object.
-/

namespace HostChannel

/-- An operation on buffers. -/
inductive BufferOperation where
  /-- Allocates a buffer; its size may be pretended. -/
  | allocate (name : String) (size : UInt64) (flags : BufferFlags) (pretending : Bool)
  /-- Makes a window from a buffer. -/
  | window (name buffer : String) (offset length : UInt64)
  /-- Describes a buffer. -/
  | describe (buffer : String)
  /-- Whether two buffers are windows on one allocation. -/
  | sharesAllocation (first second : String)
  /-- Gives a buffer up. -/
  | release (buffer : String)
  /-- Makes the processor's writes visible to the device. -/
  | flush (buffer : String) (offset length : UInt64)
  /-- Makes the device's writes visible to the processor. -/
  | invalidate (buffer : String) (offset length : UInt64)
  /-- The processor's view of a buffer, made if there is none. -/
  | map (name : Option String) (buffer : String)
  /-- The processor's view of a buffer, if there is one. -/
  | mapping (name : Option String) (buffer : String)
  deriving DecidableEq, Repr

/-- An operation on mappings. -/
inductive MappingOperation where
  /-- Whether two mappings are windows on the same memory. -/
  | sharesMemory (first second : String)
  /-- Reads bytes. -/
  | readBytes (mapping : String) (offset count : UInt64)
  /-- Writes bytes. -/
  | writeBytes (mapping : String) (offset : UInt64) (data : List UInt8)
  /-- Reads a word. -/
  | readWord (mapping : String) (offset : UInt64)
  /-- Writes a word. -/
  | writeWord (mapping : String) (offset : UInt64) (word : Word)
  /-- Reads words. -/
  | readWords (mapping : String) (offset : UInt64) (count : Nat)
  /-- Writes words. -/
  | writeWords (mapping : String) (offset : UInt64) (words : List Word)
  /-- Gives a mapping up. -/
  | release (mapping : String)
  deriving DecidableEq, Repr

namespace Session

/-- Allocates a buffer on the host while the device pretends, or does not pretend, sizes. -/
def allocateBuffer (size : UInt64) (flags : BufferFlags) (pretending : Bool) :
    Action Session Buffer := fun session =>
  let set (pretending : Bool) (session : Session) : Session :=
    { session with
      host := { session.host with device := { session.host.device with pretending } } }
  let (outcome, after) := onHost (Buffer.allocate size flags) (set pretending session)
  (outcome, set false after)

/-- Makes an operation on buffers. -/
def bufferOperation : BufferOperation → Action Session Answer
  | .allocate name size flags pretending => do
    let buffer ← allocateBuffer size flags pretending
    let answer ← describeBuffer buffer
    keepBuffer name buffer
    pure answer
  | .window name buffer offset length => do
    let parent ← findBuffer buffer
    let made ← onHost (parent.window offset length)
    let answer ← describeBuffer made
    keepBuffer name made
    pure answer
  | .describe buffer => do
    describeBuffer (← findBuffer buffer)
  | .sharesAllocation first second => do
    let first ← findBuffer first
    let second ← findBuffer second
    pure (.truth (first.sharesAllocation second))
  | .release buffer => do
    let released ← findBuffer buffer
    Action.update fun session => { session with buffers := session.buffers.erase buffer }
    releaseBuffer released
    pure .nothing
  | .flush buffer offset length => do
    let buffer ← findBuffer buffer
    onDevice (buffer.flush offset length)
    pure .nothing
  | .invalidate buffer offset length => do
    let buffer ← findBuffer buffer
    onDevice (buffer.invalidate offset length)
    pure .nothing
  | .map name buffer => do
    let buffer ← findBuffer buffer
    let mapping ← onHost buffer.map
    keepMapping name mapping
    pure (.mapping mapping)
  | .mapping name buffer => do
    let buffer ← findBuffer buffer
    match ← Action.read fun session => buffer.mapping? session.host with
    | some mapping =>
      keepMapping name mapping
      pure (.mapping mapping)
    | none => pure .nothing

/-- Makes an operation on mappings. -/
def mappingOperation : MappingOperation → Action Session Answer
  | .sharesMemory first second => do
    let first ← findMapping first
    let second ← findMapping second
    pure (.truth (first.sharesMemory second))
  | .readBytes mapping offset count => do
    let mapping ← findMapping mapping
    let data ← onDevice do
      Action.makeRoom count.toNat
      mapping.readBytes offset count
    pure (.bytes data)
  | .writeBytes mapping offset data => do
    let mapping ← findMapping mapping
    onDevice (mapping.writeBytes offset data)
    pure .nothing
  | .readWord mapping offset => do
    let mapping ← findMapping mapping
    let word ← onDevice (mapping.readWord offset)
    pure (.number word.toNat)
  | .writeWord mapping offset word => do
    let mapping ← findMapping mapping
    onDevice (mapping.writeWord offset word)
    pure .nothing
  | .readWords mapping offset count => do
    let mapping ← findMapping mapping
    let words ← onDevice (mapping.readWords offset count)
    pure (.words words)
  | .writeWords mapping offset words => do
    let mapping ← findMapping mapping
    onDevice (mapping.writeWords offset words)
    pure .nothing
  | .release mapping => do
    let _ ← findMapping mapping
    Action.update fun session => { session with mappings := session.mappings.erase mapping }
    pure .nothing

end Session

end HostChannel

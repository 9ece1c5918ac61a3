import HostChannel.Session.State

/-!
# Answers

What an operation of a session answers, as data: the objects themselves where an answer
describes one, with what has to be asked of the host beside them.
-/

namespace HostChannel

/-- A buffer with what its holders share. -/
structure BufferSummary where
  /-- The buffer. -/
  buffer : Buffer
  /-- Number of holders of its allocation. -/
  holders : Nat
  /-- Its allocation has been mapped. -/
  mapped : Bool
  deriving DecidableEq, Repr

/-- What a buffer looks like on a host. -/
def Buffer.summary {σ : Type} (buffer : Buffer) (host : Host σ) : BufferSummary :=
  ⟨buffer, host.holders buffer.allocation, (host.region? buffer.allocation).isSome⟩

/-- What an operation answers. -/
inductive Answer where
  /-- There is nothing to say. -/
  | nothing
  /-- A number. -/
  | number (value : Nat)
  /-- Whether something holds. -/
  | truth (value : Bool)
  /-- A text. -/
  | text (value : String)
  /-- Bytes. -/
  | bytes (value : List UInt8)
  /-- Words. -/
  | words (value : List Word)
  /-- A buffer. -/
  | buffer (summary : BufferSummary)
  /-- A mapping. -/
  | mapping (mapping : Mapping)
  /-- A pushbuffer with its buffer. -/
  | pushbuffer (summary : BufferSummary) (pushbuffer : PushBuffer)
  /-- The place of a pushbuffer's next word. -/
  | cursor (pushbuffer : PushBuffer)
  /-- An open channel. -/
  | channel (channel : Channel)
  /-- What a new job counts its increments on. -/
  | created (job : Job)
  /-- A job. -/
  | job (job : Job)
  /-- A fence. -/
  | fence (fence : Fence)
  /-- How a wait ended. -/
  | outcome (outcome : WaitOutcome)
  /-- What a device would be given. -/
  | submission (submission : Submission)
  /-- What the simulated device has done. -/
  | statistics (statistics : Statistics)
  /-- Bytes of a buffer of the simulated device, and its size. -/
  | memory (data : List UInt8) (size : Nat)
  deriving DecidableEq, Repr

namespace Session

/-- Describes a buffer. -/
def describeBuffer (buffer : Buffer) : Action Session Answer :=
  Action.read fun session => .buffer (buffer.summary session.host)

/-- Describes a pushbuffer. -/
def describePushBuffer (pushbuffer : PushBuffer) : Action Session Answer :=
  Action.read fun session => .pushbuffer (pushbuffer.buffer.summary session.host) pushbuffer

end Session

end HostChannel

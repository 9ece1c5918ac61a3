import HostChannel.Session.Answer

/-!
# Operations on pushbuffers

A pushbuffer is named itself, or by a job and its position in the job. A pushbuffer of a
job can be looked at in every state of the job, and changed while the job is being built.
-/

namespace HostChannel

/-- Where a pushbuffer is found. -/
inductive PushBufferPlace where
  /-- It has a name. -/
  | named (name : String)
  /-- It is part of a job. -/
  | inJob (job : String) (index : Nat)
  deriving DecidableEq, Repr

/-- An operation on pushbuffers. -/
inductive PushBufferOperation where
  /-- Opens a pushbuffer on a buffer. -/
  | openAt (name buffer : String) (offset : UInt64)
  /-- Describes a pushbuffer. -/
  | describe (place : PushBufferPlace)
  /-- The words pushed, as they stand in memory. -/
  | words (place : PushBufferPlace)
  /-- Gives a pushbuffer up. -/
  | release (name : String)
  /-- Pushes a word. -/
  | push (place : PushBufferPlace) (word : Word)
  /-- Pushes the bits of a number. -/
  | pushSingle (place : PushBufferPlace) (number : Single)
  /-- Pushes words. -/
  | pushWords (place : PushBufferPlace) (words : List Word)
  /-- Pushes a placeholder for an address. -/
  | relocate (place : PushBufferPlace) (target : String) (offset : UInt64) (shift : Word)
  /-- Asks for a pushbuffer to change it. -/
  | select (place : PushBufferPlace)
  deriving DecidableEq, Repr

namespace Session

/-- A pushbuffer to look at; none if a job has no pushbuffer at the position. -/
def seePushBuffer : PushBufferPlace → Action Session (Option PushBuffer)
  | .named name => do
    let pushbuffer ← findPushBuffer name
    pure (some pushbuffer)
  | .inJob job index => do
    let job ← findJob job
    pure job.pushbuffers[index]?

/-- Changes a pushbuffer in its place, and describes where its next word goes. -/
def changePushBuffer (place : PushBufferPlace)
    (change : PushBuffer → Action (Instrumented Simulator) PushBuffer) : Action Session Answer :=
  match place with
  | .named name => do
    let pushbuffer ← findPushBuffer name
    let changed ← onDevice (change pushbuffer)
    Action.update fun session =>
      { session with pushbuffers := session.pushbuffers.insert name changed }
    pure (.cursor changed)
  | .inJob name index => do
    let job ← findJob name
    let pushbuffer ← Action.check (job.pushbuffer? index)
    let changed ← onDevice (change pushbuffer)
    changeJob name (job.replace index changed)
    pure (.cursor changed)

/-- The place of a pushbuffer names something. -/
def checkPlace : PushBufferPlace → Action Session Unit
  | .named name => do
    let _ ← findPushBuffer name
  | .inJob job _ => do
    let _ ← findJob job

/-- Makes an operation on pushbuffers. -/
def pushBufferOperation : PushBufferOperation → Action Session Answer
  | .openAt name buffer offset => do
    let buffer ← findBuffer buffer
    let opened ← onHost (PushBuffer.openAt buffer offset)
    let answer ← describePushBuffer opened
    keepPushBuffer name opened
    pure answer
  | .describe place => do
    match ← seePushBuffer place with
    | some pushbuffer => describePushBuffer pushbuffer
    | none => pure .nothing
  | .words place => do
    match ← seePushBuffer place with
    | some pushbuffer =>
      let words ← onDevice pushbuffer.words
      pure (.words words)
    | none => pure .nothing
  | .release name => do
    let released ← findPushBuffer name
    Action.update fun session => { session with pushbuffers := session.pushbuffers.erase name }
    releasePushBuffer released
    pure .nothing
  | .push place word => changePushBuffer place fun pushbuffer => pushbuffer.push word
  | .pushSingle place number => changePushBuffer place fun pushbuffer => pushbuffer.pushSingle number
  | .pushWords place words => changePushBuffer place fun pushbuffer => pushbuffer.pushWords words
  | .relocate place target offset shift => do
    checkPlace place
    let target ← findBuffer target
    changePushBuffer place fun pushbuffer => pushbuffer.relocate target offset shift
  | .select place => changePushBuffer place pure

end Session

end HostChannel

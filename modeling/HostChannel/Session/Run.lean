import HostChannel.Session.Buffers
import HostChannel.Session.Devices
import HostChannel.Session.Jobs
import HostChannel.Session.PushBuffers

/-!
# Running a session

An operation works on one kind of object. A session is run by making its operations one
after the other; an operation that fails does not end the session.
-/

namespace HostChannel

/-- An operation of a session. -/
inductive Operation where
  /-- On buffers. -/
  | buffer (operation : BufferOperation)
  /-- On mappings. -/
  | mapping (operation : MappingOperation)
  /-- On pushbuffers. -/
  | pushbuffer (operation : PushBufferOperation)
  /-- On clients and jobs. -/
  | job (operation : JobOperation)
  /-- On syncpoints. -/
  | wait (operation : WaitOperation)
  /-- On the simulated device. -/
  | simulator (operation : SimulatorOperation)
  /-- On the instrumented device. -/
  | instrument (operation : InstrumentOperation)
  deriving DecidableEq, Repr

namespace Session

/-- Makes an operation. -/
def perform : Operation → Action Session Answer
  | .buffer operation => bufferOperation operation
  | .mapping operation => mappingOperation operation
  | .pushbuffer operation => pushBufferOperation operation
  | .job operation => jobOperation operation
  | .wait operation => waitOperation operation
  | .simulator operation => onSimulator (Simulator.operation operation)
  | .instrument operation => instrumentOperation operation

/-- The session after a list of operations. -/
def run (session : Session) (operations : List Operation) : Session :=
  operations.foldl (fun session operation => (perform operation session).2) session

end Session

end HostChannel

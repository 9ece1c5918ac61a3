import HostChannel.Error
import HostChannel.Syncpoint
import HostChannel.Timeout

/-!
# Waiting

Threads wait for syncpoints while other threads reserve increments and make them. One lock
guards all counters, and one condition is shared by all waits. A waiting thread notes its
deadline, takes the lock and looks at its counter. If the threshold is not reached and the
deadline not over, it falls asleep and lets the lock go in the same step. A working thread
changes a counter under the lock, lets the lock go, and then, in a turn of its own, wakes
every sleeping thread, whichever syncpoint it waits for; a reservation wakes none. A woken
thread takes the lock again and looks again.

A thread takes one turn from each of its stages to the next. The turns of the threads are
given in any order; a thread that finds the lock taken stays where it is.
-/

namespace HostChannel

/-- A clock, at an instant that it can show. -/
structure Clock where
  /-- The instant. -/
  now : Duration
  /-- Full seconds of nanoseconds are carried. -/
  carried : now.nanoseconds < Duration.nanosecondsPerSecond
  /-- The clock can show the instant. -/
  shown : now.seconds < Timeout.clockEnd
  deriving DecidableEq, Repr

namespace Clock

/-- A clock at its start. -/
def start : Clock := ⟨.zero, by decide, by decide⟩

/-- The clock after a span of time; it stays where it is if it cannot show what comes then. -/
def advance (clock : Clock) (span : Duration) : Clock :=
  if shown : (clock.now.add span).seconds < Timeout.clockEnd then
    ⟨clock.now.add span, Nat.mod_lt _ (by decide), shown⟩
  else clock

/-- There is a deadline, and it is over. -/
def past (clock : Clock) (deadline : Option Duration) : Bool :=
  deadline.any fun instant => instant ≤ clock.now

end Clock

/-- What a thread waits for, and for how long. -/
structure Wait where
  /-- Index of the syncpoint. -/
  syncpoint : Word
  /-- The value to reach. -/
  threshold : Word
  /-- How long the thread waits. -/
  timeout : Timeout
  deriving DecidableEq, Repr

/-- A change of a syncpoint that is made under the lock. -/
inductive Update where
  /-- Increments are reserved. -/
  | reserve (syncpoint increments : Word)
  /-- The counter is incremented. -/
  | increment (syncpoint : Word)
  deriving DecidableEq, Repr

namespace Update

/-- Index of the syncpoint that is changed. -/
def syncpoint : Update → Word
  | reserve syncpoint _ => syncpoint
  | increment syncpoint => syncpoint

/-- What becomes of the syncpoint. -/
def change : Update → Syncpoint → Syncpoint
  | reserve _ increments => fun syncpoint => syncpoint.reserve increments
  | increment _ => Syncpoint.increment

/-- The syncpoints after the change. -/
def apply (syncpoints : Array Syncpoint) (update : Update) : Array Syncpoint :=
  syncpoints.modify update.syncpoint.toNat update.change

/-- The sleeping threads are woken after the change. -/
def notifies : Update → Bool
  | reserve .. => false
  | increment _ => true

end Update

/-- Where a waiting thread stands. -/
inductive WaitStage where
  /-- It is about to find its syncpoint and to note its deadline. -/
  | arriving
  /-- It is about to take the lock. -/
  | contending (deadline : Option Duration)
  /-- It has the lock and is about to look at its counter. -/
  | looking (deadline : Option Duration)
  /-- It has the lock and has seen that its threshold is not reached. -/
  | unready (deadline : Option Duration)
  /-- It sleeps until it is woken or its deadline is over. -/
  | asleep (deadline : Option Duration)
  /-- It has the lock and is about to let it go and to answer. -/
  | leaving (outcome : WaitOutcome)
  /-- It has answered. -/
  | finished (answer : Except Error WaitOutcome)
  deriving Repr

namespace WaitStage

/-- The thread has the lock. -/
def holds : WaitStage → Bool
  | looking _ | unready _ | leaving _ => true
  | _ => false

/-- The stage of a thread that is woken if it sleeps. -/
def wake : WaitStage → WaitStage
  | asleep deadline => contending deadline
  | stage => stage

/-- The answer of a thread that has answered. -/
def answer? : WaitStage → Option (Except Error WaitOutcome)
  | finished answer => some answer
  | _ => none

end WaitStage

/-- Where a working thread stands. -/
inductive WorkStage where
  /-- It has nothing under way. -/
  | between
  /-- It has the lock and is about to make a change. -/
  | acting (update : Update)
  /-- It has made a change and still has the lock. -/
  | acted (update : Update)
  /-- It is about to wake the sleeping threads. -/
  | notifying
  deriving DecidableEq, Repr

/-- A thread. -/
inductive Thread where
  /-- It waits. -/
  | waiting (wait : Wait) (stage : WaitStage)
  /-- It makes changes; some are still to come. -/
  | working (stage : WorkStage) (updates : List Update)
  deriving Repr

namespace Thread

/-- The thread has the lock. -/
def holds : Thread → Bool
  | waiting _ stage => stage.holds
  | working (.acting _) _ | working (.acted _) _ => true
  | working .between _ | working .notifying _ => false

/-- The thread has incremented a counter and has not woken the sleeping threads yet. -/
def owes : Thread → Bool
  | working (.acted update) _ => update.notifies
  | working .notifying _ => true
  | _ => false

/-- The thread, woken if it sleeps. -/
def wake : Thread → Thread
  | waiting wait stage => waiting wait stage.wake
  | thread => thread

/-- What the thread waits for. -/
def wait? : Thread → Option Wait
  | waiting wait _ => some wait
  | working .. => none

end Thread

/-- Syncpoints with the threads that wait for them and change them. -/
structure WaitRoom where
  /-- The syncpoints. -/
  syncpoints : Array Syncpoint
  /-- The threads, in the order in which they came. -/
  threads : List Thread
  /-- The clock. -/
  clock : Clock
  deriving Repr

namespace WaitRoom

/-- A room without threads. -/
def opened (syncpoints : Array Syncpoint) (clock : Clock) : WaitRoom :=
  ⟨syncpoints, [], clock⟩

/-- A thread has the lock. -/
def locked (room : WaitRoom) : Bool :=
  room.threads.any Thread.holds

/-- A thread owes the sleeping ones a call. -/
def owed (room : WaitRoom) : Bool :=
  room.threads.any Thread.owes

/-- The syncpoint of a wait has reached its threshold. -/
def reaches (room : WaitRoom) (wait : Wait) : Bool :=
  room.syncpoints[wait.syncpoint.toNat]?.any fun syncpoint =>
    reached syncpoint.value wait.threshold

/-- The room with another thread at a position. -/
def put (room : WaitRoom) (position : Nat) (thread : Thread) : WaitRoom :=
  { room with threads := room.threads.set position thread }

end WaitRoom

/-- The stage of a waiting thread after its turn. -/
def WaitStage.next (room : WaitRoom) (wait : Wait) : WaitStage → WaitStage
  | arriving =>
    if wait.syncpoint.toNat < room.syncpoints.size then
      contending (wait.timeout.deadline? room.clock.now)
    else finished (.error (.noSyncpoint wait.syncpoint))
  | contending deadline => if room.locked then contending deadline else looking deadline
  | looking deadline => if room.reaches wait then leaving .completed else unready deadline
  | unready deadline => if room.clock.past deadline then leaving .timedOut else asleep deadline
  | asleep deadline => if room.clock.past deadline then contending deadline else asleep deadline
  | leaving outcome => finished (.ok outcome)
  | finished answer => finished answer

/-- A thread after its turn. A change of a syncpoint that is not there is left out. -/
def Thread.next (room : WaitRoom) : Thread → Thread
  | waiting wait stage => waiting wait (stage.next room wait)
  | working .between [] => working .between []
  | working .between (update :: rest) =>
    if room.syncpoints.size ≤ update.syncpoint.toNat then working .between rest
    else if room.locked then working .between (update :: rest)
    else working (.acting update) rest
  | working (.acting update) rest => working (.acted update) rest
  | working (.acted update) rest =>
    working (if update.notifies then .notifying else .between) rest
  | working .notifying rest => working .between rest

namespace WaitRoom

/-- What the turn of a thread does to the rest of the room. -/
def after (room : WaitRoom) : Thread → WaitRoom
  | .working (.acting update) _ => { room with syncpoints := update.apply room.syncpoints }
  | .working .notifying _ => { room with threads := room.threads.map Thread.wake }
  | _ => room

/-- Something that happens in the room. -/
inductive Event where
  /-- A thread comes to wait. -/
  | arrive (wait : Wait)
  /-- A thread comes to make changes. -/
  | start (updates : List Update)
  /-- The thread at a position takes its turn. -/
  | turn (position : Nat)
  /-- Time goes by. -/
  | tick (span : Duration)
  deriving DecidableEq, Repr

/-- The room after an event; a turn of a thread that is not there changes nothing. -/
def step (room : WaitRoom) : Event → WaitRoom
  | .arrive wait => { room with threads := room.threads ++ [.waiting wait .arriving] }
  | .start updates => { room with threads := room.threads ++ [.working .between updates] }
  | .turn position =>
    match room.threads[position]? with
    | some thread => (room.after thread).put position (thread.next room)
    | none => room
  | .tick span => { room with clock := room.clock.advance span }

/-- The room after a list of events. -/
def run (room : WaitRoom) (events : List Event) : WaitRoom :=
  events.foldl step room

/-- The number of turns in which a waiting thread with nothing else going on answers or falls
asleep. -/
def enough : Nat := 5

/-- The room after a thread has taken its turns with nothing else going on. -/
def settle (room : WaitRoom) (position : Nat) : WaitRoom :=
  room.run (List.replicate enough (.turn position))

end WaitRoom

namespace Thread

/-- A lone thread after its turns. -/
def settle (syncpoints : Array Syncpoint) (clock : Clock) (thread : Thread) : Thread :=
  ((⟨syncpoints, [thread], clock⟩ : WaitRoom).settle 0).threads.headD thread

/-- The span after which the thread does not wait any longer; none if it waits for ever. -/
def patience (thread : Thread) : Duration :=
  ((thread.wait?.bind fun wait => wait.timeout.duration?)).getD .zero

/-- The answer of a waiting thread. -/
def answer? : Thread → Option (Except Error WaitOutcome)
  | waiting _ stage => stage.answer?
  | working .. => none

end Thread

end HostChannel

import HostChannel.Proofs.Session.Quiet
import HostChannel.Proofs.Simulator.Requests

/-!
# Where a session takes its devices

An operation of a session reaches the instrumented device through the library, and otherwise
only in three ways: it sets up what the instrumented device does next, it lets an allocation
pretend a size, or it works on the simulated device directly. `perform_sameClients` and
`perform_movesBy` leave these three to be looked at by themselves; the former also leaves aside the
operations that open a channel for a client or give a client up, so that it asks nothing of the
methods that do. The simulated device is in the end nowhere but where requests take it
(`reaches_run`).
-/

namespace HostChannel.Session

open HostChannel.Action (Moves)

variable {relation : Instrumented Simulator → Instrumented Simulator → Prop}

/-- The devices of the sessions stand in the relation, and the clients are the same. -/
structure SameClients (relation : Instrumented Simulator → Instrumented Simulator → Prop)
    (first second : Session) : Prop where
  /-- The devices stand in the relation. -/
  device : relation first.device second.device
  /-- The clients are the same. -/
  clients : second.clients = first.clients

instance [IsPreorder (Instrumented Simulator) relation] :
    IsPreorder Session (SameClients relation) where
  refl session := ⟨refl_of relation session.device, rfl⟩
  trans _ _ _ earlier later :=
    ⟨trans_of relation earlier.device later.device, later.clients.trans earlier.clients⟩

/-- The clients are the same where only the device has moved. -/
theorem SameClients.steps [IsPreorder (Instrumented Simulator) relation] :
    Steps relation (SameClients relation) where
  device _ _ moved := ⟨moved, rfl⟩
  others session _ _ := ⟨refl_of relation session.device, rfl⟩

/-- An action on the host goes where it goes by itself. -/
theorem onHost_moves {α : Type} {action : Action (Host (Instrumented Simulator)) α}
    (goes : Moves (Action.Along Host.device relation) action) :
    Moves (SameClients relation) (onHost action) :=
  fun session => ⟨goes session.host, rfl⟩

/-- An action on the instrumented device goes where it goes by itself. -/
theorem onDevice_moves {α : Type} {action : Action (Instrumented Simulator) α}
    (goes : Moves relation action) : Moves (SameClients relation) (onDevice action) :=
  onHost_moves goes.onHost

/-- Something is found exactly when it is there. -/
theorem find_eq_ok_iff {α : Type} {slots : Session → Slots α} {name : String} {object : α}
    {session after : Session} :
    find slots name session = (.ok object, after) ↔
      (slots session)[name]? = some object ∧ session = after := by
  rw [find]
  cases (slots session)[name]? <;> simp

/-- What is found under a name. -/
theorem find_of_some {α : Type} {slots : Session → Slots α} {name : String} {object : α}
    {session : Session} (found : (slots session)[name]? = some object) :
    find slots name session = (.ok object, session) := by
  rw [find, found]

/-- Nothing is found under a name that is free. -/
theorem find_of_none {α : Type} {slots : Session → Slots α} {name : String} {session : Session}
    (absent : (slots session)[name]? = none) :
    find slots name session = (.error .absent, session) := by
  rw [find, absent]

variable [IsPreorder (Instrumented Simulator) relation]

/-- Giving up what had a name before goes where giving an object up goes. -/
theorem giveUp_moves {α : Type} {release : α → Action Session Unit}
    (goes : ∀ object, Moves (SameClients relation) (release object)) (before : Option α) :
    Moves (SameClients relation) (giveUp release before) := by
  cases before with
  | none => exact Moves.pure ()
  | some object => exact goes object

/-- Changing what has a name leaves the device alone. -/
theorem rename_moves {change : Session → Session}
    (same : ∀ session, (change session).device = session.device ∧
      (change session).clients = session.clients) :
    Moves (SameClients relation) (Action.update change) := by
  refine Moves.update fun session => ⟨?_, (same session).2⟩
  rw [(same session).1]
  exact refl_of relation session.device

/-- An object that takes a name over goes where giving the old object up goes. -/
theorem takeOver_moves {α : Type} {view : Session → Option α} {change : Session → Session}
    {release : α → Action Session Unit}
    (same : ∀ session, (change session).device = session.device ∧
      (change session).clients = session.clients)
    (goes : ∀ object, Moves (SameClients relation) (release object)) :
    Moves (SameClients relation) (do
      let before ← Action.read view
      Action.update change
      giveUp release before) :=
  Moves.bind (Moves.read view) fun before =>
    Moves.bind (rename_moves same) fun _ => giveUp_moves goes before

/-- Changing a pushbuffer in its place goes where the change goes. -/
theorem changePushBuffer_moves (place : PushBufferPlace)
    {change : PushBuffer → Action (Instrumented Simulator) PushBuffer}
    (goes : ∀ pushbuffer, Moves relation (change pushbuffer)) :
    Moves (SameClients relation) (changePushBuffer place change) := by
  cases place with
  | named name =>
    exact Moves.bind (find_moves _ _) fun _ => Moves.bind (onDevice_moves (goes _)) fun _ =>
      Moves.bind (rename_moves fun _ => ⟨rfl, rfl⟩) fun _ => Moves.pure _
  | inJob name index =>
    exact Moves.bind (find_moves _ _) fun _ => Moves.bind (Moves.check _) fun _ =>
      Moves.bind (onDevice_moves (goes _)) fun _ =>
        Moves.bind (rename_moves fun _ => ⟨rfl, rfl⟩) fun _ => Moves.pure _

/-- An action on a job beside the device goes where it goes by itself. -/
theorem onJob_moves {α : Type} (name : String)
    {action : Action (Job × Instrumented Simulator) α}
    (goes : Moves (Action.Along Prod.snd relation) action) :
    Moves (SameClients relation) (onJob name action) :=
  Moves.bind (find_moves _ _) fun job session => ⟨goes (job, session.host.device), rfl⟩

section BesideClients

variable (moves : Device.BesideChannelsBy relation)

include moves

/-- Naming a buffer gives up what had the name before. -/
theorem keepBuffer_moves (name : String) (buffer : Buffer) :
    Moves (SameClients relation) (keepBuffer name buffer) :=
  takeOver_moves (fun _ => ⟨rfl, rfl⟩) fun _ => onHost_moves (moves.letGo _)

/-- So does naming a job. -/
theorem keepJob_moves (name : String) (job : Job) :
    Moves (SameClients relation) (keepJob name job) :=
  takeOver_moves (fun _ => ⟨rfl, rfl⟩) fun _ => onHost_moves (moves.jobRelease _)

/-- Operations on buffers go where the device goes, but for allocations. -/
theorem bufferOperation_sameClients (operation : BufferOperation)
    (allocates : ∀ name size flags pretending,
      operation = .allocate name size flags pretending →
        Moves (SameClients relation) (allocateBuffer size flags pretending)) :
    Moves (SameClients relation) (bufferOperation operation) := by
  cases operation with
  | allocate name size flags pretending =>
    exact Moves.bind (allocates name size flags pretending rfl) fun _ =>
      Moves.bind (Moves.read _) fun _ =>
        Moves.bind (keepBuffer_moves moves _ _) fun _ => Moves.pure _
  | window name buffer offset length =>
    exact Moves.bind (find_moves _ _) fun _ =>
      Moves.bind (onHost_moves (Buffer.window_moves _ _ _)) fun _ =>
        Moves.bind (Moves.read _) fun _ =>
          Moves.bind (keepBuffer_moves moves _ _) fun _ => Moves.pure _
  | release buffer =>
    exact Moves.bind (find_moves _ _) fun _ =>
      Moves.bind (rename_moves fun _ => ⟨rfl, rfl⟩) fun _ =>
        Moves.bind (onHost_moves (moves.letGo _)) fun _ => Moves.pure _
  | map name buffer =>
    exact Moves.bind (find_moves _ _) fun _ =>
      Moves.bind (onHost_moves (moves.bufferMap _)) fun _ =>
        Moves.bind (keepMapping_steps SameClients.steps name _) fun _ => Moves.pure _
  | describe | sharesAllocation | flush | invalidate | mapping =>
    exact bufferOperation_steps SameClients.steps moves.toWorksBy rfl

/-- Operations on pushbuffers go where the device goes. -/
theorem pushBufferOperation_sameClients (operation : PushBufferOperation) :
    Moves (SameClients relation) (pushBufferOperation operation) := by
  cases operation with
  | openAt name buffer offset =>
    exact Moves.bind (find_moves _ _) fun _ =>
      Moves.bind (onHost_moves (PushBuffer.openAt_moves _ _)) fun _ =>
        Moves.bind (Moves.read _) fun _ =>
          Moves.bind (takeOver_moves (fun _ => ⟨rfl, rfl⟩) fun _ => onHost_moves (moves.letGo _))
            fun _ => Moves.pure _
  | release name =>
    exact Moves.bind (find_moves _ _) fun _ =>
      Moves.bind (rename_moves fun _ => ⟨rfl, rfl⟩) fun _ =>
        Moves.bind (onHost_moves (moves.letGo _)) fun _ => Moves.pure _
  | push place word => exact changePushBuffer_moves place fun _ => moves.pushWords _ _
  | pushSingle place number => exact changePushBuffer_moves place fun _ => moves.pushWords _ _
  | pushWords place words => exact changePushBuffer_moves place fun _ => moves.pushWords _ _
  | relocate place target offset shift =>
    refine Moves.bind ?_ fun _ => Moves.bind (find_moves _ _) fun _ =>
      changePushBuffer_moves place fun _ => moves.relocate _ _ _ _
    cases place with
    | named name => exact Moves.bind (find_moves _ _) fun _ => Moves.pure _
    | inJob job index => exact Moves.bind (find_moves _ _) fun _ => Moves.pure _
  | select place => exact changePushBuffer_moves place fun _ => Moves.pure _
  | describe | words => exact pushBufferOperation_steps SameClients.steps rfl

/-- Operations on jobs go where the device goes. -/
theorem jobOperation_sameClients (operation : JobOperation)
    (beside : (Operation.job operation).besideClients = true) :
    Moves (SameClients relation) (jobOperation operation) := by
  cases operation with
  | createJob name client increments =>
    exact Moves.bind (find_moves _ _) fun _ => Moves.bind (Moves.check _) fun _ =>
      Moves.bind (keepJob_moves moves _ _) fun _ => Moves.pure _
  | newJob name syncpoint increments =>
    exact Moves.bind (keepJob_moves moves _ _) fun _ => Moves.pure _
  | append name buffer offset =>
    refine Moves.bind (find_moves _ _) fun _ => Moves.bind (find_moves _ _) fun _ =>
      Moves.bind (onHost_moves (Job.append_moves _ _ _)) fun appended =>
        Moves.bind (rename_moves fun _ => ⟨rfl, rfl⟩) fun _ => ?_
    cases appended.pushbuffers.getLast? with
    | none => exact Moves.pure _
    | some pushbuffer => exact Moves.read _
  | release name =>
    exact Moves.bind (find_moves _ _) fun _ =>
      Moves.bind (rename_moves fun _ => ⟨rfl, rfl⟩) fun _ =>
        Moves.bind (onHost_moves (moves.jobRelease _)) fun _ => Moves.pure _
  | submit client job =>
    exact Moves.bind (find_moves _ _) fun _ =>
      Moves.bind (onJob_moves _ (moves.clientSubmit _)) fun _ => Moves.pure _
  | flush client job =>
    exact Moves.bind (find_moves _ _) fun _ =>
      Moves.bind (onJob_moves _ (moves.clientFlush _)) fun _ => Moves.pure _
  | waitJob client job timeout =>
    exact Moves.bind (find_moves _ _) fun _ =>
      Moves.bind (onJob_moves _ (moves.clientWaitJob _)) fun _ => Moves.pure _
  | finish client job =>
    exact Moves.bind (find_moves _ _) fun _ =>
      Moves.bind (onJob_moves _ (moves.clientFinish _)) fun _ => Moves.pure _
  | openClient | releaseClient => simp [Operation.besideClients] at beside
  | clientSyncpoint | describe | toSubmission | list =>
    exact jobOperation_steps SameClients.steps rfl rfl

/-- An operation that neither opens a channel for a client nor gives a client up leaves the clients
as they are. It goes where the device goes, if it does so where it sets the instrumented device up,
allocates, or works on the simulated device directly. -/
theorem perform_sameClients (operation : Operation) (beside : operation.besideClients = true)
    (allocates : ∀ name size flags pretending,
      operation = .buffer (.allocate name size flags pretending) →
        Moves (SameClients relation) (allocateBuffer size flags pretending))
    (direct : ∀ inner, operation = .simulator inner →
      Moves relation (Instrumented.passOn (Simulator.operation inner)))
    (setsUp : ∀ inner, operation = .instrument inner →
      Moves (SameClients relation) (instrumentOperation inner)) :
    Moves (SameClients relation) (perform operation) := by
  cases operation with
  | buffer operation =>
    exact bufferOperation_sameClients moves operation fun name size flags pretending same =>
      allocates name size flags pretending (congrArg _ same)
  | mapping operation => exact mappingOperation_steps SameClients.steps moves.toWorksBy operation
  | pushbuffer operation => exact pushBufferOperation_sameClients moves operation
  | job operation => exact jobOperation_sameClients moves operation beside
  | wait operation => exact waitOperation_steps SameClients.steps moves.toWorksBy operation
  | simulator operation => exact onDevice_moves (direct operation rfl)
  | instrument operation => exact setsUp operation rfl

end BesideClients

/-- Every operation goes where the device goes, if it does so where it sets the instrumented device
up, allocates, or works on the simulated device directly. -/
theorem perform_movesBy (moves : Device.MovesBy relation) (operation : Operation)
    (allocates : ∀ name size flags pretending,
      operation = .buffer (.allocate name size flags pretending) →
        Moves (SameClients relation) (allocateBuffer size flags pretending))
    (direct : ∀ inner, operation = .simulator inner →
      Moves relation (Instrumented.passOn (Simulator.operation inner)))
    (setsUp : ∀ inner, operation = .instrument inner →
      Moves (SameClients relation) (instrumentOperation inner)) :
    Moves (Action.Along device relation) (perform operation) := by
  intro session
  by_cases beside : operation.besideClients = true
  · exact (perform_sameClients moves.toBesideChannelsBy operation beside allocates direct setsUp
      session).device
  · cases operation with
    | job operation =>
      cases operation with
      | openClient name engineClass =>
        exact (openClient_sameHolders moves.toQuietBy name engineClass session).device
      | releaseClient name => exact (giveUpClient_sameHolders moves.toQuietBy name session).device
      | _ => exact absurd rfl beside
    | _ => exact absurd rfl beside

/-- Whether sizes are pretended or not, allocating takes the simulated device where its methods
go. -/
theorem allocateBuffer_moves {relation : Simulator → Simulator → Prop}
    [IsPreorder Simulator relation] (moves : Device.BesideChannelsBy relation) (size : UInt64)
    (flags : BufferFlags) (pretending : Bool) :
    Moves (SameClients (Action.Along Instrumented.inner relation))
      (allocateBuffer size flags pretending) := by
  intro session
  have around := Instrumented.besideChannelsBy moves
  have moved := around.bufferAllocate size flags
    { session.host with device := { session.host.device with pretending } }
  exact ⟨moved, rfl⟩

/-- Setting up what the instrumented device does next leaves the simulated device alone. -/
theorem instrumentOperation_moves {relation : Simulator → Simulator → Prop}
    [IsPreorder Simulator relation] (operation : InstrumentOperation) :
    Moves (SameClients (Action.Along Instrumented.inner relation))
      (instrumentOperation operation) := by
  cases operation with
  | arm method fault =>
    exact Moves.bind (onDevice_moves (Moves.update fun device => refl_of relation device.inner))
      fun _ => Moves.pure _
  | shorten bytes =>
    exact Moves.bind (onDevice_moves (Moves.update fun device => refl_of relation device.inner))
      fun _ => Moves.pure _

end HostChannel.Session

namespace HostChannel

open HostChannel.Action (Moves)

namespace Simulator

section Direct

variable {relation : Simulator → Simulator → Prop}

/-- The methods of the simulated device that neither make nor give up a buffer or a channel, and
writes to its memory, are requests. -/
theorem worksBy_of_respond
    (step : ∀ simulator request, Request.quiet request = true → request.besideChannels = true →
      relation simulator (simulator.respond request)) : Device.WorksBy relation where
  map handle simulator := step simulator (.call (.map handle)) rfl rfl
  flush handle offset length simulator :=
    step simulator (.call (.flush handle offset length)) rfl rfl
  invalidate handle offset length simulator :=
    step simulator (.call (.invalidate handle offset length)) rfl rfl
  submit submission simulator := step simulator (.call (.submit submission)) rfl rfl
  flushSubmissions channel simulator := step simulator (.call (.flushSubmissions channel)) rfl rfl
  readSyncpoint index simulator := step simulator (.call (.readSyncpoint index)) rfl rfl
  waitSyncpoint index threshold timeout simulator :=
    step simulator (.call (.waitSyncpoint index threshold timeout)) rfl rfl
  write region position data simulator := step simulator (.write region position data) rfl rfl

/-- So are those that open and close channels. -/
theorem quietBy_of_respond
    (step : ∀ simulator request, Request.quiet request = true →
      relation simulator (simulator.respond request)) : Device.QuietBy relation where
  toWorksBy := worksBy_of_respond fun simulator request quiet _ => step simulator request quiet
  openChannel engineClass simulator := step simulator (.call (.openChannel engineClass)) rfl
  closeChannel channel simulator := step simulator (.call (.closeChannel channel)) rfl

/-- So are those that allocate and release. -/
theorem besideChannelsBy_of_respond
    (step : ∀ simulator request, Request.besideChannels request = true →
      relation simulator (simulator.respond request)) : Device.BesideChannelsBy relation where
  toWorksBy := worksBy_of_respond fun simulator request _ beside => step simulator request beside
  allocate size flags simulator := step simulator (.call (.allocate size flags)) rfl
  release handle simulator := step simulator (.call (.release handle)) rfl

/-- So is everything that a session does to the simulated device directly. Making and giving up
buffers and channels are looked at by themselves. -/
theorem operation_moves [IsPreorder Simulator relation]
    (step : ∀ simulator request, Request.quiet request = true → request.besideChannels = true →
      relation simulator (simulator.respond request)) (operation : SimulatorOperation)
    (allocates : ∀ size flags, operation = .allocate size flags →
      Moves relation (Device.allocate size flags : Action Simulator Handle))
    (releases : ∀ handle, operation = .release handle → Moves relation (release handle))
    (opens : ∀ engineClass, operation = .openChannel engineClass →
      Moves relation (openChannel engineClass))
    (closes : ∀ channel, operation = .closeChannel channel →
      Moves relation (closeChannel channel)) :
    Moves relation (Simulator.operation operation) := by
  have moves := worksBy_of_respond step
  cases operation with
  | runPending =>
    exact Moves.bind (fun simulator => step simulator .runPending rfl rfl) fun _ => Moves.pure _
  | increment syncpoint times =>
    exact Moves.bind (fun simulator => step simulator (.increment syncpoint times) rfl rfl)
      fun _ => Moves.pure _
  | pending => exact Moves.read _
  | live => exact Moves.read _
  | address handle => exact Moves.read _
  | statistics => exact Moves.read _
  | reserved syncpoint =>
    refine Moves.bind (Moves.bind (fun simulator => ?_) fun _ => Moves.pure _) fun _ => Moves.pure _
    rw [← findSyncpoint_moves syncpoint simulator]
    exact refl_of relation simulator
  | allocate size flags => exact Moves.bind (allocates size flags rfl) fun _ => Moves.pure _
  | release handle => exact Moves.bind (releases handle rfl) fun _ => Moves.pure _
  | read handle offset length =>
    exact Moves.bind (moves.map handle) fun _ => Moves.bind (Moves.read _) fun _ => Moves.pure _
  | write handle offset words =>
    exact Moves.bind (moves.map handle) fun _ =>
      Moves.bind (Moves.update fun _ => moves.write _ _ _ _) fun _ => Moves.pure _
  | flush handle offset length =>
    exact Moves.bind (moves.flush handle offset length) fun _ => Moves.pure _
  | invalidate handle offset length =>
    exact Moves.bind (moves.invalidate handle offset length) fun _ => Moves.pure _
  | openChannel engineClass => exact Moves.bind (opens engineClass rfl) fun _ => Moves.pure _
  | closeChannel channel => exact Moves.bind (closes channel rfl) fun _ => Moves.pure _
  | submit submission => exact Moves.bind (moves.submit submission) fun _ => Moves.pure _
  | flushSubmissions channel =>
    exact Moves.bind (moves.flushSubmissions channel) fun _ => Moves.pure _

end Direct

/-- A method of the simulated device takes it where requests take it. -/
theorem movesBy_reaches : Device.MovesBy Reaches where
  toQuietBy := quietBy_of_respond fun simulator request _ => simulator.reaches_respond request
  allocate size flags simulator := simulator.reaches_respond (.call (.allocate size flags))
  release handle simulator := simulator.reaches_respond (.call (.release handle))

/-- So does everything that a session does to the simulated device directly. -/
theorem operation_reaches (operation : SimulatorOperation) :
    Moves Reaches (Simulator.operation operation) :=
  operation_moves (fun simulator request _ _ => simulator.reaches_respond request) operation
    (fun size flags _ => movesBy_reaches.allocate size flags)
    (fun handle _ => movesBy_reaches.release handle)
    (fun engineClass _ => movesBy_reaches.openChannel engineClass)
    fun channel _ => movesBy_reaches.closeChannel channel

end Simulator

namespace Session

/-- Every operation of a session takes the simulated device where requests take it. -/
theorem reaches_perform (operation : Operation) (session : Session) :
    session.simulator.Reaches (perform operation session).2.simulator := by
  have moves := Instrumented.movesBy Simulator.movesBy_reaches
  refine perform_movesBy moves operation ?_ ?_ ?_ session
  · intro name size flags pretending _
    exact allocateBuffer_moves Simulator.movesBy_reaches.toBesideChannelsBy size flags pretending
  · intro inner _
    exact Instrumented.passOn_moves (Simulator.operation_reaches inner)
  · intro inner _
    exact instrumentOperation_moves inner

/-- What every operation of a kind keeps, a run of such operations keeps. -/
theorem run_keeps {kind : Operation → Bool} {invariant : Session → Prop}
    (step : ∀ operation session, kind operation = true → invariant session →
      invariant (perform operation session).2)
    {operations : List Operation} (ofKind : ∀ operation ∈ operations, kind operation = true)
    {session : Session} (start : invariant session) : invariant (session.run operations) := by
  induction operations generalizing session with
  | nil => exact start
  | cons operation rest ih =>
    obtain ⟨first, others⟩ := List.forall_mem_cons.mp ofKind
    exact ih others (step operation session first start)

/-- Every run takes the simulated device where requests can. -/
theorem reaches_run (operations : List Operation) (session : Session) :
    session.simulator.Reaches (session.run operations).simulator := by
  induction operations generalizing session with
  | nil => exact refl_of Simulator.Reaches session.simulator
  | cons operation rest ih =>
    exact trans_of Simulator.Reaches (reaches_perform operation session) (ih _)

end Session

end HostChannel

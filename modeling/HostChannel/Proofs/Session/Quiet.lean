import HostChannel.Proofs.Device
import HostChannel.Session.Run

/-!
# Operations that touch no allocation

Many operations of a session reach the device, and otherwise name or forget mappings, clients and
waiters at most. They leave the buffers, pushbuffers and jobs of the session alone, and what the
host keeps of its allocations. What such an operation does is said here once, for whatever may be
said of the device (`Steps`): of sessions in general where it leaves the clients alone, and of the
holders (`SameHolders`) where it does not.
-/

namespace HostChannel

open HostChannel.Action (Moves Upholds)

/-- The operation makes, changes and gives up no buffer, pushbuffer or job, and reaches no device
but through the library. -/
def Operation.quiet : Operation → Bool
  | .buffer (.describe _) => true
  | .buffer (.sharesAllocation _ _) => true
  | .buffer (.flush _ _ _) => true
  | .buffer (.invalidate _ _ _) => true
  | .buffer (.mapping _ _) => true
  | .mapping _ => true
  | .pushbuffer (.describe _) => true
  | .pushbuffer (.words _) => true
  | .job (.openClient _ _) => true
  | .job (.clientSyncpoint _) => true
  | .job (.releaseClient _) => true
  | .job (.describe _) => true
  | .job (.toSubmission _ _) => true
  | .job (.list _) => true
  | .wait _ => true
  | _ => false

/-- The operation neither opens a channel for a client nor gives a client up. -/
def Operation.besideClients : Operation → Bool
  | .job (.openClient _ _) => false
  | .job (.releaseClient _) => false
  | _ => true

/-- A client is connected with the channel that the device opens, and nothing else changes. -/
theorem Client.connect_apply {σ : Type} [Device σ] (engineClass : Word) (host : Host σ) :
    Client.connect engineClass host =
      ((Device.openChannel engineClass host.device).1.map fun channel =>
          ⟨channel, host.configuration.defaultTimeout⟩,
        { host with device := (Device.openChannel engineClass host.device).2 }) := by
  simp only [connect, Action.bind_apply, Action.read_apply, Host.onDevice, Action.within_apply]
  cases (Device.openChannel engineClass host.device).1 <;> rfl

namespace Session

/-- The instrumented device. -/
def device (session : Session) : Instrumented Simulator :=
  session.host.device

/-- An action on the host gives what it gives there, and leaves the rest of the session. -/
theorem onHost_run {α : Type} {action : Action (Host (Instrumented Simulator)) α}
    {session : Session} {outcome : Except Failure α} {host : Host (Instrumented Simulator)}
    (run : action session.host = (outcome, host)) :
    onHost action session = (outcome, { session with host }) :=
  Action.within_run run

/-- So does an action on the device. -/
theorem onDevice_run {α : Type} {action : Action (Instrumented Simulator) α} {session : Session}
    {outcome : Except Failure α} {device : Instrumented Simulator}
    (run : action session.device = (outcome, device)) :
    onDevice action session =
      (outcome, { session with host := { session.host with device } }) :=
  onHost_run (Host.onDevice_run run)

variable {relation : Instrumented Simulator → Instrumented Simulator → Prop}

/-- The relation between sessions holds where only the device has moved, as the relation between
devices says, and where only mappings and waiters have been named and forgotten. -/
structure Steps (relation : Instrumented Simulator → Instrumented Simulator → Prop)
    (rel : Session → Session → Prop) : Prop where
  /-- The device may move. -/
  device : ∀ (session : Session) (device : Instrumented Simulator),
    relation session.device device →
      rel session { session with host := { session.host with device } }
  /-- Mappings and waiters may be named and forgotten. -/
  others : ∀ (session : Session) (mappings : Slots Mapping) (waiters : Slots Thread),
    rel session { session with mappings, waiters }

/-- The second session has the holders and the allocations of the first one, and a device that
stands in the relation to that of the first. -/
structure SameHolders (relation : Instrumented Simulator → Instrumented Simulator → Prop)
    (first second : Session) : Prop where
  /-- The devices stand in the relation. -/
  device : relation first.device second.device
  /-- The host is the same but for its device. -/
  host : second.host = { first.host with device := second.device }
  /-- The buffers are the same. -/
  buffers : second.buffers = first.buffers
  /-- The pushbuffers are. -/
  pushbuffers : second.pushbuffers = first.pushbuffers
  /-- The jobs are. -/
  jobs : second.jobs = first.jobs

instance [IsPreorder (Instrumented Simulator) relation] :
    IsPreorder Session (SameHolders relation) where
  refl session := ⟨refl_of relation session.device, rfl, rfl, rfl, rfl⟩
  trans _ _ _ earlier later :=
    ⟨trans_of relation earlier.device later.device, by rw [later.host, earlier.host],
      later.buffers.trans earlier.buffers, later.pushbuffers.trans earlier.pushbuffers,
      later.jobs.trans earlier.jobs⟩

/-- The holders are the same where only the device has moved. -/
theorem SameHolders.steps [IsPreorder (Instrumented Simulator) relation] :
    Steps relation (SameHolders relation) where
  device _ _ moved := ⟨moved, rfl, rfl, rfl, rfl⟩
  others session _ _ := ⟨refl_of relation session.device, rfl, rfl, rfl, rfl⟩

/-- An action on the device disturbs nothing. -/
theorem onDevice_sameHolders {α : Type} {action : Action (Instrumented Simulator) α}
    (goes : Moves relation action) : Moves (SameHolders relation) (onDevice action) :=
  fun session => ⟨goes session.device, rfl, rfl, rfl, rfl⟩

/-- An action on the device is a step of the session. -/
theorem Steps.onDevice {rel : Session → Session → Prop} (steps : Steps relation rel) {α : Type}
    {action : Action (Instrumented Simulator) α} (goes : Moves relation action) :
    Moves rel (onDevice action) :=
  fun session => steps.device session _ (goes session.device)

/-- Finding an object changes nothing. -/
theorem find_moves {α : Type} {rel : Session → Session → Prop} [Std.Refl rel]
    (slots : Session → Slots α) (name : String) : Moves rel (find slots name) := by
  intro session
  simp only [find]
  split <;> exact refl_of rel session

/-- What is found was there. -/
theorem find_upholds {α : Type} {invariant : Session → Prop} {property : α → Prop}
    {slots : Session → Slots α} {name : String}
    (holds : ∀ session, invariant session → ∀ object, (slots session)[name]? = some object →
      property object) : Upholds invariant (find slots name) property := by
  intro session held
  simp only [find]
  cases found : (slots session)[name]? with
  | none => exact ⟨held, fun _ given => absurd given (by simp)⟩
  | some object =>
    exact ⟨held, fun _ given => Except.ok.inj given ▸ holds session held object found⟩

/-- Looking for something changes nothing. -/
theorem seek_upholds {α : Type} {invariant : Session → Prop} (slots : Session → Slots α)
    (name : String) : Upholds invariant (find slots name) fun _ => True :=
  find_upholds fun _ _ _ _ => trivial

/-- Looking whether there is a pushbuffer changes nothing. -/
theorem checkPlace_upholds {invariant : Session → Prop} (place : PushBufferPlace) :
    Upholds invariant (checkPlace place) fun _ => True := by
  cases place with
  | named name => exact Upholds.bind (seek_upholds pushbuffers name) fun _ _ => Upholds.pure trivial
  | inJob job index => exact Upholds.bind (seek_upholds jobs job) fun _ _ => Upholds.pure trivial

/-- Looking for a pushbuffer changes nothing. -/
theorem seePushBuffer_moves {rel : Session → Session → Prop} [IsPreorder Session rel]
    (place : PushBufferPlace) : Moves rel (seePushBuffer place) := by
  cases place with
  | named name => exact Moves.bind (find_moves _ _) fun _ => Moves.pure _
  | inJob job index => exact Moves.bind (find_moves _ _) fun _ => Moves.pure _

section Quiet

variable [IsPreorder (Instrumented Simulator) relation] {rel : Session → Session → Prop}
  [IsPreorder Session rel] (steps : Steps relation rel) (moves : Device.WorksBy relation)

include steps

omit [IsPreorder (Instrumented Simulator) relation] in
/-- Naming a mapping disturbs nothing. -/
theorem keepMapping_steps (name : Option String) (mapping : Mapping) :
    Moves rel (keepMapping name mapping) := by
  cases name with
  | none => exact Moves.pure ()
  | some name => exact Moves.update fun session => steps.others session _ _

/-- Looking at a pushbuffer disturbs nothing. -/
theorem pushBufferOperation_steps {operation : PushBufferOperation}
    (quiet : (Operation.pushbuffer operation).quiet = true) :
    Moves rel (pushBufferOperation operation) := by
  cases operation with
  | describe place =>
    refine Moves.bind (seePushBuffer_moves place) fun pushbuffer => ?_
    cases pushbuffer with
    | none => exact Moves.pure _
    | some pushbuffer => exact Moves.read _
  | words place =>
    refine Moves.bind (seePushBuffer_moves place) fun pushbuffer => ?_
    cases pushbuffer with
    | none => exact Moves.pure _
    | some pushbuffer =>
      exact Moves.bind (steps.onDevice (Device.WorksBy.fetchWords _ _ _)) fun _ => Moves.pure _
  | openAt | release | push | pushSingle | pushWords | relocate | select =>
    simp [Operation.quiet] at quiet

/-- Looking at a client or a job disturbs nothing. -/
theorem jobOperation_steps {operation : JobOperation}
    (quiet : (Operation.job operation).quiet = true)
    (beside : (Operation.job operation).besideClients = true) :
    Moves rel (jobOperation operation) := by
  cases operation with
  | clientSyncpoint client =>
    exact Moves.bind (find_moves _ _) fun _ => Moves.bind (Moves.check _) fun _ => Moves.pure _
  | describe job => exact Moves.bind (find_moves _ _) fun _ => Moves.pure _
  | toSubmission job channel =>
    exact Moves.bind (find_moves _ _) fun _ => Moves.bind (Moves.check _) fun _ => Moves.pure _
  | list job =>
    exact Moves.bind (find_moves _ _) fun _ =>
      Moves.bind (steps.onDevice (Device.WorksBy.appendSections _ _ _)) fun _ => Moves.pure _
  | openClient | releaseClient => simp [Operation.besideClients] at beside
  | createJob | newJob | append | release | submit | flush | waitJob | finish =>
    simp [Operation.quiet] at quiet

include moves

/-- Operations on mappings disturb nothing. -/
theorem mappingOperation_steps (operation : MappingOperation) :
    Moves rel (mappingOperation operation) := by
  cases operation with
  | sharesMemory first second =>
    exact Moves.bind (find_moves _ _) fun _ => Moves.bind (find_moves _ _) fun _ => Moves.pure _
  | readBytes mapping offset count =>
    exact Moves.bind (find_moves _ _) fun _ =>
      Moves.bind (steps.onDevice (Moves.bind (Moves.makeRoom _) fun _ =>
        Moves.bind (Moves.check _) fun _ => Moves.read _)) fun _ => Moves.pure _
  | writeBytes mapping offset data =>
    exact Moves.bind (find_moves _ _) fun _ =>
      Moves.bind (steps.onDevice (moves.writeBytes _ _ _)) fun _ => Moves.pure _
  | readWord mapping offset =>
    exact Moves.bind (find_moves _ _) fun _ =>
      Moves.bind (steps.onDevice (Moves.bind (Device.WorksBy.fetchWords _ _ _) fun _ =>
        Moves.pure _)) fun _ => Moves.pure _
  | writeWord mapping offset word =>
    exact Moves.bind (find_moves _ _) fun _ =>
      Moves.bind (steps.onDevice (moves.writeBytes _ _ _)) fun _ => Moves.pure _
  | readWords mapping offset count =>
    exact Moves.bind (find_moves _ _) fun _ =>
      Moves.bind (steps.onDevice (Device.WorksBy.readWords _ _ _)) fun _ => Moves.pure _
  | writeWords mapping offset words =>
    exact Moves.bind (find_moves _ _) fun _ =>
      Moves.bind (steps.onDevice (moves.writeBytes _ _ _)) fun _ => Moves.pure _
  | release mapping =>
    exact Moves.bind (find_moves _ _) fun _ =>
      Moves.bind (Moves.update fun session => steps.others session _ _) fun _ => Moves.pure _

omit [IsPreorder (Instrumented Simulator) relation] in
/-- Operations on syncpoints disturb nothing. -/
theorem waitOperation_steps (operation : WaitOperation) :
    Moves rel (waitOperation operation) := by
  cases operation with
  | value syncpoint =>
    exact Moves.bind (steps.onDevice (moves.readSyncpoint _)) fun _ => Moves.pure _
  | wait fence timeout =>
    exact Moves.bind (steps.onDevice (moves.waitSyncpoint _ _ _)) fun _ => Moves.pure _
  | clientWait client fence timeout =>
    exact Moves.bind (find_moves _ _) fun _ =>
      Moves.bind (steps.onDevice (moves.waitSyncpoint _ _ _)) fun _ => Moves.pure _
  | spawn name fence timeout =>
    exact Moves.bind (Moves.update fun session => steps.others session _ _) fun _ => Moves.pure _
  | join name =>
    refine Moves.bind (find_moves _ _) fun waiter =>
      Moves.bind (Moves.update fun session => steps.others session _ _) fun _ =>
        Moves.bind (Moves.read _) fun syncpoints => ?_
    cases joined syncpoints waiter with
    | ok outcome => exact Moves.pure _
    | error failure => exact Moves.fail _

/-- Quiet operations on buffers disturb nothing. -/
theorem bufferOperation_steps {operation : BufferOperation}
    (quiet : (Operation.buffer operation).quiet = true) :
    Moves rel (bufferOperation operation) := by
  cases operation with
  | describe buffer => exact Moves.bind (find_moves _ _) fun _ => Moves.read _
  | sharesAllocation first second =>
    exact Moves.bind (find_moves _ _) fun _ => Moves.bind (find_moves _ _) fun _ => Moves.pure _
  | flush buffer offset length =>
    exact Moves.bind (find_moves _ _) fun _ =>
      Moves.bind (steps.onDevice (moves.bufferFlush _ _ _)) fun _ => Moves.pure _
  | invalidate buffer offset length =>
    exact Moves.bind (find_moves _ _) fun _ =>
      Moves.bind (steps.onDevice (moves.bufferInvalidate _ _ _)) fun _ => Moves.pure _
  | mapping name buffer =>
    refine Moves.bind (find_moves _ _) fun _ => Moves.bind (Moves.read _) fun mapping => ?_
    cases mapping with
    | none => exact Moves.pure _
    | some mapping =>
      exact Moves.bind (keepMapping_steps steps name mapping) fun _ => Moves.pure _
  | allocate | window | release | map => simp [Operation.quiet] at quiet

/-- A quiet operation that leaves the clients alone disturbs nothing, and takes the device where its
methods go. -/
theorem perform_steps {operation : Operation} (quiet : operation.quiet = true)
    (beside : operation.besideClients = true) : Moves rel (perform operation) := by
  cases operation with
  | buffer operation => exact bufferOperation_steps steps moves quiet
  | mapping operation => exact mappingOperation_steps steps moves operation
  | pushbuffer operation => exact pushBufferOperation_steps steps quiet
  | job operation => exact jobOperation_steps steps quiet beside
  | wait operation => exact waitOperation_steps steps moves operation
  | simulator operation => simp [Operation.quiet] at quiet
  | instrument operation => simp [Operation.quiet] at quiet

end Quiet

section Holders

variable [IsPreorder (Instrumented Simulator) relation] (moves : Device.QuietBy relation)

/-- Naming and forgetting clients disturbs no holder. -/
theorem clients_sameHolders (session : Session) (clients : Slots Client) :
    SameHolders relation session { session with clients } :=
  ⟨refl_of relation session.device, rfl, rfl, rfl, rfl⟩

include moves

omit [IsPreorder (Instrumented Simulator) relation] in
/-- Giving a client up is closing its channel. -/
theorem releaseClient_sameHolders (client : Client) :
    Moves (SameHolders relation) (releaseClient client) :=
  onDevice_sameHolders (Moves.regardless (moves.closeChannel _))

/-- Naming a client gives up what had the name before. -/
theorem keepClient_sameHolders (name : String) (client : Client) :
    Moves (SameHolders relation) (keepClient name client) := by
  refine Moves.bind (Moves.read _) fun before =>
    Moves.bind (Moves.update fun session => clients_sameHolders session _) fun _ => ?_
  cases before with
  | none => exact Moves.pure ()
  | some old => exact releaseClient_sameHolders moves old

/-- Opening a channel for a client disturbs no holder. -/
theorem openClient_sameHolders (name : String) (engineClass : Word) :
    Moves (SameHolders relation) (jobOperation (.openClient name engineClass)) := by
  refine Moves.bind (fun session => ⟨?_, ?_, rfl, rfl, rfl⟩) fun client =>
    Moves.bind (keepClient_sameHolders moves name client) fun _ => Moves.pure _
  · exact moves.connect engineClass session.host
  · change (Client.connect engineClass session.host).2 =
      { session.host with device := (Client.connect engineClass session.host).2.device }
    rw [Client.connect_apply]

/-- Nor does giving a client up. -/
theorem giveUpClient_sameHolders (name : String) :
    Moves (SameHolders relation) (jobOperation (.releaseClient name)) :=
  Moves.bind (find_moves _ _) fun client =>
    Moves.bind (Moves.update fun session => clients_sameHolders session _) fun _ =>
      Moves.bind (releaseClient_sameHolders moves client) fun _ => Moves.pure _

/-- Operations on clients, and looking at a job, disturb no holder. -/
theorem jobOperation_sameHolders {operation : JobOperation}
    (quiet : (Operation.job operation).quiet = true) :
    Moves (SameHolders relation) (jobOperation operation) := by
  by_cases beside : (Operation.job operation).besideClients = true
  · exact jobOperation_steps SameHolders.steps quiet beside
  · cases operation with
    | openClient name engineClass => exact openClient_sameHolders moves name engineClass
    | releaseClient name => exact giveUpClient_sameHolders moves name
    | _ => exact absurd rfl beside

/-- A quiet operation disturbs no holder, and takes the device where its methods go. -/
theorem perform_sameHolders {operation : Operation} (quiet : operation.quiet = true) :
    Moves (SameHolders relation) (perform operation) := by
  by_cases beside : operation.besideClients = true
  · exact perform_steps SameHolders.steps moves.toWorksBy quiet beside
  · cases operation with
    | job operation => exact jobOperation_sameHolders moves quiet
    | _ => exact absurd rfl beside

end Holders

end Session

end HostChannel

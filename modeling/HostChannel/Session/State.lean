import HostChannel.Backend
import HostChannel.Client
import HostChannel.Instrumented
import HostChannel.Waiting

/-!
# Sessions

A session keeps named objects on a host whose device is an instrumented simulation. Each
kind of object has names of its own. An object is given up when its name is freed or taken
over by another object; the new object is made before the old one is given up. Whatever is
left at the end is given up kind by kind, in the order of the names.
-/

namespace HostChannel

/-- Objects by name. -/
abbrev Slots (α : Type) := Std.ExtTreeMap String α

/-- Named objects on a host. -/
structure Session where
  /-- The host. -/
  host : Host (Instrumented Simulator)
  /-- The buffers. -/
  buffers : Slots Buffer
  /-- The mappings. -/
  mappings : Slots Mapping
  /-- The pushbuffers that belong to no job. -/
  pushbuffers : Slots PushBuffer
  /-- The jobs. -/
  jobs : Slots Job
  /-- The clients. -/
  clients : Slots Client
  /-- The threads that wait on the simulated device. -/
  waiters : Slots Thread

namespace Session

variable {α : Type}

/-- A session without objects, on a fresh device. -/
def initial (configuration : Configuration) : Session where
  host := .ofDevice configuration (.ofDevice (.initial configuration.simulator))
  buffers := ∅
  mappings := ∅
  pushbuffers := ∅
  jobs := ∅
  clients := ∅
  waiters := ∅

/-- The simulated device. -/
def simulator (session : Session) : Simulator :=
  session.host.device.inner

/-- An action on the host. -/
def onHost (action : Action (Host (Instrumented Simulator)) α) : Action Session α :=
  action.within host fun session host => { session with host }

/-- An action on the instrumented device. -/
def onDevice (action : Action (Instrumented Simulator) α) : Action Session α :=
  onHost (Host.onDevice action)

/-- An action on the simulated device that the instrumented device does not see. -/
def onSimulator (action : Action Simulator α) : Action Session α :=
  onDevice (Instrumented.passOn action)

/-- The object of a name. -/
def find (slots : Session → Slots α) (name : String) : Action Session α := fun session =>
  match (slots session)[name]? with
  | some object => (.ok object, session)
  | none => (.error .absent, session)

/-- Finds the buffer of a name. -/
def findBuffer : String → Action Session Buffer := find buffers
/-- Finds the mapping of a name. -/
def findMapping : String → Action Session Mapping := find mappings
/-- Finds the pushbuffer of a name. -/
def findPushBuffer : String → Action Session PushBuffer := find pushbuffers
/-- Finds the job of a name. -/
def findJob : String → Action Session Job := find jobs
/-- Finds the client of a name. -/
def findClient : String → Action Session Client := find clients
/-- Finds the waiter of a name. -/
def findWaiter : String → Action Session Thread := find waiters

/-- Gives up what had a name before, if anything did. -/
def giveUp (release : α → Action Session Unit) : Option α → Action Session Unit
  | some object => release object
  | none => pure ()

/-- Gives up a buffer. -/
def releaseBuffer (buffer : Buffer) : Action Session Unit :=
  onHost buffer.release

/-- Gives up a pushbuffer. -/
def releasePushBuffer (pushbuffer : PushBuffer) : Action Session Unit :=
  onHost pushbuffer.release

/-- Gives up a job. -/
def releaseJob (job : Job) : Action Session Unit :=
  onHost job.release

/-- Gives up a client. -/
def releaseClient (client : Client) : Action Session Unit :=
  onDevice client.release

/-- Names a buffer. -/
def keepBuffer (name : String) (buffer : Buffer) : Action Session Unit := do
  let before ← Action.read fun session => session.buffers[name]?
  Action.update fun session => { session with buffers := session.buffers.insert name buffer }
  giveUp releaseBuffer before

/-- Names a mapping, if a name is given. -/
def keepMapping (name : Option String) (mapping : Mapping) : Action Session Unit :=
  match name with
  | some name =>
    Action.update fun session => { session with mappings := session.mappings.insert name mapping }
  | none => pure ()

/-- Names a pushbuffer. -/
def keepPushBuffer (name : String) (pushbuffer : PushBuffer) : Action Session Unit := do
  let before ← Action.read fun session => session.pushbuffers[name]?
  Action.update fun session =>
    { session with pushbuffers := session.pushbuffers.insert name pushbuffer }
  giveUp releasePushBuffer before

/-- Names a job. -/
def keepJob (name : String) (job : Job) : Action Session Unit := do
  let before ← Action.read fun session => session.jobs[name]?
  Action.update fun session => { session with jobs := session.jobs.insert name job }
  giveUp releaseJob before

/-- Names a client. -/
def keepClient (name : String) (client : Client) : Action Session Unit := do
  let before ← Action.read fun session => session.clients[name]?
  Action.update fun session => { session with clients := session.clients.insert name client }
  giveUp releaseClient before

/-- Puts a changed job in the place of the job of the same name. -/
def changeJob (name : String) (job : Job) : Action Session Unit :=
  Action.update fun session => { session with jobs := session.jobs.insert name job }

/-- An action on the job of a name, beside the device. -/
def onJob (name : String) (action : Action (Job × Instrumented Simulator) α) :
    Action Session α := do
  let job ← findJob name
  fun session =>
    let (outcome, (changed, device)) := action (job, session.host.device)
    (outcome,
      { session with
        host := { session.host with device }
        jobs := session.jobs.insert name changed })

/-- Gives up what is left: jobs, pushbuffers, mappings, buffers and clients. -/
def finish : Action Session Unit := do
  (← Action.read fun session => session.jobs.values).forM releaseJob
  (← Action.read fun session => session.pushbuffers.values).forM releasePushBuffer
  (← Action.read fun session => session.buffers.values).forM releaseBuffer
  (← Action.read fun session => session.clients.values).forM releaseClient
  Action.update fun session =>
    { session with jobs := ∅, pushbuffers := ∅, mappings := ∅, buffers := ∅, clients := ∅ }

/-- The calls of the device since they were last taken. -/
def takeCalls (session : Session) : List Call × Session :=
  (session.host.device.calls.toList,
    { session with
      host := { session.host with device := { session.host.device with calls := #[] } } })

end Session

end HostChannel

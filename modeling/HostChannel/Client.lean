import HostChannel.Job

/-!
# Clients

A client submits jobs to an open channel and waits for them. `submit` makes the words of
the job visible to the device before the device is given the job, and leaves the job as it
is if anything fails. `flush` counts the job as flushed before the device is asked to start
on it.
-/

namespace HostChannel

/-- A user of an open channel. -/
structure Client where
  /-- The channel. -/
  channel : Channel
  /-- How long `finish` waits. -/
  defaultTimeout : Timeout
  deriving DecidableEq, Repr

namespace Client

variable {σ : Type}

/-- Opens a channel of the host to the engine of a class. -/
def connect [Device σ] (engineClass : Word) : Action (Host σ) Client := do
  let defaultTimeout ← Action.read fun host => host.configuration.defaultTimeout
  let channel ← Host.onDevice (Device.openChannel engineClass)
  pure ⟨channel, defaultTimeout⟩

/-- The client's first syncpoint. -/
def syncpoint (client : Client) : Except Error Word :=
  match client.channel.syncpoints with
  | syncpoint :: _ => .ok syncpoint
  | [] => .error (.noSyncpoint 0)

/-- A job on the client's first syncpoint. -/
def createJob (client : Client) (increments : Word) : Except Error Job := do
  let syncpoint ← client.syncpoint
  pure (Job.create syncpoint increments)

/-- An action on the device beside a job. -/
def onDevice {α : Type} (action : Action σ α) : Action (Job × σ) α :=
  action.within Prod.snd fun state device => (state.1, device)

/-- Changes the job beside a device. -/
def setJob (job : Job) : Action (Job × σ) Unit :=
  Action.update fun state => (job, state.2)

/-- Submits the job. -/
def submit [Device σ] (client : Client) : Action (Job × σ) Unit := do
  let job ← Action.read Prod.fst
  Action.check job.checkSubmittable
  job.pushbuffers.forM fun pushbuffer => onDevice pushbuffer.flushWritten
  let submission ← Action.check (job.toSubmission client.channel.id)
  let value ← onDevice (Device.submit submission)
  setJob (job.submitted ⟨submission.syncpoint, value⟩)

/-- Lets the device start on the job; gives the fence of the job. -/
def flush [Device σ] (client : Client) : Action (Job × σ) Fence := do
  let job ← Action.read Prod.fst
  let (fence, flushed) ← Action.check job.flushed
  setJob flushed
  onDevice (Device.flushSubmissions client.channel.id)
  pure fence

/-- Waits for a fence. -/
def wait [Device σ] (fence : Fence) (timeout : Timeout) : Action σ WaitOutcome :=
  Device.waitSyncpoint fence.syncpoint fence.value timeout

/-- Waits for the job. -/
def waitJob [Device σ] (timeout : Timeout) : Action (Job × σ) WaitOutcome := do
  let job ← Action.read Prod.fst
  let fence ← Action.check job.waitableFence
  let outcome ← onDevice (wait fence timeout)
  setJob (job.waited outcome)
  pure outcome

/-- Submits the job, flushes it and waits for it. -/
def finish [Device σ] (client : Client) : Action (Job × σ) WaitOutcome := do
  client.submit
  let _ ← client.flush
  waitJob client.defaultTimeout

/-- Closes the channel; what the device answers to that does not matter. -/
def release [Device σ] (client : Client) : Action σ Unit :=
  Action.regardless (Device.closeChannel client.channel.id)

end Client

end HostChannel

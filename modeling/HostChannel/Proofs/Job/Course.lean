import HostChannel.Proofs.Client.Beside
import HostChannel.Proofs.Job.Standing

/-!
# The course of a job

A job is changed by appending, by writing to its pushbuffers, and by submitting, flushing,
waiting and finishing through any clients, in any order, on any device. Whatever the device
answers to each call, and whatever else happens to the host and the device in between, the state
of the job, its fence, its pushbuffers and what the device has accepted stay in agreement, and
what is fixed stays fixed.
-/

namespace HostChannel

open HostChannel.Action (Moves Preserves)
open HostChannel.JobState (Edge)

/-- A way of writing to a pushbuffer. -/
inductive PushBufferWrite where
  /-- Pushes a word. -/
  | push (word : Word)
  /-- Pushes the bits of a number. -/
  | pushSingle (number : Single)
  /-- Pushes words. -/
  | pushWords (words : List Word)
  /-- Pushes a placeholder for an address. -/
  | relocate (target : Buffer) (offset : UInt64) (shift : Word)
  deriving DecidableEq, Repr

/-- A call through a job, or something that happens beside it. -/
inductive JobStep (σ : Type) where
  /-- Opens a pushbuffer at the end of the job. -/
  | append (buffer : Buffer) (offset : UInt64)
  /-- Writes to the pushbuffer at an index. -/
  | write (index : Nat) (change : PushBufferWrite)
  /-- Submits the job through a client. -/
  | submit (client : Client)
  /-- Flushes it through a client. -/
  | flush (client : Client)
  /-- Waits for it. -/
  | waitJob (timeout : Timeout)
  /-- Submits it, flushes it and waits for it through a client. -/
  | finish (client : Client)
  /-- Anything else happens to the host and the device. -/
  | elsewhere (host : Host σ)

variable {σ : Type}

namespace PushBufferWrite

variable [Device σ]

/-- Writes to a pushbuffer. -/
def perform (pushbuffer : PushBuffer) : PushBufferWrite → Action σ PushBuffer
  | push word => pushbuffer.push word
  | pushSingle number => pushbuffer.pushSingle number
  | pushWords words => pushbuffer.pushWords words
  | relocate target offset shift => pushbuffer.relocate target offset shift

/-- However a pushbuffer is written to, it grows. -/
theorem grown {change : PushBufferWrite} {before after : PushBuffer} {device last : σ}
    (made : change.perform before device = (.ok after, last)) : before.Grown after := by
  cases change with
  | push word => exact PushBuffer.grown_of_pushWords made
  | pushSingle number => exact PushBuffer.grown_of_pushWords made
  | pushWords words => exact PushBuffer.grown_of_pushWords made
  | relocate target offset shift => exact PushBuffer.grown_of_relocate made

/-- Writing is a write to memory, and adds nothing to what was accepted. -/
theorem perform_same (change : PushBufferWrite) (pushbuffer : PushBuffer) :
    Moves Attested.Same (change.perform pushbuffer : Action (Attested σ) PushBuffer) := by
  have writes : ∀ region position data (device : Attested σ),
      Attested.Same device (Device.writeRegion region position data device) := fun _ _ _ _ => rfl
  cases change with
  | push word => exact PushBuffer.pushWords_moves writes _ _
  | pushSingle number => exact PushBuffer.pushWords_moves writes _ _
  | pushWords words => exact PushBuffer.pushWords_moves writes _ _
  | relocate target offset shift => exact PushBuffer.relocate_moves writes _ _ _ _

end PushBufferWrite

/-- The host with a device that attests what it has accepted. -/
def Host.attesting (host : Host σ) (accepted : Attestation) : Host (Attested σ) where
  configuration := host.configuration
  device := ⟨host.device, accepted⟩
  nextSerial := host.nextSerial
  sharings := host.sharings

namespace Job

/-- The job with the pushbuffer at an index written to. -/
def write [Device σ] (job : Job) (index : Nat) (change : PushBufferWrite) : Action σ Job := do
  let pushbuffer ← Action.check (job.pushbuffer? index)
  let written ← change.perform pushbuffer
  pure (job.replace index written)

/-- A job that was just created, of which nothing was accepted. -/
def begun (syncpoint increments : Word) (host : Host σ) : Job × Host (Attested σ) :=
  (create syncpoint increments, host.attesting [])

/-- A job beside a host, and what the host's device has accepted. -/
def witnessed (state : Job × Host (Attested σ)) : Job × Attestation :=
  (state.1, state.2.device.accepted)

end Job

namespace JobStep

open Job

/-- The job that an action makes takes the place of the job; a failure leaves the job. -/
def remaking (action : Action (Host (Attested σ)) Job) (state : Job × Host (Attested σ)) :
    Job × Host (Attested σ) :=
  match action state.2 with
  | (.ok job, host) => (job, host)
  | (.error _, host) => (state.1, host)

/-- An action on the job beside the device of the host. -/
def besideDevice {α : Type} (action : Action (Job × Attested σ) α)
    (state : Job × Host (Attested σ)) : Job × Host (Attested σ) :=
  let after := (action (state.1, state.2.device)).2
  (after.1, { state.2 with device := after.2 })

/-- An action on a job that keeps its pushbuffers keeps what they have. -/
theorem besideDevice_keeps {α : Type} {kept : PushBuffer → Prop}
    {action : Action (Job × Attested σ) α} {state : Job × Host (Attested σ)}
    (upholds : Action.Upholds (Client.Beside state.1.pushbuffers fun _ => True) action
      fun _ => True)
    (all : ∀ pushbuffer ∈ state.1.pushbuffers, kept pushbuffer) :
    ∀ pushbuffer ∈ (besideDevice action state).1.pushbuffers, kept pushbuffer := by
  have same := (upholds (state.1, state.2.device) ⟨rfl, trivial⟩).1.1
  change ∀ pushbuffer ∈ (action (state.1, state.2.device)).2.1.pushbuffers, kept pushbuffer
  rwa [same]

/-- A step that makes a new job keeps what the pushbuffers have if that job's have it. -/
theorem remaking_keeps {kept : PushBuffer → Prop} {action : Action (Host (Attested σ)) Job}
    {state : Job × Host (Attested σ)}
    (made : ∀ job after, action state.2 = (.ok job, after) →
      ∀ pushbuffer ∈ job.pushbuffers, kept pushbuffer)
    (all : ∀ pushbuffer ∈ state.1.pushbuffers, kept pushbuffer) :
    ∀ pushbuffer ∈ (remaking action state).1.pushbuffers, kept pushbuffer := by
  rw [remaking]
  split
  · rename_i job after given
    exact made job after given
  · exact all

variable [Device σ]

/-- What a step makes of the job and the host. -/
def take : JobStep σ → Job × Host (Attested σ) → Job × Host (Attested σ)
  | append buffer offset, state => remaking (state.1.append buffer offset) state
  | write index change, state => remaking (Host.onDevice (state.1.write index change)) state
  | submit client, state => besideDevice client.submit state
  | flush client, state => besideDevice client.flush state
  | waitJob timeout, state => besideDevice (Client.waitJob timeout) state
  | finish client, state => besideDevice client.finish state
  | elsewhere host, state => (state.1, host.attesting state.2.device.accepted)

/-- Takes steps, one after the other. -/
def run (steps : List (JobStep σ)) (state : Job × Host (Attested σ)) : Job × Host (Attested σ) :=
  steps.foldl (fun state step => step.take state) state

/-- The step submits, flushes and waits in one. -/
def isFinish : JobStep σ → Bool
  | finish _ => true
  | _ => false

/-- Writing to a job writes to one of its pushbuffers, or does nothing. -/
theorem write_advances (index : Nat) (change : PushBufferWrite) (state : Job × Host (Attested σ)) :
    Advance (witnessed state)
      (witnessed (remaking (Host.onDevice (state.1.write index change)) state)) := by
  obtain ⟨job, host⟩ := state
  have same : Moves Attested.Same (job.write index change : Action (Attested σ) Job) :=
    Moves.bind (Moves.check _) fun _ => Moves.bind (change.perform_same _) fun _ => Moves.pure _
  have kept := same host.device
  rw [remaking, Host.onDevice, Action.within_apply]
  cases made : job.write index change host.device with
  | mk outcome device =>
    rw [made] at kept
    cases outcome with
    | error failure =>
      change Advance (job, host.device.accepted) (job, device.accepted)
      rw [← kept]
      exact .stay _
    | ok written =>
      obtain ⟨pushbuffer, _, checked, rest⟩ := Action.bind_eq_ok_iff.mp made
      obtain ⟨allowed, -⟩ := Action.check_eq_ok_iff.mp checked
      obtain ⟨building, found⟩ := pushbuffer?_eq_ok_iff.mp allowed
      obtain ⟨grown, _, pushed, last⟩ := Action.bind_eq_ok_iff.mp rest
      obtain ⟨rfl, -⟩ := Action.pure_eq_ok_iff.mp last
      change Advance (job, host.device.accepted) (job.replace index grown, device.accepted)
      rw [← kept]
      exact .write building found (PushBufferWrite.grown pushed)

/-- A step that is not a finish advances the job. -/
theorem take_advances {step : JobStep σ} (single : step.isFinish = false)
    (state : Job × Host (Attested σ)) : Advance (witnessed state) (witnessed (step.take state)) := by
  cases step with
  | append buffer offset =>
    rcases Job.append_cases state.1 buffer offset state.2 with
      ⟨cause, refused⟩ | ⟨opened, building, made, accepted⟩
    · rw [take, remaking, refused]
      exact .stay _
    · rw [take, remaking, accepted]
      exact .append building made
  | write index change => exact write_advances index change state
  | submit client => exact Client.submit_advances client (state.1, state.2.device)
  | flush client => exact Client.flush_advances client (state.1, state.2.device)
  | waitJob timeout => exact Client.waitJob_advances timeout (state.1, state.2.device)
  | finish client => exact absurd single (by simp [isFinish])
  | elsewhere host => exact .stay _

/-- Finishing a job advances it step by step. -/
theorem finish_advances (client : Client) :
    Moves (Action.Along attested (Relation.ReflTransGen Advance))
      (client.finish : Action (Job × Attested σ) WaitOutcome) :=
  Moves.bind (fun state => .single (Client.submit_advances client state)) fun _ =>
    Moves.bind (fun state => .single (Client.flush_advances client state)) fun _ state =>
      .single (Client.waitJob_advances _ state)

/-- Every step advances the job, a finish step by step. -/
theorem take_path (step : JobStep σ) (state : Job × Host (Attested σ)) :
    Relation.ReflTransGen Advance (witnessed state) (witnessed (step.take state)) := by
  cases single : step.isFinish with
  | false => exact .single (take_advances single state)
  | true =>
    cases step with
    | finish client => exact finish_advances client (state.1, state.2.device)
    | _ => cases single

/-- A course of steps advances the job step by step. -/
theorem run_path (steps : List (JobStep σ)) (state : Job × Host (Attested σ)) :
    Relation.ReflTransGen Advance (witnessed state) (witnessed (run steps state)) := by
  induction steps generalizing state with
  | nil => exact .refl
  | cons step rest ih => exact (step.take_path state).trans (ih _)

/-- As far as a step opens pushbuffers and writes to them, a pushbuffer that it opens has a
property, and one that it writes to keeps it. -/
structure Keeps (kept : PushBuffer → Prop) (step : JobStep σ) : Prop where
  /-- What is opened has the property. -/
  opened : ∀ buffer offset, step = append buffer offset →
    ∀ (host : Host (Attested σ)) (opened : PushBuffer),
      PushBuffer.ofMapping? buffer (buffer.mapping? host) offset = .ok opened → kept opened
  /-- What is written to keeps it. -/
  written : ∀ index change, step = write index change →
    ∀ (before after : PushBuffer) (device last : Attested σ), kept before →
      change.perform before device = (.ok after, last) → kept after

/-- A step that keeps a property of pushbuffers keeps it for all of the job's. -/
theorem take_keeps {kept : PushBuffer → Prop} {step : JobStep σ} (keeps : step.Keeps kept)
    {state : Job × Host (Attested σ)} (all : ∀ pushbuffer ∈ state.1.pushbuffers, kept pushbuffer) :
    ∀ pushbuffer ∈ (step.take state).1.pushbuffers, kept pushbuffer := by
  have moves : Device.QuietBy (Preserves fun _ : Attested σ => True) :=
    Device.QuietBy.everywhere.mono fun _ _ _ _ => trivial
  cases step with
  | append buffer offset =>
    refine remaking_keeps (fun job after given => ?_) all
    rcases Job.append_cases state.1 buffer offset state.2 with
      ⟨cause, refused⟩ | ⟨opened, -, opening, accepted⟩
    · simp [refused] at given
    · rw [accepted] at given
      obtain rfl := Except.ok.inj (Prod.mk.inj given).1
      intro pushbuffer member
      rcases List.mem_append.mp member with earlier | new
      · exact all pushbuffer earlier
      · exact List.mem_singleton.mp new ▸ keeps.opened buffer offset rfl state.2 opened opening
  | write index change =>
    refine remaking_keeps (fun job after given => ?_) all
    obtain ⟨outcome, -⟩ := Prod.mk.inj given
    have run : state.1.write index change state.2.device =
        (.ok job, (state.1.write index change state.2.device).2) := Prod.ext outcome rfl
    obtain ⟨pushbuffer, _, checked, rest⟩ := Action.bind_eq_ok_iff.mp run
    obtain ⟨grown, _, pushed, last⟩ := Action.bind_eq_ok_iff.mp rest
    obtain ⟨rfl, -⟩ := Action.pure_eq_ok_iff.mp last
    have found := (Job.pushbuffer?_eq_ok_iff.mp (Action.check_eq_ok_iff.mp checked).1).2
    intro other member
    rcases List.mem_or_eq_of_mem_set member with earlier | rfl
    · exact all other earlier
    · exact keeps.written index change rfl pushbuffer _ _ _
        (all pushbuffer (List.mem_of_getElem? found)) pushed
  | submit client => exact besideDevice_keeps (Client.submit_upholds moves client) all
  | flush client => exact besideDevice_keeps (Client.flush_upholds moves client) all
  | waitJob timeout => exact besideDevice_keeps (Client.waitJob_upholds moves timeout) all
  | finish client => exact besideDevice_keeps (Client.finish_upholds moves client) all
  | elsewhere host => exact all

end JobStep

namespace Job

/-- Along a path of advances, a job and what was accepted stay in agreement, and what is fixed
stays fixed. -/
theorem standing_of_path {before after : Job × Attestation}
    (path : Relation.ReflTransGen Advance before after) (standing : Standing before.1 before.2) :
    Standing after.1 after.2 ∧ Continues before.1 after.1 := by
  induction path with
  | refl => exact ⟨standing, .refl _⟩
  | tail _ advance held =>
    exact ⟨advance.standing held.1, held.2.trans (advance.continues held.1)⟩

variable [Device σ]

/-- The job after some steps, beside the host. -/
def course (syncpoint increments : Word) (host : Host σ) (steps : List (JobStep σ)) :
    Job × Host (Attested σ) :=
  JobStep.run steps (begun syncpoint increments host)

/-- What every step of its course keeps, all pushbuffers of a job have. -/
theorem course_keeps {kept : PushBuffer → Prop} (syncpoint increments : Word) (host : Host σ)
    {steps : List (JobStep σ)} (keeps : ∀ step ∈ steps, step.Keeps kept) :
    ∀ pushbuffer ∈ (course syncpoint increments host steps).1.pushbuffers, kept pushbuffer := by
  have start : ∀ pushbuffer ∈ (begun syncpoint increments host).1.pushbuffers, kept pushbuffer :=
    fun _ none => absurd none List.not_mem_nil
  exact List.foldlRecOn
    (motive := fun state : Job × Host (Attested σ) =>
      ∀ pushbuffer ∈ state.1.pushbuffers, kept pushbuffer) steps _
    start fun _ all step member => JobStep.take_keeps (keeps step member) all

/-- At every point of its course a job agrees with what the device accepted of it: at most one
submission, which was the job as it is and whose answer is the value of the fence, on the job's
own syncpoint; the fence is stored from the acceptance on and shown from the flush on; and there
are pushbuffers past the creation. From there on its state moves along the edges, along one at
most in a step that is not a finish, complete jobs stay complete, and the fence and the pushbuffers
of an accepted job stay. -/
theorem life_cycle (syncpoint increments : Word) (host : Host σ)
    (earlier later : List (JobStep σ)) :
    (course syncpoint increments host earlier).1.syncpoint = syncpoint ∧
      Standing (course syncpoint increments host earlier).1
        (course syncpoint increments host earlier).2.device.accepted ∧
      Continues (course syncpoint increments host earlier).1
        (course syncpoint increments host (earlier ++ later)).1 ∧
      ((course syncpoint increments host earlier).1.state = .complete →
        (course syncpoint increments host (earlier ++ later)).1.state = .complete) ∧
      ∀ step : JobStep σ, step.isFinish = false →
        (course syncpoint increments host (earlier ++ [step])).1.state =
            (course syncpoint increments host earlier).1.state ∨
          Edge (course syncpoint increments host earlier).1.state
            (course syncpoint increments host (earlier ++ [step])).1.state := by
  have start := JobStep.run_path earlier (begun syncpoint increments host)
  obtain ⟨standing, begun⟩ := standing_of_path start (standing_create syncpoint increments)
  have goes : ∀ steps, course syncpoint increments host (earlier ++ steps) =
      JobStep.run steps (course syncpoint increments host earlier) :=
    fun steps => List.foldl_append
  rw [goes]
  obtain ⟨-, continues⟩ := standing_of_path
    (JobStep.run_path later (course syncpoint increments host earlier)) standing
  refine ⟨begun.syncpoint, standing, continues, fun complete => ?_, fun step single => ?_⟩
  · exact JobState.eq_complete_of_path (complete ▸ continues.path)
  · rw [goes]
    exact (JobStep.take_advances single (course syncpoint increments host earlier)).edge

end Job

end HostChannel

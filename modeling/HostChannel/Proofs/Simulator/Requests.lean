import HostChannel.Instrumented
import HostChannel.Proofs.Simulator.Acceptance
import HostChannel.Proofs.Simulator.Execution

/-!
# Requests to the simulated device

All that can happen to the simulated device from outside is a list of requests: calls of the
methods of a device, writes of the processor to memory that it can reach, and the two things
that only the simulated device offers. `Simulator.after` is the device after such a list, and
a device that can be brought about from another is reached from it (`Simulator.Reaches`).
-/

namespace HostChannel

/-- What the simulated device can be asked for. -/
inductive Request where
  /-- A method of the device is called. -/
  | call (call : Call)
  /-- The processor writes to memory that it can reach. -/
  | write (region : RegionId) (position : Nat) (data : List UInt8)
  /-- All that is pending is executed. -/
  | runPending
  /-- A syncpoint is incremented a number of times. -/
  | increment (index : Word) (times : Nat)
  deriving DecidableEq, Repr

/-- The request neither allocates a buffer nor releases one. -/
def Request.quiet : Request → Bool
  | .call (.allocate _ _) => false
  | .call (.release _) => false
  | _ => true

/-- The request neither opens a channel nor closes one. -/
def Request.besideChannels : Request → Bool
  | .call (.openChannel _) => false
  | .call (.closeChannel _) => false
  | _ => true

namespace Simulator

open HostChannel.Action (Moves)

/-- The simulated device after a request; what it answers is left aside. -/
def respond (simulator : Simulator) : Request → Simulator
  | .call (.allocate size flags) => (Device.allocate size flags simulator).2
  | .call (.release handle) => (Device.release handle simulator).2
  | .call (.map handle) => (Device.map handle simulator).2
  | .call (.flush handle offset length) => (Device.flush handle offset length simulator).2
  | .call (.invalidate handle offset length) => (Device.invalidate handle offset length simulator).2
  | .call (.openChannel engineClass) => (Device.openChannel engineClass simulator).2
  | .call (.closeChannel channel) => (Device.closeChannel channel simulator).2
  | .call (.submit submission) => (Device.submit submission simulator).2
  | .call (.flushSubmissions channel) => (Device.flushSubmissions channel simulator).2
  | .call (.readSyncpoint index) => (Device.readSyncpoint index simulator).2
  | .call (.waitSyncpoint index threshold timeout) =>
    (Device.waitSyncpoint index threshold timeout simulator).2
  | .write region position data => Device.writeRegion region position data simulator
  | .runPending => (runPending simulator).2
  | .increment index times => (incrementSyncpoint index times simulator).2

/-- Executing all that is pending leaves nothing pending at first. -/
theorem respond_runPending (simulator : Simulator) :
    simulator.respond .runPending =
      simulator.pending.foldl execute { simulator with pending := [] } := by
  show simulator.midway simulator.pending.length = _
  rw [midway, List.take_length]

/-- Incrementing changes syncpoints at most. -/
theorem respond_increment (simulator : Simulator) (index : Word) (times : Nat) :
    ∃ syncpoints, simulator.respond (.increment index times) = { simulator with syncpoints } := by
  cases found : simulator.syncpoints[index.toNat]? with
  | none =>
    exact ⟨simulator.syncpoints, by
      simp only [respond, incrementSyncpoint, findSyncpoint, found, Action.bind_apply]⟩
  | some syncpoint =>
    exact ⟨_, by
      simp only [respond, incrementSyncpoint, findSyncpoint, found, Action.bind_apply,
        Action.update_apply, Action.pure_apply, changeSyncpoint]
      rfl⟩

/-- A submission is taken and dispatched if it is accepted, and otherwise changes nothing. -/
theorem respond_submit (simulator : Simulator) (submission : Submission) :
    simulator.Accepts submission ∧ simulator.respond (.call (.submit submission)) =
        (simulator.taken submission).dispatch submission ∨
      ¬ simulator.Accepts submission ∧
        simulator.respond (.call (.submit submission)) = simulator := by
  by_cases accepts : simulator.Accepts submission
  · obtain ⟨_, -, run⟩ := submit_of_accepts accepts
    exact .inl ⟨accepts, congrArg Prod.snd run⟩
  · obtain ⟨_, run⟩ := submit_of_not_accepts accepts
    exact .inr ⟨accepts, congrArg Prod.snd run⟩

/-- The simulated device after requests, in order. -/
def after (simulator : Simulator) (requests : List Request) : Simulator :=
  requests.foldl respond simulator

/-- Requests made in two parts. -/
theorem after_append (simulator : Simulator) (first second : List Request) :
    simulator.after (first ++ second) = (simulator.after first).after second :=
  List.foldl_append

/-- The second device is the first after some requests. -/
def Reaches (first second : Simulator) : Prop :=
  ∃ requests, first.after requests = second

instance : IsPreorder Simulator Reaches where
  refl simulator := ⟨[], rfl⟩
  trans first second third := by
    rintro ⟨earlier, rfl⟩ ⟨later, rfl⟩
    exact ⟨earlier ++ later, after_append first earlier later⟩

/-- A request reaches the device after it. -/
theorem reaches_respond (simulator : Simulator) (request : Request) :
    simulator.Reaches (simulator.respond request) :=
  ⟨[request], rfl⟩

/-- What every request keeps is kept as far as requests reach. -/
theorem Reaches.keeps {kept : Simulator → Prop}
    (step : ∀ simulator request, kept simulator → kept (simulator.respond request))
    {first second : Simulator} (reached : first.Reaches second) (start : kept first) :
    kept second := by
  obtain ⟨requests, rfl⟩ := reached
  induction requests generalizing first with
  | nil => exact start
  | cons request rest ih => exact ih (step first request start)

/-- The settings, the syncpoints and the pending work of two devices are the same. -/
structure SameWork (first second : Simulator) : Prop where
  /-- The settings are the same. -/
  settings : second.settings = first.settings
  /-- The syncpoints are the same. -/
  syncpoints : second.syncpoints = first.syncpoints
  /-- The same work is pending. -/
  pending : second.pending = first.pending

instance : IsPreorder Simulator SameWork where
  refl _ := ⟨rfl, rfl, rfl⟩
  trans _ _ _ earlier later :=
    ⟨later.settings.trans earlier.settings, later.syncpoints.trans earlier.syncpoints,
      later.pending.trans earlier.pending⟩

/-- A view of the device keeps its work. -/
theorem sameWork_of_moves_eq {α : Type} {action : Action Simulator α}
    (kept : Moves (· = ·) action) : Moves SameWork action := by
  intro simulator
  rw [← kept simulator]
  exact refl_of SameWork simulator

/-- Allocation keeps the work. -/
theorem allocate_sameWork (size : UInt64) : Moves SameWork (allocate size) := by
  intro simulator
  rcases allocate_cases size simulator with ⟨_, _, _, -, made⟩ | ⟨_, -, -, made⟩
  · exact made ▸ ⟨rfl, rfl, rfl⟩
  · exact made ▸ ⟨rfl, rfl, rfl⟩

/-- Releasing a buffer keeps the work. -/
theorem release_sameWork (handle : Handle) : Moves SameWork (release handle) :=
  Moves.bind (sameWork_of_moves_eq (findBuffer_moves handle)) fun _ =>
    Moves.update fun _ => ⟨rfl, rfl, rfl⟩

/-- Mapping a buffer keeps the work. -/
theorem map_sameWork (handle : Handle) : Moves SameWork (map handle) :=
  Moves.bind (sameWork_of_moves_eq (findBuffer_moves handle)) fun _ => Moves.pure _

/-- Making writes of the processor visible keeps the work. -/
theorem flush_sameWork (handle : Handle) (offset length : UInt64) :
    Moves SameWork (flush handle offset length) :=
  Moves.bind (sameWork_of_moves_eq (findRange_moves handle offset length)) fun _ =>
    Moves.update fun _ => ⟨rfl, rfl, rfl⟩

/-- Making writes of the device visible keeps the work. -/
theorem invalidate_sameWork (handle : Handle) (offset length : UInt64) :
    Moves SameWork (invalidate handle offset length) :=
  Moves.bind (sameWork_of_moves_eq (findRange_moves handle offset length)) fun _ =>
    Moves.update fun _ => ⟨rfl, rfl, rfl⟩

/-- Opening a channel keeps the work. -/
theorem openChannel_sameWork (engineClass : Word) : Moves SameWork (openChannel engineClass) := by
  intro simulator
  simp only [openChannel]
  split
  · exact ⟨rfl, rfl, rfl⟩
  · split <;> exact ⟨rfl, rfl, rfl⟩

/-- Closing a channel keeps the work, also what is pending on its syncpoints. -/
theorem closeChannel_sameWork (channel : ChannelId) : Moves SameWork (closeChannel channel) := by
  intro simulator
  simp only [closeChannel]
  split <;> exact ⟨rfl, rfl, rfl⟩

/-- Finding a syncpoint keeps the state. -/
theorem findSyncpoint_moves (index : Word) : Moves (· = ·) (findSyncpoint index) := by
  intro simulator
  simp only [findSyncpoint]
  split <;> rfl

/-- Reading a syncpoint keeps the state. -/
theorem readSyncpoint_moves (index : Word) : Moves (· = ·) (readSyncpoint index) :=
  Moves.bind (findSyncpoint_moves index) fun _ => Moves.pure _

/-- Waiting for a syncpoint keeps the state. -/
theorem waitSyncpoint_moves (index threshold : Word) (timeout : Timeout) :
    Moves (· = ·) (waitSyncpoint index threshold timeout) := by
  refine Moves.bind (findSyncpoint_moves index) fun syncpoint => ?_
  split
  · exact Moves.pure _
  · split
    · exact Moves.pure _
    · exact Moves.fail _

/-- Writing to memory keeps the work. -/
theorem writeRegion_sameWork (region : RegionId) (position : Nat) (data : List UInt8)
    (simulator : Simulator) : SameWork simulator (writeRegion region position data simulator) := by
  cases region with
  | buffer handle => exact ⟨rfl, rfl, rfl⟩
  | standalone serial => exact refl_of SameWork simulator

/-- A request that is no submission and moves no syncpoint keeps the work. -/
theorem respond_sameWork (simulator : Simulator) {request : Request}
    (submits : ∀ submission, request ≠ .call (.submit submission))
    (runs : request ≠ .runPending) (increments : ∀ index times, request ≠ .increment index times) :
    SameWork simulator (simulator.respond request) := by
  cases request with
  | call call =>
    cases call with
    | allocate size flags => exact allocate_sameWork size simulator
    | release handle => exact release_sameWork handle simulator
    | map handle => exact map_sameWork handle simulator
    | flush handle offset length => exact flush_sameWork handle offset length simulator
    | invalidate handle offset length => exact invalidate_sameWork handle offset length simulator
    | openChannel engineClass => exact openChannel_sameWork engineClass simulator
    | closeChannel channel => exact closeChannel_sameWork channel simulator
    | submit submission => exact absurd rfl (submits submission)
    | flushSubmissions channel => exact refl_of SameWork simulator
    | readSyncpoint index => exact sameWork_of_moves_eq (readSyncpoint_moves index) simulator
    | waitSyncpoint index threshold timeout =>
      exact sameWork_of_moves_eq (waitSyncpoint_moves index threshold timeout) simulator
  | write region position data => exact writeRegion_sameWork region position data simulator
  | runPending => exact absurd rfl runs
  | increment index times => exact absurd rfl (increments index times)

/-- No request changes the settings. -/
theorem settings_respond (simulator : Simulator) (request : Request) :
    (simulator.respond request).settings = simulator.settings := by
  cases request with
  | write region position data => exact (writeRegion_sameWork region position data simulator).settings
  | runPending =>
    rw [respond_runPending, foldl_execute]
  | increment index times =>
    obtain ⟨_, run⟩ := respond_increment simulator index times
    rw [run]
  | call call =>
    cases call with
    | submit submission =>
      rcases respond_submit simulator submission with ⟨-, run⟩ | ⟨-, run⟩
      · rw [run, dispatch, settings_taken]
        split
        · rw [execute_eq, settings_taken]
        · rfl
      · rw [run]
    | _ => exact (respond_sameWork simulator (by simp) (by simp) (by simp)).settings

/-- So they are the same wherever requests take a device. -/
theorem Reaches.settings {settings : SimulatorSettings} {simulator : Simulator}
    (reached : (initial settings).Reaches simulator) : simulator.settings = settings := by
  have step : ∀ (simulator : Simulator) request, simulator.settings = settings →
      (simulator.respond request).settings = settings :=
    fun simulator request same => (settings_respond simulator request).trans same
  exact reached.keeps step rfl

end Simulator

end HostChannel

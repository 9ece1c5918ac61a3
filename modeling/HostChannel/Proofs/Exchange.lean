import HostChannel.Instrumented
import HostChannel.Proofs.Action

/-!
# What a device is asked and what it answers

A call of a device and how it ends make an exchange. Any device can be made to keep the list of
its exchanges. Calls are passed on as they are, so that whatever is done with the device ends as it
does on the device within: the one action mirrors the other (`Action.Mirrors`).
-/

namespace HostChannel

namespace Call

/-- What a call gives if it succeeds. -/
abbrev Answer : Call → Type
  | allocate .. => Handle
  | release .. => Unit
  | map .. => Region
  | flush .. => Unit
  | invalidate .. => Unit
  | openChannel .. => Channel
  | closeChannel .. => Unit
  | submit .. => Word
  | flushSubmissions .. => Unit
  | readSyncpoint .. => Word
  | waitSyncpoint .. => WaitOutcome

/-- Makes a call of a device. -/
def make {σ : Type} [Device σ] : (call : Call) → Action σ call.Answer
  | allocate size flags => Device.allocate size flags
  | release handle => Device.release handle
  | map handle => Device.map handle
  | flush handle offset length => Device.flush handle offset length
  | invalidate handle offset length => Device.invalidate handle offset length
  | openChannel engineClass => Device.openChannel engineClass
  | closeChannel channel => Device.closeChannel channel
  | submit submission => Device.submit submission
  | flushSubmissions channel => Device.flushSubmissions channel
  | readSyncpoint syncpoint => Device.readSyncpoint syncpoint
  | waitSyncpoint syncpoint threshold timeout => Device.waitSyncpoint syncpoint threshold timeout

end Call

/-- A call of a device and how it ended. -/
structure Exchange where
  /-- The call. -/
  call : Call
  /-- What it gave, or how it failed. -/
  outcome : Except Failure call.Answer

/-- A device beside the exchanges with it. -/
structure Logged (σ : Type) where
  /-- The device that calls are passed on to. -/
  inner : σ
  /-- The exchanges so far, in order. -/
  exchanges : List Exchange

namespace Logged

variable {σ : Type} [Device σ]

/-- Makes a call of the device within and notes how it ends. -/
def ask (call : Call) : Action (Logged σ) call.Answer :=
  fun device =>
    let (outcome, inner) := call.make device.inner
    (outcome, ⟨inner, device.exchanges ++ [⟨call, outcome⟩]⟩)

instance : Device (Logged σ) where
  name := Device.name σ
  allocate size flags := ask (.allocate size flags)
  release handle := ask (.release handle)
  map handle := ask (.map handle)
  flush handle offset length := ask (.flush handle offset length)
  invalidate handle offset length := ask (.invalidate handle offset length)
  openChannel engineClass := ask (.openChannel engineClass)
  closeChannel channel := ask (.closeChannel channel)
  submit submission := ask (.submit submission)
  flushSubmissions channel := ask (.flushSubmissions channel)
  readSyncpoint syncpoint := ask (.readSyncpoint syncpoint)
  waitSyncpoint syncpoint threshold timeout := ask (.waitSyncpoint syncpoint threshold timeout)
  readRegion region position length device := Device.readRegion region position length device.inner
  writeRegion region position data device :=
    { device with inner := Device.writeRegion region position data device.inner }

end Logged

namespace Action

variable {σ τ α β : Type}

/-- Seen through a view of the state, the action does what its image does. -/
def Mirrors (view : τ → σ) (action : Action τ α) (image : Action σ α) : Prop :=
  ∀ state, image (view state) = ((action state).1, view (action state).2)

namespace Mirrors

variable {view : τ → σ}

/-- A pure action is seen as itself. -/
theorem pure (value : α) : Mirrors view (pure value) (pure value : Action σ α) :=
  fun _ => rfl

/-- Reading what can be seen is seen as reading it. -/
theorem read (part : σ → α) : Mirrors view (Action.read fun state => part (view state))
    (Action.read part) :=
  fun _ => rfl

/-- A check is seen as itself. -/
theorem check (outcome : Except Error α) :
    Mirrors view (Action.check outcome) (Action.check outcome : Action σ α) := by
  intro state
  cases outcome <;> rfl

/-- An update is seen as the change of what can be seen. -/
theorem update {change : τ → τ} {seen : σ → σ}
    (same : ∀ state, seen (view state) = view (change state)) :
    Mirrors view (Action.update change) (Action.update seen) :=
  fun state => Prod.ext rfl (same state)

/-- A sequence is seen as the sequence of the images. -/
theorem bind {first : Action τ α} {second : α → Action τ β} {start : Action σ α}
    {rest : α → Action σ β} (head : Mirrors view first start)
    (tail : ∀ value, Mirrors view (second value) (rest value)) :
    Mirrors view (first >>= second) (start >>= rest) := by
  intro state
  rw [bind_apply, bind_apply, head state]
  cases first state with
  | mk outcome between =>
    cases outcome with
    | error failure => rfl
    | ok value => exact tail value between

/-- Actions on the elements of a list are seen one after the other. -/
theorem forM {action : α → Action τ Unit} {image : α → Action σ Unit}
    (each : ∀ element, Mirrors view (action element) (image element)) (elements : List α) :
    Mirrors view (elements.forM action) (elements.forM image) := by
  induction elements with
  | nil => exact pure ()
  | cons head rest ih => exact bind (each head) fun _ => ih

end Mirrors

end Action

end HostChannel

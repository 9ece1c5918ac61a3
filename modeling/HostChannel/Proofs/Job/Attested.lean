import HostChannel.Proofs.Client.Submission
import HostChannel.Proofs.Device

/-!
# Devices that attest what they accepted

Any device can be made to keep a list of the submissions that it accepts, each with the value
that it answered. Calls are passed on as they are, so a call succeeds or fails, and answers,
exactly as it does on the device within. Only an accepted submission makes the list longer; in
particular, neither writing to a pushbuffer nor making its words visible does.
-/

namespace HostChannel

open HostChannel.Action (Moves)

/-- The submissions that a device has accepted, in order, each with the value answered. -/
abbrev Attestation := List (Submission × Word)

/-- A device beside the submissions that it has accepted. -/
structure Attested (σ : Type) where
  /-- The device that calls are passed on to. -/
  inner : σ
  /-- The submissions that it has accepted. -/
  accepted : Attestation

namespace Attested

variable {σ α : Type}

/-- An action on the device within. -/
def passOn (action : Action σ α) : Action (Attested σ) α :=
  action.within inner fun device inner => { device with inner }

/-- Notes a submission that was accepted. -/
def attest (submission : Submission) (value : Word) : Action (Attested σ) Unit :=
  Action.update fun device => { device with accepted := device.accepted ++ [(submission, value)] }

/-- Submits work and, if it is accepted, notes it. -/
def submit [Device σ] (submission : Submission) : Action (Attested σ) Word := do
  let value ← passOn (Device.submit submission)
  attest submission value
  pure value

instance [Device σ] : Device (Attested σ) where
  name := Device.name σ
  allocate size flags := passOn (Device.allocate size flags)
  release handle := passOn (Device.release handle)
  map handle := passOn (Device.map handle)
  flush handle offset length := passOn (Device.flush handle offset length)
  invalidate handle offset length := passOn (Device.invalidate handle offset length)
  openChannel engineClass := passOn (Device.openChannel engineClass)
  closeChannel channel := passOn (Device.closeChannel channel)
  submit := submit
  flushSubmissions channel := passOn (Device.flushSubmissions channel)
  readSyncpoint index := passOn (Device.readSyncpoint index)
  waitSyncpoint index threshold timeout := passOn (Device.waitSyncpoint index threshold timeout)
  readRegion region position count device := Device.readRegion region position count device.inner
  writeRegion region position data device :=
    { device with inner := Device.writeRegion region position data device.inner }

/-- Both states have the same attestation. -/
abbrev Same : Attested σ → Attested σ → Prop :=
  Action.Along accepted (· = ·)

/-- What is passed on adds nothing. -/
theorem passOn_same (action : Action σ α) : Moves Same (passOn action) :=
  fun _ => rfl

/-- A submission that is not accepted is not noted. -/
theorem submit_eq_error [Device σ] {submission : Submission} {device after : Attested σ}
    {failure : Failure} (failed : Device.submit submission device = (.error failure, after)) :
    Same device after := by
  have same := passOn_same (Device.submit submission) device
  change (passOn (Device.submit submission) >>= fun value =>
    attest submission value >>= fun _ => pure value) device = _ at failed
  rw [Action.bind_apply] at failed
  split at failed
  · simp [attest, Action.bind_apply] at failed
  · rename_i made
    rw [made] at same
    rwa [(Prod.mk.inj failed).2] at same

/-- One that is accepted is noted with the value that the device answered. -/
theorem submit_eq_ok [Device σ] {submission : Submission} {device after : Attested σ}
    {value : Word} (accepted : Device.submit submission device = (.ok value, after)) :
    after.accepted = device.accepted ++ [(submission, value)] := by
  obtain ⟨answered, between, made, rest⟩ := Action.bind_eq_ok_iff.mp accepted
  have same := passOn_same (Device.submit submission) device
  rw [made] at same
  obtain ⟨outcome, rfl⟩ := Prod.mk.inj rest
  obtain rfl := Except.ok.inj outcome
  exact congrArg (· ++ [(submission, answered)]) same.symm

/-- Making the words of pushbuffers visible adds nothing. -/
theorem flushWritten_same [Device σ] (pushbuffers : List PushBuffer) :
    Moves Same
      (pushbuffers.forM (PushBuffer.flushWritten : PushBuffer → Action (Attested σ) Unit)) :=
  Client.flushWritten_moves (fun _ _ _ => passOn_same _) pushbuffers

end Attested

end HostChannel

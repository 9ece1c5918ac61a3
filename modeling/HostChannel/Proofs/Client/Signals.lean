import HostChannel.Client
import HostChannel.Proofs.Job.Building
import HostChannel.Proofs.Simulator.Channels
import HostChannel.Proofs.Stream.Header

/-!
# Whose syncpoint a job increments

A stream signals by writing to the register that increments a syncpoint, and names the syncpoint in
eight bits of the value. A client whose syncpoint has a place there disturbs no other: a job whose
streams make the declared signals, all with the client's syncpoint, counts on that syncpoint and on
nothing else (`Client.job_counts_alone`). A device may have more syncpoints than eight bits can
name. A client gets those as well, and its signals then increment the syncpoint of another
(`Client.distant_syncpoint_missed`).
-/

namespace HostChannel

namespace SyncpointIncrement

/-- The syncpoint is read back from a register value, if its index fits. -/
theorem decode_encode (increment : SyncpointIncrement)
    (fits : increment.syncpoint.toNat < syncpointField.count) :
    (decode increment.encode).syncpoint = increment.syncpoint := by
  have apart : syncpointField.extract (conditionField.place increment.condition) = 0 :=
    BitField.extract_place_of_apart _ _ _ (by decide) (.inl (by decide))
  have kept : syncpointField.truncate increment.syncpoint = increment.syncpoint := by
    apply UInt32.toNat.inj
    rw [BitField.toNat_truncate, Nat.mod_eq_of_lt fits]
  change syncpointField.extract increment.encode = increment.syncpoint
  rw [encode, BitField.extract_or, apart, BitField.extract_place _ _ (by decide), kept,
    UInt32.zero_or]

end SyncpointIncrement

namespace Simulator

/-- The value that an item of a decoded stream writes to the register that increments a
syncpoint. -/
def signal? (item : DecodedItem) : Option Word :=
  match item with
  | .ok write => if write.register = SyncpointIncrement.register then some write.value else none
  | .error _ => none

/-- The values that the streams of a submission write to the register, in order. -/
def signals (simulator : Simulator) (submission : Submission) : List Word :=
  submission.ranges.flatMap fun range =>
    (registerWrites (simulator.rangeWords range)).filterMap signal?

/-- The increments of streams are the syncpoints that their signals name. -/
theorem performed_eq (simulator : Simulator) (submission : Submission) :
    simulator.performed submission =
      ((simulator.signals submission).map fun value =>
        (SyncpointIncrement.decode value).syncpoint).filter
          fun index => index.toNat < simulator.syncpoints.size := by
  have named : incremented? = fun item =>
      (signal? item).map fun value => (SyncpointIncrement.decode value).syncpoint := by
    funext item
    cases item with
    | error anomaly => rfl
    | ok write =>
      simp only [incremented?, signal?]
      split <;> rfl
  rw [performed, signals, List.map_flatMap]
  congr 2
  funext range
  rw [increments, named, List.map_filterMap]

/-- From a device, a submission is executed in a state: where work is executed at once, when it
has been accepted; where it is queued, behind those that are pending before it. -/
inductive Executing (simulator : Simulator) : Submission → Simulator → Prop
  /-- The words are replaced and the increments reserved before the submission is executed. -/
  | accepted {submission : Submission} (immediate : simulator.settings.completion = .immediate)
    (accepts : simulator.Accepts submission) :
    Executing simulator submission (simulator.taken submission)
  /-- The submissions before it have been executed. -/
  | pending {earlier later : List Submission} {submission : Submission}
    (queue : simulator.pending = earlier ++ submission :: later) :
    Executing simulator submission (earlier.foldl execute { simulator with pending := [] })

/-- There are as many syncpoints where a submission is executed as before. -/
theorem Executing.size {simulator state : Simulator} {submission : Submission}
    (executing : simulator.Executing submission state) :
    state.syncpoints.size = simulator.syncpoints.size := by
  cases executing with
  | accepted immediate accepts => rw [syncpoints_taken, Array.size_modify]
  | pending queue => exact (foldl_execute_samePool _ { simulator with pending := [] }).size

/-- Streams that signal nothing but the submission's own syncpoint, as often as it declares, are
the whole of its execution. -/
theorem execute_of_signals {simulator : Simulator} {submission : Submission}
    (there : submission.syncpoint.toNat < simulator.syncpoints.size)
    (often : (simulator.signals submission).length = submission.increments.toNat)
    (own : ∀ value ∈ simulator.signals submission,
      (SyncpointIncrement.decode value).syncpoint = submission.syncpoint) :
    (∀ index : Word, (simulator.execute submission).syncpoints[index.toNat]? =
      simulator.syncpoints[index.toNat]?.map fun syncpoint =>
        if index = submission.syncpoint then syncpoint.advance submission.increments.toNat
        else syncpoint) ∧
      (simulator.execute submission).statistics.toppedUp = simulator.statistics.toppedUp := by
  have performed : simulator.performed submission =
      List.replicate submission.increments.toNat submission.syncpoint := by
    have named : (simulator.signals submission).map
        (fun value => (SyncpointIncrement.decode value).syncpoint) =
          List.replicate submission.increments.toNat submission.syncpoint := by
      rw [List.eq_replicate_iff, List.length_map]
      refine ⟨often, fun index member => ?_⟩
      obtain ⟨value, signalled, rfl⟩ := List.mem_map.mp member
      exact own value signalled
    rw [performed_eq, named, List.filter_replicate, if_pos (decide_eq_true there)]
  have enough : missing submission (simulator.performed submission) = 0 := by
    rw [missing, performed, List.count_replicate_self, Nat.sub_self]
  constructor
  · intro index
    rw [execute_eq, incrementsMade, enough, List.replicate_zero, List.append_nil]
    simp only [getElem?_incremented, performed, List.count_replicate]
    congr 1
    funext syncpoint
    by_cases same : index = submission.syncpoint
    · simp [same]
    · simp [same, Ne.symm same, Syncpoint.advance_zero]
  · rw [execute_eq, enough]
    rfl

end Simulator

namespace Client

/-- A job of a client whose syncpoint has a place in a signal, and whose streams signal that
syncpoint as often as the job declares, counts its increments on that syncpoint when it is
executed. It changes no other syncpoint, and nothing has to be topped up. -/
theorem job_counts_alone {settings : SimulatorSettings} {device : Simulator}
    (brought : (Simulator.initial settings).Reaches device) {client : Client}
    (opened : device.channels[client.channel.id]? = some client.channel) {index : Word}
    (first : client.syncpoint = .ok index)
    (named : index.toNat < SyncpointIncrement.syncpointField.count)
    {job : Job} (ofClient : job.syncpoint = index) {submission : Submission}
    (converted : job.toSubmission client.channel.id = .ok submission) {simulator state : Simulator}
    (later : device.Reaches simulator) (executing : simulator.Executing submission state)
    (often : (state.signals submission).length = job.increments.toNat)
    (own : ∀ value ∈ state.signals submission,
      ∃ condition, value = SyncpointIncrement.encode ⟨condition, index⟩) :
    (∃ before after, state.syncpoints[index.toNat]? = some before ∧
        (state.execute submission).syncpoints[index.toNat]? = some after ∧
        after.value = before.value + job.increments) ∧
      (∀ other : Word, other ≠ index →
        (state.execute submission).syncpoints[other.toNat]? = state.syncpoints[other.toNat]?) ∧
      (state.execute submission).statistics.toppedUp = state.statistics.toppedUp := by
  obtain ⟨syncpoint, increments, -⟩ := Job.toSubmission_eq_ok converted
  have target : submission.syncpoint = index := syncpoint.trans ofClient
  have there : index.toNat < state.syncpoints.size := by
    obtain ⟨_, _, pooled⟩ := brought.pooled
    obtain ⟨_, _, since⟩ := (trans_of Simulator.Reaches brought later).pooled
    have held : index ∈ client.channel.syncpoints := by
      unfold Client.syncpoint at first
      split at first
      · rename_i head rest listed
        obtain rfl := Except.ok.inj first
        rw [listed]
        exact List.mem_cons_self
      · contradiction
    have below := pooled.held_lt opened held
    rw [executing.size, since.size, ← pooled.size]
    exact below
  have decoded : ∀ value ∈ state.signals submission,
      (SyncpointIncrement.decode value).syncpoint = submission.syncpoint := by
    intro value member
    obtain ⟨condition, rfl⟩ := own value member
    rw [target]
    exact SyncpointIncrement.decode_encode ⟨condition, index⟩ named
  rw [← increments] at often ⊢
  have present : submission.syncpoint.toNat < state.syncpoints.size := by rwa [target]
  obtain ⟨syncpoints, toppedUp⟩ := Simulator.execute_of_signals present often decoded
  rw [target] at syncpoints
  refine ⟨⟨state.syncpoints[index.toNat],
      state.syncpoints[index.toNat].advance submission.increments.toNat,
      Array.getElem?_eq_getElem there, ?_, ?_⟩, fun other different => ?_, toppedUp⟩
  · rw [syncpoints index, Array.getElem?_eq_getElem there, Option.map_some, if_pos rfl]
  · rw [Syncpoint.value_advance, UInt32.ofNat_toNat]
  · rw [syncpoints other]
    simp only [if_neg different, Option.map_id']

/-- A device with more syncpoints than a signal can name, on which two channels with half of them
each are open, and a buffer that holds a signal to the first. -/
def crowded : Simulator :=
  (Simulator.initial ⟨.immediate, 512, 256⟩).after
    [.call (.openChannel 1), .call (.openChannel 1), .call (.allocate 4 ⟨0⟩),
      .write (.buffer 1) 0 (Word.bytes 0x40000000)]

/-- The two clients. -/
def crowdedClient (name : ChannelId) (first : Nat) : Client :=
  ⟨⟨name, 1, Simulator.syncpointsFrom first 256⟩, .infinite⟩

/-- A job of the word in the buffer, which declares one increment. -/
def signalling (syncpoint : Word) : Job :=
  { syncpoint := syncpoint
    increments := 1
    pushbuffers :=
      [⟨⟨⟨0, 1, 4, ⟨0⟩⟩, 0, 4, .owner⟩, ⟨⟨.buffer 1, 4⟩, 0, 4⟩, 0, 1, 1, []⟩]
    state := .building
    accepted := none }

/-- What it is converted to. -/
def oneSignal (name : ChannelId) (syncpoint : Word) : Submission :=
  ⟨name, syncpoint, 1, [⟨1, 0, 1⟩], []⟩

/-- The device is one that only requests have brought about. -/
theorem crowded_reached : (Simulator.initial ⟨.immediate, 512, 256⟩).Reaches crowded :=
  ⟨_, rfl⟩

/-- A submission that passes the checks is executed. -/
theorem crowded_executing {submission : Submission}
    (passed : (Simulator.validate submission crowded).1 = .ok ()) :
    crowded.Executing submission (crowded.taken submission) := by
  have immediate : crowded.settings.completion = .immediate := by rw [crowded_reached.settings]
  exact .accepted immediate
    (Simulator.validate_eq_ok_iff.mp (Prod.mk.eta.symm.trans (congrArg (·, _) passed))).1

/-- A job of the first client disturbs nobody. -/
theorem near_job_counts_alone :
    let state := crowded.taken (oneSignal 0 0)
    (∃ before after, state.syncpoints[(0 : Word).toNat]? = some before ∧
        (state.execute (oneSignal 0 0)).syncpoints[(0 : Word).toNat]? = some after ∧
        after.value = before.value + 1) ∧
      (∀ other : Word, other ≠ 0 →
        (state.execute (oneSignal 0 0)).syncpoints[other.toNat]? =
          state.syncpoints[other.toNat]?) ∧
      (state.execute (oneSignal 0 0)).statistics.toppedUp = state.statistics.toppedUp := by
  have opened : crowded.channels[(crowdedClient 0 0).channel.id]? =
      some (crowdedClient 0 0).channel := by decide +kernel
  have passed : (Simulator.validate (oneSignal 0 0) crowded).1 = .ok () := by decide +kernel
  have signals : (crowded.taken (oneSignal 0 0)).signals (oneSignal 0 0) =
      [SyncpointIncrement.encode ⟨0, 0⟩] := by decide +kernel
  have first : (crowdedClient 0 0).syncpoint = .ok 0 := rfl
  have ofClient : (signalling 0).syncpoint = 0 := rfl
  have converted : (signalling 0).toSubmission (crowdedClient 0 0).channel.id =
      .ok (oneSignal 0 0) := rfl
  refine job_counts_alone crowded_reached opened first (by decide) ofClient converted
    (refl_of Simulator.Reaches crowded) (crowded_executing passed) ?_ ?_
  · rw [signals]
    rfl
  · rw [signals]
    intro value member
    exact ⟨0, List.mem_singleton.mp member⟩

/-- A job of the second client signals its own syncpoint, as often as it declares, and increments
the first client's; its own is topped up. -/
theorem distant_syncpoint_missed :
    (crowdedClient 1 256).syncpoint = .ok 256 ∧
      crowded.channels[(crowdedClient 1 256).channel.id]? =
        some (crowdedClient 1 256).channel ∧
      (signalling 256).toSubmission 1 = .ok (oneSignal 1 256) ∧
      crowded.Executing (oneSignal 1 256) (crowded.taken (oneSignal 1 256)) ∧
      (crowded.taken (oneSignal 1 256)).signals (oneSignal 1 256) =
        [SyncpointIncrement.encode ⟨0, 256⟩] ∧
      (crowded.taken (oneSignal 1 256)).syncpoints[0]? = some ⟨0, 0⟩ ∧
      ((crowded.taken (oneSignal 1 256)).execute (oneSignal 1 256)).syncpoints[0]? =
        some ⟨1, 1⟩ ∧
      ((crowded.taken (oneSignal 1 256)).execute (oneSignal 1 256)).statistics.toppedUp =
        (crowded.taken (oneSignal 1 256)).statistics.toppedUp + 1 := by
  have passed : (Simulator.validate (oneSignal 1 256) crowded).1 = .ok () := by decide +kernel
  exact ⟨rfl, by decide +kernel, rfl, crowded_executing passed, by decide +kernel,
    by decide +kernel, by decide +kernel, by decide +kernel⟩

end Client

end HostChannel

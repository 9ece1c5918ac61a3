import HostChannel.Proofs.Syncpoint.Fences
import HostChannel.Proofs.Syncpoint.Level

/-!
# How far reserved values are ahead

Whatever a device was asked for, the reserved value of a syncpoint is ahead of its counter by no
more than what pending submissions declare (`Covered`), as distances between words go. So an idle
device has every counter at its reserved value, and the fence of the next submission is as far
ahead as the submission declares. Nothing keeps a submission from declaring more than half the
range of a word; its fence then counts as reached before any of it is executed
(`overlong_fence_reached`), and otherwise it does not, until it is executed or the syncpoint is
incremented.
-/

namespace HostChannel

namespace Syncpoint

/-- How far the reserved value is ahead of the counter. -/
def ahead (syncpoint : Syncpoint) : Nat :=
  (syncpoint.reserved - syncpoint.value).toNat

/-- Reserving increments takes the reserved value that far ahead, or around the range. -/
theorem ahead_reserve_le (syncpoint : Syncpoint) (increments : Word) :
    (syncpoint.reserve increments).ahead ≤ syncpoint.ahead + increments.toNat := by
  simp only [ahead, reserve, UInt32.toNat_sub, UInt32.toNat_add]
  omega

/-- Increments catch up with the reserved value. -/
theorem ahead_advance_le (syncpoint : Syncpoint) (count : Nat) :
    (syncpoint.advance count).ahead ≤ syncpoint.ahead - count := by
  have first := syncpoint.value.toNat_lt
  have second := syncpoint.reserved.toNat_lt
  by_cases none : count = 0
  · subst none
    exact Nat.le_refl _
  · by_cases near : syncpoint.ahead ≤ Word.half ∧ count ≤ syncpoint.ahead
    · have kept : (syncpoint.advance count).reserved = syncpoint.reserved := by
        simp only [advance, if_neg none]
        exact if_pos near
      have value : (syncpoint.advance count).value = syncpoint.value + UInt32.ofNat count := by
        simp only [advance, if_neg none]
      obtain ⟨-, within⟩ := near
      simp only [ahead, UInt32.toNat_sub] at within
      simp only [ahead, kept, value, UInt32.toNat_sub, UInt32.toNat_add, UInt32.toNat_ofNat']
      omega
    · have followed : (syncpoint.advance count).reserved = (syncpoint.advance count).value := by
        simp only [advance, if_neg none]
        exact if_neg near
      rw [ahead, followed, UInt32.sub_self]
      exact Nat.zero_le _

/-- A reserved value that is nowhere ahead is that of the counter. -/
theorem reserved_eq_of_ahead {syncpoint : Syncpoint} (level : syncpoint.ahead = 0) :
    syncpoint.reserved = syncpoint.value := by
  have zero : syncpoint.reserved - syncpoint.value = 0 := UInt32.toNat.inj level
  rw [← UInt32.sub_add_cancel syncpoint.reserved syncpoint.value, zero, UInt32.zero_add]

/-- A fence that is some increments ahead of a counter is not reached by it, unless they are more
than half the range. -/
theorem reached_ahead (value increments : Word) (positive : 0 < increments.toNat) :
    reached value (value + increments) = decide (Word.half < increments.toNat) := by
  have first := value.toNat_lt
  have second := increments.toNat_lt
  have behind : (value - (value + increments)).toNat = 4294967296 - increments.toNat := by
    simp only [UInt32.toNat_sub, UInt32.toNat_add]
    omega
  rw [reached, behind, Bool.eq_iff_iff, decide_eq_true_eq, decide_eq_true_eq, Word.half]
  omega

end Syncpoint

namespace Simulator

/-- Pending submissions declare what is reserved and not counted yet. -/
def Covered (simulator : Simulator) : Prop :=
  ∀ (index : Word) syncpoint, simulator.syncpoints[index.toNat]? = some syncpoint →
    syncpoint.ahead ≤ declared index simulator.pending

/-- On a new device nothing is reserved. -/
theorem covered_initial (settings : SimulatorSettings) : (initial settings).Covered := by
  intro index syncpoint found
  have listed := Array.mem_of_getElem? found
  simp only [initial, Array.mem_replicate] at listed
  rw [listed.2]
  exact Nat.zero_le _

/-- A device of the same work is covered as well. -/
theorem Covered.sameWork {first second : Simulator} (covered : first.Covered)
    (same : first.SameWork second) : second.Covered := by
  rw [Covered, same.syncpoints, same.pending]
  exact covered

/-- Executions make what their submissions declare. -/
theorem declared_le_count (simulator : Simulator) (submissions : List Submission) (index : Word) :
    declared index submissions ≤
      (submissions.flatMap simulator.incrementsMade).count index := by
  induction submissions with
  | nil => exact Nat.le_refl 0
  | cons submission rest ih =>
    rw [declared, List.flatMap_cons, List.count_append]
    have own : (if submission.syncpoint = index then submission.increments.toNat else 0) ≤
        (simulator.incrementsMade submission).count index := by
      split
      · rename_i same
        have made := count_incrementsMade_self simulator submission
        rw [same] at made
        omega
      · exact Nat.zero_le _
    omega

/-- Executing all that is pending leaves nothing reserved that is not counted. -/
theorem Covered.runPending {simulator : Simulator} (covered : simulator.Covered) :
    (simulator.respond .runPending).Covered := by
  rw [respond_runPending, foldl_execute]
  intro index syncpoint found
  simp only [getElem?_incremented, Option.map_eq_some_iff] at found
  obtain ⟨before, held, rfl⟩ := found
  have start := covered index before held
  have made := declared_le_count { simulator with pending := [] } simulator.pending index
  have less := before.ahead_advance_le
    ((simulator.pending.flatMap ({ simulator with pending := [] } : Simulator).incrementsMade).count
      index)
  omega

/-- Direct increments reserve nothing. -/
theorem Covered.increment {simulator : Simulator} (covered : simulator.Covered) (index : Word)
    (times : Nat) : (simulator.respond (.increment index times)).Covered := by
  cases found : simulator.syncpoints[index.toNat]? with
  | none =>
    simp only [Simulator.respond, incrementSyncpoint, findSyncpoint, found, Action.bind_apply]
    exact covered
  | some syncpoint =>
    simp only [Simulator.respond, incrementSyncpoint, findSyncpoint, found, Action.bind_apply,
      Action.update_apply, Action.pure_apply, changeSyncpoint]
    intro other after held
    simp only [Array.getElem?_modify] at held
    split at held
    · rw [Option.map_eq_some_iff] at held
      obtain ⟨before, there, rfl⟩ := held
      have start := covered other before there
      have less := before.ahead_advance_le times
      exact Nat.le_trans less (Nat.le_trans (Nat.sub_le _ _) start)
    · exact covered other after held

/-- A submission reserves what it declares, and is pending until that is counted. -/
theorem Covered.submit {simulator : Simulator} (covered : simulator.Covered)
    (submission : Submission) : (simulator.respond (.call (.submit submission))).Covered := by
  by_cases accepts : simulator.Accepts submission
  · obtain ⟨syncpoint, found, run⟩ := submit_of_accepts accepts
    have response : simulator.respond (.call (.submit submission)) =
        (simulator.taken submission).dispatch submission := congrArg Prod.snd run
    rw [response, dispatch, settings_taken]
    intro index after held
    cases mode : simulator.settings.completion with
    | immediate =>
      simp only [mode] at held ⊢
      rw [getElem?_executed, Option.map_eq_some_iff] at held
      obtain ⟨before, there, rfl⟩ := held
      have start := covered index before there
      have pending : ((simulator.taken submission).execute submission).pending =
          simulator.pending := by
        rw [execute_eq]
        exact pending_taken simulator submission
      rw [pending]
      by_cases own : index = submission.syncpoint
      · subst own
        rw [if_pos rfl]
        have made := count_incrementsMade_self (simulator.taken submission) submission
        have more := before.ahead_reserve_le submission.increments
        have less := (before.reserve submission.increments).ahead_advance_le
          (((simulator.taken submission).incrementsMade submission).count submission.syncpoint)
        omega
      · rw [if_neg own]
        exact Nat.le_trans (before.ahead_advance_le _) (Nat.le_trans (Nat.sub_le _ _) start)
    | deferred =>
      simp only [mode, syncpoints_taken, pending_taken, Array.getElem?_modify] at held ⊢
      rw [declared_append, declared, declared, Nat.add_zero]
      by_cases own : submission.syncpoint.toNat = index.toNat
      · obtain rfl : submission.syncpoint = index := UInt32.toNat.inj own
        rw [if_pos rfl, Option.map_eq_some_iff] at held
        obtain ⟨before, there, rfl⟩ := held
        have start := covered _ before there
        have more := before.ahead_reserve_le submission.increments
        rw [if_pos rfl]
        omega
      · rw [if_neg own] at held
        have start := covered index after held
        omega
  · obtain ⟨failure, run⟩ := submit_of_not_accepts accepts
    have response : simulator.respond (.call (.submit submission)) = simulator :=
      congrArg Prod.snd run
    rwa [response]

/-- Every request leaves a covered device covered. -/
theorem Covered.respond {simulator : Simulator} (covered : simulator.Covered) (request : Request) :
    (simulator.respond request).Covered := by
  cases request with
  | runPending => exact covered.runPending
  | increment index times => exact covered.increment index times
  | write region position data =>
    exact covered.sameWork (respond_sameWork simulator (by simp) (by simp) (by simp))
  | call call =>
    cases call with
    | submit submission => exact covered.submit submission
    | _ => exact covered.sameWork (respond_sameWork simulator (by simp) (by simp) (by simp))

/-- So requests cover whatever device they reach. -/
theorem Reaches.covered {settings : SimulatorSettings} {simulator : Simulator}
    (reached : (initial settings).Reaches simulator) : simulator.Covered := by
  have step : ∀ simulator request, Covered simulator → (simulator.respond request).Covered :=
    fun _ request covered => covered.respond request
  exact reached.keeps step (covered_initial settings)

end Simulator

/-- The request neither executes what is pending nor increments the syncpoint. -/
def Request.Spares (index : Word) (request : Request) : Prop :=
  request ≠ .runPending ∧ ∀ times, request ≠ .increment index times

namespace Simulator

/-- Where work is queued, a request that spares a syncpoint keeps its counter. -/
theorem value_respond {simulator : Simulator} (deferred : simulator.settings.completion = .deferred)
    {index : Word} {request : Request} (spares : request.Spares index) {syncpoint : Syncpoint}
    (found : simulator.syncpoints[index.toNat]? = some syncpoint) :
    ∃ after, (simulator.respond request).syncpoints[index.toNat]? = some after ∧
      after.value = syncpoint.value := by
  have kept : simulator.SameWork (simulator.respond request) →
      ∃ after, (simulator.respond request).syncpoints[index.toNat]? = some after ∧
        after.value = syncpoint.value :=
    fun same => ⟨syncpoint, by rw [same.syncpoints, found], rfl⟩
  cases request with
  | runPending => exact absurd rfl spares.1
  | write region position data =>
    exact kept (respond_sameWork simulator (by simp) (by simp) (by simp))
  | increment other times =>
    have apart : other.toNat ≠ index.toNat := by
      intro same
      obtain rfl := UInt32.toNat.inj same
      exact spares.2 times rfl
    refine ⟨syncpoint, ?_, rfl⟩
    cases there : simulator.syncpoints[other.toNat]? with
    | none =>
      simp only [Simulator.respond, incrementSyncpoint, findSyncpoint, there, Action.bind_apply]
      exact found
    | some before =>
      simp only [Simulator.respond, incrementSyncpoint, findSyncpoint, there, Action.bind_apply,
        Action.update_apply, Action.pure_apply, changeSyncpoint, Array.getElem?_modify, if_neg apart]
      exact found
  | call call =>
    cases call with
    | submit submission =>
      by_cases accepts : simulator.Accepts submission
      · obtain ⟨_, _, run⟩ := submit_of_accepts accepts
        have response : simulator.respond (.call (.submit submission)) =
            (simulator.taken submission).dispatch submission := congrArg Prod.snd run
        rw [response, dispatch, settings_taken, deferred]
        simp only [syncpoints_taken, Array.getElem?_modify, found]
        split
        · exact ⟨_, rfl, rfl⟩
        · exact ⟨_, rfl, rfl⟩
      · obtain ⟨failure, run⟩ := submit_of_not_accepts accepts
        have response : simulator.respond (.call (.submit submission)) = simulator :=
          congrArg Prod.snd run
        exact ⟨syncpoint, by rw [response, found], rfl⟩
    | _ => exact kept (respond_sameWork simulator (by simp) (by simp) (by simp))

/-- So do several of them. -/
theorem value_after {simulator : Simulator} (deferred : simulator.settings.completion = .deferred)
    {index : Word} {requests : List Request} (spares : ∀ request ∈ requests, request.Spares index)
    {syncpoint : Syncpoint} (found : simulator.syncpoints[index.toNat]? = some syncpoint) :
    ∃ after, (simulator.after requests).syncpoints[index.toNat]? = some after ∧
      after.value = syncpoint.value := by
  induction requests generalizing simulator syncpoint with
  | nil => exact ⟨syncpoint, found, rfl⟩
  | cons request rest ih =>
    obtain ⟨first, others⟩ := List.forall_mem_cons.mp spares
    obtain ⟨between, there, same⟩ := value_respond deferred first found
    have mode : (simulator.respond request).settings.completion = .deferred := by
      rw [settings_respond, deferred]
    obtain ⟨last, behind, kept⟩ := ih mode others there
    exact ⟨last, behind, kept.trans same⟩

/-- Waiting no time completes if the threshold is reached, and runs out of time if it is not. -/
theorem wait_zero {simulator : Simulator} {index : Word} {syncpoint : Syncpoint}
    (found : simulator.syncpoints[index.toNat]? = some syncpoint) (threshold : Word) :
    waitSyncpoint index threshold .zero simulator =
      (.ok (if reached syncpoint.value threshold then .completed else .timedOut), simulator) := by
  have expired : (Timeout.zero.deadline? .zero).isSome = true := rfl
  simp only [waitSyncpoint, findSyncpoint, found, Action.bind_apply, expired, if_true]
  split
  · rfl
  · rfl

/-- The fence of a submission that an idle device with a queue accepts is not reached until the
submission is executed or its syncpoint incremented, whatever else the device is asked for, if it
declares at most half the range of increments; if it declares more, the fence is reached from the
start. -/
theorem fence_reached_if_overlong {settings : SimulatorSettings}
    (deferred : settings.completion = .deferred) {device : Simulator}
    (brought : (initial settings).Reaches device) (idle : device.pending = [])
    {submission : Submission} {fence : Word} {queued : Simulator}
    (accepted : submit submission device = (.ok fence, queued))
    (declares : 0 < submission.increments.toNat) (later : List Request)
    (spares : ∀ request ∈ later, request.Spares submission.syncpoint) :
    waitSyncpoint submission.syncpoint fence .zero (queued.after later) =
      (.ok (if submission.increments.toNat ≤ Word.half then .timedOut else .completed),
        queued.after later) := by
  have configured := brought.settings
  have queue : queued.settings.completion = .deferred := by
    have response : device.respond (.call (.submit submission)) = queued :=
      congrArg Prod.snd accepted
    rw [← response, settings_respond, configured, deferred]
  obtain ⟨accepts, ⟨syncpoint, found, rfl⟩, made⟩ := submit_eq_ok_iff.mp accepted
  have level : syncpoint.reserved = syncpoint.value := by
    have covered := brought.covered submission.syncpoint syncpoint found
    rw [idle] at covered
    exact Syncpoint.reserved_eq_of_ahead (Nat.le_zero.mp covered)
  have held : queued.syncpoints[submission.syncpoint.toNat]? =
      some (syncpoint.reserve submission.increments) := by
    rw [made, dispatch, settings_taken, configured, deferred]
    simp only [syncpoints_taken, Array.getElem?_modify, if_true, found, Option.map_some]
  obtain ⟨after, there, value⟩ := value_after queue spares held
  have reaches := Syncpoint.reached_ahead syncpoint.value submission.increments declares
  rw [wait_zero there, value]
  simp only [Syncpoint.reserve, level, reaches, decide_eq_true_eq]
  by_cases few : submission.increments.toNat ≤ Word.half
  · rw [if_neg (Nat.not_lt.mpr few), if_pos few]
  · rw [if_pos (Nat.lt_of_not_le few), if_neg few]

/-- A channel with a syncpoint, on a device with a queue. -/
def channelOpened : Simulator :=
  (initial ⟨.deferred, 1, 1⟩).after [.call (.openChannel 1)]

/-- A submission of nothing, that declares a number of increments. -/
def declaring (increments : Word) : Submission :=
  ⟨0, 0, increments, [], []⟩

/-- Half the range is not too much. -/
theorem half_unreached :
    ∃ fence queued, submit (declaring 0x80000000) channelOpened = (.ok fence, queued) ∧
      waitSyncpoint 0 fence .zero (queued.after [.call (.submit (declaring 7))]) =
        (.ok .timedOut, queued.after [.call (.submit (declaring 7))]) := by
  have brought : (initial ⟨.deferred, 1, 1⟩).Reaches channelOpened := ⟨_, rfl⟩
  have idle : channelOpened.pending = [] := rfl
  have accepted : submit (declaring 0x80000000) channelOpened =
      (.ok 0x80000000, (submit (declaring 0x80000000) channelOpened).2) := rfl
  have spares : ∀ request ∈ [Request.call (.submit (declaring 7))], request.Spares 0 := by
    simp [Request.Spares]
  exact ⟨_, _, accepted,
    fence_reached_if_overlong rfl brought idle accepted (by decide) _ spares⟩

/-- One more is: the fence of the pending submission counts as reached. -/
theorem overlong_fence_reached :
    channelOpened.pending = [] ∧
      ∃ fence queued, submit (declaring 0x80000001) channelOpened = (.ok fence, queued) ∧
        queued.pending = [declaring 0x80000001] ∧
        waitSyncpoint 0 fence .zero queued = (.ok .completed, queued) :=
  ⟨rfl, _, _, rfl, rfl, rfl⟩

end Simulator

end HostChannel

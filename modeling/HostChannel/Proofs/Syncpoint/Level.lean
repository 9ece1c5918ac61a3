import HostChannel.Proofs.Simulator.Requests

/-!
# Levelled syncpoints

A device that executes at once leaves every counter at its reserved value. Within an execution
they may be apart in both ways: a number of declared increments beyond half the range is taken
back by the first increment, and streams may increment what nobody has reserved. In the end at
least the declared increments have been made, and then counter and reserved value meet
(`Syncpoint.advance_reserve`).
-/

namespace HostChannel

namespace Syncpoint

/-- The counter is at the reserved value. -/
def Level (syncpoint : Syncpoint) : Prop :=
  syncpoint.value = syncpoint.reserved

/-- Reserving increments and making at least as many brings counter and reserved value to the
same number, whatever the number reserved. -/
theorem advance_reserve {syncpoint : Syncpoint} (level : syncpoint.Level) {increments : Word}
    {count : Nat} (enough : increments.toNat ≤ count) :
    (syncpoint.reserve increments).advance count =
      ⟨syncpoint.value + UInt32.ofNat count, syncpoint.value + UInt32.ofNat count⟩ := by
  obtain ⟨value, reserved⟩ := syncpoint
  have same : value = reserved := level
  subst same
  have ahead : (value + increments - value).toNat = increments.toNat := by
    rw [UInt32.add_comm, UInt32.add_sub_cancel]
  by_cases none : count = 0
  · subst none
    have zero : increments = 0 := UInt32.toNat.inj (Nat.le_zero.mp enough)
    subst zero
    simp [reserve, advance]
  · simp only [reserve, advance, if_neg none, ahead, mk.injEq, true_and]
    by_cases exactly : increments.toNat ≤ Word.half ∧ count ≤ increments.toNat
    · have all : count = increments.toNat := by omega
      rw [if_pos exactly, all, UInt32.ofNat_toNat]
    · rw [if_neg exactly]

/-- Increments that nobody has reserved leave a level syncpoint level. -/
theorem Level.advance {syncpoint : Syncpoint} (level : syncpoint.Level) (count : Nat) :
    (syncpoint.advance count).Level := by
  have none : syncpoint.reserve 0 = syncpoint := by
    simp only [reserve, UInt32.add_zero]
  have made := @advance_reserve syncpoint level 0 count (Nat.zero_le count)
  rw [none] at made
  rw [made]
  rfl

end Syncpoint

namespace Simulator

/-- A device that executes at once: nothing is pending, and every syncpoint is level. -/
structure Level (simulator : Simulator) : Prop where
  /-- Work is executed at once. -/
  immediate : simulator.settings.completion = .immediate
  /-- Nothing is pending. -/
  idle : simulator.pending = []
  /-- Every counter is at its reserved value. -/
  syncpoints : ∀ (index : Word) syncpoint,
    simulator.syncpoints[index.toNat]? = some syncpoint → syncpoint.Level

/-- A new device that executes at once is level. -/
theorem level_initial {settings : SimulatorSettings} (immediate : settings.completion = .immediate) :
    (initial settings).Level := by
  refine ⟨immediate, rfl, fun index syncpoint found => ?_⟩
  have listed := Array.mem_of_getElem? found
  simp only [initial, Array.mem_replicate] at listed
  rw [listed.2]
  rfl

/-- A device of the same work is level as well. -/
theorem Level.sameWork {first second : Simulator} (level : first.Level)
    (same : first.SameWork second) : second.Level := by
  refine ⟨?_, ?_, ?_⟩
  · rw [same.settings, level.immediate]
  · rw [same.pending, level.idle]
  · rw [same.syncpoints]
    exact level.syncpoints

/-- Each syncpoint after an accepted submission: the submission's own one has made its
increments and those beyond, any other the increments that the streams make on it. -/
theorem getElem?_executed (simulator : Simulator) (submission : Submission) (index : Word) :
    ((simulator.taken submission).execute submission).syncpoints[index.toNat]? =
      simulator.syncpoints[index.toNat]?.map fun syncpoint =>
        (if index = submission.syncpoint then syncpoint.reserve submission.increments
          else syncpoint).advance
            (((simulator.taken submission).incrementsMade submission).count index) := by
  rw [execute_eq]
  simp only [getElem?_incremented, syncpoints_taken, Array.getElem?_modify]
  by_cases own : index = submission.syncpoint
  · subst own
    simp [Function.comp_def]
  · have apart : submission.syncpoint.toNat ≠ index.toNat :=
      fun equal => own (UInt32.toNat.inj equal).symm
    simp [own, apart]

/-- A submission that is executed at once leaves every syncpoint level. -/
theorem Level.executed {simulator : Simulator} (level : simulator.Level)
    (submission : Submission) : ((simulator.taken submission).execute submission).Level := by
  refine ⟨?_, ?_, fun index syncpoint found => ?_⟩
  · rw [execute_eq, settings_taken, level.immediate]
  · rw [execute_eq]
    exact (pending_taken simulator submission).trans level.idle
  · rw [getElem?_executed, Option.map_eq_some_iff] at found
    obtain ⟨before, held, rfl⟩ := found
    have start := level.syncpoints index before held
    by_cases own : index = submission.syncpoint
    · subst own
      have enough := count_incrementsMade_self (simulator.taken submission) submission
      rw [if_pos rfl, Syncpoint.advance_reserve start (by omega)]
      rfl
    · rw [if_neg own]
      exact start.advance _

/-- Every request keeps a level device level. -/
theorem Level.respond {simulator : Simulator} (level : simulator.Level) (request : Request) :
    (simulator.respond request).Level := by
  cases request with
  | write region position data =>
    exact level.sameWork (respond_sameWork simulator (by simp) (by simp) (by simp))
  | runPending =>
    rw [respond_runPending, level.idle]
    exact ⟨level.immediate, rfl, level.syncpoints⟩
  | increment index times =>
    cases found : simulator.syncpoints[index.toNat]? with
    | none =>
      simp only [Simulator.respond, incrementSyncpoint, findSyncpoint, found, Action.bind_apply]
      exact level
    | some syncpoint =>
      simp only [Simulator.respond, incrementSyncpoint, findSyncpoint, found, Action.bind_apply,
        Action.update_apply, Action.pure_apply, changeSyncpoint]
      refine ⟨level.immediate, level.idle, fun other after held => ?_⟩
      rw [Array.getElem?_modify] at held
      split at held
      · rw [Option.map_eq_some_iff] at held
        obtain ⟨before, there, rfl⟩ := held
        exact (level.syncpoints other before there).advance times
      · exact level.syncpoints other after held
  | call call =>
    cases call with
    | submit submission =>
      by_cases accepts : simulator.Accepts submission
      · obtain ⟨syncpoint, found, run⟩ := submit_of_accepts accepts
        have response : simulator.respond (.call (.submit submission)) =
            (simulator.taken submission).dispatch submission := congrArg Prod.snd run
        rw [response, dispatch, settings_taken, level.immediate]
        exact level.executed submission
      · obtain ⟨failure, run⟩ := submit_of_not_accepts accepts
        have response : simulator.respond (.call (.submit submission)) = simulator :=
          congrArg Prod.snd run
        rwa [response]
    | _ => exact level.sameWork (respond_sameWork simulator (by simp) (by simp) (by simp))

/-- A device that executes at once is level wherever requests take it. -/
theorem Reaches.level {settings : SimulatorSettings} (immediate : settings.completion = .immediate)
    {simulator : Simulator} (reached : (initial settings).Reaches simulator) :
    simulator.Level := by
  have step : ∀ simulator request, Level simulator → (simulator.respond request).Level :=
    fun _ request level => level.respond request
  exact reached.keeps step (level_initial immediate)

end Simulator

end HostChannel

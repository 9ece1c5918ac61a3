import HostChannel.Proofs.Simulator.Commutation
import HostChannel.Proofs.Waiting.Release
import HostChannel.Session.Jobs

/-!
# Lone threads

What the simulated device does in one go is what a thread does turn by turn with nothing else going
on: a submission that is executed at once makes the changes of a working thread
(`run_submission`), and a wait has the answer of a thread that is spawned and joined
(`joined_spawned`).
-/

namespace HostChannel

namespace Simulator

/-- The changes of syncpoints that a submission makes on a device that executes at once: its
reservation, the increments of its streams, and those that top them up. -/
def updates (simulator : Simulator) (submission : Submission) : List Update :=
  .reserve submission.syncpoint submission.increments ::
    ((simulator.taken submission).incrementsMade submission).map .increment

/-- They are all that becomes of the syncpoints. -/
theorem syncpoints_completed (simulator : Simulator) (submission : Submission) :
    (simulator.completed submission).syncpoints =
      (simulator.updates submission).foldl Update.apply simulator.syncpoints := by
  rw [completed_eq, updates, List.foldl_cons, List.foldl_map]
  rfl

end Simulator

namespace WaitRoom

/-- The turns of a lone working thread make its next change. -/
theorem run_update (syncpoints : Array Syncpoint) (clock : Clock) (update : Update)
    (rest : List Update) :
    ∃ count, (⟨syncpoints, [.working .between (update :: rest)], clock⟩ : WaitRoom).run
        (List.replicate count (.turn 0)) =
      ⟨update.apply syncpoints, [.working .between rest], clock⟩ := by
  by_cases beyond : syncpoints.size ≤ update.syncpoint.toNat
  · refine ⟨1, ?_⟩
    have same : update.apply syncpoints = syncpoints := by
      apply Array.ext_getElem?
      intro position
      rw [Update.apply, Array.getElem?_modify]
      split
      · next own => rw [← own, Array.getElem?_eq_none beyond, Option.map_none]
      · rfl
    simp [run, step, after, put, Thread.next, beyond, same]
  · cases notified : update.notifies with
    | true =>
      refine ⟨4, ?_⟩
      simp [run, List.replicate_succ, step, after, put, Thread.next, beyond, locked, Thread.holds,
        notified, Thread.wake]
    | false =>
      refine ⟨3, ?_⟩
      simp [run, List.replicate_succ, step, after, put, Thread.next, beyond, locked, Thread.holds,
        notified]

/-- The turns of a lone working thread make all its changes, in order. -/
theorem run_updates (syncpoints : Array Syncpoint) (clock : Clock) (updates : List Update) :
    ∃ count, (⟨syncpoints, [.working .between updates], clock⟩ : WaitRoom).run
        (List.replicate count (.turn 0)) =
      ⟨updates.foldl Update.apply syncpoints, [.working .between []], clock⟩ := by
  induction updates generalizing syncpoints with
  | nil => exact ⟨0, rfl⟩
  | cons update rest ih =>
    obtain ⟨first, made⟩ := run_update syncpoints clock update rest
    obtain ⟨later, ran⟩ := ih (update.apply syncpoints)
    refine ⟨first + later, ?_⟩
    rw [List.replicate_add, run_append, made, ran, List.foldl_cons]

/-- A lone thread that submits to a device that executes at once leaves the syncpoints as the device
does. -/
theorem run_submission (simulator : Simulator) (submission : Submission) (clock : Clock) :
    ∃ count, (⟨simulator.syncpoints, [.working .between (simulator.updates submission)], clock⟩ :
        WaitRoom).run (List.replicate count (.turn 0)) =
      ⟨(simulator.completed submission).syncpoints, [.working .between []], clock⟩ := by
  rw [simulator.syncpoints_completed]
  exact run_updates _ _ _

end WaitRoom

namespace Thread

/-- A lone waiting thread comes to what its wait comes to. -/
theorem settle_waiting (syncpoints : Array Syncpoint) (clock : Clock) (wait : Wait)
    (stage : WaitStage) :
    (waiting wait stage).settle syncpoints clock =
      waiting wait (stage.settled (.opened syncpoints clock) wait) := by
  have alone : (⟨syncpoints, [waiting wait stage], clock⟩ : WaitRoom).FreeFor 0 := by
    intro place thread found _
    cases place with
    | zero => rfl
    | succ => cases found
  rw [settle, WaitRoom.settle_waiting rfl alone]
  cases stage <;> rfl

end Thread

/-- A deadline that the clock can show is over when the clock has gone on by the timeout. -/
theorem Clock.past_advance {timeout : Timeout} {instant : Duration}
    (ends : timeout.deadline? Clock.start.now = some instant) :
    (Clock.start.advance (timeout.duration?.getD .zero)).past (some instant) = true := by
  cases timeout with
  | infinite => cases ends
  | after duration =>
    simp only [Timeout.deadline?] at ends
    split at ends
    case isTrue shown =>
      cases ends
      rw [Timeout.duration?, Option.getD_some, advance, dif_pos shown]
      exact decide_eq_true (Duration.le_refl _)
    case isFalse => cases ends

/-- A thread that is woken with nothing changed comes to the same again. -/
theorem WaitRoom.settled_wake_decided (room : WaitRoom) (wait : Wait)
    (deadline : Option Duration) :
    (room.decided wait deadline).wake.settled room wait = room.decided wait deadline := by
  unfold decided
  split
  case isTrue => rfl
  case isFalse behind =>
    split
    case isTrue => rfl
    case isFalse early =>
      simp only [WaitStage.wake, WaitStage.settled, decided, if_neg behind, if_neg early]

open Session in
/-- A wait on the device has the answer that a thread gives that is spawned and joined at once. -/
theorem joined_spawned (simulator : Simulator) (wait : Wait) :
    joined simulator.syncpoints (spawned simulator.syncpoints wait) =
      (Simulator.waitSyncpoint wait.syncpoint wait.threshold wait.timeout simulator).1 := by
  let early := WaitRoom.opened simulator.syncpoints .start
  let late := WaitRoom.opened simulator.syncpoints
    (Clock.start.advance (wait.timeout.duration?.getD .zero))
  have staged : joined simulator.syncpoints (spawned simulator.syncpoints wait) =
      concluded (((WaitStage.arriving.settled early wait).wake.settled early wait).settled late
        wait).answer? := by
    simp only [joined, spawned, Thread.settle_waiting, Thread.wake]
    rfl
  simp only [staged, Simulator.waitSyncpoint, Action.bind_apply, Simulator.findSyncpoint]
  cases found : simulator.syncpoints[wait.syncpoint.toNat]? with
  | none =>
    have beyond := Nat.not_lt_of_le (Array.getElem?_eq_none_iff.mp found)
    have first : WaitStage.arriving.settled early wait =
        .finished (.error (.noSyncpoint wait.syncpoint)) := if_neg beyond
    rw [first]
    rfl
  | some syncpoint =>
    have known := (Array.getElem?_eq_some_iff.mp found).1
    have first : WaitStage.arriving.settled early wait =
        early.decided wait (wait.timeout.deadline? Clock.start.now) := if_pos known
    have looks : ∀ clock deadline, (WaitRoom.opened simulator.syncpoints clock).decided wait
        deadline = if reached syncpoint.value wait.threshold then .finished (.ok .completed)
          else if clock.past deadline then .finished (.ok .timedOut) else .asleep deadline := by
      intro clock deadline
      simp only [WaitRoom.decided, WaitRoom.reaches, WaitRoom.opened, found, Option.any_some]
      rfl
    rw [first, WaitRoom.settled_wake_decided, looks]
    dsimp only
    cases due : reached syncpoint.value wait.threshold with
    | true => rfl
    | false =>
      cases ends : wait.timeout.deadline? Clock.start.now with
      | none =>
        have forever : wait.timeout.deadline? .zero = none := ends
        rw [forever]
        rfl
      | some instant =>
        have timed : wait.timeout.deadline? .zero = some instant := ends
        have gone : late.clock.past (some instant) = true := Clock.past_advance ends
        rw [timed]
        cases soon : Clock.start.past (some instant) with
        | true => rfl
        | false =>
          have ended : (WaitStage.asleep (some instant)).settled late wait =
              .finished (.ok .timedOut) := by
            rw [WaitStage.settled, if_pos gone, looks, due]
            exact if_pos gone
          exact congrArg (fun stage => concluded stage.answer?) ended

end HostChannel

import HostChannel.Proofs.Simulator.Requests
import HostChannel.Proofs.Syncpoint.Tally

/-!
# Histories

What requests to the simulated device do to its syncpoints and to accepted work, one thing at
a time: a submission is accepted, a syncpoint is incremented, a submission has been executed
to its end. A moment is where things stand after some of these events. It holds the
syncpoints as the device has them, and beside them the same syncpoints counted without
wrap-around and the submissions accepted with their fences. `Follows.history` says that the
events of a list of requests are all that the device does to its syncpoints and its pending
work, and `Follows.amid` that the events of one execution after the other lead along the states
that the device goes through while it executes its queue.
-/

namespace HostChannel

/-- A thing that happens to syncpoints or to accepted work. -/
inductive Event where
  /-- A submission is accepted with a fence, and its increments are reserved. -/
  | accepted (submission : Submission) (fence : Word)
  /-- The syncpoint of an index is incremented, if there is one. -/
  | incremented (index : Word)
  /-- The first submission that is not executed to its end now is. -/
  | finished
  deriving DecidableEq, Repr

/-- An accepted submission with its fence. -/
structure Promise where
  /-- The submission. -/
  submission : Submission
  /-- The fence, as the device answered it. -/
  fence : Word
  /-- The fence, counted without wrap-around. -/
  number : Nat
  deriving DecidableEq, Repr

/-- Where things stand between two events. -/
structure Moment where
  /-- The syncpoints, as the device holds them. -/
  syncpoints : Array Syncpoint
  /-- The syncpoints, counted without wrap-around. -/
  tallies : Word → Tally
  /-- The submissions accepted so far, in order. -/
  promises : List Promise
  /-- How many of them have been executed to their end. -/
  executed : Nat
  /-- The increments since the last acceptance or end of an execution, in order. -/
  recent : List Word

namespace Moment

/-- Nothing has happened on a device with the settings. -/
def initial (settings : SimulatorSettings) : Moment :=
  ⟨(Simulator.initial settings).syncpoints, fun _ => .zero, [], 0, []⟩

/-- The submissions that have not been executed to their end, in order. -/
def unfinished (moment : Moment) : List Submission :=
  (moment.promises.drop moment.executed).map Promise.submission

/-- The tallies after one of them is changed. -/
def changeTally (tallies : Word → Tally) (index : Word) (change : Tally → Tally) : Word → Tally :=
  fun other => if other = index then change (tallies other) else tallies other

/-- The moment after an event. -/
def next (moment : Moment) : Event → Moment
  | .accepted submission fence =>
    let promised := (moment.tallies submission.syncpoint).reserve submission.increments.toNat
    { moment with
      syncpoints := moment.syncpoints.modify submission.syncpoint.toNat
        fun syncpoint => syncpoint.reserve submission.increments
      tallies := changeTally moment.tallies submission.syncpoint
        fun tally => tally.reserve submission.increments.toNat
      promises := moment.promises ++ [⟨submission, fence, promised.reserved⟩]
      recent := [] }
  | .incremented index =>
    { moment with
      syncpoints := Simulator.incrementAt moment.syncpoints index
      tallies := changeTally moment.tallies index Tally.increment
      recent := moment.recent ++ [index] }
  | .finished => { moment with executed := moment.executed + 1, recent := [] }

/-- The moment after events, in order. -/
def along (moment : Moment) (events : List Event) : Moment :=
  events.foldl next moment

/-- A property holds at the moment and after every part of the events that come first. -/
def Always (property : Moment → Prop) (moment : Moment) (events : List Event) : Prop :=
  ∀ past, past <+: events → property (moment.along past)

end Moment

/-- The increments that submissions declare on a syncpoint. -/
def declared (index : Word) : List Submission → Nat
  | [] => 0
  | submission :: rest =>
    (if submission.syncpoint = index then submission.increments.toNat else 0) + declared index rest

namespace Simulator

/-- The events of executing a submission. -/
def execution (simulator : Simulator) (submission : Submission) : List Event :=
  (simulator.incrementsMade submission).map .incremented ++ [.finished]

/-- The events of a submission, if it is accepted. -/
def acceptance (simulator : Simulator) (submission : Submission) : List Event :=
  match submit submission simulator with
  | (.ok fence, after) =>
    .accepted submission fence ::
      match simulator.settings.completion with
      | .immediate => after.execution submission
      | .deferred => []
  | (.error _, _) => []

/-- The events of a request. -/
def events (simulator : Simulator) : Request → List Event
  | .call (.submit submission) => simulator.acceptance submission
  | .runPending => simulator.pending.flatMap simulator.execution
  | .increment index times => List.replicate times (.incremented index)
  | _ => []

/-- The events of requests, in order. -/
def history (simulator : Simulator) : List Request → List Event
  | [] => []
  | request :: rest => simulator.events request ++ (simulator.respond request).history rest

end Simulator

namespace Moment

/-- Nothing happens. -/
theorem along_nil (moment : Moment) : moment.along [] = moment := rfl

/-- An event and what comes behind it. -/
theorem along_cons (moment : Moment) (event : Event) (rest : List Event) :
    moment.along (event :: rest) = (moment.next event).along rest := rfl

/-- Events that come in two parts. -/
theorem along_append (moment : Moment) (first second : List Event) :
    moment.along (first ++ second) = (moment.along first).along second :=
  List.foldl_append

/-- A property that always holds does so along the first part of the events, and along the
second part from where the first ends. -/
theorem always_append {property : Moment → Prop} {moment : Moment} {first second : List Event} :
    Always property moment (first ++ second) ↔
      Always property moment first ∧ Always property (moment.along first) second := by
  constructor
  · intro holds
    refine ⟨fun past early => holds past (early.trans (List.prefix_append first second)), ?_⟩
    intro past early
    rw [← along_append]
    exact holds _ ((List.prefix_append_right_inj first).mpr early)
  · rintro ⟨front, back⟩ past early
    rcases List.prefix_or_prefix_of_prefix early (List.prefix_append first second) with
      within | ⟨later, rfl⟩
    · exact front past within
    · rw [along_append]
      exact back later ((List.prefix_append_right_inj first).mp early)

/-- What holds along any events holds before them. -/
theorem Always.start {property : Moment → Prop} {moment : Moment} {events : List Event}
    (holds : Always property moment events) : property moment :=
  holds [] (List.nil_prefix)

/-- What holds along events holds after them. -/
theorem Always.finish {property : Moment → Prop} {moment : Moment} {events : List Event}
    (holds : Always property moment events) : property (moment.along events) :=
  holds events (List.prefix_refl events)

/-- Where nothing happens, there is only the moment itself. -/
theorem always_nil {property : Moment → Prop} {moment : Moment} :
    Always property moment [] ↔ property moment := by
  constructor
  · intro holds
    exact holds.start
  · intro holds past early
    rw [List.prefix_nil.mp early]
    exact holds

/-- A property holds along an event and more exactly when it holds before it, and from behind
it along the rest. -/
theorem always_cons {property : Moment → Prop} {moment : Moment} {event : Event}
    {rest : List Event} :
    Always property moment (event :: rest) ↔
      property moment ∧ Always property (moment.next event) rest := by
  constructor
  · intro holds
    refine ⟨holds.start, fun past early => ?_⟩
    exact holds (event :: past) (List.cons_prefix_cons.mpr ⟨rfl, early⟩)
  · rintro ⟨first, later⟩ past early
    cases past with
    | nil => exact first
    | cons head tail =>
      obtain ⟨rfl, shorter⟩ := List.cons_prefix_cons.mp early
      exact later tail shorter

/-- Increments change the counters and what is recent, and nothing else. -/
theorem along_incremented (moment : Moment) (indices : List Word) :
    moment.along (indices.map .incremented) =
      { moment with
        syncpoints := indices.foldl Simulator.incrementAt moment.syncpoints
        tallies := indices.foldl (fun tallies index => changeTally tallies index Tally.increment)
          moment.tallies
        recent := moment.recent ++ indices } := by
  induction indices generalizing moment with
  | nil => simp [along]
  | cons index rest ih =>
    change (moment.next (.incremented index)).along (rest.map .incremented) = _
    rw [ih]
    simp [next]

/-- Each tally that is in order is advanced by the number of increments that name it. -/
theorem foldl_changeTally (indices : List Word) (tallies : Word → Tally) {index : Word}
    (inOrder : (tallies index).InOrder) :
    indices.foldl (fun tallies index => changeTally tallies index Tally.increment) tallies index =
      (tallies index).advance (indices.count index) := by
  induction indices generalizing tallies with
  | nil => exact (Tally.advance_zero inOrder).symm
  | cons head rest ih =>
    rw [List.foldl_cons]
    by_cases same : head = index
    · subst same
      have changed : changeTally tallies head Tally.increment head = (tallies head).increment :=
        if_pos rfl
      rw [ih, changed, Tally.advance_increment, List.count_cons_self]
      rw [changed]
      exact Tally.increment_inOrder _
    · have kept : changeTally tallies head Tally.increment index = tallies index :=
        if_neg (Ne.symm same)
      rw [ih, kept, List.count_cons_of_ne same]
      rwa [kept]

/-- The end of an execution takes the first of the unfinished submissions away. -/
theorem unfinished_finished (moment : Moment) :
    (moment.next .finished).unfinished = moment.unfinished.tail := by
  simp [next, unfinished]

/-- An accepted submission is the last of the unfinished ones. -/
theorem unfinished_accepted {moment : Moment} (counted : moment.executed ≤ moment.promises.length)
    (submission : Submission) (fence : Word) :
    (moment.next (.accepted submission fence)).unfinished = moment.unfinished ++ [submission] := by
  simp only [next, unfinished]
  rw [List.drop_append_of_le_length counted, List.map_append]
  rfl

/-- The moment and the device tell the same of the syncpoints and of what is pending. -/
structure Follows (simulator : Simulator) (moment : Moment) : Prop where
  /-- The syncpoints are those of the device. -/
  syncpoints : moment.syncpoints = simulator.syncpoints
  /-- What is unfinished is pending. -/
  unfinished : moment.unfinished = simulator.pending
  /-- Only accepted submissions have been executed. -/
  executed : moment.executed ≤ moment.promises.length
  /-- Where work is executed at once, none is pending. -/
  immediate : simulator.settings.completion = .immediate → simulator.pending = []

/-- An execution changes the syncpoints, and counts one more submission as executed. -/
theorem along_execution (moment : Moment) (simulator : Simulator) (submission : Submission) :
    moment.along (simulator.execution submission) =
      { moment.along ((simulator.incrementsMade submission).map .incremented) with
        executed := moment.executed + 1
        recent := [] } := by
  rw [Simulator.execution, along_append, along_incremented]
  rfl

/-- Executions one after the other leave behind what their increments do to the syncpoints. -/
theorem along_executions (moment : Moment) (simulator : Simulator) (submissions : List Submission) :
    let behind := moment.along (submissions.flatMap simulator.execution)
    behind.syncpoints =
        (submissions.flatMap simulator.incrementsMade).foldl Simulator.incrementAt
          moment.syncpoints ∧
      behind.promises = moment.promises ∧
      behind.executed = moment.executed + submissions.length ∧
      (moment.recent = [] → behind.recent = []) := by
  induction submissions generalizing moment with
  | nil => exact ⟨rfl, rfl, rfl, id⟩
  | cons submission rest ih =>
    obtain ⟨syncpoints, promises, executed, recent⟩ :=
      ih (moment.along (simulator.execution submission))
    simp only [List.flatMap_cons, along_append]
    refine ⟨?_, ?_, ?_, fun _ => recent (congrArg Moment.recent (along_execution _ _ _))⟩
    · rw [syncpoints, along_execution, along_incremented, List.foldl_append]
    · rw [promises, along_execution, along_incremented]
    · have counted : (moment.along (simulator.execution submission)).executed =
          moment.executed + 1 := by rw [along_execution]
      rw [executed, counted, List.length_cons]
      omega

/-- Before anything has happened the moment follows the device. -/
theorem follows_initial (settings : SimulatorSettings) :
    Follows (Simulator.initial settings) (initial settings) :=
  ⟨rfl, rfl, Nat.le_refl 0, fun _ => rfl⟩

/-- A device of the same work is followed as well. -/
theorem Follows.sameWork {first second : Simulator} {moment : Moment}
    (follows : Follows first moment) (same : first.SameWork second) : Follows second moment := by
  refine ⟨?_, ?_, follows.executed, ?_⟩
  · rw [follows.syncpoints, same.syncpoints]
  · rw [follows.unfinished, same.pending]
  · rw [same.settings, same.pending]
    exact follows.immediate

/-- The number of unfinished submissions is what is missing of the accepted ones. -/
theorem length_unfinished (moment : Moment) :
    moment.unfinished.length = moment.promises.length - moment.executed := by
  rw [unfinished, List.length_map, List.length_drop]

/-- From an earlier moment, a number of the submissions that were pending at it have been executed,
and nothing else has happened. -/
structure Amid (simulator : Simulator) (count : Nat) (before moment : Moment) : Prop where
  /-- The syncpoints are those of the device midway. -/
  syncpoints : moment.syncpoints = (simulator.midway count).syncpoints
  /-- Nothing more is accepted. -/
  promises : moment.promises = before.promises
  /-- So many more have been executed. -/
  executed : moment.executed = before.executed + count
  /-- The others are unfinished. -/
  unfinished : moment.unfinished = simulator.pending.drop count

/-- Each execution of one that is pending is followed, from one to the next. -/
theorem Follows.amid {simulator : Simulator} {moment : Moment} (follows : Follows simulator moment)
    {count : Nat} (within : count ≤ simulator.pending.length) :
    Amid simulator count moment
      (moment.along ((simulator.pending.take count).flatMap simulator.execution)) := by
  obtain ⟨syncpoints, promises, executed, -⟩ :=
    along_executions moment simulator (simulator.pending.take count)
  rw [List.length_take, Nat.min_eq_left within] at executed
  refine ⟨?_, promises, executed, ?_⟩
  · rw [syncpoints, follows.syncpoints, Simulator.syncpoints_midway]
  · rw [Moment.unfinished, promises, executed, ← List.drop_drop, List.map_drop]
    exact congrArg (List.drop count) follows.unfinished

/-- What the execution of all that is pending does to the syncpoints is followed. -/
theorem Follows.runPending {simulator : Simulator} {moment : Moment}
    (follows : Follows simulator moment) :
    Follows (simulator.respond .runPending) (moment.along (simulator.events .runPending)) := by
  have counted := length_unfinished moment
  have bounded := follows.executed
  have done := follows.amid (Nat.le_refl simulator.pending.length)
  rw [follows.unfinished] at counted
  rw [List.take_length] at done
  refine ⟨done.syncpoints, ?_, ?_, fun _ => Simulator.pending_midway _ _⟩
  · exact done.unfinished.trans ((List.drop_length).trans (Simulator.pending_midway _ _).symm)
  · rw [Simulator.events, done.promises, done.executed]
    omega

/-- What direct increments do to the syncpoints is followed. -/
theorem Follows.increment {simulator : Simulator} {moment : Moment}
    (follows : Follows simulator moment) (index : Word) (times : Nat) :
    Follows (simulator.respond (.increment index times))
      (moment.along (simulator.events (.increment index times))) := by
  have events : simulator.events (.increment index times) =
      (List.replicate times index).map .incremented := by
    rw [Simulator.events, List.map_replicate]
  have response : simulator.respond (.increment index times) =
      { simulator with
        syncpoints := (List.replicate times index).foldl Simulator.incrementAt
          simulator.syncpoints } := by
    rw [Simulator.foldl_replicate_incrementAt]
    cases found : simulator.syncpoints[index.toNat]? with
    | none =>
      have kept : simulator.syncpoints.modify index.toNat (fun syncpoint => syncpoint.advance times)
          = simulator.syncpoints := by
        apply Array.ext_getElem?
        intro position
        rw [Array.getElem?_modify]
        split
        · rename_i same
          rw [← same, found, Option.map_none]
        · rfl
      rw [kept]
      simp only [Simulator.respond, Simulator.incrementSyncpoint, Simulator.findSyncpoint, found,
        Action.bind_apply]
    | some syncpoint =>
      simp only [Simulator.respond, Simulator.incrementSyncpoint, Simulator.findSyncpoint, found,
        Action.bind_apply, Action.update_apply, Action.pure_apply, Simulator.changeSyncpoint]
  rw [events, response, along_incremented]
  refine ⟨?_, follows.unfinished, follows.executed, follows.immediate⟩
  simp only [follows.syncpoints]

/-- What the acceptance of a submission does to the syncpoints is followed, and so is its
execution where that comes at once. -/
theorem Follows.submit {simulator : Simulator} {moment : Moment}
    (follows : Follows simulator moment) (submission : Submission) :
    Follows (simulator.respond (.call (.submit submission)))
      (moment.along (simulator.events (.call (.submit submission)))) := by
  by_cases accepts : simulator.Accepts submission
  · obtain ⟨syncpoint, found, run⟩ := Simulator.submit_of_accepts accepts
    have response : simulator.respond (.call (.submit submission)) =
        (simulator.taken submission).dispatch submission := congrArg Prod.snd run
    have counted := follows.executed
    have waiting := follows.unfinished
    rw [response, Simulator.dispatch, Simulator.settings_taken]
    simp only [Simulator.events, Simulator.acceptance, run]
    cases mode : simulator.settings.completion with
    | immediate =>
      have idle := follows.immediate mode
      have reached := length_unfinished moment
      rw [waiting, idle, List.length_nil] at reached
      have made : ((simulator.taken submission).dispatch submission).incrementsMade submission =
          (simulator.taken submission).incrementsMade submission := by
        have executed : (simulator.taken submission).dispatch submission =
            (simulator.taken submission).execute submission := by
          rw [Simulator.dispatch, Simulator.settings_taken, mode]
        rw [executed]
        exact Simulator.incrementsMade_congr (Simulator.buffers_execute _ _)
          (Simulator.size_execute _ _) submission
      rw [along_cons, along_execution, along_incremented, made, Simulator.execute_eq]
      refine ⟨?_, ?_, ?_, fun _ => ?_⟩
      · simp only [next, Simulator.syncpoints_taken, follows.syncpoints]
      · simp only [next, Moment.unfinished, Simulator.pending_taken, idle, List.map_eq_nil_iff,
          List.drop_eq_nil_iff, List.length_append, List.length_singleton]
        omega
      · simp only [next, List.length_append, List.length_singleton]
        omega
      · rw [Simulator.pending_taken, idle]
    | deferred =>
      rw [along_cons, along_nil]
      refine ⟨?_, ?_, ?_, fun immediate => ?_⟩
      · simp only [next, Simulator.syncpoints_taken, follows.syncpoints]
      · rw [unfinished_accepted counted, waiting]
        simp only [Simulator.pending_taken]
      · simp only [next, List.length_append, List.length_singleton]
        omega
      · simp only [mode, reduceCtorEq] at immediate
  · obtain ⟨failure, run⟩ := Simulator.submit_of_not_accepts accepts
    have response : simulator.respond (.call (.submit submission)) = simulator :=
      congrArg Prod.snd run
    simp only [response, Simulator.events, Simulator.acceptance, run]
    exact follows

/-- What any request does to the syncpoints is followed. -/
theorem Follows.respond {simulator : Simulator} {moment : Moment}
    (follows : Follows simulator moment) (request : Request) :
    Follows (simulator.respond request) (moment.along (simulator.events request)) := by
  cases request with
  | runPending => exact follows.runPending
  | increment index times => exact follows.increment index times
  | write region position data =>
    exact follows.sameWork (Simulator.respond_sameWork simulator (by simp) (by simp) (by simp))
  | call call =>
    cases call with
    | submit submission => exact follows.submit submission
    | _ => exact follows.sameWork (Simulator.respond_sameWork simulator (by simp) (by simp) (by simp))

/-- The history of requests made in two parts. -/
theorem history_append (simulator : Simulator) (first second : List Request) :
    simulator.history (first ++ second) =
      simulator.history first ++ (simulator.after first).history second := by
  induction first generalizing simulator with
  | nil => rfl
  | cons request rest ih =>
    rw [List.cons_append, Simulator.history, Simulator.history, ih, List.append_assoc]
    rfl

/-- Where all that is pending is executed, the executions of what came first in the queue begin the
rest of the history. -/
theorem history_midway (simulator : Simulator) (past later : List Request) (count : Nat) :
    let device := simulator.after past
    simulator.history past ++ (device.pending.take count).flatMap device.execution <+:
      simulator.history (past ++ .runPending :: later) := by
  intro device
  have parts : device.events .runPending =
      (device.pending.take count).flatMap device.execution ++
        (device.pending.drop count).flatMap device.execution := by
    rw [Simulator.events, ← List.flatMap_append, List.take_append_drop]
  rw [history_append, List.prefix_append_right_inj, Simulator.history, parts, List.append_assoc]
  exact List.prefix_append _ _

/-- The history of requests is all that they do to the syncpoints and to the pending work. -/
theorem Follows.history {simulator : Simulator} {moment : Moment}
    (follows : Follows simulator moment) (requests : List Request) :
    Follows (simulator.after requests) (moment.along (simulator.history requests)) := by
  induction requests generalizing simulator moment with
  | nil => exact follows
  | cons request rest ih =>
    rw [Simulator.history, along_append]
    exact ih (follows.respond request)

end Moment

end HostChannel

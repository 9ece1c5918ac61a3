import HostChannel.Proofs.Syncpoint.History

/-!
# No fence is lost

The counter of a syncpoint never passes its reserved value, and the reserved value is ahead
by no more than what unfinished submissions still declare. This is `Moment.Sound`, counted
without wrap-around, and every event of every run keeps it, as long as unfinished submissions
declare at most half the range on each syncpoint. An execution may leave it in doubt only
between its last increment and its end: the increments made by then are at least the declared
ones, so that the submission may be forgotten.
-/

namespace HostChannel

/-- What a list of submissions declares is declared by its parts. -/
theorem declared_append (index : Word) (first second : List Submission) :
    declared index (first ++ second) = declared index first + declared index second := by
  induction first with
  | nil => simp [declared]
  | cons submission rest ih =>
    rw [List.cons_append, declared, declared, ih]
    omega

namespace Moment

/-- Unfinished submissions declare at most half the range on each syncpoint. -/
def Bounded (moment : Moment) : Prop :=
  ∀ index, declared index moment.unfinished ≤ Word.half

/-- The syncpoints agree with their tallies, the counters are covered by what is reserved, and
what is reserved by what unfinished submissions declare. -/
structure Sound (moment : Moment) : Prop where
  /-- A syncpoint holds the numbers of its tally, cut to words. -/
  wrapped : ∀ index syncpoint, moment.syncpoints[index.toNat]? = some syncpoint →
    syncpoint = (moment.tallies index).wrapped
  /-- No counter is past its reserved number. -/
  inOrder : ∀ index, (moment.tallies index).InOrder
  /-- Unfinished submissions declare what is reserved and not counted yet. -/
  covered : ∀ index, (moment.tallies index).reserved ≤
    (moment.tallies index).value + declared index moment.unfinished
  /-- A fence is a number that was reserved, cut to a word. -/
  fences : ∀ promise ∈ moment.promises, promise.fence = UInt32.ofNat promise.number ∧
    promise.number ≤ (moment.tallies promise.submission.syncpoint).reserved

/-- Every counter is at its reserved value, and at or past every fence on it. -/
structure Settled (moment : Moment) : Prop where
  /-- The counter of a syncpoint is its reserved value. -/
  level : ∀ (index : Word) syncpoint, moment.syncpoints[index.toNat]? = some syncpoint →
    syncpoint.value = syncpoint.reserved
  /-- So it is without wrap-around. -/
  counted : ∀ index, (moment.tallies index).value = (moment.tallies index).reserved
  /-- The counter is at or past every fence that was answered. -/
  reached : ∀ promise ∈ moment.promises,
    promise.number ≤ (moment.tallies promise.submission.syncpoint).value

/-- Nothing is reserved before anything has happened. -/
theorem sound_initial (settings : SimulatorSettings) : (initial settings).Sound := by
  refine ⟨?_, fun _ => Nat.le_refl 0, fun _ => Nat.zero_le _, ?_⟩
  · intro index syncpoint found
    have unused : syncpoint = .initial := by
      have listed := Array.mem_of_getElem? found
      simp only [initial, Simulator.initial, Array.mem_replicate] at listed
      exact listed.2
    rw [unused]
    rfl
  · intro promise none
    exact absurd none List.not_mem_nil

/-- With nothing unfinished, a covered counter is where it was promised to be. -/
theorem Sound.settled {moment : Moment} (sound : moment.Sound) (idle : moment.unfinished = []) :
    moment.Settled := by
  have level : ∀ index, (moment.tallies index).value = (moment.tallies index).reserved := by
    intro index
    have behind : (moment.tallies index).value ≤ (moment.tallies index).reserved :=
      sound.inOrder index
    have covered := sound.covered index
    rw [idle, declared] at covered
    omega
  refine ⟨fun index syncpoint found => ?_, level, fun promise accepted => ?_⟩
  · rw [sound.wrapped index syncpoint found, Tally.wrapped, level]
  · rw [level]
    exact (sound.fences promise accepted).2

/-- The syncpoints after one is changed agree with the tallies after the one of the same index
is, when the change of the syncpoint is that of the tally. -/
theorem wrapped_changeTally {moment : Moment} (sound : moment.Sound) {index : Word}
    {change : Syncpoint → Syncpoint} {count : Tally → Tally}
    (agree : (count (moment.tallies index)).wrapped = change (moment.tallies index).wrapped)
    {other : Word} {syncpoint : Syncpoint}
    (found : (moment.syncpoints.modify index.toNat change)[other.toNat]? = some syncpoint) :
    syncpoint = (changeTally moment.tallies index count other).wrapped := by
  rw [Array.getElem?_modify] at found
  by_cases same : other = index
  · subst same
    rw [if_pos rfl, Option.map_eq_some_iff] at found
    obtain ⟨before, held, rfl⟩ := found
    rw [changeTally, if_pos rfl, agree, sound.wrapped other before held]
  · have apart : index.toNat ≠ other.toNat := fun equal => same (UInt32.toNat.inj equal).symm
    rw [if_neg apart] at found
    rw [changeTally, if_neg same]
    exact sound.wrapped other syncpoint found

/-- An accepted submission declares what it adds to what is reserved. -/
theorem sound_accepted {moment : Moment} (sound : moment.Sound)
    (counted : moment.executed ≤ moment.promises.length) (submission : Submission)
    {syncpoint : Syncpoint}
    (found : moment.syncpoints[submission.syncpoint.toNat]? = some syncpoint) :
    (moment.next
      (.accepted submission (syncpoint.reserve submission.increments).reserved)).Sound := by
  have growth : ∀ index, (moment.tallies index).reserved ≤ (changeTally moment.tallies
      submission.syncpoint (fun tally => tally.reserve submission.increments.toNat) index).reserved := by
    intro index
    rw [changeTally]
    split
    · exact Nat.le_add_right _ _
    · exact Nat.le_refl _
  refine ⟨?_, ?_, ?_, ?_⟩
  · intro index other held
    exact wrapped_changeTally sound (Tally.wrapped_reserve _ _) held
  · intro index
    simp only [next, changeTally]
    split
    · exact Tally.reserve_inOrder (sound.inOrder index) _
    · exact sound.inOrder index
  · intro index
    have covered := sound.covered index
    rw [unfinished_accepted counted, declared_append]
    simp only [next, changeTally, declared, Nat.add_zero]
    by_cases same : index = submission.syncpoint
    · rw [if_pos same, if_pos same.symm, Tally.reserve]
      simp only
      omega
    · rw [if_neg same, if_neg (Ne.symm same)]
      omega
  · intro promise accepted
    simp only [next, List.mem_append, List.mem_singleton] at accepted
    rcases accepted with earlier | rfl
    · have kept := sound.fences promise earlier
      exact ⟨kept.1, Nat.le_trans kept.2 (growth _)⟩
    · have agree := Tally.wrapped_reserve (moment.tallies submission.syncpoint)
        submission.increments
      rw [← sound.wrapped _ _ found] at agree
      refine ⟨(congrArg Syncpoint.reserved agree).symm, ?_⟩
      simp only [next, changeTally, if_true]
      exact Nat.le_refl _

/-- An increment may be anyone's: the counter takes what is reserved along where it would pass
it. -/
theorem sound_incremented {moment : Moment} (sound : moment.Sound) (bounded : moment.Bounded)
    (index : Word) : (moment.next (.incremented index)).Sound := by
  have near : (moment.tallies index).reserved ≤ (moment.tallies index).value + Word.half :=
    Nat.le_trans (sound.covered index) (Nat.add_le_add_left (bounded index) _)
  refine ⟨?_, ?_, ?_, ?_⟩
  · intro other syncpoint held
    exact wrapped_changeTally sound (Tally.wrapped_increment (sound.inOrder index) near) held
  · intro other
    simp only [next, changeTally]
    split
    · exact Tally.increment_inOrder _
    · exact sound.inOrder other
  · intro other
    have covered := sound.covered other
    have same : (moment.next (.incremented index)).unfinished = moment.unfinished := rfl
    rw [same]
    simp only [next, changeTally, Tally.increment]
    split
    · simp only
      omega
    · exact covered
  · intro promise accepted
    have kept := sound.fences promise accepted
    refine ⟨kept.1, Nat.le_trans kept.2 ?_⟩
    simp only [next, changeTally, Tally.increment]
    split
    · exact Nat.le_max_left _ _
    · exact Nat.le_refl _

/-- Increments one after the other keep everything sound. -/
theorem always_sound_incremented {moment : Moment} (sound : moment.Sound)
    (bounded : moment.Bounded) (indices : List Word) :
    Always Sound moment (indices.map .incremented) := by
  induction indices generalizing moment with
  | nil => exact always_nil.mpr sound
  | cons index rest ih =>
    rw [List.map_cons, always_cons]
    exact ⟨sound, ih (sound_incremented sound bounded index) bounded⟩

/-- A submission whose declared increments have been made may be forgotten. -/
theorem sound_finished {moment : Moment} (sound : moment.Sound) {submission : Submission}
    {rest : List Submission} (first : moment.unfinished = submission :: rest)
    (made : ∀ index, (moment.tallies index).reserved ≤
      (moment.tallies index).value + declared index rest) : (moment.next .finished).Sound := by
  refine ⟨sound.wrapped, sound.inOrder, fun index => ?_, sound.fences⟩
  rw [unfinished_finished, first, List.tail_cons]
  exact made index

/-- The execution of the first unfinished submission keeps everything sound, whatever its
streams do. -/
theorem always_sound_execution {moment : Moment} (sound : moment.Sound)
    (bounded : moment.Bounded) (simulator : Simulator) {submission : Submission}
    {rest : List Submission} (first : moment.unfinished = submission :: rest) :
    Always Sound moment (simulator.execution submission) := by
  have made := along_incremented moment (simulator.incrementsMade submission)
  have during := always_sound_incremented sound bounded (simulator.incrementsMade submission)
  rw [Simulator.execution, always_append]
  have still : (moment.along ((simulator.incrementsMade submission).map .incremented)).unfinished =
      submission :: rest := by
    rw [made]
    exact first
  have behind := sound_finished during.finish still (fun index => by
    have covered := sound.covered index
    have counted := foldl_changeTally (simulator.incrementsMade submission) moment.tallies
      (sound.inOrder index)
    rw [first, declared] at covered
    rw [made]
    simp only [counted, Tally.advance]
    -- On the submission's own syncpoint the declared increments are among those made.
    by_cases own : submission.syncpoint = index
    · subst own
      have enough := simulator.count_incrementsMade_self submission
      rw [if_pos rfl] at covered
      omega
    · rw [if_neg own] at covered
      omega)
  exact ⟨during, always_cons.mpr ⟨during.finish, always_nil.mpr behind⟩⟩

/-- The execution of all that is unfinished keeps everything sound. -/
theorem always_sound_executions (simulator : Simulator) (submissions : List Submission)
    {moment : Moment} (sound : moment.Sound) (all : moment.unfinished = submissions)
    (bounded : Always Bounded moment (submissions.flatMap simulator.execution)) :
    Always Sound moment (submissions.flatMap simulator.execution) := by
  induction submissions generalizing moment with
  | nil => exact always_nil.mpr sound
  | cons submission rest ih =>
    rw [List.flatMap_cons, always_append] at bounded ⊢
    have one := always_sound_execution sound bounded.1.start simulator all
    have later : (moment.along (simulator.execution submission)).unfinished =
        moment.unfinished.tail := by
      rw [along_execution, along_incremented]
      exact unfinished_finished moment
    rw [all, List.tail_cons] at later
    exact ⟨one, ih one.finish later bounded.2⟩

/-- Every request to a device that the moment follows keeps everything sound. -/
theorem always_sound_events {simulator : Simulator} {moment : Moment}
    (follows : Follows simulator moment) (sound : moment.Sound) (request : Request)
    (bounded : Always Bounded moment (simulator.events request)) :
    Always Sound moment (simulator.events request) := by
  cases request with
  | runPending =>
    exact always_sound_executions simulator simulator.pending sound follows.unfinished bounded
  | increment index times =>
    have listed := always_sound_incremented sound bounded.start (List.replicate times index)
    rwa [List.map_replicate] at listed
  | write region position data => exact always_nil.mpr sound
  | call call =>
    cases call with
    | submit submission =>
      by_cases accepts : simulator.Accepts submission
      · obtain ⟨syncpoint, found, run⟩ := Simulator.submit_of_accepts accepts
        rw [← follows.syncpoints] at found
        have accepted := sound_accepted sound follows.executed submission found
        simp only [Simulator.events, Simulator.acceptance, run, always_cons] at bounded ⊢
        refine ⟨sound, ?_⟩
        cases mode : simulator.settings.completion with
        | immediate =>
          have alone : (moment.next (.accepted submission
              (syncpoint.reserve submission.increments).reserved)).unfinished = [submission] := by
            rw [unfinished_accepted follows.executed, follows.unfinished, follows.immediate mode,
              List.nil_append]
          exact always_sound_execution accepted bounded.2.start _ alone
        | deferred => exact always_nil.mpr accepted
      · obtain ⟨failure, run⟩ := Simulator.submit_of_not_accepts accepts
        simp only [Simulator.events, Simulator.acceptance, run]
        exact always_nil.mpr sound
    | _ => exact always_nil.mpr sound

/-- A run whose unfinished submissions never declare more than half the range on a syncpoint
keeps everything sound. -/
theorem always_sound_history {simulator : Simulator} {moment : Moment}
    (follows : Follows simulator moment) (sound : moment.Sound) (requests : List Request)
    (bounded : Always Bounded moment (simulator.history requests)) :
    Always Sound moment (simulator.history requests) := by
  induction requests generalizing simulator moment with
  | nil => exact always_nil.mpr sound
  | cons request rest ih =>
    rw [Simulator.history, always_append] at bounded ⊢
    have one := always_sound_events follows sound request bounded.1
    exact ⟨one, ih (follows.respond request) one.finish bounded.2⟩

/-- The increments that the submissions accepted along events declare. -/
def declaredAlong : List Event → Nat
  | [] => 0
  | .accepted submission _ :: rest => submission.increments.toNat + declaredAlong rest
  | .incremented _ :: rest => declaredAlong rest
  | .finished :: rest => declaredAlong rest

/-- Some of the submissions declare no more than all of them. -/
theorem declared_drop_le (index : Word) (submissions : List Submission) (count : Nat) :
    declared index (submissions.drop count) ≤ declared index submissions := by
  have parts := declared_append index (submissions.take count) (submissions.drop count)
  rw [List.take_append_drop] at parts
  omega

/-- What is unfinished was unfinished before, or has been accepted since. -/
theorem declared_along_le (index : Word) (moment : Moment) (events : List Event) :
    declared index (moment.along events).unfinished ≤
      declared index moment.unfinished + declaredAlong events := by
  induction events generalizing moment with
  | nil => exact Nat.le_refl _
  | cons event rest ih =>
    have later := ih (moment.next event)
    rw [along_cons]
    cases event with
    | accepted submission fence =>
      have one : declared index (moment.next (.accepted submission fence)).unfinished ≤
          declared index moment.unfinished + submission.increments.toNat := by
        have last := declared_drop_le index [submission] (moment.executed - moment.promises.length)
        have own : declared index [submission] ≤ submission.increments.toNat := by
          simp only [declared]
          split <;> omega
        simp only [next, unfinished, List.map_drop, List.map_append, List.map_cons, List.map_nil,
          List.drop_append, declared_append]
        omega
      rw [declaredAlong]
      omega
    | incremented other => exact later
    | finished =>
      have shorter := declared_drop_le index moment.unfinished 1
      rw [List.drop_one, ← unfinished_finished] at shorter
      rw [declaredAlong]
      omega

/-- What is declared along events is declared along their parts. -/
theorem declaredAlong_append (first second : List Event) :
    declaredAlong (first ++ second) = declaredAlong first + declaredAlong second := by
  induction first with
  | nil => simp [declaredAlong]
  | cons event rest ih =>
    cases event <;> simp only [List.cons_append, declaredAlong, ih, Nat.add_assoc]

/-- Submissions that declare at most half the range altogether never declare more than that
while they are unfinished. -/
theorem always_bounded {events : List Event} (few : declaredAlong events ≤ Word.half)
    (settings : SimulatorSettings) : Always Bounded (initial settings) events := by
  rintro past ⟨later, rfl⟩ index
  have start : declared index (initial settings).unfinished = 0 := rfl
  have most := declared_along_le index (initial settings) past
  rw [declaredAlong_append] at few
  omega

/-- No fence is lost: at every point of every run the counter of a syncpoint is at most its
reserved number, and that is at most the counter and what unfinished submissions declare. Where
nothing is unfinished, every counter is at its reserved number and past every fence. -/
theorem no_fence_lost (settings : SimulatorSettings) (requests : List Request)
    (bounded : Always Bounded (initial settings)
      ((Simulator.initial settings).history requests)) :
    Follows ((Simulator.initial settings).after requests)
        ((initial settings).along ((Simulator.initial settings).history requests)) ∧
      Always (fun moment => moment.Sound ∧ (moment.unfinished = [] → moment.Settled))
        (initial settings) ((Simulator.initial settings).history requests) := by
  refine ⟨(follows_initial settings).history requests, fun past early => ?_⟩
  have sound := always_sound_history (follows_initial settings) (sound_initial settings) requests
    bounded past early
  exact ⟨sound, sound.settled⟩

/-- Two submissions on one syncpoint. The stream of the first increments another syncpoint, the
buffer of the second is released and its channel closed before anything is executed, and the
syncpoint is incremented directly in between. -/
def strayRequests : List Request :=
  [.call (.openChannel 1), .call (.allocate 4 ⟨0⟩), .call (.allocate 4 ⟨0⟩),
    .write (.buffer 1) 0 (Word.bytes 0x40000001),
    .call (.submit ⟨0, 0, 3, [⟨1, 0, 1⟩], []⟩), .call (.submit ⟨0, 0, 2, [⟨2, 0, 1⟩], []⟩),
    .call (.release 2), .call (.closeChannel 0), .increment 0 1, .runPending]

/-- The fences of the stray submissions are not lost. -/
theorem stray_fences_kept :
    Always Bounded (initial ⟨.deferred, 2, 1⟩)
        ((Simulator.initial ⟨.deferred, 2, 1⟩).history strayRequests) ∧
      Always (fun moment => moment.Sound ∧ (moment.unfinished = [] → moment.Settled))
        (initial ⟨.deferred, 2, 1⟩)
        ((Simulator.initial ⟨.deferred, 2, 1⟩).history strayRequests) := by
  have few : declaredAlong ((Simulator.initial ⟨.deferred, 2, 1⟩).history strayRequests) ≤
      Word.half := by decide +kernel
  have bounded := always_bounded few ⟨.deferred, 2, 1⟩
  exact ⟨bounded, (no_fence_lost ⟨.deferred, 2, 1⟩ strayRequests bounded).2⟩

end Moment

end HostChannel

import HostChannel.Proofs.Waiting.Turns

/-!
# What releases a waiting thread

A waiting thread answers with what the counters call for at that moment, so that it completes only
if its threshold is reached. Increments of other syncpoints wake it, but it looks and falls asleep
again. No call is lost: while none is owed, no thread sleeps whose threshold is reached, in whatever
order the threads have taken their turns (`waits_released_when_reached`).

`WaitStage.settled` computes what becomes of a wait when nothing else goes on, and turns of the
thread bring it there (`run_turns`). It needs the lock for that, which the thread that has it lets
go by turns of its own (`Sound.unlocked_soon`).
-/

namespace HostChannel

/-- The thread sleeps or has answered. -/
def WaitStage.rests : WaitStage → Bool
  | asleep _ | finished _ => true
  | _ => false

namespace WaitRoom

variable {room : WaitRoom} {position : Nat} {wait : Wait} {stage : WaitStage}

/-- What a wait comes to that is about to look at its counter with nothing else going on. -/
def decided (room : WaitRoom) (wait : Wait) (deadline : Option Duration) : WaitStage :=
  if room.reaches wait then .finished (.ok .completed)
  else if room.clock.past deadline then .finished (.ok .timedOut)
  else .asleep deadline

end WaitRoom

/-- What a wait comes to with nothing else going on. -/
def WaitStage.settled (room : WaitRoom) (wait : Wait) : WaitStage → WaitStage
  | arriving =>
    if wait.syncpoint.toNat < room.syncpoints.size then
      room.decided wait (wait.timeout.deadline? room.clock.now)
    else finished (.error (.noSyncpoint wait.syncpoint))
  | contending deadline => room.decided wait deadline
  | looking deadline => room.decided wait deadline
  | unready deadline =>
    if room.clock.past deadline then finished (.ok .timedOut) else asleep deadline
  | asleep deadline =>
    if room.clock.past deadline then room.decided wait deadline else asleep deadline
  | leaving outcome => finished (.ok outcome)
  | finished answer => finished answer

/-- It comes to a stage without the lock. -/
theorem WaitStage.holds_settled (room : WaitRoom) (wait : Wait) (stage : WaitStage) :
    (stage.settled room wait).holds = false := by
  cases stage <;> simp only [settled, WaitRoom.decided] <;> repeat' split
  all_goals rfl

/-- The number of turns that bring a wait there. -/
def WaitStage.turns (room : WaitRoom) : WaitStage → Nat
  | arriving => 5
  | contending _ => 4
  | looking _ => 3
  | unready _ => 2
  | asleep deadline => if room.clock.past deadline then 5 else 0
  | leaving _ => 1
  | finished _ => 0

namespace WaitRoom

variable {room : WaitRoom} {position : Nat} {wait : Wait} {stage : WaitStage}

/-- No other thread than the one at a position has the lock. -/
def FreeFor (room : WaitRoom) (position : Nat) : Prop :=
  ∀ (place : Nat) (thread : Thread), room.threads[place]? = some thread →
    thread.holds = true → place = position

/-- A thread that has not got the lock finds it free if no other one has it. -/
theorem FreeFor.unlocked (free : room.FreeFor position) {thread : Thread}
    (there : room.threads[position]? = some thread) (without : thread.holds = false) :
    room.locked = false := by
  refine List.any_eq_false.mpr fun other member holds => ?_
  obtain ⟨place, found⟩ := List.getElem?_of_mem member
  obtain rfl := free place other found holds
  obtain rfl := Option.some.inj (there.symm.trans found)
  rw [without] at holds
  cases holds

/-- The lock is still free for a thread after its turn. -/
theorem FreeFor.turn (free : room.FreeFor position) :
    (room.step (.turn position)).FreeFor position := by
  intro place thread found holds
  rcases holds_step found holds with ⟨before, there, had⟩ | ⟨own, -⟩
  · exact free place before there had
  · exact (Event.turn.inj own).symm

/-- It is still free after many turns. -/
theorem FreeFor.turns (free : room.FreeFor position) (count : Nat) :
    (room.run (List.replicate count (.turn position))).FreeFor position := by
  induction count generalizing room with
  | zero => exact free
  | succ count ih => exact ih free.turn

/-- In a room that is not locked, the lock is free for every thread. -/
theorem freeFor_of_unlocked (unlocked : room.locked = false) (position : Nat) :
    room.FreeFor position := by
  intro place thread found holds
  rw [locked_of_holds found holds] at unlocked
  cases unlocked

/-- A turn of a waiting thread changes its stage and nothing else. -/
theorem step_waiting (there : room.threads[position]? = some (.waiting wait stage)) :
    room.step (.turn position) = room.put position (.waiting wait (stage.next room wait)) := by
  simp only [step, there]
  rfl

/-- With the lock free, a turn comes nearer to what the wait comes to. -/
theorem turns_next (free : stage.holds = false → room.locked = false) :
    (stage.next room wait).turns room ≤ stage.turns room - 1 ∧
      (stage.next room wait).settled room wait = stage.settled room wait := by
  cases stage with
  | arriving =>
    simp only [WaitStage.next, WaitStage.settled]
    split <;> simp [WaitStage.turns]
  | contending deadline => simp [WaitStage.next, free rfl, WaitStage.turns, WaitStage.settled]
  | looking deadline =>
    simp only [WaitStage.next, WaitStage.settled, decided]
    split <;> simp [WaitStage.turns]
  | unready deadline =>
    simp only [WaitStage.next, WaitStage.settled]
    split <;> simp_all [WaitStage.turns]
  | asleep deadline =>
    simp only [WaitStage.next, WaitStage.settled]
    split <;> simp_all [WaitStage.turns]
  | leaving outcome => simp [WaitStage.next, WaitStage.turns, WaitStage.settled]
  | finished answer => simp [WaitStage.next, WaitStage.turns, WaitStage.settled]

/-- A wait that needs no turn is where it comes to. -/
theorem settled_of_turns (none : stage.turns room = 0) : stage.settled room wait = stage := by
  cases stage with
  | asleep deadline =>
    have early : ¬ room.clock.past deadline = true := by
      intro gone
      simp [WaitStage.turns, gone] at none
    simp only [WaitStage.settled, if_neg early]
  | finished answer => rfl
  | arriving | contending | looking | unready | leaving => cases none

/-- What a wait comes to does not depend on the stages of threads. -/
theorem settled_put (thread : Thread) :
    stage.settled (room.put position thread) wait = stage.settled room wait := by
  cases stage <;> rfl

/-- Nor does the number of turns that bring it there. -/
theorem turns_put (thread : Thread) :
    stage.turns (room.put position thread) = stage.turns room := by
  cases stage <;> rfl

/-- Turns with nothing else going on bring a waiting thread to what the wait comes to, and leave
everything else as it is. -/
theorem run_turns (count : Nat) (there : room.threads[position]? = some (.waiting wait stage))
    (free : room.FreeFor position) (many : stage.turns room ≤ count) :
    room.run (List.replicate count (.turn position)) =
      room.put position (.waiting wait (stage.settled room wait)) := by
  induction count generalizing room stage with
  | zero =>
    obtain ⟨inside, found⟩ := List.getElem?_eq_some_iff.mp there
    rw [settled_of_turns (Nat.le_zero.mp many), ← found, put, List.set_getElem_self]
    rfl
  | succ count ih =>
    have nearer : (stage.next room wait).turns room ≤ stage.turns room - 1 ∧
        (stage.next room wait).settled room wait = stage.settled room wait :=
      turns_next fun without => free.unlocked there without
    have fewer : (stage.next room wait).turns (room.step (.turn position)) ≤ count := by
      rw [step_waiting there, turns_put]
      omega
    rw [List.replicate_succ, run, List.foldl_cons]
    refine (ih (threads_turn there) free.turn fewer).trans ?_
    rw [step_waiting there, settled_put, nearer.2]
    simp only [put, List.set_set]

/-- A wait comes to its end, or to sleep, in a few turns. -/
theorem settle_waiting (there : room.threads[position]? = some (.waiting wait stage))
    (free : room.FreeFor position) :
    room.settle position = room.put position (.waiting wait (stage.settled room wait)) := by
  refine run_turns enough there free ?_
  cases stage <;> simp only [WaitStage.turns, enough] <;> (try split) <;> omega

/-- A thread that has the lock lets it go by turns of its own. -/
theorem Sound.unlocked_soon (sound : room.Sound) :
    ∃ position count, (room.run (List.replicate count (.turn position))).locked = false := by
  cases taken : room.locked with
  | false => exact ⟨0, 0, taken⟩
  | true =>
    obtain ⟨thread, member, holds⟩ := List.any_eq_true.mp taken
    obtain ⟨position, there⟩ := List.getElem?_of_mem member
    have free : room.FreeFor position := fun place other found has =>
      sound.exclusive found there has holds
    refine ⟨position, ?_⟩
    rcases thread with ⟨wait, stage⟩ | ⟨_ | update | update | _, rest⟩
    · have behind : (room.settle position).threads[position]? =
          some (.waiting wait (stage.settled room wait)) := by
        obtain ⟨inside, -⟩ := List.getElem?_eq_some_iff.mp there
        rw [settle_waiting there free, put, List.getElem?_set_self inside]
      exact ⟨enough, (free.turns enough).unlocked behind (stage.holds_settled room wait)⟩
    · cases holds
    · have behind := threads_turn (threads_turn there)
      exact ⟨2, (free.turns 2).unlocked behind (Thread.holds_next_acted _ _ _)⟩
    · exact ⟨1, (free.turns 1).unlocked (threads_turn there) (Thread.holds_next_acted _ _ _)⟩
    · cases holds

/-- A waiting thread stays one, with the same wait. -/
theorem waiting_stays (event : Event)
    (there : room.threads[position]? = some (.waiting wait stage)) :
    ∃ behind, (room.step event).threads[position]? = some (.waiting wait behind) := by
  by_cases own : event = .turn position
  · subst own
    exact ⟨_, threads_turn there⟩
  · rw [threads_other there own]
    cases room.rings event with
    | true => exact ⟨_, rfl⟩
    | false => exact ⟨_, rfl⟩

/-- A thread answers in a turn of its own, in which it lets the lock go or has found no
syncpoint. -/
theorem finished_step {event : Event} {answer : Except Error WaitOutcome}
    (behind : (room.step event).threads[position]? = some (.waiting wait (.finished answer))) :
    room.threads[position]? = some (.waiting wait (.finished answer)) ∨
      event = .turn position ∧
        ((∃ outcome, room.threads[position]? = some (.waiting wait (.leaving outcome)) ∧
            answer = .ok outcome) ∨
          room.threads[position]? = some (.waiting wait .arriving) ∧
            room.syncpoints.size ≤ wait.syncpoint.toNat ∧
            answer = .error (.noSyncpoint wait.syncpoint)) := by
  rcases waiting_step behind with ⟨before, found, own, after⟩ | ⟨before, found, -, after⟩ | after
  · cases before with
    | arriving =>
      rw [WaitStage.next] at after
      split at after
      · cases after
      · next beyond =>
        exact .inr ⟨own, .inr ⟨found, Nat.le_of_not_lt beyond, WaitStage.finished.inj after⟩⟩
    | leaving outcome => exact .inr ⟨own, .inl ⟨outcome, found, WaitStage.finished.inj after⟩⟩
    | finished => exact .inl (after ▸ found)
    | contending | looking | unready | asleep =>
      rw [WaitStage.next] at after
      split at after <;> cases after
  · obtain rfl : before = .finished answer := by
      split at after
      · cases before <;> cases after
        rfl
      · exact after.symm
    exact .inl found
  · cases after

/-- A thread answers with what the counters call for when it does. -/
theorem Sound.justifies (sound : room.Sound) {event : Event} {answer : Except Error WaitOutcome}
    (there : room.threads[position]? = some (.waiting wait stage)) (pending : stage.answer? = none)
    (behind : (room.step event).threads[position]? = some (.waiting wait (.finished answer))) :
    (room.step event).Justifies wait answer := by
  have unchanged : event = .turn position → (room.step event).syncpoints = room.syncpoints := by
    rintro rfl
    rw [syncpoints_step, changes_waiting there]
    rfl
  rcases finished_step behind with found | ⟨own, ⟨outcome, found, rfl⟩ | ⟨-, beyond, rfl⟩⟩
  · rw [there] at found
    cases found
    cases pending
  · have due : room.Justifies wait (.ok outcome) := sound.fits found
    cases outcome with
    | completed => exact (reaches_congr (unchanged own) wait).trans due
    | timedOut =>
      exact ⟨(unchanged own).symm ▸ due.1, (reaches_congr (unchanged own) wait).trans due.2.1,
        due.2.2⟩
  · exact ⟨(unchanged own).symm ▸ beyond, rfl⟩

/-- A wait for ever on a syncpoint that is there goes on while its threshold is not reached. -/
theorem Sound.pending_step (sound : room.Sound) {event : Event}
    (there : room.threads[position]? = some (.waiting wait stage)) (pending : stage.answer? = none)
    (endless : wait.timeout = .infinite) (known : wait.syncpoint.toNat < room.syncpoints.size)
    (behind : (room.step event).reaches wait = false) :
    ∃ later, (room.step event).threads[position]? = some (.waiting wait later) ∧
      later.answer? = none := by
  obtain ⟨later, found⟩ := waiting_stays event there
  refine ⟨later, found, ?_⟩
  cases later with
  | finished answer =>
    exfalso
    have due := sound.justifies there pending found
    rcases answer with cause | _ | _
    · exact absurd known (Nat.not_lt_of_le (size_step event ▸ due.1))
    · exact Bool.false_ne_true (behind.symm.trans due)
    · exact due.2.2 endless
  | arriving | contending | looking | unready | asleep | leaving => rfl

/-- It goes on whatever increments of other syncpoints are made. -/
theorem Sound.pending_run (sound : room.Sound) {events : List Event}
    (there : room.threads[position]? = some (.waiting wait stage)) (pending : stage.answer? = none)
    (endless : wait.timeout = .infinite) (known : wait.syncpoint.toNat < room.syncpoints.size)
    (behind : room.reaches wait = false) (others : .increment wait.syncpoint ∉ room.made events) :
    ∃ later, (room.run events).threads[position]? = some (.waiting wait later) ∧
      later.answer? = none := by
  induction events generalizing room stage with
  | nil => exact ⟨stage, there, pending⟩
  | cons event rest ih =>
    rw [made, List.mem_append, not_or] at others
    have still := (reaches_step others.1).trans behind
    obtain ⟨later, found, goes⟩ := sound.pending_step there pending endless known still
    exact ih (sound.step event) found goes ((size_step event).symm ▸ known) still others.2

/-- What is waited for in the room, or has been. -/
def waits (room : WaitRoom) : List Wait :=
  room.threads.filterMap Thread.wait?

/-- No counter runs half the range or more past a waited threshold that it has reached: once it is
less than that behind the counter, it is so after every event. -/
def Steady (room : WaitRoom) : List Event → Prop
  | [] => True
  | event :: later =>
    (∀ wait ∈ room.waits, room.reaches wait = true → (room.step event).reaches wait = true) ∧
      (room.step event).Steady later

instance decidableSteady (room : WaitRoom) : (events : List Event) → Decidable (room.Steady events)
  | [] => inferInstanceAs (Decidable True)
  | event :: later =>
    have := decidableSteady (room.step event) later
    inferInstanceAs (Decidable (_ ∧ _))

/-- Where a thread has answered that its threshold is reached, it is still reached. -/
def Kept (room : WaitRoom) : Prop :=
  ∀ (position : Nat) (wait : Wait),
    room.threads[position]? = some (.waiting wait (.finished (.ok .completed))) →
      room.reaches wait = true

/-- What is waited for is among the waits. -/
theorem mem_waits (there : room.threads[position]? = some (.waiting wait stage)) :
    wait ∈ room.waits :=
  List.mem_filterMap.mpr ⟨_, List.mem_of_getElem? there, rfl⟩

/-- Answers stay true through an event that lets no counter run too far. -/
theorem Sound.kept_step (sound : room.Sound) (kept : room.Kept) {event : Event}
    (steady : ∀ wait ∈ room.waits, room.reaches wait = true →
      (room.step event).reaches wait = true) : (room.step event).Kept := by
  intro position wait found
  rcases finished_step found with there | ⟨-, ⟨outcome, there, same⟩ | ⟨-, -, other⟩⟩
  · exact steady wait (mem_waits there) (kept position wait there)
  · obtain rfl := Except.ok.inj same
    exact steady wait (mem_waits there) (sound.fits there)
  · cases other

/-- They stay true through events that let no counter run too far. -/
theorem Sound.kept_run (sound : room.Sound) (kept : room.Kept) {events : List Event}
    (steady : room.Steady events) : (room.run events).Kept := by
  induction events generalizing room with
  | nil => exact kept
  | cons event later ih =>
    exact ih (sound.step event) (sound.kept_step kept steady.1) steady.2

/-- With no call owed, a wait for ever comes to complete if its threshold is reached, and to sleep
if it is not. -/
theorem Sound.settled_infinite (sound : room.Sound) (kept : room.Kept)
    (there : room.threads[position]? = some (.waiting wait stage))
    (endless : wait.timeout = .infinite) (known : wait.syncpoint.toNat < room.syncpoints.size)
    (called : room.owed = false) :
    stage.settled room wait =
      if room.reaches wait then .finished (.ok .completed) else .asleep none := by
  have fits := sound.fits there
  have look : room.decided wait none =
      if room.reaches wait then .finished (.ok .completed) else .asleep none := rfl
  cases stage with
  | arriving => rw [WaitStage.settled, if_pos known, endless]; exact look
  | contending deadline =>
    obtain rfl := fits.endless endless
    exact look
  | looking deadline =>
    obtain rfl := fits.endless endless
    exact look
  | unready deadline =>
    obtain rfl := fits.1.endless endless
    rw [fits.2]
    rfl
  | asleep deadline =>
    obtain rfl := fits.1.endless endless
    have behind : room.reaches wait = false :=
      Bool.eq_false_iff.mpr fun reached => Bool.false_ne_true (called.symm.trans (fits.2.2 reached))
    rw [behind]
    rfl
  | leaving outcome =>
    cases outcome with
    | completed =>
      have reached : room.reaches wait = true := fits
      rw [reached]
      rfl
    | timedOut => exact absurd endless fits.2.2
  | finished answer =>
    rcases answer with cause | _ | _
    · exact absurd known (Nat.not_lt_of_le fits)
    · rw [kept position wait there]
      rfl
    · exact absurd endless fits

/-- A wait of no time at all answers at once, whether its threshold is reached or not. -/
theorem Sound.settled_zero (sound : room.Sound)
    (there : room.threads[position]? = some (.waiting wait stage)) (pending : stage.answer? = none)
    (zero : wait.timeout = .zero) (known : wait.syncpoint.toNat < room.syncpoints.size) :
    stage.settled room wait =
      .finished (.ok (if room.reaches wait then .completed else .timedOut)) := by
  have fits := sound.fits there
  have look : ∀ {deadline}, room.clock.past deadline = true → room.decided wait deadline =
      .finished (.ok (if room.reaches wait then .completed else .timedOut)) := by
    intro deadline gone
    rw [decided, if_pos gone]
    split <;> rfl
  cases stage with
  | arriving => rw [WaitStage.settled, if_pos known, zero]; exact look (Clock.past_zero _)
  | contending deadline => exact look (fits.instant zero)
  | looking deadline => exact look (fits.instant zero)
  | unready deadline =>
    rw [WaitStage.settled, if_pos (fits.1.instant zero), fits.2]
    rfl
  | asleep deadline => exact absurd zero fits.2.1
  | leaving outcome =>
    cases outcome with
    | completed =>
      have reached : room.reaches wait = true := fits
      rw [reached]
      rfl
    | timedOut =>
      rw [fits.2.1]
      rfl
  | finished => cases pending

/-- With no call owed, a wait for ever at rest sleeps exactly while its threshold is not reached. -/
theorem Sound.pending_iff (sound : room.Sound) (kept : room.Kept)
    (there : room.threads[position]? = some (.waiting wait stage))
    (endless : wait.timeout = .infinite) (known : wait.syncpoint.toNat < room.syncpoints.size)
    (called : room.owed = false) (rests : stage.rests = true) :
    stage.answer? = none ↔ room.reaches wait = false := by
  have settled := sound.settled_infinite kept there endless known called
  cases stage with
  | asleep deadline =>
    obtain rfl := (sound.fits there).1.endless endless
    refine iff_of_true rfl (Bool.eq_false_iff.mpr fun reached => ?_)
    rw [reached] at settled
    cases settled
  | finished answer =>
    refine iff_of_false (fun none => nomatch none) fun behind => ?_
    rw [behind] at settled
    cases settled
  | arriving | contending | looking | unready | leaving => cases rests

end WaitRoom

open WaitRoom in
/-- Waiting is exact, in whatever order any number of threads take their turns. A thread answers
with what the counters call for when it does. While its threshold is not reached, a wait for ever
goes on whatever increments of other syncpoints are made. No call is lost: while none is owed, a wait
for ever at rest still goes on exactly if its threshold is not reached, and one under way comes to
that by turns of its own. A wait of no time at all never sleeps, and turns of its own bring it to its
answer. -/
theorem waits_released_when_reached {syncpoints : Array Syncpoint} {clock : Clock}
    {events : List WaitRoom.Event} {position : Nat} {wait : Wait} {stage : WaitStage}
    (there : ((opened syncpoints clock).run events).threads[position]? =
      some (.waiting wait stage)) :
    let room := (opened syncpoints clock).run events
    (∀ event answer, stage.answer? = none →
      (room.step event).threads[position]? = some (.waiting wait (.finished answer)) →
      (room.step event).Justifies wait answer) ∧
    (wait.timeout = .infinite → wait.syncpoint.toNat < syncpoints.size →
      (∀ later, stage.answer? = none → room.reaches wait = false →
        .increment wait.syncpoint ∉ room.made later →
        ∃ behind, (room.run later).threads[position]? = some (.waiting wait behind) ∧
          behind.answer? = none) ∧
      ((opened syncpoints clock).Steady events → room.owed = false →
        (stage.rests = true → (stage.answer? = none ↔ room.reaches wait = false)) ∧
        (room.FreeFor position → room.settle position = room.put position (.waiting wait
          (if room.reaches wait then .finished (.ok .completed) else .asleep none))))) ∧
    (wait.timeout = .zero →
      (∀ deadline, stage ≠ .asleep deadline) ∧
      (stage.answer? = none → wait.syncpoint.toNat < syncpoints.size → room.FreeFor position →
        room.settle position = room.put position (.waiting wait
          (.finished (.ok (if room.reaches wait then .completed else .timedOut)))))) := by
  intro room
  have sound : room.Sound := (sound_opened syncpoints clock).run events
  have size : room.syncpoints.size = syncpoints.size := size_run events
  refine ⟨fun event answer pending behind => sound.justifies there pending behind, ?_, ?_⟩
  · intro endless known
    refine ⟨fun later pending behind others => ?_, fun steady called => ?_⟩
    · exact sound.pending_run there pending endless (size.symm ▸ known) behind others
    · have kept : room.Kept := (sound_opened syncpoints clock).kept_run
        (fun _ _ found => nomatch found) steady
      refine ⟨sound.pending_iff kept there endless (size.symm ▸ known) called, fun free => ?_⟩
      rw [settle_waiting there free,
        sound.settled_infinite kept there endless (size.symm ▸ known) called]
  · intro zero
    refine ⟨?_, fun pending known free => ?_⟩
    · rintro deadline rfl
      exact (sound.fits there).2.1 zero
    · rw [settle_waiting there free, sound.settled_zero there pending zero (size.symm ▸ known)]

deriving instance DecidableEq for WaitStage, Thread

/-- A thread waits for the first of two syncpoints, and another one for the second, which a third
thread increments. That one finds the lock taken between the look and the sleep of the first, and
then wakes both. The first looks again and falls asleep again. Last comes a thread that asks without
waiting. -/
def crossedWaits : List WaitRoom.Event :=
  [.arrive ⟨0, 1, .infinite⟩, .arrive ⟨1, 1, .infinite⟩, .start [.reserve 1 1, .increment 1],
    .turn 0, .turn 0, .turn 2, .turn 0, .turn 1, .turn 1, .turn 0, .turn 1, .turn 1, .turn 2,
    .turn 1] ++ List.replicate 7 (.turn 2) ++
  [.turn 1, .turn 1, .turn 0, .turn 1, .turn 0, .turn 0, .turn 0, .arrive ⟨1, 1, .zero⟩]

open WaitRoom in
/-- The first thread sleeps and goes on sleeping when the second syncpoint is incremented again, the
second has answered in time, and the last is answered at once. -/
theorem crossed_waits_released :
    let opening := opened #[.initial, .initial] .start
    let room := opening.run crossedWaits
    opening.Steady crossedWaits ∧ room.owed = false ∧
      room.threads[0]? = some (.waiting ⟨0, 1, .infinite⟩ (.asleep none)) ∧
      room.reaches ⟨0, 1, .infinite⟩ = false ∧
      (∃ behind, (room.run (.start [.increment 1] :: List.replicate 5 (.turn 4))).threads[0]? =
        some (.waiting ⟨0, 1, .infinite⟩ behind) ∧ behind.answer? = none) ∧
      ((opening.run (crossedWaits.take 24)).step (.turn 1)).Justifies ⟨1, 1, .infinite⟩
        (.ok .completed) ∧
      room.settle 1 = room.put 1 (.waiting ⟨1, 1, .infinite⟩ (.finished (.ok .completed))) ∧
      room.settle 3 = room.put 3 (.waiting ⟨1, 1, .zero⟩ (.finished (.ok .completed))) := by
  intro opening room
  have steady : opening.Steady crossedWaits := by decide +kernel
  have called : room.owed = false := by decide +kernel
  have unlocked : room.locked = false := by decide +kernel
  have first : room.threads[0]? = some (.waiting ⟨0, 1, .infinite⟩ (.asleep none)) := by
    decide +kernel
  have second : room.threads[1]? =
      some (.waiting ⟨1, 1, .infinite⟩ (.finished (.ok .completed))) := by decide +kernel
  have leaving : (opening.run (crossedWaits.take 24)).threads[1]? =
      some (.waiting ⟨1, 1, .infinite⟩ (.leaving .completed)) := by decide +kernel
  have last : room.threads[3]? = some (.waiting ⟨1, 1, .zero⟩ .arriving) := by decide +kernel
  obtain ⟨-, forever, -⟩ := waits_released_when_reached first
  obtain ⟨others, calls⟩ := forever rfl (by decide)
  have behind := ((calls steady called).1 rfl).mp rfl
  obtain ⟨answers, -⟩ := waits_released_when_reached leaving
  obtain ⟨-, reached, -⟩ := waits_released_when_reached second
  obtain ⟨-, -, asks⟩ := waits_released_when_reached last
  refine ⟨steady, called, first, behind, others _ rfl behind (by decide +kernel), ?_, ?_, ?_⟩
  · exact answers (.turn 1) (.ok .completed) rfl (by decide +kernel)
  · rw [((reached rfl (by decide)).2 steady called).2 (freeFor_of_unlocked unlocked 1),
      if_pos (by decide +kernel)]
  · rw [(asks rfl).2 rfl (by decide) (freeFor_of_unlocked unlocked 3), if_pos (by decide +kernel)]

end HostChannel

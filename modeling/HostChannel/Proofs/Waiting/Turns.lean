import HostChannel.Waiting
import Mathlib.Data.List.Basic

/-!
# Turns of waiting and working threads

What an event does is said once: `threads_step` gives the thread at each position after it,
`syncpoints_step` the syncpoints and `clock_step` the clock. From these follows what every event
preserves (`Sound.step`): one thread at most has the lock, and what a waiting thread has found out
is still so. The heart of it is a sleeping thread: if its threshold is reached, some thread still
owes the sleeping ones a call (`WaitStage.Fits`).
-/

namespace HostChannel

namespace Clock

/-- A clock never goes back. -/
theorem le_advance (clock : Clock) (span : Duration) : clock.now ≤ (clock.advance span).now := by
  unfold advance
  split
  · exact Duration.le_add _ _
  · exact Duration.le_refl _

/-- A deadline that is over stays over. -/
theorem past_mono {clock later : Clock} (order : clock.now ≤ later.now)
    {deadline : Option Duration} (gone : clock.past deadline = true) :
    later.past deadline = true := by
  cases deadline with
  | none => cases gone
  | some instant =>
    simp only [past, Option.any_some, decide_eq_true_eq] at gone ⊢
    exact Duration.le_trans gone order

/-- A wait of no time at all ends at the instant at which it begins. -/
theorem deadline_zero (clock : Clock) : Timeout.zero.deadline? clock.now = some clock.now := by
  have instant : clock.now.add .zero = clock.now := by
    obtain ⟨⟨seconds, nanoseconds⟩, carried, -⟩ := clock
    simp only [Duration.add, Duration.zero, Duration.ofParts, Nat.add_zero,
      Nat.div_eq_of_lt carried, Nat.mod_eq_of_lt carried]
  simp only [Timeout.zero, Timeout.deadline?, instant, clock.shown, if_true]

/-- It is over as soon as it begins. -/
theorem past_zero (clock : Clock) : clock.past (Timeout.zero.deadline? clock.now) = true := by
  rw [deadline_zero]
  exact decide_eq_true (Duration.le_refl _)

end Clock

namespace WaitStage

/-- Waking changes nothing about the lock. -/
@[simp] theorem holds_wake (stage : WaitStage) : stage.wake.holds = stage.holds := by
  cases stage <;> rfl

/-- A thread that is woken does not sleep. -/
theorem wake_ne_asleep (stage : WaitStage) (deadline : Option Duration) :
    stage.wake ≠ asleep deadline := by
  cases stage <;> simp [wake]

end WaitStage

namespace Thread

/-- Waking changes nothing about the lock. -/
@[simp] theorem holds_wake (thread : Thread) : thread.wake.holds = thread.holds := by
  cases thread with
  | waiting wait stage => exact stage.holds_wake
  | working => rfl

/-- Waking changes nothing about the calls that are owed. -/
@[simp] theorem owes_wake (thread : Thread) : thread.wake.owes = thread.owes := by
  rcases thread with _ | _ <;> rfl

/-- Only a waiting thread becomes a waiting thread by its turn, and its wait is the same. -/
theorem next_eq_waiting {room : WaitRoom} {thread : Thread} {wait : Wait} {stage : WaitStage}
    (after : thread.next room = waiting wait stage) :
    ∃ before, thread = waiting wait before ∧ stage = before.next room wait := by
  rcases thread with ⟨_, before⟩ | ⟨_ | _ | _ | _, updates⟩
  · obtain ⟨rfl, rfl⟩ := Thread.waiting.inj after
    exact ⟨before, rfl, rfl⟩
  · cases updates with
    | nil => cases after
    | cons update rest =>
      simp only [next] at after
      split at after
      · cases after
      · split at after <;> cases after
  · cases after
  · cases after
  · cases after

/-- Waking makes waiting threads of waiting threads only, and their waits are the same. -/
theorem wake_eq_waiting {thread : Thread} {wait : Wait} {stage : WaitStage}
    (after : thread.wake = waiting wait stage) :
    ∃ before, thread = waiting wait before ∧ stage = before.wake := by
  cases thread with
  | waiting _ before =>
    obtain ⟨rfl, rfl⟩ := Thread.waiting.inj after
    exact ⟨before, rfl, rfl⟩
  | working => cases after

/-- A thread that has made a change lets the lock go. -/
theorem holds_next_acted (room : WaitRoom) (update : Update) (rest : List Update) :
    ((working (.acted update) rest).next room).holds = false := by
  rw [next]
  cases update.notifies <;> rfl

/-- A thread takes the lock only if it is free. -/
theorem holds_of_holds_next {room : WaitRoom} {thread : Thread}
    (holds : (thread.next room).holds = true) : thread.holds = true ∨ room.locked = false := by
  rcases thread with ⟨wait, stage⟩ | ⟨stage, updates⟩
  · cases stage with
    | contending deadline =>
      refine .inr (Bool.not_eq_true _ |>.mp fun taken => ?_)
      simp only [next, WaitStage.next, taken, if_true] at holds
      cases holds
    | looking | unready | leaving => exact .inl rfl
    | arriving =>
      simp only [next, WaitStage.next] at holds
      split at holds <;> cases holds
    | asleep =>
      simp only [next, WaitStage.next] at holds
      split at holds <;> cases holds
    | finished => cases holds
  · cases stage with
    | acting | acted => exact .inl rfl
    | notifying => cases holds
    | between =>
      cases updates with
      | nil => cases holds
      | cons update rest =>
        refine .inr (Bool.not_eq_true _ |>.mp fun taken => ?_)
        simp only [next, taken, if_true] at holds
        split at holds <;> cases holds

end Thread

namespace WaitRoom

variable {room : WaitRoom}

/-- The event is the turn of a thread that wakes the sleeping ones. -/
def rings (room : WaitRoom) : Event → Bool
  | .turn position =>
    match room.threads[position]? with
    | some (.working .notifying _) => true
    | _ => false
  | _ => false

/-- The changes of syncpoints that an event makes: one at most. -/
def changes (room : WaitRoom) : Event → List Update
  | .turn position =>
    match room.threads[position]? with
    | some (.working (.acting update) _) => [update]
    | _ => []
  | _ => []

/-- A waiting thread makes no change. -/
theorem changes_waiting {position : Nat} {wait : Wait} {stage : WaitStage}
    (there : room.threads[position]? = some (.waiting wait stage)) :
    room.changes (.turn position) = [] := by
  simp only [changes, there]

/-- A waiting thread wakes none. -/
theorem rings_waiting {position : Nat} {wait : Wait} {stage : WaitStage}
    (there : room.threads[position]? = some (.waiting wait stage)) :
    room.rings (.turn position) = false := by
  simp only [rings, there]

/-- The changes that a list of events makes, in order. -/
def made (room : WaitRoom) : List Event → List Update
  | [] => []
  | event :: later => room.changes event ++ (room.step event).made later

/-- An event changes the syncpoints by the changes that it makes. -/
theorem syncpoints_step (event : Event) :
    (room.step event).syncpoints = (room.changes event).foldl Update.apply room.syncpoints := by
  cases event with
  | arrive | start | tick => rfl
  | turn position =>
    simp only [step, changes]
    rcases room.threads[position]? with _ | ⟨⟩ | ⟨⟨⟩⟩ <;> rfl

/-- Events happen one list after the other. -/
theorem run_append (first second : List Event) :
    room.run (first ++ second) = (room.run first).run second :=
  List.foldl_append

/-- No event makes or removes a syncpoint. -/
@[simp] theorem size_step (event : Event) :
    (room.step event).syncpoints.size = room.syncpoints.size := by
  rw [syncpoints_step]
  unfold changes
  repeat' split
  all_goals simp [Update.apply]

/-- Nor does a list of events. -/
theorem size_run (events : List Event) :
    (room.run events).syncpoints.size = room.syncpoints.size := by
  induction events generalizing room with
  | nil => rfl
  | cons event later ih => exact ih.trans (size_step event)

/-- The clock goes on only when time goes by. -/
theorem clock_step (event : Event) :
    room.clock.now ≤ (room.step event).clock.now := by
  cases event with
  | arrive | start => exact Duration.le_refl _
  | tick span => exact Clock.le_advance _ _
  | turn position =>
    simp only [step]
    rcases room.threads[position]? with _ | ⟨⟩ | ⟨⟨⟩⟩ <;> exact Duration.le_refl _

/-- The thread that has taken its turn. -/
theorem threads_turn {position : Nat} {thread : Thread}
    (there : room.threads[position]? = some thread) :
    (room.step (.turn position)).threads[position]? = some (thread.next room) := by
  obtain ⟨inside, -⟩ := List.getElem?_eq_some_iff.mp there
  simp only [step, there, put, List.getElem?_set_self']
  rcases thread with ⟨⟩ | ⟨⟨⟩⟩ <;> simp [after, inside]

/-- A thread that has not taken its turn stays, and may be woken. -/
theorem threads_other {event : Event} {position : Nat} {thread : Thread}
    (there : room.threads[position]? = some thread) (other : event ≠ .turn position) :
    (room.step event).threads[position]? =
      some (if room.rings event then thread.wake else thread) := by
  obtain ⟨inside, -⟩ := List.getElem?_eq_some_iff.mp there
  cases event with
  | arrive | start =>
    simp only [step, rings, List.getElem?_append_left inside, there]
    rfl
  | tick => exact there
  | turn place =>
    have apart : place ≠ position := fun same => other (congrArg Event.turn same)
    cases found : room.threads[place]? with
    | none => simp [step, rings, found, there]
    | some actor =>
      rcases actor with ⟨⟩ | ⟨⟨⟩⟩ <;>
        simp [step, rings, put, after, found, List.getElem?_set_ne apart, there]

/-- What there is at each position after an event: the thread that has taken its turn, one that
has stayed and may have been woken, or a new one. -/
theorem threads_step {event : Event} {position : Nat} {thread : Thread}
    (there : (room.step event).threads[position]? = some thread) :
    (∃ before, room.threads[position]? = some before ∧ event = .turn position ∧
        thread = before.next room) ∨
      (∃ before, room.threads[position]? = some before ∧ event ≠ .turn position ∧
        thread = if room.rings event then before.wake else before) ∨
      (∃ wait, thread = .waiting wait .arriving) ∨
      ∃ updates, thread = .working .between updates := by
  by_cases absent : room.threads[position]? = none
  · right; right
    have behind := List.getElem?_eq_none_iff.mp absent
    cases event with
    | arrive wait =>
      simp only [step, List.getElem?_append_right behind, List.getElem?_singleton] at there
      split at there <;> cases there
      exact .inl ⟨wait, rfl⟩
    | start updates =>
      simp only [step, List.getElem?_append_right behind, List.getElem?_singleton] at there
      split at there <;> cases there
      exact .inr ⟨updates, rfl⟩
    | tick =>
      simp only [step, absent] at there
      cases there
    | turn place =>
      have same : (room.step (.turn place)).threads.length = room.threads.length := by
        simp only [step]
        rcases room.threads[place]? with _ | ⟨⟩ | ⟨⟨⟩⟩ <;> simp [after, put]
      rw [List.getElem?_eq_none (same ▸ behind)] at there
      cases there
  · obtain ⟨before, found⟩ := Option.ne_none_iff_exists'.mp absent
    by_cases own : event = .turn position
    · subst own
      rw [threads_turn found] at there
      exact .inl ⟨before, found, rfl, (Option.some.inj there).symm⟩
    · rw [threads_other found own] at there
      exact .inr (.inl ⟨before, found, own, (Option.some.inj there).symm⟩)

/-- The lock is taken while a thread has it. -/
theorem locked_of_holds {position : Nat} {thread : Thread}
    (there : room.threads[position]? = some thread) (holds : thread.holds = true) :
    room.locked = true :=
  List.any_eq_true.mpr ⟨thread, List.mem_of_getElem? there, holds⟩

/-- A call is owed if a thread owes it. -/
theorem owed_iff : room.owed = true ↔
    ∃ (position : Nat) (thread : Thread), room.threads[position]? = some thread ∧
      thread.owes = true := by
  rw [owed, List.any_eq_true]
  constructor
  · rintro ⟨thread, member, owes⟩
    obtain ⟨position, found⟩ := List.getElem?_of_mem member
    exact ⟨position, thread, found, owes⟩
  · rintro ⟨position, thread, found, owes⟩
    exact ⟨thread, List.mem_of_getElem? found, owes⟩

/-- A call that is owed is made by the event or still owed behind it. -/
theorem owed_step (event : Event) (owed : room.owed = true) :
    room.rings event = true ∨ (room.step event).owed = true := by
  obtain ⟨position, thread, there, owes⟩ := owed_iff.mp owed
  by_cases own : event = .turn position
  · subst own
    have behind := threads_turn there
    rcases thread with _ | ⟨_ | _ | update | _, rest⟩
    · cases owes
    · cases owes
    · cases owes
    · refine .inr (owed_iff.mpr ⟨position, _, behind, ?_⟩)
      simp only [Thread.owes] at owes
      simp only [Thread.next, owes, if_true, Thread.owes]
    · simp only [rings, there, true_or]
  · refine .inr (owed_iff.mpr ⟨position, _, threads_other there own, ?_⟩)
    split
    · rw [Thread.owes_wake, owes]
    · exact owes

/-- Whether a threshold is reached depends on the syncpoints only. -/
theorem reaches_congr {next : WaitRoom} (same : next.syncpoints = room.syncpoints) (wait : Wait) :
    next.reaches wait = room.reaches wait := by
  simp only [reaches, same]

/-- No change but an increment of its own syncpoint matters to a threshold. -/
theorem reaches_apply {next : WaitRoom} {update : Update} {wait : Wait}
    (changed : next.syncpoints = update.apply room.syncpoints)
    (other : update ≠ .increment wait.syncpoint) : next.reaches wait = room.reaches wait := by
  simp only [reaches, changed, Update.apply, Array.getElem?_modify]
  split
  case isTrue same =>
    cases update with
    | reserve syncpoint increments =>
      rw [Option.any_map]
      rfl
    | increment syncpoint =>
      obtain rfl := UInt32.toNat.inj same
      exact absurd rfl other
  case isFalse => rfl

/-- An event makes no change, or one that a thread with the lock has come to. -/
theorem changes_cases (room : WaitRoom) (event : Event) :
    room.changes event = [] ∨ ∃ position update rest, event = .turn position ∧
      room.threads[position]? = some (.working (.acting update) rest) ∧
      room.changes event = [update] := by
  cases event with
  | arrive | start | tick => exact .inl rfl
  | turn position =>
    simp only [changes]
    split
    case h_1 update rest found => exact .inr ⟨position, update, rest, rfl, found, rfl⟩
    case h_2 => exact .inl rfl

/-- An event that makes no increment of a syncpoint leaves its thresholds as they are. -/
theorem reaches_step {event : Event} {wait : Wait}
    (others : .increment wait.syncpoint ∉ room.changes event) :
    (room.step event).reaches wait = room.reaches wait := by
  have changed := room.syncpoints_step event
  rcases room.changes_cases event with none | ⟨position, update, rest, -, -, one⟩
  · rw [none] at changed
    exact reaches_congr changed wait
  · rw [one] at changed others
    exact reaches_apply changed fun same => others (same ▸ List.mem_singleton_self _)

/-- A call is owed behind an increment. -/
theorem owed_of_increment {event : Event} {syncpoint : Word}
    (made : .increment syncpoint ∈ room.changes event) : (room.step event).owed = true := by
  rcases room.changes_cases event with none | ⟨position, update, rest, rfl, found, one⟩
  · rw [none] at made
    cases made
  · rw [one, List.mem_singleton] at made
    subst made
    exact owed_iff.mpr ⟨position, _, threads_turn found, rfl⟩

/-- What a thread has found out about a wait that it is to give up at a deadline. -/
structure Admits (room : WaitRoom) (wait : Wait) (deadline : Option Duration) : Prop where
  /-- There is the syncpoint. -/
  known : wait.syncpoint.toNat < room.syncpoints.size
  /-- A wait for ever has no deadline. -/
  endless : wait.timeout = .infinite → deadline = none
  /-- A wait of no time at all is over. -/
  instant : wait.timeout = .zero → room.clock.past deadline = true

/-- The answer is the one that a wait is due as the syncpoints stand. -/
def Justifies (room : WaitRoom) (wait : Wait) : Except Error WaitOutcome → Prop
  | .ok .completed => room.reaches wait = true
  | .ok .timedOut => wait.syncpoint.toNat < room.syncpoints.size ∧ room.reaches wait = false ∧
      wait.timeout ≠ .infinite
  | .error cause => room.syncpoints.size ≤ wait.syncpoint.toNat ∧
      cause = .noSyncpoint wait.syncpoint

end WaitRoom

/-- What holds of a waiting thread at each stage. At the stages with the lock, what it has seen of
its counter is still so. A thread that sleeps although its threshold is reached is owed a call. -/
def WaitStage.Fits (room : WaitRoom) (wait : Wait) : WaitStage → Prop
  | arriving => True
  | contending deadline => room.Admits wait deadline
  | looking deadline => room.Admits wait deadline
  | unready deadline => room.Admits wait deadline ∧ room.reaches wait = false
  | asleep deadline => room.Admits wait deadline ∧ wait.timeout ≠ .zero ∧
      (room.reaches wait = true → room.owed = true)
  | leaving outcome => room.Justifies wait (.ok outcome)
  | finished (.ok .completed) => wait.syncpoint.toNat < room.syncpoints.size
  | finished (.ok .timedOut) => wait.timeout ≠ .infinite
  | finished (.error _) => room.syncpoints.size ≤ wait.syncpoint.toNat

namespace WaitRoom

variable {room : WaitRoom}

/-- What is found out about a wait stays so. -/
theorem Admits.carry {next : WaitRoom} {wait : Wait} {deadline : Option Duration}
    (admits : room.Admits wait deadline) (size : next.syncpoints.size = room.syncpoints.size)
    (clock : room.clock.now ≤ next.clock.now) : next.Admits wait deadline :=
  ⟨size ▸ admits.known, admits.endless, fun zero => Clock.past_mono clock (admits.instant zero)⟩

/-- A syncpoint with a counter to look at is there. -/
theorem known_of_reaches {wait : Wait} (reaches : room.reaches wait = true) :
    wait.syncpoint.toNat < room.syncpoints.size := by
  by_contra beyond
  rw [WaitRoom.reaches, Array.getElem?_eq_none (Nat.le_of_not_lt beyond)] at reaches
  cases reaches

end WaitRoom

/-- What holds of a waiting thread still holds if others leave its counter alone while it has the
lock, and owe a call when they have brought the counter of a sleeping thread to its threshold. -/
theorem WaitStage.Fits.carry {room next : WaitRoom} {wait : Wait} {stage : WaitStage}
    (fits : stage.Fits room wait) (size : next.syncpoints.size = room.syncpoints.size)
    (clock : room.clock.now ≤ next.clock.now)
    (held : stage.holds = true → next.reaches wait = room.reaches wait)
    (called : ∀ deadline, stage = .asleep deadline →
      (room.reaches wait = true → room.owed = true) → next.reaches wait = true →
        next.owed = true) :
    stage.Fits next wait := by
  cases stage with
  | arriving => trivial
  | contending => exact WaitRoom.Admits.carry fits size clock
  | looking => exact WaitRoom.Admits.carry fits size clock
  | unready => exact ⟨fits.1.carry size clock, (held rfl).trans fits.2⟩
  | asleep deadline => exact ⟨fits.1.carry size clock, fits.2.1, called deadline rfl fits.2.2⟩
  | leaving outcome =>
    cases outcome with
    | completed => exact (held rfl).trans fits
    | timedOut => exact ⟨size ▸ fits.1, (held rfl).trans fits.2.1, fits.2.2⟩
  | finished answer =>
    rcases answer with cause | _ | _
    · exact Nat.le_trans (Nat.le_of_eq size) fits
    · exact Nat.lt_of_lt_of_eq fits size.symm
    · exact fits

/-- What holds of a sleeping thread is enough for it to be woken. -/
theorem WaitStage.Fits.wake {room : WaitRoom} {wait : Wait} {stage : WaitStage}
    (fits : stage.Fits room wait) : stage.wake.Fits room wait := by
  cases stage with
  | asleep deadline => exact fits.1
  | arriving | contending | looking | unready | leaving | finished => exact fits

/-- A waiting thread that takes its turn finds out what holds at its next stage. -/
theorem WaitStage.Fits.next {room : WaitRoom} {wait : Wait} {stage : WaitStage}
    (fits : stage.Fits room wait) : (stage.next room wait).Fits room wait := by
  cases stage with
  | arriving =>
    simp only [WaitStage.next]
    split
    case isTrue known =>
      refine ⟨known, fun endless => ?_, fun zero => ?_⟩
      · rw [endless]
        rfl
      · rw [zero]
        exact Clock.past_zero _
    case isFalse beyond => exact Nat.le_of_not_lt beyond
  | contending deadline =>
    simp only [WaitStage.next]
    split <;> exact fits
  | looking deadline =>
    simp only [WaitStage.next]
    split
    case isTrue reached => exact reached
    case isFalse behind => exact ⟨fits, Bool.eq_false_iff.mpr behind⟩
  | unready deadline =>
    obtain ⟨admits, behind⟩ := fits
    simp only [WaitStage.next]
    split
    case isTrue gone =>
      refine ⟨admits.known, behind, fun endless => ?_⟩
      rw [admits.endless endless] at gone
      cases gone
    case isFalse early =>
      -- It has had the lock since it looked, so no call can have been made for nothing.
      refine ⟨admits, fun zero => early (admits.instant zero), fun reached => ?_⟩
      rw [behind] at reached
      cases reached
  | asleep deadline =>
    simp only [WaitStage.next]
    split
    · exact fits.1
    · exact fits
  | leaving outcome =>
    cases outcome with
    | completed => exact WaitRoom.known_of_reaches fits
    | timedOut => exact fits.2.2
  | finished answer => exact fits

namespace WaitRoom

variable {room : WaitRoom}

/-- A thread that has the lock after an event has had it before, or has found it free. -/
theorem holds_step {event : Event} {position : Nat} {thread : Thread}
    (there : (room.step event).threads[position]? = some thread) (holds : thread.holds = true) :
    (∃ before, room.threads[position]? = some before ∧ before.holds = true) ∨
      event = .turn position ∧ room.locked = false := by
  rcases threads_step there with
    ⟨before, found, own, rfl⟩ | ⟨before, found, -, rfl⟩ | ⟨wait, rfl⟩ | ⟨updates, rfl⟩
  · rcases Thread.holds_of_holds_next holds with had | free
    · exact .inl ⟨before, found, had⟩
    · exact .inr ⟨own, free⟩
  · refine .inl ⟨before, found, ?_⟩
    split at holds
    · rwa [Thread.holds_wake] at holds
    · exact holds
  · cases holds
  · cases holds

/-- A waiting thread was there before with the same wait, or has just come. It has taken its turn,
or has been woken, or is at the stage at which it was. -/
theorem waiting_step {event : Event} {position : Nat} {wait : Wait} {stage : WaitStage}
    (there : (room.step event).threads[position]? = some (.waiting wait stage)) :
    (∃ before, room.threads[position]? = some (.waiting wait before) ∧ event = .turn position ∧
        stage = before.next room wait) ∨
      (∃ before, room.threads[position]? = some (.waiting wait before) ∧ event ≠ .turn position ∧
        stage = if room.rings event then before.wake else before) ∨
      stage = .arriving := by
  rcases threads_step there with
    ⟨thread, found, own, after⟩ | ⟨thread, found, other, after⟩ | ⟨_, after⟩ | ⟨_, after⟩
  · obtain ⟨before, rfl, same⟩ := Thread.next_eq_waiting after.symm
    exact .inl ⟨before, found, own, same⟩
  · refine .inr (.inl ?_)
    cases rung : room.rings event with
    | true =>
      rw [rung, if_pos rfl] at after
      obtain ⟨before, rfl, same⟩ := Thread.wake_eq_waiting after.symm
      exact ⟨before, found, other, same⟩
    | false =>
      rw [rung, if_neg Bool.false_ne_true] at after
      exact ⟨stage, after ▸ found, other, rfl⟩
  · cases after
    exact .inr (.inr rfl)
  · cases after

/-- What every event preserves: one thread at most has the lock, and what waiting threads have found
out is so. -/
structure Sound (room : WaitRoom) : Prop where
  /-- Two threads that have the lock are one. -/
  exclusive : ∀ {first second : Nat} {one other : Thread}, room.threads[first]? = some one →
    room.threads[second]? = some other → one.holds = true → other.holds = true → first = second
  /-- What waiting threads have found out is so. -/
  fits : ∀ {position : Nat} {wait : Wait} {stage : WaitStage},
    room.threads[position]? = some (.waiting wait stage) → stage.Fits room wait

/-- Nothing is wrong in a room without threads. -/
theorem sound_opened (syncpoints : Array Syncpoint) (clock : Clock) :
    (opened syncpoints clock).Sound :=
  ⟨fun found => (nomatch found), fun found => (nomatch found)⟩

/-- While a thread has the lock, only its own turn changes a syncpoint. -/
theorem Sound.changes_of_holds (sound : room.Sound) {event : Event} {position : Nat}
    {thread : Thread} (there : room.threads[position]? = some thread)
    (holds : thread.holds = true) (other : event ≠ .turn position) : room.changes event = [] := by
  rcases room.changes_cases event with none | ⟨place, update, rest, rfl, found, -⟩
  · exact none
  · exact absurd (congrArg Event.turn (sound.exclusive found there rfl holds)) other

/-- An event leaves one thread at most with the lock. -/
theorem Sound.exclusive_step (sound : room.Sound) {event : Event} {first second : Nat}
    {one other : Thread} (foundOne : (room.step event).threads[first]? = some one)
    (foundOther : (room.step event).threads[second]? = some other) (holdsOne : one.holds = true)
    (holdsOther : other.holds = true) : first = second := by
  rcases holds_step foundOne holdsOne with ⟨former, formerly, had⟩ | ⟨own, free⟩
  · rcases holds_step foundOther holdsOther with ⟨latter, before, has⟩ | ⟨own, free⟩
    · exact sound.exclusive formerly before had has
    · rw [locked_of_holds formerly had] at free
      cases free
  · rcases holds_step foundOther holdsOther with ⟨latter, before, has⟩ | ⟨again, -⟩
    · rw [locked_of_holds before has] at free
      cases free
    · exact Event.turn.inj (own.symm.trans again)

/-- A thread that sleeps through an event although its threshold is reached is still owed a call, or
has come to be owed one. -/
theorem owed_asleep {event : Event} {wait : Wait} (silent : room.rings event = false)
    (called : room.reaches wait = true → room.owed = true)
    (reached : (room.step event).reaches wait = true) : (room.step event).owed = true := by
  -- Only an increment of its own syncpoint can have brought its counter to the threshold.
  by_cases made : .increment wait.syncpoint ∈ room.changes event
  · exact owed_of_increment made
  · rcases owed_step event (called (reaches_step made ▸ reached)) with rings | owes
    · rw [silent] at rings
      cases rings
    · exact owes

/-- An event leaves what waiting threads have found out. -/
theorem Sound.fits_step (sound : room.Sound) {event : Event} {position : Nat} {wait : Wait}
    {stage : WaitStage}
    (found : (room.step event).threads[position]? = some (.waiting wait stage)) :
    stage.Fits (room.step event) wait := by
  rcases waiting_step found with ⟨before, there, rfl, rfl⟩ | ⟨before, there, other, rfl⟩ | rfl
  · have same : (room.step (.turn position)).reaches wait = room.reaches wait :=
      reaches_step (changes_waiting there ▸ List.not_mem_nil)
    exact (sound.fits there).next.carry (size_step _) (clock_step _) (fun _ => same)
      fun deadline _ called reached => owed_asleep (rings_waiting there) called reached
  · have held : before.holds = true → (room.step event).reaches wait = room.reaches wait :=
      fun holds => reaches_step (sound.changes_of_holds there holds other ▸ List.not_mem_nil)
    cases rung : room.rings event with
    | true =>
      refine (sound.fits there).wake.carry (size_step _) (clock_step _) ?_ ?_
      · exact fun holds => held (before.holds_wake ▸ holds)
      · exact fun deadline sleeps => absurd sleeps (before.wake_ne_asleep deadline)
    | false =>
      exact (sound.fits there).carry (size_step _) (clock_step _) held
        fun deadline _ called reached => owed_asleep rung called reached
  · trivial

/-- An event leaves all this as it is. -/
theorem Sound.step (sound : room.Sound) (event : Event) : (room.step event).Sound :=
  ⟨sound.exclusive_step, sound.fits_step⟩

/-- So does a list of events. -/
theorem Sound.run (sound : room.Sound) (events : List Event) : (room.run events).Sound := by
  induction events generalizing room with
  | nil => exact sound
  | cons event later ih => exact ih (sound.step event)

end WaitRoom

end HostChannel

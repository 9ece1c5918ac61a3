import HostChannel.Proofs.Simulator.Pool
import HostChannel.Proofs.Simulator.Requests
import Mathlib.Data.List.Pairwise

/-!
# Channels over a run of requests

The pool of syncpoints changes where a channel is opened or closed, and with no other request. So
on a device that only requests have brought about, each syncpoint that was ever taken is in one
place, whatever else it was asked for (`Reaches.pooled`). Where no open had to be given up for want
of a name, which takes more of them than there are names, none is lost, and the open channels are
those of which the answers have told that they were opened and not that they were closed since
(`syncpoints_allotted`).
-/

namespace HostChannel

namespace Simulator

open HostChannel.Action (Moves)

/-- Both devices have the same channels and the same pool, and as many syncpoints. -/
structure SamePool (first second : Simulator) : Prop where
  /-- The settings are the same. -/
  settings : second.settings = first.settings
  /-- There are as many syncpoints. -/
  size : second.syncpoints.size = first.syncpoints.size
  /-- The same syncpoints have never been taken. -/
  nextSyncpoint : second.nextSyncpoint = first.nextSyncpoint
  /-- The same syncpoints are given back. -/
  returned : second.returned = first.returned
  /-- The next channel gets the same name. -/
  nextChannel : second.nextChannel = first.nextChannel
  /-- The same channels are open. -/
  channels : second.channels = first.channels

instance : IsPreorder Simulator SamePool where
  refl _ := ⟨rfl, rfl, rfl, rfl, rfl, rfl⟩
  trans _ _ _ earlier later :=
    ⟨later.settings.trans earlier.settings, later.size.trans earlier.size,
      later.nextSyncpoint.trans earlier.nextSyncpoint, later.returned.trans earlier.returned,
      later.nextChannel.trans earlier.nextChannel, later.channels.trans earlier.channels⟩

/-- A view of the device keeps the pool. -/
theorem samePool_of_moves_eq {α : Type} {action : Action Simulator α}
    (kept : Moves (· = ·) action) : Moves SamePool action := by
  intro simulator
  rw [← kept simulator]
  exact refl_of SamePool simulator

/-- So does allocating a buffer. -/
theorem allocate_samePool (size : UInt64) : Moves SamePool (allocate size) := by
  intro simulator
  rcases allocate_cases size simulator with ⟨_, _, _, -, made⟩ | ⟨_, -, -, made⟩
  · exact made ▸ ⟨rfl, rfl, rfl, rfl, rfl, rfl⟩
  · exact made ▸ ⟨rfl, rfl, rfl, rfl, rfl, rfl⟩

/-- So does releasing one. -/
theorem release_samePool (handle : Handle) : Moves SamePool (release handle) :=
  Moves.bind (samePool_of_moves_eq (findBuffer_moves handle)) fun _ =>
    Moves.update fun _ => ⟨rfl, rfl, rfl, rfl, rfl, rfl⟩

/-- So does making writes of the processor visible. -/
theorem flush_samePool (handle : Handle) (offset length : UInt64) :
    Moves SamePool (flush handle offset length) :=
  Moves.bind (samePool_of_moves_eq (findRange_moves handle offset length)) fun _ =>
    Moves.update fun _ => ⟨rfl, rfl, rfl, rfl, rfl, rfl⟩

/-- So does making writes of the device visible. -/
theorem invalidate_samePool (handle : Handle) (offset length : UInt64) :
    Moves SamePool (invalidate handle offset length) :=
  Moves.bind (samePool_of_moves_eq (findRange_moves handle offset length)) fun _ =>
    Moves.update fun _ => ⟨rfl, rfl, rfl, rfl, rfl, rfl⟩

/-- So does writing to memory. -/
theorem writeRegion_samePool (region : RegionId) (position : Nat) (data : List UInt8)
    (simulator : Simulator) : SamePool simulator (writeRegion region position data simulator) := by
  cases region with
  | buffer handle => exact ⟨rfl, rfl, rfl, rfl, rfl, rfl⟩
  | standalone serial => exact refl_of SamePool simulator

/-- So does changing a syncpoint. -/
theorem changeSyncpoint_samePool (simulator : Simulator) (index : Word)
    (change : Syncpoint → Syncpoint) :
    simulator.SamePool (simulator.changeSyncpoint index change) :=
  ⟨rfl, Array.size_modify, rfl, rfl, rfl, rfl⟩

/-- So does executing submissions. -/
theorem foldl_execute_samePool (submissions : List Submission) (simulator : Simulator) :
    simulator.SamePool (submissions.foldl execute simulator) := by
  rw [foldl_execute]
  exact ⟨rfl, size_incremented _ _, rfl, rfl, rfl, rfl⟩

/-- So does submitting. -/
theorem submit_samePool (submission : Submission) : Moves SamePool (submit submission) := by
  intro simulator
  by_cases accepts : simulator.Accepts submission
  · obtain ⟨syncpoint, found, run⟩ := submit_of_accepts accepts
    have taken : simulator.SamePool (simulator.taken submission) := by
      rw [Simulator.taken, foldl_patched]
      exact ⟨rfl, Array.size_modify, rfl, rfl, rfl, rfl⟩
    rw [run, dispatch]
    refine trans_of SamePool taken ?_
    split
    · exact foldl_execute_samePool [submission] _
    · exact ⟨rfl, rfl, rfl, rfl, rfl, rfl⟩
  · obtain ⟨failure, run⟩ := submit_of_not_accepts accepts
    rw [run]
    exact refl_of SamePool simulator

/-- A request that neither opens nor closes a channel keeps the pool. -/
theorem respond_samePool (simulator : Simulator) (request : Request)
    (beside : request.besideChannels = true) :
    simulator.SamePool (simulator.respond request) := by
  cases request with
  | write region position data => exact writeRegion_samePool region position data simulator
  | runPending =>
    have emptied : simulator.SamePool { simulator with pending := [] } :=
      ⟨rfl, rfl, rfl, rfl, rfl, rfl⟩
    rw [respond_runPending]
    exact trans_of SamePool emptied (foldl_execute_samePool simulator.pending _)
  | increment index times =>
    exact Moves.bind (samePool_of_moves_eq (findSyncpoint_moves index))
      (fun _ => Moves.bind (Moves.update fun _ => changeSyncpoint_samePool _ _ _) fun _ =>
        Moves.pure _) simulator
  | call call =>
    cases call with
    | allocate size flags => exact allocate_samePool size simulator
    | release handle => exact release_samePool handle simulator
    | map handle =>
      exact Moves.bind (samePool_of_moves_eq (findBuffer_moves handle)) (fun _ => Moves.pure _)
        simulator
    | flush handle offset length => exact flush_samePool handle offset length simulator
    | invalidate handle offset length => exact invalidate_samePool handle offset length simulator
    | openChannel engineClass => simp [Request.besideChannels] at beside
    | closeChannel channel => simp [Request.besideChannels] at beside
    | submit submission => exact submit_samePool submission simulator
    | flushSubmissions channel => exact refl_of SamePool simulator
    | readSyncpoint index => exact samePool_of_moves_eq (readSyncpoint_moves index) simulator
    | waitSyncpoint index threshold timeout =>
      exact samePool_of_moves_eq (waitSyncpoint_moves index threshold timeout) simulator

/-- The same pool is shared out in the same way. -/
theorem Pooled.samePool {settings : SimulatorSettings} {opened : List Channel} {lost : List Word}
    {first second : Simulator} (pooled : Pooled settings opened lost first)
    (same : first.SamePool second) : Pooled settings opened lost second := by
  obtain ⟨configured, size, nextSyncpoint, returned, nextChannel, channels⟩ := same
  refine ⟨?_, ?_, ?_, ?_, ?_, ?_, ?_, ?_⟩
  · rw [configured, pooled.configured]
  · rw [size, pooled.size]
  · rw [nextSyncpoint, size]
    exact pooled.limit
  · rw [returned]
    exact pooled.ascending
  · rw [heldSyncpoints, openChannels, returned, nextSyncpoint, channels]
    exact pooled.shared
  · rw [channels, nextChannel]
    exact pooled.named
  · rw [nextChannel, pooled.counted]
  · rw [nextChannel]
    exact pooled.earlier

/-- Whatever is asked of the device, each syncpoint that is taken stays in one place. -/
theorem Pooled.respond {settings : SimulatorSettings} {opened : List Channel} {lost : List Word}
    {simulator : Simulator} (pooled : Pooled settings opened lost simulator) (request : Request) :
    ∃ opened lost, Pooled settings opened lost (simulator.respond request) := by
  by_cases beside : request.besideChannels = true
  · exact ⟨opened, lost, pooled.samePool (respond_samePool simulator request beside)⟩
  · cases request with
    | call call =>
      cases call with
      | openChannel engineClass =>
        change ∃ opened lost, Pooled settings opened lost (openChannel engineClass simulator).2
        rcases openChannel_cases engineClass simulator with
          ⟨-, cause, run⟩ | ⟨provides, -, run⟩ | ⟨provides, more, run⟩
        all_goals rw [run]
        · exact ⟨opened, lost, pooled⟩
        · exact ⟨opened, _, pooled.deprived provides⟩
        · exact ⟨_, lost, pooled.withChannel provides more engineClass⟩
      | closeChannel name =>
        change ∃ opened lost, Pooled settings opened lost (closeChannel name simulator).2
        rcases closeChannel_cases name simulator with ⟨-, run⟩ | ⟨closed, found, run⟩
        all_goals rw [run]
        · exact ⟨opened, lost, pooled⟩
        · exact ⟨opened, lost, pooled.withoutChannel found⟩
      | _ => exact absurd rfl beside
    | _ => exact absurd rfl beside

/-- So it is wherever requests take a device. -/
theorem Reaches.pooled {settings : SimulatorSettings} {simulator : Simulator}
    (reached : (initial settings).Reaches simulator) :
    ∃ opened lost, Pooled settings opened lost simulator := by
  have step : ∀ simulator request, (∃ opened lost, Pooled settings opened lost simulator) →
      ∃ opened lost, Pooled settings opened lost (simulator.respond request) := by
    rintro simulator request ⟨opened, lost, pooled⟩
    exact pooled.respond request
  exact reached.keeps step ⟨[], [], Pooled.initial settings⟩

/-- What an answer tells about the channels. -/
inductive ChannelEvent where
  /-- The channel was opened. -/
  | opened (channel : Channel)
  /-- The channel of that name was closed. -/
  | closed (name : ChannelId)
  deriving DecidableEq, Repr

/-- The channel that was opened, if one was. -/
def ChannelEvent.channel? : ChannelEvent → Option Channel
  | .opened channel => some channel
  | .closed _ => none

/-- The channels that are open after the event, in the order in which they were opened. -/
def ChannelEvent.alter (channels : List Channel) : ChannelEvent → List Channel
  | .opened channel => channels ++ [channel]
  | .closed name => channels.filter fun channel => channel.id ≠ name

/-- The channels that were opened. -/
def openedIn (events : List ChannelEvent) : List Channel :=
  events.filterMap ChannelEvent.channel?

/-- The channels that were opened and have not been closed since. -/
def stillOpen (events : List ChannelEvent) : List Channel :=
  events.foldl ChannelEvent.alter []

/-- Carries an action out and tells its success. A refusal is an answer as well, which tells
nothing; only where the action is given up there is none. -/
def telling {α : Type} (event : α → ChannelEvent) (action : Action Simulator α) :
    Action Simulator (List ChannelEvent) := fun simulator =>
  match action simulator with
  | (.ok value, after) => (.ok [event value], after)
  | (.error (.refused _), after) => (.ok [], after)
  | (.error failure, after) => (.error failure, after)

section

variable {α : Type} (event : α → ChannelEvent) {action : Action Simulator α}
  {simulator after : Simulator}

/-- A success is told. -/
theorem telling_of_ok {value : α} (made : action simulator = (.ok value, after)) :
    telling event action simulator = (.ok [event value], after) := by
  rw [telling, made]

/-- Of a refusal nothing is told. -/
theorem telling_of_refused {cause : Error}
    (refused : action simulator = (.error (.refused cause), after)) :
    telling event action simulator = (.ok [], after) := by
  rw [telling, refused]

/-- There is no answer where the action is given up. -/
theorem telling_of_aborted (gone : action simulator = (.error .aborted, after)) :
    telling event action simulator = (.error .aborted, after) := by
  rw [telling, gone]

end

/-- Answers a request, and tells whether it has opened or closed a channel. -/
def answer : Request → Action Simulator (List ChannelEvent)
  | .call (.openChannel engineClass) => telling .opened (openChannel engineClass)
  | .call (.closeChannel name) => telling (fun _ => .closed name) (closeChannel name)
  | request => fun simulator => (.ok [], simulator.respond request)

/-- A request that neither opens nor closes a channel tells nothing. -/
theorem answer_beside {request : Request} (beside : request.besideChannels = true)
    (simulator : Simulator) : answer request simulator = (.ok [], simulator.respond request) := by
  cases request with
  | call call =>
    cases call with
    | openChannel | closeChannel => exact absurd beside Bool.false_ne_true
    | _ => rfl
  | _ => rfl

/-- Answers requests, in order, and tells which channels they have opened and closed. -/
def answerAll : List Request → Action Simulator (List ChannelEvent)
  | [] => pure []
  | request :: rest => do
    let first ← answer request
    let others ← answerAll rest
    pure (first ++ others)

/-- How a device with the settings shares its syncpoints out, after its answers have told which
channels were opened and closed. -/
structure Allotted (settings : SimulatorSettings) (events : List ChannelEvent)
    (simulator : Simulator) : Prop where
  /-- The open channels are those that were opened and have not been closed since. -/
  channels : simulator.openChannels = stillOpen events
  /-- A syncpoint that was taken is either given back, or one open channel has it. -/
  divided : ∀ syncpoint : Word, syncpoint.toNat < simulator.nextSyncpoint →
    (syncpoint ∈ simulator.returned ∧
        ∀ channel ∈ stillOpen events, syncpoint ∉ channel.syncpoints) ∨
      (syncpoint ∉ simulator.returned ∧
        ∃! channel, channel ∈ stillOpen events ∧ syncpoint ∈ channel.syncpoints)
  /-- No more were taken than there are. -/
  limit : simulator.nextSyncpoint ≤ settings.syncpoints.toNat
  /-- No channel has a syncpoint twice. -/
  distinct : ∀ channel ∈ stillOpen events, channel.syncpoints.Nodup
  /-- No two channels have a syncpoint in common. -/
  disjoint : (stillOpen events).Pairwise fun first second =>
    first.syncpoints.Disjoint second.syncpoints
  /-- As long as there is a name left, one more channel is opened exactly when it fits in. -/
  opens : ∀ engineClass,
    (∃ channel after, openChannel engineClass simulator = (.ok channel, after)) ↔
      ((stillOpen events).length + 1) * settings.syncpointsPerChannel.toNat ≤
          settings.syncpoints.toNat ∧
        (openedIn events).length ≠ lastChannel.toNat
  /-- It gets the lowest syncpoints that no open channel has, in ascending order, and a name that
  no channel has had. -/
  gets : ∀ engineClass channel after,
    openChannel engineClass simulator = (.ok channel, after) →
      channel.syncpoints = simulator.freeSyncpoints.take settings.syncpointsPerChannel.toNat ∧
        channel.syncpoints.length = settings.syncpointsPerChannel.toNat ∧
        ∀ earlier ∈ openedIn events, channel.id ≠ earlier.id
  /-- An open channel can be closed, and its syncpoints are put beside those given back before. -/
  closes : ∀ channel ∈ stillOpen events, ∃ after,
    closeChannel channel.id simulator = (.ok (), after) ∧
      after.returned.Perm (simulator.returned ++ channel.syncpoints)
  /-- Any other is refused, and nothing is given back. -/
  refuses : ∀ name, (∀ channel ∈ stillOpen events, channel.id ≠ name) →
    closeChannel name simulator = (.error (.refused (notOpen "close_channel" name)), simulator)

namespace Pooled

variable {settings : SimulatorSettings} {opened : List Channel} {simulator : Simulator}

/-- Each syncpoint of an open channel is among those held. -/
theorem mem_held_iff {syncpoint : Word} :
    syncpoint ∈ simulator.heldSyncpoints ↔
      ∃ channel ∈ simulator.openChannels, syncpoint ∈ channel.syncpoints :=
  List.mem_flatMap

/-- Open channels that have a syncpoint in common are the same. -/
theorem eq_of_common (pooled : Pooled settings opened [] simulator) {first second : Channel}
    (inFirst : first ∈ simulator.openChannels) (inSecond : second ∈ simulator.openChannels)
    {syncpoint : Word} (hasFirst : syncpoint ∈ first.syncpoints)
    (hasSecond : syncpoint ∈ second.syncpoints) : first = second := by
  have apart := (List.nodup_flatMap.mp pooled.nodup_held).2
  by_contra different
  have symmetric : Std.Symm (Function.onFun List.Disjoint Channel.syncpoints) :=
    ⟨fun _ _ disjoint => disjoint.symm⟩
  exact apart.forall inFirst inSecond different hasFirst hasSecond

/-- A syncpoint that was taken is in one place. -/
theorem divided (pooled : Pooled settings opened [] simulator) {syncpoint : Word}
    (taken : syncpoint.toNat < simulator.nextSyncpoint) :
    (syncpoint ∈ simulator.returned ∧
        ∀ channel ∈ simulator.openChannels, syncpoint ∉ channel.syncpoints) ∨
      (syncpoint ∉ simulator.returned ∧
        ∃! channel, channel ∈ simulator.openChannels ∧ syncpoint ∈ channel.syncpoints) := by
  rcases (pooled.mem_iff syncpoint).mpr taken with back | held | none
  · refine Or.inl ⟨back, fun channel member has => ?_⟩
    exact pooled.not_held_of_returned back (mem_held_iff.mpr ⟨channel, member, has⟩)
  · obtain ⟨channel, member, has⟩ := mem_held_iff.mp held
    refine Or.inr ⟨fun back => pooled.not_held_of_returned back held, channel, ⟨member, has⟩, ?_⟩
    rintro other ⟨isOpen, also⟩
    exact pooled.eq_of_common isOpen member also has
  · exact absurd none List.not_mem_nil

/-- One more channel is opened exactly when it fits in and there is a name left. -/
theorem opens_iff (pooled : Pooled settings opened [] simulator) (engineClass : Word) :
    (∃ channel after, openChannel engineClass simulator = (.ok channel, after)) ↔
      (simulator.openChannels.length + 1) * settings.syncpointsPerChannel.toNat ≤
          settings.syncpoints.toNat ∧
        opened.length ≠ lastChannel.toNat := by
  have last : opened.length = lastChannel.toNat ↔ simulator.nextChannel = lastChannel := by
    rw [pooled.counted]
    exact ⟨fun same => UInt64.toNat.inj same, fun same => congrArg UInt64.toNat same⟩
  rw [← pooled.provides_iff, Ne, last]
  rcases openChannel_cases engineClass simulator with
    ⟨short, cause, run⟩ | ⟨-, reached, run⟩ | ⟨provides, more, run⟩
  · simp [run, short]
  · simp [run, reached]
  · simp [run, provides, more]

/-- It gets the lowest free syncpoints and a new name. -/
theorem gets_of_ok (pooled : Pooled settings opened [] simulator) {engineClass : Word}
    {channel : Channel} {after : Simulator}
    (run : openChannel engineClass simulator = (.ok channel, after)) :
    channel.syncpoints = simulator.freeSyncpoints.take settings.syncpointsPerChannel.toNat ∧
      channel.syncpoints.length = settings.syncpointsPerChannel.toNat ∧
      ∀ earlier ∈ opened, channel.id ≠ earlier.id := by
  rcases openChannel_cases engineClass simulator with
    ⟨-, cause, refused⟩ | ⟨-, -, refused⟩ | ⟨provides, -, made⟩
  · simp [refused] at run
  · simp [refused] at run
  · rw [made, Prod.mk.injEq, Except.ok.injEq] at run
    obtain ⟨rfl, -⟩ := run
    refine ⟨pooled.nextSyncpoints_eq provides, pooled.length_nextSyncpoints provides,
      fun earlier member same => ?_⟩
    have before := pooled.earlier earlier member
    rw [← same] at before
    exact UInt64.lt_irrefl _ before

/-- An open channel can be closed. -/
theorem closes (pooled : Pooled settings opened [] simulator) {channel : Channel}
    (member : channel ∈ simulator.openChannels) :
    ∃ after, closeChannel channel.id simulator = (.ok (), after) ∧
      after.returned.Perm (simulator.returned ++ channel.syncpoints) := by
  have held := pooled.found_of_open member
  rcases closeChannel_cases channel.id simulator with ⟨none, -⟩ | ⟨closed, found, run⟩
  · simp [held] at none
  · obtain rfl := Option.some.inj (held.symm.trans found)
    exact ⟨_, run, (pooled.returned_withoutChannel found).1⟩

/-- Any other cannot. -/
theorem refuses (pooled : Pooled settings opened [] simulator) {name : ChannelId}
    (absent : ∀ channel ∈ simulator.openChannels, channel.id ≠ name) :
    closeChannel name simulator =
      (.error (.refused (notOpen "close_channel" name)), simulator) := by
  rcases closeChannel_cases name simulator with ⟨-, run⟩ | ⟨closed, found, -⟩
  · exact run
  · have own := (pooled.named name closed found).1
    subst own
    exact absurd rfl (absent closed (pooled.mem_openChannels_iff.mpr found))

/-- A pool that has lost no syncpoint is shared out as it should be. -/
theorem allotted {events : List ChannelEvent}
    (pooled : Pooled settings (openedIn events) [] simulator)
    (channels : simulator.openChannels = stillOpen events) :
    Allotted settings events simulator where
  channels := channels
  divided _ taken := channels ▸ pooled.divided taken
  limit := pooled.size ▸ pooled.limit
  distinct := channels ▸ (List.nodup_flatMap.mp pooled.nodup_held).1
  disjoint := channels ▸ (List.nodup_flatMap.mp pooled.nodup_held).2
  opens engineClass := channels ▸ pooled.opens_iff engineClass
  gets _ _ _ run := pooled.gets_of_ok run
  closes _ member := pooled.closes (channels.symm ▸ member)
  refuses _ absent := pooled.refuses (channels.symm ▸ absent)

/-- Nothing is opened by what tells nothing. -/
theorem untold (pooled : Pooled settings opened [] simulator) :
    Pooled settings (opened ++ openedIn []) [] simulator := by
  rwa [openedIn, List.filterMap_nil, List.append_nil]

/-- A pool that has lost no syncpoint loses none with an answer, and there is an answer unless the
last name is reached. The channels that are open are those of which the answer tells. -/
theorem answer_cases (pooled : Pooled settings opened [] simulator) (request : Request) :
    (∃ events after, answer request simulator = (.ok events, after) ∧ events.length ≤ 1 ∧
      Pooled settings (opened ++ openedIn events) [] after ∧
      after.openChannels = events.foldl ChannelEvent.alter simulator.openChannels) ∨
    (∃ after, answer request simulator = (.error .aborted, after) ∧
      opened.length = lastChannel.toNat) := by
  by_cases beside : request.besideChannels = true
  · have same := respond_samePool simulator request beside
    refine Or.inl ⟨[], _, answer_beside beside simulator, Nat.zero_le 1,
      (pooled.samePool same).untold, ?_⟩
    rw [openChannels, same.channels]
    rfl
  · cases request with
    | call call =>
      cases call with
      | openChannel engineClass =>
        rcases openChannel_cases engineClass simulator with
          ⟨-, cause, run⟩ | ⟨-, last, run⟩ | ⟨provides, more, run⟩
        · exact Or.inl ⟨[], simulator, telling_of_refused _ run, Nat.zero_le 1, pooled.untold, rfl⟩
        · refine Or.inr ⟨simulator.deprived, telling_of_aborted _ run, ?_⟩
          rw [pooled.counted, last]
        · exact Or.inl ⟨_, _, telling_of_ok _ run, Nat.le_refl 1,
            pooled.withChannel provides more engineClass,
            pooled.openChannels_withChannel provides more engineClass⟩
      | closeChannel name =>
        rcases closeChannel_cases name simulator with ⟨-, run⟩ | ⟨closed, found, run⟩
        · exact Or.inl ⟨[], simulator, telling_of_refused _ run, Nat.zero_le 1, pooled.untold, rfl⟩
        · exact Or.inl ⟨_, _, telling_of_ok _ run, Nat.le_refl 1,
            (pooled.withoutChannel found).untold, pooled.openChannels_withoutChannel found⟩
      | _ => exact absurd rfl beside
    | _ => exact absurd rfl beside

/-- So it is with many. -/
theorem answerAll_cases (pooled : Pooled settings opened [] simulator) (requests : List Request) :
    (∃ events after, answerAll requests simulator = (.ok events, after) ∧
      Pooled settings (opened ++ openedIn events) [] after ∧
      after.openChannels = events.foldl ChannelEvent.alter simulator.openChannels) ∨
    (∃ after, answerAll requests simulator = (.error .aborted, after) ∧
      lastChannel.toNat < opened.length + requests.length) := by
  induction requests generalizing opened simulator with
  | nil => exact Or.inl ⟨[], simulator, rfl, pooled.untold, rfl⟩
  | cons request rest ih =>
    rcases pooled.answer_cases request with
      ⟨events, between, made, few, kept, channels⟩ | ⟨after, gone, last⟩
    · rcases ih kept with ⟨later, behind, answered, shared, others⟩ | ⟨behind, gone, many⟩
      · refine Or.inl ⟨events ++ later, behind, ?_, ?_, ?_⟩
        · rw [answerAll, Action.bind_apply_of_ok made, Action.bind_apply_of_ok answered,
            Action.pure_apply]
        · rwa [openedIn, List.filterMap_append, ← List.append_assoc]
        · rw [others, channels, List.foldl_append]
      · refine Or.inr ⟨behind, ?_, ?_⟩
        · rw [answerAll, Action.bind_apply_of_ok made, Action.bind_apply_of_error gone]
        · have opens := List.length_filterMap_le ChannelEvent.channel? events
          rw [List.length_append, openedIn] at many
          rw [List.length_cons]
          omega
    · refine Or.inr ⟨after, ?_, ?_⟩
      · rw [answerAll, Action.bind_apply_of_error gone]
      · rw [List.length_cons]
        omega

end Pooled

/-- Whatever a device was asked for, in whatever order channels were opened and closed, its
syncpoints are shared out as they should be, unless more channels were opened than there are
names. -/
theorem syncpoints_allotted (settings : SimulatorSettings) (requests : List Request) :
    match answerAll requests (initial settings) with
    | (.ok events, simulator) => Allotted settings events simulator
    | (.error failure, _) => failure = .aborted ∧ lastChannel.toNat < requests.length := by
  rcases (Pooled.initial settings).answerAll_cases requests with
    ⟨events, simulator, answered, pooled, channels⟩ | ⟨simulator, gone, many⟩
  · rw [answered]
    exact pooled.allotted channels
  · rw [gone]
    rw [List.length_nil, Nat.zero_add] at many
    exact ⟨rfl, many⟩

/-- A third channel does not fit in, and neither does a channel close twice. The next one gets the
syncpoints of the one that was closed, under a new name. -/
theorem reopened_syncpoints_allotted :
    let settings : SimulatorSettings := ⟨.immediate, 4, 2⟩
    let requests : List Request :=
      [.call (.openChannel 1), .call (.openChannel 2), .call (.openChannel 3),
        .call (.closeChannel 0), .call (.closeChannel 0), .call (.openChannel 4)]
    let events : List ChannelEvent :=
      [.opened ⟨0, 1, [0, 1]⟩, .opened ⟨1, 2, [2, 3]⟩, .closed 0, .opened ⟨2, 4, [0, 1]⟩]
    let result := answerAll requests (initial settings)
    result.1 = .ok events ∧ stillOpen events = [⟨1, 2, [2, 3]⟩, ⟨2, 4, [0, 1]⟩] ∧
      Allotted settings events result.2 := by
  intro settings requests events result
  have answered : result.1 = .ok events := by decide +kernel
  have listed : stillOpen events = [⟨1, 2, [2, 3]⟩, ⟨2, 4, [0, 1]⟩] := by decide
  -- The run is not evaluated a second time.
  clear_value requests
  have shared := syncpoints_allotted settings requests
  rw [show answerAll requests (initial settings) = (.ok events, result.2) from
    Prod.ext answered rfl] at shared
  exact ⟨answered, listed, shared⟩

end Simulator

end HostChannel

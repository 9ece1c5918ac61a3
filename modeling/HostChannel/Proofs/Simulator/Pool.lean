import HostChannel.Proofs.Action
import HostChannel.Proofs.Slots
import HostChannel.Simulator.Channels
import Mathlib.Data.List.Sort

/-!
# The pool of syncpoints

A channel takes syncpoints that were given back, and those that no channel has had. Whatever
channels are opened and closed in whatever order, the two together are the syncpoints that no open
channel has: the list of those given back, followed by all from the first that no channel has had,
is the ascending list of the free ones (`Pooled.free_eq`). So the next channel takes the first of
that list, and finds enough of them exactly when one more channel fits in. Names only grow, so the
open channels are listed in the order in which they were opened.
-/

namespace HostChannel.Simulator

/-- The open channels, in the order of their names. -/
def openChannels (simulator : Simulator) : List Channel :=
  simulator.channels.values

/-- The syncpoints of all open channels. -/
def heldSyncpoints (simulator : Simulator) : List Word :=
  simulator.openChannels.flatMap Channel.syncpoints

/-- A number of syncpoints from a first one on, in ascending order. -/
def syncpointsFrom (first count : Nat) : List Word :=
  (List.range' first count).map UInt32.ofNat

/-- The syncpoints that no open channel has, in ascending order. -/
def freeSyncpoints (simulator : Simulator) : List Word :=
  (syncpointsFrom 0 simulator.syncpoints.size).filter fun syncpoint =>
    simulator.openChannels.all fun channel => syncpoint ∉ channel.syncpoints

/-- The simulated device after the syncpoints of the next channel have been taken. -/
def deprived (simulator : Simulator) : Simulator :=
  let wanted := simulator.settings.syncpointsPerChannel.toNat
  { simulator with
    nextSyncpoint := simulator.nextSyncpoint + (wanted - simulator.returned.length)
    returned := simulator.returned.drop wanted }

/-- The next channel to the engine of a class. -/
def nextChannelTo (simulator : Simulator) (engineClass : Word) : Channel :=
  ⟨simulator.nextChannel, engineClass, simulator.nextSyncpoints⟩

/-- The simulated device after the next channel has been opened to the engine of a class. -/
def withChannel (simulator : Simulator) (engineClass : Word) : Simulator :=
  { simulator.deprived with
    nextChannel := simulator.nextChannel + 1
    channels := simulator.channels.insert simulator.nextChannel
      (simulator.nextChannelTo engineClass) }

/-- The simulated device after an open channel has been closed. -/
def withoutChannel (simulator : Simulator) (closed : Channel) (name : ChannelId) : Simulator :=
  { simulator with
    channels := simulator.channels.erase name
    returned := closed.syncpoints.foldl (fun rest syncpoint => insertReturned syncpoint rest)
      simulator.returned }

/-- There are enough syncpoints for one more channel. -/
def Provides (simulator : Simulator) : Prop :=
  simulator.settings.syncpointsPerChannel.toNat ≤
    simulator.returned.length + (simulator.syncpoints.size - simulator.nextSyncpoint)

/-- A channel is opened, or refused for want of syncpoints, or given up for want of a name. -/
theorem openChannel_cases (engineClass : Word) (simulator : Simulator) :
    (¬ simulator.Provides ∧
      ∃ cause, openChannel engineClass simulator = (.error (.refused cause), simulator)) ∨
    (simulator.Provides ∧ simulator.nextChannel = lastChannel ∧
      openChannel engineClass simulator = (.error .aborted, simulator.deprived)) ∨
    (simulator.Provides ∧ simulator.nextChannel ≠ lastChannel ∧
      openChannel engineClass simulator =
        (.ok (simulator.nextChannelTo engineClass), simulator.withChannel engineClass)) := by
  simp only [openChannel, Provides, Nat.not_le]
  split
  · rename_i short
    exact Or.inl ⟨short, _, rfl⟩
  · rename_i enough
    split
    · rename_i last
      exact Or.inr (Or.inl ⟨Nat.le_of_not_lt enough, last, rfl⟩)
    · rename_i more
      exact Or.inr (Or.inr ⟨Nat.le_of_not_lt enough, more, rfl⟩)

/-- An open channel is closed, and any other refused. -/
theorem closeChannel_cases (name : ChannelId) (simulator : Simulator) :
    (simulator.channels[name]? = none ∧
      closeChannel name simulator = (.error (.refused (notOpen "close_channel" name)), simulator)) ∨
    (∃ closed, simulator.channels[name]? = some closed ∧
      closeChannel name simulator = (.ok (), simulator.withoutChannel closed name)) := by
  simp only [closeChannel]
  cases found : simulator.channels[name]? with
  | none => exact Or.inl ⟨rfl, rfl⟩
  | some closed => exact Or.inr ⟨closed, rfl, rfl⟩

/-- Putting a syncpoint in its place adds it, if it is not there. -/
theorem mem_insertReturned {syncpoint other : Word} {returned : List Word} :
    other ∈ insertReturned syncpoint returned ↔ other = syncpoint ∨ other ∈ returned := by
  induction returned with
  | nil => simp [insertReturned]
  | cons head rest ih =>
    rw [insertReturned]
    split
    · exact List.mem_cons
    · split
      · rename_i same
        subst same
        simp
      · rw [List.mem_cons, ih, List.mem_cons]
        exact or_left_comm

/-- A syncpoint that is not there is put beside those that are. -/
theorem insertReturned_perm {syncpoint : Word} {returned : List Word}
    (absent : syncpoint ∉ returned) :
    (insertReturned syncpoint returned).Perm (syncpoint :: returned) := by
  induction returned with
  | nil => exact List.Perm.refl _
  | cons head rest ih =>
    obtain ⟨different, later⟩ := List.ne_and_not_mem_of_not_mem_cons absent
    rw [insertReturned, if_neg different]
    split
    · exact List.Perm.refl _
    · exact ((ih later).cons head).trans (List.Perm.swap syncpoint head rest)

/-- It is put in its place. -/
theorem insertReturned_ascending {syncpoint : Word} {returned : List Word}
    (ascending : returned.Pairwise (· < ·)) :
    (insertReturned syncpoint returned).Pairwise (· < ·) := by
  induction returned with
  | nil => exact List.pairwise_singleton _ _
  | cons head rest ih =>
    obtain ⟨first, later⟩ := List.pairwise_cons.mp ascending
    rw [insertReturned]
    split
    · rename_i before
      refine List.pairwise_cons.mpr ⟨fun other member => ?_, ascending⟩
      rcases List.mem_cons.mp member with rfl | behind
      · exact before
      · exact UInt32.lt_trans before (first other behind)
    · split
      · exact ascending
      · rename_i notBefore different
        have past : head < syncpoint := by
          have order := UInt32.le_iff_toNat_le.mp (UInt32.not_lt.mp notBefore)
          have apart : syncpoint.toNat ≠ head.toNat := fun same => different (UInt32.toNat.inj same)
          exact UInt32.lt_iff_toNat_lt.mpr (by omega)
        refine List.pairwise_cons.mpr ⟨fun other member => ?_, ih later⟩
        rcases mem_insertReturned.mp member with rfl | behind
        · exact past
        · exact first other behind

/-- Syncpoints that are taken back are put beside those that were given back before, each in its
place. -/
theorem foldl_insertReturned (syncpoints : List Word) {returned : List Word}
    (distinct : (returned ++ syncpoints).Nodup) (ascending : returned.Pairwise (· < ·)) :
    let back := syncpoints.foldl (fun rest syncpoint => insertReturned syncpoint rest) returned
    back.Perm (returned ++ syncpoints) ∧ back.Pairwise (· < ·) := by
  induction syncpoints generalizing returned with
  | nil =>
    rw [List.append_nil]
    exact ⟨List.Perm.refl _, ascending⟩
  | cons syncpoint rest ih =>
    have order := List.perm_middle.nodup_iff.mp distinct
    obtain ⟨absent, others⟩ := List.nodup_cons.mp order
    have placed := insertReturned_perm (fun member => absent (List.mem_append_left rest member))
    have beside : (insertReturned syncpoint returned ++ rest).Perm
        (returned ++ syncpoint :: rest) :=
      (placed.append_right rest).trans List.perm_middle.symm
    obtain ⟨perm, sorted⟩ := ih (beside.nodup_iff.mpr distinct) (insertReturned_ascending ascending)
    exact ⟨perm.trans beside, sorted⟩

/-- The syncpoints from a first one on are those whose index is in the range. -/
theorem mem_syncpointsFrom {first count : Nat} (fits : first + count ≤ UInt32.size)
    {syncpoint : Word} :
    syncpoint ∈ syncpointsFrom first count ↔
      first ≤ syncpoint.toNat ∧ syncpoint.toNat < first + count := by
  simp only [syncpointsFrom, List.mem_map, List.mem_range'_1]
  constructor
  · rintro ⟨index, within, rfl⟩
    have small : index < UInt32.size := by omega
    rw [UInt32.toNat_ofNat_of_lt' small]
    exact within
  · intro within
    exact ⟨syncpoint.toNat, within, UInt32.ofNat_toNat⟩

/-- They are in ascending order. -/
theorem syncpointsFrom_ascending {first count : Nat} (fits : first + count ≤ UInt32.size) :
    (syncpointsFrom first count).Pairwise (· < ·) := by
  rw [syncpointsFrom, List.pairwise_map]
  refine (List.pairwise_lt_range' 1).imp_of_mem fun {one other} inOne inOther less => ?_
  have small : one < UInt32.size ∧ other < UInt32.size := by
    rw [List.mem_range'_1] at inOne inOther
    omega
  rw [UInt32.lt_iff_toNat_lt, UInt32.toNat_ofNat_of_lt' small.1, UInt32.toNat_ofNat_of_lt' small.2]
  exact less

/-- They go on where the first of them end. -/
theorem syncpointsFrom_append (first one other : Nat) :
    syncpointsFrom first one ++ syncpointsFrom (first + one) other =
      syncpointsFrom first (one + other) := by
  rw [syncpointsFrom, syncpointsFrom, syncpointsFrom, ← List.map_append, List.range'_append_1]

/-- Words in ascending order are different. -/
theorem nodup_of_ascending {words : List Word} (ascending : words.Pairwise (· < ·)) :
    words.Nodup :=
  ascending.imp fun less same => UInt32.ne_of_lt less same

/-- Where the syncpoints of a device with the settings are, after it has opened the channels and
has lost syncpoints to opens that were given up. -/
structure Pooled (settings : SimulatorSettings) (opened : List Channel) (lost : List Word)
    (simulator : Simulator) : Prop where
  /-- The settings are the device's. -/
  configured : simulator.settings = settings
  /-- It has as many syncpoints as they say. -/
  size : simulator.syncpoints.size = settings.syncpoints.toNat
  /-- No channel has had a syncpoint that is not there. -/
  limit : simulator.nextSyncpoint ≤ simulator.syncpoints.size
  /-- Those given back are in ascending order. -/
  ascending : simulator.returned.Pairwise (· < ·)
  /-- Those that have been taken are given back, held or lost, each in one place. -/
  shared : (simulator.returned ++ (simulator.heldSyncpoints ++ lost)).Perm
    (syncpointsFrom 0 simulator.nextSyncpoint)
  /-- An open channel is found by its name, which is not to come, and has its number of
  syncpoints. -/
  named : ∀ (name : ChannelId) channel, simulator.channels[name]? = some channel →
    channel.id = name ∧ name < simulator.nextChannel ∧
      channel.syncpoints.length = settings.syncpointsPerChannel.toNat
  /-- Each channel took one name. -/
  counted : opened.length = simulator.nextChannel.toNat
  /-- No channel had a name that is to come. -/
  earlier : ∀ channel ∈ opened, channel.id < simulator.nextChannel

namespace Pooled

variable {settings : SimulatorSettings} {opened : List Channel} {lost : List Word}
  {simulator : Simulator}

/-- Before a channel is opened, no syncpoint has been taken. -/
theorem initial (settings : SimulatorSettings) : Pooled settings [] [] (initial settings) where
  configured := rfl
  size := Array.size_replicate
  limit := Nat.zero_le _
  ascending := List.Pairwise.nil
  shared := List.Perm.refl _
  named name channel found := by simp [Simulator.initial] at found
  counted := rfl
  earlier channel member := absurd member List.not_mem_nil

/-- The indices of syncpoints fit a word. -/
theorem fits (pooled : Pooled settings opened lost simulator) :
    simulator.syncpoints.size ≤ UInt32.size := by
  have bound := settings.syncpoints.toNat_lt
  have size := pooled.size
  have values : UInt32.size = 4294967296 := rfl
  omega

/-- No syncpoint is in two places. -/
theorem nodup (pooled : Pooled settings opened lost simulator) :
    (simulator.returned ++ (simulator.heldSyncpoints ++ lost)).Nodup := by
  have limit := pooled.limit
  have fits := pooled.fits
  have ascending := @syncpointsFrom_ascending 0 simulator.nextSyncpoint (by omega)
  exact pooled.shared.nodup_iff.mpr (nodup_of_ascending ascending)

/-- A syncpoint that has been taken is in one of the places, and no other is. -/
theorem mem_iff (pooled : Pooled settings opened lost simulator) (syncpoint : Word) :
    syncpoint ∈ simulator.returned ∨ syncpoint ∈ simulator.heldSyncpoints ∨ syncpoint ∈ lost ↔
      syncpoint.toNat < simulator.nextSyncpoint := by
  have limit := pooled.limit
  have fits := pooled.fits
  rw [← List.mem_append, ← List.mem_append, pooled.shared.mem_iff, mem_syncpointsFrom (by omega)]
  omega

/-- A syncpoint that is given back is not held. -/
theorem not_held_of_returned (pooled : Pooled settings opened lost simulator) {syncpoint : Word}
    (back : syncpoint ∈ simulator.returned) : syncpoint ∉ simulator.heldSyncpoints :=
  fun held =>
    (List.nodup_append.mp pooled.nodup).2.2 syncpoint back syncpoint
      (List.mem_append_left lost held) rfl

/-- No syncpoint is held twice. -/
theorem nodup_held (pooled : Pooled settings opened lost simulator) :
    simulator.heldSyncpoints.Nodup :=
  (List.nodup_append.mp (List.nodup_append.mp pooled.nodup).2.1).1

/-- A channel that is open is found by its name. -/
theorem found_of_open (pooled : Pooled settings opened lost simulator) {channel : Channel}
    (member : channel ∈ simulator.openChannels) :
    simulator.channels[channel.id]? = some channel := by
  rw [openChannels, Slots.values_eq] at member
  obtain ⟨⟨name, held⟩, entry, rfl⟩ := List.mem_map.mp member
  have found := Std.ExtTreeMap.mem_toList_iff_getElem?_eq_some.mp entry
  rw [(pooled.named name held found).1]
  exact found

/-- A channel is open exactly if it is found by its name. -/
theorem mem_openChannels_iff (pooled : Pooled settings opened lost simulator) {channel : Channel} :
    channel ∈ simulator.openChannels ↔ simulator.channels[channel.id]? = some channel := by
  refine ⟨pooled.found_of_open, fun found => ?_⟩
  rw [openChannels, Slots.values_eq]
  exact List.mem_map.mpr ⟨(channel.id, channel),
    Std.ExtTreeMap.mem_toList_iff_getElem?_eq_some.mpr found, rfl⟩

/-- The open channels are listed by ascending names. -/
theorem openChannels_ascending (pooled : Pooled settings opened lost simulator) :
    simulator.openChannels.Pairwise fun first second => first.id < second.id := by
  have own : ∀ entry ∈ simulator.channels.toList, entry.2.id = entry.1 := fun entry member =>
    (pooled.named entry.1 entry.2 (Std.ExtTreeMap.mem_toList_iff_getElem?_eq_some.mp member)).1
  rw [openChannels, Slots.values_eq, List.pairwise_map]
  refine Std.ExtTreeMap.ordered_keys_toList.imp_of_mem fun {first second} one other before => ?_
  rw [own first one, own second other]
  exact compareOfLessAndEq_eq_lt.mp before

/-- Ascending names list the channels that they find in one way only. -/
theorem openChannels_eq (pooled : Pooled settings opened lost simulator) {listed : List Channel}
    (ascending : listed.Pairwise fun first second => first.id < second.id)
    (found : ∀ channel, channel ∈ listed ↔ simulator.channels[channel.id]? = some channel) :
    simulator.openChannels = listed := by
  have irreflexive : Std.Irrefl fun first second : Channel => first.id < second.id :=
    ⟨fun _ => UInt64.lt_irrefl _⟩
  have antisymmetric : Std.Antisymm fun first second : Channel => first.id < second.id :=
    ⟨fun _ _ before behind => absurd behind (UInt64.lt_asymm before)⟩
  exact pooled.openChannels_ascending.eq_of_mem_iff ascending fun channel =>
    pooled.mem_openChannels_iff.trans (found channel).symm

/-- A channel has syncpoints of the device only. -/
theorem held_lt (pooled : Pooled settings opened lost simulator) {name : ChannelId}
    {channel : Channel} (found : simulator.channels[name]? = some channel) {syncpoint : Word}
    (has : syncpoint ∈ channel.syncpoints) : syncpoint.toNat < simulator.syncpoints.size := by
  have limit := pooled.limit
  have held : syncpoint ∈ simulator.heldSyncpoints := by
    rw [heldSyncpoints, List.mem_flatMap]
    refine ⟨channel, pooled.mem_openChannels_iff.mpr ?_, has⟩
    rw [(pooled.named name channel found).1]
    exact found
  have below := (pooled.mem_iff syncpoint).mp (Or.inr (Or.inl held))
  omega

/-- A syncpoint is free exactly when it is there and not held. -/
theorem mem_free_iff (pooled : Pooled settings opened lost simulator) (syncpoint : Word) :
    syncpoint ∈ simulator.freeSyncpoints ↔
      syncpoint.toNat < simulator.syncpoints.size ∧ syncpoint ∉ simulator.heldSyncpoints := by
  have fits := pooled.fits
  rw [freeSyncpoints, List.mem_filter, mem_syncpointsFrom (by omega)]
  simp only [List.all_eq_true, decide_eq_true_eq, heldSyncpoints, List.mem_flatMap, not_exists,
    not_and, Nat.zero_le, Nat.zero_add, true_and]

/-- As long as none is lost, the free syncpoints are those given back, followed by those that no
channel has had. -/
theorem free_eq (pooled : Pooled settings opened [] simulator) :
    simulator.freeSyncpoints = simulator.returned ++
      syncpointsFrom simulator.nextSyncpoint
        (simulator.syncpoints.size - simulator.nextSyncpoint) := by
  have limit := pooled.limit
  have fits := pooled.fits
  have unused : ∀ syncpoint : Word, syncpoint ∈ syncpointsFrom simulator.nextSyncpoint
      (simulator.syncpoints.size - simulator.nextSyncpoint) ↔
        simulator.nextSyncpoint ≤ syncpoint.toNat ∧
          syncpoint.toNat < simulator.syncpoints.size := by
    intro syncpoint
    rw [mem_syncpointsFrom (by omega)]
    omega
  have listed : simulator.freeSyncpoints.Pairwise (· < ·) :=
    (syncpointsFrom_ascending (by omega)).filter _
  have joined : (simulator.returned ++ syncpointsFrom simulator.nextSyncpoint
      (simulator.syncpoints.size - simulator.nextSyncpoint)).Pairwise (· < ·) := by
    refine List.pairwise_append.mpr
      ⟨pooled.ascending, syncpointsFrom_ascending (by omega), fun back given fresh new => ?_⟩
    have below := (pooled.mem_iff back).mp (Or.inl given)
    have above := ((unused fresh).mp new).1
    exact UInt32.lt_iff_toNat_lt.mpr (by omega)
  -- Two ascending lists of the same words are the same list.
  refine listed.eq_of_mem_iff joined fun syncpoint => ?_
  have divided := pooled.mem_iff syncpoint
  rw [pooled.mem_free_iff, List.mem_append, unused]
  constructor
  · rintro ⟨there, loose⟩
    by_cases had : syncpoint.toNat < simulator.nextSyncpoint
    · have back := (divided.mpr had).resolve_right fun taken =>
        taken.elim loose List.not_mem_nil
      exact Or.inl back
    · exact Or.inr ⟨Nat.le_of_not_lt had, there⟩
  · rintro (back | ⟨fresh, there⟩)
    · have below := divided.mp (Or.inl back)
      exact ⟨by omega, pooled.not_held_of_returned back⟩
    · refine ⟨there, fun held => ?_⟩
      have below := divided.mp (Or.inr (Or.inl held))
      omega

/-- The open channels hold their number of syncpoints each. -/
theorem length_held (pooled : Pooled settings opened lost simulator) :
    simulator.heldSyncpoints.length =
      simulator.openChannels.length * settings.syncpointsPerChannel.toNat := by
  have each : ∀ count ∈ simulator.openChannels.map fun channel => channel.syncpoints.length,
      count = settings.syncpointsPerChannel.toNat := by
    intro count listed
    obtain ⟨channel, member, rfl⟩ := List.mem_map.mp listed
    exact (pooled.named channel.id channel (pooled.found_of_open member)).2.2
  rw [heldSyncpoints, List.length_flatMap, List.eq_replicate_of_mem each, List.sum_replicate_nat,
    List.length_map]

/-- As long as none is lost, there are enough syncpoints for one more channel exactly when one
more fits into the number of syncpoints. -/
theorem provides_iff (pooled : Pooled settings opened [] simulator) :
    simulator.Provides ↔
      (simulator.openChannels.length + 1) * settings.syncpointsPerChannel.toNat ≤
        settings.syncpoints.toNat := by
  have parts := pooled.shared.length_eq
  have held := pooled.length_held
  have limit := pooled.limit
  have size := pooled.size
  rw [List.append_nil, List.length_append, syncpointsFrom, List.length_map,
    List.length_range'] at parts
  rw [Provides, pooled.configured, Nat.add_mul, Nat.one_mul]
  omega

/-- The next channel gets as many syncpoints as it should have. -/
theorem length_nextSyncpoints (pooled : Pooled settings opened lost simulator)
    (provides : simulator.Provides) :
    simulator.nextSyncpoints.length = settings.syncpointsPerChannel.toNat := by
  have enough := provides
  rw [Provides, pooled.configured] at enough
  rw [nextSyncpoints, pooled.configured, List.length_append, List.length_take, List.length_map,
    List.length_range']
  omega

/-- As long as none is lost, it gets the first of the free syncpoints. -/
theorem nextSyncpoints_eq (pooled : Pooled settings opened [] simulator)
    (provides : simulator.Provides) :
    simulator.nextSyncpoints =
      simulator.freeSyncpoints.take settings.syncpointsPerChannel.toNat := by
  rw [Provides, pooled.configured] at provides
  have enough : settings.syncpointsPerChannel.toNat - simulator.returned.length ≤
      simulator.syncpoints.size - simulator.nextSyncpoint := by omega
  have split := syncpointsFrom_append simulator.nextSyncpoint
    (settings.syncpointsPerChannel.toNat - simulator.returned.length)
    (simulator.syncpoints.size - simulator.nextSyncpoint -
      (settings.syncpointsPerChannel.toNat - simulator.returned.length))
  rw [Nat.add_sub_cancel' enough] at split
  rw [pooled.free_eq, nextSyncpoints, pooled.configured, List.take_append, ← split,
    List.take_left' (by rw [syncpointsFrom, List.length_map, List.length_range'])]
  rfl

/-- The syncpoints of the next channel are taken out of those given back and those that no
channel has had. -/
theorem deprived (pooled : Pooled settings opened lost simulator)
    (provides : simulator.Provides) :
    Pooled settings opened (simulator.nextSyncpoints ++ lost) simulator.deprived := by
  have limit := pooled.limit
  rw [Provides, pooled.configured] at provides
  refine ⟨pooled.configured, pooled.size, ?_, pooled.ascending.sublist (List.drop_sublist _ _), ?_,
    pooled.named, pooled.counted, pooled.earlier⟩
  · simp only [Simulator.deprived, pooled.configured]
    omega
  · have parts := List.take_append_drop settings.syncpointsPerChannel.toNat simulator.returned
    have fresh := syncpointsFrom_append 0 simulator.nextSyncpoint
      (settings.syncpointsPerChannel.toNat - simulator.returned.length)
    rw [Nat.zero_add] at fresh
    simp only [Simulator.deprived, pooled.configured, ← fresh]
    refine List.Perm.trans ?_ (pooled.shared.append_right _)
    rw [List.perm_iff_count]
    intro syncpoint
    have split := congrArg (List.count syncpoint) parts
    simp only [nextSyncpoints, pooled.configured, List.count_append, syncpointsFrom,
      heldSyncpoints, openChannels] at split ⊢
    omega

/-- The next channel holds its syncpoints beside the open channels. -/
theorem held_withChannel (pooled : Pooled settings opened lost simulator) (engineClass : Word) :
    (simulator.withChannel engineClass).heldSyncpoints.Perm
      (simulator.nextSyncpoints ++ simulator.heldSyncpoints) := by
  have absent : simulator.channels[simulator.nextChannel]? = none := by
    cases found : simulator.channels[simulator.nextChannel]? with
    | none => rfl
    | some channel => exact absurd (pooled.named _ channel found).2.1 (UInt64.lt_irrefl _)
  have beside := Slots.values_insert_perm simulator.channels simulator.nextChannel
    (simulator.nextChannelTo engineClass)
  rw [Slots.erase_of_none absent] at beside
  exact beside.flatMap_right Channel.syncpoints

/-- An open channel holds its syncpoints beside the others. -/
theorem held_withoutChannel {name : ChannelId} {closed : Channel}
    (found : simulator.channels[name]? = some closed) :
    simulator.heldSyncpoints.Perm
      (closed.syncpoints ++ (simulator.withoutChannel closed name).heldSyncpoints) := by
  have beside := Slots.values_insert_perm simulator.channels name closed
  rw [Slots.insert_self found] at beside
  exact beside.flatMap_right Channel.syncpoints

/-- There is a next name unless the last one is reached. -/
theorem toNat_nextName {name : ChannelId} (more : name ≠ lastChannel) :
    (name + 1).toNat = name.toNat + 1 := by
  have bound := name.toNat_lt
  have last : lastChannel.toNat = 18446744073709551615 := rfl
  have apart : name.toNat ≠ lastChannel.toNat := fun same => more (UInt64.toNat.inj same)
  rw [UInt64.toNat_add, UInt64.toNat_one]
  omega

/-- The syncpoints of a channel that is opened are held instead of lost. -/
theorem withChannel (pooled : Pooled settings opened lost simulator)
    (provides : simulator.Provides) (more : simulator.nextChannel ≠ lastChannel)
    (engineClass : Word) :
    Pooled settings (opened ++ [simulator.nextChannelTo engineClass]) lost
      (simulator.withChannel engineClass) := by
  have next := toNat_nextName more
  have later : ∀ name : ChannelId, name < simulator.nextChannel →
      name < simulator.nextChannel + 1 := by
    intro name before
    rw [UInt64.lt_iff_toNat_lt] at before ⊢
    omega
  have new : simulator.nextChannel < simulator.nextChannel + 1 := by
    rw [UInt64.lt_iff_toNat_lt]
    omega
  have taken := pooled.deprived provides
  refine ⟨taken.configured, taken.size, taken.limit, taken.ascending, ?_,
    fun name channel found => ?_, ?_, fun channel member => ?_⟩
  · refine (List.Perm.append_left _ ?_).trans taken.shared
    refine ((pooled.held_withChannel engineClass).append_right lost).trans ?_
    rw [List.append_assoc]
    exact List.perm_append_comm_assoc _ _ _
  · rcases Slots.of_getElem?_insert found with ⟨rfl, rfl⟩ | before
    · exact ⟨rfl, new, pooled.length_nextSyncpoints provides⟩
    · obtain ⟨own, earlier, length⟩ := pooled.named name channel before
      exact ⟨own, later name earlier, length⟩
  · rw [List.length_append, List.length_singleton, pooled.counted]
    exact next.symm
  · rcases List.mem_append.mp member with earlier | last
    · exact later _ (pooled.earlier channel earlier)
    · rw [List.mem_singleton.mp last]
      exact new

/-- A channel that is opened is listed behind the others. -/
theorem openChannels_withChannel (pooled : Pooled settings opened lost simulator)
    (provides : simulator.Provides) (more : simulator.nextChannel ≠ lastChannel)
    (engineClass : Word) :
    (simulator.withChannel engineClass).openChannels =
      simulator.openChannels ++ [simulator.nextChannelTo engineClass] := by
  have before : ∀ channel ∈ simulator.openChannels, channel.id < simulator.nextChannel :=
    fun channel member => (pooled.named channel.id channel (pooled.found_of_open member)).2.1
  refine (pooled.withChannel provides more engineClass).openChannels_eq ?_ fun channel => ?_
  · refine List.pairwise_append.mpr
      ⟨pooled.openChannels_ascending, List.pairwise_singleton _ _,
        fun first member second last => ?_⟩
    rw [List.mem_singleton.mp last]
    exact before first member
  · rw [List.mem_append, List.mem_singleton]
    simp only [Simulator.withChannel, Std.ExtTreeMap.getElem?_insert,
      Std.LawfulEqCmp.compare_eq_iff_eq]
    by_cases last : simulator.nextChannel = channel.id
    · rw [if_pos last, Option.some.injEq, eq_comm, or_iff_right]
      intro member
      exact UInt64.lt_irrefl _ (last ▸ before channel member)
    · rw [if_neg last, pooled.mem_openChannels_iff, or_iff_left]
      rintro rfl
      exact last rfl

/-- The syncpoints of a channel that is closed are put beside those given back, each in its
place. -/
theorem returned_withoutChannel (pooled : Pooled settings opened lost simulator)
    {name : ChannelId} {closed : Channel} (found : simulator.channels[name]? = some closed) :
    let back := (simulator.withoutChannel closed name).returned
    back.Perm (simulator.returned ++ closed.syncpoints) ∧ back.Pairwise (· < ·) := by
  have order : (simulator.returned ++ (simulator.heldSyncpoints ++ lost)).Perm
      ((simulator.returned ++ closed.syncpoints) ++
        ((simulator.withoutChannel closed name).heldSyncpoints ++ lost)) := by
    rw [List.append_assoc, ← List.append_assoc closed.syncpoints]
    exact ((held_withoutChannel found).append_right lost).append_left _
  have distinct := (List.nodup_append.mp (order.nodup_iff.mp pooled.nodup)).1
  exact foldl_insertReturned closed.syncpoints distinct pooled.ascending

/-- A channel that is closed has its syncpoints no longer. -/
theorem withoutChannel (pooled : Pooled settings opened lost simulator) {name : ChannelId}
    {closed : Channel} (found : simulator.channels[name]? = some closed) :
    Pooled settings opened lost (simulator.withoutChannel closed name) := by
  obtain ⟨back, sorted⟩ := pooled.returned_withoutChannel found
  refine ⟨pooled.configured, pooled.size, pooled.limit, sorted, ?_, fun other channel there => ?_,
    pooled.counted, pooled.earlier⟩
  · refine List.Perm.trans ?_ pooled.shared
    refine (back.append_right _).trans ?_
    rw [List.append_assoc, ← List.append_assoc closed.syncpoints]
    exact ((held_withoutChannel found).symm.append_right lost).append_left _
  · exact pooled.named other channel (Slots.of_getElem?_erase there).2

/-- The others are listed as before. -/
theorem openChannels_withoutChannel (pooled : Pooled settings opened lost simulator)
    {name : ChannelId} {closed : Channel} (found : simulator.channels[name]? = some closed) :
    (simulator.withoutChannel closed name).openChannels =
      simulator.openChannels.filter fun channel => channel.id ≠ name := by
  refine (pooled.withoutChannel found).openChannels_eq
    (pooled.openChannels_ascending.filter _) fun channel => ?_
  rw [List.mem_filter, pooled.mem_openChannels_iff, decide_eq_true_iff]
  simp only [Simulator.withoutChannel, Std.ExtTreeMap.getElem?_erase,
    Std.LawfulEqCmp.compare_eq_iff_eq]
  by_cases same : name = channel.id
  · rw [if_pos same]
    simp [same]
  · rw [if_neg same]
    simp [Ne.symm same]

end Pooled

end HostChannel.Simulator

import HostChannel.Proofs.Action
import HostChannel.Proofs.Simulator.Buffers
import HostChannel.Simulator.Execution

/-!
# Acceptance of submissions

`Simulator.Accepts` says which submissions the simulated device accepts. What it makes of one
that it accepts is an equation, `submit_of_accepts`; any other is refused and changes nothing
(`submit_of_not_accepts`). So no step of a submission fails once it has been checked.
-/

namespace HostChannel.Simulator

open HostChannel.Action (Moves)

/-- A live buffer of the handle has the bytes of a range. -/
def Holds (simulator : Simulator) (handle : Handle) (offset length : Nat) : Prop :=
  ∃ buffer, simulator.live? handle = some buffer ∧ offset + length ≤ buffer.size.toNat

/-- A submission that names a syncpoint of the device, an open channel, and ranges, patched
words and targets within live buffers. -/
structure Accepts (simulator : Simulator) (submission : Submission) : Prop where
  /-- There is a syncpoint of the index. -/
  syncpoint : submission.syncpoint.toNat < simulator.syncpoints.size
  /-- The channel is open. -/
  channel : simulator.channels.contains submission.channel = true
  /-- Every range lies in a live buffer. -/
  ranges : ∀ range ∈ submission.ranges,
    simulator.Holds range.handle range.offset.toNat (range.words.toNat * 4)
  /-- Every patch replaces a word of a live buffer by an address in a live buffer. -/
  patches : ∀ patch ∈ submission.patches,
    simulator.Holds patch.source patch.sourceOffset.toNat 4 ∧
      simulator.Holds patch.target patch.targetOffset.toNat 0

/-- The simulated device with the word of a patch replaced. -/
def patched (simulator : Simulator) (patch : Patch) : Simulator :=
  simulator.writeBuffer patch.source patch.sourceOffset.toNat
    (Word.bytes (patchedWord ((simulator.address? patch.target).getD 0) patch))

/-- The simulated device with the words of a submission replaced, its increments reserved and
its acceptance counted, before any of it is executed. -/
def taken (simulator : Simulator) (submission : Submission) : Simulator :=
  ((submission.patches.foldl patched simulator).changeSyncpoint submission.syncpoint
    fun syncpoint => syncpoint.reserve submission.increments).count fun statistics =>
      { statistics with
        submissions := statistics.submissions + 1
        relocations := statistics.relocations + submission.patches.length }

/-- Finding a buffer keeps the state. -/
theorem findBuffer_moves (handle : Handle) : Moves (· = ·) (findBuffer handle) := by
  intro simulator
  simp only [findBuffer]
  split <;> rfl

/-- A buffer is found exactly when it is live. -/
theorem findBuffer_eq_ok_iff {handle : Handle} {simulator after : Simulator}
    {buffer : SimulatedBuffer} :
    findBuffer handle simulator = (.ok buffer, after) ↔
      simulator.live? handle = some buffer ∧ simulator = after := by
  simp only [findBuffer]
  split <;> simp_all

/-- Finding a range keeps the state. -/
theorem findRange_moves (handle : Handle) (offset length : UInt64) :
    Moves (· = ·) (findRange handle offset length) :=
  Moves.bind (findBuffer_moves handle) fun _ => Moves.check _

/-- A range is found exactly when a live buffer has it. -/
theorem findRange_eq_ok_iff {handle : Handle} {offset length : UInt64} {simulator : Simulator} :
    findRange handle offset length simulator = (.ok (), simulator) ↔
      simulator.Holds handle offset.toNat length.toNat := by
  simp only [findRange, Action.bind_eq_ok_iff, findBuffer_eq_ok_iff, Action.check_eq_ok_iff,
    checkRange_eq_ok_iff, Holds]
  constructor
  · rintro ⟨buffer, _, ⟨live, rfl⟩, fits, -⟩
    exact ⟨buffer, live, fits⟩
  · rintro ⟨buffer, live, fits⟩
    exact ⟨buffer, simulator, ⟨live, rfl⟩, fits, rfl⟩

/-- Checking a range keeps the state. -/
theorem checkCommandRange_moves (range : CommandRange) : Moves (· = ·) (checkCommandRange range) :=
  findRange_moves _ _ _

/-- The length of a range in bytes does not wrap around. -/
theorem toNat_rangeLength (words : Word) : (words.toUInt64 * 4).toNat = words.toNat * 4 := by
  have bound := words.toNat_lt
  simp only [UInt64.toNat_mul, UInt32.toNat_toUInt64, UInt64.reduceToNat]
  omega

/-- A range is accepted exactly when a live buffer has its words. -/
theorem checkCommandRange_eq_ok_iff {range : CommandRange} {simulator : Simulator} :
    checkCommandRange range simulator = (.ok (), simulator) ↔
      simulator.Holds range.handle range.offset.toNat (range.words.toNat * 4) := by
  rw [checkCommandRange, findRange_eq_ok_iff, toNat_rangeLength, UInt32.toNat_toUInt64]

/-- Checking a patch keeps the state. -/
theorem checkPatch_moves (patch : Patch) : Moves (· = ·) (checkPatch patch) :=
  Moves.bind (findRange_moves _ _ _) fun _ => findRange_moves _ _ _

/-- A patch is accepted exactly when live buffers have its word and its target. -/
theorem checkPatch_eq_ok_iff {patch : Patch} {simulator : Simulator} :
    checkPatch patch simulator = (.ok (), simulator) ↔
      simulator.Holds patch.source patch.sourceOffset.toNat 4 ∧
        simulator.Holds patch.target patch.targetOffset.toNat 0 := by
  have source := @findRange_eq_ok_iff patch.source patch.sourceOffset.toUInt64 4 simulator
  have target := @findRange_eq_ok_iff patch.target patch.targetOffset.toUInt64 0 simulator
  simp only [UInt32.toNat_toUInt64, UInt64.reduceToNat] at source target
  rw [checkPatch, Action.bind_eq_ok_iff, ← source, ← target]
  constructor
  · rintro ⟨_, between, first, second⟩
    have same : between = simulator := by
      have stayed := findRange_moves patch.source patch.sourceOffset.toUInt64 4 simulator
      rw [first] at stayed
      exact stayed.symm
    subst same
    exact ⟨first, second⟩
  · rintro ⟨first, second⟩
    exact ⟨(), simulator, first, second⟩

/-- Checking a channel keeps the state. -/
theorem checkChannel_moves (channel : ChannelId) : Moves (· = ·) (checkChannel channel) := by
  intro simulator
  simp only [checkChannel]
  split <;> rfl

/-- Checking a syncpoint keeps the state. -/
theorem checkSyncpoint_moves (index : Word) : Moves (· = ·) (checkSyncpoint index) := by
  intro simulator
  simp only [checkSyncpoint]
  split <;> rfl

/-- A syncpoint that is there passes the check. -/
theorem checkSyncpoint_of_lt {simulator : Simulator} {index : Word}
    (there : index.toNat < simulator.syncpoints.size) :
    checkSyncpoint index simulator = (.ok (), simulator) := by
  rw [checkSyncpoint, if_pos there]

/-- So does a channel that is open. -/
theorem checkChannel_of_open {simulator : Simulator} {channel : ChannelId}
    (opened : simulator.channels.contains channel = true) :
    checkChannel channel simulator = (.ok (), simulator) := by
  rw [checkChannel, if_pos opened]

/-- Checking a submission keeps the state. -/
theorem validate_moves (submission : Submission) : Moves (· = ·) (validate submission) :=
  Moves.bind (checkSyncpoint_moves _) fun _ =>
    Moves.bind (checkChannel_moves _) fun _ =>
      Moves.bind (Moves.forM checkCommandRange_moves _) fun _ =>
        Moves.forM checkPatch_moves _

/-- A submission passes its check exactly when the device accepts it. -/
theorem validate_eq_ok_iff {submission : Submission} {simulator after : Simulator} :
    validate submission simulator = (.ok (), after) ↔
      simulator.Accepts submission ∧ simulator = after := by
  constructor
  · intro passed
    have same : simulator = after := by
      have stayed := validate_moves submission simulator
      rwa [passed] at stayed
    subst same
    simp only [validate, Action.bind_eq_ok_iff] at passed
    obtain ⟨_, first, synced, _, second, opened, _, third, ranged, patchable⟩ := passed
    obtain ⟨index, rfl⟩ : submission.syncpoint.toNat < simulator.syncpoints.size ∧
        simulator = first := by
      simp only [checkSyncpoint] at synced
      split at synced <;> simp_all
    obtain ⟨channel, rfl⟩ : simulator.channels.contains submission.channel = true ∧
        simulator = second := by
      simp only [checkChannel] at opened
      split at opened <;> simp_all
    obtain rfl : simulator = third := by
      have stayed := Moves.forM checkCommandRange_moves submission.ranges simulator
      rwa [ranged] at stayed
    refine ⟨⟨index, channel, ?_, ?_⟩, rfl⟩
    · intro range member
      exact checkCommandRange_eq_ok_iff.mp
        ((Action.forM_eq_ok_iff checkCommandRange_moves _ _).mp ranged range member)
    · intro patch member
      exact checkPatch_eq_ok_iff.mp
        ((Action.forM_eq_ok_iff checkPatch_moves _ _).mp patchable patch member)
  · rintro ⟨accepts, rfl⟩
    simp only [validate, Action.bind_eq_ok_iff]
    refine ⟨(), simulator, by simp [checkSyncpoint, accepts.syncpoint], (), simulator,
      by simp [checkChannel, accepts.channel], (), simulator, ?_, ?_⟩
    · exact (Action.forM_eq_ok_iff checkCommandRange_moves _ _).mpr fun range member =>
        checkCommandRange_eq_ok_iff.mpr (accepts.ranges range member)
    · exact (Action.forM_eq_ok_iff checkPatch_moves _ _).mpr fun patch member =>
        checkPatch_eq_ok_iff.mpr (accepts.patches patch member)

/-- Replacing a word leaves the same buffers live, at their addresses and of their sizes. -/
theorem holds_patched {simulator : Simulator} (patch : Patch) {handle : Handle}
    {offset length : Nat} :
    (simulator.patched patch).Holds handle offset length ↔ simulator.Holds handle offset length := by
  simp only [Holds, patched, live?_writeBuffer]
  cases simulator.live? handle with
  | none => simp
  | some buffer => by_cases same : handle = patch.source <;> simp [same]

/-- A patch between live buffers is applied. -/
theorem applyPatch_of_holds {simulator : Simulator} {patch : Patch}
    (source : simulator.Holds patch.source patch.sourceOffset.toNat 4)
    (target : simulator.Holds patch.target patch.targetOffset.toNat 0) :
    applyPatch patch simulator = (.ok (), simulator.patched patch) := by
  obtain ⟨first, found, -⟩ := source
  obtain ⟨second, aimed, -⟩ := target
  have address : simulator.address? patch.target = some second.address := by
    simp [address?, aimed]
  rw [applyPatch, Action.bind_apply_of_ok (findBuffer_eq_ok_iff.mpr ⟨found, rfl⟩),
    Action.bind_apply_of_ok (findBuffer_eq_ok_iff.mpr ⟨aimed, rfl⟩), Action.update_apply, patched,
    address]
  rfl

/-- Patches between live buffers are all applied, in order. -/
theorem applyPatches_of_holds {simulator : Simulator} {patches : List Patch}
    (accepted : ∀ patch ∈ patches, simulator.Holds patch.source patch.sourceOffset.toNat 4 ∧
      simulator.Holds patch.target patch.targetOffset.toNat 0) :
    patches.forM applyPatch simulator = (.ok (), patches.foldl patched simulator) := by
  induction patches generalizing simulator with
  | nil => rfl
  | cons patch rest ih =>
    obtain ⟨⟨source, target⟩, later⟩ := List.forall_mem_cons.mp accepted
    change (applyPatch patch >>= fun _ => rest.forM applyPatch) simulator = _
    rw [Action.bind_apply_of_ok (applyPatch_of_holds source target), List.foldl_cons]
    apply ih
    intro other member
    exact ⟨(holds_patched patch).mpr (later other member).1,
      (holds_patched patch).mpr (later other member).2⟩

/-- Replacing words keeps all but the contents of buffers. -/
theorem foldl_patched (patches : List Patch) (simulator : Simulator) :
    patches.foldl patched simulator =
      { simulator with buffers := (patches.foldl patched simulator).buffers } := by
  induction patches generalizing simulator with
  | nil => rfl
  | cons patch rest ih =>
    rw [List.foldl_cons, ih]
    rfl

/-- Taking a submission reserves its increments. -/
@[simp] theorem syncpoints_taken (simulator : Simulator) (submission : Submission) :
    (simulator.taken submission).syncpoints =
      simulator.syncpoints.modify submission.syncpoint.toNat fun syncpoint =>
        syncpoint.reserve submission.increments := by
  rw [taken, foldl_patched]
  rfl

/-- Taking a submission puts nothing in the queue yet. -/
@[simp] theorem pending_taken (simulator : Simulator) (submission : Submission) :
    (simulator.taken submission).pending = simulator.pending := by
  rw [taken, foldl_patched]
  rfl

/-- Taking a submission keeps the settings. -/
@[simp] theorem settings_taken (simulator : Simulator) (submission : Submission) :
    (simulator.taken submission).settings = simulator.settings := by
  rw [taken, foldl_patched]
  rfl

/-- What the device makes of a submission that it accepts. -/
theorem submit_of_accepts {simulator : Simulator} {submission : Submission}
    (accepts : simulator.Accepts submission) :
    ∃ syncpoint, simulator.syncpoints[submission.syncpoint.toNat]? = some syncpoint ∧
      submit submission simulator =
        (.ok (syncpoint.reserve submission.increments).reserved,
          (simulator.taken submission).dispatch submission) := by
  have index := accepts.syncpoint
  refine ⟨simulator.syncpoints[submission.syncpoint.toNat],
    Array.getElem?_eq_getElem index, ?_⟩
  have found : findSyncpoint submission.syncpoint (submission.patches.foldl patched simulator) =
      (.ok simulator.syncpoints[submission.syncpoint.toNat],
        submission.patches.foldl patched simulator) := by
    rw [foldl_patched]
    simp only [findSyncpoint, Array.getElem?_eq_getElem index]
  rw [submit, Action.bind_apply_of_ok (validate_eq_ok_iff.mpr ⟨accepts, rfl⟩),
    Action.bind_apply_of_ok (applyPatches_of_holds accepts.patches)]
  simp only [Action.bind_apply, reserve, found, Action.update_apply, Action.pure_apply, taken]

/-- A submission that the device does not accept is refused and changes nothing. -/
theorem submit_of_not_accepts {simulator : Simulator} {submission : Submission}
    (refused : ¬ simulator.Accepts submission) :
    ∃ failure, submit submission simulator = (.error failure, simulator) := by
  cases checked : validate submission simulator with
  | mk outcome after =>
    have same : simulator = after := by
      have stayed := validate_moves submission simulator
      rwa [checked] at stayed
    subst same
    cases outcome with
    | ok value => exact absurd (validate_eq_ok_iff.mp checked).1 refused
    | error failure => exact ⟨failure, by rw [submit, Action.bind_apply_of_error checked]⟩

/-- A submission that has an answer was accepted, and the answer is its reserved value. -/
theorem submit_eq_ok_iff {simulator after : Simulator} {submission : Submission} {fence : Word} :
    submit submission simulator = (.ok fence, after) ↔
      simulator.Accepts submission ∧
        (∃ syncpoint, simulator.syncpoints[submission.syncpoint.toNat]? = some syncpoint ∧
          fence = (syncpoint.reserve submission.increments).reserved) ∧
        after = (simulator.taken submission).dispatch submission := by
  by_cases accepts : simulator.Accepts submission
  · obtain ⟨syncpoint, found, run⟩ := submit_of_accepts accepts
    simp [run, accepts, found, eq_comm]
  · obtain ⟨failure, run⟩ := submit_of_not_accepts accepts
    simp [run, accepts]

/-- Two devices that differ only in what they have counted. -/
def OnlyCounted (first second : Simulator) : Prop :=
  second = { first with statistics := second.statistics }

instance : IsPreorder Simulator OnlyCounted where
  refl _ := rfl
  trans first second third := by
    intro earlier later
    rw [OnlyCounted] at earlier later ⊢
    rw [later, earlier]

/-- Counting what is done loses no buffer. -/
theorem OnlyCounted.holds_iff {first second : Simulator} (counted : first.OnlyCounted second)
    {handle : Handle} {offset length : Nat} :
    second.Holds handle offset length ↔ first.Holds handle offset length := by
  rw [counted]
  exact Iff.rfl

/-- Making words visible only counts. -/
theorem flush_onlyCounted (handle : Handle) (offset length : UInt64) :
    Moves OnlyCounted (flush handle offset length) := by
  refine Moves.bind (fun simulator => ?_) fun _ => Moves.update fun _ => rfl
  rw [← findRange_moves handle offset length simulator]
  exact refl_of OnlyCounted simulator

/-- So does making the device's writes visible. -/
theorem invalidate_onlyCounted (handle : Handle) (offset length : UInt64) :
    Moves OnlyCounted (invalidate handle offset length) := by
  refine Moves.bind (fun simulator => ?_) fun _ => Moves.update fun _ => rfl
  rw [← findRange_moves handle offset length simulator]
  exact refl_of OnlyCounted simulator

end HostChannel.Simulator

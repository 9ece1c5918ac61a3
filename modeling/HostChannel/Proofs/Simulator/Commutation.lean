import HostChannel.Proofs.Simulator.Bounds
import HostChannel.Proofs.Simulator.Patching
import HostChannel.Proofs.Syncpoint.Level
import Mathlib.Data.List.Perm.Basic

/-!
# Independent submissions

Two submissions on syncpoints of their own may be executed in either order when neither patches
what the other one reads or patches, and neither counts on the syncpoint of the other. All that the
second one does then reads the same before the first one as behind it: its check, its fence, the
words of its streams. What both change, they change in the same way in either order: bytes that are
apart are written, common syncpoints are incremented, and statistics are added up
(`independent_submissions_commute`).
-/

namespace HostChannel

/-- The byte is one of those of the range. -/
def CommandRange.Covers (range : CommandRange) (handle : Handle) (position : Nat) : Prop :=
  range.handle = handle ∧ range.offset.toNat ≤ position ∧
    position < range.offset.toNat + 4 * range.words.toNat

/-- The statistics after a submission that replaces a number of words is executed with a number of
increments missing. -/
def Statistics.worked (statistics : Statistics) (relocated missing : Nat) : Statistics :=
  { statistics with
    submissions := statistics.submissions + 1
    executed := statistics.executed + 1
    relocations := statistics.relocations + relocated
    toppedUp := statistics.toppedUp + missing }

namespace Simulator

/-- Two buffers are changed in either order, and so is one, if the changes do not care. -/
theorem changeBuffer_comm (simulator : Simulator) {first second : Handle}
    {change other : SimulatedBuffer → SimulatedBuffer}
    (either : first = second → ∀ buffer, other (change buffer) = change (other buffer)) :
    (simulator.changeBuffer first change).changeBuffer second other =
      (simulator.changeBuffer second other).changeBuffer first change := by
  have same : ((simulator.changeBuffer first change).changeBuffer second other).buffers =
      ((simulator.changeBuffer second other).changeBuffer first change).buffers := by
    apply Std.ExtTreeMap.ext_getElem?
    intro handle
    simp only [buffers_changeBuffer, Option.map_map]
    congr 1
    funext buffer
    simp only [Function.comp_apply]
    by_cases former : handle = first
    · by_cases latter : handle = second
      · simp only [if_pos former, if_pos latter, either (former.symm.trans latter)]
      · simp only [if_neg latter]
    · simp only [if_neg former]
  exact congrArg (fun buffers => { simulator with buffers }) same

/-- Patches that are apart are applied in either order. -/
theorem patched_comm (simulator : Simulator) {first second : Patch}
    (apart : first.Apart second) :
    (simulator.patched first).patched second = (simulator.patched second).patched first := by
  simp only [patched, address?_writeBuffer]
  apply changeBuffer_comm
  intro same buffer
  rw [Memory.write_comm]
  rw [Word.length_bytes, Word.length_bytes]
  exact apart same

/-- A patch that is apart from others is applied before or after them. -/
theorem foldl_patched_patched {patches : List Patch} (simulator : Simulator) {patch : Patch}
    (apart : ∀ other ∈ patches, patch.Apart other) :
    patches.foldl patched (simulator.patched patch) =
      (patches.foldl patched simulator).patched patch := by
  induction patches generalizing simulator with
  | nil => rfl
  | cons head rest ih =>
    obtain ⟨first, later⟩ := List.forall_mem_cons.mp apart
    rw [List.foldl_cons, List.foldl_cons, patched_comm simulator first, ih _ later]

/-- Patches of which the ones are apart from the others are applied in either order. -/
theorem foldl_patched_comm {first second : List Patch} (simulator : Simulator)
    (apart : ∀ patch ∈ first, ∀ other ∈ second, patch.Apart other) :
    second.foldl patched (first.foldl patched simulator) =
      first.foldl patched (second.foldl patched simulator) := by
  induction first generalizing simulator with
  | nil => rfl
  | cons patch rest ih =>
    obtain ⟨here, later⟩ := List.forall_mem_cons.mp apart
    rw [List.foldl_cons, List.foldl_cons, ih _ later, foldl_patched_patched simulator here]

/-- A range is read as before if a patch touches none of its bytes. -/
theorem rangeWords_patched (simulator : Simulator) {patch : Patch} {range : CommandRange}
    (away : ∀ handle position, patch.Touches handle position → ¬ range.Covers handle position) :
    (simulator.patched patch).rangeWords range = simulator.rangeWords range := by
  simp only [rangeWords, patched, live?_writeBuffer]
  cases simulator.live? range.handle with
  | none => rfl
  | some buffer =>
    by_cases same : range.handle = patch.source
    · simp only [Option.map_some, if_pos same]
      apply Memory.readWords_congr
      intro place behind before
      apply Memory.byte_write_of_outside
      rw [Word.length_bytes]
      by_contra inside
      exact away patch.source place ⟨rfl, by omega, by omega⟩ ⟨same, behind, before⟩
    · simp only [Option.map_some, if_neg same]

/-- The streams of a submission are the same if patches touch no byte of their ranges. -/
theorem performed_foldl_patched {patches : List Patch} (simulator : Simulator)
    {submission : Submission}
    (away : ∀ patch ∈ patches, ∀ range ∈ submission.ranges, ∀ handle position,
      patch.Touches handle position → ¬ range.Covers handle position) :
    (patches.foldl patched simulator).performed submission = simulator.performed submission := by
  induction patches generalizing simulator with
  | nil => rfl
  | cons patch rest ih =>
    obtain ⟨here, later⟩ := List.forall_mem_cons.mp away
    rw [List.foldl_cons, ih _ later, performed, performed]
    congr 1
    apply List.flatMap_congr
    intro range member
    rw [rangeWords_patched simulator (here range member)]

/-- What patches make of buffers depends on the buffers only. -/
theorem buffers_foldl_patched_congr {first second : Simulator}
    (same : first.buffers = second.buffers) (patches : List Patch) :
    (patches.foldl patched first).buffers = (patches.foldl patched second).buffers := by
  induction patches generalizing first second with
  | nil => exact same
  | cons patch rest ih =>
    apply ih
    simp only [patched, writeBuffer, changeBuffer, address?, live?, same]

/-- The device after it has taken and executed a submission. -/
def completed (simulator : Simulator) (submission : Submission) : Simulator :=
  (simulator.taken submission).execute submission

/-- All that a submission changes by its patches, its reservation and its execution. -/
theorem completed_eq (simulator : Simulator) (submission : Submission) :
    simulator.completed submission =
      { simulator with
        buffers := (submission.patches.foldl patched simulator).buffers
        syncpoints := ((simulator.taken submission).incrementsMade submission).foldl incrementAt
          (simulator.syncpoints.modify submission.syncpoint.toNat fun syncpoint =>
            syncpoint.reserve submission.increments)
        statistics := simulator.statistics.worked submission.patches.length
          (missing submission ((simulator.taken submission).performed submission)) } := by
  rw [completed, execute_eq, syncpoints_taken]
  simp only [taken]
  rw [foldl_patched]
  rfl

/-- The buffers are those after the patches. -/
theorem buffers_completed (simulator : Simulator) (submission : Submission) :
    (simulator.completed submission).buffers =
      (submission.patches.foldl patched simulator).buffers := by
  rw [completed_eq]

/-- There are as many syncpoints as before. -/
theorem size_completed (simulator : Simulator) (submission : Submission) :
    (simulator.completed submission).syncpoints.size = simulator.syncpoints.size := by
  rw [completed, size_execute, syncpoints_taken, Array.size_modify]

/-- Increments are made in either order. -/
instance : RightCommutative incrementAt where
  right_comm syncpoints first second := by
    simp only [incrementAt]
    apply Array.ext_getElem?
    intro position
    simp only [Array.getElem?_modify]
    by_cases former : first.toNat = position
    · by_cases latter : second.toNat = position
      · simp [former, latter]
      · simp [former, latter]
    · simp [former]

/-- A syncpoint is changed before or after increments of others. -/
theorem foldl_incrementAt_modify {indices : List Word} (syncpoints : Array Syncpoint) {index : Word}
    (others : index ∉ indices) (change : Syncpoint → Syncpoint) :
    indices.foldl incrementAt (syncpoints.modify index.toNat change) =
      (indices.foldl incrementAt syncpoints).modify index.toNat change := by
  induction indices generalizing syncpoints with
  | nil => rfl
  | cons head rest ih =>
    have different : head.toNat ≠ index.toNat :=
      fun same => others (UInt32.toNat.inj same ▸ List.mem_cons_self)
    have swapped : incrementAt (syncpoints.modify index.toNat change) head =
        (incrementAt syncpoints head).modify index.toNat change := by
      apply Array.ext_getElem?
      intro position
      simp only [incrementAt, Array.getElem?_modify]
      by_cases own : index.toNat = position
      · simp [own, own ▸ different]
      · simp [own]
    rw [List.foldl_cons, List.foldl_cons, swapped, ih _ fun later => others (.tail _ later)]

/-- Reservations of two syncpoints and increments that do not meet the other's reservation come to
the same in either order. -/
theorem reserved_incremented_comm {first second : Word} (different : first ≠ second)
    {made more : List Word} (spared : second ∉ made) (unmet : first ∉ more)
    (change other : Syncpoint → Syncpoint) (syncpoints : Array Syncpoint) :
    more.foldl incrementAt
        ((made.foldl incrementAt (syncpoints.modify first.toNat change)).modify second.toNat
          other) =
      made.foldl incrementAt
        ((more.foldl incrementAt (syncpoints.modify second.toNat other)).modify first.toNat
          change) := by
  have reservations : (syncpoints.modify first.toNat change).modify second.toNat other =
      (syncpoints.modify second.toNat other).modify first.toNat change := by
    apply Array.ext_getElem?
    intro position
    simp only [Array.getElem?_modify]
    by_cases former : first.toNat = position
    · have latter : second.toNat ≠ position :=
        fun same => different (UInt32.toNat.inj (former.trans same.symm))
      simp [former, latter]
    · simp [former]
  rw [← foldl_incrementAt_modify _ spared, ← foldl_incrementAt_modify _ unmet, reservations,
    ← List.foldl_append, ← List.foldl_append]
  exact List.perm_append_comm.foldl_eq _

/-- The first submission does not meddle with what the second one reads, patches or counts on: none
of its patches touches a byte of the other's ranges or patched words, and its streams, as they are
when it is executed, do not increment the other's syncpoint. -/
structure Spares (simulator : Simulator) (first second : Submission) : Prop where
  /-- No patch touches a range of the other. -/
  ranges : ∀ patch ∈ first.patches, ∀ range ∈ second.ranges, ∀ handle position,
    patch.Touches handle position → ¬ range.Covers handle position
  /-- No patch touches a patched word of the other. -/
  patches : ∀ patch ∈ first.patches, ∀ other ∈ second.patches, patch.Apart other
  /-- No stream increments the syncpoint of the other. -/
  streams : second.syncpoint ∉ (simulator.taken first).performed first

/-- Submissions on syncpoints of their own that do not meddle with each other. -/
structure Independent (simulator : Simulator) (first second : Submission) : Prop where
  /-- Each is counted on a syncpoint of its own. -/
  syncpoints : first.syncpoint ≠ second.syncpoint
  /-- The first spares the second. -/
  former : simulator.Spares first second
  /-- The second spares the first. -/
  latter : simulator.Spares second first

section Behind

variable {simulator : Simulator} {first second : Submission}

/-- What spares a submission leaves the increments of its streams and of its execution, wherever it
is executed. -/
theorem Spares.performed_taken (spares : simulator.Spares first second) :
    ((simulator.completed first).taken second).performed second =
      (simulator.taken second).performed second := by
  have buffers : ((simulator.completed first).taken second).buffers =
      (first.patches.foldl patched (second.patches.foldl patched simulator)).buffers := by
    rw [← foldl_patched_comm simulator spares.patches]
    exact buffers_foldl_patched_congr (buffers_completed simulator first) second.patches
  have size : ((simulator.completed first).taken second).syncpoints.size =
      (first.patches.foldl patched
        (second.patches.foldl patched simulator)).syncpoints.size := by
    rw [syncpoints_taken, Array.size_modify, size_completed, foldl_patched,
      foldl_patched second.patches]
  have taken : (second.patches.foldl patched simulator).buffers =
      (simulator.taken second).buffers := rfl
  have reserved : (second.patches.foldl patched simulator).syncpoints.size =
      (simulator.taken second).syncpoints.size := by
    rw [syncpoints_taken, Array.size_modify, foldl_patched]
  rw [performed_congr buffers size, performed_foldl_patched _ spares.ranges]
  exact performed_congr taken reserved second

/-- It leaves the increments of its execution. -/
theorem Spares.incrementsMade_taken (spares : simulator.Spares first second) :
    ((simulator.completed first).taken second).incrementsMade second =
      (simulator.taken second).incrementsMade second := by
  rw [incrementsMade, incrementsMade, spares.performed_taken]

/-- It makes no increment of the other's syncpoint. -/
theorem Spares.not_mem_incrementsMade (spares : simulator.Spares first second)
    (different : first.syncpoint ≠ second.syncpoint) :
    second.syncpoint ∉ (simulator.taken first).incrementsMade first := by
  rw [incrementsMade, List.mem_append, List.mem_replicate]
  rintro (streamed | ⟨-, same⟩)
  · exact spares.streams streamed
  · exact different same.symm

/-- A device accepts the same submissions before and after another one. -/
theorem accepts_completed {other : Submission} :
    (simulator.completed first).Accepts other ↔ simulator.Accepts other := by
  have holds : ∀ {handle offset length},
      (simulator.completed first).Holds handle offset length ↔
        simulator.Holds handle offset length := by
    intro handle offset length
    rw [completed_eq]
    exact holds_foldl_patched first.patches
  have syncpoints : (simulator.completed first).syncpoints.size = simulator.syncpoints.size := by
    rw [completed_eq, size_incremented, Array.size_modify]
  have channels : (simulator.completed first).channels = simulator.channels := by
    rw [completed_eq]
  constructor
  · rintro ⟨index, channel, ranges, patches⟩
    exact ⟨syncpoints ▸ index, channels ▸ channel,
      fun range member => holds.mp (ranges range member),
      fun patch member => ⟨holds.mp (patches patch member).1, holds.mp (patches patch member).2⟩⟩
  · rintro ⟨index, channel, ranges, patches⟩
    exact ⟨syncpoints ▸ index, channels ▸ channel,
      fun range member => holds.mpr (ranges range member),
      fun patch member => ⟨holds.mpr (patches patch member).1, holds.mpr (patches patch member).2⟩⟩

/-- The syncpoint of a submission stands behind one that spares it as it stood before. -/
theorem Spares.getElem?_completed (spares : simulator.Spares first second)
    (different : first.syncpoint ≠ second.syncpoint) :
    (simulator.completed first).syncpoints[second.syncpoint.toNat]? =
      simulator.syncpoints[second.syncpoint.toNat]? := by
  have untouched := List.count_eq_zero.mpr (spares.not_mem_incrementsMade different)
  rw [completed, getElem?_executed]
  simp only [if_neg different.symm, untouched, Syncpoint.advance_zero, Option.map_id']

/-- A submission is accepted behind one that spares it with the fence that it gets without. -/
theorem Spares.submit_completed (spares : simulator.Spares first second)
    (different : first.syncpoint ≠ second.syncpoint)
    (immediate : simulator.settings.completion = .immediate) {fence : Word} {after : Simulator}
    (accepted : submit second simulator = (.ok fence, after)) :
    submit second (simulator.completed first) =
      (.ok fence, (simulator.completed first).completed second) := by
  obtain ⟨accepts, ⟨syncpoint, found, reserved⟩, -⟩ := submit_eq_ok_iff.mp accepted
  rw [submit_eq_ok_iff]
  refine ⟨accepts_completed.mpr accepts, ⟨syncpoint, ?_, reserved⟩, ?_⟩
  · rw [spares.getElem?_completed different, found]
  · have settings : (simulator.completed first).settings = simulator.settings := by
      rw [completed_eq]
    rw [dispatch, settings_taken, settings, immediate, completed]

/-- Two independent submissions leave the same device in either order. -/
theorem Independent.completed_comm (independent : simulator.Independent first second) :
    (simulator.completed first).completed second =
      (simulator.completed second).completed first := by
  obtain ⟨different, former, latter⟩ := independent
  have buffers : (second.patches.foldl patched (simulator.completed first)).buffers =
      (first.patches.foldl patched (simulator.completed second)).buffers := by
    rw [buffers_foldl_patched_congr (buffers_completed simulator first),
      buffers_foldl_patched_congr (buffers_completed simulator second),
      foldl_patched_comm simulator former.patches]
  have syncpoints := reserved_incremented_comm different
    (former.not_mem_incrementsMade different) (latter.not_mem_incrementsMade different.symm)
    (fun syncpoint => syncpoint.reserve first.increments)
    (fun syncpoint => syncpoint.reserve second.increments) simulator.syncpoints
  have statistics : ∀ relocated missing more short,
      (simulator.statistics.worked relocated missing).worked more short =
        (simulator.statistics.worked more short).worked relocated missing := by
    intro relocated missing more short
    simp only [Statistics.worked, Nat.add_right_comm _ relocated, Nat.add_right_comm _ missing]
  rw [completed_eq (simulator.completed first), completed_eq (simulator.completed second), buffers,
    former.incrementsMade_taken, latter.incrementsMade_taken, former.performed_taken,
    latter.performed_taken, completed_eq simulator first, completed_eq simulator second]
  simp only [syncpoints, statistics]

end Behind

/-- Independent jobs commute. A device that executes at once gives two submissions that do not
meddle with each other the same fences in either order, and is the same device in the end: all
bytes, counters, reserved values and statistics. -/
theorem independent_submissions_commute {simulator after later : Simulator}
    {first second : Submission} {fence other : Word}
    (immediate : simulator.settings.completion = .immediate)
    (independent : simulator.Independent first second)
    (former : submit first simulator = (.ok fence, after))
    (latter : submit second simulator = (.ok other, later)) :
    ∃ last, submit second after = (.ok other, last) ∧ submit first later = (.ok fence, last) := by
  have behind : ∀ {submission : Submission} {value device},
      submit submission simulator = (.ok value, device) →
        device = simulator.completed submission := by
    intro submission value device accepted
    obtain ⟨-, -, moved⟩ := submit_eq_ok_iff.mp accepted
    rw [moved, dispatch, settings_taken, immediate, completed]
  obtain rfl := behind former
  obtain rfl := behind latter
  refine ⟨_, independent.former.submit_completed independent.syncpoints immediate latter, ?_⟩
  rw [independent.completed_comm]
  exact independent.latter.submit_completed independent.syncpoints.symm immediate former

/-- A device with two channels and two buffers, each with a stream that increments the syncpoint of
a channel and then one that belongs to no channel. -/
def crossing : Simulator :=
  (initial ⟨.immediate, 3, 1⟩).after
    [.call (.openChannel 1), .call (.openChannel 1), .call (.allocate 64 ⟨0⟩),
      .call (.allocate 64 ⟨0⟩),
      .write (.buffer 1) 0 ([0x40000000, 0x40000002, 0x10050001].flatMap Word.bytes),
      .write (.buffer 2) 0 ([0x40000001, 0x40000002, 0x40000002].flatMap Word.bytes)]

/-- The stream of the first buffer with an address as its last word, and two increments more. -/
def crossingFirst : Submission :=
  ⟨0, 0, 3, [⟨1, 0, 4⟩], [⟨1, 12, 2, 16, 0⟩]⟩

/-- The stream of the second buffer, with addresses in both buffers behind the streams. -/
def crossingSecond : Submission :=
  ⟨1, 1, 1, [⟨2, 0, 3⟩], [⟨2, 32, 1, 0, 0⟩, ⟨1, 16, 2, 0, 8⟩]⟩

/-- Both submissions increment a third syncpoint, and both replace words of the first buffer. -/
theorem crossing_submissions_commute :
    crossing.Independent crossingFirst crossingSecond ∧
      ∃ after later last, submit crossingFirst crossing = (.ok 3, after) ∧
        submit crossingSecond after = (.ok 1, last) ∧
        submit crossingSecond crossing = (.ok 1, later) ∧
        submit crossingFirst later = (.ok 3, last) ∧
        last.syncpoints = #[⟨3, 3⟩, ⟨1, 1⟩, ⟨3, 3⟩] := by
  have former : submit crossingFirst crossing = (.ok 3, (submit crossingFirst crossing).2) :=
    Prod.ext (by decide +kernel) rfl
  have latter : submit crossingSecond crossing = (.ok 1, (submit crossingSecond crossing).2) :=
    Prod.ext (by decide +kernel) rfl
  have syncpoints : (submit crossingSecond (submit crossingFirst crossing).2).2.syncpoints =
      #[⟨3, 3⟩, ⟨1, 1⟩, ⟨3, 3⟩] := by decide +kernel
  have elsewhere : ∀ {patch : Patch} {range : CommandRange}, patch.source ≠ range.handle →
      ∀ handle position, patch.Touches handle position → ¬ range.Covers handle position :=
    fun different _ _ touched covered => different (touched.1.trans covered.1.symm)
  have behind : ∀ {patch : Patch} {range : CommandRange},
      range.offset.toNat + 4 * range.words.toNat ≤ patch.sourceOffset.toNat →
      ∀ handle position, patch.Touches handle position → ¬ range.Covers handle position := by
    rintro patch range ends handle position ⟨-, starts, -⟩ ⟨-, -, before⟩
    omega
  have firstSpares : crossing.Spares crossingFirst crossingSecond := by
    refine ⟨?_, by decide, by decide +kernel⟩
    simp only [crossingFirst, crossingSecond, List.forall_mem_singleton]
    exact elsewhere (by decide)
  have secondSpares : crossing.Spares crossingSecond crossingFirst := by
    refine ⟨?_, by decide, by decide +kernel⟩
    simp only [crossingFirst, crossingSecond, List.forall_mem_cons, List.not_mem_nil,
      false_implies, implies_true, and_true]
    exact ⟨elsewhere (by decide), behind (by decide)⟩
  have independent : crossing.Independent crossingFirst crossingSecond :=
    ⟨by decide, firstSpares, secondSpares⟩
  obtain ⟨last, second, first⟩ := independent_submissions_commute rfl independent former latter
  rw [second] at syncpoints
  exact ⟨independent, _, _, last, former, second, latter, first, syncpoints⟩

end Simulator

end HostChannel

import HostChannel.Proofs.Memory
import HostChannel.Proofs.Simulator.Bounds
import HostChannel.Proofs.Simulator.Channels
import HostChannel.Proofs.Stream.RegisterWrite

/-!
# The effect of an execution

What a submission does when it is executed is counted on what the decoder gives for the bytes of
each of its ranges: the writes that ask for an increment of a syncpoint (`asked`), and for its own
syncpoint the increments that are missing from those declared (`topUp`). Each syncpoint is advanced
by its number, and nothing else happens (`execution_counted`). A range is read by itself, from class
zero on, so nothing that is wrong in one of them takes words from another.
-/

namespace HostChannel.Simulator

/-- The item asks for an increment of the syncpoint of an index: it writes a value that names the
index in its low eight bits to the register at offset zero, of whatever class. -/
def asksFor (index : Nat) (item : DecodedItem) : Bool :=
  match item with
  | .ok write => decide (write.register = 0 ∧ write.value.toNat % 256 = index)
  | .error _ => false

/-- Number of increments of a syncpoint that the bytes of a range ask for, if the buffer is there.
-/
def rangeAsked (simulator : Simulator) (range : CommandRange) (index : Nat) : Nat :=
  match simulator.live? range.handle with
  | some buffer =>
    (Decoder.given (Word.listOfBytes
      (buffer.memory.read range.offset.toNat (4 * range.words.toNat)))).countP (asksFor index)
  | none => 0

/-- Number of increments of a syncpoint that the ranges of a submission ask for. -/
def asked (simulator : Simulator) (submission : Submission) (index : Nat) : Nat :=
  submission.ranges.foldr (fun range rest => simulator.rangeAsked range index + rest) 0

/-- Number of increments of a syncpoint that are made for the ranges of a submission: all that they
ask for, if there is a syncpoint of the index. -/
def made (simulator : Simulator) (submission : Submission) (index : Nat) : Nat :=
  if index < simulator.syncpoints.size then simulator.asked submission index else 0

/-- Number of increments that a submission declares beyond those made for its ranges. -/
def topUp (simulator : Simulator) (submission : Submission) : Nat :=
  submission.increments.toNat - simulator.made submission submission.syncpoint.toNat

/-- Number of increments of a syncpoint that come of the execution of a submission. -/
def movement (simulator : Simulator) (submission : Submission) (index : Nat) : Nat :=
  simulator.made submission index +
    if index = submission.syncpoint.toNat then simulator.topUp submission else 0

/-- An item increments the syncpoint that it asks for. -/
theorem asksFor_eq (index : Nat) (item : DecodedItem) :
    asksFor index item =
      ((incremented? item).map fun named => named.toNat == index).getD false := by
  cases item with
  | error anomaly => rfl
  | ok write =>
    have low : (SyncpointIncrement.decode write.value).syncpoint.toNat =
        write.value.toNat % 256 := by
      change (SyncpointIncrement.syncpointField.extract write.value).toNat = _
      rw [BitField.toNat_extract]
      rfl
    simp only [asksFor, incremented?, SyncpointIncrement.register]
    by_cases signals : write.register = 0
    · simp [signals, low, Bool.beq_eq_decide_eq]
    · simp [signals]

/-- No words ask for nothing. -/
theorem increments_nil : increments [] = [] := by
  have none : (CommandCursor.ofWords []).next = (none, .ofWords []) := rfl
  have empty : commands [] = [] := CommandCursor.items_of_none none
  rw [increments, registerWrites, empty]
  rfl

/-- What a range asks for is counted among the increments of its words. -/
theorem countP_increments (simulator : Simulator) (range : CommandRange) (index : Nat) :
    (increments (simulator.rangeWords range)).countP (fun named => named.toNat == index) =
      simulator.rangeAsked range index := by
  have items : asksFor index = fun item =>
      ((incremented? item).map fun named => named.toNat == index).getD false :=
    funext (asksFor_eq index)
  simp only [rangeAsked, rangeWords]
  cases simulator.live? range.handle with
  | none => exact congrArg (List.countP _) increments_nil
  | some buffer =>
    simp only [Memory.listOfBytes_read, Decoder.given_eq, increments, items]
    exact List.countP_filterMap

/-- What the ranges of a submission ask for is counted range by range. -/
theorem countP_flatMap_increments (simulator : Simulator) (ranges : List CommandRange)
    (index : Nat) :
    (ranges.flatMap fun range => increments (simulator.rangeWords range)).countP
        (fun named => named.toNat == index) =
      ranges.foldr (fun range rest => simulator.rangeAsked range index + rest) 0 := by
  induction ranges with
  | nil => rfl
  | cons range rest ih =>
    rw [List.flatMap_cons, List.countP_append, ih, List.foldr_cons, countP_increments]

/-- What is made of it is counted among the increments of the streams. -/
theorem countP_performed (simulator : Simulator) (submission : Submission) (index : Nat) :
    (simulator.performed submission).countP (fun named => named.toNat == index) =
      simulator.made submission index := by
  rw [performed, List.countP_filter, made]
  split
  · rename_i present
    rw [asked, ← countP_flatMap_increments]
    apply List.countP_congr
    intro named _
    simp only [Bool.and_eq_true, beq_iff_eq, decide_eq_true_iff]
    exact and_iff_left_of_imp fun same => same ▸ present
  · rename_i absent
    rw [List.countP_eq_zero]
    intro named _
    simp only [Bool.and_eq_true, beq_iff_eq, decide_eq_true_iff]
    rintro ⟨rfl, there⟩
    exact absent there

/-- What is missing is topped up. -/
theorem missing_performed (simulator : Simulator) (submission : Submission) :
    missing submission (simulator.performed submission) = simulator.topUp submission := by
  rw [missing, topUp, count_eq_countP, countP_performed]

/-- The increments made, index by index. -/
theorem countP_incrementsMade (simulator : Simulator) (submission : Submission) (index : Nat) :
    (simulator.incrementsMade submission).countP (fun named => named.toNat == index) =
      simulator.movement submission index := by
  rw [incrementsMade, List.countP_append, countP_performed, missing_performed, movement,
    List.countP_replicate]
  congr 1
  by_cases own : index = submission.syncpoint.toNat
  · rw [if_pos own, if_pos (beq_iff_eq.mpr own.symm)]
  · rw [if_neg own, if_neg fun same => own (beq_iff_eq.mp same).symm]

/-- Each syncpoint is advanced by its movement. -/
theorem syncpoints_execute (simulator : Simulator) (submission : Submission) :
    (simulator.execute submission).syncpoints =
      simulator.syncpoints.mapIdx fun index syncpoint =>
        syncpoint.advance (simulator.movement submission index) := by
  apply Array.ext_getElem?
  intro index
  rw [execute_eq, getElem?_foldl_incrementAt, countP_incrementsMade, Array.getElem?_mapIdx]

/-- Executing a submission advances each syncpoint by the number of increments that the decoder
gives for it over the ranges whose buffers are there, and the submission's own by those it declares
beyond them as well; so this one moves by the larger of what is declared and what is asked for. What
is topped up is counted, and so is the execution; all else of the device stays as it is. Increments
that name no syncpoint of the device change nothing and are not counted as made: submissions that
differ in nothing else are executed alike. -/
theorem execution_counted (simulator : Simulator) (submission : Submission) :
    simulator.execute submission =
        { simulator with
          syncpoints := simulator.syncpoints.mapIdx fun index syncpoint =>
            syncpoint.advance (simulator.movement submission index)
          statistics :=
            { simulator.statistics with
              executed := simulator.statistics.executed + 1
              toppedUp := simulator.statistics.toppedUp + simulator.topUp submission } } ∧
      (∀ (index : Nat) (before : Syncpoint), simulator.syncpoints[index]? = some before →
        ∃ after, (simulator.execute submission).syncpoints[index]? = some after ∧
          after.value.toNat =
            (before.value.toNat + simulator.movement submission index) % UInt32.size) ∧
      (∀ index < simulator.syncpoints.size,
        simulator.made submission index = simulator.asked submission index) ∧
      (∀ index, index ≠ submission.syncpoint.toNat →
        simulator.movement submission index = simulator.made submission index) ∧
      simulator.movement submission submission.syncpoint.toNat =
        max submission.increments.toNat
          (simulator.made submission submission.syncpoint.toNat) ∧
      ∀ other : Submission, other.syncpoint = submission.syncpoint →
        other.increments = submission.increments →
        (∀ index < simulator.syncpoints.size,
          simulator.asked other index = simulator.asked submission index) →
        simulator.execute other = simulator.execute submission := by
  have whole : ∀ submission : Submission, simulator.execute submission =
      { simulator with
        syncpoints := simulator.syncpoints.mapIdx fun index syncpoint =>
          syncpoint.advance (simulator.movement submission index)
        statistics :=
          { simulator.statistics with
            executed := simulator.statistics.executed + 1
            toppedUp := simulator.statistics.toppedUp + simulator.topUp submission } } := by
    intro submission
    rw [← syncpoints_execute, ← missing_performed, execute_eq]
  refine ⟨whole submission, fun index before found => ?_, fun index present => if_pos present,
    fun index different => ?_, ?_, fun other same declared alike => ?_⟩
  · refine ⟨before.advance (simulator.movement submission index), ?_, ?_⟩
    · rw [syncpoints_execute, Array.getElem?_mapIdx, found, Option.map_some]
    · rw [Syncpoint.value_advance, UInt32.toNat_add, UInt32.toNat_ofNat', Nat.add_mod_mod]
  · rw [movement, if_neg different, Nat.add_zero]
  · rw [movement, if_pos rfl, topUp]
    omega
  · have making : simulator.made other = simulator.made submission := by
      funext index
      exact ite_congr rfl (alike index) fun _ => rfl
    have topped : simulator.topUp other = simulator.topUp submission := by
      rw [topUp, topUp, same, declared, making]
    have moved : simulator.movement other = simulator.movement submission := by
      funext index
      rw [movement, movement, making, same, topped]
    rw [whole other, whole submission, moved, topped]

end HostChannel.Simulator

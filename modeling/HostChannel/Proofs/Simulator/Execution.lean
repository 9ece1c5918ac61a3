import HostChannel.Simulator.Execution

/-!
# Laws of execution

Executing a submission makes a list of increments, first those of its streams and then those
that top it up (`Simulator.incrementsMade`), and changes nothing but syncpoints and
statistics. The list is the whole effect on the syncpoints: each is advanced by the number of
times that the list names it (`getElem?_incremented`).
-/

namespace HostChannel

namespace Syncpoint

/-- An increment may be made before the others as well as after them. -/
theorem advance_increment (syncpoint : Syncpoint) (count : Nat) :
    syncpoint.increment.advance count = syncpoint.advance (count + 1) := by
  induction count with
  | zero => exact (advance_succ syncpoint 0).symm
  | succ count ih => rw [advance_succ, ih, ← advance_succ]

/-- Increments are added to the counter. -/
theorem value_advance (syncpoint : Syncpoint) (count : Nat) :
    (syncpoint.advance count).value = syncpoint.value + UInt32.ofNat count := by
  unfold advance
  split
  · rename_i none
    rw [none]
    exact (UInt32.add_zero _).symm
  · rfl

end Syncpoint

namespace Simulator

/-- The syncpoints after one of them is incremented. -/
def incrementAt (syncpoints : Array Syncpoint) (index : Word) : Array Syncpoint :=
  syncpoints.modify index.toNat Syncpoint.increment

/-- The increments that the execution of a submission makes, in order: those of its streams,
and then those that they are short of. -/
def incrementsMade (simulator : Simulator) (submission : Submission) : List Word :=
  simulator.performed submission ++
    List.replicate (missing submission (simulator.performed submission)) submission.syncpoint

/-- Increments keep the number of syncpoints. -/
@[simp] theorem size_incremented (indices : List Word) (syncpoints : Array Syncpoint) :
    (indices.foldl incrementAt syncpoints).size = syncpoints.size := by
  induction indices generalizing syncpoints with
  | nil => rfl
  | cons index rest ih => rw [List.foldl_cons, ih, incrementAt, Array.size_modify]

/-- The syncpoint at a position is advanced by the number of increments that name the position. -/
theorem getElem?_foldl_incrementAt (indices : List Word) (syncpoints : Array Syncpoint)
    (position : Nat) :
    (indices.foldl incrementAt syncpoints)[position]? =
      syncpoints[position]?.map fun syncpoint =>
        syncpoint.advance (indices.countP fun index => index.toNat == position) := by
  induction indices generalizing syncpoints with
  | nil => simp [Syncpoint.advance_zero]
  | cons head rest ih =>
    rw [List.foldl_cons, ih, incrementAt, Array.getElem?_modify]
    by_cases same : head.toNat = position
    · simp only [List.countP_cons, same, if_true, Option.map_map, beq_self_eq_true]
      congr 1
      funext syncpoint
      exact Syncpoint.advance_increment syncpoint _
    · simp only [List.countP_cons, same, if_false, beq_iff_eq, Nat.add_zero]

/-- Counting a word is counting its number. -/
theorem count_eq_countP (indices : List Word) (index : Word) :
    indices.count index = indices.countP fun named => named.toNat == index.toNat := by
  rw [List.count]
  congr 1
  funext named
  rw [Bool.eq_iff_iff, beq_iff_eq, beq_iff_eq]
  exact UInt32.toNat_inj.symm

/-- Each syncpoint is advanced by the number of increments that name it. -/
theorem getElem?_incremented (indices : List Word) (syncpoints : Array Syncpoint) (index : Word) :
    (indices.foldl incrementAt syncpoints)[index.toNat]? =
      syncpoints[index.toNat]?.map fun syncpoint => syncpoint.advance (indices.count index) := by
  rw [getElem?_foldl_incrementAt, count_eq_countP]

/-- Many increments of one syncpoint are one advance of it. -/
theorem foldl_replicate_incrementAt (count : Nat) (index : Word) (syncpoints : Array Syncpoint) :
    (List.replicate count index).foldl incrementAt syncpoints =
      syncpoints.modify index.toNat fun syncpoint => syncpoint.advance count := by
  apply Array.ext_getElem?
  intro position
  induction count generalizing syncpoints with
  | zero => simp [Array.getElem?_modify, Syncpoint.advance_zero]
  | succ count ih =>
    rw [List.replicate_succ, List.foldl_cons, ih, incrementAt]
    simp only [Array.getElem?_modify]
    by_cases same : index.toNat = position
    · simp [same, Function.comp_def, Syncpoint.advance_increment]
    · simp [same]

/-- Increments one after the other change the syncpoints and nothing else. -/
theorem foldl_changeSyncpoint (indices : List Word) (simulator : Simulator) :
    indices.foldl (fun simulator index => simulator.changeSyncpoint index Syncpoint.increment)
        simulator =
      { simulator with syncpoints := indices.foldl incrementAt simulator.syncpoints } := by
  induction indices generalizing simulator with
  | nil => rfl
  | cons index rest ih => rw [List.foldl_cons, ih]; rfl

/-- Executing a submission makes its increments and counts them, and changes nothing else. -/
theorem execute_eq (simulator : Simulator) (submission : Submission) :
    simulator.execute submission =
      { simulator with
        syncpoints := (simulator.incrementsMade submission).foldl incrementAt simulator.syncpoints
        statistics :=
          { simulator.statistics with
            executed := simulator.statistics.executed + 1
            toppedUp := simulator.statistics.toppedUp +
              missing submission (simulator.performed submission) } } := by
  rw [incrementsMade, List.foldl_append, foldl_replicate_incrementAt]
  simp only [execute, foldl_changeSyncpoint]
  rfl

section Streams

variable {first second : Simulator} (same : first.buffers = second.buffers)
  (size : first.syncpoints.size = second.syncpoints.size)

include same size

/-- What streams do depends on the contents of the buffers and the number of syncpoints only. -/
theorem performed_congr (submission : Submission) :
    first.performed submission = second.performed submission := by
  simp only [performed, rangeWords, live?, same, size]

/-- So do the increments that an execution makes. -/
theorem incrementsMade_congr (submission : Submission) :
    first.incrementsMade submission = second.incrementsMade submission := by
  simp only [incrementsMade, performed_congr same size]

end Streams

/-- Execution changes no buffer. -/
@[simp] theorem buffers_execute (simulator : Simulator) (submission : Submission) :
    (simulator.execute submission).buffers = simulator.buffers := by
  rw [execute_eq]

/-- Execution keeps the number of syncpoints. -/
@[simp] theorem size_execute (simulator : Simulator) (submission : Submission) :
    (simulator.execute submission).syncpoints.size = simulator.syncpoints.size := by
  rw [execute_eq]
  exact size_incremented _ _

/-- An execution makes at least the declared increments on the submission's own syncpoint, and
no more unless its streams do. -/
theorem count_incrementsMade_self (simulator : Simulator) (submission : Submission) :
    (simulator.incrementsMade submission).count submission.syncpoint =
      max submission.increments.toNat
        ((simulator.performed submission).count submission.syncpoint) := by
  simp only [incrementsMade, missing, List.count_append, List.count_replicate_self]
  omega

/-- Topping up touches no syncpoint but the submission's own. -/
theorem count_incrementsMade_of_ne (simulator : Simulator) (submission : Submission) {index : Word}
    (other : index ≠ submission.syncpoint) :
    (simulator.incrementsMade submission).count index =
      (simulator.performed submission).count index := by
  rw [incrementsMade, List.count_append, List.count_replicate, if_neg (by simpa using other.symm),
    Nat.add_zero]

/-- Executing submissions one after the other changes the syncpoints and the statistics only,
and each makes the increments that it would make by itself. -/
theorem foldl_execute (submissions : List Submission) (simulator : Simulator) :
    submissions.foldl execute simulator =
      { simulator with
        syncpoints := (submissions.flatMap simulator.incrementsMade).foldl incrementAt
          simulator.syncpoints
        statistics := (submissions.foldl execute simulator).statistics } := by
  induction submissions generalizing simulator with
  | nil => rfl
  | cons submission rest ih =>
    have same : (simulator.execute submission).incrementsMade = simulator.incrementsMade :=
      funext (incrementsMade_congr (buffers_execute simulator submission)
        (size_execute simulator submission))
    rw [List.foldl_cons, ih, List.flatMap_cons, List.foldl_append, same]
    simp only [execute_eq simulator submission]

/-- From one point midway to the next, the next of the pending submissions is executed. -/
theorem midway_succ {simulator : Simulator} {count : Nat} {submission : Submission}
    (next : simulator.pending[count]? = some submission) :
    simulator.midway (count + 1) = (simulator.midway count).execute submission := by
  rw [midway, List.take_add_one, next, List.foldl_append]
  rfl

/-- Midway, the increments of the submissions executed so far are made. -/
theorem syncpoints_midway (simulator : Simulator) (count : Nat) :
    (simulator.midway count).syncpoints =
      ((simulator.pending.take count).flatMap simulator.incrementsMade).foldl incrementAt
        simulator.syncpoints := by
  have made : ({ simulator with pending := [] } : Simulator).incrementsMade =
      simulator.incrementsMade := rfl
  rw [midway, foldl_execute, made]

/-- The queue is empty all the while. -/
theorem pending_midway (simulator : Simulator) (count : Nat) :
    (simulator.midway count).pending = [] := by
  rw [midway, foldl_execute]

end Simulator

end HostChannel

import HostChannel.Proofs.Simulator.Requests

/-!
# What only allocating and releasing change

Which buffers there are, where they are, how long they are and whether they are live is changed by
allocating and by releasing, and by no other request; and only these two are counted as such. So a
device has the same tenure before and after all other requests.
-/

namespace HostChannel

/-- What stays of a buffer as long as it is not released: its address, its size, and that it is
live. -/
def SimulatedBuffer.frame (buffer : SimulatedBuffer) : UInt64 × UInt64 × Bool :=
  (buffer.address, buffer.size, buffer.live)

namespace Simulator

open HostChannel.Action (Moves)

/-- Both devices have the same buffers, but for their contents, and have allocated and released as
many. -/
structure SameTenure (first second : Simulator) : Prop where
  /-- The buffers are the same, but for their contents. -/
  frames : ∀ handle : Handle, second.buffers[handle]?.map SimulatedBuffer.frame =
    first.buffers[handle]?.map SimulatedBuffer.frame
  /-- The next buffer gets the same handle. -/
  nextHandle : second.nextHandle = first.nextHandle
  /-- As many were allocated. -/
  allocations : second.statistics.allocations = first.statistics.allocations
  /-- As many were released. -/
  releases : second.statistics.releases = first.statistics.releases

instance : IsPreorder Simulator SameTenure where
  refl _ := ⟨fun _ => rfl, rfl, rfl, rfl⟩
  trans _ _ _ earlier later :=
    ⟨fun handle => (later.frames handle).trans (earlier.frames handle),
      later.nextHandle.trans earlier.nextHandle, later.allocations.trans earlier.allocations,
      later.releases.trans earlier.releases⟩

/-- The same buffers are there. -/
theorem SameTenure.mem_iff {first second : Simulator} (same : first.SameTenure second)
    (handle : Handle) : handle ∈ second.buffers ↔ handle ∈ first.buffers := by
  have kept := congrArg Option.isSome (same.frames handle)
  rw [Option.isSome_map, Option.isSome_map] at kept
  rw [Std.ExtTreeMap.mem_iff_isSome_getElem?, Std.ExtTreeMap.mem_iff_isSome_getElem?, kept]

/-- Whether a buffer is live is said by what stays of it. -/
theorem isSome_live? (simulator : Simulator) (handle : Handle) :
    (simulator.live? handle).isSome =
      (simulator.buffers[handle]?.map SimulatedBuffer.frame).any fun frame => frame.2.2 := by
  rw [live?]
  cases simulator.buffers[handle]? with
  | none => rfl
  | some buffer => cases lives : buffer.live <;> simp [Option.filter, SimulatedBuffer.frame, lives]

/-- A live buffer is there. -/
theorem mem_of_live? {simulator : Simulator} {handle : Handle}
    (lives : (simulator.live? handle).isSome = true) : handle ∈ simulator.buffers := by
  rw [isSome_live?] at lives
  rw [Std.ExtTreeMap.mem_iff_isSome_getElem?]
  cases found : simulator.buffers[handle]? with
  | none => simp [found] at lives
  | some buffer => rfl

/-- A view of the device keeps the tenure. -/
theorem sameTenure_of_moves_eq {α : Type} {action : Action Simulator α}
    (kept : Moves (· = ·) action) : Moves SameTenure action := by
  intro simulator
  rw [← kept simulator]
  exact refl_of SameTenure simulator

/-- So does changing a syncpoint. -/
theorem changeSyncpoint_sameTenure (simulator : Simulator) (index : Word)
    (change : Syncpoint → Syncpoint) :
    simulator.SameTenure (simulator.changeSyncpoint index change) :=
  ⟨fun _ => rfl, rfl, rfl, rfl⟩

/-- So does counting something else. -/
theorem count_sameTenure (simulator : Simulator) {change : Statistics → Statistics}
    (allocations : ∀ statistics, (change statistics).allocations = statistics.allocations)
    (releases : ∀ statistics, (change statistics).releases = statistics.releases) :
    simulator.SameTenure (simulator.count change) :=
  ⟨fun _ => rfl, rfl, allocations _, releases _⟩

/-- Making writes of the processor visible is counted, but not as one of the two. -/
theorem flush_sameTenure (handle : Handle) (offset length : UInt64) :
    Moves SameTenure (flush handle offset length) :=
  Moves.bind (sameTenure_of_moves_eq (findRange_moves handle offset length)) fun _ =>
    Moves.update fun simulator => count_sameTenure simulator (fun _ => rfl) fun _ => rfl

/-- Nor is making writes of the device visible. -/
theorem invalidate_sameTenure (handle : Handle) (offset length : UInt64) :
    Moves SameTenure (invalidate handle offset length) :=
  Moves.bind (sameTenure_of_moves_eq (findRange_moves handle offset length)) fun _ =>
    Moves.update fun simulator => count_sameTenure simulator (fun _ => rfl) fun _ => rfl

/-- Writing to a buffer changes its contents only. -/
theorem writeBuffer_sameTenure (simulator : Simulator) (handle : Handle) (position : Nat)
    (data : List UInt8) : simulator.SameTenure (simulator.writeBuffer handle position data) := by
  refine ⟨fun other => ?_, rfl, rfl, rfl⟩
  rw [writeBuffer, buffers_changeBuffer, Option.map_map]
  congr 1
  funext buffer
  rw [Function.comp_apply]
  split <;> rfl

/-- So does replacing words. -/
theorem foldl_patched_sameTenure (patches : List Patch) (simulator : Simulator) :
    simulator.SameTenure (patches.foldl patched simulator) := by
  induction patches generalizing simulator with
  | nil => exact refl_of SameTenure simulator
  | cons patch rest ih =>
    exact trans_of SameTenure (writeBuffer_sameTenure simulator patch.source _ _) (ih _)

/-- Executing a submission changes no buffer. -/
theorem execute_sameTenure (simulator : Simulator) (submission : Submission) :
    simulator.SameTenure (simulator.execute submission) := by
  rw [execute_eq]
  exact ⟨fun _ => rfl, rfl, rfl, rfl⟩

/-- Nor does executing several. -/
theorem foldl_execute_sameTenure (submissions : List Submission) (simulator : Simulator) :
    simulator.SameTenure (submissions.foldl execute simulator) := by
  induction submissions generalizing simulator with
  | nil => exact refl_of SameTenure simulator
  | cons submission rest ih =>
    exact trans_of SameTenure (execute_sameTenure simulator submission) (ih _)

/-- Submitting changes contents of buffers only. -/
theorem submit_sameTenure (submission : Submission) : Moves SameTenure (submit submission) := by
  intro simulator
  by_cases accepts : simulator.Accepts submission
  · obtain ⟨syncpoint, found, run⟩ := submit_of_accepts accepts
    have taken : simulator.SameTenure (simulator.taken submission) := by
      have patched := foldl_patched_sameTenure submission.patches simulator
      exact ⟨patched.frames, patched.nextHandle, patched.allocations, patched.releases⟩
    rw [run, dispatch]
    refine trans_of SameTenure taken ?_
    split
    · exact execute_sameTenure _ _
    · exact ⟨fun _ => rfl, rfl, rfl, rfl⟩
  · obtain ⟨failure, run⟩ := submit_of_not_accepts accepts
    rw [run]
    exact refl_of SameTenure simulator

/-- A request that neither allocates nor releases keeps the tenure. -/
theorem respond_sameTenure (simulator : Simulator) (request : Request)
    (quiet : request.quiet = true) :
    simulator.SameTenure (simulator.respond request) := by
  cases request with
  | write region position data =>
    cases region with
    | buffer handle => exact writeBuffer_sameTenure simulator handle position data
    | standalone serial => exact refl_of SameTenure simulator
  | runPending =>
    have emptied : simulator.SameTenure { simulator with pending := [] } :=
      ⟨fun _ => rfl, rfl, rfl, rfl⟩
    rw [respond_runPending]
    exact trans_of SameTenure emptied (foldl_execute_sameTenure simulator.pending _)
  | increment index times =>
    exact Moves.bind (sameTenure_of_moves_eq (findSyncpoint_moves index))
      (fun _ => Moves.bind (Moves.update fun _ => changeSyncpoint_sameTenure _ _ _) fun _ =>
        Moves.pure _) simulator
  | call call =>
    cases call with
    | allocate size flags => simp [Request.quiet] at quiet
    | release handle => simp [Request.quiet] at quiet
    | map handle =>
      exact Moves.bind (sameTenure_of_moves_eq (findBuffer_moves handle)) (fun _ => Moves.pure _)
        simulator
    | flush handle offset length =>
      exact flush_sameTenure handle offset length simulator
    | invalidate handle offset length =>
      exact invalidate_sameTenure handle offset length simulator
    | openChannel engineClass =>
      simp only [respond, Device.openChannel, openChannel]
      split
      · exact ⟨fun _ => rfl, rfl, rfl, rfl⟩
      · split <;> exact ⟨fun _ => rfl, rfl, rfl, rfl⟩
    | closeChannel channel =>
      simp only [respond, Device.closeChannel, closeChannel]
      split <;> exact ⟨fun _ => rfl, rfl, rfl, rfl⟩
    | submit submission => exact submit_sameTenure submission simulator
    | flushSubmissions channel => exact refl_of SameTenure simulator
    | readSyncpoint index => exact sameTenure_of_moves_eq (readSyncpoint_moves index) simulator
    | waitSyncpoint index threshold timeout =>
      exact sameTenure_of_moves_eq (waitSyncpoint_moves index threshold timeout) simulator

end Simulator

end HostChannel

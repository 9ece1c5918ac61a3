import HostChannel.Proofs.Device
import HostChannel.Proofs.Simulator.Retention

/-!
# Bounds on the simulated device

Every buffer has as many bytes as were asked for, also after it was released, and a handle that is
not to come (`Solid`). The ranges of what is pending were within their buffers when it was accepted;
handles are never handed out twice, so they still are when it is executed, whatever was released in
between (`Queued`). Therefore patching and executing read and write within memory, and the address
of a position in a buffer does not wrap around (`InRange`).
-/

namespace HostChannel.Simulator

open HostChannel.Action (Moves Preserves)

/-- Every buffer has memory of its size and a handle that is not to come. -/
structure Solid (simulator : Simulator) : Prop where
  /-- The handle is not to come. -/
  earlier : ∀ (handle : Handle) buffer, simulator.buffers[handle]? = some buffer →
    handle < simulator.nextHandle
  /-- The memory has the size. -/
  sized : ∀ (handle : Handle) buffer, simulator.buffers[handle]? = some buffer →
    buffer.memory.size = buffer.size.toNat

namespace Solid

variable {simulator : Simulator}

/-- A buffer that is there was handed out. -/
theorem handedOut (solid : simulator.Solid) {handle : Handle} {buffer : SimulatedBuffer}
    (found : simulator.buffers[handle]? = some buffer) : simulator.HandedOut handle buffer.size :=
  ⟨solid.earlier handle buffer found, by rw [found, Option.map_some]⟩

/-- It stays where it was handed out, wherever requests take the device. -/
theorem extent?_of_reaches (solid : simulator.Solid) {after : Simulator}
    (reached : simulator.Reaches after) {handle : Handle} {extent : UInt64 × UInt64}
    (found : simulator.extent? handle = some extent) : after.extent? handle = some extent := by
  obtain ⟨buffer, held, -⟩ := Option.map_eq_some_iff.mp found
  rw [(reached.extent? (solid.earlier handle buffer held)).2, found]

/-- A live buffer has memory of its size. -/
theorem sized_of_live (solid : simulator.Solid) {handle : Handle} {buffer : SimulatedBuffer}
    (lives : simulator.live? handle = some buffer) : buffer.memory.size = buffer.size.toNat :=
  solid.sized handle buffer (Option.filter_eq_some_iff.mp lives).1

/-- A buffer may be changed in all but the size of its memory. -/
theorem changeBuffer (solid : simulator.Solid) (handle : Handle)
    {change : SimulatedBuffer → SimulatedBuffer}
    (same : ∀ buffer, (change buffer).size = buffer.size ∧
      (change buffer).memory.size = buffer.memory.size) :
    (simulator.changeBuffer handle change).Solid := by
  refine ⟨fun other buffer found => ?_, fun other buffer found => ?_⟩
  · rw [buffers_changeBuffer, Option.map_eq_some_iff] at found
    obtain ⟨before, held, -⟩ := found
    exact solid.earlier other before held
  · rw [buffers_changeBuffer, Option.map_eq_some_iff] at found
    obtain ⟨before, held, rfl⟩ := found
    have sized := solid.sized other before held
    split
    · rw [(same before).1, (same before).2, sized]
    · exact sized

/-- Bytes may be written to a buffer. -/
theorem writeBuffer (solid : simulator.Solid) (handle : Handle) (position : Nat)
    (data : List UInt8) : (simulator.writeBuffer handle position data).Solid :=
  solid.changeBuffer handle fun _ => ⟨rfl, Memory.size_write _ _ _⟩

/-- Words may be replaced. -/
theorem foldl_patched (solid : simulator.Solid) (patches : List Patch) :
    (patches.foldl patched simulator).Solid := by
  induction patches generalizing simulator with
  | nil => exact solid
  | cons patch rest ih => exact ih (solid.writeBuffer patch.source _ _)

/-- A submission may be taken. -/
theorem taken (solid : simulator.Solid) (submission : Submission) :
    (simulator.taken submission).Solid :=
  ⟨(solid.foldl_patched submission.patches).earlier,
    (solid.foldl_patched submission.patches).sized⟩

/-- So may one be executed or put in the queue. -/
theorem dispatch (solid : simulator.Solid) (submission : Submission) :
    (simulator.dispatch submission).Solid := by
  rw [Simulator.dispatch]
  split
  · rw [execute_eq]
    exact ⟨solid.earlier, solid.sized⟩
  · exact ⟨solid.earlier, solid.sized⟩

end Solid

/-- A view of the device leaves it solid. -/
theorem solid_of_moves_eq {α : Type} {action : Action Simulator α}
    (kept : Moves (· = ·) action) : Moves (Preserves Solid) action := by
  intro simulator solid
  rwa [← kept simulator]

/-- A new buffer has memory of its size. -/
theorem allocate_solid (size : UInt64) : Moves (Preserves Solid) (allocate size) := by
  intro simulator solid
  rcases allocate_cases size simulator with ⟨_, _, _, later, made⟩ | ⟨behind, -, more, made⟩
  · rw [made]
    exact ⟨fun handle buffer found =>
      UInt32.lt_of_lt_of_le (solid.earlier handle buffer found) later, solid.sized⟩
  · rw [made]
    refine ⟨fun handle buffer found => ?_, fun handle buffer found => ?_⟩
    · simp only [withBuffer, Std.ExtTreeMap.getElem?_insert] at found
      split at found
      · rename_i same
        rw [← Std.LawfulEqCmp.eq_of_compare same]
        exact more
      · exact UInt32.lt_trans (solid.earlier handle buffer found) more
    · simp only [withBuffer, Std.ExtTreeMap.getElem?_insert] at found
      split at found
      · obtain rfl := Option.some.inj found
        rfl
      · exact solid.sized handle buffer found

/-- A released buffer keeps its memory. -/
theorem release_solid (handle : Handle) : Moves (Preserves Solid) (release handle) := by
  refine Moves.bind (solid_of_moves_eq (findBuffer_moves handle)) fun _ => Moves.update ?_
  intro simulator solid
  have marked : (simulator.changeBuffer handle fun buffer => { buffer with live := false }).Solid :=
    solid.changeBuffer handle fun _ => ⟨rfl, rfl⟩
  exact ⟨marked.earlier, marked.sized⟩

/-- Making writes of the processor visible only counts. -/
theorem flush_solid (handle : Handle) (offset length : UInt64) :
    Moves (Preserves Solid) (flush handle offset length) :=
  Moves.bind (solid_of_moves_eq (findRange_moves handle offset length)) fun _ =>
    Moves.update fun _ solid => ⟨solid.earlier, solid.sized⟩

/-- So does making writes of the device visible. -/
theorem invalidate_solid (handle : Handle) (offset length : UInt64) :
    Moves (Preserves Solid) (invalidate handle offset length) :=
  Moves.bind (solid_of_moves_eq (findRange_moves handle offset length)) fun _ =>
    Moves.update fun _ solid => ⟨solid.earlier, solid.sized⟩

/-- Every request leaves a solid device solid. -/
theorem Solid.respond {simulator : Simulator} (solid : simulator.Solid) (request : Request) :
    (simulator.respond request).Solid := by
  cases request with
  | write region position data =>
    cases region with
    | buffer handle => exact solid.writeBuffer handle position data
    | standalone serial => exact solid
  | runPending =>
    rw [respond_runPending, foldl_execute]
    exact ⟨solid.earlier, solid.sized⟩
  | increment index times =>
    obtain ⟨_, run⟩ := respond_increment simulator index times
    rw [run]
    exact ⟨solid.earlier, solid.sized⟩
  | call call =>
    cases call with
    | allocate size flags => exact allocate_solid size simulator solid
    | release handle => exact release_solid handle simulator solid
    | map handle =>
      exact Moves.bind (solid_of_moves_eq (findBuffer_moves handle)) (fun _ => Moves.pure _)
        simulator solid
    | flush handle offset length => exact flush_solid handle offset length simulator solid
    | invalidate handle offset length => exact invalidate_solid handle offset length simulator solid
    | openChannel engineClass =>
      simp only [Simulator.respond, Device.openChannel, openChannel]
      split
      · exact solid
      · split <;> exact ⟨solid.earlier, solid.sized⟩
    | closeChannel channel =>
      simp only [Simulator.respond, Device.closeChannel, closeChannel]
      split <;> exact ⟨solid.earlier, solid.sized⟩
    | submit submission =>
      rcases respond_submit simulator submission with ⟨-, run⟩ | ⟨-, run⟩
      · rw [run]
        exact (solid.taken submission).dispatch submission
      · rwa [run]
    | flushSubmissions channel => exact solid
    | readSyncpoint index => exact solid_of_moves_eq (readSyncpoint_moves index) simulator solid
    | waitSyncpoint index threshold timeout =>
      exact solid_of_moves_eq (waitSyncpoint_moves index threshold timeout) simulator solid

/-- The range is one of a buffer that was handed out, live or not. -/
def HasRange (simulator : Simulator) (range : CommandRange) : Prop :=
  ∃ size, simulator.HandedOut range.handle size ∧
    range.offset.toNat + 4 * range.words.toNat ≤ size.toNat

/-- A range of a live buffer is one of a buffer that was handed out. -/
theorem Solid.hasRange_of_holds {simulator : Simulator} (solid : simulator.Solid)
    {range : CommandRange}
    (holds : simulator.Holds range.handle range.offset.toNat (range.words.toNat * 4)) :
    simulator.HasRange range := by
  obtain ⟨buffer, lives, within⟩ := holds
  refine ⟨buffer.size, solid.handedOut (Option.filter_eq_some_iff.mp lives).1, ?_⟩
  rwa [Nat.mul_comm 4]

/-- It stays one with every request, also when the buffer is released. -/
theorem HasRange.respond {simulator : Simulator} {range : CommandRange}
    (has : simulator.HasRange range) (request : Request) :
    (simulator.respond request).HasRange range := by
  obtain ⟨size, handed, within⟩ := has
  exact ⟨size, handed.respond request, within⟩

/-- Every range of what is pending is one of a buffer that was handed out. -/
def Queued (simulator : Simulator) : Prop :=
  ∀ submission ∈ simulator.pending, ∀ range ∈ submission.ranges, simulator.HasRange range

/-- What is pending after a request was pending before, or is what was just accepted. -/
theorem mem_pending_respond {simulator : Simulator} {request : Request} {submission : Submission}
    (member : submission ∈ (simulator.respond request).pending) :
    submission ∈ simulator.pending ∨
      request = .call (.submit submission) ∧ simulator.Accepts submission := by
  by_cases submits : ∃ submitted, request = .call (.submit submitted)
  · obtain ⟨submitted, rfl⟩ := submits
    rcases respond_submit simulator submitted with ⟨accepts, run⟩ | ⟨-, run⟩
    · rw [run, dispatch] at member
      split at member
      · rw [execute_eq, pending_taken] at member
        exact .inl member
      · rw [pending_taken] at member
        rcases List.mem_append.mp member with earlier | new
        · exact .inl earlier
        · obtain rfl := List.mem_singleton.mp new
          exact .inr ⟨rfl, accepts⟩
    · rw [run] at member
      exact .inl member
  · cases request with
    | runPending =>
      rw [respond_runPending, foldl_execute] at member
      exact absurd member List.not_mem_nil
    | increment index times =>
      obtain ⟨_, run⟩ := respond_increment simulator index times
      rw [run] at member
      exact .inl member
    | _ =>
      have same := @respond_sameWork simulator _
        (fun submitted equal => submits ⟨submitted, equal⟩) (by simp) (by simp)
      exact .inl (same.pending ▸ member)

/-- Every request leaves pending ranges within their buffers. -/
theorem Queued.respond {simulator : Simulator} (queued : simulator.Queued)
    (solid : simulator.Solid) (request : Request) : (simulator.respond request).Queued := by
  intro submission member range asked
  rcases mem_pending_respond member with earlier | ⟨-, accepts⟩
  · exact (queued submission earlier range asked).respond request
  · exact (solid.hasRange_of_holds (accepts.ranges range asked)).respond request

/-- Wherever requests take a new device, it is solid, and so is what is pending. -/
theorem Reaches.solid {settings : SimulatorSettings} {simulator : Simulator}
    (reached : (initial settings).Reaches simulator) : simulator.Solid ∧ simulator.Queued := by
  have step : ∀ (simulator : Simulator) request, simulator.Solid ∧ simulator.Queued →
      (simulator.respond request).Solid ∧ (simulator.respond request).Queued :=
    fun _ request held => ⟨held.1.respond request, held.2.respond held.1 request⟩
  refine reached.keeps step ⟨⟨?_, ?_⟩, fun submission none => absurd none List.not_mem_nil⟩
  · intro handle buffer found
    simp [initial] at found
  · intro handle buffer found
    simp [initial] at found

/-- The device reads within memory when it executes the submission. -/
def Reads (simulator : Simulator) (submission : Submission) : Prop :=
  ∀ range ∈ submission.ranges, ∀ buffer, simulator.live? range.handle = some buffer →
    range.offset.toNat + 4 * range.words.toNat ≤ buffer.memory.size

/-- The device writes within memory when it applies the patch, and the address that it writes does
not wrap around before it is shifted. -/
def Replaces (simulator : Simulator) (patch : Patch) : Prop :=
  ∃ source target, simulator.live? patch.source = some source ∧
    simulator.live? patch.target = some target ∧
    patch.sourceOffset.toNat + 4 ≤ source.memory.size ∧
    (target.address + patch.targetOffset.toUInt64).toNat =
      target.address.toNat + patch.targetOffset.toNat

/-- Patching and executing stay within memory and addresses, for whatever passes its check and for
whatever is pending. -/
structure InRange (simulator : Simulator) : Prop where
  /-- Each patch is applied within memory, after those before it. -/
  patches : ∀ submission, validate submission simulator = (.ok (), simulator) →
    ∀ earlier patch later, submission.patches = earlier ++ patch :: later →
      ∃ between, earlier.forM applyPatch simulator = (.ok (), between) ∧ between.Replaces patch
  /-- What is executed at once is read within memory. -/
  accepted : ∀ submission, validate submission simulator = (.ok (), simulator) →
    (simulator.taken submission).Reads submission
  /-- What is pending is, after what is executed before it. -/
  pending : ∀ earlier submission later, simulator.pending = earlier ++ submission :: later →
    (earlier.foldl execute { simulator with pending := [] }).Reads submission

/-- Replacing words leaves the same buffers live, at their addresses and of their sizes. -/
theorem holds_foldl_patched (patches : List Patch) {simulator : Simulator} {handle : Handle}
    {offset length : Nat} :
    (patches.foldl patched simulator).Holds handle offset length ↔
      simulator.Holds handle offset length := by
  induction patches generalizing simulator with
  | nil => exact Iff.rfl
  | cons patch rest ih => exact ih.trans (holds_patched patch)

namespace Solid

variable {simulator : Simulator}

/-- A range of a buffer that was handed out is in its memory, as long as the buffer is live. -/
theorem reads_of_hasRange (solid : simulator.Solid) {submission : Submission}
    (has : ∀ range ∈ submission.ranges, simulator.HasRange range) :
    simulator.Reads submission := by
  intro range asked buffer lives
  obtain ⟨size, handed, fits⟩ := has range asked
  rwa [solid.sized_of_live lives, handed.size_of_live lives]

/-- A patch between live buffers is applied in range. -/
theorem replaces (solid : simulator.Solid) (addressed : simulator.Addressed) {patch : Patch}
    (source : simulator.Holds patch.source patch.sourceOffset.toNat 4)
    (target : simulator.Holds patch.target patch.targetOffset.toNat 0) :
    simulator.Replaces patch := by
  obtain ⟨first, found, within⟩ := source
  obtain ⟨second, aimed, inside⟩ := target
  have last := addressed patch.target second (Option.filter_eq_some_iff.mp aimed).1
  refine ⟨first, second, found, aimed, ?_, ?_⟩
  · rwa [solid.sized_of_live found]
  · rw [UInt64.toNat_add, UInt32.toNat_toUInt64]
    exact Nat.mod_eq_of_lt (by simp only [UInt64.size] at last; omega)

end Solid

/-- Wherever requests take a new device, patching and executing stay in range. -/
theorem Reaches.inRange {settings : SimulatorSettings} {simulator : Simulator}
    (reached : (initial settings).Reaches simulator) : simulator.InRange := by
  obtain ⟨solid, queued⟩ := reached.solid
  refine ⟨?_, ?_, ?_⟩
  · intro submission passed earlier patch later place
    have accepted := (validate_eq_ok_iff.mp passed).1.patches
    rw [place] at accepted
    have here := accepted patch (List.mem_append_right _ List.mem_cons_self)
    refine ⟨earlier.foldl patched simulator, ?_, ?_⟩
    · exact applyPatches_of_holds fun other member =>
        accepted other (List.mem_append_left _ member)
    · have addressed : (earlier.foldl patched simulator).Addressed :=
        (foldl_patched_sameTenure earlier simulator).retains.addressed reached.addressed
      exact (solid.foldl_patched earlier).replaces addressed
        ((holds_foldl_patched earlier).mpr here.1) ((holds_foldl_patched earlier).mpr here.2)
  · intro submission passed
    have taken := solid.taken submission
    refine taken.reads_of_hasRange fun range asked => taken.hasRange_of_holds ?_
    exact (holds_foldl_patched submission.patches).mpr
      ((validate_eq_ok_iff.mp passed).1.ranges range asked)
  · intro earlier submission later place
    have listed : submission ∈ simulator.pending :=
      place ▸ List.mem_append_right _ List.mem_cons_self
    -- Executing what is before it changes no buffer.
    rw [foldl_execute]
    refine Solid.reads_of_hasRange ⟨solid.earlier, solid.sized⟩ fun range asked => ?_
    obtain ⟨size, handed, within⟩ := queued submission listed range asked
    exact ⟨size, ⟨handed.earlier, handed.sized⟩, within⟩

end HostChannel.Simulator

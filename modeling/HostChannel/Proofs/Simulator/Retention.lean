import HostChannel.Proofs.Simulator.Tenure

/-!
# What requests leave of the buffers

The device forgets no buffer: a released one is no longer live, but it keeps its place, its size and
its memory. And it hands out addresses only where the whole buffer has them, so the addresses of a
buffer never run past the last one.
-/

namespace HostChannel.Simulator

open HostChannel.Action (Moves)

/-- The addresses of every buffer end before the last one. -/
def Addressed (simulator : Simulator) : Prop :=
  ∀ (handle : Handle) buffer, simulator.buffers[handle]? = some buffer →
    buffer.address.toNat + buffer.size.toNat < UInt64.size

/-- The second device has every buffer that the first has, and addresses of its own if the first
has. -/
structure Retains (first second : Simulator) : Prop where
  /-- No buffer is forgotten. -/
  buffers : ∀ handle ∈ first.buffers, handle ∈ second.buffers
  /-- Addresses stay in range. -/
  addressed : first.Addressed → second.Addressed

instance : IsPreorder Simulator Retains where
  refl _ := ⟨fun _ present => present, fun addressed => addressed⟩
  trans _ _ _ earlier later :=
    ⟨fun handle present => later.buffers handle (earlier.buffers handle present),
      fun addressed => later.addressed (earlier.addressed addressed)⟩

/-- Buffers that stay as they are are retained. -/
theorem retains_of_buffers_eq {first second : Simulator} (same : second.buffers = first.buffers) :
    first.Retains second := by
  refine ⟨fun handle present => by rwa [same], fun addressed handle buffer found => ?_⟩
  rw [same] at found
  exact addressed handle buffer found

/-- So are buffers of which only the contents change. -/
theorem SameTenure.retains {first second : Simulator} (same : first.SameTenure second) :
    first.Retains second := by
  refine ⟨fun handle => (same.mem_iff handle).mpr, fun addressed handle buffer found => ?_⟩
  have kept := same.frames handle
  rw [found, Option.map_some, eq_comm, Option.map_eq_some_iff] at kept
  obtain ⟨before, held, frame⟩ := kept
  obtain ⟨address, rest⟩ := Prod.mk.inj frame
  obtain ⟨size, -⟩ := Prod.mk.inj rest
  rw [← address, ← size]
  exact addressed handle before held

/-- An address behind a buffer is past all of the buffer's addresses. -/
theorem fits_of_addressBehind? {simulator : Simulator} {size behind : UInt64}
    (found : addressBehind? simulator.nextAddress size = some behind) :
    simulator.nextAddress.toNat + size.toNat < UInt64.size := by
  by_cases room : simulator.HasRoom size
  · exact Nat.lt_of_le_of_lt (Nat.add_le_add_left (size_le_span size) _) room
  · rw [addressBehind?_eq, if_neg room] at found
    contradiction

/-- A new buffer is added to those that there are. -/
theorem allocate_retains (size : UInt64) : Moves Retains (allocate size) := by
  intro simulator
  rcases allocate_cases size simulator with ⟨_, _, _, -, made⟩ | ⟨behind, found, -, made⟩
  · rw [made]
    exact retains_of_buffers_eq rfl
  · rw [made]
    refine ⟨fun handle present => Std.ExtTreeMap.mem_insert.mpr (.inr present), ?_⟩
    intro addressed handle buffer held
    simp only [withBuffer, Std.ExtTreeMap.getElem?_insert] at held
    split at held
    · rw [Option.some.injEq] at held
      rw [← held]
      exact fits_of_addressBehind? found
    · exact addressed handle buffer held

/-- Releasing a buffer keeps its place. -/
theorem release_retains (handle : Handle) : Moves Retains (release handle) := by
  refine Moves.bind (fun simulator => ?_) fun _ => Moves.update fun simulator => ⟨?_, ?_⟩
  · exact (sameTenure_of_moves_eq (findBuffer_moves handle) simulator).retains
  · exact fun other present => Std.ExtTreeMap.mem_modify.mpr present
  · intro addressed other buffer found
    rw [count, buffers_changeBuffer, Option.map_eq_some_iff] at found
    obtain ⟨before, held, rfl⟩ := found
    have fits := addressed other before held
    split
    · exact fits
    · exact fits

/-- Every request retains the buffers. -/
theorem respond_retains (simulator : Simulator) (request : Request) :
    simulator.Retains (simulator.respond request) := by
  by_cases quiet : request.quiet = true
  · exact (respond_sameTenure simulator request quiet).retains
  · cases request with
    | call call =>
      cases call with
      | allocate size flags => exact allocate_retains size simulator
      | release handle => exact release_retains handle simulator
      | _ => exact absurd rfl quiet
    | _ => exact absurd rfl quiet

/-- So does whatever requests bring about. -/
theorem Reaches.retains {first second : Simulator} (reached : first.Reaches second) :
    first.Retains second := by
  have step : ∀ simulator request, first.Retains simulator →
      first.Retains (simulator.respond request) :=
    fun simulator request kept => trans_of Retains kept (respond_retains simulator request)
  exact reached.keeps step (refl_of Retains first)

/-- The addresses on a new device are in range, and stay so. -/
theorem Reaches.addressed {settings : SimulatorSettings} {simulator : Simulator}
    (reached : (initial settings).Reaches simulator) : simulator.Addressed := by
  apply reached.retains.addressed
  intro handle buffer found
  simp [initial] at found

/-- A buffer of the handle was handed out, with the size. -/
structure HandedOut (simulator : Simulator) (handle : Handle) (size : UInt64) : Prop where
  /-- The handle is not to come. -/
  earlier : handle < simulator.nextHandle
  /-- The buffer has the size. -/
  sized : simulator.buffers[handle]?.map SimulatedBuffer.size = some size

/-- A buffer that was handed out is there, live or not. -/
theorem HandedOut.mem {simulator : Simulator} {handle : Handle} {size : UInt64}
    (handed : simulator.HandedOut handle size) : handle ∈ simulator.buffers := by
  obtain ⟨buffer, found, -⟩ := Option.map_eq_some_iff.mp handed.sized
  exact Std.ExtTreeMap.mem_iff_isSome_getElem?.mpr (found ▸ rfl)

/-- A live buffer that was handed out has its size. -/
theorem HandedOut.size_of_live {simulator : Simulator} {handle : Handle} {size : UInt64}
    (handed : simulator.HandedOut handle size) {buffer : SimulatedBuffer}
    (lives : simulator.live? handle = some buffer) : buffer.size = size := by
  have found := (Option.filter_eq_some_iff.mp lives).1
  have sized := handed.sized
  rw [found] at sized
  exact Option.some.inj sized

/-- A buffer that is allocated is handed out with the size that was asked for. -/
theorem allocate_handedOut {simulator after : Simulator} {size : UInt64} {handle : Handle}
    (made : allocate size simulator = (.ok handle, after)) : after.HandedOut handle size := by
  rcases allocate_cases size simulator with ⟨_, _, _, -, failed⟩ | ⟨_, -, more, given⟩
  · simp [failed] at made
  · obtain ⟨same, rfl⟩ := Prod.mk.inj (given.symm.trans made)
    obtain rfl := Except.ok.inj same
    refine ⟨more, ?_⟩
    simp only [withBuffer, Std.ExtTreeMap.getElem?_insert_self, Option.map_some]

/-- The address that a buffer was handed out at, and its size, live or not. -/
def extent? (simulator : Simulator) (handle : Handle) : Option (UInt64 × UInt64) :=
  simulator.buffers[handle]?.map fun buffer => (buffer.address, buffer.size)

/-- Every request leaves the extent of a buffer whose handle is not to come. -/
theorem extent?_respond {simulator : Simulator} {handle : Handle}
    (earlier : handle < simulator.nextHandle) (request : Request) :
    handle < (simulator.respond request).nextHandle ∧
      (simulator.respond request).extent? handle = simulator.extent? handle := by
  by_cases quiet : request.quiet = true
  · have same := respond_sameTenure simulator request quiet
    refine ⟨same.nextHandle ▸ earlier, ?_⟩
    have frames := congrArg (Option.map fun frame => (frame.1, frame.2.1)) (same.frames handle)
    rw [Option.map_map, Option.map_map] at frames
    exact frames
  · cases request with
    | call call =>
      cases call with
      | allocate asked flags =>
        change handle < (allocate asked simulator).2.nextHandle ∧
          (allocate asked simulator).2.extent? handle = _
        rcases allocate_cases asked simulator with ⟨_, _, _, later, made⟩ | ⟨_, -, more, made⟩
        · rw [made]
          exact ⟨UInt32.lt_of_lt_of_le earlier later, rfl⟩
        · rw [made]
          refine ⟨UInt32.lt_trans earlier more, ?_⟩
          have other : simulator.nextHandle ≠ handle :=
            fun same => UInt32.lt_irrefl _ (same ▸ earlier)
          simp only [extent?, withBuffer, Std.ExtTreeMap.getElem?_insert,
            Std.LawfulEqCmp.compare_eq_iff_eq, if_neg other]
      | release released =>
        change handle < (release released simulator).2.nextHandle ∧
          (release released simulator).2.extent? handle = _
        by_cases lives : (simulator.live? released).isSome = true
        · rw [release_of_live lives]
          refine ⟨earlier, ?_⟩
          rw [extent?, extent?, withoutBuffer, count, buffers_changeBuffer, Option.map_map]
          congr 1
          funext buffer
          rw [Function.comp_apply]
          split <;> rfl
        · rw [release_of_gone (Option.not_isSome_iff_eq_none.mp lives)]
          exact ⟨earlier, rfl⟩
      | _ => exact absurd rfl quiet
    | _ => exact absurd rfl quiet

/-- So it stays wherever requests take the device. -/
theorem Reaches.extent? {first second : Simulator} (reached : first.Reaches second)
    {handle : Handle} (earlier : handle < first.nextHandle) :
    handle < second.nextHandle ∧ second.extent? handle = first.extent? handle := by
  have step : ∀ (simulator : Simulator) request,
      handle < simulator.nextHandle ∧ simulator.extent? handle = first.extent? handle →
        handle < (simulator.respond request).nextHandle ∧
          (simulator.respond request).extent? handle = first.extent? handle := by
    intro simulator request kept
    obtain ⟨still, same⟩ := extent?_respond kept.1 request
    exact ⟨still, same.trans kept.2⟩
  exact reached.keeps step ⟨earlier, rfl⟩

/-- What was handed out has its size after every request. -/
theorem HandedOut.respond {simulator : Simulator} {handle : Handle} {size : UInt64}
    (handed : simulator.HandedOut handle size) (request : Request) :
    (simulator.respond request).HandedOut handle size := by
  have sized : ∀ device : Simulator, device.buffers[handle]?.map SimulatedBuffer.size =
      (device.extent? handle).map Prod.snd := by
    intro device
    rw [extent?, Option.map_map]
    rfl
  obtain ⟨earlier, same⟩ := extent?_respond handed.earlier request
  refine ⟨earlier, ?_⟩
  rw [sized, same, ← sized, handed.sized]

/-- So it has wherever requests take the device. -/
theorem Reaches.handedOut {first second : Simulator} (reached : first.Reaches second)
    {handle : Handle} {size : UInt64} (handed : first.HandedOut handle size) :
    second.HandedOut handle size := by
  have step : ∀ (simulator : Simulator) request, simulator.HandedOut handle size →
      (simulator.respond request).HandedOut handle size :=
    fun _ request kept => kept.respond request
  exact reached.keeps step handed

end HostChannel.Simulator

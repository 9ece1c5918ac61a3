import HostChannel.Proofs.Session.Holders
import HostChannel.Proofs.Session.Stock

/-!
# Operations that change nothing in memory

Making windows, giving buffers up, reading, and making writes visible change no byte that a view
could show, make no view and ask the device for none. Neither does allocating: what is new holds
zeros and has no view. `SameViews` says so of the sessions before and after, so that what was
written and what was mapped has to be followed only over writes and over calls for a view.
-/

namespace HostChannel

open HostChannel.Action (Moves)

namespace Simulator

/-- Every buffer holds the bytes that it held, and handles only go on. -/
structure SameBytes (first second : Simulator) : Prop where
  /-- The bytes are the same. -/
  bytes : ∀ handle position,
    (second.contents handle).byte position = (first.contents handle).byte position
  /-- No handle comes again. -/
  later : first.nextHandle ≤ second.nextHandle

instance : IsPreorder Simulator SameBytes where
  refl _ := ⟨fun _ _ => rfl, UInt32.le_refl _⟩
  trans _ _ _ earlier later :=
    ⟨fun handle position => (later.bytes handle position).trans (earlier.bytes handle position),
      UInt32.le_trans earlier.later later.later⟩

/-- Counting changes no byte. -/
theorem OnlyCounted.sameBytes {first second : Simulator} (counted : first.OnlyCounted second) :
    first.SameBytes second := by
  rw [counted]
  exact ⟨fun _ _ => rfl, UInt32.le_refl _⟩

/-- A buffer that is released keeps its bytes. -/
theorem release_sameBytes (handle : Handle) : Moves SameBytes (release handle) := by
  refine Moves.bind (fun simulator => ?_) fun _ => Moves.update fun simulator => ⟨?_, ?_⟩
  · rw [← findBuffer_moves handle simulator]
    exact refl_of SameBytes simulator
  · intro other position
    simp only [contents, count, buffers_changeBuffer, Option.map_map, Function.comp_def]
    congr 3
    funext buffer
    split <;> rfl
  · exact UInt32.le_refl _

/-- A new buffer holds zeros, as it seems to before it is there. -/
theorem allocate_sameBytes {simulator : Simulator}
    (below : ∀ handle ∈ simulator.buffers, handle < simulator.nextHandle) (size : UInt64) :
    simulator.SameBytes (allocate size simulator).2 := by
  rcases allocate_cases size simulator with ⟨_, _, _, later, made⟩ | ⟨_, -, more, made⟩
  · rw [made]
    exact ⟨fun _ _ => rfl, later⟩
  · rw [made]
    refine ⟨fun handle position => ?_, UInt32.le_of_lt more⟩
    simp only [contents, withBuffer, Std.ExtTreeMap.getElem?_insert,
      Std.LawfulEqCmp.compare_eq_iff_eq]
    split
    · rename_i same
      have absent : simulator.buffers[handle]? = none :=
        Std.ExtTreeMap.getElem?_eq_none fun present =>
          UInt32.lt_irrefl _ (same ▸ below handle present)
      rw [absent, Option.map_none, Option.getD_none, Option.map_some, Option.getD_some,
        Memory.byte_zeroed, Memory.byte_zeroed]
    · rfl

end Simulator

namespace Instrumented

/-- The device inside holds the same bytes, and no view was asked for. -/
structure SameMemory (first second : Instrumented Simulator) : Prop where
  /-- The bytes are the same. -/
  inner : first.inner.SameBytes second.inner
  /-- No view was asked for. -/
  maps : ∀ handle, second.calls.count (.map handle) = first.calls.count (.map handle)

instance : IsPreorder (Instrumented Simulator) SameMemory where
  refl device := ⟨refl_of Simulator.SameBytes device.inner, fun _ => rfl⟩
  trans _ _ _ earlier later :=
    ⟨trans_of Simulator.SameBytes earlier.inner later.inner,
      fun handle => (later.maps handle).trans (earlier.maps handle)⟩

/-- What is passed on asks for no view. -/
theorem passOn_sameMemory {α : Type} {action : Action Simulator α}
    (goes : Moves Simulator.SameBytes action) : Moves SameMemory (passOn action) :=
  fun device => ⟨goes device.inner, fun _ => rfl⟩

/-- A recorded call that asks for no view changes nothing if what is made of it does not. -/
theorem observe_apply_sameMemory {α : Type} {call : Call} (other : call.method ≠ .map)
    {action : Action (Instrumented Simulator) α} {device : Instrumented Simulator}
    (goes : SameMemory (device.record call) (action (device.record call)).2) :
    SameMemory device (observe call action device).2 := by
  have recorded : SameMemory device (device.record call) := by
    refine ⟨refl_of Simulator.SameBytes device.inner, fun handle => ?_⟩
    have different : (call == Call.map handle) = false :=
      beq_false_of_ne fun same => other (same ▸ rfl)
    simp [record, Array.count_push, different]
  simp only [observe]
  split
  · exact ⟨recorded.inner, recorded.maps⟩
  · exact trans_of SameMemory recorded goes

/-- So does a call wherever it is made. -/
theorem observe_sameMemory {α : Type} {call : Call} (other : call.method ≠ .map)
    {action : Action (Instrumented Simulator) α} (goes : Moves SameMemory action) :
    Moves SameMemory (observe call action) :=
  fun _ => observe_apply_sameMemory other (goes _)

/-- Releasing a buffer changes nothing in memory. -/
theorem release_sameMemory (handle : Handle) :
    Moves SameMemory (Device.release handle : Action (Instrumented Simulator) Unit) :=
  observe_sameMemory (by simp [Call.method])
    (passOn_sameMemory (Simulator.release_sameBytes handle))

/-- Making the processor's writes visible does not. -/
theorem flush_sameMemory (handle : Handle) (offset length : UInt64) :
    Moves SameMemory
      (Device.flush handle offset length : Action (Instrumented Simulator) Unit) :=
  observe_sameMemory (by simp [Call.method]) (unlessPretended_moves handle
    (passOn_sameMemory fun simulator =>
      (Simulator.flush_onlyCounted handle offset length simulator).sameBytes))

/-- Making the device's writes visible does not. -/
theorem invalidate_sameMemory (handle : Handle) (offset length : UInt64) :
    Moves SameMemory
      (Device.invalidate handle offset length : Action (Instrumented Simulator) Unit) :=
  observe_sameMemory (by simp [Call.method]) (unlessPretended_moves handle
    (passOn_sameMemory fun simulator =>
      (Simulator.invalidate_onlyCounted handle offset length simulator).sameBytes))

/-- Allocating a buffer does not either, and the handle of the buffer is new. -/
theorem allocate_sameMemory {device : Instrumented Simulator} (plain : device.Plain)
    (below : ∀ handle ∈ device.inner.buffers, handle < device.inner.nextHandle) (size : UInt64)
    (flags : BufferFlags) :
    SameMemory device (Device.allocate size flags device).2 ∧
      ∀ handle, (Device.allocate size flags device).1 = .ok handle →
        device.inner.nextHandle ≤ handle := by
  have recorded : (device.record (.allocate size flags)).Plain :=
    ⟨plain.honest, plain.pretended, plain.whole⟩
  have run := allocateOrPretend_of_plain recorded size flags
  refine ⟨observe_apply_sameMemory (by simp [Call.method]) ?_, fun handle given => ?_⟩
  · rw [run]
    exact ⟨Simulator.allocate_sameBytes below size, fun _ => rfl⟩
  · change (observe _ _ device).1 = _ at given
    simp only [observe, run] at given
    split at given
    · contradiction
    · change (Simulator.allocate size device.inner).1 = .ok handle at given
      rcases Simulator.allocate_cases size device.inner with ⟨_, _, _, -, made⟩ | ⟨_, -, -, made⟩
      · rw [made] at given
        contradiction
      · rw [made] at given
        exact UInt32.le_of_eq (Except.ok.inj given)

end Instrumented

namespace Host

/-- The device holds the same bytes and was asked for no view, and the second host has the views of
the first, for those allocations that it still has. What is new has none. -/
structure SameViews (first second : Host (Instrumented Simulator)) : Prop where
  /-- The memory is the same. -/
  device : first.device.SameMemory second.device
  /-- Serial numbers only go on. -/
  later : first.nextSerial ≤ second.nextSerial
  /-- An allocation has the view that it had, or is new. -/
  regions : ∀ (serial : Nat) (sharing : Sharing), second.sharings[serial]? = some sharing →
    first.sharings[serial]?.map Sharing.region = some sharing.region ∨
      first.nextSerial ≤ serial ∧ sharing.region = none

instance : IsPreorder (Host (Instrumented Simulator)) SameViews where
  refl host := by
    refine ⟨refl_of Instrumented.SameMemory host.device, Nat.le_refl _, fun _ _ found => .inl ?_⟩
    rw [found, Option.map_some]
  trans _ _ _ earlier later := by
    refine ⟨trans_of Instrumented.SameMemory earlier.device later.device,
      Nat.le_trans earlier.later later.later, fun serial sharing found => ?_⟩
    rcases later.regions serial sharing found with kept | ⟨new, none⟩
    · obtain ⟨between, held, same⟩ := Option.map_eq_some_iff.mp kept
      rw [← same]
      exact earlier.regions serial between held
    · exact .inr ⟨Nat.le_trans earlier.later new, none⟩

/-- Holders may be counted without a change of views. -/
theorem modify_sameViews (host : Host (Instrumented Simulator)) (serial : Nat)
    {change : Sharing → Sharing} (same : ∀ sharing, (change sharing).region = sharing.region) :
    host.SameViews { host with sharings := host.sharings.modify serial change } := by
  refine ⟨refl_of Instrumented.SameMemory host.device, Nat.le_refl _,
    fun other sharing found => .inl ?_⟩
  rw [Std.ExtTreeMap.getElem?_modify] at found
  split at found
  · rename_i equal
    obtain ⟨before, held, rfl⟩ := Option.map_eq_some_iff.mp found
    rw [← Std.LawfulEqCmp.eq_of_compare equal, held, Option.map_some, same]
  · rw [found, Option.map_some]

/-- An action on the device that changes nothing in memory changes no view. -/
theorem onDevice_sameViews {α : Type} {action : Action (Instrumented Simulator) α}
    (goes : Moves Instrumented.SameMemory action) : Moves SameViews (onDevice action) :=
  fun host => ⟨goes host.device, Nat.le_refl _, (refl_of SameViews host).regions⟩

/-- One holder less is no change of a view; with the last one the view is gone. -/
theorem letGo_sameViews (allocation : Allocation) : Moves SameViews (letGo allocation) := by
  intro host
  rw [letGo]
  split
  · refine trans_of SameViews ?_ (onDevice_sameViews
      (Moves.regardless (Instrumented.release_sameMemory allocation.handle)) _)
    refine ⟨refl_of Instrumented.SameMemory host.device, Nat.le_refl _,
      fun other sharing found => ?_⟩
    exact (refl_of SameViews host).regions other sharing (Slots.of_getElem?_erase found).2
  · exact host.modify_sameViews allocation.serial fun _ => rfl

/-- A window is one more holder. -/
theorem window_sameViews (buffer : Buffer) (offset length : UInt64) :
    Moves SameViews (buffer.window offset length) :=
  Moves.bind (Moves.check _) fun _ => Moves.bind
    (Moves.update fun host => host.modify_sameViews buffer.allocation.serial fun _ => rfl)
    fun _ => Moves.pure _

/-- Allocating changes no view, and the allocation that is made is a new one. -/
theorem allocate_sameViews {host : Host (Instrumented Simulator)} (plain : host.device.Plain)
    (below : ∀ handle ∈ host.device.inner.buffers, handle < host.device.inner.nextHandle)
    (size : UInt64) (flags : BufferFlags) :
    host.SameViews (Buffer.allocate size flags host).2 ∧
      ∀ buffer, (Buffer.allocate size flags host).1 = .ok buffer →
        host.nextSerial ≤ buffer.allocation.serial ∧
          host.device.inner.nextHandle ≤ buffer.handle := by
  by_cases zero : size = 0
  · rw [Buffer.allocate, if_pos zero]
    exact ⟨refl_of SameViews host, fun _ given => by contradiction⟩
  · obtain ⟨same, new⟩ := Instrumented.allocate_sameMemory plain below size flags
    rw [allocate_apply zero]
    cases made : Device.allocate size flags host.device with
    | mk outcome device =>
      rw [made] at same new
      cases outcome with
      | error failure =>
        exact ⟨⟨same, Nat.le_refl _, (refl_of SameViews host).regions⟩,
          fun _ given => by contradiction⟩
      | ok handle =>
        refine ⟨⟨same, Nat.le_succ _, fun serial sharing found => ?_⟩, fun buffer given => ?_⟩
        · simp only [addAllocation, Std.ExtTreeMap.getElem?_insert] at found
          split at found
          · rename_i equal
            obtain rfl := Option.some.inj found
            exact .inr ⟨Nat.le_of_eq (Std.LawfulEqCmp.eq_of_compare equal), rfl⟩
          · exact (refl_of SameViews host).regions serial sharing found
        · obtain rfl := Except.ok.inj given
          exact ⟨Nat.le_refl _, new handle rfl⟩

end Host

namespace Session

/-- The host has the same views, and the buffers of the second session are on allocations that the
first has buffers on, or on new ones. -/
structure SameViews (first second : Session) : Prop where
  /-- The host has the same views. -/
  host : first.host.SameViews second.host
  /-- A buffer is on an allocation that there was, or on a new one. -/
  buffers : ∀ (name : String) (buffer : Buffer), second.buffers[name]? = some buffer →
    (∃ (other : String) (before : Buffer), first.buffers[other]? = some before ∧
        before.allocation = buffer.allocation) ∨
      first.host.nextSerial ≤ buffer.allocation.serial ∧
        first.simulator.nextHandle ≤ buffer.handle

instance : IsPreorder Session SameViews where
  refl session := ⟨refl_of Host.SameViews session.host,
    fun name buffer found => .inl ⟨name, buffer, found, rfl⟩⟩
  trans _ _ _ earlier later := by
    refine ⟨trans_of Host.SameViews earlier.host later.host, fun name buffer found => ?_⟩
    rcases later.buffers name buffer found with ⟨other, before, held, same⟩ | ⟨serial, handle⟩
    · rw [Buffer.handle, ← same]
      exact earlier.buffers other before held
    · exact .inr ⟨Nat.le_trans earlier.host.later serial,
        UInt32.le_trans earlier.host.device.inner.later handle⟩

/-- An action on the host that changes no view changes none of the session. -/
theorem onHost_sameViews {α : Type} {action : Action (Host (Instrumented Simulator)) α}
    (goes : Moves Host.SameViews action) : Moves SameViews (onHost action) :=
  fun session => ⟨goes session.host, (refl_of SameViews session).buffers⟩

/-- Nor does one on the device that changes nothing in memory. -/
theorem onDevice_sameViews {α : Type} {action : Action (Instrumented Simulator) α}
    (goes : Moves Instrumented.SameMemory action) : Moves SameViews (onDevice action) :=
  onHost_sameViews (Host.onDevice_sameViews goes)

/-- Naming a mapping changes no view. -/
theorem keepMapping_sameViews (name : Option String) (mapping : Mapping) :
    Moves SameViews (keepMapping name mapping) := by
  cases name with
  | none => exact Moves.pure ()
  | some name =>
    exact Moves.update fun session =>
      ⟨refl_of Host.SameViews session.host, (refl_of SameViews session).buffers⟩

/-- A buffer on an allocation that there was, or on a new one, may be named. -/
theorem keepBuffer_sameViews {first session : Session} (moved : first.SameViews session)
    (name : String) {buffer : Buffer}
    (known : (∃ (other : String) (before : Buffer), first.buffers[other]? = some before ∧
        before.allocation = buffer.allocation) ∨
      first.host.nextSerial ≤ buffer.allocation.serial ∧
        first.simulator.nextHandle ≤ buffer.handle) :
    first.SameViews (keepBuffer name buffer session).2 := by
  have named : first.SameViews
      { session with buffers := session.buffers.insert name buffer } := by
    refine ⟨moved.host, fun other held found => ?_⟩
    rcases Slots.of_getElem?_insert found with ⟨-, rfl⟩ | before
    · exact known
    · exact moved.buffers other held before
  refine trans_of SameViews named ?_
  change SameViews _ (giveUp releaseBuffer session.buffers[name]?
    { session with buffers := session.buffers.insert name buffer }).2
  cases session.buffers[name]? with
  | none => exact refl_of SameViews _
  | some old => exact onHost_sameViews (Host.letGo_sameViews old.allocation) _

/-- Making a window changes no view: it is on the allocation of the buffer that it is put on. -/
theorem window_sameViews (name buffer : String) (offset length : UInt64) :
    Moves SameViews (bufferOperation (.window name buffer offset length)) := by
  intro session
  rw [bufferOperation, findBuffer]
  cases found : session.buffers[buffer]? with
  | none =>
    rw [Action.bind_apply_of_error (find_of_none found)]
    exact refl_of SameViews session
  | some parent =>
    have moved := onHost_sameViews (Host.window_sameViews parent offset length) session
    rw [Action.bind_apply_of_ok (find_of_some found)]
    cases run : onHost (parent.window offset length) session with
    | mk outcome between =>
      rw [run] at moved
      cases outcome with
      | error failure => rwa [Action.bind_apply_of_error run]
      | ok made =>
        rw [Action.bind_apply_of_ok run, describeBuffer, Action.read_bind, Action.bind_pure_leaves]
        have outcome := congrArg Prod.fst run
        have host := congrArg (fun run => run.2.host) run
        have given : parent.window offset length session.host = (.ok made, between.host) :=
          Prod.ext outcome host
        have same := Buffer.allocation_of_window? (Buffer.window_eq_ok_iff.mp given).1
        exact keepBuffer_sameViews moved name (.inl ⟨buffer, parent, found, same.symm⟩)

/-- Allocating changes no view: what is new has none. -/
theorem allocate_sameViews {session : Session} (plain : session.device.Plain)
    (below : ∀ handle ∈ session.simulator.buffers, handle < session.simulator.nextHandle)
    (name : String) (size : UInt64) (flags : BufferFlags) :
    session.SameViews (bufferOperation (.allocate name size flags false) session).2 := by
  obtain ⟨same, new⟩ := Host.allocate_sameViews plain below size flags
  have kept := Instrumented.movesBy_plain.toBesideChannelsBy.bufferAllocate size flags session.host
    plain
  have run := allocateBuffer_apply plain size flags kept
  rw [bufferOperation]
  cases made : Buffer.allocate size flags session.host with
  | mk outcome host =>
    rw [made] at same new
    have moved : session.SameViews { session with host } :=
      ⟨same, (refl_of SameViews session).buffers⟩
    rw [onHost_run made] at run
    cases outcome with
    | error failure => rwa [Action.bind_apply_of_error run]
    | ok buffer =>
      rw [Action.bind_apply_of_ok run, describeBuffer, Action.read_bind, Action.bind_pure_leaves]
      exact keepBuffer_sameViews moved name (.inr (new buffer rfl))

/-- Giving a buffer up changes no view of those that are left. -/
theorem release_sameViews (buffer : String) :
    Moves SameViews (bufferOperation (.release buffer)) := by
  refine Moves.bind (find_moves _ _) fun released => Moves.bind (Moves.update fun session => ?_)
    fun _ => Moves.bind (onHost_sameViews (Host.letGo_sameViews _)) fun _ => Moves.pure _
  refine ⟨refl_of Host.SameViews session.host, fun name held found => ?_⟩
  exact .inl ⟨name, held, (Slots.of_getElem?_erase found).2, rfl⟩

/-- Operations on buffers that neither allocate nor ask for a view change none. -/
theorem bufferOperation_sameViews (operation : BufferOperation)
    (allocates : ∀ name size flags pretending, operation ≠ .allocate name size flags pretending)
    (maps : ∀ name buffer, operation ≠ .map name buffer) :
    Moves SameViews (bufferOperation operation) := by
  cases operation with
  | allocate name size flags pretending => exact absurd rfl (allocates name size flags pretending)
  | map name buffer => exact absurd rfl (maps name buffer)
  | window name buffer offset length => exact window_sameViews name buffer offset length
  | release buffer => exact release_sameViews buffer
  | describe buffer => exact Moves.bind (find_moves _ _) fun _ => Moves.read _
  | sharesAllocation first second =>
    exact Moves.bind (find_moves _ _) fun _ => Moves.bind (find_moves _ _) fun _ => Moves.pure _
  | flush buffer offset length =>
    exact Moves.bind (find_moves _ _) fun _ => Moves.bind (onDevice_sameViews (Moves.bind
      (Moves.check _) fun _ => Instrumented.flush_sameMemory _ _ _)) fun _ => Moves.pure _
  | invalidate buffer offset length =>
    exact Moves.bind (find_moves _ _) fun _ => Moves.bind (onDevice_sameViews (Moves.bind
      (Moves.check _) fun _ => Instrumented.invalidate_sameMemory _ _ _)) fun _ => Moves.pure _
  | mapping name buffer =>
    refine Moves.bind (find_moves _ _) fun _ => Moves.bind (Moves.read _) fun mapping => ?_
    cases mapping with
    | none => exact Moves.pure _
    | some mapping => exact Moves.bind (keepMapping_sameViews name mapping) fun _ => Moves.pure _

/-- Putting a failure in store changes nothing in memory. -/
theorem arm_sameViews (method : Method) (fault : Fault) :
    Moves SameViews (instrumentOperation (.arm method fault)) :=
  Moves.bind (onDevice_sameViews (Moves.update fun device =>
    ⟨refl_of Simulator.SameBytes device.inner, fun _ => rfl⟩)) fun _ => Moves.pure _

end Session

end HostChannel

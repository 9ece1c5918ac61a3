import HostChannel.Proofs.Session.Reach
import HostChannel.Proofs.Simulator.Tenure

/-!
# Buffers in use

A buffer that a device has handed out is in use until it is released. `InUse` says so of the
instrumented device: the buffers in use are the live ones, and of the others that were handed out
each has been released by one call. Allocating takes a new buffer into use, releasing takes it out
of use, and all other methods leave the buffers in use as they are.
-/

namespace HostChannel

open HostChannel.Action (Moves Preserves)

namespace Simulator

/-- The methods of the simulated device but allocating and releasing keep the tenure. -/
theorem quietBy_sameTenure : Device.QuietBy SameTenure :=
  quietBy_of_respond respond_sameTenure

end Simulator

namespace Instrumented

variable {α : Type}

/-- Both devices have the same tenure inside, as many calls to release each buffer, and the same
failure of such calls in store. -/
structure SameTenure (first second : Instrumented Simulator) : Prop where
  /-- The devices inside have the same tenure. -/
  inner : first.inner.SameTenure second.inner
  /-- As many calls released each buffer. -/
  released : ∀ handle, second.calls.count (.release handle) = first.calls.count (.release handle)
  /-- The failure in store is the same. -/
  fault : second.faults.lookup .release = first.faults.lookup .release

instance : IsPreorder (Instrumented Simulator) SameTenure where
  refl device := ⟨refl_of Simulator.SameTenure device.inner, fun _ => rfl, rfl⟩
  trans _ _ _ earlier later :=
    ⟨trans_of Simulator.SameTenure earlier.inner later.inner,
      fun handle => (later.released handle).trans (earlier.released handle),
      later.fault.trans earlier.fault⟩

/-- A call that is not a release is counted as none. -/
theorem record_sameTenure (device : Instrumented Simulator) {call : Call}
    (other : call.method ≠ .release) : device.SameTenure (device.record call) := by
  refine ⟨refl_of Simulator.SameTenure device.inner, fun handle => ?_, rfl⟩
  rw [record, Array.count_push_of_ne]
  rintro rfl
  exact other rfl

/-- A failure of one method in store is no failure of another. -/
theorem arm_sameTenure (device : Instrumented Simulator) {method : Method}
    (other : method ≠ .release) (fault : Fault) : device.SameTenure (device.arm method fault) := by
  refine ⟨refl_of Simulator.SameTenure device.inner, fun _ => rfl, ?_⟩
  have kept : ∀ faults : List (Method × Fault),
      (faults.filter fun entry => entry.1 ≠ method).lookup .release = faults.lookup .release := by
    intro faults
    induction faults with
    | nil => rfl
    | cons entry rest ih =>
      by_cases same : entry.1 = method
      · have different : (Method.release == entry.1) = false := by
          rw [same]
          exact beq_false_of_ne other.symm
        rw [List.filter_cons_of_neg (by simp [same]), ih, List.lookup_cons, different]
      · rw [List.filter_cons_of_pos (by simp [same]), List.lookup_cons, List.lookup_cons, ih]
  rw [arm, List.lookup_cons, beq_false_of_ne other.symm]
  exact kept device.faults

/-- What is passed on keeps the tenure if it does inside. -/
theorem passOn_sameTenure {action : Action Simulator α}
    (goes : Moves Simulator.SameTenure action) : Moves SameTenure (passOn action) :=
  fun device => ⟨goes device.inner, fun _ => rfl, rfl⟩

/-- A recorded call keeps the tenure if it is not a release and what is made of it does. -/
theorem observe_sameTenure (call : Call) {action : Action (Instrumented Simulator) α}
    (other : call.method ≠ .release) (goes : Moves SameTenure action) :
    Moves SameTenure (observe call action) := by
  intro device
  have recorded := record_sameTenure device other
  simp only [observe]
  split
  · exact trans_of SameTenure recorded (arm_sameTenure _ other _)
  · exact trans_of SameTenure recorded (goes _)

/-- So the tenure around is that inside. -/
theorem surrounds_sameTenure : Surrounds SameTenure Simulator.SameTenure where
  passOn := passOn_sameTenure
  observe := observe_sameTenure
  unshorten device := ⟨refl_of Simulator.SameTenure device.inner, fun _ => rfl, rfl⟩
  keep device _ _ := ⟨refl_of Simulator.SameTenure device.inner, fun _ => rfl, rfl⟩

/-- The methods of the device but allocating and releasing keep the tenure. -/
theorem quietBy_sameTenure : Device.QuietBy SameTenure :=
  surrounds_sameTenure.quietBy Simulator.quietBy_sameTenure

/-- The buffers in use are those that are live, and they are `count`. Of the others, each that was
handed out has been released by one call, and no call has released any other; and no release is to
fail. -/
structure InUse (used : Handle → Prop) (count : Nat) (device : Instrumented Simulator) : Prop where
  /-- What is in use is live, and nothing else is. -/
  live : ∀ handle, (device.inner.live? handle).isSome = true ↔ used handle
  /-- What is no longer in use was released once. -/
  released : ∀ handle ∈ device.inner.buffers, ¬used handle →
    device.calls.count (.release handle) = 1
  /-- Nothing else was released. -/
  unreleased : ∀ handle, used handle ∨ handle ∉ device.inner.buffers →
    device.calls.count (.release handle) = 0
  /-- The next buffer gets a new handle. -/
  below : ∀ handle ∈ device.inner.buffers, handle < device.inner.nextHandle
  /-- So many more were allocated than released. -/
  books : device.inner.statistics.allocations = device.inner.statistics.releases + count
  /-- No release is to fail. -/
  calm : device.faults.lookup .release = none

variable {used : Handle → Prop} {count : Nat}

/-- On a new device nothing is in use. -/
theorem inUse_initial (settings : SimulatorSettings) :
    (ofDevice (.initial settings)).InUse (fun _ => False) 0 := by
  refine ⟨fun handle => ?_, fun handle member => ?_, fun _ _ => rfl, fun handle member => ?_, rfl,
    rfl⟩
  · simp [ofDevice, Simulator.live?, Simulator.initial]
  · simp [ofDevice, Simulator.initial] at member
  · simp [ofDevice, Simulator.initial] at member

/-- What is in use may be said in another way. -/
theorem InUse.congr {other : Handle → Prop} {device : Instrumented Simulator}
    (use : device.InUse used count) (same : ∀ handle, used handle ↔ other handle) :
    device.InUse other count := by
  have equal : used = other := funext fun handle => propext (same handle)
  rwa [← equal]

/-- The same tenure keeps the same buffers in use. -/
theorem SameTenure.inUse {first second : Instrumented Simulator} (same : first.SameTenure second) :
    Preserves (InUse used count) first second := by
  intro use
  have present := same.inner.mem_iff
  refine ⟨fun handle => ?_, fun handle member free => ?_, fun handle kept => ?_,
    fun handle member => ?_, ?_, same.fault.trans use.calm⟩
  · rw [Simulator.isSome_live?, same.inner.frames, ← Simulator.isSome_live?]
    exact use.live handle
  · rw [same.released]
    exact use.released handle ((present handle).mp member) free
  · rw [same.released]
    rw [present] at kept
    exact use.unreleased handle kept
  · rw [same.inner.nextHandle]
    exact use.below handle ((present handle).mp member)
  · rw [same.inner.allocations, same.inner.releases]
    exact use.books

/-- The methods of the device but allocating and releasing keep the buffers in use. -/
theorem quietBy_inUse : Device.QuietBy (Preserves (InUse used count)) :=
  quietBy_sameTenure.mono fun _ _ same => same.inUse

/-- What is in use was handed out. -/
theorem InUse.mem {device : Instrumented Simulator} (use : device.InUse used count)
    {handle : Handle} (holds : used handle) : handle ∈ device.inner.buffers :=
  Simulator.mem_of_live? ((use.live handle).mpr holds)

/-- A buffer that is released is in use no more; the call succeeds. -/
theorem release_inUse {device : Instrumented Simulator} (use : device.InUse used (count + 1))
    {handle : Handle} (holds : used handle) :
    ∃ after, Device.release handle device = (.ok (), after) ∧
      after.InUse (fun other => used other ∧ other ≠ handle) count := by
  have armed : (device.record (.release handle)).fault? .release = none := by
    rw [fault?, record, use.calm]
    rfl
  have run : Device.release handle device =
      (.ok (), { device.record (.release handle) with
        inner := device.inner.withoutBuffer handle }) := by
    change observe (.release handle) (passOn (Simulator.release handle)) device = _
    simp only [observe, Call.method, armed, passOn, Action.within_apply]
    rw [show (device.record (.release handle)).inner = device.inner from rfl,
      Simulator.release_of_live ((use.live handle).mpr holds)]
  have counted : ∀ other, (device.calls.push (.release handle)).count (.release other) =
      device.calls.count (.release other) + if other = handle then 1 else 0 := by
    intro other
    rw [Array.count_push]
    by_cases same : other = handle
    · simp [same]
    · simp [same, Ne.symm same]
  refine ⟨_, run, fun other => ?_, fun other member free => ?_, fun other kept => ?_,
    fun other member => use.below other (Std.ExtTreeMap.mem_modify.mp member), ?_, use.calm⟩
  · rw [Simulator.live?_withoutBuffer]
    split
    · rename_i same
      simp [same]
    · rename_i different
      rw [use.live]
      exact (and_iff_left different).symm
  · change (device.calls.push (.release handle)).count (.release other) = 1
    rw [counted]
    by_cases same : other = handle
    · rw [if_pos same, use.unreleased other (.inl (same ▸ holds))]
    · rw [if_neg same, Nat.add_zero]
      exact use.released other (Std.ExtTreeMap.mem_modify.mp member) fun holds => free ⟨holds, same⟩
  · change (device.calls.push (.release handle)).count (.release other) = 0
    have different : other ≠ handle := by
      rintro rfl
      rcases kept with ⟨-, different⟩ | absent
      · exact different rfl
      · exact absent (Std.ExtTreeMap.mem_modify.mpr (use.mem holds))
    rw [counted, if_neg different, Nat.add_zero]
    refine use.unreleased other (kept.imp And.left fun absent member => ?_)
    exact absent (Std.ExtTreeMap.mem_modify.mpr member)
  · have books := use.books
    change device.inner.statistics.allocations = device.inner.statistics.releases + 1 + count
    omega

/-- Whether sizes are pretended or not, allocating passes an allocation on and changes neither the
calls nor the failures in store. -/
theorem allocateOrPretend_leaves (size : UInt64) (flags : BufferFlags)
    (device : Instrumented Simulator) :
    ∃ bytes, (allocateOrPretend size flags device).1 = (Simulator.allocate bytes device.inner).1 ∧
      (allocateOrPretend size flags device).2.inner = (Simulator.allocate bytes device.inner).2 ∧
      (allocateOrPretend size flags device).2.calls = device.calls ∧
      (allocateOrPretend size flags device).2.faults = device.faults := by
  cases pretends : device.pretending with
  | false =>
    have run :
        allocateOrPretend size flags device = passOn (Device.allocate size flags) device := by
      simp only [allocateOrPretend, Action.bind_apply, Action.read_apply, pretends,
        Bool.false_eq_true, if_false]
    rw [run]
    exact ⟨size, rfl, rfl, rfl, rfl⟩
  | true =>
    have run : allocateOrPretend size flags device = pretend size flags device := by
      simp only [allocateOrPretend, Action.bind_apply, Action.read_apply, pretends, if_true]
    refine ⟨pretendedBytes, ?_⟩
    rw [run]
    change _ = ((Device.allocate pretendedBytes flags : Action Simulator Handle) device.inner).1 ∧
      _ = ((Device.allocate pretendedBytes flags : Action Simulator Handle) device.inner).2 ∧ _
    cases made : (Device.allocate pretendedBytes flags : Action Simulator Handle) device.inner with
    | mk outcome inner =>
      have passed : passOn (Device.allocate pretendedBytes flags) device =
          (outcome, { device with inner }) := Action.within_run made
      cases outcome with
      | error failure =>
        rw [pretend, Action.bind_apply_of_error passed]
        exact ⟨rfl, rfl, rfl, rfl⟩
      | ok handle =>
        rw [pretend, Action.bind_apply_of_ok passed]
        exact ⟨rfl, rfl, rfl, rfl⟩

/-- An allocation that fails takes nothing into use, although a handle may be lost by it. -/
theorem InUse.skip {device after : Instrumented Simulator} (use : device.InUse used count)
    {nextHandle : Handle} {nextAddress : UInt64} (later : device.inner.nextHandle ≤ nextHandle)
    (inner : after.inner = { device.inner with nextHandle, nextAddress })
    (calls : after.calls = device.calls) (faults : after.faults = device.faults) :
    after.InUse used count := by
  refine ⟨?_, ?_, ?_, ?_, ?_, faults ▸ use.calm⟩
  · rw [inner]
    exact use.live
  · rw [inner, calls]
    exact use.released
  · rw [inner, calls]
    exact use.unreleased
  · rw [inner]
    exact fun handle member => UInt32.lt_of_lt_of_le (use.below handle member) later
  · rw [inner]
    exact use.books

/-- An allocation that succeeds takes a new buffer into use. -/
theorem InUse.take {device after : Instrumented Simulator} (use : device.InUse used count)
    {size nextAddress : UInt64} (more : device.inner.nextHandle < device.inner.nextHandle + 1)
    (inner : after.inner = device.inner.withBuffer size nextAddress)
    (calls : after.calls = device.calls) (faults : after.faults = device.faults) :
    after.InUse (fun other => used other ∨ other = device.inner.nextHandle) (count + 1) := by
  have member : ∀ handle : Handle, handle ∈ after.inner.buffers ↔
      handle = device.inner.nextHandle ∨ handle ∈ device.inner.buffers := by
    intro handle
    rw [inner, Simulator.withBuffer, Std.ExtTreeMap.mem_insert, Std.LawfulEqCmp.compare_eq_iff_eq,
      eq_comm]
  refine ⟨fun handle => ?_, fun handle present free => ?_, fun handle kept => ?_,
    fun handle present => ?_, ?_, faults ▸ use.calm⟩
  · rw [inner, Simulator.live?_withBuffer]
    split
    · rename_i same
      simp [same]
    · rename_i different
      rw [use.live]
      exact (or_iff_left different).symm
  · obtain ⟨unused, different⟩ := not_or.mp free
    rw [calls]
    exact use.released handle (((member handle).mp present).resolve_left different) unused
  · rw [calls]
    refine use.unreleased handle ?_
    rcases kept with (holds | rfl) | absent
    · exact .inl holds
    · exact .inr fun present => UInt32.lt_irrefl _ (use.below _ present)
    · exact .inr fun present => absent ((member handle).mpr (.inr present))
  · rw [inner]
    change handle < device.inner.nextHandle + 1
    rcases (member handle).mp present with rfl | old
    · exact more
    · exact UInt32.lt_trans (use.below handle old) more
  · have books := use.books
    rw [inner]
    change device.inner.statistics.allocations + 1 = device.inner.statistics.releases + (count + 1)
    omega

/-- An allocation on the device inside, which is not recorded, fails and leaves the buffers in use
as they are, or takes a new one into use. -/
theorem InUse.allocated {device after : Instrumented Simulator} (use : device.InUse used count)
    {size : UInt64} (inner : after.inner = (Simulator.allocate size device.inner).2)
    (calls : after.calls = device.calls) (faults : after.faults = device.faults) :
    (∃ failure, (Simulator.allocate size device.inner).1 = .error failure ∧
        after.InUse used count) ∨
      ∃ handle, (Simulator.allocate size device.inner).1 = .ok handle ∧ ¬used handle ∧
        after.InUse (fun other => used other ∨ other = handle) (count + 1) := by
  rcases Simulator.allocate_cases size device.inner with
    ⟨failure, nextHandle, nextAddress, later, made⟩ | ⟨nextAddress, -, more, made⟩
  · rw [made] at inner ⊢
    exact .inl ⟨failure, rfl, use.skip later inner calls faults⟩
  · rw [made] at inner ⊢
    refine .inr ⟨_, rfl, fun holds => ?_, use.take more inner calls faults⟩
    exact UInt32.lt_irrefl _ (use.below _ (use.mem holds))

/-- Allocating fails and leaves the buffers in use as they are, or takes a new one into use. -/
theorem allocate_inUse {device : Instrumented Simulator} (use : device.InUse used count)
    (size : UInt64) (flags : BufferFlags) :
    (∃ failure after, Device.allocate size flags device = (.error failure, after) ∧
        after.InUse used count) ∨
      ∃ handle after, Device.allocate size flags device = (.ok handle, after) ∧ ¬used handle ∧
        after.InUse (fun other => used other ∨ other = handle) (count + 1) := by
  have other : (Call.allocate size flags).method ≠ .release := by simp [Call.method]
  have recorded := record_sameTenure device other
  have use := recorded.inUse use
  change (∃ _ _, observe (.allocate size flags) (allocateOrPretend size flags) device = _ ∧ _) ∨
    ∃ _ _, observe (.allocate size flags) (allocateOrPretend size flags) device = _ ∧ _
  simp only [observe]
  split
  · exact .inl ⟨_, _, rfl, (arm_sameTenure _ other _).inUse use⟩
  · obtain ⟨bytes, answer, inner, calls, faults⟩ :=
      allocateOrPretend_leaves size flags (device.record (.allocate size flags))
    rcases use.allocated inner calls faults with
      ⟨failure, failed, after⟩ | ⟨handle, made, unused, after⟩
    · exact .inl ⟨failure, _, Prod.ext (answer.trans failed) rfl, after⟩
    · exact .inr ⟨handle, _, Prod.ext (answer.trans made) rfl, unused, after⟩

end Instrumented

end HostChannel

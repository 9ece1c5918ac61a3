import HostChannel.Job
import HostChannel.Proofs.Host
import HostChannel.Proofs.Tenure
import HostChannel.Proofs.Triple
import Mathlib.Algebra.Order.Group.Multiset

/-!
# Holders of allocations

Every buffer and every pushbuffer refers to an allocation. A host is settled with a multiset of such
references if it counts as many holders of each allocation as refer to it, and if the buffers in use
on its device are those that are referred to, apart from strangers that nobody refers to. Each
action on holders adds the references that it makes to the multiset and takes those away that it
gives up; an action that fails adds none.
-/

namespace HostChannel

open HostChannel.Action (Leads Moves Preserves Upholds)

/-- A buffer refers to its allocation. -/
def Buffer.references (buffer : Buffer) : Multiset Allocation :=
  {buffer.allocation}

/-- A pushbuffer refers to the allocation of its buffer. -/
def PushBuffer.references (pushbuffer : PushBuffer) : Multiset Allocation :=
  pushbuffer.buffer.references

/-- A job refers to what its pushbuffers refer to. -/
def Job.references (job : Job) : Multiset Allocation :=
  (job.pushbuffers.map PushBuffer.references).sum

namespace Host

/-- A buffer is in use if a reference is to it, or if it is a stranger, which the device has handed
out past the host. -/
def Uses (references : Multiset Allocation) (strangers : List Handle) (handle : Handle) : Prop :=
  handle ∈ references.map Allocation.handle ∨ handle ∈ strangers

/-- The holders and the device of a host are as the references say, apart from the strangers. -/
structure Settled (strangers : List Handle) (references : Multiset Allocation)
    (host : Host (Instrumented Simulator)) : Prop where
  /-- The next allocation gets a new serial number. -/
  fresh : ∀ allocation ∈ references, allocation.serial < host.nextSerial
  /-- No two allocations have the same serial number. -/
  serials : ∀ first ∈ references, ∀ second ∈ references,
    first.serial = second.serial → first = second
  /-- No two have the same handle. -/
  handles : ∀ first ∈ references, ∀ second ∈ references,
    first.handle = second.handle → first = second
  /-- An allocation that is referred to has as many holders as references, and no other has any. -/
  held : ∀ serial, host.sharings[serial]?.map Sharing.holders =
    (some ((references.map Allocation.serial).count serial)).filter (0 < ·)
  /-- No reference is to a stranger. -/
  own : ∀ allocation ∈ references, allocation.handle ∉ strangers
  /-- The buffers in use are those that are referred to, and the strangers. -/
  device : host.device.InUse (Uses references strangers) (host.sharings.size + strangers.length)

variable {strangers : List Handle} {references : Multiset Allocation}
  {host : Host (Instrumented Simulator)}

/-- As many holders are counted as there are references. -/
theorem Settled.holders_eq (settled : host.Settled strangers references) (allocation : Allocation) :
    host.holders allocation = (references.map Allocation.serial).count allocation.serial := by
  rw [holders, settled.held]
  by_cases zero : 0 < (references.map Allocation.serial).count allocation.serial
  · simp [Option.filter, zero]
  · simp [Option.filter, zero]
    omega

/-- An allocation has holders kept for it exactly if it is referred to. -/
theorem Settled.mem_sharings (settled : host.Settled strangers references) (serial : Nat) :
    serial ∈ host.sharings ↔ serial ∈ references.map Allocation.serial := by
  rw [Std.ExtTreeMap.mem_iff_isSome_getElem?, ← Option.isSome_map (f := Sharing.holders),
    settled.held, ← Multiset.count_pos]
  by_cases zero : 0 < (references.map Allocation.serial).count serial <;>
    simp [Option.filter, zero]

/-- References to the allocation of a serial number are those to the allocation of its handle. -/
theorem Settled.count_handle (settled : host.Settled strangers references) {allocation : Allocation}
    (member : allocation ∈ references) :
    (references.map Allocation.handle).count allocation.handle =
      (references.map Allocation.serial).count allocation.serial := by
  rw [Multiset.count_map, Multiset.count_map]
  congr 1
  refine Multiset.filter_congr fun other listed => ?_
  constructor
  · intro same
    rw [settled.handles allocation member other listed same]
  · intro same
    rw [settled.serials allocation member other listed same]

/-- What is kept of an allocation may change as the references to it do, if none of them is the
first or the last. -/
theorem Settled.modify (settled : host.Settled strangers references) {others : Multiset Allocation}
    (serial : Nat) {change : Sharing → Sharing} (shift : Nat → Nat)
    (same : ∀ allocation, allocation ∈ others ↔ allocation ∈ references)
    (changed : ∀ sharing, (change sharing).holders = shift sharing.holders)
    (shifted : ∀ other, (others.map Allocation.serial).count other =
      if other = serial then shift ((references.map Allocation.serial).count other)
      else (references.map Allocation.serial).count other) :
    ({ host with sharings := host.sharings.modify serial change }).Settled strangers others := by
  have used : ∀ handle, Uses references strangers handle ↔ Uses others strangers handle := by
    intro handle
    simp only [Uses, Multiset.mem_map, same]
  have still : ∀ other, 0 < (others.map Allocation.serial).count other ↔
      0 < (references.map Allocation.serial).count other := by
    intro other
    simp only [Multiset.count_pos, Multiset.mem_map, same]
  refine ⟨fun allocation member => settled.fresh allocation ((same allocation).mp member),
    fun first one second two => settled.serials first ((same first).mp one) second
      ((same second).mp two),
    fun first one second two => settled.handles first ((same first).mp one) second
      ((same second).mp two), fun other => ?_,
    fun allocation member => settled.own allocation ((same allocation).mp member), ?_⟩
  · have before := settled.held other
    have still := still other
    rw [shifted] at still ⊢
    simp only [Std.ExtTreeMap.getElem?_modify, Std.LawfulEqCmp.compare_eq_iff_eq]
    by_cases equal : other = serial
    · subst equal
      rw [if_pos rfl] at still ⊢
      rw [if_pos rfl]
      have moved : (host.sharings[other]?.map change).map Sharing.holders =
          (host.sharings[other]?.map Sharing.holders).map shift := by
        simp only [Option.map_map, Function.comp_def, changed]
      rw [moved, before]
      by_cases referred : 0 < (references.map Allocation.serial).count other
      · simp [Option.filter, referred, still.mpr referred]
      · simp only [Option.filter, referred, mt still.mp referred, decide_false, Bool.false_eq_true,
          if_false, Option.map_none]
    · rw [if_neg equal, if_neg (Ne.symm equal)]
      exact before
  · rw [Std.ExtTreeMap.size_modify]
    exact settled.device.congr used

/-- A buffer that is referred to is live. -/
theorem Settled.isSome_live? (settled : host.Settled strangers references)
    {allocation : Allocation} (member : allocation ∈ references) :
    (host.device.inner.live? allocation.handle).isSome = true :=
  (settled.device.live _).mpr (.inl (Multiset.mem_map_of_mem _ member))

/-- What keeps the buffers in use leaves a host settled. -/
theorem Settled.withDevice (settled : host.Settled strangers references)
    {device : Instrumented Simulator}
    (use : device.InUse (Uses references strangers) (host.sharings.size + strangers.length)) :
    ({ host with device }).Settled strangers references :=
  ⟨settled.fresh, settled.serials, settled.handles, settled.held, settled.own, use⟩

/-- One more reference to an allocation that is referred to is one more holder. -/
theorem Settled.retain (settled : host.Settled strangers references) {allocation : Allocation}
    (member : allocation ∈ references) :
    (host.retain allocation).Settled strangers (allocation ::ₘ references) := by
  refine settled.modify allocation.serial (· + 1) (fun other => ?_) (fun _ => rfl)
    fun other => ?_
  · rw [Multiset.mem_cons]
    exact or_iff_right_of_imp fun same => same ▸ member
  · rw [Multiset.map_cons, Multiset.count_cons]
    split <;> rfl

/-- Keeping the view of an allocation is no reference to it. -/
theorem Settled.keepRegion (settled : host.Settled strangers references) (allocation : Allocation)
    (region : Region) : (host.keepRegion allocation region).Settled strangers references :=
  settled.modify allocation.serial id (fun _ => Iff.rfl) (fun _ => rfl) fun _ =>
    (ite_self _).symm

/-- A reference that is not the last one to its allocation is one holder less. -/
theorem Settled.loosen {allocation : Allocation}
    (settled : host.Settled strangers (allocation ::ₘ references))
    (member : allocation.serial ∈ references.map Allocation.serial) :
    ({ host with
      sharings := host.sharings.modify allocation.serial fun sharing =>
        { sharing with holders := sharing.holders - 1 } }).Settled strangers references := by
  obtain ⟨other, listed, equal⟩ := Multiset.mem_map.mp member
  obtain rfl := settled.serials other (Multiset.mem_cons_of_mem listed) allocation
    (Multiset.mem_cons_self _ _) equal
  refine settled.modify other.serial (· - 1) (fun allocation => ?_) (fun _ => rfl)
    fun serial => ?_
  · rw [Multiset.mem_cons]
    exact (or_iff_right_of_imp fun same => same ▸ listed).symm
  · rw [Multiset.map_cons, Multiset.count_cons]
    split <;> simp

/-- The last reference to an allocation is the last holder; with it goes the buffer. -/
theorem Settled.letLastGo {allocation : Allocation}
    (settled : host.Settled strangers (allocation ::ₘ references))
    (last : allocation.serial ∉ references.map Allocation.serial) :
    ∃ device, Device.release allocation.handle host.device = (.ok (), device) ∧
      ({ host with device, sharings := host.sharings.erase allocation.serial }).Settled strangers
        references := by
  have listed : allocation ∈ allocation ::ₘ references := Multiset.mem_cons_self _ _
  have present : allocation.serial ∈ host.sharings :=
    (settled.mem_sharings _).mpr (Multiset.mem_map_of_mem _ listed)
  have size : host.sharings.size = (host.sharings.erase allocation.serial).size + 1 := by
    rw [Std.ExtTreeMap.size_erase, if_pos (Std.ExtTreeMap.contains_iff_mem.mpr present)]
    have positive : host.sharings.size ≠ 0 := fun empty => by
      rw [← Std.ExtTreeMap.eq_empty_iff_size_eq_zero] at empty
      simp [empty] at present
    omega
  have use := settled.device
  rw [size, Nat.add_right_comm] at use
  obtain ⟨device, run, after⟩ :=
    Instrumented.release_inUse use (.inl (Multiset.mem_map_of_mem _ listed))
  refine ⟨device, run, fun other member => settled.fresh other (Multiset.mem_cons_of_mem member),
    fun first one second two => settled.serials first (Multiset.mem_cons_of_mem one) second
      (Multiset.mem_cons_of_mem two),
    fun first one second two => settled.handles first (Multiset.mem_cons_of_mem one) second
      (Multiset.mem_cons_of_mem two), fun serial => ?_,
    fun other member => settled.own other (Multiset.mem_cons_of_mem member),
    after.congr fun handle => ?_⟩
  · have before := settled.held serial
    rw [Multiset.map_cons, Multiset.count_cons] at before
    simp only [Std.ExtTreeMap.getElem?_erase, Std.LawfulEqCmp.compare_eq_iff_eq]
    by_cases same : serial = allocation.serial
    · subst same
      rw [if_pos rfl, Multiset.count_eq_zero.mpr last]
      rfl
    · rw [if_neg same, Nat.add_zero] at before
      rw [if_neg (Ne.symm same)]
      exact before
  · simp only [Uses, Multiset.map_cons, Multiset.mem_cons, Multiset.mem_map]
    constructor
    · rintro ⟨(same | found) | strange, different⟩
      · exact absurd same different
      · exact .inl found
      · exact .inr strange
    · rintro (⟨other, member, rfl⟩ | strange)
      · refine ⟨.inl (.inr ⟨other, member, rfl⟩), fun equal => last ?_⟩
        rw [← settled.handles other (Multiset.mem_cons_of_mem member) allocation listed equal]
        exact Multiset.mem_map_of_mem _ member
      · exact ⟨.inr strange, fun equal => settled.own allocation listed (equal ▸ strange)⟩

/-- What tells the elements of a multiset apart also tells one more apart that differs from all of
them. -/
theorem apart_cons {α β : Type} {view : α → β} {elements : Multiset α} {element : α}
    (apart : ∀ first ∈ elements, ∀ second ∈ elements, view first = view second → first = second)
    (other : ∀ old ∈ elements, view old ≠ view element) :
    ∀ first ∈ element ::ₘ elements, ∀ second ∈ element ::ₘ elements,
      view first = view second → first = second := by
  intro first one second two same
  rcases Multiset.mem_cons.mp one with rfl | former
  · rcases Multiset.mem_cons.mp two with rfl | latter
    · rfl
    · exact absurd same.symm (other second latter)
  · rcases Multiset.mem_cons.mp two with rfl | latter
    · exact absurd same (other first former)
    · exact apart first former second latter same

/-- An allocation with a new handle, taken into use, gets its first reference. -/
theorem Settled.addAllocation (settled : host.Settled strangers references)
    {device : Instrumented Simulator} {handle : Handle} (unused : ¬Uses references strangers handle)
    (use : device.InUse (fun other => Uses references strangers other ∨ other = handle)
      (host.sharings.size + strangers.length + 1)) (size : UInt64) (flags : BufferFlags) :
    (({ host with device }).addAllocation handle size flags).2.Settled strangers
      ((({ host with device }).addAllocation handle size flags).1 ::ₘ references) := by
  have later : ∀ allocation ∈ references, allocation.serial ≠ host.nextSerial :=
    fun allocation member => Nat.ne_of_lt (settled.fresh allocation member)
  have others : ∀ allocation ∈ references, allocation.handle ≠ handle :=
    fun allocation member same => unused (.inl (Multiset.mem_map.mpr ⟨allocation, member, same⟩))
  have unheld : (references.map Allocation.serial).count host.nextSerial = 0 := by
    rw [Multiset.count_eq_zero, Multiset.mem_map]
    rintro ⟨allocation, member, same⟩
    exact later allocation member same
  have absent : host.nextSerial ∉ host.sharings := fun present => by
    rw [settled.mem_sharings, ← Multiset.count_pos, unheld] at present
    exact absurd present (Nat.lt_irrefl 0)
  simp only [Host.addAllocation]
  refine ⟨fun allocation member => ?_, apart_cons settled.serials later,
    apart_cons settled.handles others, fun serial => ?_, fun allocation member => ?_, ?_⟩
  · rcases Multiset.mem_cons.mp member with rfl | old
    · exact Nat.lt_succ_self _
    · exact Nat.lt_succ_of_lt (settled.fresh allocation old)
  · rw [Multiset.map_cons, Multiset.count_cons]
    simp only [Std.ExtTreeMap.getElem?_insert, Std.LawfulEqCmp.compare_eq_iff_eq]
    by_cases same : serial = host.nextSerial
    · subst same
      rw [if_pos rfl, if_pos rfl, unheld]
      rfl
    · rw [if_neg same, Nat.add_zero, if_neg (Ne.symm same)]
      exact settled.held serial
  · rcases Multiset.mem_cons.mp member with rfl | old
    · exact fun strange => unused (.inr strange)
    · exact settled.own allocation old
  · rw [Std.ExtTreeMap.size_insert, if_neg (mt Std.ExtTreeMap.contains_iff_mem.mp absent),
      Nat.add_right_comm]
    refine use.congr fun other => ?_
    rw [Uses, Uses, Multiset.map_cons, Multiset.mem_cons, or_comm, or_assoc]

/-- A buffer that nobody refers to may be taken into use as a stranger. -/
theorem Settled.addStranger (settled : host.Settled strangers references)
    {device : Instrumented Simulator} {handle : Handle}
    (unused : ¬Uses references strangers handle)
    (use : device.InUse (fun other => Uses references strangers other ∨ other = handle)
      (host.sharings.size + strangers.length + 1)) :
    ({ host with device }).Settled (handle :: strangers) references := by
  refine ⟨settled.fresh, settled.serials, settled.handles, settled.held, ?_,
    use.congr fun other => ?_⟩
  · intro allocation member
    have different : allocation.handle ≠ handle := fun same =>
      unused (.inl (same ▸ Multiset.mem_map_of_mem _ member))
    exact List.not_mem_cons_of_ne_of_not_mem different (settled.own allocation member)
  · rw [Uses, Uses, List.mem_cons]
    exact or_assoc.trans (or_congr_right or_comm)

/-- Letting a reference go takes it away, and always succeeds. -/
theorem letGo_leads (allocation : Allocation) (references : Multiset Allocation) :
    Leads (Settled strangers (allocation ::ₘ references)) (letGo allocation)
      (fun _ => Settled strangers references) fun _ => False := by
  refine Leads.of_ok fun host settled => ?_
  have holders := settled.holders_eq allocation
  rw [Multiset.map_cons, Multiset.count_cons_self] at holders
  by_cases more : allocation.serial ∈ references.map Allocation.serial
  · have several : ¬host.holders allocation ≤ 1 := by
      have positive := Multiset.count_pos.mpr more
      omega
    refine ⟨(), _, ?_, settled.loosen more⟩
    rw [letGo, if_neg several]
  · have single : host.holders allocation ≤ 1 := by
      rw [holders, Multiset.count_eq_zero.mpr more]
    obtain ⟨device, run, after⟩ := settled.letLastGo more
    refine ⟨(), _, ?_, after⟩
    rw [letGo, if_pos single, onDevice, Action.within_apply, Action.regardless]
    simp only [run]

/-- One more holder is one more reference. -/
theorem retain_leads {allocation : Allocation} (member : allocation ∈ references)
    {failed : Host (Instrumented Simulator) → Prop} :
    Leads (Settled strangers references) (Action.update fun host => host.retain allocation)
      (fun _ => Settled strangers (allocation ::ₘ references)) failed :=
  Leads.update fun _ settled => settled.retain member

/-- A window is one more reference. -/
theorem window_leads {buffer : Buffer} (member : buffer.allocation ∈ references)
    (offset length : UInt64) :
    Leads (Settled strangers references) (buffer.window offset length)
      (fun made => Settled strangers (made.references + references))
      (Settled strangers references) := by
  refine Leads.bind (Leads.check _ fun _ settled => settled) fun made =>
    Leads.assume fun given => ?_
  refine Leads.bind (retain_leads member) fun _ => Leads.pure fun host settled => ?_
  rwa [Buffer.references, Buffer.allocation_of_window? given, Multiset.singleton_add]

/-- A pushbuffer is one more reference. -/
theorem openAt_leads {buffer : Buffer} (member : buffer.allocation ∈ references) (offset : UInt64) :
    Leads (Settled strangers references) (PushBuffer.openAt buffer offset)
      (fun opened => Settled strangers (opened.references + references))
      (Settled strangers references) := by
  refine Leads.bind (Leads.read_any _) fun mapping => ?_
  refine Leads.bind (Leads.check _ fun _ settled => settled) fun opened =>
    Leads.assume fun made => ?_
  refine Leads.bind (retain_leads member) fun _ => Leads.pure fun host settled => ?_
  obtain ⟨_, -, -, -, rfl⟩ := PushBuffer.ofMapping?_eq_ok made
  rwa [PushBuffer.references, Buffer.references, Multiset.singleton_add]

/-- A pushbuffer at the end of a job is one more reference of the job. -/
theorem append_leads {job : Job} {buffer : Buffer}
    (member : buffer.allocation ∈ job.references + references) (offset : UInt64) :
    Leads (Settled strangers (job.references + references)) (job.append buffer offset)
      (fun appended => Settled strangers (appended.references + references))
      (Settled strangers (job.references + references)) := by
  refine Leads.bind (Leads.check _ fun _ settled => settled) fun _ => Leads.assume fun _ => ?_
  refine Leads.bind (openAt_leads member offset) fun opened => Leads.pure fun host settled => ?_
  rwa [Job.references, List.map_append, List.sum_append, List.map_singleton, List.sum_singleton,
    add_comm _ opened.references, add_assoc]

/-- Giving up the elements of a list takes away what they refer to together. -/
theorem forM_leads {σ β : Type} {settled : Multiset Allocation → σ → Prop} {failed : σ → Prop}
    {release : β → Action σ Unit} {holds : β → Multiset Allocation}
    (leads : ∀ element references,
      Leads (settled (holds element + references)) (release element) (fun _ => settled references)
        failed) (elements : List β) (references : Multiset Allocation) :
    Leads (settled ((elements.map holds).sum + references)) (elements.forM release)
      (fun _ => settled references) failed := by
  induction elements with
  | nil =>
    rw [List.map_nil, List.sum_nil, zero_add]
    exact Leads.pure fun _ holds => holds
  | cons head rest ih =>
    rw [List.map_cons, List.sum_cons, add_assoc]
    exact Leads.bind (leads head _) fun _ => ih

/-- Giving up a buffer takes its reference away. -/
theorem bufferRelease_leads (buffer : Buffer) (references : Multiset Allocation) :
    Leads (Settled strangers (buffer.references + references)) buffer.release
      (fun _ => Settled strangers references) fun _ => False := by
  rw [Buffer.references, Multiset.singleton_add]
  exact letGo_leads buffer.allocation references

/-- So does giving up a pushbuffer. -/
theorem pushBufferRelease_leads (pushbuffer : PushBuffer) (references : Multiset Allocation) :
    Leads (Settled strangers (pushbuffer.references + references)) pushbuffer.release
      (fun _ => Settled strangers references) fun _ => False :=
  bufferRelease_leads pushbuffer.buffer references

/-- Giving up a job takes the references of its pushbuffers away. -/
theorem jobRelease_leads (job : Job) (references : Multiset Allocation) :
    Leads (Settled strangers (job.references + references)) job.release
      (fun _ => Settled strangers references) fun _ => False :=
  forM_leads pushBufferRelease_leads job.pushbuffers references

/-- What keeps the tenure of the device keeps a host settled. -/
theorem onDevice_settled {α : Type} {action : Action (Instrumented Simulator) α}
    (goes : Moves Instrumented.SameTenure action) :
    Upholds (Settled strangers references) (onDevice action) fun _ => True :=
  fun host settled =>
    ⟨settled.withDevice ((goes host.device).inUse settled.device), fun _ _ => trivial⟩

/-- Mapping a buffer is no reference to its allocation. -/
theorem map_settled (buffer : Buffer) :
    Upholds (Settled strangers references) buffer.map fun _ => True := by
  refine Upholds.bind (Upholds.read_any _) fun mapping _ => ?_
  cases mapping with
  | some mapping => exact Upholds.pure trivial
  | none =>
    refine Upholds.bind (onDevice_settled (Instrumented.quietBy_sameTenure.map _))
      fun region _ => ?_
    split
    · exact Upholds.fail _
    · exact Upholds.bind (Upholds.update fun _ settled => settled.keepRegion _ _) fun _ _ =>
        Upholds.pure trivial

/-- An allocation gets its first reference from its owner. -/
theorem allocate_leads (size : UInt64) (flags : BufferFlags) :
    Leads (Settled strangers references) (Buffer.allocate size flags)
      (fun buffer => Settled strangers (buffer.references + references))
      (Settled strangers references) := by
  by_cases zero : size = 0
  · rw [Buffer.allocate, if_pos zero]
    exact Leads.fail _ fun _ settled => settled
  · intro host settled
    rw [allocate_apply zero]
    rcases Instrumented.allocate_inUse settled.device size flags with
      ⟨failure, device, made, use⟩ | ⟨handle, device, made, unused, use⟩
    · rw [made]
      refine ⟨fun value reached same => by simp at same, fun other reached same => ?_⟩
      obtain ⟨-, rfl⟩ := Prod.mk.inj same
      exact settled.withDevice use
    · rw [made]
      refine ⟨fun buffer reached same => ?_, fun other reached same => by simp at same⟩
      obtain ⟨given, rfl⟩ := Prod.mk.inj same
      obtain rfl := Except.ok.inj given
      exact settled.addAllocation unused use size flags

end Host

end HostChannel

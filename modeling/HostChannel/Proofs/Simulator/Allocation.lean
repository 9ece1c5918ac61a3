import HostChannel.Proofs.Simulator.Tenure

/-!
# The allocations of a run

Each allocation that succeeds grants a buffer a handle and addresses. `Simulator.grants` lists what
a run of requests has been granted, released since or not, and `Charted` says how such a list and
the device belong together: handles and addresses ascend, and the next ones are behind all of them.
As long as no buffer was asked for that is too long for memory, nothing is left out in between.

Such a buffer is the one thing that an allocation fails by half. Any other is made, or refused with
nothing changed (`allocation_yields_or_refuses`); this one is given up when its handle and its
addresses have been used up already (`overlong_allocation_leaves_gap`).
-/

namespace HostChannel

/-- The request is for a buffer that is too long for memory. -/
def Request.overlong : Request → Bool
  | .call (.allocate size _) => maxMemory < size.toNat
  | _ => false

/-- What an allocation gave to a buffer. -/
structure Grant where
  /-- Its handle. -/
  handle : Handle
  /-- Its address when it was made. -/
  address : UInt64
  /-- The number of bytes that were asked for. -/
  size : UInt64
  deriving DecidableEq, Repr

namespace Simulator

open HostChannel.Action (Moves)

/-- What a request is granted, if it is an allocation that succeeds. -/
def granted? (simulator : Simulator) : Request → Option Grant
  | .call (.allocate size flags) =>
    match Device.allocate size flags simulator with
    | (.ok handle, after) => (after.address? handle).map fun address => ⟨handle, address, size⟩
    | (.error _, _) => none
  | _ => none

/-- What requests are granted, in order. -/
def grants (simulator : Simulator) : List Request → List Grant
  | [] => []
  | request :: rest =>
    (simulator.granted? request).toList ++ (simulator.respond request).grants rest

/-- Bytes of the address space that buffers take up. -/
def occupied : List Grant → Nat
  | [] => 0
  | grant :: rest => span grant.size + occupied rest

/-- One more buffer takes up what it takes up by itself. -/
theorem occupied_concat (history : List Grant) (grant : Grant) :
    occupied (history ++ [grant]) = occupied history + span grant.size := by
  induction history with
  | nil => simp only [List.nil_append, occupied, Nat.zero_add, Nat.add_zero]
  | cons head rest ih => rw [List.cons_append, occupied, occupied, ih, Nat.add_assoc]

/-- An allocation that fails is granted nothing. -/
theorem granted?_of_error {simulator after : Simulator} {size : UInt64} {flags : BufferFlags}
    {failure : Failure} (failed : allocate size simulator = (.error failure, after)) :
    simulator.granted? (.call (.allocate size flags)) = none := by
  simp only [granted?, Device.allocate, failed]

/-- One that succeeds is granted the next handle and the next address. -/
theorem granted?_of_room {simulator : Simulator} {size : UInt64} {flags : BufferFlags}
    (room : simulator.HasRoom size) (more : simulator.nextHandle ≠ lastHandle)
    (short : size.toNat ≤ maxMemory) :
    simulator.granted? (.call (.allocate size flags)) =
      some ⟨simulator.nextHandle, simulator.nextAddress, size⟩ := by
  simp only [granted?, Device.allocate, allocate_of_room room more short, address?,
    live?_withBuffer, if_pos, Option.map_some]

/-- No other request is granted anything. -/
theorem granted?_of_quiet (simulator : Simulator) {request : Request}
    (quiet : request.quiet = true) : simulator.granted? request = none := by
  unfold granted?
  split
  · simp [Request.quiet] at quiet
  · rfl

/-- A view of the device takes no address. -/
theorem nextAddress_of_moves_eq {α : Type} {action : Action Simulator α}
    (kept : Moves (· = ·) action) (simulator : Simulator) :
    (action simulator).2.nextAddress = simulator.nextAddress := by
  rw [← kept simulator]

/-- Nor does counting. -/
theorem OnlyCounted.nextAddress {first second : Simulator} (counted : first.OnlyCounted second) :
    second.nextAddress = first.nextAddress := by
  rw [OnlyCounted] at counted
  rw [counted]

/-- A request that neither allocates nor releases takes no address. -/
theorem nextAddress_respond (simulator : Simulator) {request : Request}
    (quiet : request.quiet = true) :
    (simulator.respond request).nextAddress = simulator.nextAddress := by
  cases request with
  | write region position data => cases region <;> rfl
  | runPending => rw [respond_runPending, foldl_execute]
  | increment index times =>
    obtain ⟨_, run⟩ := respond_increment simulator index times
    rw [run]
  | call call =>
    cases call with
    | allocate size flags => simp [Request.quiet] at quiet
    | release handle => simp [Request.quiet] at quiet
    | map handle =>
      have kept : Moves (· = ·) (map handle) :=
        Moves.bind (findBuffer_moves handle) fun _ => Moves.pure _
      exact nextAddress_of_moves_eq kept simulator
    | flush handle offset length =>
      exact (flush_onlyCounted handle offset length simulator).nextAddress
    | invalidate handle offset length =>
      exact (invalidate_onlyCounted handle offset length simulator).nextAddress
    | openChannel engineClass =>
      simp only [respond, Device.openChannel, openChannel]
      split
      · rfl
      · split <;> rfl
    | closeChannel channel =>
      simp only [respond, Device.closeChannel, closeChannel]
      split <;> rfl
    | submit submission =>
      rcases respond_submit simulator submission with ⟨-, run⟩ | ⟨-, run⟩
      · rw [run, dispatch, taken, foldl_patched]
        split
        · rw [execute_eq]
          rfl
        · rfl
      · rw [run]
    | flushSubmissions channel => rfl
    | readSyncpoint index => exact nextAddress_of_moves_eq (readSyncpoint_moves index) simulator
    | waitSyncpoint index threshold timeout =>
      exact nextAddress_of_moves_eq (waitSyncpoint_moves index threshold timeout) simulator

/-- A buffer can be at the address: it is not before the first, and starts a block. -/
structure Placed (address : UInt64) : Prop where
  /-- It is the first address or behind it. -/
  above : baseAddress.toNat ≤ address.toNat
  /-- It is a whole number of blocks. -/
  whole : address.toNat % alignment = 0

/-- What was granted on the way to a device, on which requests for overlong buffers have used up a
number of handles at most. -/
structure Charted (history : List Grant) (lost : Nat) (simulator : Simulator) : Prop where
  /-- Every buffer was granted, live or not. -/
  listed : ∀ (handle : Handle) buffer, simulator.buffers[handle]? = some buffer →
    ⟨handle, buffer.address, buffer.size⟩ ∈ history
  /-- What was granted later has a greater handle, and addresses behind those granted before. -/
  ordered : history.Pairwise fun first second => first.handle < second.handle ∧
    first.address.toNat + span first.size ≤ second.address.toNat
  /-- What is granted next is behind all of it. -/
  behind : ∀ grant ∈ history, grant.handle < simulator.nextHandle ∧
    grant.address.toNat + span grant.size ≤ simulator.nextAddress.toNat
  /-- Every grant is at the start of a block. -/
  placed : ∀ grant ∈ history, Placed grant.address
  /-- The next one will be, too. -/
  nextPlaced : Placed simulator.nextAddress
  /-- Each handle was granted or lost. -/
  numbered : simulator.nextHandle.toNat ≤ 1 + history.length + lost
  /-- If none was lost, nothing was left out. -/
  whole : lost = 0 → simulator.nextHandle.toNat = 1 + history.length ∧
    simulator.nextAddress.toNat = baseAddress.toNat + occupied history

namespace Charted

variable {history : List Grant} {lost : Nat} {simulator : Simulator} {size : UInt64}

/-- Nothing is granted on a new device. -/
theorem initial (settings : SimulatorSettings) : Charted [] 0 (initial settings) where
  listed handle buffer found := by simp [Simulator.initial] at found
  ordered := List.Pairwise.nil
  behind grant member := absurd member List.not_mem_nil
  placed grant member := absurd member List.not_mem_nil
  nextPlaced := ⟨Nat.le_refl _, show baseAddress.toNat % alignment = 0 by decide⟩
  numbered := Nat.le_refl 1
  whole _ := ⟨rfl, rfl⟩

/-- Allowing for more that is lost says less. -/
theorem weaken (charted : Charted history lost simulator) {more : Nat} (least : lost ≤ more) :
    Charted history more simulator where
  listed := charted.listed
  ordered := charted.ordered
  behind := charted.behind
  placed := charted.placed
  nextPlaced := charted.nextPlaced
  numbered := by
    have numbered := charted.numbered
    omega
  whole none := charted.whole (by omega)

/-- As long as the buffers keep their places and no other is added, the history is the same. -/
theorem kept (charted : Charted history lost simulator) {after : Simulator}
    (buffers : ∀ (handle : Handle) buffer, after.buffers[handle]? = some buffer →
      ∃ before, simulator.buffers[handle]? = some before ∧
        before.address = buffer.address ∧ before.size = buffer.size)
    (nextHandle : after.nextHandle = simulator.nextHandle)
    (nextAddress : after.nextAddress = simulator.nextAddress) : Charted history lost after where
  listed handle buffer found := by
    obtain ⟨before, held, address, size⟩ := buffers handle buffer found
    rw [← address, ← size]
    exact charted.listed handle before held
  ordered := charted.ordered
  behind := nextHandle ▸ nextAddress ▸ charted.behind
  placed := charted.placed
  nextPlaced := nextAddress ▸ charted.nextPlaced
  numbered := nextHandle ▸ charted.numbered
  whole := nextHandle ▸ nextAddress ▸ charted.whole

/-- The address behind a buffer starts a block. -/
theorem placed_addressAfter (charted : Charted history lost simulator)
    (room : simulator.HasRoom size) : Placed (simulator.addressAfter size) := by
  have next := charted.nextPlaced
  constructor
  · have above := next.above
    rw [toNat_addressAfter room]
    omega
  · rw [toNat_addressAfter room, Nat.add_mod, next.whole, span_mod_alignment, Nat.add_zero,
      Nat.zero_mod]

/-- What is granted was granted before the addresses behind the next buffer, too. -/
theorem behind_addressAfter (charted : Charted history lost simulator)
    (room : simulator.HasRoom size) (more : simulator.nextHandle ≠ lastHandle) {grant : Grant}
    (member : grant ∈ history) :
    grant.handle < simulator.nextHandle + 1 ∧
      grant.address.toNat + span grant.size ≤ (simulator.addressAfter size).toNat := by
  obtain ⟨earlier, before⟩ := charted.behind grant member
  rw [UInt32.lt_iff_toNat_lt] at earlier
  constructor
  · rw [UInt32.lt_iff_toNat_lt, toNat_nextHandle_succ more]
    omega
  · rw [toNat_addressAfter room]
    omega

/-- A buffer that is too long for memory loses a handle. -/
theorem skipped (charted : Charted history lost simulator) (room : simulator.HasRoom size)
    (more : simulator.nextHandle ≠ lastHandle) :
    Charted history (lost + 1) (simulator.skipped size) where
  listed := charted.listed
  ordered := charted.ordered
  behind grant member := charted.behind_addressAfter room more member
  placed := charted.placed
  nextPlaced := charted.placed_addressAfter room
  numbered := by
    have numbered := charted.numbered
    have next : (simulator.skipped size).nextHandle.toNat = simulator.nextHandle.toNat + 1 :=
      toNat_nextHandle_succ more
    omega
  whole none := absurd none (Nat.succ_ne_zero lost)

/-- A buffer that is made is granted the next handle and the next address. -/
theorem withBuffer (charted : Charted history lost simulator) (room : simulator.HasRoom size)
    (more : simulator.nextHandle ≠ lastHandle) :
    Charted (history ++ [⟨simulator.nextHandle, simulator.nextAddress, size⟩]) lost
      (simulator.withBuffer size (simulator.addressAfter size)) where
  listed handle buffer found := by
    simp only [Simulator.withBuffer, Std.ExtTreeMap.getElem?_insert,
      Std.LawfulEqCmp.compare_eq_iff_eq] at found
    split at found
    case isTrue same =>
      subst same
      obtain rfl := Option.some.inj found
      exact List.mem_append_right _ (List.mem_singleton_self _)
    case isFalse => exact List.mem_append_left _ (charted.listed handle buffer found)
  ordered := by
    rw [List.pairwise_append]
    refine ⟨charted.ordered, List.pairwise_singleton _ _, ?_⟩
    intro grant member next last
    obtain rfl := List.mem_singleton.mp last
    exact charted.behind grant member
  behind grant member := by
    rcases List.mem_append.mp member with before | last
    · exact charted.behind_addressAfter room more before
    · obtain rfl := List.mem_singleton.mp last
      constructor
      · show simulator.nextHandle < simulator.nextHandle + 1
        rw [UInt32.lt_iff_toNat_lt, toNat_nextHandle_succ more]
        exact Nat.lt_succ_self _
      · exact Nat.le_of_eq (toNat_addressAfter room).symm
  placed grant member := by
    rcases List.mem_append.mp member with before | last
    · exact charted.placed grant before
    · obtain rfl := List.mem_singleton.mp last
      exact charted.nextPlaced
  nextPlaced := charted.placed_addressAfter room
  numbered := by
    have numbered := charted.numbered
    have next : (simulator.withBuffer size (simulator.addressAfter size)).nextHandle.toNat =
        simulator.nextHandle.toNat + 1 := toNat_nextHandle_succ more
    rw [List.length_append, List.length_singleton]
    omega
  whole none := by
    obtain ⟨handles, addresses⟩ := charted.whole none
    constructor
    · show (simulator.nextHandle + 1).toNat = _
      rw [toNat_nextHandle_succ more, handles, List.length_append, List.length_singleton]
      omega
    · show (simulator.addressAfter size).toNat = _
      rw [toNat_addressAfter room, addresses, occupied_concat, Nat.add_assoc]

/-- A released buffer keeps its place. -/
theorem release (charted : Charted history lost simulator) (handle : Handle) :
    Charted history lost (simulator.respond (.call (.release handle))) := by
  by_cases lives : (simulator.live? handle).isSome = true
  · have released : simulator.respond (.call (.release handle)) = simulator.withoutBuffer handle :=
      congrArg Prod.snd (release_of_live lives)
    rw [released]
    refine charted.kept ?_ rfl rfl
    intro other buffer found
    rw [withoutBuffer, count, buffers_changeBuffer, Option.map_eq_some_iff] at found
    obtain ⟨before, held, rfl⟩ := found
    refine ⟨before, held, ?_⟩
    split
    · exact ⟨rfl, rfl⟩
    · exact ⟨rfl, rfl⟩
  · have unchanged : simulator.respond (.call (.release handle)) = simulator :=
      congrArg Prod.snd (release_of_gone (Option.not_isSome_iff_eq_none.mp lives))
    rw [unchanged]
    exact charted

/-- A request that neither allocates nor releases grants nothing. -/
theorem quiet (charted : Charted history lost simulator) {request : Request}
    (quiet : request.quiet = true) : Charted history lost (simulator.respond request) := by
  have same := respond_sameTenure simulator request quiet
  refine charted.kept ?_ same.nextHandle (nextAddress_respond simulator quiet)
  intro handle buffer found
  have frames := same.frames handle
  rw [found, Option.map_some, eq_comm, Option.map_eq_some_iff] at frames
  obtain ⟨before, held, frame⟩ := frames
  obtain ⟨address, rest⟩ := Prod.mk.inj frame
  exact ⟨before, held, address, (Prod.mk.inj rest).1⟩

/-- An allocation that fails with nothing changed grants nothing. -/
theorem unchanged (charted : Charted history lost simulator) {flags : BufferFlags}
    {failure : Failure} (failed : allocate size simulator = (.error failure, simulator)) :
    Charted (history ++ (simulator.granted? (.call (.allocate size flags))).toList) lost
      (simulator.respond (.call (.allocate size flags))) := by
  have same : simulator.respond (.call (.allocate size flags)) = simulator :=
    congrArg Prod.snd failed
  rw [granted?_of_error failed, same, Option.toList_none, List.append_nil]
  exact charted

/-- An allocation grants the next handle and the next address if it succeeds, and loses them at most
if the buffer is too long for memory. -/
theorem allocation (charted : Charted history lost simulator) (size : UInt64)
    (flags : BufferFlags) :
    Charted (history ++ (simulator.granted? (.call (.allocate size flags))).toList)
      (lost + if (Request.call (.allocate size flags)).overlong then 1 else 0)
      (simulator.respond (.call (.allocate size flags))) := by
  have least := Nat.le_add_right lost
    (if (Request.call (.allocate size flags)).overlong then 1 else 0)
  by_cases room : simulator.HasRoom size
  · by_cases last : simulator.nextHandle = lastHandle
    · exact (charted.unchanged (allocate_of_lastHandle room last)).weaken least
    · by_cases short : size.toNat ≤ maxMemory
      · have made : simulator.respond (.call (.allocate size flags)) =
            simulator.withBuffer size (simulator.addressAfter size) :=
          congrArg Prod.snd (allocate_of_room room last short)
        rw [granted?_of_room room last short, made, Option.toList_some]
        exact (charted.withBuffer room last).weaken least
      · have overlong := Nat.lt_of_not_le short
        have aborted := allocate_of_overlong room last overlong
        have left : simulator.respond (.call (.allocate size flags)) = simulator.skipped size :=
          congrArg Prod.snd aborted
        have counted : (Request.call (.allocate size flags)).overlong = true :=
          decide_eq_true overlong
        rw [granted?_of_error aborted, left, Option.toList_none, List.append_nil, if_pos counted]
        exact charted.skipped room last
  · exact (charted.unchanged (allocate_of_full room)).weaken least

/-- After a request the history has what the request was granted. -/
theorem respond (charted : Charted history lost simulator) (request : Request) :
    Charted (history ++ (simulator.granted? request).toList)
      (lost + if request.overlong then 1 else 0) (simulator.respond request) := by
  by_cases quiet : request.quiet = true
  · rw [granted?_of_quiet simulator quiet, Option.toList_none, List.append_nil]
    exact (charted.quiet quiet).weaken (Nat.le_add_right lost _)
  · cases request with
    | call call =>
      cases call with
      | allocate size flags => exact charted.allocation size flags
      | release handle =>
        have same := (charted.release handle).weaken (Nat.le_add_right lost 0)
        rwa [← List.append_nil history] at same
      | _ => exact absurd rfl quiet
    | _ => exact absurd rfl quiet

/-- And after many, what each of them was. -/
theorem after (charted : Charted history lost simulator) (requests : List Request) :
    Charted (history ++ simulator.grants requests) (lost + requests.countP Request.overlong)
      (simulator.after requests) := by
  induction requests generalizing history lost simulator with
  | nil =>
    rw [grants, List.append_nil]
    exact charted
  | cons request rest ih =>
    have later := ih (charted.respond request)
    rw [List.append_assoc, Nat.add_assoc] at later
    rw [grants, List.countP_cons, Nat.add_comm (rest.countP Request.overlong)]
    exact later

/-- As long as less was granted and lost than there are handles, there is another handle. -/
theorem nextHandle_ne (charted : Charted history lost simulator)
    (few : history.length + lost + 1 < lastHandle.toNat) : simulator.nextHandle ≠ lastHandle := by
  intro last
  have numbered := charted.numbered
  rw [last] at numbered
  omega

end Charted

/-- What was granted on a new device belongs to the device after the requests. -/
theorem charted_after (settings : SimulatorSettings) (requests : List Request) :
    Charted ((initial settings).grants requests) (requests.countP Request.overlong)
      ((initial settings).after requests) := by
  have charted := (Charted.initial settings).after requests
  rwa [List.nil_append, Nat.zero_add] at charted

/-- An allocation makes a buffer of zeros, with the next handle and at the next address, or is
refused and changes nothing. -/
def YieldsOrRefuses (simulator : Simulator) (size : UInt64) (flags : BufferFlags) : Prop :=
  Device.allocate size flags simulator =
      (.ok simulator.nextHandle, simulator.withBuffer size (simulator.addressAfter size)) ∨
    ∃ reason, Device.allocate size flags simulator =
      (.error (.refused (.allocationFailed size reason)), simulator)

/-- An allocation that is given up neither makes a buffer nor is refused. -/
theorem not_yieldsOrRefuses_of_aborted {simulator after : Simulator} {size : UInt64}
    {flags : BufferFlags}
    (aborted : Device.allocate size flags simulator = (.error .aborted, after)) :
    ¬ simulator.YieldsOrRefuses size flags := by
  rintro (made | ⟨reason, refused⟩)
  · rw [aborted] at made
    simp at made
  · rw [aborted] at refused
    simp at refused

/-- Before the last handle, an allocation makes a buffer or is refused, unless the addresses are
there but the memory is not. -/
theorem yieldsOrRefuses_iff {simulator : Simulator} (more : simulator.nextHandle ≠ lastHandle)
    (size : UInt64) (flags : BufferFlags) :
    simulator.YieldsOrRefuses size flags ↔ size.toNat ≤ maxMemory ∨ ¬ simulator.HasRoom size := by
  by_cases room : simulator.HasRoom size
  · by_cases short : size.toNat ≤ maxMemory
    · have yields : simulator.YieldsOrRefuses size flags := .inl (allocate_of_room room more short)
      simp only [yields, short, true_or]
    · have aborted : Device.allocate size flags simulator =
          (.error .aborted, simulator.skipped size) :=
        allocate_of_overlong room more (Nat.lt_of_not_le short)
      simp only [not_yieldsOrRefuses_of_aborted aborted, short, room, not_true, or_self]
  · have refuses : simulator.YieldsOrRefuses size flags := .inr ⟨_, allocate_of_full room⟩
    simp only [refuses, room, not_false_eq_true, or_true]

/-- As long as there are handles, whatever the device was asked for before, an allocation makes a
buffer or is refused with nothing changed, unless its size is too long for memory and addresses are
left for it: then it is given up, with a handle and the addresses lost. It is refused only where no
addresses are left. If none was given up before, each handle and each address before the next ones
was granted to a buffer. -/
theorem allocation_yields_or_refuses (settings : SimulatorSettings) (requests : List Request)
    (size : UInt64) (flags : BufferFlags)
    (few : ((initial settings).grants requests).length + requests.countP Request.overlong + 1 <
      lastHandle.toNat) :
    let simulator := (initial settings).after requests
    (simulator.YieldsOrRefuses size flags ↔ size.toNat ≤ maxMemory ∨ ¬ simulator.HasRoom size) ∧
      (simulator.HasRoom size →
        Device.allocate size flags simulator =
          if size.toNat ≤ maxMemory then
            (.ok simulator.nextHandle, simulator.withBuffer size (simulator.addressAfter size))
          else (.error .aborted, simulator.skipped size)) ∧
      (requests.countP Request.overlong = 0 →
        simulator.nextHandle.toNat = 1 + ((initial settings).grants requests).length ∧
          simulator.nextAddress.toNat =
            baseAddress.toNat + occupied ((initial settings).grants requests)) := by
  intro simulator
  have charted := charted_after settings requests
  have more : simulator.nextHandle ≠ lastHandle := charted.nextHandle_ne few
  refine ⟨yieldsOrRefuses_iff more size flags, ?_, charted.whole⟩
  intro room
  split
  case isTrue short => exact allocate_of_room room more short
  case isFalse overlong => exact allocate_of_overlong room more (Nat.lt_of_not_le overlong)

/-- After two buffers were made and one that is too long for memory was refused, as there are not as
many addresses, a third one is made. -/
theorem third_allocation_yields :
    let requests : List Request :=
      [.call (.allocate 10 ⟨0⟩), .call (.allocate 0xfffffffffffff000 ⟨0⟩), .call (.release 1),
        .call (.allocate 0x1001 ⟨0⟩)]
    ((initial .standard).after requests).YieldsOrRefuses 5 ⟨0⟩ ∧
      ((initial .standard).after requests).nextHandle = 3 ∧
      ((initial .standard).after requests).nextAddress = 0x40003000 := by
  intro requests
  have granted : ((initial .standard).grants requests).length = 2 := rfl
  have overlong : requests.countP Request.overlong = 1 := rfl
  have few : ((initial .standard).grants requests).length +
      requests.countP Request.overlong + 1 < lastHandle.toNat := by
    rw [granted, overlong]
    decide
  obtain ⟨exact, -, -⟩ := allocation_yields_or_refuses .standard requests 5 ⟨0⟩ few
  exact ⟨exact.mpr (.inl (by decide)), rfl, rfl⟩

/-- A buffer of two to the sixty-third bytes is given up on a new device, and the next one gets the
second handle and an address behind the gap. -/
theorem overlong_allocation_leaves_gap :
    let size : UInt64 := 0x8000000000000000
    ¬ (initial .standard).YieldsOrRefuses size ⟨0⟩ ∧
      (Device.allocate size ⟨0⟩ (initial .standard)).1 = .error .aborted ∧
      let left := (initial .standard).respond (.call (.allocate size ⟨0⟩))
      left.buffers = ∅ ∧ left.statistics.allocations = 0 ∧
        left.nextHandle = 2 ∧ left.nextAddress = 0x8000000040000000 ∧
        left.granted? (.call (.allocate 4096 ⟨0⟩)) = some ⟨2, 0x8000000040000000, 4096⟩ := by
  have room : (initial .standard).HasRoom 0x8000000000000000 := by decide
  have aborted : Device.allocate 0x8000000000000000 ⟨0⟩ (initial .standard) =
      (.error .aborted, (initial .standard).skipped 0x8000000000000000) :=
    allocate_of_overlong room (by decide) (by decide)
  have granted := @granted?_of_room ((initial .standard).skipped 0x8000000000000000) 4096 ⟨0⟩
    (by decide) (by decide) (by decide)
  exact ⟨not_yieldsOrRefuses_of_aborted aborted, rfl, rfl, rfl, rfl, rfl, granted⟩

end Simulator

end HostChannel

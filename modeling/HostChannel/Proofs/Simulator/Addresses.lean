import HostChannel.Proofs.Simulator.Allocation
import HostChannel.Proofs.Simulator.Atomicity

/-!
# Handles and addresses over a run

No two buffers that a device has handed out, live or not, had the same handle or shared an address
(`Unshared`). So a handle whose buffer was released never names another one, and a submission that
still names it is refused (`Retired`). What a submission looks for in buffers is listed as its
demands, in the order in which they are checked: the first that names a released buffer is refused
for that, if all before it are met.
-/

namespace HostChannel

/-- Bytes that a submission needs of a live buffer. -/
structure Demand where
  /-- The buffer. -/
  handle : Handle
  /-- Position of the first byte. -/
  offset : UInt64
  /-- Number of bytes. -/
  length : UInt64
  deriving DecidableEq, Repr

/-- The bytes of a range. -/
def CommandRange.demand (range : CommandRange) : Demand :=
  ⟨range.handle, range.offset.toUInt64, range.words.toUInt64 * 4⟩

/-- The bytes of the word that a patch replaces, and the place that it aims at. -/
def Patch.demands (patch : Patch) : List Demand :=
  [⟨patch.source, patch.sourceOffset.toUInt64, 4⟩, ⟨patch.target, patch.targetOffset.toUInt64, 0⟩]

/-- All bytes that a submission needs, in the order in which they are looked for. -/
def Submission.demands (submission : Submission) : List Demand :=
  submission.ranges.map CommandRange.demand ++ submission.patches.flatMap Patch.demands

namespace Simulator

open HostChannel.Action (Moves)

/-- Looks for the bytes of a demand. -/
def checkDemand (demand : Demand) : Action Simulator Unit :=
  findRange demand.handle demand.offset demand.length

/-- Looking for bytes keeps the state. -/
theorem checkDemand_moves (demand : Demand) : Moves (· = ·) (checkDemand demand) :=
  findRange_moves _ _ _

/-- The bytes of a demand are in a live buffer. -/
def Meets (simulator : Simulator) (demand : Demand) : Prop :=
  simulator.Holds demand.handle demand.offset.toNat demand.length.toNat

/-- Where they are, they are found. -/
theorem checkDemand_eq_ok_iff {demand : Demand} {simulator : Simulator} :
    checkDemand demand simulator = (.ok (), simulator) ↔ simulator.Meets demand :=
  findRange_eq_ok_iff

/-- Where the buffer is not live, its handle is unknown. -/
theorem checkDemand_of_gone {demand : Demand} {simulator : Simulator}
    (gone : simulator.live? demand.handle = none) :
    checkDemand demand simulator =
      (.error (.refused (.unknownHandle demand.handle)), simulator) :=
  Action.bind_apply_of_error (findBuffer_of_gone gone) _

/-- A patch is checked as its two demands are. -/
theorem forM_checkPatch (patches : List Patch) :
    forM patches checkPatch = forM (patches.flatMap Patch.demands) checkDemand := by
  induction patches with
  | nil => rfl
  | cons patch rest ih =>
    have first : checkPatch patch = forM patch.demands checkDemand := by
      show _ = (checkDemand _ >>= fun _ => checkDemand _ >>= fun _ => pure ())
      rw [bind_pure_unit]
      rfl
    rw [List.forM_cons, List.flatMap_cons, List.forM_append, first, ih]

/-- A submission is checked for its syncpoint, its channel and then its demands. -/
theorem validate_eq (submission : Submission) :
    validate submission = (do
      checkSyncpoint submission.syncpoint
      checkChannel submission.channel
      forM submission.demands checkDemand) := by
  rw [Submission.demands, List.forM_append, List.forM_map, ← forM_checkPatch]
  rfl

/-- The device has no objection to a submission before it comes to the demands behind some. -/
structure Clears (simulator : Simulator) (submission : Submission) (met : List Demand) : Prop where
  /-- There is a syncpoint of the index. -/
  syncpoint : submission.syncpoint.toNat < simulator.syncpoints.size
  /-- The channel is open. -/
  channel : simulator.channels.contains submission.channel = true
  /-- These demands are met. -/
  demands : ∀ demand ∈ met, simulator.Meets demand

/-- A submission that is accepted has all its demands met. -/
theorem Accepts.meets {simulator : Simulator} {submission : Submission}
    (accepts : simulator.Accepts submission) {demand : Demand}
    (asked : demand ∈ submission.demands) : simulator.Meets demand := by
  have passed := validate_eq_ok_iff.mpr ⟨accepts, rfl⟩
  rw [validate_eq, Action.bind_apply_of_ok (checkSyncpoint_of_lt accepts.syncpoint),
    Action.bind_apply_of_ok (checkChannel_of_open accepts.channel)] at passed
  exact checkDemand_eq_ok_iff.mp
    ((Action.forM_eq_ok_iff checkDemand_moves _ _).mp passed demand asked)

section Gone

variable {simulator : Simulator} {submission : Submission} {met rest : List Demand}
  {demand : Demand} (order : submission.demands = met ++ demand :: rest)
  (gone : simulator.live? demand.handle = none)

include order gone

/-- A submission that names a buffer that is not live is refused and changes nothing. -/
theorem submit_of_gone : ∃ failure, submit submission simulator = (.error failure, simulator) := by
  apply submit_of_not_accepts
  intro accepts
  have asked : demand ∈ submission.demands := by
    rw [order]
    exact List.mem_append_right met List.mem_cons_self
  obtain ⟨buffer, lives, -⟩ := accepts.meets asked
  rw [gone] at lives
  contradiction

/-- If that is the first objection to it, the handle is unknown. -/
theorem submit_of_clears (clears : simulator.Clears submission met) :
    submit submission simulator =
      (.error (.refused (.unknownHandle demand.handle)), simulator) := by
  have found : forM met checkDemand simulator = (.ok (), simulator) :=
    (Action.forM_eq_ok_iff checkDemand_moves _ _).mpr fun other member =>
      checkDemand_eq_ok_iff.mpr (clears.demands other member)
  apply submit_eq_error_iff.mpr
  rw [validate_eq, Action.bind_apply_of_ok (checkSyncpoint_of_lt clears.syncpoint),
    Action.bind_apply_of_ok (checkChannel_of_open clears.channel), order, List.forM_append,
    Action.bind_apply_of_ok found, List.forM_cons]
  exact Action.bind_apply_of_error (checkDemand_of_gone gone) _

end Gone

/-- A submission that names the buffer of a handle is refused and changes nothing; if nothing else
is wrong with it before, that is because the handle is unknown. -/
def Rejects (simulator : Simulator) (handle : Handle) : Prop :=
  ∀ (submission : Submission) (met rest : List Demand) (demand : Demand),
    submission.demands = met ++ demand :: rest → demand.handle = handle →
      ∃ failure, Device.submit submission simulator = (.error failure, simulator) ∧
        (simulator.Clears submission met → failure = .refused (.unknownHandle handle))

/-- So it is with a buffer that is not live. -/
theorem rejects_of_gone {simulator : Simulator} {handle : Handle}
    (gone : simulator.live? handle = none) : simulator.Rejects handle := by
  intro submission met rest demand order same
  subst same
  obtain ⟨failure, refused⟩ := submit_of_gone order gone
  refine ⟨failure, refused, fun clears => ?_⟩
  have unknown := submit_of_clears order gone clears
  rw [refused] at unknown
  exact Except.error.inj (Prod.mk.inj unknown).1

/-- The handle was given out, and its buffer has been released. -/
structure Released (simulator : Simulator) (handle : Handle) : Prop where
  /-- It is not to come. -/
  earlier : handle < simulator.nextHandle
  /-- Its buffer is not live. -/
  gone : simulator.live? handle = none

/-- No request brings a released buffer back, or gives its handle to another. -/
theorem Released.respond {simulator : Simulator} {handle : Handle}
    (released : simulator.Released handle) (request : Request) :
    (simulator.respond request).Released handle := by
  by_cases quiet : request.quiet = true
  · have same := respond_sameTenure simulator request quiet
    refine ⟨same.nextHandle ▸ released.earlier, ?_⟩
    rw [← Option.not_isSome_iff_eq_none, isSome_live?, same.frames, ← isSome_live?, released.gone]
    exact Bool.false_ne_true
  · cases request with
    | call call =>
      cases call with
      | allocate size flags =>
        show (allocate size simulator).2.Released handle
        rcases allocate_cases size simulator with ⟨_, _, _, later, made⟩ | ⟨_, -, more, made⟩
        · rw [made]
          exact ⟨UInt32.lt_of_lt_of_le released.earlier later, released.gone⟩
        · rw [made]
          refine ⟨UInt32.lt_trans released.earlier more, ?_⟩
          have other : handle ≠ simulator.nextHandle :=
            fun same => UInt32.lt_irrefl _ (same ▸ released.earlier)
          rw [live?_withBuffer, if_neg other]
          exact released.gone
      | release other =>
        show (release other simulator).2.Released handle
        by_cases lives : (simulator.live? other).isSome = true
        · rw [release_of_live lives]
          refine ⟨released.earlier, ?_⟩
          rw [live?_withoutBuffer, released.gone, ite_self]
        · rw [release_of_gone (Option.not_isSome_iff_eq_none.mp lives)]
          exact released
      | _ => exact absurd rfl quiet
    | _ => exact absurd rfl quiet

/-- So it stays released, whatever is asked for. -/
theorem Released.after {simulator : Simulator} {handle : Handle}
    (released : simulator.Released handle) (requests : List Request) :
    (simulator.after requests).Released handle := by
  have step : ∀ (simulator : Simulator) request, simulator.Released handle →
      (simulator.respond request).Released handle :=
    fun _ request kept => kept.respond request
  exact Reaches.keeps step ⟨requests, rfl⟩ released

/-- A buffer that was given out and is taken away is released. -/
theorem released_withoutBuffer {simulator : Simulator} {handle : Handle}
    (earlier : handle < simulator.nextHandle) :
    (simulator.withoutBuffer handle).Released handle where
  earlier := earlier
  gone := by rw [live?_withoutBuffer, if_pos rfl]

/-- Whatever is asked for from now on, the handle names no live buffer, and a submission that names
it is refused. -/
def Retired (simulator : Simulator) (handle : Handle) : Prop :=
  ∀ later : List Request,
    (simulator.after later).live? handle = none ∧ (simulator.after later).Rejects handle

/-- So it is with the handle of a released buffer. -/
theorem Released.retired {simulator : Simulator} {handle : Handle}
    (released : simulator.Released handle) : simulator.Retired handle := fun later =>
  have still := (released.after later).gone
  ⟨still, rejects_of_gone still⟩

/-- No two grants have a handle or an address in common, and live buffers are where they were
granted. -/
structure Unshared (history : List Grant) (simulator : Simulator) : Prop where
  /-- The addresses of a grant are all before those of a later one. -/
  addresses : history.Pairwise fun first second =>
    first.address.toNat + first.size.toNat ≤ second.address.toNat
  /-- Each starts a block, behind the first address, and ends before the last. -/
  placed : ∀ grant ∈ history, baseAddress.toNat ≤ grant.address.toNat ∧
    grant.address.toNat % alignment = 0 ∧ grant.address.toNat + grant.size.toNat < UInt64.size
  /-- No handle is granted twice. -/
  handles : (history.map Grant.handle).Nodup
  /-- A live buffer has the handle, the address and the size of its grant. -/
  named : ∀ (handle : Handle) buffer, simulator.live? handle = some buffer →
    ⟨handle, buffer.address, buffer.size⟩ ∈ history

/-- What an allocation does behind all that was granted before. -/
structure AllocatesBehind (history : List Grant) (simulator : Simulator) (size : UInt64)
    (flags : BufferFlags) : Prop where
  /-- If addresses are left, a buffer of zeros is made, with a handle that was not granted. -/
  made : baseAddress.toNat + occupied history + span size < UInt64.size →
    ∃ after, Device.allocate size flags simulator = (.ok simulator.nextHandle, after) ∧
      simulator.nextHandle ∉ history.map Grant.handle ∧
      after.live? simulator.nextHandle =
        some ⟨UInt64.ofNat (baseAddress.toNat + occupied history), size, .zeroed size.toNat, true⟩
  /-- If not, it is refused and changes nothing. -/
  refused : UInt64.size ≤ baseAddress.toNat + occupied history + span size →
    ∃ reason, Device.allocate size flags simulator =
      (.error (.refused (.allocationFailed size reason)), simulator)

namespace Charted

variable {history : List Grant} {lost : Nat} {simulator : Simulator}

/-- What belongs together shares nothing. -/
theorem unshared (charted : Charted history lost simulator) : Unshared history simulator where
  addresses := by
    apply charted.ordered.imp
    rintro first second ⟨-, before⟩
    have rounded := size_le_span first.size
    omega
  placed grant member := by
    have place := charted.placed grant member
    have rounded := size_le_span grant.size
    have before := (charted.behind grant member).2
    have bound := simulator.nextAddress.toNat_lt
    refine ⟨place.above, place.whole, ?_⟩
    rw [UInt64.size]
    omega
  handles := by
    rw [List.Nodup, List.pairwise_map]
    apply charted.ordered.imp
    rintro first second ⟨less, -⟩
    exact UInt32.ne_of_lt less
  named handle buffer lives :=
    charted.listed handle buffer (Option.filter_eq_some_iff.mp lives).1

/-- A handle that was granted is retired, if it names no live buffer. If it does, its buffer can be
released, and then it is. -/
theorem retires (charted : Charted history lost simulator) {grant : Grant}
    (member : grant ∈ history) :
    (simulator.live? grant.handle = none → simulator.Retired grant.handle) ∧
      (simulator.live? grant.handle ≠ none → ∃ freed,
        Device.release grant.handle simulator = (.ok (), freed) ∧ freed.Retired grant.handle) := by
  have earlier := (charted.behind grant member).1
  refine ⟨fun gone => Released.retired ⟨earlier, gone⟩, fun lives => ?_⟩
  have freed := release_of_live (Option.isSome_iff_ne_none.mpr lives)
  exact ⟨_, freed, (released_withoutBuffer earlier).retired⟩

/-- There is room for a buffer if it fits behind all that was granted. -/
theorem hasRoom_iff (charted : Charted history 0 simulator) (size : UInt64) :
    simulator.HasRoom size ↔ baseAddress.toNat + occupied history + span size < UInt64.size := by
  rw [HasRoom, (charted.whole rfl).2]

/-- As long as there are handles and memory, a buffer is made behind all that was granted. -/
theorem allocatesBehind (charted : Charted history 0 simulator)
    (few : history.length + 1 < lastHandle.toNat) {size : UInt64} (short : size.toNat ≤ maxMemory)
    (flags : BufferFlags) : AllocatesBehind history simulator size flags where
  made fits := by
    have room := (charted.hasRoom_iff size).mpr fits
    have made := allocate_of_room room (charted.nextHandle_ne few) short
    refine ⟨_, made, ?_, ?_⟩
    · intro listed
      obtain ⟨grant, member, same⟩ := List.mem_map.mp listed
      have earlier := (charted.behind grant member).1
      rw [same] at earlier
      exact UInt32.lt_irrefl _ earlier
    · rw [live?_withBuffer, if_pos rfl, ← (charted.whole rfl).2, UInt64.ofNat_toNat]
  refused exceeds := by
    have full : ¬ simulator.HasRoom size := by
      rw [charted.hasRoom_iff size]
      exact Nat.not_lt.mpr exceeds
    exact ⟨_, allocate_of_full full⟩

end Charted

/-- Whatever a device was asked for, the buffers that it has handed out, live or released, have
their handles and addresses each for itself; a live one can be released; a released handle is
refused in every submission from then on; and, while handles and memory last, a new buffer of zeros
is made exactly if its size, rounded up, fits behind those handed out. -/
theorem handles_and_addresses_unshared (settings : SimulatorSettings) (requests : List Request) :
    let history := (initial settings).grants requests
    let simulator := (initial settings).after requests
    Unshared history simulator ∧
      (∀ grant ∈ history,
        (simulator.live? grant.handle = none → simulator.Retired grant.handle) ∧
          (simulator.live? grant.handle ≠ none → ∃ freed,
            Device.release grant.handle simulator = (.ok (), freed) ∧
              freed.Retired grant.handle)) ∧
      (requests.countP Request.overlong = 0 → history.length + 1 < lastHandle.toNat →
        ∀ (size : UInt64) (flags : BufferFlags), size.toNat ≤ maxMemory →
          AllocatesBehind history simulator size flags) := by
  intro history simulator
  have charted := charted_after settings requests
  refine ⟨charted.unshared, fun grant member => charted.retires member, ?_⟩
  intro modest few size flags short
  rw [modest] at charted
  exact charted.allocatesBehind few short flags

/-- A relocation to a buffer that was released is refused also after other buffers were made, which
are all where they should be. The other one can be released as well; and there is room for more. -/
theorem released_target_stays_unknown :
    let requests : List Request :=
      [.call (.openChannel 1), .call (.allocate 10 ⟨0⟩), .call (.allocate 0x1001 ⟨0⟩),
        .call (.release 1)]
    let later : List Request := [.call (.allocate 0 ⟨0⟩), .call (.allocate 10 ⟨0⟩)]
    let submission : Submission := ⟨0, 0, 1, [], [⟨2, 0, 1, 0, 0⟩]⟩
    (initial .standard).grants (requests ++ later) =
        [⟨1, 0x40000000, 10⟩, ⟨2, 0x40001000, 0x1001⟩, ⟨3, 0x40003000, 0⟩, ⟨4, 0x40003000, 10⟩] ∧
      Device.submit submission (((initial .standard).after requests).after later) =
        (.error (.refused (.unknownHandle 1)),
          ((initial .standard).after requests).after later) ∧
      (∃ freed, Device.release 2 ((initial .standard).after requests) = (.ok (), freed) ∧
        freed.Retired 2) ∧
      AllocatesBehind ((initial .standard).grants requests) ((initial .standard).after requests)
        4096 ⟨0⟩ := by
  intro requests later submission
  obtain ⟨-, retires, allocates⟩ := handles_and_addresses_unshared .standard requests
  obtain ⟨-, rejects⟩ := (retires ⟨1, 0x40000000, 10⟩ (by decide)).1 rfl later
  have frees := (retires ⟨2, 0x40001000, 0x1001⟩ (by decide)).2 (by decide)
  obtain ⟨failure, refused, unknown⟩ := rejects submission [⟨2, 0, 4⟩] [] ⟨1, 0, 0⟩ rfl rfl
  have sized : ((((initial .standard).after requests).after later).live? 2).map
      SimulatedBuffer.size = some 0x1001 := by decide
  obtain ⟨source, lives, size⟩ := Option.map_eq_some_iff.mp sized
  have clears : (((initial .standard).after requests).after later).Clears submission
      [⟨2, 0, 4⟩] := by
    refine ⟨by decide, by decide, ?_⟩
    intro demand member
    obtain rfl := List.mem_singleton.mp member
    refine ⟨source, lives, ?_⟩
    rw [size]
    decide
  have granted : ((initial .standard).grants requests).length = 2 := rfl
  have few : ((initial .standard).grants requests).length + 1 < lastHandle.toNat := by
    rw [granted]
    decide
  have modest : requests.countP Request.overlong = 0 := by decide
  have short : (4096 : UInt64).toNat ≤ maxMemory := by decide
  refine ⟨rfl, ?_, frees, allocates modest few 4096 ⟨0⟩ short⟩
  rw [refused, unknown clears]

end Simulator

end HostChannel

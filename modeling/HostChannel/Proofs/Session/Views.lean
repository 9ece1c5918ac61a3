import HostChannel.Proofs.Session.Accesses

/-!
# All views show one memory

Buffers are allocated and given up, windows are put on them in any way, views are asked for, and
bytes and words are written and read through any of them, at overlapping and unaligned places. What
happens to memory and to views along such a run is a list of events, and the list alone says what
is seen: the byte at a position of an allocation is the one that was last written there, whatever
it was written through, and an allocation has a view once one of its buffers was given one.
-/

namespace HostChannel

/-- Something that happens to the memory or the view of an allocation. -/
inductive ViewEvent where
  /-- Bytes were written from a position on. -/
  | wrote (handle : Handle) (position : Nat) (data : List UInt8)
  /-- A view was asked for, and given or not. -/
  | asked (handle : Handle) (given : Bool)
  deriving DecidableEq, Repr

namespace ViewEvent

/-- The byte that is written at a position of an allocation, if one is. -/
def byte? (handle : Handle) (position : Nat) : ViewEvent → Option UInt8
  | wrote other start data =>
    if handle = other ∧ start ≤ position then data[position - start]? else none
  | asked _ _ => none

/-- Whether a view of an allocation is given, if one is asked for. -/
def outcome? (handle : Handle) : ViewEvent → Option Bool
  | wrote _ _ _ => none
  | asked other given => if handle = other then some given else none

/-- The byte that was last written at a position of an allocation, zero if none was. -/
def lastByte (events : List ViewEvent) (handle : Handle) (position : Nat) : UInt8 :=
  (events.reverse.findSome? (byte? handle position)).getD 0

/-- Whether the views of an allocation that were asked for were given, in order. -/
def outcomes (events : List ViewEvent) (handle : Handle) : List Bool :=
  events.filterMap (outcome? handle)

/-- How often the device is asked where a view is kept once it is given. -/
def asks : List Bool → Nat
  | [] => 0
  | true :: _ => 1
  | false :: rest => asks rest + 1

variable (events : List ViewEvent) (handle other : Handle)

/-- What was written last is seen, and behind it what was written before. -/
theorem lastByte_concat (event : ViewEvent) (position : Nat) :
    lastByte (events ++ [event]) handle position =
      (event.byte? handle position).getD (lastByte events handle position) := by
  rw [lastByte, List.reverse_append, List.reverse_singleton, List.singleton_append,
    List.findSome?_cons]
  cases event.byte? handle position <;> rfl

/-- Bytes that are written are seen in their range. -/
theorem lastByte_wrote (start position : Nat) (data : List UInt8) :
    lastByte (events ++ [.wrote other start data]) handle position =
      if handle = other ∧ start ≤ position then
        data.getD (position - start) (lastByte events handle position)
      else lastByte events handle position := by
  rw [lastByte_concat, byte?]
  split
  · rw [List.getD_eq_getElem?_getD]
  · rfl

/-- Writing asks for no view. -/
theorem outcomes_wrote (start : Nat) (data : List UInt8) :
    outcomes (events ++ [.wrote other start data]) handle = outcomes events handle := by
  rw [outcomes, List.filterMap_append]
  exact List.append_nil _

/-- A view that is asked for is one more of its allocation, and none of another. -/
theorem outcomes_asked (given : Bool) :
    outcomes (events ++ [.asked other given]) handle =
      outcomes events handle ++ if handle = other then [given] else [] := by
  rw [outcomes, List.filterMap_append, ← outcomes, List.filterMap_cons, outcome?]
  split <;> simp_all

/-- A view was given exactly if that has happened. -/
theorem true_mem_outcomes_iff :
    true ∈ outcomes events handle ↔ .asked handle true ∈ events := by
  rw [outcomes, List.mem_filterMap]
  constructor
  · rintro ⟨event, member, given⟩
    cases event with
    | wrote other start data => contradiction
    | asked other outcome =>
      simp only [outcome?, Option.ite_none_right_eq_some, Option.some.injEq] at given
      obtain ⟨rfl, rfl⟩ := given
      exact member
  · exact fun member => ⟨_, member, if_pos rfl⟩

omit events handle other in
/-- Once a view was given the device is not asked again. -/
theorem asks_concat (outcomes : List Bool) (given : Bool) :
    asks (outcomes ++ [given]) = if true ∈ outcomes then asks outcomes else asks outcomes + 1 := by
  induction outcomes with
  | nil => cases given <;> rfl
  | cons head rest ih =>
    cases head with
    | true => simp [asks]
    | false =>
      simp only [List.cons_append, asks, ih, List.mem_cons, Bool.true_eq_false, false_or]
      split <;> rfl

end ViewEvent

/-- The allocation that a piece of memory belongs to. -/
def RegionId.handle? : RegionId → Option Handle
  | .buffer handle => some handle
  | .standalone _ => none

namespace Session

/-- What an operation does to memory and to views. -/
def event? (session : Session) (operation : Operation) : Option ViewEvent :=
  match operation with
  | .mapping inner => do
    let write ← inner.write?
    let mapping ← session.mappings[write.mapping]?
    let handle ← mapping.region.id.handle?
    if (perform operation session).1.isOk then
      some (.wrote handle (mapping.base.toNat + write.offset.toNat) write.data)
    else none
  | .buffer (.map _ name) => do
    let buffer ← session.buffers[name]?
    some (.asked buffer.handle (perform operation session).1.isOk)
  | _ => none

/-- What a run does to them. -/
def events (session : Session) : List Operation → List ViewEvent
  | [] => []
  | operation :: rest =>
    (session.event? operation).toList ++ events (perform operation session).2 rest

/-- The session shows what the events say. -/
structure Shows (events : List ViewEvent) (session : Session) : Prop
    extends session.WellKept where
  /-- Each byte is the one that was last written there. -/
  memory : ∀ handle position, (session.simulator.contents handle).byte position =
    ViewEvent.lastByte events handle position
  /-- The allocation of a named buffer has a view exactly if one was given. -/
  viewed : ∀ (name : String) (buffer : Buffer), session.buffers[name]? = some buffer →
    ((session.host.region? buffer.allocation).isSome = true ↔
      true ∈ ViewEvent.outcomes events buffer.handle)
  /-- The device was asked until it has given a view. -/
  asked : ∀ handle, session.device.calls.count (.map handle) =
    ViewEvent.asks (ViewEvent.outcomes events handle)
  /-- Views were asked for of allocations that were handed out. -/
  earlier : ∀ handle, ViewEvent.outcomes events handle ≠ [] →
    handle < session.simulator.nextHandle

/-- A new session shows zeros and no view. -/
theorem shows_initial (configuration : Configuration) : (initial configuration).Shows [] where
  toWellKept := wellKept_initial configuration
  memory handle position := by
    have absent : (initial configuration).simulator.buffers[handle]? = none :=
      Std.ExtTreeMap.getElem?_empty
    rw [Simulator.contents, absent]
    exact Memory.byte_zeroed 0 position
  viewed name buffer found := by simp [initial] at found
  asked _ := rfl
  earlier _ some := absurd rfl some

namespace Shows

variable {events : List ViewEvent} {session : Session} (shows : session.Shows events)

include shows

/-- What changes no view goes on to show the same. -/
theorem sameViews {after : Session} (same : session.SameViews after) (kept : after.WellKept) :
    after.Shows events where
  toWellKept := kept
  memory handle position := (same.host.device.inner.bytes handle position).trans
    (shows.memory handle position)
  viewed name buffer found := by
    obtain ⟨sharing, shared⟩ := kept.exists_sharing found
    have region : after.host.region? buffer.allocation = sharing.region := by
      rw [Host.region?, shared, Option.bind_some]
    have views := same.host.regions _ sharing shared
    rcases same.buffers name buffer found with ⟨other, before, held, same⟩ | ⟨serial, handle⟩
    · -- The allocation was there, so its view is the one that it had.
      obtain ⟨former, kept⟩ := shows.exists_sharing held
      rw [same] at kept
      have still : sharing.region = former.region := by
        rcases views with equal | ⟨new, -⟩
        · rw [kept, Option.map_some] at equal
          exact (Option.some.inj equal).symm
        · exact absurd new (Nat.not_le_of_lt (shows.serial_lt kept))
      have before := shows.viewed other before held
      rwa [Buffer.handle, same, Host.region?, kept, Option.bind_some, ← still, ← region] at before
    · -- The allocation is new, and nothing was asked of it.
      have unasked : ViewEvent.outcomes events buffer.handle = [] := by
        by_contra some
        exact UInt32.lt_irrefl _ (UInt32.lt_of_lt_of_le (shows.earlier _ some) handle)
      have unviewed : sharing.region = none := by
        rcases views with equal | ⟨-, new⟩
        · obtain ⟨former, present, -⟩ := Option.map_eq_some_iff.mp equal
          exact absurd serial (Nat.not_le_of_lt (shows.serial_lt present))
        · exact new
      rw [region, unviewed, unasked]
      simp
  asked handle := (same.host.device.maps handle).trans (shows.asked handle)
  earlier handle some := UInt32.lt_of_lt_of_le (shows.earlier handle some)
    same.host.device.inner.later

/-- A write is seen in its range. -/
theorem wrote {handle : Handle} (present : handle ∈ session.simulator.buffers) (position : Nat)
    (data : List UInt8)
    (kept : (session.withSimulator
      (session.simulator.writeBuffer handle position data)).WellKept) :
    (session.withSimulator (session.simulator.writeBuffer handle position data)).Shows
      (events ++ [.wrote handle position data]) where
  toWellKept := kept
  memory other place := by
    change ((session.simulator.writeBuffer handle position data).contents other).byte place = _
    rw [session.simulator.contents_writeBuffer handle other position data present,
      ViewEvent.lastByte_wrote, ← shows.memory]
    by_cases same : other = handle
    · simp only [same, if_true, Memory.byte_write, true_and]
    · simp only [same, if_false, false_and]
  viewed name buffer found := by
    rw [ViewEvent.outcomes_wrote]
    exact shows.viewed name buffer found
  asked other := by
    rw [ViewEvent.outcomes_wrote]
    exact shows.asked other
  earlier other some := by
    rw [ViewEvent.outcomes_wrote] at some
    exact shows.earlier other some

/-- Asking for a view of a buffer gives its allocation one, if one is given, and is a call of the
device if the allocation has none. -/
theorem askedFor {name : String} {buffer : Buffer} (found : session.buffers[name]? = some buffer)
    {given : Bool} {host : Host (Instrumented Simulator)} {mappings : Slots Mapping}
    (kept : ({ session with host, mappings }).WellKept)
    (inner : host.device.inner = session.simulator)
    (calls : ∀ handle, host.device.calls.count (.map handle) =
      session.device.calls.count (.map handle) +
        if handle = buffer.handle ∧ session.host.region? buffer.allocation = none then 1 else 0)
    (here : (host.region? buffer.allocation).isSome = true ↔
      (session.host.region? buffer.allocation).isSome = true ∨ given = true)
    (others : ∀ other : Allocation, other.serial ≠ buffer.allocation.serial →
      host.region? other = session.host.region? other) :
    ({ session with host, mappings }).Shows
      (events ++ [ViewEvent.asked buffer.handle given]) where
  toWellKept := kept
  memory handle position := by
    rw [ViewEvent.lastByte_concat]
    change (host.device.inner.contents handle).byte position = _
    rw [inner]
    exact shows.memory handle position
  viewed other held listed := by
    have before := shows.viewed other held listed
    rw [ViewEvent.outcomes_asked]
    change (host.region? held.allocation).isSome = true ↔ _
    by_cases same : held.handle = buffer.handle
    · rw [shows.allocation_eq listed found same] at before ⊢
      rw [if_pos same, List.mem_append, here, before, List.mem_singleton, eq_comm (a := given)]
    · have apart : held.allocation.serial ≠ buffer.allocation.serial := fun equal =>
        same ((shows.sharesAllocation_iff listed found).mp (beq_iff_eq.mpr equal))
      rw [if_neg same, List.append_nil, others _ apart, before]
  asked handle := by
    have viewed := shows.viewed name buffer found
    rw [ViewEvent.outcomes_asked]
    change host.device.calls.count (.map handle) = _
    rw [calls, shows.asked]
    by_cases same : handle = buffer.handle
    · subst same
      rw [if_pos rfl, ViewEvent.asks_concat]
      simp only [← viewed]
      cases session.host.region? buffer.allocation <;> simp
    · rw [if_neg same, if_neg (fun both => same both.1), List.append_nil, Nat.add_zero]
  earlier handle some := by
    change handle < host.device.inner.nextHandle
    rw [inner]
    rw [ViewEvent.outcomes_asked] at some
    by_cases same : handle = buffer.handle
    · obtain ⟨simulated, lives, -⟩ := shows.live found
      exact shows.balanced.device.below handle
        (same ▸ Simulator.mem_of_live? (Option.isSome_iff_exists.mpr ⟨simulated, lives⟩))
    · rw [if_neg same, List.append_nil] at some
      exact shows.earlier handle some

/-- Asking for a view shows what is given. -/
theorem map {name : String} {buffer : Buffer} (found : session.buffers[name]? = some buffer)
    (given : Option String) :
    (perform (.buffer (.map given name)) session).2.Shows
      (events ++ [ViewEvent.asked buffer.handle
        (perform (.buffer (.map given name)) session).1.isOk]) := by
  have kept : (perform (.buffer (.map given name)) session).2.WellKept :=
    shows.toWellKept.perform rfl
  have counted : ∀ handle, (session.device.record (.map buffer.handle)).calls.count (.map handle) =
      session.device.calls.count (.map handle) + if handle = buffer.handle then 1 else 0 := by
    intro handle
    simp only [Instrumented.record, Array.count_push, beq_iff_eq, Call.map.injEq,
      eq_comm (a := handle)]
  rcases shows.map_cases found with
    ⟨region, -, viewed, run⟩ | ⟨unviewed, ⟨region, -, run⟩ | ⟨failure, faults, -, run⟩⟩
  · obtain ⟨mappings, made⟩ := perform_map found run given
    rw [made] at kept ⊢
    exact shows.askedFor found kept rfl (fun handle => by simp [viewed, device])
      (by simp [viewed]) fun _ _ => rfl
  · obtain ⟨mappings, made⟩ := perform_map found run given
    rw [made] at kept ⊢
    refine shows.askedFor found kept rfl (fun handle => ?_) ?_ fun other apart => ?_
    · simp only [unviewed, and_true]
      exact counted handle
    · obtain ⟨sharing, shared⟩ := shows.exists_sharing found
      simp [Host.region?, Host.keepRegion, shared, Except.isOk, Except.toBool, Except.map]
    · simp only [Host.region?, Host.keepRegion, Std.ExtTreeMap.getElem?_modify,
        Std.LawfulEqCmp.compare_eq_iff_eq, Ne.symm apart, if_false]
  · obtain ⟨mappings, made⟩ := perform_map found run given
    rw [made] at kept ⊢
    refine shows.askedFor found kept rfl (fun handle => ?_) ?_ fun _ _ => rfl
    · simp only [unviewed, and_true]
      exact counted handle
    · exact (or_iff_left Bool.false_ne_true).symm

/-- A write that succeeds is seen, and one that fails changes nothing. -/
theorem write {operation : MappingOperation}
    (views : (Operation.mapping operation).ofViews = true) {write : MappingWrite}
    (writes : operation.write? = some write) :
    (perform (.mapping operation) session).2.Shows
      (events ++ (session.event? (.mapping operation)).toList) := by
  have kept := shows.toWellKept.perform views
  cases found : session.mappings[write.mapping]? with
  | none =>
    have run : perform (.mapping operation) session = (.error .absent, session) := by
      rw [perform, operation.eq_of_write? writes]
      exact Action.bind_apply_of_error (find_of_none found) _
    have silent : session.event? (.mapping operation) = none := by simp [event?, writes, found]
    rwa [silent, run, Option.toList_none, List.append_nil]
  | some mapping =>
    obtain ⟨handle, shared, present, exactly⟩ := shows.named_mapping found
    have run := write_run views writes found shared
    split at run
    · rename_i inside
      have seen : session.event? (.mapping operation) = some
          (.wrote handle (mapping.base + write.offset).toNat write.data) := by
        rw [exactly _ _ inside]
        simp [event?, writes, found, shared, RegionId.handle?, run, Except.isOk, Except.toBool]
      rw [run] at kept
      rw [seen, run]
      exact shows.wrote present _ _ kept
    · obtain ⟨cause, refused⟩ := run
      have silent : session.event? (.mapping operation) = none := by
        simp [event?, writes, refused, Except.isOk, Except.toBool]
      rwa [silent, refused, Option.toList_none, List.append_nil]

/-- What changes no view and is no event goes on to show the same. -/
theorem silent {operation : Operation} (views : operation.ofViews = true)
    (same : session.SameViews (perform operation session).2)
    (silent : session.event? operation = none) :
    (perform operation session).2.Shows (events ++ (session.event? operation).toList) := by
  rw [silent, Option.toList_none, List.append_nil]
  exact shows.sameViews same (shows.toWellKept.perform views)

/-- Every operation on views shows what has happened before and what it does itself. -/
theorem perform {operation : Operation} (views : operation.ofViews = true) :
    (Session.perform operation session).2.Shows
      (events ++ (session.event? operation).toList) := by
  cases operation with
  | buffer operation =>
    cases operation with
    | map given name =>
      cases found : session.buffers[name]? with
      | none =>
        have run : Session.perform (.buffer (.map given name)) session =
            (.error .absent, session) :=
          Action.bind_apply_of_error (find_of_none found) _
        have silent : session.event? (.buffer (.map given name)) = none := by simp [event?, found]
        rwa [silent, run, Option.toList_none, List.append_nil]
      | some buffer =>
        have seen : session.event? (.buffer (.map given name)) = some (.asked buffer.handle
            (Session.perform (.buffer (.map given name)) session).1.isOk) := by
          simp [event?, found]
        rw [seen]
        exact shows.map found given
    | allocate name size flags pretending =>
      obtain rfl : pretending = false := by simpa [Operation.ofViews] using views
      exact shows.silent views
        (allocate_sameViews shows.plain shows.balanced.device.below name size flags) rfl
    | window | describe | sharesAllocation | release | flush | invalidate | mapping =>
      exact shows.silent views (bufferOperation_sameViews _ (by simp) (by simp) session) rfl
  | mapping operation =>
    cases writes : operation.write? with
    | some write => exact shows.write views writes
    | none =>
      exact shows.silent views (mappingOperation_sameViews writes session)
        (by simp [event?, writes])
  | instrument operation =>
    cases operation with
    | arm method fault => exact shows.silent views (arm_sameViews method fault session) rfl
    | shorten bytes => contradiction
  | pushbuffer | job | wait | simulator => contradiction

end Shows

/-- Every run of such operations shows what has happened before and what it does itself. -/
theorem Shows.run {events : List ViewEvent} {session : Session} (shows : session.Shows events)
    {operations : List Operation} (views : ∀ operation ∈ operations, operation.ofViews = true) :
    (session.run operations).Shows (events ++ session.events operations) := by
  induction operations generalizing session events with
  | nil => rwa [Session.events, List.append_nil]
  | cons operation rest ih =>
    obtain ⟨first, others⟩ := List.forall_mem_cons.mp views
    rw [Session.events, ← List.append_assoc]
    exact ih (shows.perform first) others

/-- All views of a session show one memory for each allocation, which the events alone tell. -/
structure OneMemory (events : List ViewEvent) (session : Session) : Prop where
  /-- Each byte of an allocation, released or not, is the one last written there. -/
  memory : ∀ handle position, (session.simulator.contents handle).byte position =
    ViewEvent.lastByte events handle position
  /-- A read answers the bytes last written in its range, whatever they were written through. One
  that is out of range is refused, and one of more bytes than any memory can have is given up. None
  of them changes anything. -/
  reads : ∀ (operation : MappingOperation) (read : MappingRead) (mapping : Mapping),
    operation.read? = some read → session.mappings[read.mapping]? = some mapping →
        ∃ handle, mapping.region.id = .buffer handle ∧
          if maxMemory < read.length then
            perform (.mapping operation) session = (.error .aborted, session)
          else if read.offset.toNat + read.length ≤ mapping.length.toNat then
            perform (.mapping operation) session =
              (.ok (read.answer ((List.range' (mapping.base.toNat + read.offset.toNat)
                read.length).map (ViewEvent.lastByte events handle))), session)
          else
            ∃ cause, perform (.mapping operation) session = (.error (.refused cause), session)
  /-- A write replaces the bytes of its range in its allocation, and nothing else; one that is out
  of range is refused and changes nothing. -/
  writes : ∀ (operation : MappingOperation) (write : MappingWrite) (mapping : Mapping),
    (Operation.mapping operation).ofViews = true → operation.write? = some write →
      session.mappings[write.mapping]? = some mapping →
        ∃ handle, mapping.region.id = .buffer handle ∧
          if write.offset.toNat + write.data.length ≤ mapping.length.toNat then
            ∃ simulator, perform (.mapping operation) session =
                (.ok .nothing, session.withSimulator simulator) ∧
              session.simulator.Rewrites simulator handle
                (mapping.base.toNat + write.offset.toNat) write.data
          else
            ∃ cause, perform (.mapping operation) session = (.error (.refused cause), session)
  /-- Buffers have one handle exactly if they are on one allocation. -/
  allocations : ∀ (first second : String) (one two : Buffer),
    session.buffers[first]? = some one → session.buffers[second]? = some two →
      (one.sharesAllocation two = true ↔ one.handle = two.handle)
  /-- A buffer has a mapping exactly if one was given to some buffer on its allocation. -/
  mapped : ∀ (name : String) (buffer : Buffer), session.buffers[name]? = some buffer →
    ((buffer.mapping? session.host).isSome = true ↔ .asked buffer.handle true ∈ events)
  /-- The mapping is its window on the memory of the allocation. -/
  windows : ∀ (name : String) (buffer : Buffer) (mapping : Mapping),
    session.buffers[name]? = some buffer → buffer.mapping? session.host = some mapping →
      mapping.region.id = .buffer buffer.handle ∧ mapping.base = buffer.offset ∧
        mapping.length = buffer.size
  /-- Asking for a view gives it, unless the allocation has none and the device has a failure of
  mapping in store. -/
  maps : ∀ (name : String) (buffer : Buffer) (given : Option String),
    session.buffers[name]? = some buffer →
      (.asked buffer.handle true ∈ events ∨ session.device.fault? .map = none) →
        ∃ region, region.id = .buffer buffer.handle ∧
          (perform (.buffer (.map given name)) session).1 =
            .ok (.mapping (buffer.mappingOf region))
  /-- The device was asked to map an allocation until it has once, and not again. -/
  asked : ∀ handle, session.device.calls.count (.map handle) =
    ViewEvent.asks (ViewEvent.outcomes events handle)
  /-- So it was asked once if it did the first time. -/
  once : ∀ handle, (ViewEvent.outcomes events handle).head? = some true →
    session.device.calls.count (.map handle) = 1

/-- What shows the events has one memory for each allocation. -/
theorem Shows.oneMemory {events : List ViewEvent} {session : Session}
    (shows : session.Shows events) : session.OneMemory events where
  memory := shows.memory
  reads operation read mapping reads found := by
    obtain ⟨handle, shared, -, exactly⟩ := shows.named_mapping found
    refine ⟨handle, shared, ?_⟩
    have run := read_run reads found shared
    split
    · rename_i overlong
      rwa [if_pos overlong] at run
    · rename_i short
      rw [if_neg short] at run
      split
      · rename_i inside
        rw [if_pos inside, exactly _ _ inside, Memory.read] at run
        rw [run]
        congr 4
        funext position
        exact shows.memory handle position
      · rename_i outside
        rwa [if_neg outside] at run
  writes operation write mapping views writes found := by
    obtain ⟨handle, shared, present, exactly⟩ := shows.named_mapping found
    refine ⟨handle, shared, ?_⟩
    have run := write_run views writes found shared
    split
    · rename_i inside
      rw [if_pos inside, exactly _ _ inside] at run
      exact ⟨_, run, Simulator.rewrites_writeBuffer present _ _⟩
    · rename_i outside
      rwa [if_neg outside] at run
  allocations _ _ _ _ found other := shows.sharesAllocation_iff found other
  mapped name buffer found := by
    rw [Buffer.mapping?, Option.isSome_map, shows.viewed name buffer found,
      ViewEvent.true_mem_outcomes_iff]
  windows name buffer mapping found mapped := by
    obtain ⟨region, shared, rfl⟩ := shows.mapping_eq found mapped
    exact ⟨shared, rfl, rfl⟩
  maps name buffer given found able := by
    rw [← ViewEvent.true_mem_outcomes_iff, ← shows.viewed name buffer found] at able
    rcases shows.map_cases found with
      ⟨region, shared, -, run⟩ | ⟨unviewed, ⟨region, shared, run⟩ | ⟨_, _, stored, -⟩⟩
    · obtain ⟨mappings, made⟩ := perform_map found run given
      exact ⟨region, shared, congrArg Prod.fst made⟩
    · obtain ⟨mappings, made⟩ := perform_map found run given
      exact ⟨region, shared, congrArg Prod.fst made⟩
    · rw [unviewed] at able
      exact absurd able (by simpa using stored)
  asked := shows.asked
  once handle first := by
    rw [shows.asked]
    cases outcomes : ViewEvent.outcomes events handle with
    | nil => simp [outcomes] at first
    | cons head rest =>
      rw [outcomes, List.head?_cons] at first
      rw [Option.some.inj first, ViewEvent.asks]

/-- All views show one memory. Wherever a run of operations takes a new session that allocate
buffers and give them up, put windows on them, ask for views, and read and write bytes and words
through these, in any order and some of them out of range: each byte is the one last written at its
place in the allocation through any view, also one that is gone; what is out of range is refused and
changes nothing; a write changes the bytes of its range and no others; the device is asked to map an
allocation until it has once; and from then on every buffer on the allocation has a mapping, and
none has before. -/
theorem views_show_one_memory (configuration : Configuration) {operations : List Operation}
    (views : ∀ operation ∈ operations, operation.ofViews = true) :
    ((initial configuration).run operations).OneMemory
      ((initial configuration).events operations) := by
  have shows := (shows_initial configuration).run views
  rw [List.nil_append] at shows
  exact shows.oneMemory

/-- Two windows that overlap, neither of them at the start of a word. One is mapped, and the other
has its mapping from there. Both are written through, one of them also past its end, and then what
was written through first is given up. -/
def overlappingViews : List Operation :=
  [.buffer (.allocate "page" 64 ⟨0⟩ false),
    .buffer (.allocate "other" 32 ⟨0⟩ false),
    .buffer (.window "left" "page" 3 9),
    .buffer (.window "right" "left" 4 8),
    .buffer (.map (some "low") "left"),
    .buffer (.mapping (some "high") "right"),
    .buffer (.map none "page"),
    .mapping (.writeBytes "low" 2 [1, 2, 3, 4, 5, 6]),
    .mapping (.writeWord "high" 1 0xcafef00d),
    .mapping (.writeWords "low" 6 [1]),
    .buffer (.release "left"),
    .mapping (.release "low")]

/-- The session after that. -/
def overlapped : Session :=
  (initial .standard).run overlappingViews

/-- What is left of the first write is seen through the other window before the second, and zero
behind it. The device was asked for one view, and has given none of the other allocation. -/
theorem dropped_view_shown :
    (initial .standard).events overlappingViews =
        [.asked 1 true, .asked 1 true, .wrote 1 5 [1, 2, 3, 4, 5, 6],
          .wrote 1 8 [0x0d, 0xf0, 0xfe, 0xca]] ∧
      overlapped.mappings["low"]? = none ∧
      perform (.mapping (.readBytes "high" 0 6)) overlapped =
        (.ok (.bytes [3, 0x0d, 0xf0, 0xfe, 0xca, 0]), overlapped) ∧
      (∃ cause, perform (.mapping (.readWords "high" 1 2)) overlapped =
        (.error (.refused cause), overlapped)) ∧
      overlapped.device.calls.count (.map 1) = 1 ∧
      ∀ buffer, overlapped.buffers["other"]? = some buffer →
        buffer.mapping? overlapped.host = none := by
  have views : ∀ operation ∈ overlappingViews, operation.ofViews = true := by decide +kernel
  have happened : (initial .standard).events overlappingViews =
      [.asked 1 true, .asked 1 true, .wrote 1 5 [1, 2, 3, 4, 5, 6],
        .wrote 1 8 [0x0d, 0xf0, 0xfe, 0xca]] := by decide +kernel
  have high : overlapped.mappings["high"]? = some ⟨⟨.buffer 1, 64⟩, 7, 8⟩ := by decide +kernel
  have memory : overlapped.OneMemory ((initial .standard).events overlappingViews) :=
    views_show_one_memory .standard views
  rw [happened] at memory
  refine ⟨happened, by decide +kernel, ?_, ?_, memory.once 1 rfl, fun buffer found => ?_⟩
  · obtain ⟨handle, shared, run⟩ := memory.reads (.readBytes "high" 0 6) _ _ rfl high
    obtain rfl := RegionId.buffer.inj shared
    rw [if_neg (by decide), if_pos (by decide)] at run
    exact run
  · obtain ⟨handle, -, run⟩ := memory.reads (.readWords "high" 1 2) _ _ rfl high
    rwa [if_neg (by decide), if_neg (by decide)] at run
  · have handle : (overlapped.buffers["other"]?).map Buffer.handle = some 2 := by decide +kernel
    rw [found] at handle
    have unmapped := memory.mapped "other" buffer found
    rw [Option.some.inj handle] at unmapped
    simpa using unmapped

end Session

end HostChannel

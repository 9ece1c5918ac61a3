import HostChannel.Proofs.Buffer
import HostChannel.Simulator.Execution

/-!
# Windows on windows

A window is put on a buffer, another one on that window, and so on. However long the chain is, and
also where a window reaches past the one it is put on, the last window is the one that is put at the
sum of all distances on the buffer the chain starts from. Sums are taken without a bound: one that
has no room in 64 bits is refused as such, and one that has is held against the allocation, never
against the window in between.
-/

namespace HostChannel

/-- Where a window is put on a buffer. -/
structure Placement where
  /-- How far the window starts behind the start of the buffer. -/
  offset : UInt64
  /-- Number of bytes of the window. -/
  length : UInt64
  deriving DecidableEq, Repr

namespace Placement

/-- How far the last window of a chain starts behind the buffer that the chain starts from. -/
def distance : List Placement → Nat
  | [] => 0
  | placement :: rest => placement.offset.toNat + distance rest

/-- The size of the last window of a chain; without any window it is that of the buffer. -/
def finalSize (size : UInt64) (chain : List Placement) : UInt64 :=
  (chain.getLast?.map length).getD size

/-- Behind the first window the rest of the chain goes on from its size. -/
theorem finalSize_cons (size : UInt64) (placement : Placement) (rest : List Placement) :
    finalSize size (placement :: rest) = finalSize placement.length rest := by
  cases rest with
  | nil => rfl
  | cons next others => simp [finalSize, List.getLast?_cons]

end Placement

namespace Buffer

variable {σ : Type} {buffer made : Buffer} {offset length : UInt64}

/-- What becomes of a window on a buffer is told by where it would end. -/
theorem Inside.window_run (inside : buffer.Inside) (offset length : UInt64) (host : Host σ) :
    buffer.window offset length host =
      if buffer.offset.toNat + offset.toNat + length.toNat ≤ buffer.allocation.size.toNat then
        (.ok ⟨buffer.allocation, UInt64.ofNat (buffer.offset.toNat + offset.toNat), length,
            .window⟩,
          host.retain buffer.allocation)
      else if UInt64.size ≤ buffer.offset.toNat + offset.toNat + length.toNat then
        (.error (.refused .offsetOverflow), host)
      else
        (.error (.refused (.windowOutOfBounds offset length
          (UInt64.ofNat (buffer.allocation.size.toNat - buffer.offset.toNat)))), host) := by
  have fits := buffer.allocation.size.toNat_lt
  have starts : buffer.offset ≤ buffer.allocation.size :=
    UInt64.le_iff_toNat_le.mpr (Nat.le_trans (Nat.le_add_right _ _) inside)
  have start : UInt64.ofNat (buffer.offset.toNat + offset.toNat) = buffer.offset + offset := by
    rw [UInt64.ofNat_add, UInt64.ofNat_toNat, UInt64.ofNat_toNat]
  have available : UInt64.ofNat (buffer.allocation.size.toNat - buffer.offset.toNat) =
      buffer.allocation.size - buffer.offset := by
    rw [← UInt64.toNat_sub_of_le _ _ starts, UInt64.ofNat_toNat]
  rw [window_apply, start, available]
  simp only [window?_eq_sum]
  by_cases ends :
      buffer.offset.toNat + offset.toNat + length.toNat ≤ buffer.allocation.size.toNat
  · rw [if_neg (by simp only [UInt64.size]; omega), if_neg (by omega), if_pos ends]
  · by_cases wraps : UInt64.size ≤ buffer.offset.toNat + offset.toNat + length.toNat
    · rw [if_pos wraps, if_neg ends, if_pos wraps]
    · rw [if_neg wraps, if_pos (by omega), if_neg ends, if_neg wraps]

/-- The whole of a new allocation is within it, and starts at its start. -/
theorem allocate_eq_ok [Device σ] {size : UInt64} {flags : BufferFlags} {owner : Buffer}
    {host after : Host σ} (allocated : allocate size flags host = (.ok owner, after)) :
    owner.offset = 0 ∧ owner.size = size ∧ owner.allocation.size = size := by
  rw [allocate] at allocated
  split at allocated
  · simp [Action.refuse] at allocated
  · obtain ⟨handle, between, -, last⟩ := Action.bind_eq_ok_iff.mp allocated
    simp only [Host.addAllocation, Prod.mk.injEq, Except.ok.injEq] at last
    obtain ⟨rfl, -⟩ := last
    exact ⟨rfl, rfl, rfl⟩

/-- A buffer that was allocated, or made as a window on such a buffer, or on such a window, on
whatever hosts and at whatever times. -/
inductive Made (σ : Type) [Device σ] : Buffer → Prop where
  /-- The buffer was allocated. -/
  | allocated {size : UInt64} {flags : BufferFlags} {host after : Host σ} {owner : Buffer}
    (given : allocate size flags host = (.ok owner, after)) : Made σ owner
  /-- The buffer is a window on a buffer that was made before. -/
  | window {base made : Buffer} {offset length : UInt64} {host after : Host σ}
    (before : Made σ base) (given : base.window offset length host = (.ok made, after)) :
    Made σ made

/-- However a buffer was made, it is within its allocation. -/
theorem Made.inside [Device σ] (made : buffer.Made σ) : buffer.Inside := by
  cases made with
  | allocated given =>
    obtain ⟨start, size, allocated⟩ := allocate_eq_ok given
    rw [Inside, start, size, allocated]
    exact Nat.le_of_eq (Nat.zero_add _)
  | window before given => exact inside_of_window? (window_eq_ok_iff.mp given).1

/-- A chain of windows leads from a buffer to the last of them. Each is put on the one before, at
any time, on whatever the host has become. -/
inductive Windows (σ : Type) : Buffer → List Placement → Buffer → Prop where
  /-- Without a window the chain stays at the buffer. -/
  | none (buffer : Buffer) : Windows σ buffer [] buffer
  /-- A window is put on the buffer, and the rest of the chain starts from that window. -/
  | put {base next last : Buffer} {placement : Placement} {rest : List Placement}
    {host after : Host σ}
    (given : base.window placement.offset placement.length host = (.ok next, after))
    (others : Windows σ next rest last) : Windows σ base (placement :: rest) last

namespace Windows

variable {base last : Buffer} {chain : List Placement}

/-- A chain stays on the allocation, and within it. -/
theorem stays (windows : Windows σ base chain last) (inside : base.Inside) :
    last.Inside ∧ last.allocation = base.allocation := by
  induction windows with
  | none buffer => exact ⟨inside, rfl⟩
  | put given others ih =>
    have made := (window_eq_ok_iff.mp given).1
    obtain ⟨within, same⟩ := ih (inside_of_window? made)
    obtain ⟨-, rfl⟩ := window?_eq_ok_iff.mp made
    exact ⟨within, same⟩

/-- It leads as far as its windows do together. -/
theorem toNat_offset (windows : Windows σ base chain last) :
    last.offset.toNat = base.offset.toNat + Placement.distance chain := by
  induction windows with
  | none buffer => rfl
  | put given others ih =>
    rw [ih, toNat_offset_of_window? (window_eq_ok_iff.mp given).1, Placement.distance,
      Nat.add_assoc]

/-- It leads to a window of the size asked for last. -/
theorem size_eq (windows : Windows σ base chain last) :
    last.size = Placement.finalSize base.size chain := by
  induction windows with
  | none buffer => rfl
  | put given others ih =>
    obtain ⟨-, rfl⟩ := window?_eq_ok_iff.mp (window_eq_ok_iff.mp given).1
    rw [ih, Placement.finalSize_cons]

/-- What a chain leads to is a window, unless there is none in it. -/
theorem kind_eq (windows : Windows σ base chain last) (some : chain ≠ []) :
    last.kind = .window := by
  induction windows with
  | none buffer => contradiction
  | @put base next last placement rest host after given others ih =>
    cases rest with
    | nil =>
      cases others
      obtain ⟨-, rfl⟩ := window?_eq_ok_iff.mp (window_eq_ok_iff.mp given).1
      rfl
    | cons second more => exact ih (List.cons_ne_nil second more)

/-- A chain of windows makes the same window as one that is put where the chain leads to. -/
theorem flattened (windows : Windows σ base chain last) (inside : base.Inside) (some : chain ≠ [])
    {offset : UInt64} (far : offset.toNat = Placement.distance chain) :
    base.window? offset last.size = .ok last := by
  obtain ⟨within, same⟩ := windows.stays inside
  have led := windows.toNat_offset
  have kind := windows.kind_eq some
  have start : last.offset = base.offset + offset := by
    apply UInt64.toNat_inj.mp
    have fits := last.offset.toNat_lt
    rw [UInt64.toNat_add]
    omega
  rw [Inside, same] at within
  refine window?_eq_ok_iff.mpr ⟨by omega, ?_⟩
  rw [← same, ← start, ← kind]

end Windows

/-- A window on a window is the window at the sum of the two distances, if the sum is a distance. -/
theorem window?_window? {parent middle view : Buffer} {offset length further extent : UInt64}
    (given : parent.window? offset length = .ok middle) :
    middle.window? further extent = .ok view ↔
      offset.toNat + further.toNat < UInt64.size ∧
        parent.window? (offset + further) extent = .ok view := by
  have start := toNat_offset_of_window? given
  obtain ⟨inside, rfl⟩ := window?_eq_ok_iff.mp given
  have fits := parent.allocation.size.toNat_lt
  simp only [window?_eq_ok_iff, start, UInt64.toNat_add, UInt64.add_assoc, UInt64.size]
  constructor
  · rintro ⟨ends, rfl⟩
    exact ⟨by omega, by omega, rfl⟩
  · rintro ⟨sum, ends, rfl⟩
    rw [Nat.mod_eq_of_lt sum] at ends
    exact ⟨by omega, rfl⟩

/-- Windows on windows flatten. From an allocation over any chain of windows to a base, and over any
further chain from there, a buffer is reached that starts where all distances together lead, has the
size asked for last, and shares handle, allocation and mapping with the owner. One window on the
base makes it just as well. A window on the buffer is made exactly if it ends within the allocation;
where its end has no room in 64 bits the sum is refused, and otherwise the bytes left in the
allocation are named. And two windows, one on the other, are the one at the sum of their distances.
-/
theorem windows_flatten [Device σ] {size : UInt64} {flags : BufferFlags} {start begun : Host σ}
    {owner base parent : Buffer} {before chain : List Placement}
    (allocated : allocate size flags start = (.ok owner, begun))
    (reached : Windows σ owner before base) (further : Windows σ base chain parent) :
    (base.offset.toNat = Placement.distance before ∧
      parent.offset.toNat = Placement.distance before + Placement.distance chain ∧
      parent.size = Placement.finalSize base.size chain ∧
      parent.offset.toNat + parent.size.toNat ≤ size.toNat) ∧
    (parent.allocation = owner.allocation ∧ parent.handle = owner.handle ∧
      parent.sharesAllocation owner = true ∧
      ∀ host : Host σ, parent.mapping? host =
        (owner.mapping? host).map fun whole => ⟨whole.region, parent.offset, parent.size⟩) ∧
    (chain ≠ [] → ∀ host : Host σ, ∃ offset, offset.toNat = Placement.distance chain ∧
      base.window offset parent.size host = (.ok parent, host.retain owner.allocation)) ∧
    (∀ (offset length : UInt64) (host : Host σ), parent.window offset length host =
      if parent.offset.toNat + offset.toNat + length.toNat ≤ size.toNat then
        (.ok ⟨owner.allocation, UInt64.ofNat (parent.offset.toNat + offset.toNat), length, .window⟩,
          host.retain owner.allocation)
      else if UInt64.size ≤ parent.offset.toNat + offset.toNat + length.toNat then
        (.error (.refused .offsetOverflow), host)
      else
        (.error (.refused (.windowOutOfBounds offset length
          (UInt64.ofNat (size.toNat - parent.offset.toNat)))), host)) ∧
    ∀ (offset length : UInt64) (earlier between : Host σ) (middle : Buffer),
      parent.window offset length earlier = (.ok middle, between) →
        ∀ (beyond extent : UInt64) (view : Buffer) (host after : Host σ),
          middle.window beyond extent host = (.ok view, after) ↔
            offset.toNat + beyond.toNat < UInt64.size ∧
              parent.window (offset + beyond) extent host = (.ok view, after) := by
  obtain ⟨zero, -, whole⟩ := allocate_eq_ok allocated
  obtain ⟨baseInside, baseSame⟩ := reached.stays (Made.allocated allocated).inside
  obtain ⟨inside, same⟩ := further.stays baseInside
  have shared : parent.allocation = owner.allocation := same.trans baseSame
  have baseStart : base.offset.toNat = Placement.distance before := by
    rw [reached.toNat_offset, zero, UInt64.toNat_zero, Nat.zero_add]
  have led := further.toNat_offset
  rw [baseStart] at led
  have ends : parent.offset.toNat + parent.size.toNat ≤ size.toNat := by
    rw [← whole, ← shared]
    exact inside
  refine ⟨⟨baseStart, led, further.size_eq, ends⟩,
    ⟨shared, congrArg Allocation.handle shared, ?_, ?_⟩, fun some host => ?_,
    fun offset length host => ?_,
    fun offset length earlier between middle given beyond extent view host after => ?_⟩
  · rw [sharesAllocation, shared, beq_self_eq_true]
  · intro host
    rw [mapping?, mapping?, shared, Option.map_map]
    rfl
  · have fits : Placement.distance chain < UInt64.size := by
      have bound := parent.offset.toNat_lt
      simp only [UInt64.size]
      omega
    have far : (UInt64.ofNat (Placement.distance chain)).toNat = Placement.distance chain :=
      UInt64.toNat_ofNat_of_lt' fits
    exact ⟨_, far, window_eq_ok_iff.mpr
      ⟨further.flattened baseInside some far, by rw [baseSame]⟩⟩
  · rw [inside.window_run, shared, whole]
  · have made := (window_eq_ok_iff.mp given).1
    have kept : middle.allocation = parent.allocation := by
      obtain ⟨-, rfl⟩ := window?_eq_ok_iff.mp made
      rfl
    rw [window_eq_ok_iff, window_eq_ok_iff, window?_window? made, kept, and_assoc]

/-- The first allocation of a page on a device. -/
def firstPage : Buffer :=
  ⟨⟨0, 1, 0x1000, ⟨0⟩⟩, 0, 0x1000, .owner⟩

/-- Sixteen bytes in the middle of it. -/
def narrowWindow : Buffer :=
  ⟨firstPage.allocation, 0x800, 0x10, .window⟩

/-- A window that was put on those, and lies wholly behind them. -/
def farWindow : Buffer :=
  ⟨firstPage.allocation, 0xf00, 0x80, .window⟩

/-- A device that nothing was asked of. -/
def freshHost : Host Simulator :=
  .ofDevice .standard (.initial .standard)

/-- The page is the first thing that the device hands out. -/
theorem firstPage_allocated : allocate 0x1000 ⟨0⟩ freshHost =
    (.ok firstPage, (allocate 0x1000 ⟨0⟩ freshHost).2) :=
  Prod.ext (by decide +kernel) rfl

/-- The narrow window is put on it. -/
theorem narrowWindow_put : firstPage.window 0x800 0x10 freshHost =
    (.ok narrowWindow, freshHost.retain firstPage.allocation) :=
  window_eq_ok_iff.mpr ⟨rfl, rfl⟩

/-- The two windows are one at the sum of their distances. On the far one a window may use up the
page, is refused if it is one byte longer, and has no end in 64 bits if it is much further away. -/
theorem far_window_flattened :
    (∃ begun, allocate 0x1000 ⟨0⟩ freshHost = (.ok firstPage, begun)) ∧
      Windows Simulator firstPage [⟨0x800, 0x10⟩] narrowWindow ∧
      Windows Simulator narrowWindow [⟨0x700, 0x80⟩] farWindow ∧
      (∃ offset, offset.toNat = 0x700 ∧ narrowWindow.window offset 0x80 freshHost =
        (.ok farWindow, freshHost.retain firstPage.allocation)) ∧
      farWindow.window 0x80 0x80 freshHost =
        (.ok ⟨firstPage.allocation, 0xf80, 0x80, .window⟩,
          freshHost.retain firstPage.allocation) ∧
      farWindow.window 0x80 0x81 freshHost =
        (.error (.refused (.windowOutOfBounds 0x80 0x81 0x100)), freshHost) ∧
      farWindow.window 0xfffffffffffff100 0 freshHost =
        (.error (.refused .offsetOverflow), freshHost) := by
  have second : narrowWindow.window 0x700 0x80 freshHost = (.ok farWindow, _) :=
    window_eq_ok_iff.mpr ⟨rfl, rfl⟩
  have narrow : Windows Simulator firstPage [⟨0x800, 0x10⟩] narrowWindow :=
    .put narrowWindow_put (.none _)
  have far : Windows Simulator narrowWindow [⟨0x700, 0x80⟩] farWindow := .put second (.none _)
  obtain ⟨-, -, once, every, -⟩ := windows_flatten firstPage_allocated narrow far
  refine ⟨⟨_, firstPage_allocated⟩, narrow, far, once (List.cons_ne_nil _ _) freshHost, ?_, ?_, ?_⟩
  · rw [every, if_pos (by decide)]
    rfl
  · rw [every, if_neg (by decide), if_neg (by decide)]
    rfl
  · rw [every, if_neg (by decide), if_pos (by decide)]

end Buffer

end HostChannel

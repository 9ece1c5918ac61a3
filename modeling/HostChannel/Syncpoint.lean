import HostChannel.Fence

/-!
# Syncpoints

A syncpoint has a counter and the greatest value that work already accepted will bring
it to. Accepting work reserves its increments; a counter that runs past what is reserved
takes the reserved value with it. `Syncpoint.advance` makes many increments at once and
is the repeated increment, as `advance_succ` says.
-/

namespace HostChannel

/-- A counter and the value that accepted work will bring it to. -/
structure Syncpoint where
  /-- The counter. -/
  value : Word
  /-- The value that accepted work will bring the counter to. -/
  reserved : Word
  deriving DecidableEq, Repr

namespace Syncpoint

/-- A syncpoint that has not been used. -/
def initial : Syncpoint := ⟨0, 0⟩

/-- Reserves increments; the new reserved value is the fence of the work. -/
def reserve (syncpoint : Syncpoint) (increments : Word) : Syncpoint :=
  { syncpoint with reserved := syncpoint.reserved + increments }

/-- Increments the counter; the reserved value never falls behind it. -/
def increment (syncpoint : Syncpoint) : Syncpoint :=
  let value := syncpoint.value + 1
  ⟨value, if reached syncpoint.reserved value then syncpoint.reserved else value⟩

/-- Makes a number of increments. A reserved value at most half the range ahead stays
until the counter has passed it; any other follows the counter. -/
def advance (syncpoint : Syncpoint) (count : Nat) : Syncpoint :=
  if count = 0 then syncpoint
  else
    let ahead := (syncpoint.reserved - syncpoint.value).toNat
    let value := syncpoint.value + UInt32.ofNat count
    ⟨value, if ahead ≤ Word.half ∧ count ≤ ahead then syncpoint.reserved else value⟩

/-- One more increment of a counter. -/
theorem ofNat_succ (value : Word) (count : Nat) :
    value + UInt32.ofNat (count + 1) = value + UInt32.ofNat count + 1 := by
  rw [UInt32.ofNat_add, ← UInt32.add_assoc]; rfl

/-- A counter has not reached the value after its own. -/
theorem not_reached_succ (value : Word) : reached value (value + 1) = false := by
  have bound := value.toNat_lt
  simp only [reached, Word.half, UInt32.toNat_sub, UInt32.toNat_add, UInt32.toNat_one,
    decide_eq_false_iff_not]
  omega

/-- While the counter is behind the reserved value, an increment leaves the reserved value
reached exactly when it is still ahead, by no more than half the range before. -/
theorem reached_reserved (value reserved : Word) (count : Nat)
    (within : count ≤ (reserved - value).toNat) :
    reached reserved (value + UInt32.ofNat (count + 1)) =
      decide (count + 1 ≤ (reserved - value).toNat ∧
        (reserved - value).toNat < Word.half + count + 1) := by
  have first := value.toNat_lt
  have second := reserved.toNat_lt
  simp only [UInt32.toNat_sub] at within
  simp only [reached, Word.half, UInt32.toNat_sub, UInt32.toNat_add, UInt32.toNat_ofNat',
    decide_eq_decide]
  omega

/-- No increments change nothing. -/
theorem advance_zero (syncpoint : Syncpoint) : syncpoint.advance 0 = syncpoint := rfl

/-- Many increments at once are the increments one after the other. -/
theorem advance_succ (syncpoint : Syncpoint) (count : Nat) :
    syncpoint.advance (count + 1) = (syncpoint.advance count).increment := by
  obtain ⟨value, reserved⟩ := syncpoint
  have bound := (reserved - value).toNat_lt
  have half : Word.half = 0x80000000 := rfl
  by_cases start : count = 0
  · subst start
    have far := reached_reserved value reserved 0 (Nat.zero_le _)
    simp only [Nat.zero_add, show (UInt32.ofNat 1 : Word) = 1 from rfl] at far
    simp only [advance, increment, far, Nat.zero_add, Nat.one_ne_zero, if_false, if_true,
      mk.injEq, show (UInt32.ofNat 1 : Word) = 1 from rfl, true_and, decide_eq_true_eq]
    congr 1
    simp only [eq_iff_iff]
    omega
  · by_cases near : (reserved - value).toNat ≤ Word.half ∧ count ≤ (reserved - value).toNat
    · have far := reached_reserved value reserved count near.2
      simp only [advance, increment, start, near, Nat.succ_ne_zero, if_false, ← ofNat_succ, far,
        mk.injEq, true_and, decide_eq_true_eq, and_self, if_true]
      congr 1
      simp only [eq_iff_iff]
      omega
    · have past : ¬ ((reserved - value).toNat ≤ Word.half ∧
          count + 1 ≤ (reserved - value).toNat) := by omega
      simp only [advance, increment, start, near, past, Nat.succ_ne_zero, if_false, ofNat_succ,
        not_reached_succ, Bool.false_eq_true]

end Syncpoint

end HostChannel

import HostChannel.Syncpoint

/-!
# Tallies

A tally is a syncpoint that is counted without wrap-around. Reserving and incrementing are
plain addition, and the reserved number is raised to the counter where it would fall behind.
A syncpoint whose reserved value compares numbers by their distance modulo the range does the
same as its tally as long as the reserved number is ahead by at most half the range
(`wrapped_increment`); what it holds is the tally's numbers cut to a word.
-/

namespace HostChannel

/-- A counter and its reserved value, counted without wrap-around. -/
structure Tally where
  /-- The number of increments so far. -/
  value : Nat
  /-- The greatest number that was promised or reached. -/
  reserved : Nat
  deriving DecidableEq, Repr

namespace Tally

/-- Nothing was counted yet. -/
def zero : Tally := ⟨0, 0⟩

/-- Promises increments. -/
def reserve (tally : Tally) (increments : Nat) : Tally :=
  { tally with reserved := tally.reserved + increments }

/-- Makes an increment. -/
def increment (tally : Tally) : Tally :=
  ⟨tally.value + 1, max tally.reserved (tally.value + 1)⟩

/-- Makes a number of increments. -/
def advance (tally : Tally) (count : Nat) : Tally :=
  ⟨tally.value + count, max tally.reserved (tally.value + count)⟩

/-- What a word has room for of the numbers. -/
def wrapped (tally : Tally) : Syncpoint :=
  ⟨UInt32.ofNat tally.value, UInt32.ofNat tally.reserved⟩

/-- The reserved number is not behind the counter. -/
def InOrder (tally : Tally) : Prop :=
  tally.value ≤ tally.reserved

/-- No increments change nothing where the numbers are in order. -/
theorem advance_zero {tally : Tally} (inOrder : tally.InOrder) : tally.advance 0 = tally := by
  simp only [advance, Nat.add_zero, Nat.max_eq_left inOrder]

/-- An increment followed by others is one more of them. -/
theorem advance_increment (tally : Tally) (count : Nat) :
    tally.increment.advance count = tally.advance (count + 1) := by
  simp only [advance, increment, mk.injEq]
  omega

/-- An increment leaves the numbers in order. -/
theorem increment_inOrder (tally : Tally) : tally.increment.InOrder :=
  Nat.le_max_right _ _

/-- A promise leaves the numbers in order. -/
theorem reserve_inOrder {tally : Tally} (inOrder : tally.InOrder) (increments : Nat) :
    (tally.reserve increments).InOrder :=
  Nat.le_trans inOrder (Nat.le_add_right _ _)

/-- A promise may be made before or after the numbers are cut to words. -/
theorem wrapped_reserve (tally : Tally) (increments : Word) :
    (tally.reserve increments.toNat).wrapped = tally.wrapped.reserve increments := by
  simp only [reserve, wrapped, Syncpoint.reserve, UInt32.ofNat_add, UInt32.ofNat_toNat]

/-- A word has reached another exactly when its number has, as long as the number is less than
half the range past the other and at most half the range before it. -/
theorem reached_ofNat {value threshold : Nat} (past : value < threshold + Word.half)
    (before : threshold ≤ value + Word.half) :
    reached (UInt32.ofNat value) (UInt32.ofNat threshold) = true ↔ threshold ≤ value := by
  simp only [Word.half] at past before
  simp only [reached, Word.half, UInt32.toNat_sub, UInt32.toNat_ofNat', decide_eq_true_eq]
  omega

/-- An increment may be made before or after the numbers are cut to words, as long as the
reserved number is at most half the range ahead. -/
theorem wrapped_increment {tally : Tally} (inOrder : tally.InOrder)
    (near : tally.reserved ≤ tally.value + Word.half) :
    tally.increment.wrapped = tally.wrapped.increment := by
  have ordered : tally.value ≤ tally.reserved := inOrder
  have next : UInt32.ofNat tally.value + 1 = UInt32.ofNat (tally.value + 1) := by
    rw [UInt32.ofNat_add]; rfl
  have half : Word.half = 0x80000000 := rfl
  have comparison := @reached_ofNat tally.reserved (tally.value + 1) (by omega) (by omega)
  simp only [increment, wrapped, Syncpoint.increment, next, Syncpoint.mk.injEq, true_and]
  by_cases ahead : tally.value + 1 ≤ tally.reserved
  · rw [if_pos (comparison.mpr ahead), Nat.max_eq_left ahead]
  · rw [if_neg fun reaches => ahead (comparison.mp reaches), Nat.max_eq_right (by omega)]

end Tally

end HostChannel

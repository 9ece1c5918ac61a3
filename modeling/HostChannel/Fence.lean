import HostChannel.Word

/-!
# Fences

A syncpoint's counter only grows, and wraps around. A fence names a value of a
syncpoint's counter; it is reached when the counter is at most half the range past it.
-/

namespace HostChannel

/-- A counter has reached a threshold when it is less than half the range past it. -/
def reached (value threshold : Word) : Bool :=
  (value - threshold).toNat < Word.half

/-- Reaching is a statement about the distance modulo the range of a word. -/
theorem reached_iff (value threshold : Word) :
    reached value threshold = true ↔
      (UInt32.size - threshold.toNat + value.toNat) % UInt32.size < Word.half := by
  simp [reached, UInt32.toNat_sub, UInt32.size]

/-- A counter has reached its own value. -/
theorem reached_self (value : Word) : reached value value = true := by
  simp [reached, Word.half]

/-- A value of a syncpoint's counter to wait for. -/
structure Fence where
  /-- Index of the syncpoint. -/
  syncpoint : Word
  /-- The value to reach. -/
  value : Word
  deriving DecidableEq, Repr

/-- The fence is reached by a counter's value. -/
def Fence.reachedBy (fence : Fence) (value : Word) : Bool :=
  reached value fence.value

/-- How a wait ends. -/
inductive WaitOutcome where
  /-- The threshold was reached. -/
  | completed
  /-- The time was over before. -/
  | timedOut
  deriving DecidableEq, Repr

end HostChannel

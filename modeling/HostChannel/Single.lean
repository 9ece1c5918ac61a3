import HostChannel.Word

/-!
# Single-precision numbers

Registers take single-precision numbers as words. Only the bits matter here: nothing is
computed with the numbers, and every word is the bits of one.
-/

namespace HostChannel

/-- A single-precision number, held by its bits. -/
structure Single where
  /-- Sign, exponent and fraction as they stand in a word. -/
  bits : Word
  deriving DecidableEq, Repr

/-- The nearest single-precision number; a tie goes to the even fraction. -/
def Single.ofFloat (number : Float) : Single :=
  ⟨number.toFloat32.toBits⟩

end HostChannel

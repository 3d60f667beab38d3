/-!
# Coefficients

A floating-point number kept as its 64 bits.  Two coefficients can be the same bits, or be equal as
numbers: then the two zeros are equal and a NaN equals nothing.

    c.equals c = true ↔ c.isNaN = false        (equals_self_iff)
-/

namespace WorkflowDispatch

/-- A double-precision number, as its bits. -/
structure Coefficient where
  bits : UInt64
  deriving DecidableEq, Repr

namespace Coefficient

/-- The bits below the sign. -/
def magnitude (c : Coefficient) : UInt64 := c.bits &&& 0x7fffffffffffffff

/-- All exponent bits are set and the fraction is not zero. -/
def isNaN (c : Coefficient) : Bool := decide (0x7ff0000000000000 < c.magnitude)

/-- Either of the two zeros. -/
def isZero (c : Coefficient) : Bool := c.magnitude == 0

/-- Equality of the numbers. -/
def equals (a b : Coefficient) : Bool :=
  !a.isNaN && !b.isNaN && (a.bits == b.bits || a.isZero && b.isZero)

theorem equals_self_iff (c : Coefficient) : c.equals c = true ↔ c.isNaN = false := by
  simp [equals]

end Coefficient

end WorkflowDispatch

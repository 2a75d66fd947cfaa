/-!
# Double precision numbers, by their bits

A parameter of this kind is carried and compared, never computed with, so its bits are all there is
to it.
-/

namespace TraceFlow

/-- A number of IEEE 754 binary64, given by its sixty-four bits. -/
structure Binary64 where
  bits : UInt64
deriving DecidableEq, Repr, Inhabited

namespace Binary64

/-- The bits of the absolute value: all but the sign. -/
def magnitude (x : Binary64) : UInt64 := x.bits &&& 0x7FFFFFFFFFFFFFFF

/-- All exponent bits are set, and some bit of the fraction is. -/
def isNaN (x : Binary64) : Bool := 0x7FF0000000000000 < x.magnitude

def isZero (x : Binary64) : Bool := x.magnitude == 0

/-- Numeric equality: a NaN equals nothing, the two zeros equal each other. -/
def same (x y : Binary64) : Bool :=
  !x.isNaN && !y.isNaN && (x.bits == y.bits || (x.isZero && y.isZero))

instance : BEq Binary64 := ⟨same⟩

example : (Binary64.mk 0x8000000000000000).same ⟨0⟩ = true := by decide

example : (Binary64.mk 0x7FF8000000000000).same ⟨0x7FF8000000000000⟩ = false := by decide

end Binary64

end TraceFlow

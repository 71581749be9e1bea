/-!
# Binary floating point

A `Binary64` is a double-precision number given by its sixty-four bits: a sign, eleven bits of
exponent and fifty-two of fraction. Two numbers are the same *datum* when their bits agree and
numerically equal (`Binary64.equal`) when they compare equal as numbers: the zeros are equal to
each other and a NaN to nothing.
-/

namespace RowFilter

/-- A double-precision number, by its bits. -/
structure Binary64 where
  bits : UInt64
  deriving DecidableEq, Repr

namespace Binary64

/-! ## Fields -/

/-- The sign bit is set. -/
def isNegative (x : Binary64) : Bool := decide (0x8000000000000000 ≤ x.bits.toNat)

/-- The eleven bits of biased exponent. -/
def exponentField (x : Binary64) : Nat := x.bits.toNat / 0x10000000000000 % 0x800

/-- The fifty-two bits of fraction. -/
def fraction (x : Binary64) : Nat := x.bits.toNat % 0x10000000000000

/-- The number with these three fields. -/
def ofFields (negative : Bool) (exponentField fraction : Nat) : Binary64 :=
  ⟨UInt64.ofNat ((if negative then 0x8000000000000000 else 0) + exponentField * 0x10000000000000
    + fraction)⟩

/-! ## Kinds -/

/-- Not a number: the top exponent with some fraction. -/
def isNaN (x : Binary64) : Bool := x.exponentField == 2047 && x.fraction != 0

/-- One of the two infinities. -/
def isInfinite (x : Binary64) : Bool := x.exponentField == 2047 && x.fraction == 0

/-- Neither infinite nor NaN. -/
def isFinite (x : Binary64) : Bool := x.exponentField != 2047

/-- One of the two zeros. -/
def isZero (x : Binary64) : Bool := x.exponentField == 0 && x.fraction == 0

/-- Positive zero. -/
def zero : Binary64 := ofFields false 0 0

/-- The infinity of a sign. -/
def infinity (negative : Bool) : Binary64 := ofFields negative 2047 0

/-- The quiet NaN. -/
def nan : Binary64 := ofFields false 2047 0x8000000000000

/-- The same magnitude with the sign set or cleared. -/
def withSign (negative : Bool) (x : Binary64) : Binary64 :=
  ofFields negative x.exponentField x.fraction

/-! ## Magnitude -/

/-- The magnitude of a finite number is `significand * 2 ^ scale`. -/
def significand (x : Binary64) : Nat :=
  if x.exponentField == 0 then x.fraction else 0x10000000000000 + x.fraction

/-- The binary exponent of the last place of a finite number. -/
def scale (x : Binary64) : Int :=
  if x.exponentField == 0 then -1074 else (x.exponentField : Int) - 1075

/-- The gap to the next number below is half the gap to the next above. -/
def isNarrowBelow (x : Binary64) : Bool := x.fraction == 0 && decide (1 < x.exponentField)

/-- The magnitude of a finite number as a quotient of naturals. -/
def ratio (x : Binary64) : Nat × Nat :=
  (x.significand <<< x.scale.toNat, 1 <<< (-x.scale).toNat)

/-! ## Numeric equality -/

/-- Equality of numbers: no NaN, and the same datum or two zeros. -/
def equal (x y : Binary64) : Bool :=
  !x.isNaN && !y.isNaN && (decide (x = y) || x.isZero && y.isZero)

end Binary64
end RowFilter

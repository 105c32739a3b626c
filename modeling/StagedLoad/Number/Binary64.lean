/-!
# Binary floating-point numbers

A number of the 64-bit binary format, kept as its bits, so that two numbers are equal as data
exactly when their bits are.  `magnitude?` takes a finite number apart into `m * 2 ^ q`, which is
what comparison with integers and printing are stated on.
-/

namespace StagedLoad

/-- A number of the 64-bit binary format. -/
structure Binary64 where
  bits : UInt64
deriving DecidableEq, Repr, Inhabited

namespace Binary64

/-- The number as the bits of a machine float. -/
def ofFloat (x : Float) : Binary64 := ⟨x.toBits⟩

/-- The machine float with these bits. -/
def toFloat (x : Binary64) : Float := Float.ofBits x.bits

/-- The sign bit. -/
def isNegative (x : Binary64) : Bool := x.bits.toNat / Nat.pow 2 63 == 1

/-- The eleven bits of the exponent. -/
def exponentField (x : Binary64) : Nat := x.bits.toNat / Nat.pow 2 52 % Nat.pow 2 11

/-- The fifty-two bits of the fraction. -/
def fractionField (x : Binary64) : Nat := x.bits.toNat % Nat.pow 2 52

/-- Whether the bits stand for no number at all. -/
def isNaN (x : Binary64) : Bool := x.exponentField == 2047 && x.fractionField != 0

/-- Whether the bits stand for an infinity. -/
def isInfinite (x : Binary64) : Bool := x.exponentField == 2047 && x.fractionField == 0

/-- The magnitude of a finite number as `m * 2 ^ q`. -/
def magnitude? (x : Binary64) : Option (Nat × Int) :=
  if x.exponentField = 2047 then none
  else if x.exponentField = 0 then some (x.fractionField, -1074)
  else some (Nat.pow 2 52 + x.fractionField, (x.exponentField : Int) - 1075)

/-- The integer that a finite number is equal to, if it is one. -/
def toInt? (x : Binary64) : Option Int :=
  match x.magnitude? with
  | none => none
  | some (m, q) =>
    let n : Option Nat :=
      if 0 ≤ q then some (m * Nat.pow 2 q.toNat)
      else if m % Nat.pow 2 (-q).toNat = 0 then some (m / Nat.pow 2 (-q).toNat)
      else none
    n.map fun n => if x.isNegative then -(n : Int) else n

/-- Whether the number is positive or negative zero. -/
def isZero (x : Binary64) : Bool := x.bits.toNat % Nat.pow 2 63 == 0

/-- Equality as numbers: the zeros are equal, and a NaN is equal to nothing. -/
def equals (x y : Binary64) : Bool :=
  !x.isNaN && !y.isNaN && (x.bits == y.bits || (x.isZero && y.isZero))

/-- Positive infinity. -/
def infinity : Binary64 := ⟨0x7FF0000000000000⟩

/-- The number that stands for no number. -/
def nan : Binary64 := ⟨0x7FF8000000000000⟩

/-- The bits that stand for no number, with a number of their own by which they can be told apart
from others of the kind. -/
def nanNumbered (n : Nat) : Binary64 := ⟨UInt64.ofNat (0x7FF8000000000000 + n % Nat.pow 2 51)⟩

/-- Positive zero. -/
def zero : Binary64 := ⟨0⟩

/-- The number with the other sign. -/
def negate (x : Binary64) : Binary64 := ⟨x.bits ^^^ 0x8000000000000000⟩

/-- The number nearest to `digits * 10 ^ exponent`.  Magnitudes far outside the range of the format
are settled by their number of digits. -/
def ofDecimal (digits : Nat) (exponent : Int) : Binary64 :=
  if digits = 0 then zero
  else
    let width : Int := (Nat.log2 digits : Int) * 30103 / 100000
    if width + exponent > 310 then infinity
    else if width + exponent < -330 then zero
    else if exponent < 0 then ofFloat (Float.ofScientific digits true exponent.natAbs)
    else ofFloat (Float.ofScientific digits false exponent.natAbs)

end Binary64

end StagedLoad

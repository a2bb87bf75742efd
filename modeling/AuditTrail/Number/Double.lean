/-
  Floating-point numbers of 64 bits, kept as their bits, so that two of them are equal exactly when
  nothing can tell them apart. Holds the reading of the bits as a sign, a whole mantissa and a power
  of two, and the passage from and to the machine's own numbers.
-/
namespace AuditTrail

/-- A floating-point number given by its 64 bits. -/
structure Double where
  bits : UInt64
  deriving DecidableEq, Repr, Inhabited

namespace Double

/-- The number whose bits are those of a machine number. -/
def ofFloat (x : Float) : Double := ⟨x.toBits⟩

/-- The machine number with these bits. -/
def toFloat (x : Double) : Float := Float.ofBits x.bits

/-- The sign bit: set also for minus zero. -/
def isNegative (x : Double) : Bool := x.bits >>> 63 == 1

/-- The eleven bits of the exponent. -/
def exponentBits (x : Double) : Nat := ((x.bits >>> 52) &&& 0x7ff).toNat

/-- The fifty-two bits of the fraction. -/
def fractionBits (x : Double) : Nat := (x.bits &&& 0xfffffffffffff).toNat

/-- Neither infinite nor undefined. -/
def isFinite (x : Double) : Bool := x.exponentBits != 0x7ff

/-- No number at all. -/
def isUndefined (x : Double) : Bool := x.exponentBits == 0x7ff && x.fractionBits != 0

/-- The whole mantissa `m` of a finite number of magnitude `m · 2 ^ (power - 1074)`. -/
def mantissa (x : Double) : Nat :=
  if x.exponentBits = 0 then x.fractionBits else x.fractionBits + 0x10000000000000

/-- The power of two that goes with the mantissa, counted from the smallest one, `2 ^ -1074`. -/
def power (x : Double) : Nat := x.exponentBits - 1

/-- Zero of either sign. -/
def isZero (x : Double) : Bool := x.isFinite && x.mantissa == 0

/-- Less than zero; minus zero is not, and no undefined number is. -/
def isBelowZero (x : Double) : Bool := x.isNegative && !x.isUndefined && !x.isZero

/-- The same magnitude with the opposite sign. -/
def negate (x : Double) : Double := ⟨x.bits ^^^ 0x8000000000000000⟩

/-- The nearest number to `digits · 10 ^ exponent`. -/
def ofDecimal (digits : Nat) (exponent : Int) : Double :=
  if exponent < 0 then ofFloat (Float.ofScientific digits true exponent.natAbs)
  else ofFloat (Float.ofScientific digits false exponent.natAbs)

/-- The nearest number to a natural number. -/
def ofNat (n : Nat) : Double := ofDecimal n 0

/-- Positive infinity. -/
def infinity : Double := ⟨0x7ff0000000000000⟩

/-- The undefined number. -/
def undefined : Double := ⟨0x7ff8000000000000⟩

end Double

end AuditTrail

import Stencil.Text.Basic

/-!
# Binary floating point with 64 bits

A double is its bit pattern.  A finite double is a signed mantissa times a power of two, and
`Double.ofQuotient` rounds an exact quotient to the nearest double, a half to the even mantissa.
All arithmetic is exact arithmetic on natural numbers.
-/

namespace Stencil

/-- A floating point number with 64 bits, given by its bit pattern. -/
structure Double where
  /-- The sign bit, eleven exponent bits and fifty-two mantissa bits. -/
  bits : UInt64
  deriving DecidableEq

namespace Double

/-- What a bit pattern stands for. -/
inductive View where
  /-- No number. -/
  | nan
  /-- An infinity with its sign. -/
  | infinite (negative : Bool)
  /-- The number `mantissa * 2 ^ exponent` with its sign. -/
  | finite (negative : Bool) (mantissa : Nat) (exponent : Int)
  deriving DecidableEq

/-- The exponent of the smallest positive double. -/
def leastExponent : Int := -1074

/-- The mantissa of a normal double is at least this. -/
def hiddenBit : Nat := 0x10000000000000

/-- The pattern of positive infinity, which every finite pattern without sign lies below. -/
def infinityPattern : Nat := 0x7FF0000000000000

/-- The value of the sign bit in a pattern. -/
def signBit : Nat := 0x8000000000000000

/-- A pattern without sign together with a sign bit. -/
def ofPattern (negative : Bool) (pattern : Nat) : Double :=
  ⟨UInt64.ofNat (if negative then pattern + signBit else pattern)⟩

/-- The sign bit. -/
def isNegative (x : Double) : Bool := x.bits.toNat / signBit == 1

/-- The pattern without its sign bit. -/
def pattern (x : Double) : Nat := x.bits.toNat % signBit

/-- The number that a bit pattern stands for. -/
def view (x : Double) : View :=
  let exponentField := x.pattern / hiddenBit
  let mantissaField := x.pattern % hiddenBit
  if x.pattern = infinityPattern then .infinite x.isNegative
  else if infinityPattern < x.pattern then .nan
  else if exponentField = 0 then .finite x.isNegative mantissaField leastExponent
  else .finite x.isNegative (mantissaField + hiddenBit) (exponentField - 1 + leastExponent)

/-- The quotient of two numbers rounded to the nearest integer, a half to the even one. -/
def roundQuotient (num den : Nat) : Nat :=
  let whole := num / den
  let twice := 2 * (num % den)
  if den < twice || (twice == den && whole % 2 == 1) then whole + 1 else whole

/-- The quotient `num / (den * 2 ^ exponent)` as a fraction of natural numbers. -/
def scaled (num den : Nat) (exponent : Int) : Nat × Nat :=
  (num * Nat.pow 2 (-exponent).toNat, den * Nat.pow 2 exponent.toNat)

/-- The exponent for which a positive quotient has a mantissa of fifty-three bits, or the least
exponent when the quotient is too small for that. -/
def exponentOf (num den : Nat) : Int :=
  let order : Int := (Nat.log2 num : Int) - Nat.log2 den
  let (scaledNum, scaledDen) := scaled num den order
  let exponent := if scaledDen ≤ scaledNum then order - 52 else order - 53
  max exponent leastExponent

/-- The double nearest to a signed quotient with a positive denominator, a half going to the even
mantissa and everything too large to infinity. -/
def ofQuotient (negative : Bool) (num den : Nat) : Double :=
  if num = 0 then ofPattern negative 0
  else
    let exponent := exponentOf num den
    let (scaledNum, scaledDen) := scaled num den exponent
    let mantissa := roundQuotient scaledNum scaledDen
    let pattern := (exponent - leastExponent).toNat * hiddenBit + mantissa
    ofPattern negative (min pattern infinityPattern)

/-- The double nearest to `digits * 10 ^ exponent` with a sign.  Numbers whose leading digit stands
above `10 ^ 309` or below `10 ^ -325` are settled before any power is formed. -/
def ofDecimal (negative : Bool) (digits : Nat) (exponent : Int) : Double :=
  let leading : Int := (Nat.toDigits 10 digits).length + exponent
  if digits = 0 ∨ leading < -325 then ofPattern negative 0
  else if 310 < leading then ofPattern negative infinityPattern
  else ofQuotient negative (digits * Nat.pow 10 exponent.toNat)
    (Nat.pow 10 (-exponent).toNat)

end Double

end Stencil

import Stencil.Number.Decimal
import Stencil.Number.Double

/-!
# Shortest decimals

A finite double is written with the fewest digits that round back to it.  The numbers that round to
`m * 2 ^ q` form an interval around it; on the grids of one, two, and more significant digits the
two neighbours of the value are tested against that interval, and the first grid with a hit wins.
Of two hits the nearer is taken, and of two equally near ones the larger.
-/

namespace Stencil

/-- The positive number `0.d₁d₂… * 10 ^ point`, given by its digits without trailing zeros. -/
structure ShortDecimal where
  /-- The significant digits, the first of which is not zero. -/
  digits : Text
  /-- The place of the decimal point, counted from before the first digit. -/
  point : Int
  deriving DecidableEq

namespace ShortDecimal

/-- The numbers that round to a given double, as multiples of a common unit. -/
structure Interval where
  /-- The lower end. -/
  low : Nat
  /-- The double itself. -/
  value : Nat
  /-- The upper end. -/
  high : Nat
  /-- The ends belong to the interval. -/
  closed : Bool
  /-- The number of units in one. -/
  one : Nat

namespace Interval

/-- The interval of the numbers that round to `mantissa * 2 ^ exponent`, in quarters of the last
place.  Below a power of two the doubles lie twice as close. -/
def around (mantissa : Nat) (exponent : Int) : Interval :=
  let scale := Nat.pow 2 exponent.toNat
  let below :=
    if mantissa = Double.hiddenBit ∧ Double.leastExponent < exponent then 1 else 2
  { low := (4 * mantissa - below) * scale
    value := 4 * mantissa * scale
    high := (4 * mantissa + 2) * scale
    closed := mantissa % 2 == 0
    one := 4 * Nat.pow 2 (-exponent).toNat }

/-- Membership of `numerator / denominator` units. -/
def contains (interval : Interval) (numerator denominator : Nat) : Bool :=
  let low := interval.low * denominator
  let high := interval.high * denominator
  (low < numerator && numerator < high)
    || (interval.closed && (numerator == low || numerator == high))

end Interval

/-- The least `n` for which `10 ^ n` exceeds a positive quotient. -/
def pointOf (num den : Nat) : Int :=
  if den ≤ num then (Nat.toDigits 10 (num / den)).length
  else
    let inverse := (den + num - 1) / num
    1 - (if inverse ≤ 1 then 0 else (Nat.toDigits 10 (inverse - 1)).length)

/-- The decimal of a number of grid steps, without trailing zeros. -/
def ofSteps (steps : Nat) (gridExponent : Int) : ShortDecimal :=
  let digits := Decimal.ofNat steps
  { digits := (digits.reverse.dropWhile (· == '0')).reverse
    point := digits.length + gridExponent }

/-- The point of the grid of `count` digits that is nearest to the value among its two neighbours
in the interval. -/
def onGrid? (interval : Interval) (point : Int) (count : Nat) : Option ShortDecimal :=
  let gridExponent := point - count
  let up := Nat.pow 10 gridExponent.toNat
  let down := Nat.pow 10 (-gridExponent).toNat
  let step := interval.one * up
  let steps := interval.value * down / step
  let remainder := interval.value * down % step
  let lower := interval.contains (steps * step) down
  let upper := interval.contains ((steps + 1) * step) down
  if upper && (!lower || step ≤ 2 * remainder) then some (ofSteps (steps + 1) gridExponent)
  else if lower then some (ofSteps steps gridExponent)
  else none

/-- The first hit on the grids of `count`, `count + 1`, … digits; seventeen digits always
suffice. -/
def search (interval : Interval) (point : Int) (count : Nat) : Nat → ShortDecimal
  | 0 => ofSteps interval.value 0
  | fuel + 1 =>
    match onGrid? interval point count with
    | some decimal => decimal
    | none => search interval point (count + 1) fuel

/-- The shortest decimal that rounds to `mantissa * 2 ^ exponent`, for a positive mantissa. -/
def ofBinary (mantissa : Nat) (exponent : Int) : ShortDecimal :=
  let interval := Interval.around mantissa exponent
  search interval (pointOf interval.value interval.one) 1 17

/-- Where positional notation is used and how exponents are written. -/
structure Style where
  /-- The least place of the point that is written positionally. -/
  leastPoint : Int
  /-- The greatest place of the point that is written positionally. -/
  greatestPoint : Int
  /-- The least number of digits of an exponent. -/
  exponentDigits : Nat

/-- Numbers from `10 ^ -4` up to and excluding `10 ^ 16` are written positionally; the others with
an exponent of at least two digits. -/
def Style.standard : Style where
  leastPoint := -3
  greatestPoint := 16
  exponentDigits := 2

/-- Digits with the decimal point in its place; a whole number keeps `.0`. -/
def positional (decimal : ShortDecimal) : Text :=
  let count := decimal.digits.length
  if decimal.point ≤ 0 then
    ['0', '.'] ++ List.replicate (-decimal.point).toNat '0' ++ decimal.digits
  else if decimal.point < count then
    decimal.digits.take decimal.point.toNat ++ ['.'] ++ decimal.digits.drop decimal.point.toNat
  else
    decimal.digits ++ List.replicate (decimal.point.toNat - count) '0' ++ ['.', '0']

/-- One digit, the point, the other digits and the exponent with its sign. -/
def scientific (style : Style) (decimal : ShortDecimal) : Text :=
  let exponent := decimal.point - 1
  let sign := if exponent < 0 then '-' else '+'
  let digits := Decimal.ofNat exponent.natAbs
  let padding := List.replicate (style.exponentDigits - digits.length) '0'
  let fraction :=
    match decimal.digits.drop 1 with
    | [] => []
    | rest => '.' :: rest
  decimal.digits.take 1 ++ fraction ++ ['e', sign] ++ padding ++ digits

/-- The text of a positive decimal in a style. -/
def toText (style : Style) (decimal : ShortDecimal) : Text :=
  if style.leastPoint ≤ decimal.point ∧ decimal.point ≤ style.greatestPoint then
    decimal.positional
  else decimal.scientific style

end ShortDecimal

namespace Double

/-- A sign in front of a text. -/
def signed (negative : Bool) (text : Text) : Text := if negative then '-' :: text else text

/-- The text of a double: its shortest decimal, and names for what is no finite number. -/
def toText (x : Double) : Text :=
  match x.view with
  | .nan => ['N', 'a', 'N']
  | .infinite negative => signed negative ['i', 'n', 'f']
  | .finite negative mantissa exponent =>
    if mantissa = 0 then signed negative ['0', '.', '0']
    else signed negative ((ShortDecimal.ofBinary mantissa exponent).toText .standard)

end Double

end Stencil

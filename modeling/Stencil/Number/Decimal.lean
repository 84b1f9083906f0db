import Stencil.Text.Basic

/-!
# Decimal numerals

The canonical decimal of an integer has no plus sign and no leading zero, and the value of a run
of digits is read off from the left.
-/

namespace Stencil.Decimal

/-- The canonical decimal of a natural number. -/
def ofNat (n : Nat) : Text := Nat.toDigits 10 n

/-- The canonical decimal of an integer. -/
def ofInt : Int → Text
  | .ofNat n => ofNat n
  | .negSucc n => '-' :: ofNat (n + 1)

/-- The number denoted by a run of decimal digits. -/
def toNat (digits : Text) : Nat := Nat.ofDigitChars 10 digits 0

/-- Every number is the value of its own decimal. -/
theorem toNat_ofNat (n : Nat) : toNat (ofNat n) = n :=
  Nat.ofDigitChars_toDigits (by decide) (by decide)

end Stencil.Decimal

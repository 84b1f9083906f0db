import Stencil.Text.Basic

/-!
# Hexadecimal numerals

Characters are named by their code points in hexadecimal, in either case of the digits.
-/

namespace Stencil.Hex

/-- The value of a hexadecimal digit. -/
def digit? (c : Char) : Option Nat :=
  if c.isDigit then some (c.toNat - 48)
  else if 'a' ≤ c && c ≤ 'f' then some (c.toNat - 87)
  else if 'A' ≤ c && c ≤ 'F' then some (c.toNat - 55)
  else none

/-- The number written by a nonempty run of hexadecimal digits. -/
def toNat? (digits : Text) : Option Nat :=
  if digits.isEmpty then none
  else digits.foldlM (fun n c => (digit? c).map (16 * n + ·)) 0

/-- The character with a code point, if there is one. -/
def charOfNat? (n : Nat) : Option Char :=
  if n < 0xD800 ∨ (0xDFFF < n ∧ n < 0x110000) then some (Char.ofNat n) else none

/-- The character whose code point is written in hexadecimal. -/
def char? (digits : Text) : Option Char := (toNat? digits).bind charOfNat?

end Stencil.Hex

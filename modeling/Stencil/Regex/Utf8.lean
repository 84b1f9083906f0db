import Stencil.Text.InversionList

/-!
# Ranges of characters as ranges of bytes

A range of code points is cut into pieces such that the characters of one piece are exactly those
whose bytes lie in one range for each place.
-/

namespace Stencil.Regex

/-- A range of bytes by its first and last ones. -/
abbrev ByteRange := Nat × Nat

/-- The bytes of a code point in UTF-8. -/
def utf8Bytes (n : Nat) : List Nat :=
  if n < 0x80 then [n]
  else if n < 0x800 then [0xC0 + n / 0x40, 0x80 + n % 0x40]
  else if n < 0x10000 then [0xE0 + n / 0x1000, 0x80 + n / 0x40 % 0x40, 0x80 + n % 0x40]
  else
    [0xF0 + n / 0x40000, 0x80 + n / 0x1000 % 0x40, 0x80 + n / 0x40 % 0x40, 0x80 + n % 0x40]

/-- The last code point of the first piece where the number of bytes changes inside a range. -/
def cutAtLength? (first last : Nat) : Option Nat :=
  [0x7F, 0x7FF, 0xFFFF].find? fun limit => first ≤ limit && limit < last

/-- The last code point of the first piece where blocks of a size, whose last bytes take all values,
are not complete at an end of a range over several of them. -/
def cutAtBlock? (first last size : Nat) : Option Nat :=
  if first / size = last / size then none
  else if first % size ≠ 0 then some (first / size * size + (size - 1))
  else if last % size ≠ size - 1 then some (last / size * size - 1)
  else none

/-- The last code point of the first of two pieces of a range that has to be cut. -/
def cut? (first last : Nat) : Option Nat :=
  cutAtLength? first last
    <|> if last < 0x80 then none
      else [0x40, 0x1000, 0x40000].findSome? (cutAtBlock? first last)

/-- The pieces of a range in order, each as a range of bytes for each place. -/
def byteRanges (first last : Nat) : List (List ByteRange) :=
  match cut? first last with
  | some middle =>
    if _h : first ≤ middle ∧ middle < last then
      byteRanges first middle ++ byteRanges (middle + 1) last
    else []
  | none => [(utf8Bytes first).zip (utf8Bytes last)]
  termination_by last - first

/-- The pieces of all ranges of a set in order. -/
def setByteRanges (set : InversionList) : List (List ByteRange) :=
  set.ranges.flatMap fun (first, last) => byteRanges first last

end Stencil.Regex

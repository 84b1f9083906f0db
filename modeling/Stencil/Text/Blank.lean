import Stencil.Text.Basic
import Stencil.Text.InversionList

/-!
# Blanks

A blank is a character with the Unicode property White_Space.  Trimming removes blanks at the ends
of a text and nothing else.
-/

namespace Stencil

/-- The code points with the property White_Space. -/
def blankTable : InversionList where
  bounds := [
    0x09, 0x0E, 0x20, 0x21, 0x85, 0x86, 0xA0, 0xA1, 0x1680, 0x1681, 0x2000, 0x200B, 0x2028, 0x202A,
    0x202F, 0x2030, 0x205F, 0x2060, 0x3000, 0x3001]

/-- A character is blank when it has the property White_Space. -/
def isBlank (c : Char) : Bool := blankTable.containsChar c

namespace Text

/-- The text without its leading blanks. -/
def trimStart (text : Text) : Text := text.dropWhile isBlank

/-- The text without its trailing blanks. -/
def trimEnd (text : Text) : Text := (text.reverse.dropWhile isBlank).reverse

/-- The text without the blanks at either end. -/
def trim (text : Text) : Text := trimEnd (trimStart text)

end Text

end Stencil

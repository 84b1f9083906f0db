import Stencil.Text.Basic
import Stencil.Text.InversionList

/-!
# Character sets with names

The sets of ASCII characters that bracket classes name, and the ASCII counterparts of the sets that
have a letter.
-/

namespace Stencil.Regex

/-- The ASCII characters of several ranges. -/
def asciiRanges (ranges : List (Char × Char)) : InversionList :=
  .ofRanges (ranges.map fun (first, last) => (first.toNat, last.toNat))

/-- The ASCII word characters. -/
def asciiWord : InversionList := asciiRanges [('0', '9'), ('A', 'Z'), ('_', '_'), ('a', 'z')]

/-- The ASCII digits. -/
def asciiDigit : InversionList := asciiRanges [('0', '9')]

/-- The ASCII blanks. -/
def asciiBlank : InversionList := asciiRanges [('\t', '\r'), (' ', ' ')]

/-- The set with a name between colons. -/
def namedSet? (name : Text) : Option InversionList :=
  match name.string with
  | "alnum" => some (asciiRanges [('0', '9'), ('A', 'Z'), ('a', 'z')])
  | "alpha" => some (asciiRanges [('A', 'Z'), ('a', 'z')])
  | "ascii" => some (.range 0 127)
  | "blank" => some (asciiRanges [('\t', '\t'), (' ', ' ')])
  | "cntrl" => some (asciiRanges [('\x00', '\x1f'), ('\x7f', '\x7f')])
  | "digit" => some asciiDigit
  | "graph" => some (asciiRanges [('!', '~')])
  | "lower" => some (asciiRanges [('a', 'z')])
  | "print" => some (asciiRanges [(' ', '~')])
  | "punct" => some (asciiRanges [('!', '/'), (':', '@'), ('[', '\x60'), ('{', '~')])
  | "space" => some asciiBlank
  | "upper" => some (asciiRanges [('A', 'Z')])
  | "word" => some asciiWord
  | "xdigit" => some (asciiRanges [('0', '9'), ('A', 'F'), ('a', 'f')])
  | _ => none

end Stencil.Regex

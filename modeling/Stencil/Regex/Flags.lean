import Stencil.Regex.Basic
import Stencil.Regex.CharSet
import Stencil.Text.Blank
import Stencil.Text.CaseFold
import Stencil.Text.Digit
import Stencil.Text.Word

/-!
# Flags of regular expressions

Flags change what the signs after them mean.  Without Unicode no set may have members outside ASCII,
because it could match a part of a character.
-/

namespace Stencil.Regex

/-- The flags in force at a place of an expression. -/
structure Flags where
  /-- Letters match in either case. -/
  ignoreCase : Bool := false
  /-- Anchors match at line ends. -/
  multiLine : Bool := false
  /-- The dot matches a line feed. -/
  dotAll : Bool := false
  /-- A carriage return ends lines too. -/
  returns : Bool := false
  /-- Repetitions and lazy repetitions change places. -/
  swapGreed : Bool := false
  /-- Classes are those of Unicode. -/
  unicode : Bool := true
  /-- Blanks and comments in the expression are skipped. -/
  verbose : Bool := false

/-- The text after blanks and comments; the flag says that a comment is being skipped. -/
def skipVerbose : Bool → Text → Text
  | _, [] => []
  | true, c :: rest => skipVerbose (c != '\n') rest
  | false, c :: rest =>
    if c = '#' then skipVerbose true rest
    else if isBlank c then skipVerbose false rest
    else c :: rest

namespace Flags

/-- The text after what the flags skip. -/
def skip (flags : Flags) (text : Text) : Text :=
  if flags.verbose then skipVerbose false text else text

/-- A set with the case variants that the flags ask for. -/
def fold (flags : Flags) (set : InversionList) : InversionList :=
  if flags.ignoreCase then if flags.unicode then set.foldCase else set.foldAsciiCase else set

/-- The complement of a set. -/
def compl? (flags : Flags) (set : InversionList) : Option InversionList :=
  if flags.unicode then some set.compl else none

/-- A set with its case variants, complemented if a flag says so. -/
def foldCompl? (flags : Flags) (negated : Bool) (set : InversionList) : Option InversionList :=
  if negated then flags.compl? (flags.fold set) else some (flags.fold set)

/-- The set of a class letter. -/
def classLetter? (flags : Flags) : Char → Option InversionList
  | 'd' => some (if flags.unicode then decimalDigitTable else asciiDigit)
  | 's' => some (if flags.unicode then blankTable else asciiBlank)
  | 'w' => some (if flags.unicode then wordTable else asciiWord)
  | 'D' => flags.compl? decimalDigitTable
  | 'S' => flags.compl? blankTable
  | 'W' => flags.compl? wordTable
  | _ => none

/-- What the dot matches. -/
def dot? (flags : Flags) : Option InversionList :=
  flags.compl?
    (if flags.dotAll then .none
    else if flags.returns then asciiRanges [('\n', '\n'), ('\r', '\r')]
    else asciiRanges [('\n', '\n')])

/-- The condition of a start anchor. -/
def startAnchor (flags : Flags) : Assertion :=
  if !flags.multiLine then .textStart else if flags.returns then .returnStart else .lineStart

/-- The condition of an end anchor. -/
def endAnchor (flags : Flags) : Assertion :=
  if !flags.multiLine then .textEnd else if flags.returns then .returnEnd else .lineEnd

/-- A character by itself, with its case variants if the flags ask for them. -/
def literal (flags : Flags) (c : Char) : Regex := .ofSet (flags.fold (.single c))

/-- One flag switched on or off. -/
def set? (flags : Flags) (on : Bool) : Char → Option Flags
  | 'i' => some { flags with ignoreCase := on }
  | 'm' => some { flags with multiLine := on }
  | 's' => some { flags with dotAll := on }
  | 'R' => some { flags with returns := on }
  | 'U' => some { flags with swapGreed := on }
  | 'u' => some { flags with unicode := on }
  | 'x' => some { flags with verbose := on }
  | _ => none

end Flags

end Stencil.Regex

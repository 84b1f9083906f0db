import Stencil.Literal.Basic
import Stencil.Text.Blank

/-!
# Faults of a literal list

A list that cannot be read is answered by the places that explain why, the innermost first.  A
place is kept as the part of the input that starts there, so its offset is known for every input.
`Fault.report` shows each place below its line of the input.
-/

namespace Stencil.Literal

/-- What is said about a place of the input. -/
inductive Complaint where
  /-- A sequence is not closed here. -/
  | expected (closer : Char)
  /-- An exponent has no digits. -/
  | missingDigit
  /-- The list ends here, and the input does not. -/
  | unread
  /-- The place where a bracketed sequence should be closed. -/
  | closingBracket
  /-- The place where a parenthesised sequence should be closed. -/
  | closingParenthesis
  /-- The literal that holds the inner places starts here. -/
  | literal
  deriving DecidableEq

/-- A place of the input with a complaint about it. -/
structure Place where
  /-- What is said about the place. -/
  complaint : Complaint
  /-- The input from the place on. -/
  rest : Text
  deriving DecidableEq

/-- The reason why a list cannot be read: its places, the innermost first. -/
structure Fault where
  /-- The places, the innermost first. -/
  places : List Place
  deriving DecidableEq

namespace Place

/-- The input before the place. -/
def before (place : Place) (input : Text) : Text := input.take (input.length - place.rest.length)

/-- The number of bytes of the input before the place. -/
def offset (place : Place) (input : Text) : Nat := (place.before input).byteSize

/-- The number of the line of the place, counted from one. -/
def lineNumber (place : Place) (input : Text) : Nat := (place.before input).count '\n' + 1

/-- The part of the place's line that stands before it. -/
def lead (place : Place) (input : Text) : Text :=
  ((place.before input).reverse.takeWhile (· != '\n')).reverse

/-- The line of the place without trailing blanks. -/
def line (place : Place) (input : Text) : Text :=
  ((place.lead input ++ place.rest).lines.headD []).trimEnd

/-- The words that follow the line number. -/
def heading : Complaint → String
  | .expected _ => ""
  | .missingDigit => ", in Digit"
  | .unread => ", in Eof"
  | .closingBracket => ", in closing bracket"
  | .closingParenthesis => ", in closing parenthesis"
  | .literal => ", in literal"

/-- The words below the caret. -/
def remark (place : Place) : Text :=
  match place.complaint, place.rest with
  | .expected closer, c :: _ =>
    "expected '".toList ++ [closer] ++ "', found ".toList ++ [c, '\n']
  | .expected closer, [] =>
    "expected '".toList ++ [closer] ++ "', got end of input\n".toList
  | _, _ => []

/-- The line of the place with a caret below the place, under a heading. -/
def report (place : Place) (input : Text) (index : Nat) : Text :=
  Decimal.ofNat index ++ ": at line ".toList ++ Decimal.ofNat (place.lineNumber input)
    ++ (heading place.complaint).toList ++ [':', '\n']
    ++ place.line input ++ ['\n']
    ++ List.replicate (place.lead input).byteSize ' ' ++ ['^', '\n']
    ++ place.remark ++ ['\n']

end Place

namespace Fault

/-- The fault with the literal that starts at a place around it. -/
def within (fault : Fault) (start : Text) : Fault :=
  ⟨fault.places ++ [⟨.literal, start⟩]⟩

/-- The places of a fault, one below the other. -/
def report (fault : Fault) (input : Text) : Text :=
  fault.places.zipIdx.flatMap fun (place, index) => place.report input index

end Fault

end Stencil.Literal

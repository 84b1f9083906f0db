import Stencil.Number.Shortest

/-!
# Literals

A loop runs over a list of literals: integers, doubles, strings, tuples and lists.  A literal has
two texts.  `Literal.toText` is what a placeholder is filled with, where a string stands bare;
`Literal.written` is the literal as it would be written in a list, where a string is quoted.
-/

namespace Stencil

/-- An element of a loop list. -/
inductive Literal where
  /-- An integer of 64 bits. -/
  | int (value : Int64)
  /-- An integer beyond 64 bits, kept as its decimal. -/
  | wide (digits : Text)
  /-- A floating point number. -/
  | double (value : Double)
  /-- A string. -/
  | str (content : Text)
  /-- A parenthesised sequence. -/
  | tuple (items : List Literal)
  /-- A bracketed sequence. -/
  | list (items : List Literal)
  deriving Inhabited

namespace Literal

/-- The integer literal of a number: of 64 bits if it fits, else its decimal. -/
def ofInt (n : Int) : Literal :=
  if Int64.minValue.toInt ≤ n ∧ n ≤ Int64.maxValue.toInt then .int (Int64.ofInt n)
  else .wide (Decimal.ofInt n)

/-- The values that an element offers to the variables of a loop: the members of a sequence, and
any other element by itself. -/
def bindings : Literal → List Literal
  | .tuple items => items
  | .list items => items
  | scalar => [scalar]

/-- A character of a string between single quotes. -/
def writtenChar (c : Char) : Text :=
  if c = '\\' ∨ c = '\'' then ['\\', c] else [c]

mutual

/-- The literal as it is written in a list. -/
def written : Literal → Text
  | .int value => Decimal.ofInt value.toInt
  | .wide digits => digits
  | .double value => value.toText
  | .str content => '\'' :: (content.flatMap writtenChar ++ ['\''])
  | .tuple [item] => '(' :: (item.written ++ [',', ')'])
  | .tuple items => '(' :: (writtenAll items ++ [')'])
  | .list items => '[' :: (writtenAll items ++ [']'])

/-- Several written literals, separated by a comma and a space. -/
def writtenAll : List Literal → Text
  | [] => []
  | [item] => item.written
  | item :: rest => item.written ++ [',', ' '] ++ writtenAll rest

end

/-- The text that a placeholder bound to the literal is filled with. -/
def toText : Literal → Text
  | .str content => content
  | literal => literal.written

end Literal

end Stencil

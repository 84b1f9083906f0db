import Stencil.Text.Basic

/-!
# Cursors in a document

A cursor is the unread part of a document together with where it starts.  Columns decide how the
blocks of a document nest, so every step forward keeps the column up to date.  A place in the
document is counted in bytes and a column in characters.
-/

namespace Stencil.Yaml

/-- A space or a tab. -/
def isSpaceOrTab (c : Char) : Bool := c == ' ' || c == '\t'

/-- A character that ends a line. -/
def isBreak (c : Char) : Bool :=
  c == '\n' || c == '\r' || c == '\u0085' || c == '\u2028' || c == '\u2029'

/-- The end of the document, a space, a tab or a line end. -/
def isGap : Option Char → Bool
  | none => true
  | some c => isSpaceOrTab c || isBreak c

/-- A place in a document. -/
structure Cursor where
  /-- The unread part. -/
  rest : Text
  /-- The number of bytes read. -/
  index : Nat
  /-- The number of lines read. -/
  line : Nat
  /-- The number of characters read on this line. -/
  column : Nat

namespace Cursor

/-- The start of a document. -/
def start (text : Text) : Cursor := ⟨text, 0, 0, 0⟩

/-- The character at some distance. -/
def peek (cursor : Cursor) (distance : Nat) : Option Char := cursor.rest[distance]?

/-- The cursor further on in the same line. -/
def advance (cursor : Cursor) (count : Nat) : Cursor :=
  { cursor with
    rest := cursor.rest.drop count
    index := cursor.index + Text.byteSize (cursor.rest.take count)
    column := cursor.column + count }

/-- The cursor after a line end. -/
def nextLine (cursor : Cursor) : Cursor :=
  let width := if cursor.peek 0 = some '\r' ∧ cursor.peek 1 = some '\n' then 2 else 1
  { cursor.advance width with line := cursor.line + 1, column := 0 }

/-- The leading characters with a property and the cursor after them, on one line. -/
def takeWhile (cursor : Cursor) (property : Char → Bool) : Text × Cursor :=
  let taken := cursor.rest.takeWhile property
  (taken, cursor.advance taken.length)

/-- The cursor after the leading characters with a property, on one line. -/
def dropWhile (cursor : Cursor) (property : Char → Bool) : Cursor :=
  (cursor.takeWhile property).2

/-- The line end at the cursor, as it is kept in scalars. -/
def breakText (cursor : Cursor) : Text :=
  match cursor.peek 0 with
  | some '\u2028' => ['\u2028']
  | some '\u2029' => ['\u2029']
  | some c => if isBreak c then ['\n'] else []
  | none => []

/-- The cursor stands at a line end. -/
def atBreak (cursor : Cursor) : Bool := cursor.rest.head?.any isBreak

/-- The cursor stands at a space or a tab. -/
def atSpaceOrTab (cursor : Cursor) : Bool := cursor.rest.head?.any isSpaceOrTab

/-- Three given characters stand alone at the start of a line. -/
def atMarker (cursor : Cursor) (c : Char) : Bool :=
  cursor.column == 0 && cursor.rest.take 3 == [c, c, c] && isGap (cursor.peek 3)

/-- A line that starts or ends a document. -/
def atDocumentMarker (cursor : Cursor) : Bool := cursor.atMarker '-' || cursor.atMarker '.'

/-- The cursor after the spaces, tabs and comment at the end of a line, if nothing else stands
there, and after the line end. -/
def endLine? (cursor : Cursor) : Option Cursor :=
  let cursor := cursor.dropWhile isSpaceOrTab
  let cursor := if cursor.peek 0 = some '#' then cursor.dropWhile (!isBreak ·) else cursor
  if cursor.atBreak then some cursor.nextLine
  else if cursor.rest.isEmpty then some cursor
  else none

end Cursor

end Stencil.Yaml

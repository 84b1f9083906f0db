/-!
# Text

Text is a list of characters, so every reader of it is a recursion on a list and every printer a
concatenation.  `Text.lines` cuts text at its line ends and `Text.replaceAll` replaces the
occurrences of one word from left to right.
-/

namespace Stencil

/-- A text is the list of its characters. -/
abbrev Text := List Char

namespace Text

/-- The number of bytes that a text takes in UTF-8. -/
def byteSize (text : Text) : Nat := text.foldr (fun c size => c.utf8Size + size) 0

/-- The text as it is shown in messages. -/
def string (text : Text) : String := String.ofList text

/-- The lines of a text: a line ends at a line feed, a carriage return directly before that line
feed belongs to the line end, and no line follows a final line feed. -/
def lines : Text → List Text
  | [] => []
  | '\n' :: rest => [] :: lines rest
  | '\r' :: '\n' :: rest => [] :: lines rest
  | c :: rest =>
    match lines rest with
    | [] => [[c]]
    | first :: others => (c :: first) :: others

/-- `replaceFrom old new skip text` drops `skip` characters of `text`, which belong to an occurrence
already replaced, and replaces the occurrences of `old` in what follows. -/
def replaceFrom (old new : Text) : Nat → Text → Text
  | _, [] => []
  | skip + 1, _ :: rest => replaceFrom old new skip rest
  | 0, c :: rest =>
    if old.isPrefixOf (c :: rest) then new ++ replaceFrom old new (old.length - 1) rest
    else c :: replaceFrom old new 0 rest

/-- The text with every occurrence of the nonempty word `old`, found from left to right without
overlap, replaced by `new`. -/
def replaceAll (text old new : Text) : Text := replaceFrom old new 0 text

/-- The two sides of the first place where a character stands in a text. -/
def splitFirst? (text : Text) (c : Char) : Option (Text × Text) :=
  match text.span (· != c) with
  | (before, _ :: after) => some (before, after)
  | (_, []) => none

end Text

end Stencil

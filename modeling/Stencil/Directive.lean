import Stencil.Text.Blank
import Stencil.Text.Word

/-!
# Directives

A line that starts with the special mark, blanks aside, is a directive or malformed; every other
line is plain.  Six directives are fixed words, and two carry data: a type entry names a control and
its base, and a loop header names variables and holds the text of a literal list.
`classify` decides what a line is, and blanks around the line do not matter to it.
-/

namespace Stencil

/-- What a directive line asks for. -/
inductive Directive where
  /-- Open a types section. -/
  | beginTypes
  /-- Close a types section. -/
  | endTypes
  /-- Declare a control in a types section. -/
  | typeEntry (name base : Text)
  /-- Open a copy section. -/
  | beginCopy
  /-- Close a copy section. -/
  | endCopy
  /-- Write a block for every control. -/
  | writeAll
  /-- Open a loop over a literal list, given by the text between its brackets. -/
  | foreach (vars : List Text) (list : Text)
  /-- Close a loop. -/
  | endForeach
  deriving DecidableEq

/-- What a line is. -/
inductive LineKind where
  /-- Ordinary text. -/
  | plain
  /-- A directive. -/
  | directive (directive : Directive)
  /-- A line with the special mark that is no directive. -/
  | unknown
  deriving DecidableEq

namespace Mark

/-- The mark that every directive starts with. -/
def special : Text := "// --".toList

/-- The line that opens a types section. -/
def beginTypes : Text := "// -- begin types --".toList

/-- The line that closes a types section. -/
def endTypes : Text := "// -- end types --".toList

/-- The line that opens a copy section. -/
def beginCopy : Text := "// -- begin control copy --".toList

/-- The line that closes a copy section. -/
def endCopy : Text := "// -- end control copy --".toList

/-- The line that writes every control. -/
def writeAll : Text := "// -- write controls --".toList

/-- The line that closes a loop. -/
def endForeach : Text := "// -- endforeach --".toList

/-- The start of a loop header; a line that starts so and is no loop header is malformed. -/
def foreach : Text := "// -- foreach ".toList

end Mark

namespace Text

/-- The text is the fragment, blanks at its ends aside. -/
def isLine (text fragment : Text) : Bool := text.trim == fragment

/-- The text starts with the fragment, leading blanks aside. -/
def beginsWith (text fragment : Text) : Bool := fragment.isPrefixOf text.trimStart

/-- The text starts with the special mark, leading blanks aside. -/
def isSpecial (text : Text) : Bool := text.beginsWith Mark.special

/-- The text after its leading blanks, of which there is at least one. -/
def dropBlanks? : Text → Option Text
  | c :: rest => if isBlank c then some (trimStart rest) else none
  | [] => none

end Text

namespace Directive

/-! ## Type entries -/

/-- A leading word and the text after it. -/
def readWord? (text : Text) : Option (Text × Text) :=
  match text.span isWordChar with
  | ([], _) => none
  | (word, rest) => some (word, rest)

/-- Nothing, or two dashes with blanks around them. -/
def isEntryEnd (text : Text) : Bool :=
  match text.trimStart with
  | [] => true
  | '-' :: '-' :: rest => Text.trimStart rest == []
  | _ => false

/-- The name and the base of a type entry: the mark, a word, a colon, a word, and optionally two
dashes, with blanks anywhere between them. -/
def readEntry? (line : Text) : Option (Text × Text) := do
  let rest ← List.isPrefixOf? ['/', '/'] line.trimStart
  let rest ← List.isPrefixOf? ['-', '-'] (Text.trimStart rest)
  let (name, rest) ← readWord? (Text.trimStart rest)
  let rest ← List.isPrefixOf? [':'] (Text.trimStart rest)
  let (base, rest) ← readWord? (Text.trimStart rest)
  if isEntryEnd rest then some (name, base) else none

/-! ## Loop headers -/

/-- The text after blanks, the word `in`, blanks and an opening bracket. -/
def readIn? (text : Text) : Option Text := do
  let rest ← text.dropBlanks?
  let rest ← List.isPrefixOf? ['i', 'n'] rest
  let rest ← Text.dropBlanks? rest
  List.isPrefixOf? ['['] rest

/-- The nonempty text before the first place where `in` and a bracket follow, and the text after
that bracket. -/
def splitAtIn? : Text → Option (Text × Text)
  | [] => none
  | c :: rest =>
    match readIn? rest with
    | some list => some ([c], list)
    | none => (splitAtIn? rest).map fun (vars, list) => (c :: vars, list)

/-- The text before the closing bracket that two dashes follow at the end. -/
def readListEnd? (text : Text) : Option Text :=
  match text.trimEnd.reverse with
  | '-' :: '-' :: rest =>
    match (rest.dropWhile isBlank) with
    | ']' :: list => some list.reverse
    | _ => none
  | _ => none

/-- The variables of a loop header: words separated by commas, no two of them equal. -/
def readVars? (text : Text) : Option (List Text) :=
  let vars := (text.splitOn ',').map Text.trim
  if vars.all Text.isWord && decide vars.Nodup then some vars else none

/-- The variables and the list text of a loop header. -/
def readHeader? (line : Text) : Option (List Text × Text) := do
  let rest ← Mark.foreach.isPrefixOf? line.trimStart
  let (vars, rest) ← splitAtIn? (Text.trimStart rest)
  let list ← readListEnd? rest
  if vars.contains '\n' || list.contains '\n' then none
  else
    let vars ← readVars? vars
    some (vars, list)

end Directive

/-! ## Classification -/

/-- The directives that are fixed lines. -/
def Directive.fixed : List (Text × Directive) :=
  [ (Mark.beginTypes, .beginTypes),
    (Mark.endTypes, .endTypes),
    (Mark.beginCopy, .beginCopy),
    (Mark.endCopy, .endCopy),
    (Mark.writeAll, .writeAll),
    (Mark.endForeach, .endForeach) ]

/-- What a line is: plain without the special mark, else a fixed directive, a loop header if it
starts like one, a type entry, or malformed. -/
def classify (line : Text) : LineKind :=
  if !line.isSpecial then .plain
  else
    match Directive.fixed.find? fun entry => line.isLine entry.1 with
    | some (_, directive) => .directive directive
    | none =>
      if line.beginsWith Mark.foreach then
        match Directive.readHeader? line with
        | some (vars, list) => .directive (.foreach vars list)
        | none => .unknown
      else
        match Directive.readEntry? line with
        | some (name, base) => .directive (.typeEntry name base)
        | none => .unknown

end Stencil

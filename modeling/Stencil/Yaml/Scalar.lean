import Stencil.Number.Hex
import Stencil.Yaml.Cursor

/-!
# Scalars

Scalars are written plain, between quotes, or as blocks.  Line ends inside plain and quoted scalars
are folded: a single line end becomes a space, and of several the first is dropped.
-/

namespace Stencil.Yaml

/-- How a scalar is written. -/
inductive ScalarStyle where
  /-- Without quotes. -/
  | plain
  /-- Between quotes. -/
  | quoted
  /-- As a block whose line ends are kept. -/
  | literal
  /-- As a block whose line ends are folded. -/
  | folded
  deriving DecidableEq

/-! ## Folding -/

/-- The spaces and line ends between two parts of a scalar. -/
structure Fold where
  /-- The spaces before the first line end. -/
  spaces : Text
  /-- The line ends. -/
  breaks : List Text

/-- What a gap contributes to a scalar.  After an escaped line end nothing is folded. -/
def Fold.text (fold : Fold) (escaped : Bool) : Text :=
  match fold.breaks with
  | [] => if escaped then [] else fold.spaces
  | first :: others =>
    if escaped then fold.breaks.flatten
    else if first = ['\n'] then if others.isEmpty then [' '] else others.flatten
    else fold.breaks.flatten

/-- The gap at a cursor.  A tab before the column `indent` of a later line is refused.  The flag
says that a line end was passed. -/
def readFold? (indent : Int) : Nat → Bool → Cursor → Option (Fold × Cursor)
  | 0, _, _ => none
  | fuel + 1, broken, cursor =>
    if cursor.atBreak then do
      let (fold, after) ← readFold? indent fuel true cursor.nextLine
      some ({ fold with spaces := [], breaks := cursor.breakText :: fold.breaks }, after)
    else
      match cursor.peek 0 with
      | some c =>
        if isSpaceOrTab c then
          if broken && decide ((cursor.column : Int) < indent) && c == '\t' then none
          else do
            let (fold, after) ← readFold? indent fuel broken (cursor.advance 1)
            some ({ fold with spaces := c :: fold.spaces }, after)
        else some (⟨[], []⟩, cursor)
      | none => some (⟨[], []⟩, cursor)

/-! ## Plain scalars -/

/-- A character that ends a plain scalar inside brackets. -/
def isFlowIndicator (c : Char) : Bool :=
  c == ',' || c == '[' || c == ']' || c == '{' || c == '}'

/-- The leading characters of a plain scalar without gaps.  A colon ends it before a gap; inside
brackets also the indicators do, and a colon directly before one of them is refused. -/
def plainRun? (inFlow : Bool) : Text → Option Text
  | [] => some []
  | c :: rest =>
    if isGap (some c) then some []
    else if inFlow && c == ':' && rest.head?.any (fun d => isFlowIndicator d || d == '?') then none
    else if c == ':' && isGap rest.head? then some []
    else if inFlow && isFlowIndicator c then some []
    else (plainRun? inFlow rest).map (c :: ·)

/-- A scalar that was read. -/
structure ReadScalar where
  /-- The content. -/
  content : Text
  /-- The scalar ended after a line end. -/
  broken : Bool
  /-- The cursor after the scalar. -/
  after : Cursor

/-- The rest of a plain scalar, after a gap. -/
def readPlain? (inFlow : Bool) (indent : Int) :
    Nat → (gap : Text) → (broken : Bool) → Cursor → Option ReadScalar
  | 0, _, _, _ => none
  | fuel + 1, gap, broken, cursor =>
    if cursor.atDocumentMarker || cursor.peek 0 == some '#' then some ⟨[], broken, cursor⟩
    else do
      let run ← plainRun? inFlow cursor.rest
      let cursor := cursor.advance run.length
      let content := if run.isEmpty then [] else gap ++ run
      let broken := broken && run.isEmpty
      if cursor.atBreak || cursor.atSpaceOrTab then
        let (fold, cursor) ← readFold? indent (cursor.rest.length + 1) broken cursor
        let broken := broken || !fold.breaks.isEmpty
        if !inFlow && decide ((cursor.column : Int) < indent) then
          some ⟨content, broken, cursor⟩
        else
          let more ← readPlain? inFlow indent fuel (fold.text false) broken cursor
          some { more with content := content ++ more.content }
      else some ⟨content, broken, cursor⟩

/-! ## Quoted scalars -/

/-- The character that an escape without digits stands for. -/
def escapeChar? : Char → Option Char
  | '0' => some '\x00'
  | 'a' => some '\x07'
  | 'b' => some '\x08'
  | 't' => some '\t'
  | '\t' => some '\t'
  | 'n' => some '\n'
  | 'v' => some '\x0b'
  | 'f' => some '\x0c'
  | 'r' => some '\r'
  | 'e' => some '\x1b'
  | ' ' => some ' '
  | '"' => some '"'
  | '/' => some '/'
  | '\\' => some '\\'
  | 'N' => some '\u0085'
  | '_' => some '\u00a0'
  | 'L' => some '\u2028'
  | 'P' => some '\u2029'
  | _ => none

/-- The number of digits of an escape with digits. -/
def escapeDigits : Char → Nat
  | 'x' => 2
  | 'u' => 4
  | 'U' => 8
  | _ => 0

/-- The character of the escape after a backslash and the length of the escape. -/
def readEscape? (text : Text) : Option (Char × Nat) :=
  match text with
  | [] => none
  | c :: rest =>
    let count := escapeDigits c
    if count = 0 then (escapeChar? c).map (·, 1)
    else if rest.length < count then none
    else (Hex.char? (rest.take count)).map (·, count + 1)

/-- The content of a quoted scalar after its opening quote. -/
def readQuoted? (quote : Char) : Nat → Cursor → Option (Text × Cursor)
  | 0, _ => none
  | fuel + 1, cursor =>
    match cursor.rest with
    | [] => none
    | c :: rest =>
      if quote == '\'' && c == '\'' && rest.head? == some '\'' then do
        let (content, after) ← readQuoted? quote fuel (cursor.advance 2)
        some ('\'' :: content, after)
      else if c == quote then some ([], cursor.advance 1)
      else if quote == '"' && c == '\\' && rest.head?.any isBreak then do
        let cursor := (cursor.advance 1).nextLine
        let (fold, cursor) ← readFold? 0 (cursor.rest.length + 1) true cursor
        if cursor.atDocumentMarker then none
        else
          let (content, after) ← readQuoted? quote fuel cursor
          some (fold.text true ++ content, after)
      else if quote == '"' && c == '\\' then do
        let (escaped, length) ← readEscape? rest
        let (content, after) ← readQuoted? quote fuel (cursor.advance (length + 1))
        some (escaped :: content, after)
      else if isGap (some c) then do
        let (fold, cursor) ← readFold? 0 (cursor.rest.length + 1) false cursor
        if cursor.atDocumentMarker then none
        else
          let (content, after) ← readQuoted? quote fuel cursor
          some (fold.text false ++ content, after)
      else do
        let (content, after) ← readQuoted? quote fuel (cursor.advance 1)
        some (c :: content, after)

/-! ## Block scalars -/

/-- What happens to the line ends at the end of a block scalar. -/
inductive Chomping where
  /-- All are dropped. -/
  | strip
  /-- One is kept. -/
  | clip
  /-- All are kept. -/
  | keep

/-- The optional signs after the indicator of a block scalar: a chomping sign and an indentation,
in either order; no indentation is written as zero. -/
def readBlockHeader? (cursor : Cursor) : Option (Chomping × Nat × Cursor) :=
  let chomping? := fun (c : Option Char) => match c with
    | some '+' => some Chomping.keep
    | some '-' => some Chomping.strip
    | _ => none
  let digit? := fun (c : Option Char) => match c with
    | some c => if c.isDigit then some (c.toNat - 48) else none
    | none => none
  match chomping? (cursor.peek 0), digit? (cursor.peek 0) with
  | some chomping, _ =>
    match digit? (cursor.peek 1) with
    | some 0 => none
    | some digit => some (chomping, digit, cursor.advance 2)
    | none => some (chomping, 0, cursor.advance 1)
  | none, some 0 => none
  | none, some digit =>
    match chomping? (cursor.peek 1) with
    | some chomping => some (chomping, digit, cursor.advance 2)
    | none => some (.clip, digit, cursor.advance 1)
  | none, none => some (.clip, 0, cursor)

/-- The empty lines at a cursor, in which at most `indent` spaces are skipped, or any number while
`indent` is zero.  Also returned is the greatest column reached. -/
def readEmptyLines? (indent : Nat) : Nat → Nat → Cursor → Option (List Text × Nat × Cursor)
  | 0, _, _ => none
  | fuel + 1, reached, cursor =>
    let spaces := (cursor.rest.takeWhile (· == ' ')).length
    let skipped := if indent = 0 then spaces else min spaces (indent - cursor.column)
    let cursor := cursor.advance skipped
    let reached := max reached cursor.column
    if (indent == 0 || decide (cursor.column < indent)) && cursor.peek 0 == some '\t' then none
    else if cursor.atBreak then do
      let (breaks, reached, after) ← readEmptyLines? indent fuel reached cursor.nextLine
      some (cursor.breakText :: breaks, reached, after)
    else some ([], reached, cursor)

/-- The lines of a block scalar with a known indentation.  `lineEnd` is the end of the line before,
`empty` the empty lines after it, and `indented` says that the line before started with a space. -/
def readBlockLines? (literal : Bool) (chomping : Chomping) (indent : Nat) :
    Nat → (lineEnd : Text) → (empty : List Text) → (indented : Bool) → Cursor →
      Option (Text × Cursor)
  | 0, _, _, _, _ => none
  | fuel + 1, lineEnd, empty, indented, cursor =>
    if cursor.column = indent ∧ !cursor.rest.isEmpty then do
      let startsBlank := cursor.atSpaceOrTab
      let joined :=
        if !literal && lineEnd == ['\n'] && !indented && !startsBlank then
          if empty.isEmpty then [' '] else []
        else lineEnd
      let (line, cursor) := cursor.takeWhile (!isBreak ·)
      let lineEnd := cursor.breakText
      let next := if cursor.atBreak then cursor.nextLine else cursor
      let (breaks, _, next) ← readEmptyLines? indent (next.rest.length + 1) 0 next
      let (content, after) ← readBlockLines? literal chomping indent fuel lineEnd breaks startsBlank next
      some (joined ++ empty.flatten ++ line ++ content, after)
    else
      let tail := match chomping with
        | .strip => []
        | .clip => lineEnd
        | .keep => lineEnd ++ empty.flatten
      some (tail, cursor)

/-- The content of a block scalar after its indicator, inside a block with a given indentation. -/
def readBlock? (literal : Bool) (parentIndent : Int) (cursor : Cursor) : Option (Text × Cursor) := do
  let (chomping, increment, cursor) ← readBlockHeader? cursor
  let cursor ← cursor.endLine?
  let given := if increment = 0 then 0 else (max parentIndent 0).toNat + increment
  let (breaks, reached, cursor) ← readEmptyLines? given (cursor.rest.length + 1) 0 cursor
  let indent := if given = 0 then max (max reached (parentIndent + 1).toNat) 1 else given
  readBlockLines? literal chomping indent (cursor.rest.length + 1) [] breaks false cursor

end Stencil.Yaml

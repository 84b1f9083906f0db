import Stencil.Number.Decimal
import Stencil.Yaml.Scalar

/-!
# Tokens of a document

A document is cut into tokens.  Indentation becomes tokens that open and close blocks, and a key is
announced by a token that is put in front of it once the colon after it is seen.  A key without a
question mark has to stand on one line and within 1024 bytes.
-/

namespace Stencil.Yaml

/-- A token of a document. -/
inductive Token where
  /-- A version directive with its two numbers. -/
  | versionDirective (major minor : Nat)
  /-- A directive that gives a tag handle its meaning. -/
  | tagDirective (handle start : Text)
  /-- The line that starts a document. -/
  | documentStart
  /-- The line that ends a document. -/
  | documentEnd
  /-- The start of a block sequence. -/
  | blockSequenceStart
  /-- The start of a block mapping. -/
  | blockMappingStart
  /-- The end of a block. -/
  | blockEnd
  /-- An opening bracket. -/
  | flowSequenceStart
  /-- A closing bracket. -/
  | flowSequenceEnd
  /-- An opening brace. -/
  | flowMappingStart
  /-- A closing brace. -/
  | flowMappingEnd
  /-- A dash in front of an entry. -/
  | blockEntry
  /-- A comma between entries. -/
  | flowEntry
  /-- The start of a key. -/
  | key
  /-- The colon in front of a value. -/
  | value
  /-- A reference to an anchor. -/
  | alias (name : Text)
  /-- A name for the node that follows. -/
  | anchor (name : Text)
  /-- A tag, by its handle and what follows that; a tag without handle is written in full. -/
  | tag (handle suffix : Text)
  /-- A scalar. -/
  | scalar (style : ScalarStyle) (content : Text)
  deriving DecidableEq

/-- A place where a key may have started. -/
structure KeyPlace where
  /-- The key has to be completed, since nothing else may start here. -/
  required : Bool
  /-- The number of tokens before the key. -/
  tokenCount : Nat
  /-- The place in the document. -/
  cursor : Cursor

/-- The state of cutting a document into tokens. -/
structure Scanner where
  /-- The place in the document. -/
  cursor : Cursor
  /-- The tokens so far. -/
  tokens : Array Token
  /-- The column of the innermost block, and below it those of the blocks around it. -/
  indents : List Int
  /-- Where a key may have started, for each open bracket and for the document. -/
  keys : List (Option KeyPlace)
  /-- A key may start here. -/
  keyAllowed : Bool

namespace Scanner

/-- The state before the first token. -/
def start (text : Text) : Scanner := ⟨.start text, #[], [], [none], true⟩

/-- The column of the innermost block. -/
def indent (scanner : Scanner) : Int := scanner.indents.headD (-1)

/-- A bracket is open. -/
def inFlow (scanner : Scanner) : Bool := decide (1 < scanner.keys.length)

/-- The state with one more token. -/
def push (scanner : Scanner) (token : Token) : Scanner :=
  { scanner with tokens := scanner.tokens.push token }

/-- The state with a token put in front of later ones. -/
def insert (scanner : Scanner) (index : Nat) (token : Token) : Scanner :=
  { scanner with tokens := scanner.tokens.insertIdxIfInBounds index token }

/-- The state further on in the same line. -/
def advance (scanner : Scanner) (count : Nat) : Scanner :=
  { scanner with cursor := scanner.cursor.advance count }

/-- The blocks that are indented more than a column are closed. -/
def unroll (scanner : Scanner) (column : Int) : Scanner :=
  if scanner.inFlow then scanner
  else
    let closed := scanner.indents.takeWhile (column < ·)
    { scanner with
      indents := scanner.indents.drop closed.length
      tokens := scanner.tokens ++ (closed.map fun _ => .blockEnd).toArray }

/-- A block is opened in front of a token if its column is greater than that of the innermost
block. -/
def roll (scanner : Scanner) (column : Nat) (index : Nat) (token : Token) : Scanner :=
  if scanner.inFlow || decide ((column : Int) ≤ scanner.indent) then scanner
  else { scanner.insert index token with indents := (column : Int) :: scanner.indents }

/-- The place where the current key started. -/
def keyPlace (scanner : Scanner) : Option KeyPlace := (scanner.keys.headD none)

/-- No key is in progress; a required key must not be given up. -/
def dropKey? (scanner : Scanner) : Option Scanner :=
  match scanner.keyPlace with
  | some place =>
    if place.required then none else some { scanner with keys := none :: scanner.keys.drop 1 }
  | none => some scanner

/-- The place is remembered as the start of a key if one may start here. -/
def saveKey? (scanner : Scanner) : Option Scanner :=
  if scanner.keyAllowed then do
    let required := !scanner.inFlow && scanner.indent == (scanner.cursor.column : Int)
    let scanner ← scanner.dropKey?
    let place : KeyPlace := ⟨required, scanner.tokens.size, scanner.cursor⟩
    some { scanner with keys := some place :: scanner.keys.drop 1 }
  else some scanner

/-- Keys that are on an earlier line or too long are given up. -/
def dropStaleKeys? (scanner : Scanner) : Option Scanner := do
  let keys ← scanner.keys.mapM fun key =>
    match key with
    | none => some none
    | some place =>
      if place.cursor.line < scanner.cursor.line
          ∨ place.cursor.index + 1024 < scanner.cursor.index then
        if place.required then none else some none
      else some (some place)
  some { scanner with keys }

/-- The state at the next token, after spaces, comments and line ends.  Tabs are skipped where no
key may start. -/
def skipGap : Nat → Scanner → Scanner
  | 0, scanner => scanner
  | fuel + 1, scanner =>
    let cursor := scanner.cursor
    let cursor :=
      if cursor.column = 0 ∧ cursor.peek 0 = some '\ufeff' then cursor.advance 1 else cursor
    let tabs := scanner.inFlow || !scanner.keyAllowed
    let cursor := cursor.dropWhile fun c => c == ' ' || (tabs && c == '\t')
    let cursor := if cursor.peek 0 = some '#' then cursor.dropWhile (!isBreak ·) else cursor
    if cursor.atBreak then
      skipGap fuel
        { scanner with
          cursor := cursor.nextLine
          keyAllowed := scanner.keyAllowed || !scanner.inFlow }
    else { scanner with cursor }

/-! ## Directives, anchors and tags -/

/-- Letters, digits, dashes and underscores. -/
def isNameChar (c : Char) : Bool := c.isAlphanum || c == '-' || c == '_'

/-- A number of a version, of at most nine digits. -/
def readVersionNumber? (cursor : Cursor) : Option (Nat × Cursor) :=
  match cursor.takeWhile Char.isDigit with
  | ([], _) => none
  | (digits, cursor) => if digits.length ≤ 9 then some (Decimal.toNat digits, cursor) else none

/-- The number of octets that a character still lacks after an octet, if `lacking` of them were due
at that octet and none if it starts a character. -/
def octetsAfter? (lacking octet : Nat) : Option Nat :=
  match lacking with
  | 0 =>
    if octet < 0x80 then some 0
    else if octet / 0x20 = 6 then some 1
    else if octet / 0x10 = 14 then some 2
    else if octet / 0x08 = 30 then some 3
    else none
  | due + 1 => if octet / 0x40 = 2 then some due else none

/-- A tag without its escapes, each octet as the character of that number.  The octets of one
character are all escaped or it is one that is not escaped. -/
def unescapeTag? : (lacking : Nat) → Text → Option Text
  | lacking, '%' :: first :: second :: rest => do
    let octet ← Hex.toNat? [first, second]
    let tag ← unescapeTag? (← octetsAfter? lacking octet) rest
    some (Char.ofNat octet :: tag)
  | 0, [] => some []
  | 0, c :: rest => if c = '%' then none else (unescapeTag? 0 rest).map (c :: ·)
  | _, _ => none

/-- Characters of a tag after its handle; in a tag that is written in full brackets and commas may
stand too. -/
def isTagChar (full : Bool) (c : Char) : Bool :=
  isNameChar c || ";/?:@&=+$.%!~*'()".toList.contains c || (full && ",[]".toList.contains c)

/-- The part of a tag at a cursor, up to an escaped null character, with the number of characters
that it is written with. -/
def readTagPart? (full : Bool) (cursor : Cursor) : Option (Text × Nat × Cursor) := do
  let (written, cursor) := cursor.takeWhile (isTagChar full)
  let tag ← unescapeTag? 0 written
  some (tag.takeWhile (· != '\x00'), written.length, cursor)

/-- The handle at a cursor: an exclamation mark, alone or around a name. -/
def readTagHandle? (cursor : Cursor) : Option (Text × Cursor) :=
  match cursor.peek 0 with
  | some '!' =>
    let (name, after) := (cursor.advance 1).takeWhile isNameChar
    if after.peek 0 = some '!' then some ('!' :: name ++ ['!'], after.advance 1)
    else some (['!'], cursor.advance 1)
  | _ => none

/-- The directive after a percent sign. -/
def readDirective? (cursor : Cursor) : Option (Token × Cursor) := do
  let (name, cursor) := cursor.takeWhile isNameChar
  if !isGap (cursor.peek 0) then none
  else
    match Text.string name with
    | "YAML" =>
      let cursor := cursor.dropWhile isSpaceOrTab
      let (major, cursor) ← readVersionNumber? cursor
      if cursor.peek 0 = some '.' then
        let (minor, cursor) ← readVersionNumber? (cursor.advance 1)
        some (.versionDirective major minor, ← cursor.endLine?)
      else none
    | "TAG" =>
      let cursor := cursor.dropWhile isSpaceOrTab
      let (handle, cursor) ← readTagHandle? cursor
      if !cursor.atSpaceOrTab then none
      else
        let cursor := cursor.dropWhile isSpaceOrTab
        let (start, length, cursor) ← readTagPart? true cursor
        if length = 0 || !isGap (cursor.peek 0) then none
        else some (.tagDirective handle start, ← cursor.endLine?)
    | _ => none

/-- The name after an anchor or alias sign. -/
def readAnchorName? (cursor : Cursor) : Option (Text × Cursor) :=
  let (name, cursor) := cursor.takeWhile isNameChar
  let ends := isGap (cursor.peek 0) || (cursor.peek 0).any ("?:,]\x7d%@\x60".toList.contains ·)
  if name.isEmpty || !ends then none else some (name, cursor)

/-- The tag at a cursor.  A single exclamation mark is a tag in full. -/
def readTag? (inFlow : Bool) (cursor : Cursor) : Option (Token × Cursor) := do
  let (handle, suffix, cursor) ←
    if cursor.peek 1 = some '<' then
      match readTagPart? true (cursor.advance 2) with
      | some (tag, length, cursor) =>
        if length = 0 || cursor.peek 0 != some '>' then none else some ([], tag, cursor.advance 1)
      | none => none
    else
      match readTagHandle? cursor with
      | none => none
      | some (handle, cursor) =>
        match readTagPart? false cursor with
        | none => none
        | some (suffix, length, cursor) =>
          if handle = ['!'] then
            some (if suffix.isEmpty then ([], ['!'], cursor) else (handle, suffix, cursor))
          else if length = 0 then none
          else some (handle, suffix, cursor)
  if isGap (cursor.peek 0) || (inFlow && cursor.peek 0 == some ',') then
    some (.tag handle suffix, cursor)
  else none

/-! ## Fetching tokens -/

/-- A line that starts or ends a document, or a directive, closes all blocks. -/
def closeBlocks? (scanner : Scanner) : Option Scanner := do
  let scanner ← (scanner.unroll (-1)).dropKey?
  some { scanner with keyAllowed := false }

/-- An opening bracket or brace. -/
def openFlow? (scanner : Scanner) (token : Token) : Option Scanner := do
  let scanner ← scanner.saveKey?
  some ({ scanner with keys := none :: scanner.keys, keyAllowed := true }.advance 1 |>.push token)

/-- A closing bracket or brace. -/
def closeFlow? (scanner : Scanner) (token : Token) : Option Scanner := do
  let scanner ← scanner.dropKey?
  let keys := if scanner.inFlow then scanner.keys.drop 1 else scanner.keys
  some ({ scanner with keys, keyAllowed := false }.advance 1 |>.push token)

/-- A comma. -/
def fetchFlowEntry? (scanner : Scanner) : Option Scanner := do
  let scanner ← scanner.dropKey?
  some ({ scanner with keyAllowed := true }.advance 1 |>.push .flowEntry)

/-- A dash in front of an entry. -/
def fetchBlockEntry? (scanner : Scanner) : Option Scanner := do
  if !scanner.inFlow && !scanner.keyAllowed then none
  else
    let scanner := scanner.roll scanner.cursor.column scanner.tokens.size .blockSequenceStart
    let scanner ← scanner.dropKey?
    some ({ scanner with keyAllowed := true }.advance 1 |>.push .blockEntry)

/-- A question mark in front of a key. -/
def fetchKey? (scanner : Scanner) : Option Scanner := do
  if !scanner.inFlow && !scanner.keyAllowed then none
  else
    let scanner := scanner.roll scanner.cursor.column scanner.tokens.size .blockMappingStart
    let scanner ← scanner.dropKey?
    some ({ scanner with keyAllowed := !scanner.inFlow }.advance 1 |>.push .key)

/-- A colon in front of a value.  If a key may have started before it, the tokens that announce the
key are put in front of it. -/
def fetchValue? (scanner : Scanner) : Option Scanner :=
  match scanner.keyPlace with
  | some place =>
    let scanner := scanner.insert place.tokenCount .key
    let scanner := scanner.roll place.cursor.column place.tokenCount .blockMappingStart
    some ({ scanner with keys := none :: scanner.keys.drop 1, keyAllowed := false }.advance 1
      |>.push .value)
  | none =>
    if !scanner.inFlow && !scanner.keyAllowed then none
    else
      let scanner := scanner.roll scanner.cursor.column scanner.tokens.size .blockMappingStart
      some ({ scanner with keyAllowed := !scanner.inFlow }.advance 1 |>.push .value)

/-- A token that may be a key, with the cursor after it. -/
def fetchContent? (scanner : Scanner) (read : Cursor → Option (Token × Cursor)) :
    Option Scanner := do
  let scanner ← scanner.saveKey?
  let (token, cursor) ← read scanner.cursor
  some ({ scanner with cursor, keyAllowed := false }.push token)

/-- A block scalar. -/
def fetchBlock? (scanner : Scanner) (literal : Bool) : Option Scanner := do
  let scanner ← scanner.dropKey?
  let (content, cursor) ← readBlock? literal scanner.indent (scanner.cursor.advance 1)
  let style := if literal then ScalarStyle.literal else .folded
  some ({ scanner with cursor, keyAllowed := true }.push (.scalar style content))

/-- A plain scalar. -/
def fetchPlain? (scanner : Scanner) : Option Scanner := do
  let scanner ← scanner.saveKey?
  let scalar ← readPlain? scanner.inFlow (scanner.indent + 1) (scanner.cursor.rest.length + 1) []
    false scanner.cursor
  some ({ scanner with cursor := scalar.after, keyAllowed := scalar.broken }.push
    (.scalar .plain scalar.content))

/-- Characters that may not start a plain scalar by themselves. -/
def isIndicator (c : Char) : Bool := "-?:,[]\x7b\x7d#&*!|>'\"%@\x60".toList.contains c

/-- A plain scalar may start at the cursor. -/
def startsPlain (scanner : Scanner) (c : Char) : Bool :=
  let next := scanner.cursor.peek 1
  (!isGap (some c) && !isIndicator c)
    || (c == '-' && !next.any isSpaceOrTab)
    || (!scanner.inFlow && (c == '?' || c == ':') && !isGap next)

/-- The state after the token that starts with a character at the cursor. -/
def fetch? (scanner : Scanner) (c : Char) : Option Scanner :=
  let cursor := scanner.cursor
  let endsAt := fun (distance : Nat) => isGap (cursor.peek distance)
  if cursor.column = 0 ∧ c = '%' then do
    let scanner ← scanner.closeBlocks?
    let (token, cursor) ← readDirective? (scanner.cursor.advance 1)
    some ({ scanner with cursor }.push token)
  else if cursor.atMarker '-' then do
    some ((← scanner.closeBlocks?).advance 3 |>.push .documentStart)
  else if cursor.atMarker '.' then do
    some ((← scanner.closeBlocks?).advance 3 |>.push .documentEnd)
  else if c = '[' then scanner.openFlow? .flowSequenceStart
  else if c = '{' then scanner.openFlow? .flowMappingStart
  else if c = ']' then scanner.closeFlow? .flowSequenceEnd
  else if c = '}' then scanner.closeFlow? .flowMappingEnd
  else if c = ',' then scanner.fetchFlowEntry?
  else if c = '-' ∧ endsAt 1 then scanner.fetchBlockEntry?
  else if c = '?' ∧ (scanner.inFlow ∨ endsAt 1) then scanner.fetchKey?
  else if c = ':' ∧ (scanner.inFlow ∨ endsAt 1) then scanner.fetchValue?
  else if c = '*' then
    scanner.fetchContent? fun cursor =>
      (readAnchorName? (cursor.advance 1)).map fun (name, cursor) => (.alias name, cursor)
  else if c = '&' then
    scanner.fetchContent? fun cursor =>
      (readAnchorName? (cursor.advance 1)).map fun (name, cursor) => (.anchor name, cursor)
  else if c = '!' then
    scanner.fetchContent? (readTag? scanner.inFlow)
  else if c = '|' ∧ !scanner.inFlow then scanner.fetchBlock? true
  else if c = '>' ∧ !scanner.inFlow then scanner.fetchBlock? false
  else if c = '\'' ∨ c = '"' then
    scanner.fetchContent? fun cursor =>
      (readQuoted? c (cursor.rest.length + 1) (cursor.advance 1)).map fun (content, cursor) =>
        (.scalar .quoted content, cursor)
  else if scanner.startsPlain c then scanner.fetchPlain?
  else none

/-- The tokens up to the end of the document.  The fuel bounds their number. -/
def run? : Nat → Scanner → Option (List Token)
  | 0, _ => none
  | fuel + 1, scanner => do
    let scanner := skipGap (scanner.cursor.rest.length + 1) scanner
    let scanner ← scanner.dropStaleKeys?
    let scanner := scanner.unroll scanner.cursor.column
    match scanner.cursor.rest with
    | [] => some (← (scanner.unroll (-1)).dropKey?).tokens.toList
    | c :: _ => run? fuel (← scanner.fetch? c)

end Scanner

/-- A character that may stand in a document. -/
def isAllowed (c : Char) : Bool :=
  c == '\t' || c == '\n' || c == '\r' || (' ' ≤ c && c ≤ '~') || c == '\u0085'
    || ('\u00a0' ≤ c && c.toNat != 0xFFFE && c.toNat != 0xFFFF)

/-- The tokens of a document. -/
def Token.ofText? (text : Text) : Option (List Token) :=
  if text.all isAllowed then Scanner.run? (text.length + 1) (Scanner.start text) else none

end Stencil.Yaml

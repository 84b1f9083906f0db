import Stencil.Number.Decimal
import Stencil.Regex.Automaton
import Stencil.Regex.Bracket

/-!
# Reading regular expressions

The usual notation: alternatives, groups with or without a name, repetitions, bracket classes with
set operations, escapes and flags.  There is no look-around and there are no back-references, so an
expression that asks for them cannot be read.  Groups, repetitions, alternatives, sequences and
classes may be nested up to a limit.
-/

namespace Stencil.Regex

/-! ## Repetitions and groups -/

/-- The leading digits without what the flags skip between them, and the text after them.  The fuel
bounds their number. -/
def spanDigits (flags : Flags) : Nat → Text → Text × Text
  | fuel + 1, c :: rest =>
    if c.isDigit then
      let (digits, rest) := spanDigits flags fuel (flags.skip rest)
      (c :: digits, rest)
    else ([], c :: rest)
  | _, text => ([], text)

/-- A count of a repetition, below `2 ^ 32`, with blanks around it. -/
def readCount? (flags : Flags) (text : Text) : Option (Nat × Text) :=
  match spanDigits flags text.length (text.dropWhile isBlank) with
  | ([], _) => none
  | (digits, rest) =>
    let count := Decimal.toNat digits
    if count < UInt32.size then some (count, flags.skip (rest.dropWhile isBlank)) else none

/-- Whether a sign of a lazy repetition is absent, and the text after it. -/
def readGreed : Text → Bool × Text
  | '?' :: rest => (false, rest)
  | text => (true, text)

/-- The bounds of a counted repetition after its opening brace. -/
def readBounds? (flags : Flags) (text : Text) : Option (Nat × Option Nat × Text) := do
  let (least, rest) ← readCount? flags (flags.skip text)
  match rest with
  | '}' :: rest => some (least, some least, flags.skip rest)
  | ',' :: rest =>
    match flags.skip rest with
    | '}' :: rest => some (least, none, flags.skip rest)
    | rest =>
      let (most, rest) ← readCount? flags rest
      match rest with
      | '}' :: rest => if least ≤ most then some (least, some most, flags.skip rest) else none
      | _ => none
  | _ => none

/-- Flags up to a colon or a closing parenthesis, which is returned.  A flag stands once, and a
minus sign once and not at the end. -/
def readFlags? (flags : Flags) (on : Bool) (seen : Text) : Text → Option (Flags × Char × Text)
  | [] => none
  | c :: rest =>
    if c = ':' then if seen.head? = some '-' then none else some (flags, c, rest)
    else if c = ')' then
      if seen.isEmpty ∨ seen.head? = some '-' then none else some (flags, c, rest)
    else if seen.contains c then none
    else if c = '-' then readFlags? flags false (c :: seen) rest
    else
      match flags.set? on c with
      | some flags => readFlags? flags on (c :: seen) rest
      | none => none

/-- Alphabetic characters of a later version of the standard, which names of groups may have. -/
def newerAlphabetic : InversionList := .ofRanges [
    (0x088F, 0x088F), (0x0C5C, 0x0C5C), (0x0CDC, 0x0CDC), (0xA7CE, 0xA7CF), (0xA7D2, 0xA7D2),
    (0xA7D4, 0xA7D4), (0xA7F1, 0xA7F1), (0x10940, 0x10959), (0x10EC5, 0x10EC7),
    (0x10EFA, 0x10EFB), (0x11B60, 0x11B67), (0x11DB0, 0x11DDB), (0x16EA0, 0x16EB8),
    (0x16EBB, 0x16ED3), (0x16FF2, 0x16FF6), (0x187F8, 0x187FF), (0x18D09, 0x18D1E),
    (0x18D80, 0x18DF2), (0x1E6C0, 0x1E6DE), (0x1E6E0, 0x1E6F5), (0x1E6FE, 0x1E6FF),
    (0x2B73A, 0x2B73F), (0x2CEA2, 0x2CEAD), (0x323B0, 0x33479)]

/-- Characters that may start the name of a group. -/
def nameStart : InversionList := Unicode.unionAll [Unicode.alphabetic, newerAlphabetic, .single '_']

/-- Characters that may stand later in the name of a group. -/
def nameContinue : InversionList :=
  Unicode.unionAll [nameStart, Unicode.category ["Nd", "Nl", "No"], .range 0x11DE0 0x11DE9,
    asciiRanges [('.', '.'), ('[', '['), (']', ']')]]

/-- The name of a group up to its closing angle, which no other group may have. -/
def readGroupName? (names : List Text) (text : Text) : Option (Text × Text) :=
  match text.span (· != '>') with
  | (first :: others, _ :: rest) =>
    let name := first :: others
    if nameStart.containsChar first && others.all nameContinue.containsChar
        && !names.contains name then
      some (name, rest)
    else none
  | _ => none

/-- What a parenthesis opens. -/
inductive Opening where
  /-- A group that is counted, with its name if it has one. -/
  | counted (name : Option Text)
  /-- A group that only changes flags. -/
  | uncounted (inside : Flags)
  /-- No group: flags for the rest of the enclosing group. -/
  | flags (flags : Flags)

/-- What stands after an opening parenthesis. -/
def readOpening? (flags : Flags) (names : List Text) (text : Text) : Option (Opening × Text) :=
  match flags.skip text with
  | '?' :: 'P' :: '<' :: rest =>
    (readGroupName? names rest).map fun (name, rest) => (.counted (some name), rest)
  | '?' :: '<' :: rest =>
    (readGroupName? names rest).map fun (name, rest) => (.counted (some name), rest)
  | '?' :: rest =>
    (readFlags? flags true [] rest).map fun (inside, closer, rest) =>
      (if closer = ')' then .flags inside else .uncounted inside, rest)
  | rest => some (.counted none, rest)

/-! ## Expressions -/

/-- An expression with the depth of its notation. -/
structure DeepRegex where
  /-- The expression. -/
  expression : Regex
  /-- How deeply its notation is nested. -/
  depth : Nat

/-- A part of an expression inside one group. -/
inductive Part where
  /-- An expression. -/
  | expression (deep : DeepRegex)
  /-- A setting of flags. -/
  | setting

/-- The expression of a part. -/
def Part.deep : Part → DeepRegex
  | .expression deep => deep
  | .setting => ⟨.empty, 0⟩

/-- The greatest depth of some expressions, and one more if there are several. -/
def depthOf (parts : List DeepRegex) : Nat :=
  (parts.map DeepRegex.depth).foldl max 0 + if 2 ≤ parts.length then 1 else 0

/-- The part of an expression inside one group that has been read; the lists are in reverse. -/
structure OpenGroup where
  /-- The number of the group, if it is counted. -/
  number : Option Nat
  /-- The flags at this place. -/
  flags : Flags
  /-- The alternatives that are complete. -/
  alternatives : List DeepRegex
  /-- The parts of the current alternative. -/
  parts : List Part

namespace OpenGroup

/-- An empty group. -/
def start (number : Option Nat) (flags : Flags) : OpenGroup := ⟨number, flags, [], []⟩

/-- The group with one more part. -/
def push (group : OpenGroup) (deep : DeepRegex) : OpenGroup :=
  { group with parts := .expression deep :: group.parts }

/-- The group with one more part that is not nested. -/
def pushFlat (group : OpenGroup) (expression : Regex) : OpenGroup := group.push ⟨expression, 0⟩

/-- The current alternative. -/
def current (group : OpenGroup) : DeepRegex :=
  let parts := (group.parts.map Part.deep).reverse
  ⟨seqAll (parts.map DeepRegex.expression), depthOf parts⟩

/-- The group after an alternative sign. -/
def divide (group : OpenGroup) : OpenGroup :=
  { group with alternatives := group.current :: group.alternatives, parts := [] }

/-- The expression inside a closed group. -/
def content (group : OpenGroup) : DeepRegex :=
  if group.alternatives.isEmpty then group.current
  else
    let alternatives := group.divide.alternatives.reverse
    ⟨altAll (alternatives.map DeepRegex.expression), depthOf alternatives⟩

/-- The expression of a closed group. -/
def close (group : OpenGroup) : DeepRegex :=
  let content := group.content
  match group.number with
  | some number => ⟨.group number content.expression, content.depth + 1⟩
  | none => ⟨content.expression, content.depth + 1⟩

/-- The last part repeated; there has to be one. -/
def repeatLast? (group : OpenGroup) (greedy : Bool) (least : Nat) (most : Option Nat) :
    Option OpenGroup :=
  match group.parts with
  | .expression last :: parts =>
    let expression := times (greedy != group.flags.swapGreed) least most last.expression
    some { group with parts := .expression ⟨expression, last.depth + 1⟩ :: parts }
  | _ => none

end OpenGroup

/-- The expression of a primitive. -/
def ofPrimitive (flags : Flags) : Primitive → Regex
  | .literal c => flags.literal c
  | .set members => .ofSet members
  | .assertion condition => .assertion condition

/-- The groups that have been opened. -/
structure Groups where
  /-- The number of counted groups. -/
  count : Nat
  /-- Their names. -/
  names : List Text

/-- The groups with one more, which gets the next number. -/
def Groups.add (groups : Groups) (name : Option Text) : Groups :=
  ⟨groups.count + 1, name.toList ++ groups.names⟩

/-- The rest of an expression, with the groups around it.  The fuel bounds the number of parts. -/
def readRest? : Nat → Groups → List OpenGroup → OpenGroup → Text → Option DeepRegex
  | 0, _, _, _, _ => none
  | fuel + 1, groups, outer, inner, text =>
    let flags := inner.flags
    match flags.skip text with
    | [] => if outer.isEmpty then some inner.content else none
    | '(' :: rest => do
      let (opening, rest) ← readOpening? flags groups.names rest
      match opening with
      | .flags flags =>
        readRest? fuel groups outer { inner with flags, parts := .setting :: inner.parts } rest
      | .uncounted inside => readRest? fuel groups (inner :: outer) (.start none inside) rest
      | .counted name =>
        let groups := groups.add name
        readRest? fuel groups (inner :: outer) (.start (some groups.count) flags) rest
    | ')' :: rest =>
      match outer with
      | [] => none
      | parent :: outer => readRest? fuel groups outer (parent.push inner.close) rest
    | '|' :: rest => readRest? fuel groups outer inner.divide rest
    | '[' :: rest => do
      let (cls, rest) := openClass flags rest
      let (value, rest) ← readClass? flags (rest.length + 1) [] cls rest
      readRest? fuel groups outer (inner.push ⟨.ofSet value.members, value.depth⟩) rest
    | '?' :: rest => do
      let (greedy, rest) := readGreed rest
      readRest? fuel groups outer (← inner.repeatLast? greedy 0 (some 1)) rest
    | '*' :: rest => do
      let (greedy, rest) := readGreed rest
      readRest? fuel groups outer (← inner.repeatLast? greedy 0 none) rest
    | '+' :: rest => do
      let (greedy, rest) := readGreed rest
      readRest? fuel groups outer (← inner.repeatLast? greedy 1 none) rest
    | '{' :: rest => do
      let (least, most, rest) ← readBounds? flags rest
      let (greedy, rest) := readGreed rest
      readRest? fuel groups outer (← inner.repeatLast? greedy least most) rest
    | '\\' :: rest => do
      let (primitive, rest) ← readEscape? flags rest
      readRest? fuel groups outer (inner.pushFlat (ofPrimitive flags primitive)) rest
    | '.' :: rest => do
      readRest? fuel groups outer (inner.pushFlat (.ofSet (← flags.dot?))) rest
    | '^' :: rest =>
      readRest? fuel groups outer (inner.pushFlat (.assertion flags.startAnchor)) rest
    | '$' :: rest =>
      readRest? fuel groups outer (inner.pushFlat (.assertion flags.endAnchor)) rest
    | c :: rest => readRest? fuel groups outer (inner.pushFlat (flags.literal c)) rest

/-- The depth that an expression may have. -/
def depthLimit : Nat := 250

/-- The expression that a text stands for. -/
def parse? (text : Text) : Option Regex := do
  let deep ← readRest? (text.length + 1) ⟨0, []⟩ [] (.start none {}) text
  if depthLimit < deep.depth then none else some deep.expression

/-- Why an expression cannot be used. -/
inductive Fault where
  /-- The text is no expression. -/
  | malformed
  /-- The automaton would be too large. -/
  | tooLarge
  deriving DecidableEq

/-- The wording of a fault, up to its first line end. -/
def Fault.message : Fault → String
  | .malformed => "regex parse error:"
  | .tooLarge => s!"Compiled regex exceeds size limit of {sizeLimit} bytes."

/-- The expression that a text stands for, if it can be used. -/
def read (text : Text) : Except Fault Regex :=
  match parse? text with
  | none => .error .malformed
  | some expression => if expression.fits then .ok expression else .error .tooLarge

end Stencil.Regex

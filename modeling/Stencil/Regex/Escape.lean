import Stencil.Number.Hex
import Stencil.Regex.Flags
import Stencil.Unicode.Property

/-!
# Escapes of regular expressions

What stands after a backslash: characters by their code points, sets with a letter or a property,
and conditions.
-/

namespace Stencil.Regex

/-- What an escape or a plain character stands for. -/
inductive Primitive where
  /-- A character. -/
  | literal (c : Char)
  /-- A set of characters. -/
  | set (members : InversionList)
  /-- A condition on the place. -/
  | assertion (condition : Assertion)

/-- The characters before a closing brace without what the flags skip, and the text after the
brace.  The fuel bounds their number. -/
def readBraced? (flags : Flags) : Nat → Text → Option (Text × Text)
  | 0, _ => none
  | fuel + 1, text =>
    match flags.skip text with
    | [] => none
    | '}' :: rest => some ([], rest)
    | c :: rest => (readBraced? flags fuel rest).map fun (more, rest) => (c :: more, rest)

/-- So many characters without what the flags skip, and the text after them. -/
def readDigits? (flags : Flags) : Nat → Text → Option (Text × Text)
  | 0, text => some ([], text)
  | count + 1, text =>
    match flags.skip text with
    | [] => none
    | c :: rest => (readDigits? flags count rest).map fun (more, rest) => (c :: more, rest)

/-- A character by its code point: a fixed number of digits, or any number between braces.  Two
digits stand for a byte, which without Unicode has to be ASCII. -/
def readHex? (flags : Flags) (count : Nat) (text : Text) : Option (Primitive × Text) :=
  match flags.skip text with
  | '{' :: rest => do
    let (digits, rest) ← readBraced? flags (rest.length + 1) rest
    some (.literal (← Hex.char? digits), rest)
  | rest => do
    let (digits, rest) ← readDigits? flags count rest
    let c ← Hex.char? digits
    if count = 2 ∧ !flags.unicode ∧ 128 ≤ c.toNat then none else some (.literal c, rest)

/-- Characters that stand for themselves after a backslash. -/
def isEscapable (c : Char) : Bool :=
  c.toNat < 128 && !c.isAlphanum && c != '<' && c != '>'

/-- A condition with a name between braces after `\b`; a brace that no letter follows starts a
repetition instead. -/
def readBoundary? (flags : Flags) (text : Text) : Option (Primitive × Text) :=
  let plain := some (Primitive.assertion (.boundary flags.unicode), text)
  match text with
  | '{' :: rest =>
    match flags.skip rest with
    | [] => none
    | c :: _ =>
      if !(c.isAlpha || c == '-') then plain
      else do
        let (name, rest) ← readBraced? flags (rest.length + 1) rest
        match name.string with
        | "start" => some (.assertion (.wordStart flags.unicode), rest)
        | "end" => some (.assertion (.wordEnd flags.unicode), rest)
        | "start-half" => some (.assertion (.wordStartHalf flags.unicode), rest)
        | "end-half" => some (.assertion (.wordEndHalf flags.unicode), rest)
        | _ => none
  | _ => plain

/-- The text up to the first of some signs and the text after it. -/
def splitAtSign? (sign : Text) : Text → Option (Text × Text)
  | [] => none
  | c :: rest =>
    match sign.isPrefixOf? (c :: rest) with
    | some after => some ([], after)
    | none => (splitAtSign? sign rest).map fun (before, after) => (c :: before, after)

/-- The characters of a property, given by a name, or by a name and a value with a sign between
them. -/
def property? (name : Text) : Option InversionList :=
  match splitAtSign? ['!', '='] name <|> splitAtSign? [':'] name <|> splitAtSign? ['='] name with
  | some (name, value) => Unicode.propertyValue? name value
  | none => Unicode.property? name

/-- A property by one letter or by a name between braces. -/
def readProperty? (flags : Flags) (negated : Bool) (text : Text) : Option (Primitive × Text) := do
  let (name, rest) ← match flags.skip text with
    | '{' :: rest => readBraced? flags (rest.length + 1) rest
    | c :: rest => if c = '\\' then none else some ([c], rest)
    | [] => none
  if flags.unicode then
    some (.set (← flags.foldCompl? negated (← property? name)), rest)
  else none

/-- The escape after a backslash. -/
def readEscape? (flags : Flags) : Text → Option (Primitive × Text)
  | [] => none
  | c :: rest =>
    match c with
    | 'x' => readHex? flags 2 rest
    | 'u' => readHex? flags 4 rest
    | 'U' => readHex? flags 8 rest
    | 'p' => readProperty? flags false rest
    | 'P' => readProperty? flags true rest
    | 'a' => some (.literal '\x07', rest)
    | 'f' => some (.literal '\x0c', rest)
    | 't' => some (.literal '\t', rest)
    | 'n' => some (.literal '\n', rest)
    | 'r' => some (.literal '\r', rest)
    | 'v' => some (.literal '\x0b', rest)
    | 'A' => some (.assertion .textStart, rest)
    | 'z' => some (.assertion .textEnd, rest)
    | 'b' => readBoundary? flags rest
    | 'B' => some (.assertion (.noBoundary flags.unicode), rest)
    | '<' => some (.assertion (.wordStart flags.unicode), rest)
    | '>' => some (.assertion (.wordEnd flags.unicode), rest)
    | c =>
      match flags.classLetter? c with
      | some members => some (.set members, rest)
      | none => if isEscapable c then some (.literal c, rest) else none

end Stencil.Regex

import Stencil.Literal.Fault

/-!
# Reading literal lists

`Literal.readList` reads the inside of a loop list: literals separated by commas, with spaces
around them and an optional comma at the end.  A construct that is not there is a *miss*, and the
list then ends before it; a construct that is there and cannot be completed is *broken*, and the
whole list with it.
-/

namespace Stencil.Literal

/-- The outcome of looking for a construct at the head of a text. -/
inductive Reading (α : Type) where
  /-- The construct was read and a rest is left. -/
  | found (value : α) (rest : Text)
  /-- There is no such construct here. -/
  | miss
  /-- The construct starts here but cannot be completed. -/
  | broken (fault : Fault)

/-- The spaces that may stand between the parts of a list. -/
def isSpace (c : Char) : Bool := c == ' ' || c == '\t' || c == '\r' || c == '\n'

/-- The text after its leading spaces. -/
def skipSpaces (s : Text) : Text := s.dropWhile isSpace

/-! ## Numerals -/

/-- The parts of a numeral. -/
structure Numeral where
  /-- The numeral has a minus sign. -/
  negative : Bool
  /-- The digits before the point. -/
  whole : Text
  /-- The digits after the point, if there is a point. -/
  fraction : Option Text
  /-- The exponent, if there is one. -/
  exponent : Option Int

namespace Numeral

/-- The literal that a numeral denotes: a double if it has a point or an exponent, else an
integer. -/
def toLiteral (numeral : Numeral) : Literal :=
  match numeral.fraction, numeral.exponent with
  | none, none =>
    let magnitude : Int := Decimal.toNat numeral.whole
    .ofInt (if numeral.negative then -magnitude else magnitude)
  | fraction, exponent =>
    let fraction := fraction.getD []
    .double (Double.ofDecimal numeral.negative (Decimal.toNat (numeral.whole ++ fraction))
      (exponent.getD 0 - fraction.length))

/-- An optional sign; the flag says whether it is a minus. -/
def readSign : Text → Bool × Text
  | '-' :: rest => (true, rest)
  | '+' :: rest => (false, rest)
  | rest => (false, rest)

/-- The leading decimal digits and the text after them. -/
def readDigits (s : Text) : Text × Text := s.span Char.isDigit

/-- The digits around an optional point: digits before the point, or else digits after it. -/
def readMagnitude? (s : Text) : Option (Text × Option Text × Text) :=
  match readDigits s with
  | ([], '.' :: rest) =>
    match readDigits rest with
    | ([], _) => none
    | (fraction, rest) => some ([], some fraction, rest)
  | ([], _) => none
  | (whole, '.' :: rest) =>
    let (fraction, rest) := readDigits rest
    some (whole, some fraction, rest)
  | (whole, rest) => some (whole, none, rest)

/-- An optional exponent; once its letter is there, it needs digits. -/
def readExponent (s : Text) : Reading (Option Int) :=
  match s with
  | [] => .found none []
  | c :: rest =>
    if c = 'e' ∨ c = 'E' then
      let (negative, rest) := readSign rest
      match readDigits rest with
      | ([], _) => .broken ⟨[⟨.missingDigit, rest⟩]⟩
      | (digits, after) =>
        let magnitude : Int := Decimal.toNat digits
        .found (some (if negative then -magnitude else magnitude)) after
    else .found none s

/-- A numeral at the head of a text. -/
def read (s : Text) : Reading Numeral :=
  let (negative, rest) := readSign s
  match readMagnitude? rest with
  | none => .miss
  | some (whole, fraction, rest) =>
    match readExponent rest with
    | .found exponent rest => .found ⟨negative, whole, fraction, exponent⟩ rest
    | .miss => .miss
    | .broken fault => .broken fault

end Numeral

/-! ## Strings -/

/-- What a backslash and the character after it stand for; a pair without meaning stands for
itself. -/
def unescape : Char → Text
  | 'n' => ['\n']
  | 'r' => ['\r']
  | 't' => ['\t']
  | '\\' => ['\\']
  | '"' => ['"']
  | '\'' => ['\'']
  | c => ['\\', c]

/-- The content of a string after its opening quote, and the text after its closing quote. -/
def readQuoted? (quote : Char) : Text → Option (Text × Text)
  | [] => none
  | '\\' :: c :: rest => (readQuoted? quote rest).map fun (content, rest) => (unescape c ++ content, rest)
  | c :: rest =>
    if c = quote then some ([], rest)
    else if c = '\\' then none
    else (readQuoted? quote rest).map fun (content, rest) => (c :: content, rest)

/-! ## Sequences -/

/-- A construct with spaces around it. -/
def readSpaced (item : Text → Reading Literal) (s : Text) : Reading Literal :=
  match item (skipSpaces s) with
  | .found value rest => .found value (skipSpaces rest)
  | .miss => .miss
  | .broken fault => .broken fault

/-- The items that follow an item, each after a comma; a comma without an item is left unread.
The fuel bounds the number of commas. -/
def readMore (item : Text → Reading Literal) : Nat → Text → Except Fault (List Literal × Text)
  | fuel + 1, ',' :: rest =>
    match readSpaced item rest with
    | .found value rest =>
      match readMore item fuel rest with
      | .ok (values, rest) => .ok (value :: values, rest)
      | .error fault => .error fault
    | .miss => .ok ([], ',' :: rest)
    | .broken fault => .error fault
  | _, s => .ok ([], s)

/-- Items separated by commas, without a comma at the end. -/
def readSeparated (item : Text → Reading Literal) (s : Text) :
    Except Fault (List Literal × Text) :=
  match readSpaced item s with
  | .found value rest =>
    match readMore item rest.length rest with
    | .ok (values, rest) => .ok (value :: values, rest)
    | .error fault => .error fault
  | .miss => .ok ([], s)
  | .broken fault => .error fault

/-- The items of a sequence. -/
structure Items where
  /-- The items in order. -/
  values : List Literal
  /-- A comma was seen. -/
  hasComma : Bool
  /-- The text after the items. -/
  rest : Text

/-- Items separated by commas with an optional comma at the end. -/
def readItems (item : Text → Reading Literal) (s : Text) : Except Fault Items :=
  match readSeparated item s with
  | .ok (values, ',' :: rest) => .ok ⟨values, true, skipSpaces rest⟩
  | .ok (values, rest) => .ok ⟨values, decide (1 < values.length), rest⟩
  | .error fault => .error fault

/-- The items of a sequence after its opening character, up to its closing one. -/
def readEnclosed (item : Text → Reading Literal) (closer : Char) (closing : Complaint) (s : Text) :
    Except Fault Items :=
  match readItems item (skipSpaces s) with
  | .error fault => .error fault
  | .ok items =>
    let place := skipSpaces items.rest
    match place with
    | c :: rest =>
      if c = closer then .ok { items with rest := rest }
      else .error ⟨[⟨.expected closer, place⟩, ⟨closing, place⟩]⟩
    | [] => .error ⟨[⟨.expected closer, place⟩, ⟨closing, place⟩]⟩

/-- A parenthesised sequence; one item without a comma is only that item. -/
def ofParenthesised (items : Items) : Literal :=
  match items.values, items.hasComma with
  | [value], false => value
  | values, _ => .tuple values

/-- A literal at the head of a text.  The fuel bounds the depth of nested sequences. -/
def read : Nat → Text → Reading Literal
  | 0, _ => .miss
  | depth + 1, s =>
    match Numeral.read s with
    | .found numeral rest => .found numeral.toLiteral rest
    | .broken fault => .broken (fault.within s)
    | .miss =>
      match s with
      | '[' :: rest =>
        match readEnclosed (read depth) ']' .closingBracket rest with
        | .ok items => .found (.list items.values) items.rest
        | .error fault => .broken (fault.within s)
      | '(' :: rest =>
        match readEnclosed (read depth) ')' .closingParenthesis rest with
        | .ok items => .found (ofParenthesised items) items.rest
        | .error fault => .broken (fault.within s)
      | c :: rest =>
        if c = '"' ∨ c = '\'' then
          match readQuoted? c rest with
          | some (content, rest) => .found (.str content) rest
          | none => .miss
        else .miss
      | [] => .miss

/-- The literals of a loop list, from the text between its brackets. -/
def readList (input : Text) : Except Fault (List Literal) :=
  match readItems (read (input.length + 1)) (skipSpaces input) with
  | .error fault => .error fault
  | .ok items =>
    match skipSpaces items.rest with
    | [] => .ok items.values
    | rest => .error ⟨[⟨.unread, rest⟩]⟩

end Stencil.Literal

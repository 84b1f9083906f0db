import Stencil.Literal.Reader

/-!
# The grammar of literal lists

A list is derived from its parts: tokens for numbers, fragments for strings, and layouts for the
items of a sequence with the spaces and commas around them.  `Derives text value` says that a text
is a literal with that value, and `DerivesList` says the same of the text between the brackets of a
loop header.  Nothing here mentions how a text is read.
-/

namespace Stencil.Literal

/-! ## Numbers -/

/-- An optional sign. -/
inductive Sign where
  | none
  | plus
  | minus
  deriving DecidableEq

namespace Sign

/-- The sign as it is written. -/
def text : Sign → Text
  | .none => []
  | .plus => ['+']
  | .minus => ['-']

def isNegative (sign : Sign) : Bool := sign = .minus

/-- The integer with a sign and a magnitude. -/
def apply (sign : Sign) (magnitude : Nat) : Int :=
  if sign.isNegative then -(magnitude : Int) else magnitude

end Sign

/-- A run of decimal digits, which may be empty. -/
def IsDigits (text : Text) : Prop := ∀ c ∈ text, c.isDigit = true

/-- At least one decimal digit. -/
structure Digits where
  text : Text
  nonempty : text ≠ []
  digits : IsDigits text

/-- The digits of a number around an optional point. -/
inductive Mantissa where
  /-- Digits without a point. -/
  | whole (front : Digits)
  /-- Digits, a point, and optional digits. -/
  | pointed (front : Digits) (fraction : Text) (fraction_digits : IsDigits fraction)
  /-- A point with digits after it. -/
  | bare (fraction : Digits)

namespace Mantissa

/-- The mantissa as it is written. -/
def text : Mantissa → Text
  | .whole front => front.text
  | .pointed front fraction _ => front.text ++ '.' :: fraction
  | .bare fraction => '.' :: fraction.text

/-- The digits of the mantissa without the point. -/
def digits : Mantissa → Text
  | .whole front => front.text
  | .pointed front fraction _ => front.text ++ fraction
  | .bare fraction => fraction.text

/-- The number of digits after the point. -/
def places : Mantissa → Nat
  | .whole _ => 0
  | .pointed _ fraction _ => fraction.length
  | .bare fraction => fraction.text.length

/-- The mantissa has a point. -/
def hasPoint : Mantissa → Bool
  | .whole _ => false
  | .pointed .. | .bare _ => true

end Mantissa

/-- A decimal exponent. -/
structure Exponent where
  letter : Char
  letter_eq : letter = 'e' ∨ letter = 'E'
  sign : Sign
  digits : Digits

namespace Exponent

/-- The exponent as it is written; no exponent is written as nothing. -/
def text : Option Exponent → Text
  | none => []
  | some exponent => exponent.letter :: (exponent.sign.text ++ exponent.digits.text)

/-- The power of ten that an exponent stands for. -/
def value : Option Exponent → Int
  | none => 0
  | some exponent => exponent.sign.apply (Decimal.toNat exponent.digits.text)

end Exponent

/-- The double nearest to a number that is written with a point or an exponent. -/
def doubleOf (sign : Sign) (mantissa : Mantissa) (exponent : Option Exponent) : Double :=
  Double.ofDecimal sign.isNegative (Decimal.toNat mantissa.digits)
    (Exponent.value exponent - mantissa.places)

/-! ## Strings -/

/-- The characters that stand for another one after a backslash, with what they stand for. -/
def escapes : List (Char × Char) :=
  [('n', '\n'), ('r', '\r'), ('t', '\t'), ('\\', '\\'), ('"', '"'), ('\'', '\'')]

/-- A part of a string between two equal quotes. -/
inductive Fragment (quote : Char) where
  /-- A character that is neither the quote nor a backslash. -/
  | char (c : Char) (not_quote : c ≠ quote) (not_backslash : c ≠ '\\')
  /-- A backslash and a character that stands for another one. -/
  | escape (c decoded : Char) (known : (c, decoded) ∈ escapes)
  /-- A backslash and any other character; both are kept. -/
  | kept (c : Char) (unknown : ∀ decoded, (c, decoded) ∉ escapes)

namespace Fragment

/-- The fragment as it is written. -/
def text {quote : Char} : Fragment quote → Text
  | .char c _ _ => [c]
  | .escape c _ _ => ['\\', c]
  | .kept c _ => ['\\', c]

/-- What the fragment stands for. -/
def content {quote : Char} : Fragment quote → Text
  | .char c _ _ => [c]
  | .escape _ decoded _ => [decoded]
  | .kept c _ => ['\\', c]

end Fragment

/-! ## Sequences -/

/-- Any number of spaces, tabs, carriage returns and line feeds. -/
structure Spaces where
  text : Text
  spaces : ∀ c ∈ text, isSpace c = true

/-- An item of a sequence with the spaces around it. -/
structure Item where
  before : Spaces
  /-- The item without the spaces around it. -/
  text : Text
  /-- What the item stands for. -/
  value : Literal
  after : Spaces

/-- The item with its spaces. -/
def Item.written (item : Item) : Text := item.before.text ++ item.text ++ item.after.text

/-- The inside of a sequence: items separated by commas, an optional comma after them, and spaces
at both ends. -/
structure Layout where
  lead : Spaces
  items : List Item
  /-- The spaces after the last comma, if a comma follows the items. -/
  comma : Option Spaces
  trail : Spaces

namespace Layout

/-- Items separated by commas. -/
def separated (items : List Item) : Text := List.intercalate [','] (items.map Item.written)

/-- The optional comma after the items, with the spaces that follow it. -/
def commaText : Option Spaces → Text
  | none => []
  | some spaces => ',' :: spaces.text

/-- The inside of the sequence as it is written. -/
def text (layout : Layout) : Text :=
  layout.lead.text ++ separated layout.items ++ commaText layout.comma ++ layout.trail.text

/-- What the items stand for. -/
def values (layout : Layout) : List Literal := layout.items.map Item.value

/-- What the sequence stands for between parentheses: exactly one item without a comma is that
item, and anything else is a tuple. -/
def grouped (layout : Layout) : Literal :=
  match layout.items, layout.comma with
  | [item], none => item.value
  | _, _ => .tuple layout.values

end Layout

/-! ## Literals and lists -/

/-- A text is a literal with a value. -/
inductive Derives : Text → Literal → Prop
  /-- An integer: an optional sign and digits. -/
  | integer (sign : Sign) (digits : Digits) :
      Derives (sign.text ++ digits.text) (.ofInt (sign.apply (Decimal.toNat digits.text)))
  /-- A double: a number that has a point or an exponent. -/
  | double (sign : Sign) (mantissa : Mantissa) (exponent : Option Exponent)
      (marked : mantissa.hasPoint = true ∨ exponent.isSome = true) :
      Derives (sign.text ++ mantissa.text ++ Exponent.text exponent)
        (.double (doubleOf sign mantissa exponent))
  /-- A string between single or double quotes. -/
  | string (quote : Char) (quote_eq : quote = '"' ∨ quote = '\'')
      (fragments : List (Fragment quote)) :
      Derives (quote :: (fragments.flatMap Fragment.text ++ [quote]))
        (.str (fragments.flatMap Fragment.content))
  /-- A list between brackets. -/
  | list (layout : Layout) (items : ∀ item ∈ layout.items, Derives item.text item.value) :
      Derives ('[' :: (layout.text ++ [']'])) (.list layout.values)
  /-- A sequence between parentheses. -/
  | group (layout : Layout) (items : ∀ item ∈ layout.items, Derives item.text item.value) :
      Derives ('(' :: (layout.text ++ [')'])) layout.grouped

/-- A text is a list of literals with values. -/
def DerivesList (text : Text) (values : List Literal) : Prop :=
  ∃ layout : Layout, layout.text = text ∧ layout.values = values ∧
    ∀ item ∈ layout.items, Derives item.text item.value

end Stencil.Literal

import Stencil.Text.Basic
import Stencil.Text.Hidden

/-!
# Quoted text

Messages show paths and names between double quotes.  The quote and the backslash are escaped, the
common controls have letters, and every other hidden character is written by its code point.
-/

namespace Stencil.Text

/-- One character as it stands between double quotes. -/
def quotedChar (c : Char) : Text :=
  match c with
  | '\x00' => ['\\', '0']
  | '\t' => ['\\', 't']
  | '\n' => ['\\', 'n']
  | '\r' => ['\\', 'r']
  | '"' => ['\\', '"']
  | '\\' => ['\\', '\\']
  | c =>
    if isHidden c then ['\\', 'u', '{'] ++ Nat.toDigits 16 c.toNat ++ ['}'] else [c]

/-- The text between double quotes, with what cannot be shown escaped. -/
def quoted (text : Text) : Text := '"' :: (text.flatMap quotedChar ++ ['"'])

/-- Several quoted texts as a bracketed list. -/
def quotedList (texts : List Text) : Text :=
  '[' :: (List.intercalate [',', ' '] (texts.map quoted) ++ [']'])

end Stencil.Text

import Stencil.Text.Word

/-!
# Placeholders

A placeholder is a word between double braces.  `Text.fill` replaces the placeholders of a text in
one pass from left to right: a bound name by its value, which is not scanned again, and an unbound
placeholder by itself.
-/

namespace Stencil

/-- A binding of names to texts. -/
abbrev Bindings := List (Text × Text)

/-- The value of a name. -/
def Bindings.value? (bindings : Bindings) (name : Text) : Option Text := bindings.lookup name

namespace Text

/-- The placeholder of a name. -/
def placeholder (name : Text) : Text := ['{', '{'] ++ name ++ ['}', '}']

/-- The name of the placeholder at the head of a text. -/
def placeholderName? : Text → Option Text
  | '{' :: '{' :: rest =>
    match rest.span isWordChar with
    | ([], _) => none
    | (name, '}' :: '}' :: _) => some name
    | _ => none
  | _ => none

/-- `fillFrom bindings skip text` drops `skip` characters of `text`, which belong to a placeholder
already replaced, and fills the placeholders of what follows. -/
def fillFrom (bindings : Bindings) : Nat → Text → Text
  | _, [] => []
  | skip + 1, _ :: rest => fillFrom bindings skip rest
  | 0, c :: rest =>
    match placeholderName? (c :: rest) with
    | some name =>
      (bindings.value? name).getD (placeholder name)
        ++ fillFrom bindings (name.length + 3) rest
    | none => c :: fillFrom bindings 0 rest

/-- The text with every bound placeholder replaced by its value. -/
def fill (text : Text) (bindings : Bindings) : Text := fillFrom bindings 0 text

end Text

end Stencil

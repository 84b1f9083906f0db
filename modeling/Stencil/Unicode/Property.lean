import Stencil.Unicode.Age
import Stencil.Unicode.Break

/-!
# Properties by name

A property of characters is asked for by a name, which stands for a binary property, a category or
a script, or by the name of a property together with a value.  Case, separators and a leading `is`
do not matter.
-/

namespace Stencil.Unicode

/-- A name without a leading `is` and without what does not matter.  After `is` a single `c` is not
taken for the category of that name. -/
def propertyName (name : Text) : Text :=
  match name with
  | i :: s :: rest =>
    if (i = 'i' ∨ i = 'I') ∧ (s = 's' ∨ s = 'S') then
      let short := looseName rest
      if short = ['c'] then ['i', 's', 'c'] else short
    else looseName name
  | name => looseName name

/-- The characters that a name stands for. -/
def property? (name : Text) : Option InversionList :=
  let name := propertyName name
  binaryNamed? name <|> categoryNamed? name <|> scriptNamed? name

/-- The characters for which a property has a value. -/
def propertyValue? (name value : Text) : Option InversionList :=
  let value := propertyName value
  match (propertyName name).string with
  | "gc" | "generalcategory" => categoryNamed? value
  | "sc" | "script" => scriptNamed? value
  | "scx" | "scriptextensions" => extendedScriptNamed? value
  | "age" => ageNamed? value
  | "gcb" | "graphemeclusterbreak" => named? signBreaks value
  | "wb" | "wordbreak" => named? wordBreaks value
  | "sb" | "sentencebreak" => named? sentenceBreaks value
  | _ => none

end Stencil.Unicode

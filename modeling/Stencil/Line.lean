import Stencil.Text.Basic

/-!
# Numbered lines

A template is a list of lines, each with its number counted from one.  The copies that a loop makes
of a line keep its number.
-/

namespace Stencil

/-- A line of a template. -/
structure Line where
  /-- The number of the line in the template, counted from one. -/
  number : Nat
  /-- The line without its line end. -/
  text : Text
  deriving DecidableEq

/-- The lines of a template, numbered from one. -/
def Line.ofText (template : Text) : List Line :=
  (template.lines.zipIdx 1).map fun (text, number) => ⟨number, text⟩

end Stencil

import Stencil.Loop
import Stencil.Section

/-!
# Templates

A template becomes generated text in two passes over its lines: loops are unrolled, then sections
are read.  The text starts with a notice.
-/

namespace Stencil.Template

/-- The notice at the top of every generated text. -/
def banner : Text :=
  ("//\n// NOTICE: This file is generated. Do not edit this file manually, "
    ++ "please edit the template instead.\n//\n").toList

/-- The text that a template stands for. -/
def generate (style : Style) (template : Text) : Except Fault Text := do
  let expanded ← Loop.expand (Line.ofText template)
  let body ← Section.compile style expanded
  return banner ++ body

/-- What is told while a template is turned into text. -/
def journal (style : Style) (template : Text) : List Record :=
  let lines := Line.ofText template
  let expanding := .info s!"Expanding loops over {lines.length} line(s) ..."
  let compiling :=
    match Loop.expand lines with
    | .error _ => []
    | .ok expanded =>
      .info s!"Compiling {expanded.length} line(s) ..."
        :: Section.State.initial.journal style expanded
  expanding :: Loop.State.initial.journal lines ++ compiling

end Stencil.Template

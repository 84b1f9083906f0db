import Stencil.Text.Basic

/-!
# Controls

A control is declared with a name, a base and lines of its own.  It is written as a block: a blank
line, its declaration, an opening line, its own lines, the lines that all controls share, and a
closing line.
-/

namespace Stencil

/-- How the block of a control is laid out. -/
structure Style where
  /-- The declaration line, in which the name and the base are filled. -/
  declaration : Text
  /-- The line that opens the block. -/
  opening : Text
  /-- The line that closes the block. -/
  closing : Text
  deriving DecidableEq

namespace Style

/-- Where the name stands in a declaration line. -/
def nameMark : Text := "\x7bname\x7d".toList

/-- Where the base stands in a declaration line. -/
def baseMark : Text := "\x7bbase\x7d".toList

/-- A public class between braces. -/
def standard : Style where
  declaration := "    public class \x7bname\x7d : \x7bbase\x7d".toList
  opening := "    \x7b".toList
  closing := "    \x7d".toList

end Style

/-- A control declared in a types section. -/
structure Control where
  /-- The name of the control. -/
  name : Text
  /-- The name that the control builds on. -/
  base : Text
  /-- The lines of the control, with line feeds between them. -/
  body : Text
  deriving DecidableEq

namespace Control

/-- The declaration line of a control: the name is filled first, the base second. -/
def declaration (control : Control) (style : Style) : Text :=
  (style.declaration.replaceAll Style.nameMark control.name).replaceAll Style.baseMark control.base

/-- A text as lines of a block; an empty text has no lines. -/
def block (text : Text) : Text := if text.isEmpty then [] else text ++ ['\n']

/-- The block of a control. -/
def render (control : Control) (copyBody : Text) (style : Style) : Text :=
  ['\n'] ++ control.declaration style ++ ['\n']
    ++ style.opening ++ ['\n']
    ++ block control.body
    ++ block copyBody
    ++ style.closing ++ ['\n']

/-- The blocks of several controls in order. -/
def renderAll (controls : List Control) (copyBody : Text) (style : Style) : Text :=
  controls.flatMap fun control => control.render copyBody style

end Control

end Stencil

import Stencil.Literal.Fault

/-!
# Faults of a template

A template that cannot be turned into text is answered by one fault, which carries the number of
the line that is to blame.  `Fault.message` words it.
-/

namespace Stencil

/-- The two kinds of section. -/
inductive SectionKind where
  /-- A section that declares controls. -/
  | types
  /-- The section with the lines that all controls share. -/
  | copy
  deriving DecidableEq

/-- The name of a kind of section in messages. -/
def SectionKind.name : SectionKind → String
  | .types => "types"
  | .copy => "control copy"

/-- Why a template cannot be turned into text. -/
inductive Fault where
  /-- A line has the special mark and is no directive. -/
  | malformedDirective (line : Nat) (content : Text)
  /-- The list of a loop header cannot be read. -/
  | invalidList (line : Nat) (list : Text) (reason : Literal.Fault)
  /-- A loop is closed where none is open. -/
  | unmatchedEnd (line : Nat) (content : Text)
  /-- A loop is opened inside another one. -/
  | nestedLoop (line openedAt : Nat) (content : Text)
  /-- A loop is still open at the end. -/
  | unclosedLoop (line : Nat)
  /-- An element does not have as many values as the loop has variables. -/
  | loopArity (line index expected found : Nat)
  /-- A section is still open at the end. -/
  | unclosedSection (kind : SectionKind) (line : Nat)
  deriving DecidableEq

/-- The wording of a fault. -/
def Fault.message : Fault → String
  | .malformedDirective line content =>
    s!"Malformed directive at line {line}: {content.string}"
  | .invalidList line list reason =>
    s!"Invalid foreach list at line {line}: {(reason.report list).string}"
  | .unmatchedEnd line content =>
    s!"endforeach without matching foreach at line {line}: {content.string}"
  | .nestedLoop line openedAt content =>
    s!"Nested foreach is not supported (line {line}, loop opened at line {openedAt}): "
      ++ content.string
  | .unclosedLoop line => s!"foreach opened at line {line} is never closed"
  | .loopArity line index expected found =>
    s!"foreach at line {line} declares {expected} variable(s) but element {index} "
      ++ s!"provides {found}"
  | .unclosedSection kind line =>
    s!"{kind.name} section opened at line {line} is never closed"

end Stencil

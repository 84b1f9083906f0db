import Stencil.Record
import Stencil.Regex.Match
import Stencil.Regex.Reader

/-!
# Patterns for job names

A pattern that starts with `regex:` is a regular expression searched in the name; a pattern with
exactly one star stands for every name that starts with what is before the star and ends with what
is after it; any other pattern stands for itself.  `Selection` combines patterns that names have to
match with patterns that they must not match.
-/

namespace Stencil

namespace Pattern

/-- The start of a pattern that is a regular expression. -/
def regexMark : Text := "regex:".toList

/-- The text starts with one word and ends with another, which do not overlap. -/
def hasEnds (name start stop : Text) : Bool :=
  start.byteSize + stop.byteSize ≤ name.byteSize && start.isPrefixOf name && stop.isSuffixOf name

/-- A pattern without regular expression matches a name. -/
def globMatches (pattern name : Text) : Bool :=
  match pattern.splitFirst? '*' with
  | some (start, stop) => if stop.contains '*' then name == pattern else hasEnds name start stop
  | none => name == pattern

/-- A pattern matches a name; an expression that cannot be used matches none. -/
def matchesName (pattern name : Text) : Bool :=
  match regexMark.isPrefixOf? pattern with
  | some expression =>
    match Regex.read expression with
    | .ok expression => expression.isMatch name
    | .error _ => false
  | none => globMatches pattern name

/-- What is told when a pattern is tried. -/
def journal (pattern : Text) : List Record :=
  match regexMark.isPrefixOf? pattern with
  | some expression =>
    match Regex.read expression with
    | .ok _ => []
    | .error fault =>
      [.warn s!"Invalid filter regex '{Text.string expression}': {fault.message}"]
  | none => []

/-- What is told while patterns are tried up to the first that matches. -/
def journalUntilMatch (name : Text) : List Text → List Record
  | [] => []
  | pattern :: rest =>
    journal pattern ++ if matchesName pattern name then [] else journalUntilMatch name rest

end Pattern

/-- Patterns that select names. -/
structure Selection where
  /-- A selected name matches one of these, if there are any. -/
  including : List Text
  /-- A selected name matches none of these. -/
  excluding : List Text

namespace Selection

/-- The name matches no pattern although it has to match one. -/
def misses (selection : Selection) (name : Text) : Bool :=
  !selection.including.isEmpty && !selection.including.any (Pattern.matchesName · name)

/-- The name is not selected. -/
def rejects (selection : Selection) (name : Text) : Bool :=
  selection.misses name || selection.excluding.any (Pattern.matchesName · name)

/-- What is told while a name is tried. -/
def journal (selection : Selection) (name : Text) : List Record :=
  Pattern.journalUntilMatch name selection.including
    ++ if selection.misses name then [] else Pattern.journalUntilMatch name selection.excluding

end Selection

end Stencil

import Stencil.Regex.Basic
import Stencil.Regex.CharSet
import Stencil.Text.Word

/-!
# Searching for regular expressions

An expression is searched in a subject: it matches when some part of the subject, with what stands
around it, is in its language.  `Regex.run` maps the set of places where a match may stand so far
to the set of places where it may stand after the expression, so a search costs no backtracking.
-/

namespace Stencil.Regex

/-- The characters before and after a place. -/
structure Gap where
  /-- The character before the place. -/
  before : Option Char
  /-- The character after the place. -/
  after : Option Char

namespace Gap

/-- The places of a subject after a given character. -/
def ofTail (before : Option Char) : Text → List Gap
  | [] => [⟨before, none⟩]
  | c :: rest => ⟨before, some c⟩ :: ofTail (some c) rest

/-- The places of a subject from its start to its end. -/
def ofText (subject : Text) : List Gap := ofTail none subject

/-- A word character stands before the place. -/
def afterWord (gap : Gap) (unicode : Bool) : Bool :=
  gap.before.any (if unicode then wordTable else asciiWord).containsChar

/-- A word character stands after the place. -/
def beforeWord (gap : Gap) (unicode : Bool) : Bool :=
  gap.after.any (if unicode then wordTable else asciiWord).containsChar

end Gap

/-- A condition holds at a place. -/
def Assertion.holds (gap : Gap) : Assertion → Bool
  | .textStart => gap.before.isNone
  | .textEnd => gap.after.isNone
  | .lineStart => gap.before.isNone || gap.before == some '\n'
  | .lineEnd => gap.after.isNone || gap.after == some '\n'
  | .returnStart =>
    gap.before.isNone || gap.before == some '\n'
      || (gap.before == some '\r' && gap.after != some '\n')
  | .returnEnd =>
    gap.after.isNone || gap.after == some '\r'
      || (gap.after == some '\n' && gap.before != some '\r')
  | .boundary unicode => gap.afterWord unicode != gap.beforeWord unicode
  | .noBoundary unicode => gap.afterWord unicode == gap.beforeWord unicode
  | .wordStart unicode => !gap.afterWord unicode && gap.beforeWord unicode
  | .wordEnd unicode => gap.afterWord unicode && !gap.beforeWord unicode
  | .wordStartHalf unicode => !gap.afterWord unicode
  | .wordEndHalf unicode => !gap.beforeWord unicode

/-- A set of places of a subject, one flag for each place. -/
abbrev Places := List Bool

namespace Places

/-- The places of either set. -/
def union (a b : Places) : Places := List.zipWith (· || ·) a b

/-- The places after one character with a property. -/
def step (subject : Text) (property : Char → Bool) (places : Places) : Places :=
  false :: List.zipWith (fun here c => here && property c) places subject

/-- A step taken so many times, or until it changes nothing. -/
def iterate (step : Places → Places) : Nat → Places → Places
  | 0, places => places
  | count + 1, places =>
    let next := step places
    if next == places then places else iterate step count next

end Places

/-- The places after an expression, from the places before it. -/
def run (subject : Text) (gaps : List Gap) : Regex → Places → Places
  | .empty, places => places
  | .literal text, places =>
    text.foldl (fun places c => Places.step subject (· == c) places) places
  | .set members, places => Places.step subject members.containsChar places
  | .assertion condition, places =>
    List.zipWith (fun here gap => here && condition.holds gap) places gaps
  | .group _ body, places => run subject gaps body places
  | .seq first rest, places => run subject gaps rest (run subject gaps first places)
  | .alt first rest, places =>
    Places.union (run subject gaps first places) (run subject gaps rest places)
  | .repeated _ least most body, places =>
    let extend := fun places => Places.union places (run subject gaps body places)
    let further := match most with
      | some most => most - least
      | none => gaps.length
    Places.iterate extend further (Places.iterate (run subject gaps body) least places)

/-- The expression matches some part of the subject. -/
def isMatch (expression : Regex) (subject : Text) : Bool :=
  let gaps := Gap.ofText subject
  (run subject gaps expression (gaps.map fun _ => true)).any id

end Stencil.Regex

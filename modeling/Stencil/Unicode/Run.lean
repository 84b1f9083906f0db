import Stencil.Number.Decimal
import Stencil.Text.InversionList

/-!
# Tables of code points

A table of the Unicode standard is kept as text.  A property with many values cuts the code points
into runs: each run is written as its label, an upper-case letter with lower-case letters after it,
and its length unless that is one.  A set of code points is written as the distances between the
points where membership changes.
-/

namespace Stencil.Unicode

/-- Some consecutive code points with one label. -/
structure Run where
  /-- What the code points have in common. -/
  label : Text
  /-- The number of code points. -/
  length : Nat

namespace Run

/-- The runs after a run that is read in part: its label in reverse, and its length so far. -/
def readFrom (label : Text) (length : Nat) : Text → List Run
  | [] => [⟨label.reverse, max length 1⟩]
  | c :: rest =>
    if c.isUpper then ⟨label.reverse, max length 1⟩ :: readFrom [c] 0 rest
    else if c.isDigit then readFrom label (10 * length + (c.toNat - 48)) rest
    else readFrom (c :: label) length rest

/-- The runs of a text. -/
def ofText : Text → List Run
  | [] => []
  | c :: rest => readFrom [c] 0 rest

/-- The bounds of the runs with some labels, from a code point on that is outside or inside. -/
def boundsFrom (labels : List Text) (start : Nat) (inside : Bool) : List Run → List Nat
  | [] => if inside then [start] else []
  | run :: rest =>
    let here := labels.contains run.label
    let later := boundsFrom labels (start + run.length) here rest
    if here = inside then later else start :: later

/-- The code points of the runs with some labels; the first run starts at zero. -/
def points (runs : List Run) (labels : List String) : InversionList :=
  ⟨boundsFrom (labels.map String.toList) 0 false runs⟩

end Run

/-- The sums of the first number, the first two numbers, and so on, from a start. -/
def sums (start : Nat) : List Nat → List Nat
  | [] => []
  | n :: rest => (start + n) :: sums (start + n) rest

/-- The set whose membership changes at given distances. -/
def ofDistances (text : String) : InversionList :=
  ⟨sums 0 ((text.toList.splitOn ' ').map Decimal.toNat)⟩

/-- A name as it is compared: without separators and in lower case. -/
def looseName (name : Text) : Text :=
  (name.filter fun c => c != ' ' && c != '_' && c != '-' && c.toNat < 128).map Char.toLower

/-- The value with a loose name in a table, where each value has a short and a long name. -/
def named? {α : Type} (table : List (String × String × α)) (name : Text) : Option α :=
  (table.find? fun (short, long, _) =>
    looseName short.toList == name || looseName long.toList == name).map fun (_, _, value) => value

end Stencil.Unicode

import Stencil.Regex.Escape

/-!
# Bracket classes

A bracket class is a union of characters, ranges, sets and other classes, or the result of set
operations on such unions, from left to right.  The case variants of a class are added before it is
complemented or combined.  The depth of a class counts how deeply its brackets, unions and
operations are nested.
-/

namespace Stencil.Regex

/-- The operations between the parts of a class. -/
inductive SetOperation where
  /-- Both. -/
  | inter
  /-- The first without the second. -/
  | diff
  /-- Exactly one. -/
  | symmDiff

/-- The result of an operation. -/
def SetOperation.apply : SetOperation → InversionList → InversionList → InversionList
  | .inter => InversionList.inter
  | .diff => InversionList.diff
  | .symmDiff => InversionList.symmDiff

/-- A set with its depth. -/
structure DeepSet where
  /-- The members. -/
  members : InversionList
  /-- How deeply it is nested. -/
  depth : Nat

/-- A class whose closing bracket has not been seen. -/
structure OpenClass where
  /-- The class is complemented. -/
  negated : Bool
  /-- What stands before the last operation, with that operation. -/
  left : Option (SetOperation × DeepSet)
  /-- The number of items since. -/
  count : Nat
  /-- The union of the items since, with the depth of the deepest one. -/
  items : DeepSet

namespace OpenClass

/-- A class without items. -/
def start (negated : Bool) : OpenClass := ⟨negated, none, 0, ⟨.none, 0⟩⟩

/-- The class with one more item. -/
def add (cls : OpenClass) (item : DeepSet) : OpenClass :=
  { cls with
    count := cls.count + 1
    items := ⟨cls.items.members.union item.members, max cls.items.depth item.depth⟩ }

/-- The class with one more set that is no class itself. -/
def addSet (cls : OpenClass) (members : InversionList) : OpenClass := cls.add ⟨members, 0⟩

/-- The set of everything seen. -/
def value (flags : Flags) (cls : OpenClass) : DeepSet :=
  let depth := cls.items.depth + if 2 ≤ cls.count then 1 else 0
  match cls.left with
  | none => ⟨cls.items.members, depth⟩
  | some (operation, left) =>
    ⟨operation.apply (flags.fold left.members) (flags.fold cls.items.members),
      max left.depth depth + 1⟩

/-- The class after an operation sign. -/
def operate (flags : Flags) (cls : OpenClass) (operation : SetOperation) : OpenClass :=
  { OpenClass.start cls.negated with left := some (operation, cls.value flags) }

/-- The set of a closed class. -/
def close? (flags : Flags) (cls : OpenClass) : Option DeepSet := do
  let value := cls.value flags
  some ⟨← flags.foldCompl? cls.negated value.members, value.depth + 1⟩

end OpenClass

/-- Dashes at the start of a class stand for themselves. -/
def addDashes (flags : Flags) : Nat → OpenClass → Text → OpenClass × Text
  | fuel + 1, cls, '-' :: rest => addDashes flags fuel (cls.addSet (.single '-')) (flags.skip rest)
  | _, cls, text => (cls, text)

/-- The start of a class after its opening bracket: an optional complement sign, dashes, and a
closing bracket that stands for itself. -/
def openClass (flags : Flags) (text : Text) : OpenClass × Text :=
  let (negated, text) := match flags.skip text with
    | '^' :: rest => (true, flags.skip rest)
    | text => (false, text)
  match text with
  | ']' :: rest => ((OpenClass.start negated).addSet (.single ']'), rest)
  | text => addDashes flags text.length (.start negated) text

/-- A named class between colons, after its opening bracket: whether it is complemented, and its
members. -/
def readNamed? : Text → Option (Bool × InversionList × Text)
  | ':' :: rest =>
    let (negated, rest) := match rest with
      | '^' :: rest => (true, rest)
      | _ => (false, rest)
    match rest.span (· != ':') with
    | (name, ':' :: ']' :: rest) => (namedSet? name).map fun members => (negated, members, rest)
    | _ => none
  | _ => none

/-- One character or escape of a class. -/
def readClassItem? (flags : Flags) : Text → Option (Primitive × Text)
  | [] => none
  | '\\' :: rest => readEscape? flags rest
  | c :: rest => some (.literal c, rest)

/-- A character of a class; without Unicode it has to be ASCII. -/
def isClassChar (flags : Flags) (c : Char) : Bool := flags.unicode || c.toNat < 128

/-- An item by itself; a condition is no item. -/
def itemSet? (flags : Flags) : Primitive → Option InversionList
  | .literal c => if isClassChar flags c then some (.single c) else none
  | .set members => some members
  | .assertion _ => none

/-- The range between two items, which have to be characters. -/
def rangeSet? (flags : Flags) : Primitive → Primitive → Option InversionList
  | .literal first, .literal last =>
    if first ≤ last ∧ isClassChar flags last then some (.range first.toNat last.toNat) else none
  | _, _ => none

/-- An item or a range of a class.  A dash before a dash or before the closing bracket makes no
range. -/
def readClassRange? (flags : Flags) (text : Text) : Option (InversionList × Text) := do
  let (first, rest) ← readClassItem? flags text
  match flags.skip rest with
  | [] => none
  | '-' :: after =>
    match flags.skip after with
    | [] => none
    | next :: others =>
      if next = ']' ∨ next = '-' then some (← itemSet? flags first, '-' :: after)
      else
        let (last, rest) ← readClassItem? flags (next :: others)
        some (← rangeSet? flags first last, rest)
  | rest => some (← itemSet? flags first, rest)

/-- The rest of a class and of the classes around it.  The fuel bounds the number of items. -/
def readClass? (flags : Flags) :
    Nat → List OpenClass → OpenClass → Text → Option (DeepSet × Text)
  | 0, _, _, _ => none
  | fuel + 1, outer, cls, text =>
    match flags.skip text with
    | [] => none
    | '[' :: rest =>
      match readNamed? rest with
      | some (negated, members, rest) => do
        readClass? flags fuel outer (cls.addSet (← flags.foldCompl? negated members)) rest
      | none =>
        let (inner, rest) := openClass flags rest
        readClass? flags fuel (cls :: outer) inner rest
    | ']' :: rest => do
      let value ← cls.close? flags
      match outer with
      | [] => some (value, rest)
      | parent :: outer => readClass? flags fuel outer (parent.add value) rest
    | '&' :: '&' :: rest => readClass? flags fuel outer (cls.operate flags .inter) rest
    | '-' :: '-' :: rest => readClass? flags fuel outer (cls.operate flags .diff) rest
    | '~' :: '~' :: rest => readClass? flags fuel outer (cls.operate flags .symmDiff) rest
    | text => do
      let (members, rest) ← readClassRange? flags text
      readClass? flags fuel outer (cls.addSet members) rest

end Stencil.Regex
